import PayFormula.Text.Bands

/-!
# Blank Characters

The characters that separate tokens and may surround a number.  The set is larger than the ASCII
blanks: it holds the four information separators, the next-line control, the no-break space and
the wide spaces of typography.
-/

namespace PayFormula.Text

def blankBands : Bands :=
  [(0x9, 0xD), (0x1C, 0x20), (0x85, 0x85), (0xA0, 0xA0), (0x1680, 0x1680), (0x2000, 0x200A),
   (0x2028, 0x2029), (0x202F, 0x202F), (0x205F, 0x205F), (0x3000, 0x3000)]

/-- A character that only separates. -/
def isBlank (c : Char) : Bool :=
  blankBands.has c.toNat

/-- Drop the blanks at the front of a text. -/
def trimStart (cs : List Char) : List Char :=
  cs.dropWhile isBlank

/-- Drop the blanks at both ends of a text. -/
def trim (s : String) : String :=
  String.ofList (trimStart (trimStart s.toList).reverse).reverse

end PayFormula.Text

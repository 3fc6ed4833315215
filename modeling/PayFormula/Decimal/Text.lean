import PayFormula.Decimal.Basic
import PayFormula.Text.Digit

/-!
# Decimal Text

A number is written with an optional minus sign, its whole part and, after a point, as many
fraction digits as it has places; it never takes an exponent.  The plain form writes every zero
as a single `0`, the fixed form keeps the places of a zero too.

Reading is forgiving: all characters but digits, points and minus signs are passed over, and what
is left counts as zero when it is still no number.
-/

namespace PayFormula

namespace Decimal

open Text

/-! ## Writing -/

/-- The last `places` digits of a number below `10 ^ places`, with zeros in front. -/
def fractionDigits (places n : Nat) : List Char :=
  List.leftpad places '0' (Nat.toDigits 10 n)

/-- The digits of `n / 10 ^ places`. -/
def unsignedChars (n places : Nat) : List Char :=
  Nat.toDigits 10 (n / tenTo places) ++
    if places = 0 then [] else '.' :: fractionDigits places (n % tenTo places)

/-- A number with all its places, a zero included. -/
def fixedChars (d : Decimal) : List Char :=
  (if d.isNegative then ['-'] else []) ++ unsignedChars d.coefficient.natAbs d.places

def fixed (d : Decimal) : String := String.ofList d.fixedChars

/-- A number with all its places; a zero has none. -/
def plain (d : Decimal) : String := if d.isZero then "0" else d.fixed

/-! ## Reading -/

/-- The number that decimal digits of any script spell. -/
def digitsValue (digits : List Char) : Nat :=
  digits.foldl (fun n c ↦ 10 * n + (digitValue? c).getD 0) 0

/-- Digits with at most one point among them, and at least one digit. -/
def ofUnsigned? (cs : List Char) : Option Decimal :=
  let whole := cs.takeWhile isDigit
  match cs.dropWhile isDigit with
  | [] => if whole.isEmpty then none else some ⟨digitsValue whole, 0⟩
  | '.' :: fraction =>
    if fraction.all isDigit && !(whole.isEmpty && fraction.isEmpty) then
      some ⟨digitsValue (whole ++ fraction), fraction.length⟩
    else none
  | _ => none

/-- The number that a text spells out exactly: one minus sign may stand in front. -/
def ofChars? : List Char → Option Decimal
  | '-' :: cs => (ofUnsigned? cs).map neg
  | cs => ofUnsigned? cs

/-- The characters that a forgiving reading keeps. -/
def isNumeric (c : Char) : Bool := isDigit c || c == '.' || c == '-'

/-- The number in a text, zero when there is none. -/
def ofText (s : String) : Decimal := (ofChars? (s.toList.filter isNumeric)).getD 0

end Decimal

end PayFormula

/-!
# Parts of a Text

Occurrences of a part are replaced from left to right and do not overlap.  The empty text occurs
before every character and at the end.
-/

namespace PayFormula.Text

/-- `part` occurs somewhere in a text. -/
def occursIn (part : List Char) : List Char → Bool
  | [] => part.isEmpty
  | c :: cs => part.isPrefixOf (c :: cs) || occursIn part cs

def contains (part s : String) : Bool := occursIn part.toList s.toList

/-- Replace `old`, which is not empty, after passing over `skip` characters of an occurrence. -/
def replaceFrom (old new : List Char) (skip : Nat) : List Char → List Char
  | [] => []
  | c :: cs =>
    match skip with
    | skip + 1 => replaceFrom old new skip cs
    | 0 =>
      if old.isPrefixOf (c :: cs) then new ++ replaceFrom old new (old.length - 1) cs
      else c :: replaceFrom old new 0 cs

def replaceChars (old new cs : List Char) : List Char :=
  if old.isEmpty then cs.flatMap (fun c ↦ new ++ [c]) ++ new else replaceFrom old new 0 cs

def replace (old new s : String) : String :=
  String.ofList (replaceChars old.toList new.toList s.toList)

end PayFormula.Text

import PayFormula.Decimal.Rounding

/-!
# Grouped Numbers

The form for readers: whole digits in groups of three, and a fraction of fixed length after a
mark of the reader's choice.
-/

namespace PayFormula.Decimal

/-- Split digits so that every group but the first has three. -/
def groupsOfThree (digits : List Char) : List (List Char) :=
  if digits.length ≤ 3 then [digits]
  else groupsOfThree (digits.take (digits.length - 3)) ++ [digits.drop (digits.length - 3)]
termination_by digits.length
decreasing_by simp; omega

/-- `d` rounded to `decimals` places, grouped by `groupMark` and divided by `pointMark`. -/
def grouped (decimals : Nat) (pointMark groupMark : String) (d : Decimal) : String :=
  let rounded := d.round .halfUp decimals
  let magnitude := rounded.coefficient.natAbs
  let groups := groupsOfThree (Nat.toDigits 10 (magnitude / tenTo decimals))
  let fraction :=
    if decimals = 0 then ""
    else pointMark ++ String.ofList (fractionDigits decimals (magnitude % tenTo decimals))
  (if rounded.isNegative then "-" else "") ++
    groupMark.intercalate (groups.map String.ofList) ++ fraction

end PayFormula.Decimal

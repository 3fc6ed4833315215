import PayFormula.Amount.Basic
import PayFormula.Decimal.Grouped
import PayFormula.Text.Replace

/-!
# Amounts for Readers

An amount is shown with its digits in groups, under marks that the caller chooses, and read back
from that form.
-/

namespace PayFormula.Amount

/-! ## Showing -/

/-- The mark between groups of digits. -/
def groupMark : Value → Except Fault String
  | .text mark => .ok mark
  | value => badData (.noAttribute value.typeName "join")

/-- The mark before a fraction. -/
def pointMark : Value → Except Fault String
  | .text mark => .ok mark
  | value => badData (.notDefined "+" value.typeName "str")

/-- A number of fraction digits that a fraction can be filled up to. -/
def checkWidth : Value → Except Fault Unit
  | .int _ | .bool _ => .ok ()
  | value => badData (.notAnInteger value.typeName)

/-- The number rounded to `decimals` digits and grouped.  The mark before the fraction matters only
where there is one. -/
def format (number decimals point group : Value) : Except Fault String := do
  let places ← precision decimals
  let group ← groupMark group
  match ← decimals.sideOfZero (.unordered ">" decimals.typeName "int") with
  | some .gt =>
    checkWidth decimals
    return number.toDecimal.grouped places (← pointMark point) group
  | _ => return number.toDecimal.grouped 0 "" group

/-! ## Reading -/

/-- A mark that is replaced in a text. -/
def replacedMark : Value → Except Fault String
  | .text mark => .ok mark
  | value => badData (.notAText value.typeName)

/-- The type that a date cannot take for a year when it is asked to replace `old` by a text. -/
def yearFault (old : Value) : DataFault :=
  match old with
  | .int _ | .bool _ => .notAnInteger "str"
  | old => .notAnInteger old.typeName

/-- The amount in a formatted text. -/
def parse (formatted point group : Value) : Except Fault String :=
  match formatted with
  | .text s => do
    let ungrouped := Text.replace (← replacedMark group) "" s
    let point ← replacedMark point
    let plain := if point = "." then ungrouped else Text.replace point "." ungrouped
    return (Decimal.ofText plain).plain
  | .date _ => badData (yearFault group)
  | value => badData (.noAttribute value.typeName "replace")

end PayFormula.Amount

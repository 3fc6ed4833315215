import PayFormula.Decimal.Scaled
import PayFormula.Decimal.Rounding

/-!
# Allocation

An amount is split in proportion to weights so that nothing is lost: each share is rounded, and
what rounding leaves over, of either sign, goes to the first of the largest parts.
-/

namespace PayFormula.Decimal

/-- The exact sum of a list. -/
def total (values : List Decimal) : Decimal := values.foldl add 0

/-- Add `extra` to the first of the largest members. -/
def addToGreatest (extra : Decimal) (parts : List Decimal) : List Decimal :=
  match parts with
  | [] => []
  | first :: rest =>
    let target := greatest first rest
    let before := parts.takeWhile (·.cmp target != .eq)
    match parts.dropWhile (·.cmp target != .eq) with
    | [] => parts
    | found :: after => before ++ (found + extra) :: after

/-- The rounded share of one weight.  Ten digits more than are kept decide the rounding. -/
def share (mode : RoundingMode) (places : Nat) (target weight whole : Decimal) : Decimal :=
  (quotientAt (defaultScale + places) (target * weight) whole).round mode places

/-- One part of `amount` for each weight, all with `places` digits. -/
def allocate (mode : RoundingMode) (places : Nat) (amount : Decimal) (weights : List Decimal) :
    List Decimal :=
  let target := amount.round mode places
  let whole := total weights
  if whole.isZero then weights.map fun _ ↦ ⟨0, places⟩
  else
    let shares := weights.map fun weight ↦ share mode places target weight whole
    let left := target - total shares
    (if left.isZero then shares else addToGreatest left shares).map (·.truncateAt places)

end PayFormula.Decimal

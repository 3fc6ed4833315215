import PayFormula.Decimal.Scaled
import PayFormula.Value.Shape

/-!
# Scales

A scale says after how many places a result is cut.  Callers give it as a value: null means the
default, and whatever is below zero counts as zero.  A decimal number will do for a cut when it is
written as a plain integer, but no quotient is taken to it; a double will not do at all.
-/

namespace PayFormula.Amount

/-- A scale that is not below zero. -/
inductive Scale where
  | places (n : Nat)
  | decimal (x : Scientific)
  | double
  deriving DecidableEq, Repr

namespace Scale

def ofValue : Value → Except Fault Scale
  | .null => .ok (places defaultScale)
  | .int n => .ok (places n.toNat)
  | .bool b => .ok (places (if b then 1 else 0))
  | value => do
    match ← value.sideOfZero (.unordered ">" "int" value.typeName), value with
    | some .lt, _ => return places 0
    | _, .decimal x => return decimal x
    | _, _ => return double

/-- The places after which a result is cut. -/
def cut : Scale → Except Fault Nat
  | places n => .ok n
  | decimal (.finite _ digits 0) => .ok digits
  | decimal _ => badData .noDecimalResult
  | double => badData (.notADecimal "float")

/-- The largest power of ten among decimal numbers of ordinary precision. -/
def greatestPower : Nat := 999999

/-- The places of a quotient. -/
def quotientPlaces (scale : Scale) : Except Fault Nat := do
  let n ← scale.cut
  match scale with
  | decimal _ =>
    if greatestPower < n then badData .decimalTooLarge
    else badData (.notDefined "*" "Fraction" "decimal.Decimal")
  | _ => return n

end Scale

/-- The places after which a scale cuts. -/
def cutPlaces (scale : Value) : Except Fault Nat := do (← Scale.ofValue scale).cut

/-- The places of a quotient by `divisor`.  There is no quotient to take when the divisor is cut to
zero. -/
def quotientPlaces (scale : Value) (divisor : Decimal) : Except Fault Nat := do
  let scale ← Scale.ofValue scale
  let n ← scale.cut
  if divisor.isZeroAt n then return n else scale.quotientPlaces

end PayFormula.Amount

import PayFormula.Amount.Scale
import PayFormula.Decimal.Allocation
import PayFormula.Decimal.Proration
import PayFormula.Decimal.Rates

/-!
# Amounts as Text

Decimal arithmetic for callers who hold amounts as loosely typed values and want text back.  Each
function reads its operands forgivingly, computes at a scale and writes the result; a result that
does not exist is `none`.  A scale is looked at only where the computation comes to it.
-/

namespace PayFormula.Amount

/-! ## Arithmetic -/

def add (a b scale : Value) : Except Fault String := do
  return (a.toDecimal.addAt (← cutPlaces scale) b.toDecimal).plain

def sub (a b scale : Value) : Except Fault String := do
  return (a.toDecimal.subAt (← cutPlaces scale) b.toDecimal).plain

def mul (a b scale : Value) : Except Fault String := do
  return (a.toDecimal.mulAt (← cutPlaces scale) b.toDecimal).plain

def div (a b scale : Value) : Except Fault (Option String) := do
  let places ← quotientPlaces scale b.toDecimal
  return (a.toDecimal.divAt? places b.toDecimal).map Decimal.plain

/-- A quotient whose divisor must not be zero. -/
def divOrFail (a b scale : Value) : Except Fault String := do
  match ← div a b scale with
  | some quotient => return quotient
  | none => .error .zeroDivisor

def mod (a b scale : Value) : Except Fault (Option String) := do
  return (a.toDecimal.modAt? (← cutPlaces scale) b.toDecimal).map Decimal.plain

/-- The places of a power, which do not matter when it is one or does not exist. -/
def powerPlaces (scale : Value) (base : Decimal) : Int → Except Fault Nat
  | 0 => .ok defaultScale
  | .ofNat _ => cutPlaces scale
  | .negSucc n =>
    if base.isZero then .ok defaultScale else quotientPlaces scale (base.pow (n + 1))

def power (base exponent scale : Value) : Except Fault (Option String) := do
  let n ← exponent.count
  let places ← powerPlaces scale base.toDecimal n
  return (base.toDecimal.powAt? places n).map Decimal.plain

def sqrt (number scale : Value) : Except Fault (Option String) := do
  let scale ← Scale.ofValue scale
  if number.toDecimal.isNegative then return none
  else return (number.toDecimal.sqrtAt? (← scale.cut)).map Decimal.plain

def absolute (number scale : Value) : Except Fault String := do
  return (number.toDecimal.absAt (← cutPlaces scale)).plain

def negate (number scale : Value) : Except Fault String := do
  return (number.toDecimal.negAt (← cutPlaces scale)).plain

/-! ## Comparison -/

def compare (a b scale : Value) : Except Fault Ordering := do
  return a.toDecimal.compareAt (← cutPlaces scale) b.toDecimal

/-- The smallest of the values that are present. -/
def minimum (values : List Value) : String :=
  match values.filterMap Value.toDecimal? with
  | [] => "0"
  | first :: rest => (Decimal.least first rest).plain

/-- The largest of the values that are present. -/
def maximum (values : List Value) : String :=
  match values.filterMap Value.toDecimal? with
  | [] => "0"
  | first :: rest => (Decimal.greatest first rest).plain

/-- A value between two bounds, each of which may be left open. -/
def clamp (value low high scale : Value) : Except Fault String :=
  if low.isNull && high.isNull then .ok value.normalize
  else do
    let places ← cutPlaces scale
    return (value.toDecimal.clampAt places low.toDecimal? high.toDecimal?).plain

/-! ## Rounding -/

/-- A number of fraction digits; negative counts as none. -/
def precision (value : Value) : Except Fault Nat := do
  return (← value.count).toNat

def roundBy (mode : RoundingMode) (number digits : Value) : Except Fault String := do
  return (number.toDecimal.round mode (← precision digits)).fixed

def round (number digits mode : Value) : Except Fault String :=
  roundBy (.ofText mode.toText) number digits

/-! ## Rates -/

def percent (value rate scale : Value) : Except Fault String := do
  return (value.toDecimal.percentAt (← quotientPlaces scale 100) rate.toDecimal).plain

def percentChange (old new scale : Value) : Except Fault (Option String) := do
  let places ← quotientPlaces scale old.toDecimal
  return (old.toDecimal.percentChangeAt? places new.toDecimal).map Decimal.plain

def applyDiscount (value factor scale : Value) : Except Fault String := do
  return (value.toDecimal.discountedAt (← cutPlaces scale) factor.toDecimal).plain

def discountAmount (value factor scale : Value) : Except Fault String := do
  return (value.toDecimal.discountAt (← cutPlaces scale) factor.toDecimal).plain

def taxFromNet (net rate scale : Value) : Except Fault String := do
  return (net.toDecimal.taxOfNetAt (← quotientPlaces scale 100) rate.toDecimal).plain

def netFromGross (gross rate scale : Value) : Except Fault (Option String) := do
  let places ← quotientPlaces scale 100
  return (gross.toDecimal.netOfGrossAt? places rate.toDecimal).map Decimal.plain

def grossFromNet (net rate scale : Value) : Except Fault String := do
  return (net.toDecimal.grossOfNetAt (← quotientPlaces scale 100) rate.toDecimal).plain

/-! ## Sums, proration and allocation -/

/-- The amounts of the members that are present. -/
def presentAmounts (values : Value) : Except Fault (List Decimal) := do
  return (← values.members).filterMap Value.toDecimal?

def sum (values scale : Value) : Except Fault String := do
  match ← presentAmounts values with
  | [] => return "0"
  | amounts => return (Decimal.sumAt (← cutPlaces scale) amounts).plain

def average (values scale : Value) : Except Fault (Option String) := do
  match ← presentAmounts values with
  | [] => return none
  | amounts =>
    let places ← quotientPlaces scale (.ofInt amounts.length)
    return (Decimal.meanAt? places amounts).map Decimal.plain

/-- The amount for some days of a period.  The days are taken as their texts spell them. -/
def prorateDays (amount worked total scale : Value) : Except Fault String := do
  match ← total.sideOfZero (.unordered "<=" total.typeName "int") with
  | some .lt | some .eq => return "0"
  | _ =>
    let days := Decimal.ofText total.toText
    let places ← quotientPlaces scale days
    return (amount.toDecimal.prorateDaysAt places (.ofText worked.toText) days).plain

def prorateHours (amount worked total scale : Value) : Except Fault String := do
  let hours := total.toDecimal
  if hours.isZeroAt Decimal.hourScale then return "0"
  else
    let places ← quotientPlaces scale hours
    return (amount.toDecimal.prorateHoursAt places worked.toDecimal hours).plain

/-- The parts of an amount for a list of weights. -/
def allocateParts (amount : Value) (weights : List Value) (digits mode : Value) :
    Except Fault (List Value) := do
  let places ← precision digits
  let parts := Decimal.allocate (.ofText mode.toText) places amount.toDecimal
    (weights.map Value.toDecimal)
  return parts.map fun part ↦ .text part.fixed

/-- The parts of an amount, under the keys of the weights when these have keys.  A text is the
sequence of its characters. -/
def allocate (amount weights digits mode : Value) : Except Fault Value :=
  match weights with
  | .map entries => do
    let parts ← allocateParts amount (entries.map (·.2)) digits mode
    return .map ((entries.map (·.1)).zip parts)
  | .list items => do
    return .list (← allocateParts amount items digits mode)
  | .text s => do
    return .list (← allocateParts amount (s.toList.map fun c ↦ .text c.toString) digits mode)
  | value => badData (.noLength value.typeName)

end PayFormula.Amount

import PayFormula.Power

/-!
# Binary Floating-Point Numbers

A double is kept as what it denotes: not a number, an infinity, or a signed integer mantissa times
a power of two.  Finite doubles are in one form, with a mantissa of 53 bits unless the exponent is
already the least one, so that equal numbers of one sign are equal data.
-/

namespace PayFormula

inductive Binary64 where
  | nan
  | infinite (negative : Bool)
  | finite (negative : Bool) (mantissa : Nat) (exponent : Int)
  deriving DecidableEq, Repr, Inhabited

namespace Binary64

/-- The exponent of the smallest doubles. -/
def leastExponent : Int := -1074

/-- The exponent of the largest doubles. -/
def greatestExponent : Int := 971

/-- The first mantissa of a full 53 bits. -/
def fullMantissa : Nat := twoTo 52

/-- A double of the one form that finite doubles are kept in. -/
def IsReduced : Binary64 → Prop
  | finite _ mantissa exponent =>
    leastExponent ≤ exponent ∧ exponent ≤ greatestExponent ∧ mantissa < 2 * fullMantissa ∧
      (fullMantissa ≤ mantissa ∨ exponent = leastExponent)
  | _ => True

def isFinite : Binary64 → Bool
  | finite .. => true
  | _ => false

/-- Positive and negative zero. -/
def isZero : Binary64 → Bool
  | finite _ 0 _ => true
  | _ => false

/-- A mantissa and a power of two as a fraction. -/
def magnitudeFraction (mantissa : Nat) (exponent : Int) : Nat × Nat :=
  (mantissa * twoTo exponent.toNat, twoTo (-exponent).toNat)

/-- The whole part of a finite double. -/
def toInt? : Binary64 → Option Int
  | finite negative mantissa exponent =>
    let (numerator, denominator) := magnitudeFraction mantissa exponent
    let whole : Int := (numerator / denominator : Nat)
    some (if negative then -whole else whole)
  | _ => none

/-- The double is exactly the integer `n`. -/
def isInt (n : Int) : Binary64 → Bool
  | finite negative mantissa exponent =>
    let (numerator, denominator) := magnitudeFraction mantissa exponent
    (if negative then -(numerator : Int) else numerator) == n * denominator
  | _ => false

/-- Equality of what is denoted: the zeros are equal, and nothing equals what is not a number. -/
def sameNumber (a b : Binary64) : Bool :=
  (a.isZero && b.isZero) || (a == b && a != nan)

end Binary64

end PayFormula

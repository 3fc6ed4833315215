import PayFormula.Binary64.Basic

/-!
# The Nearest Double

A decimal number is read as the double nearest to it, ties going to the even mantissa.  The
quotient is formed exactly, so the answer is right for any number of digits; a number beyond half
a step past the largest double is infinite.
-/

namespace PayFormula.Binary64

/-- A quotient rounded to the nearest integer, ties to even. -/
def roundQuotient (numerator denominator : Nat) : Nat :=
  let whole := numerator / denominator
  let rest := numerator % denominator
  if denominator < 2 * rest || (2 * rest = denominator && whole % 2 = 1) then whole + 1 else whole

/-- The exponent of the largest power of two that is not above a positive fraction. -/
def binaryMagnitude (numerator denominator : Nat) : Int :=
  let guess : Int := (Nat.log2 numerator : Int) - Nat.log2 denominator
  if numerator * twoTo (-guess).toNat < denominator * twoTo guess.toNat then guess - 1 else guess

/-- The double nearest to a positive fraction. -/
def ofFraction (negative : Bool) (numerator denominator : Nat) : Binary64 :=
  let exponent := max (binaryMagnitude numerator denominator - 52) leastExponent
  let mantissa :=
    roundQuotient (numerator * twoTo (-exponent).toNat) (denominator * twoTo exponent.toNat)
  let (mantissa, exponent) :=
    if mantissa = 2 * fullMantissa then (fullMantissa, exponent + 1) else (mantissa, exponent)
  if greatestExponent < exponent then infinite negative else finite negative mantissa exponent

/-- The double nearest to `digits * 10 ^ power`.  Numbers far outside the range are settled by
their size, before a large power of ten is formed. -/
def ofDecimal (negative : Bool) (digits : Nat) (power : Int) : Binary64 :=
  let size := (Nat.toDigits 10 digits).length + power
  if digits = 0 || size < -330 then finite negative 0 leastExponent
  else if 310 < size then infinite negative
  else ofFraction negative (digits * tenTo power.toNat) (tenTo (-power).toNat)

/-- The double nearest to an integer. -/
def ofInt (n : Int) : Binary64 := ofDecimal (decide (n < 0)) n.natAbs 0

end PayFormula.Binary64

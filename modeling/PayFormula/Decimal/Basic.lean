import PayFormula.Power

/-!
# Decimal Numbers

An amount is an integer coefficient over a power of ten.  The number of places is part of the
datum, because `1.50` is written back as it was read, but it never changes what the number is
worth: `toRat` is the worth, and `trim` is the one form that the arithmetic answers in.

Sums, products and powers are exact.  A quotient and a square root are the only operations that
need a number of places to stop at, and both are cut toward zero there.
-/

namespace PayFormula

/-- The number `coefficient / 10 ^ places`. -/
structure Decimal where
  coefficient : Int
  places : Nat
  deriving DecidableEq, Repr, Inhabited

namespace Decimal

def ofInt (n : Int) : Decimal := ⟨n, 0⟩

instance : OfNat Decimal n := ⟨ofInt n⟩

/-- What the number is worth. -/
def toRat (d : Decimal) : Rat := (d.coefficient : Rat) / (tenTo d.places : Rat)

def isZero (d : Decimal) : Bool := d.coefficient == 0

def isNegative (d : Decimal) : Bool := decide (d.coefficient < 0)

/-! ## Exact arithmetic -/

/-- The coefficient on a grid of `places` digits, when the number lies on that grid. -/
def unitsAt (places : Nat) (d : Decimal) : Int :=
  d.coefficient * tenTo (places - d.places)

def neg (a : Decimal) : Decimal := ⟨-a.coefficient, a.places⟩

def abs (a : Decimal) : Decimal := ⟨a.coefficient.natAbs, a.places⟩

def add (a b : Decimal) : Decimal :=
  let places := max a.places b.places
  ⟨a.unitsAt places + b.unitsAt places, places⟩

def sub (a b : Decimal) : Decimal := add a (neg b)

def mul (a b : Decimal) : Decimal := ⟨a.coefficient * b.coefficient, a.places + b.places⟩

def pow (a : Decimal) (n : Nat) : Decimal := ⟨Int.pow a.coefficient n, a.places * n⟩

instance : Neg Decimal := ⟨neg⟩
instance : Add Decimal := ⟨add⟩
instance : Sub Decimal := ⟨sub⟩
instance : Mul Decimal := ⟨mul⟩

/-- What is left of `a` after taking `b` a whole number of times; it has the sign of `a`. -/
def remainder (a b : Decimal) : Decimal :=
  let places := max a.places b.places
  ⟨(a.unitsAt places).tmod (b.unitsAt places), places⟩

/-! ## Order -/

def cmp (a b : Decimal) : Ordering :=
  let places := max a.places b.places
  compare (a.unitsAt places) (b.unitsAt places)

def lt (a b : Decimal) : Bool := a.cmp b == .lt

/-- The first of the smallest numbers of a list that starts with `a`. -/
def least (a : Decimal) : List Decimal → Decimal
  | [] => a
  | b :: rest => least (if b.lt a then b else a) rest

/-- The first of the largest numbers of a list that starts with `a`. -/
def greatest (a : Decimal) : List Decimal → Decimal
  | [] => a
  | b :: rest => greatest (if a.lt b then b else a) rest

/-! ## Cutting toward zero -/

/-- The number cut toward zero after `places` digits. -/
def truncateAt (places : Nat) (d : Decimal) : Decimal :=
  ⟨(d.coefficient * tenTo places).tdiv (tenTo d.places), places⟩

/-- The whole part. -/
def toInt (d : Decimal) : Int := d.coefficient.tdiv (tenTo d.places)

/-- The quotient of `a` by a nonzero `b`, cut toward zero after `places` digits. -/
def quotientAt (places : Nat) (a b : Decimal) : Decimal :=
  ⟨(a.coefficient * tenTo (b.places + places)).tdiv (b.coefficient * tenTo a.places), places⟩

/-- The square root of a number that is not negative, cut after `places` digits. -/
def rootAt (places : Nat) (d : Decimal) : Decimal :=
  ⟨Nat.sqrt (d.coefficient.toNat * tenTo (2 * places) / tenTo d.places), places⟩

/-! ## The trimmed form -/

/-- `n` over `10 ^ places` without zeros at the end of its fraction. -/
def trimmed (n : Int) : Nat → Decimal
  | 0 => ⟨n, 0⟩
  | places + 1 => if n % 10 = 0 then trimmed (n / 10) places else ⟨n, places + 1⟩

def trim (d : Decimal) : Decimal := trimmed d.coefficient d.places

end Decimal

end PayFormula

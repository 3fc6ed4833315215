import PayFormula.Decimal.Basic

/-!
# Arithmetic at a Scale

Each operation is carried out exactly and its result cut toward zero after a number of places,
then trimmed, so that equal results are the same datum.  A divisor counts as zero as soon as it is
zero after the same cut.
-/

namespace PayFormula

/-- The places that arithmetic keeps unless told otherwise. -/
def defaultScale : Nat := 10

namespace Decimal

/-- The trimmed form of a number cut after `scale` places. -/
def scaled (scale : Nat) (d : Decimal) : Decimal := (d.truncateAt scale).trim

def addAt (scale : Nat) (a b : Decimal) : Decimal := (a + b).scaled scale

def subAt (scale : Nat) (a b : Decimal) : Decimal := (a - b).scaled scale

def mulAt (scale : Nat) (a b : Decimal) : Decimal := (a * b).scaled scale

def absAt (scale : Nat) (a : Decimal) : Decimal := a.abs.scaled scale

def negAt (scale : Nat) (a : Decimal) : Decimal := (-a).scaled scale

/-- Zero after the cut. -/
def isZeroAt (scale : Nat) (d : Decimal) : Bool := (d.truncateAt scale).isZero

def divAt? (scale : Nat) (a b : Decimal) : Option Decimal :=
  if b.isZeroAt scale then none else some (quotientAt scale a b).trim

def modAt? (scale : Nat) (a b : Decimal) : Option Decimal :=
  if b.isZeroAt scale then none else some ((remainder a b).scaled scale)

/-- A power with any integer exponent; a negative power of zero does not exist. -/
def powAt? (scale : Nat) (a : Decimal) : Int → Option Decimal
  | 0 => some 1
  | .ofNat n => some ((pow a n).scaled scale)
  | .negSucc n => if a.isZero then none else divAt? scale 1 (pow a (n + 1))

def sqrtAt? (scale : Nat) (d : Decimal) : Option Decimal :=
  if d.isNegative then none else some (d.rootAt scale).trim

/-! ## Comparison -/

/-- The order of two numbers after the cut. -/
def compareAt (scale : Nat) (a b : Decimal) : Ordering :=
  compare (a.truncateAt scale).coefficient (b.truncateAt scale).coefficient

/-- `value` moved to the nearer bound when the comparison puts it outside; a missing bound is
open. -/
def clampAt (scale : Nat) (value : Decimal) (low high : Option Decimal) : Decimal :=
  match low.filter (compareAt scale value · == .lt) with
  | some bound => bound
  | none => (high.filter (compareAt scale value · == .gt)).getD value

/-! ## Sums -/

def sumAt (scale : Nat) (values : List Decimal) : Decimal :=
  values.foldl (addAt scale) 0

def meanAt? (scale : Nat) (values : List Decimal) : Option Decimal :=
  if values.isEmpty then none
  else divAt? scale (sumAt scale values) (ofInt values.length)

end Decimal

end PayFormula

import PayFormula.Decimal.Scaled

/-!
# Percentages, Discounts and Taxes

Rates are in percent.  Each step is cut at the scale before the next one uses it, and a quotient
that does not exist counts as zero.
-/

namespace PayFormula.Decimal

/-- A rate in percent as a fraction of one. -/
def fractionOfRate (scale : Nat) (rate : Decimal) : Decimal :=
  (divAt? scale rate 100).getD 0

def percentAt (scale : Nat) (value rate : Decimal) : Decimal :=
  mulAt scale value (fractionOfRate scale rate)

/-- The change from `old` to `new` in percent of `old`. -/
def percentChangeAt? (scale : Nat) (old new : Decimal) : Option Decimal :=
  if old.isZeroAt scale then none
  else some (mulAt scale ((divAt? scale (subAt scale new old) old).getD 0) 100)

/-- A discount factor forced between nothing and everything. -/
def discountFactor (scale : Nat) (factor : Decimal) : Decimal :=
  clampAt scale factor (some 0) (some 1)

def discountAt (scale : Nat) (value factor : Decimal) : Decimal :=
  mulAt scale value (discountFactor scale factor)

def discountedAt (scale : Nat) (value factor : Decimal) : Decimal :=
  mulAt scale value (subAt scale 1 (discountFactor scale factor))

/-- One plus the rate: what a net amount is multiplied by. -/
def grossFactor (scale : Nat) (rate : Decimal) : Decimal :=
  addAt scale 1 (fractionOfRate scale rate)

def taxOfNetAt (scale : Nat) (net rate : Decimal) : Decimal := percentAt scale net rate

def grossOfNetAt (scale : Nat) (net rate : Decimal) : Decimal :=
  mulAt scale net (grossFactor scale rate)

def netOfGrossAt? (scale : Nat) (gross rate : Decimal) : Option Decimal :=
  divAt? scale gross (grossFactor scale rate)

end PayFormula.Decimal

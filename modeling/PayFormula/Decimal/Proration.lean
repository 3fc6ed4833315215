import PayFormula.Decimal.Scaled

/-!
# Proration

An amount for a whole period is reduced to the part of it that was worked.  The share of the
period is cut at the scale before it is applied.
-/

namespace PayFormula.Decimal

/-- `amount` for `worked` out of `total` days; a period without days pays nothing. -/
def prorateDaysAt (scale : Nat) (amount worked total : Decimal) : Decimal :=
  if total.coefficient ≤ 0 then 0
  else mulAt scale amount ((divAt? scale worked total).getD 0)

/-- The places at which a number of hours is compared with zero. -/
def hourScale : Nat := 6

/-- `amount` for `worked` out of `total` hours. -/
def prorateHoursAt (scale : Nat) (amount worked total : Decimal) : Decimal :=
  if total.isZeroAt hourScale then 0
  else mulAt scale amount ((divAt? scale worked total).getD 0)

end PayFormula.Decimal

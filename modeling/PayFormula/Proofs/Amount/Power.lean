import Mathlib
import PayFormula.Proofs.Amount.Arithmetic
import PayFormula.Proofs.Decimal.Choice

/-!
# Powers of Amounts

A power with any whole exponent is the exact rational power cut toward zero at the scale.  Positive
exponents cut an exact product, negative ones divide one by it.  The division takes for zero what
the scale cuts off, so a negative power is missing not only for a base of zero but whenever the
positive one is less than the last digit of the scale.
-/

namespace PayFormula

namespace Decimal

@[simp]
theorem toRat_pow (a : Decimal) (n : ℕ) : (a.pow n).toRat = a.toRat ^ n := by
  calc
    (a.pow n).toRat = (a.coefficient ^ n : ℤ) / 10 ^ (a.places * n) := toRat_eq _
    _ = (a.coefficient / 10 ^ a.places) ^ n := by rw [Int.cast_pow, pow_mul, div_pow]
    _ = a.toRat ^ n := by rw [toRat_eq]

/-- A base of zero needs no case of its own, because its powers are cut to zero at every scale. -/
theorem powAt?_negSucc (scale : ℕ) (a : Decimal) (k : ℕ) :
    powAt? scale a (.negSucc k) = divAt? scale 1 (a.pow (k + 1)) := by
  rw [powAt?]
  split
  · next h =>
    have hzero : Exact.cut scale (a.pow (k + 1)).toRat = 0 := by
      rw [toRat_pow, (isZero_iff a).1 h, zero_pow k.succ_ne_zero, Exact.cut_eq_zero_iff, abs_zero]
      positivity
    rw [divAt?, if_pos ((isZeroAt_iff scale _).2 hzero)]
  · rfl

/-- A power is missing when its exponent is negative and what it divides by is cut to zero, and
otherwise it is the exact one cut. -/
theorem powAt?_eq (scale : ℕ) (a : Decimal) (n : ℤ) :
    (powAt? scale a n).map toRat =
      if n < 0 ∧ Exact.cut scale (a.toRat ^ (-n)) = 0 then none
      else some (Exact.cut scale (a.toRat ^ n)) := by
  match n with
  | 0 =>
    rw [powAt?, Option.map_some, toRat_one, if_neg fun h ↦ lt_irrefl 0 h.1, zpow_zero,
      Exact.cut_one]
  | .ofNat (k + 1) =>
    have hsign : ¬Int.ofNat (k + 1) < 0 := (Int.natCast_nonneg _).not_gt
    rw [powAt?, Option.map_some, toRat_scaled, toRat_pow, if_neg fun h ↦ hsign h.1,
      Int.ofNat_eq_natCast, zpow_natCast]
    exact k.succ_ne_zero
  | .negSucc k =>
    have hdiv := divAt?_eq scale 1 (a.pow (k + 1))
    rw [toRat_one, toRat_pow] at hdiv
    rw [powAt?_negSucc, hdiv, Int.neg_negSucc, zpow_natCast, zpow_negSucc, one_div]
    simp only [Int.negSucc_lt_zero, true_and]

theorem isTrimmed_of_divAt?_eq_some {scale : ℕ} {a b d : Decimal} (h : divAt? scale a b = some d) :
    d.IsTrimmed := by
  rw [divAt?, Option.ite_none_left_eq_some, Option.some_inj] at h
  exact h.2 ▸ isTrimmed_trim _

theorem isTrimmed_of_powAt?_eq_some {scale : ℕ} {a d : Decimal} {n : ℤ}
    (h : powAt? scale a n = some d) : d.IsTrimmed := by
  match n with
  | 0 =>
    rw [powAt?, Option.some_inj] at h
    exact h ▸ isTrimmed_ofInt 1
  | .ofNat (k + 1) =>
    rw [powAt?, Option.some_inj] at h
    · exact h ▸ isTrimmed_scaled _ _
    · exact k.succ_ne_zero
  | .negSucc k => exact isTrimmed_of_divAt?_eq_some (powAt?_negSucc scale a k ▸ h)

end Decimal

namespace Amount

variable (base : Value) {exponent : Value} {n : ℤ}

/-- A scale that is a number does not fail, so it need not be known when it is read. -/
theorem power_eq (hexponent : exponent.count = .ok n) (scale : Option ℤ) :
    power base exponent (scaleOf scale) =
      .ok ((base.toDecimal.powAt? (placesOf scale) n).map Decimal.plain) := by
  rw [power, hexponent]
  match n with
  | 0 => rfl
  | .ofNat (k + 1) =>
    have hplaces : powerPlaces (scaleOf scale) base.toDecimal (.ofNat (k + 1)) =
        .ok (placesOf scale) := cutPlaces_scaleOf scale
    simp only [bind, Except.bind, hplaces]
    rfl
  | .negSucc k =>
    simp only [bind, Except.bind, powerPlaces, quotientPlaces_scaleOf]
    by_cases hzero : base.toDecimal.isZero
    · simp only [Decimal.powAt?, if_pos hzero]
      rfl
    · simp only [if_neg hzero]
      rfl

/-- A power is missing exactly when the exponent is negative and the positive power is smaller than
the last digit of the scale.  Otherwise it is the canonical text of the exact power, cut. -/
theorem power_exact_then_cut (hexponent : exponent.count = .ok n) (scale : Option ℤ) :
    if n < 0 ∧ |numberOf base ^ (-n)| < 1 / 10 ^ placesOf scale then
      power base exponent (scaleOf scale) = .ok none
    else
      ∃ s, power base exponent (scaleOf scale) = .ok (some s) ∧
        IsCanonicalText s (cutAt scale (numberOf base ^ n)) := by
  have hworth := Decimal.powAt?_eq (placesOf scale) base.toDecimal n
  rw [power_eq base hexponent, numberOf, cutAt]
  simp only [Exact.cut_eq_zero_iff] at hworth
  split
  · next h =>
    rw [if_pos h, Option.map_eq_none_iff] at hworth
    rw [hworth, Option.map_none]
  · next h =>
    rw [if_neg h, Option.map_eq_some_iff] at hworth
    obtain ⟨d, hd, hcut⟩ := hworth
    rw [hd, Option.map_some, ← hcut]
    exact ⟨d.plain, rfl, (Decimal.isTrimmed_of_powAt?_eq_some hd).isCanonicalText_plain⟩

/-- Half to the power of minus one is two at a scale that keeps halves. -/
theorem power_exact_then_cut_half :
    ∃ s, power (.text "0.5") (.int (-1)) (.int 1) = .ok (some s) ∧ IsCanonicalText s 2 := by
  have hexponent : (Value.int (-1)).count = .ok (-1) := rfl
  have hpower := power_exact_then_cut (.text "0.5") hexponent (some 1)
  have hhalf : numberOf (.text "0.5") = 1 / 2 := by decide +kernel
  rw [hhalf, if_neg (by decide +kernel)] at hpower
  have htwo : cutAt (some 1) ((1 / 2) ^ (-1 : ℤ)) = 2 := by decide +kernel
  rwa [htwo] at hpower

/-- Half to the power of minus one is two, but nothing is returned where halves are cut off. -/
theorem power_half_missing :
    numberOf (.text "0.5") ≠ 0 ∧ power (.text "0.5") (.int (-1)) (.int 0) = .ok none ∧
      cutAt (some 0) (numberOf (.text "0.5") ^ (-1 : ℤ)) = 2 :=
  ⟨by decide +kernel, rfl, by decide +kernel⟩

end Amount

end PayFormula

import Mathlib
import PayFormula.Decimal.Proration
import PayFormula.Decimal.Rates
import PayFormula.Proofs.Decimal.Choice

/-!
# Ratios Are Cut Before They Are Applied

Rates and shares of a period are quotients, and a quotient is cut at the scale before an amount is
multiplied by it.  The product is then cut again.  Both cuts go toward zero, so the result lies
between zero and the exact product, and what the first cut drops is multiplied by the amount.
Nothing is dropped by a cut when the number has no further digits.
-/

namespace PayFormula

namespace Exact

variable {places : ℕ} {q q' : ℚ}

/-! ## Numbers with few digits -/

/-- The number has at most `places` digits after its point. -/
def OnGrid (places : ℕ) (q : ℚ) : Prop := ∃ steps : ℤ, q = steps / 10 ^ places

theorem onGrid_cut (places : ℕ) (q : ℚ) : OnGrid places (cut places q) :=
  ⟨towardZero (q * 10 ^ places), rfl⟩

theorem onGrid_intCast (places : ℕ) (n : ℤ) : OnGrid places n := by
  rw [← cut_intCast places n]
  exact onGrid_cut places n

theorem onGrid_one (places : ℕ) : OnGrid places 1 := by
  simpa using onGrid_intCast places 1

theorem OnGrid.cut_eq (h : OnGrid places q) : cut places q = q := by
  obtain ⟨steps, rfl⟩ := h
  exact cut_eq_self (div_mul_cancel₀ _ (by positivity))

theorem OnGrid.add (h : OnGrid places q) (h' : OnGrid places q') : OnGrid places (q + q') := by
  obtain ⟨m, rfl⟩ := h
  obtain ⟨n, rfl⟩ := h'
  exact ⟨m + n, by rw [Int.cast_add, add_div]⟩

theorem OnGrid.intCast_mul (h : OnGrid places q) (n : ℤ) : OnGrid places (n * q) := by
  obtain ⟨steps, rfl⟩ := h
  exact ⟨n * steps, by rw [Int.cast_mul, mul_div_assoc]⟩

theorem OnGrid.neg (h : OnGrid places q) : OnGrid places (-q) := by
  simpa using h.intCast_mul (-1)

/-! ## How far a cut goes -/

theorem cut_mem_uIcc (places : ℕ) (q : ℚ) : cut places q ∈ Set.uIcc 0 q := by
  rcases le_total 0 q with h | h
  · rw [Set.uIcc_of_le h]
    exact ⟨cut_nonneg places h, cut_le places h⟩
  · have hnonneg := cut_nonneg places (neg_nonneg.2 h)
    have hle := cut_le places (neg_nonneg.2 h)
    rw [cut_neg] at hnonneg hle
    rw [Set.uIcc_of_ge h]
    exact ⟨neg_le_neg_iff.1 hle, neg_nonneg.1 hnonneg⟩

theorem cut_mem_uIcc_cut (places : ℕ) (h : q' ∈ Set.uIcc 0 q) :
    cut places q' ∈ Set.uIcc 0 (cut places q) := by
  have hmono : Monotone (cut places) := fun _ _ hle ↦ cut_mono places hle
  simpa using hmono.mapsTo_uIcc h

theorem mul_mem_uIcc (x : ℚ) (h : q' ∈ Set.uIcc 0 q) : x * q' ∈ Set.uIcc 0 (x * q) := by
  have hscaled := Set.mem_image_of_mem (x * ·) h
  rwa [Set.image_const_mul_uIcc, mul_zero] at hscaled

/-- Less than one step of the last digit is cut off. -/
theorem abs_sub_cut_lt (places : ℕ) (q : ℚ) : |q - cut places q| < 1 / 10 ^ places := by
  have hunit : (0 : ℚ) < 10 ^ places := by positivity
  have hsteps : |(towardZero (q * 10 ^ places) : ℚ) - q * 10 ^ places| < 1 :=
    (prescribes_towardZero _).abs_sub_lt_one (Int.floor_le _) (Int.le_ceil _)
  calc
    |q - cut places q| = |towardZero (q * 10 ^ places) / 10 ^ places - q| := abs_sub_comm _ _
    _ = |(towardZero (q * 10 ^ places) - q * 10 ^ places) / 10 ^ places| := by
      rw [sub_div, mul_div_cancel_right₀ _ hunit.ne']
    _ = |towardZero (q * 10 ^ places) - q * 10 ^ places| / 10 ^ places := by
      rw [abs_div, abs_of_pos hunit]
    _ < 1 / 10 ^ places := (div_lt_div_iff_of_pos_right hunit).2 hsteps

/-! ## Two cuts in a row -/

/-- An amount times a ratio that was cut is not farther from zero than the exact product. -/
theorem cut_mul_cut_mem_uIcc (places : ℕ) (amount ratio : ℚ) :
    cut places (amount * cut places ratio) ∈ Set.uIcc 0 (cut places (amount * ratio)) :=
  cut_mem_uIcc_cut places (mul_mem_uIcc amount (cut_mem_uIcc places ratio))

/-- What is cut off the ratio is lost once for each unit of the amount. -/
theorem abs_mul_sub_cut_mul_cut_lt (places : ℕ) (amount ratio : ℚ) :
    |amount * ratio - cut places (amount * cut places ratio)| < (|amount| + 1) / 10 ^ places := by
  have hratio := (abs_sub_cut_lt places ratio).le
  calc
    _ ≤ |amount * ratio - amount * cut places ratio| +
        |amount * cut places ratio - cut places (amount * cut places ratio)| := abs_sub_le _ _ _
    _ = |amount| * |ratio - cut places ratio| +
        |amount * cut places ratio - cut places (amount * cut places ratio)| := by
      rw [← mul_sub, abs_mul]
    _ < |amount| * (1 / 10 ^ places) + 1 / 10 ^ places :=
      add_lt_add_of_le_of_lt (mul_le_mul_of_nonneg_left hratio (abs_nonneg amount))
        (abs_sub_cut_lt places _)
    _ = (|amount| + 1) / 10 ^ places := by ring

/-- What is cut off a ratio shows in the multiples of an amount, once they are large enough. -/
theorem onGrid_of_forall_cut {ratio : ℚ}
    (h : ∀ n : ℕ, cut places (n * cut places ratio) = cut places (n * ratio)) :
    OnGrid places ratio := by
  have hclose (n : ℕ) : n * |ratio - cut places ratio| < 1 / 10 ^ places := by
    have hkept : cut places (n * ratio) = n * cut places ratio := by
      rw [← h n]
      exact_mod_cast ((onGrid_cut places ratio).intCast_mul n).cut_eq
    have hlt := abs_sub_cut_lt places (n * ratio)
    rwa [hkept, ← mul_sub, abs_mul, Nat.abs_cast] at hlt
  have hnothing : |ratio - cut places ratio| = 0 := by
    by_contra hne
    have hpositive : 0 < |ratio - cut places ratio| := (abs_nonneg _).lt_of_ne' hne
    obtain ⟨n, hn⟩ := exists_nat_gt (1 / 10 ^ places / |ratio - cut places ratio|)
    exact (hclose n).not_gt ((div_lt_iff₀ hpositive).1 hn)
  rw [sub_eq_zero.1 (abs_eq_zero.1 hnothing)]
  exact onGrid_cut places ratio

/-- A quotient of a number that was cut, cut itself, is not farther from zero than the exact
quotient. -/
theorem cut_cut_div_mem_uIcc (places : ℕ) (difference base : ℚ) :
    cut places (cut places difference / base) ∈ Set.uIcc 0 (difference / base) := by
  have hdifference : cut places difference / base ∈ Set.uIcc 0 (difference / base) := by
    rw [div_eq_inv_mul, div_eq_inv_mul]
    exact mul_mem_uIcc base⁻¹ (cut_mem_uIcc places difference)
  exact Set.uIcc_subset_uIcc_left hdifference (cut_mem_uIcc places _)

/-- What is cut off the difference is divided by the base as well. -/
theorem abs_div_sub_cut_cut_div_lt (places : ℕ) (difference base : ℚ) :
    |difference / base - cut places (cut places difference / base)| <
      (1 / |base| + 1) / 10 ^ places := by
  have hdifference := (abs_sub_cut_lt places difference).le
  calc
    _ ≤ |difference / base - cut places difference / base| +
        |cut places difference / base - cut places (cut places difference / base)| :=
      abs_sub_le _ _ _
    _ = |difference - cut places difference| / |base| +
        |cut places difference / base - cut places (cut places difference / base)| := by
      rw [← sub_div, abs_div]
    _ < 1 / 10 ^ places / |base| + 1 / 10 ^ places :=
      add_lt_add_of_le_of_lt (div_le_div_of_nonneg_right hdifference (abs_nonneg base))
        (abs_sub_cut_lt places _)
    _ = (1 / |base| + 1) / 10 ^ places := by ring

/-! ## Changes in percent -/

/-- The difference to a base in percent of it, where the difference and the ratio are cut. -/
def percentChange (places : ℕ) (difference base : ℚ) : ℚ :=
  100 * cut places (cut places difference / base)

/-- A hundred times a ratio on the grid is on the grid, so it is not cut again. -/
theorem onGrid_percentChange (places : ℕ) (difference base : ℚ) :
    OnGrid places (percentChange places difference base) := by
  have hratio := onGrid_cut places (cut places difference / base)
  exact_mod_cast hratio.intCast_mul 100

theorem percentChange_mem_uIcc (places : ℕ) (difference base : ℚ) :
    percentChange places difference base ∈ Set.uIcc 0 (cut places (difference / base * 100)) := by
  have hexact := mul_mem_uIcc 100 (cut_cut_div_mem_uIcc places difference base)
  rw [mul_comm 100 (difference / base)] at hexact
  rw [← (onGrid_percentChange places difference base).cut_eq]
  exact cut_mem_uIcc_cut places hexact

theorem abs_sub_percentChange_lt (places : ℕ) (difference base : ℚ) :
    |difference / base * 100 - percentChange places difference base| <
      100 * (1 / |base| + 1) / 10 ^ places := by
  have hratio := abs_div_sub_cut_cut_div_lt places difference base
  have hhundred : (0 : ℚ) < 100 := by norm_num
  calc
    _ = |100 * (difference / base - cut places (cut places difference / base))| := by
      rw [mul_sub, mul_comm 100 (difference / base), percentChange]
    _ = 100 * |difference / base - cut places (cut places difference / base)| := by
      rw [abs_mul, abs_of_pos hhundred]
    _ < 100 * ((1 / |base| + 1) / 10 ^ places) := mul_lt_mul_of_pos_left hratio hhundred
    _ = 100 * (1 / |base| + 1) / 10 ^ places := (mul_div_assoc _ _ _).symm

theorem percentChange_eq {difference base : ℚ} (hdifference : OnGrid places difference)
    (hratio : OnGrid places (difference / base)) :
    percentChange places difference base = difference / base * 100 := by
  rw [percentChange, hdifference.cut_eq, hratio.cut_eq, mul_comm]

/-- A change in percent has nothing but zeros in the last two digits that are kept. -/
theorem percentChange_eq_cut_iff {difference base : ℚ} (h : OnGrid places difference) :
    percentChange places difference base = cut places (difference / base * 100) ↔
      OnGrid places (cut places (difference / base * 100) / 100) := by
  constructor
  · intro heq
    rw [← heq, percentChange, mul_div_cancel_left₀ _ (by norm_num)]
    exact onGrid_cut _ _
  · intro hgrid
    have hkept : percentChange places difference base = 100 * cut places (difference / base) := by
      rw [percentChange, h.cut_eq]
    have hpart : cut places (difference / base * 100) / 100 ∈ Set.uIcc 0 (difference / base) := by
      have hmem := mul_mem_uIcc (1 / 100) (cut_mem_uIcc places (difference / base * 100))
      rwa [one_div_mul_eq_div, one_div_mul_eq_div, mul_div_cancel_right₀ _ (by norm_num)] at hmem
    have hover : cut places (difference / base * 100) ∈
        Set.uIcc 0 (percentChange places difference base) := by
      have hmem := mul_mem_uIcc 100 (cut_mem_uIcc_cut places hpart)
      rwa [hgrid.cut_eq, mul_div_cancel₀ _ (by norm_num), ← hkept] at hmem
    exact Set.eq_of_mem_uIcc_of_mem_uIcc' (percentChange_mem_uIcc places difference base) hover

end Exact

namespace Decimal

/-! ## Rates -/

/-- A quotient whose divisor is not cut to zero is never replaced by zero. -/
theorem toRat_divAt?_getD {scale : ℕ} {b : Decimal} (a : Decimal)
    (h : Exact.cut scale b.toRat ≠ 0) :
    ((divAt? scale a b).getD 0).toRat = Exact.cut scale (a.toRat / b.toRat) := by
  have hdiv := divAt?_eq scale a b
  rw [if_neg h, Option.map_eq_some_iff] at hdiv
  obtain ⟨quotient, hquotient, hworth⟩ := hdiv
  rw [hquotient, Option.getD_some, hworth]

theorem toRat_hundred : (100 : Decimal).toRat = (100 : ℤ) := toRat_ofInt 100

theorem toRat_fractionOfRate (scale : ℕ) (rate : Decimal) :
    (fractionOfRate scale rate).toRat = Exact.cut scale (rate.toRat / 100) := by
  have hkept : Exact.cut scale (100 : Decimal).toRat ≠ 0 := by
    rw [toRat_hundred, Exact.cut_intCast]
    norm_num
  rw [fractionOfRate, toRat_divAt?_getD rate hkept, toRat_hundred, Int.cast_ofNat]

theorem toRat_percentAt (scale : ℕ) (value rate : Decimal) :
    (percentAt scale value rate).toRat =
      Exact.cut scale (value.toRat * Exact.cut scale (rate.toRat / 100)) := by
  rw [percentAt, toRat_mulAt, toRat_fractionOfRate]

/-- The factor is a sum of numbers on the grid, so that no third cut is felt. -/
theorem toRat_grossFactor (scale : ℕ) (rate : Decimal) :
    (grossFactor scale rate).toRat = 1 + Exact.cut scale (rate.toRat / 100) := by
  have hgrid := (Exact.onGrid_one scale).add (Exact.onGrid_cut scale (rate.toRat / 100))
  rw [grossFactor, toRat_addAt, toRat_one, toRat_fractionOfRate, hgrid.cut_eq]

theorem toRat_grossOfNetAt (scale : ℕ) (net rate : Decimal) :
    (grossOfNetAt scale net rate).toRat =
      Exact.cut scale (net.toRat * (1 + Exact.cut scale (rate.toRat / 100))) := by
  rw [grossOfNetAt, toRat_mulAt, toRat_grossFactor]

theorem percentChangeAt?_eq (scale : ℕ) (old new : Decimal) :
    (percentChangeAt? scale old new).map toRat =
      if Exact.cut scale old.toRat = 0 then none
      else some (Exact.percentChange scale (new.toRat - old.toRat) old.toRat) := by
  rw [percentChangeAt?]
  by_cases h : Exact.cut scale old.toRat = 0
  · rw [if_pos h, if_pos ((isZeroAt_iff scale old).2 h), Option.map_none]
  · have hgrid := Exact.onGrid_percentChange scale (new.toRat - old.toRat) old.toRat
    rw [if_neg h, if_neg (mt (isZeroAt_iff scale old).1 h), Option.map_some, toRat_mulAt,
      toRat_divAt?_getD _ h, toRat_subAt, toRat_hundred, Int.cast_ofNat, mul_comm]
    exact congrArg some hgrid.cut_eq

/-! ## Proration -/

theorem toRat_prorateDaysAt (scale : ℕ) (amount : Decimal) (worked : ℤ) {total : ℤ}
    (h : 0 < total) :
    (prorateDaysAt scale amount (ofInt worked) (ofInt total)).toRat =
      Exact.cut scale (amount.toRat * Exact.cut scale (worked / total)) := by
  have hkept : Exact.cut scale (ofInt total).toRat ≠ 0 := by
    rw [toRat_ofInt, Exact.cut_intCast]
    exact_mod_cast h.ne'
  have hpositive : ¬(ofInt total).coefficient ≤ 0 := h.not_ge
  rw [prorateDaysAt, if_neg hpositive, toRat_mulAt, toRat_divAt?_getD _ hkept, toRat_ofInt,
    toRat_ofInt]

theorem toRat_prorateHoursAt {scale : ℕ} {total : Decimal} (amount worked : Decimal)
    (hhours : Exact.cut hourScale total.toRat ≠ 0) (hkept : Exact.cut scale total.toRat ≠ 0) :
    (prorateHoursAt scale amount worked total).toRat =
      Exact.cut scale (amount.toRat * Exact.cut scale (worked.toRat / total.toRat)) := by
  rw [prorateHoursAt, if_neg (mt (isZeroAt_iff hourScale total).1 hhours), toRat_mulAt,
    toRat_divAt?_getD _ hkept]

end Decimal

end PayFormula

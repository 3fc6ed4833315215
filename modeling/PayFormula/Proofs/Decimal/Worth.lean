import Mathlib
import PayFormula.Decimal.Scaled

/-!
# The Worth of Decimal Numbers

Decimal numbers are coefficients over powers of ten, and what they are worth is a rational.  This
module carries each operation over to the rationals.  Sums, products and the order are exact there.
What is cut toward zero at a number of places is `Exact.cut` of the exact result, a quotient
included, so each operation at a scale is one exact operation followed by one cut.
-/

namespace PayFormula

theorem tenTo_eq (n : ℕ) : tenTo n = 10 ^ n := rfl

theorem tenTo_pos (n : ℕ) : 0 < tenTo n := Nat.pow_pos (by decide)

@[simp]
theorem cast_tenTo (n : ℕ) : ((tenTo n : ℕ) : ℚ) = 10 ^ n := by
  rw [tenTo_eq, Nat.cast_pow, Nat.cast_ofNat]

/-! ## Cutting rationals -/

namespace Exact

/-- The whole part of a rational. -/
def towardZero (q : ℚ) : ℤ := if 0 ≤ q then ⌊q⌋ else ⌈q⌉

/-- A rational without what follows its first `places` digits. -/
def cut (places : ℕ) (q : ℚ) : ℚ := towardZero (q * 10 ^ places) / 10 ^ places

theorem towardZero_of_nonneg {q : ℚ} (h : 0 ≤ q) : towardZero q = ⌊q⌋ := if_pos h

theorem towardZero_neg (q : ℚ) : towardZero (-q) = -towardZero q := by
  unfold towardZero
  rcases lt_trichotomy q 0 with h | rfl | h
  · rw [if_pos (by linarith), if_neg (by linarith), Int.floor_neg]
  · simp
  · rw [if_neg (by linarith), if_pos h.le, Int.ceil_neg]

theorem towardZero_nonneg {q : ℚ} (h : 0 ≤ q) : 0 ≤ towardZero q := by
  rw [towardZero_of_nonneg h]
  exact Int.floor_nonneg.2 h

theorem towardZero_natCast_div (a b : ℕ) : towardZero ((a : ℚ) / b) = (a : ℤ) / b := by
  rw [towardZero_of_nonneg (by positivity), Rat.floor_natCast_div_natCast]

theorem cut_neg (places : ℕ) (q : ℚ) : cut places (-q) = -cut places q := by
  rw [cut, cut, neg_mul, towardZero_neg, Int.cast_neg, neg_div]

theorem cut_nonneg (places : ℕ) {q : ℚ} (h : 0 ≤ q) : 0 ≤ cut places q := by
  have hwhole : 0 ≤ towardZero (q * 10 ^ places) := towardZero_nonneg (by positivity)
  rw [cut]
  positivity

theorem cut_le (places : ℕ) {q : ℚ} (h : 0 ≤ q) : cut places q ≤ q := by
  have hpos : (0 : ℚ) < 10 ^ places := by positivity
  rw [cut, towardZero_of_nonneg (by positivity), div_le_iff₀ hpos]
  exact Int.floor_le _

theorem cut_le_cut (places : ℕ) {q q' : ℚ} (h : 0 ≤ q) (hle : q ≤ q') :
    cut places q ≤ cut places q' := by
  have hnonneg : 0 ≤ q' := h.trans hle
  rw [cut, cut, towardZero_of_nonneg (by positivity), towardZero_of_nonneg (by positivity)]
  gcongr

/-- Division of integers that drops the rest is the whole part of their quotient. -/
theorem towardZero_div (a b : ℤ) : towardZero ((a : ℚ) / b) = a.tdiv b := by
  obtain ⟨m, rfl | rfl⟩ := a.eq_nat_or_neg <;> obtain ⟨n, rfl | rfl⟩ := b.eq_nat_or_neg <;>
    simp [Int.neg_tdiv, Int.tdiv_neg, neg_div, div_neg, towardZero_neg, towardZero_natCast_div]

end Exact

namespace Decimal

/-! ## Exact arithmetic -/

theorem toRat_eq (d : Decimal) : d.toRat = d.coefficient / 10 ^ d.places := by
  rw [toRat, cast_tenTo]

@[simp]
theorem toRat_ofInt (n : ℤ) : (ofInt n).toRat = n := by
  simp [toRat_eq, ofInt]

@[simp]
theorem toRat_zero : (0 : Decimal).toRat = 0 := toRat_ofInt 0

@[simp]
theorem toRat_one : (1 : Decimal).toRat = 1 := toRat_ofInt 1

theorem coefficient_eq (d : Decimal) : (d.coefficient : ℚ) = d.toRat * 10 ^ d.places := by
  rw [toRat_eq, div_mul_cancel₀ _ (by positivity)]

/-- A number lies on every grid that is at least as fine as its own. -/
theorem unitsAt_eq {places : ℕ} (d : Decimal) (h : d.places ≤ places) :
    (d.unitsAt places : ℚ) = d.toRat * 10 ^ places := by
  have hpower : (10 : ℚ) ^ places = 10 ^ d.places * 10 ^ (places - d.places) := by
    rw [← pow_add, Nat.add_sub_cancel' h]
  calc
    (d.unitsAt places : ℚ) = d.coefficient * 10 ^ (places - d.places) := by
      rw [unitsAt, Int.cast_mul, Int.cast_natCast, cast_tenTo]
    _ = d.toRat * (10 ^ d.places * 10 ^ (places - d.places)) := by rw [coefficient_eq, mul_assoc]
    _ = d.toRat * 10 ^ places := by rw [hpower]

@[simp]
theorem toRat_neg (a : Decimal) : (-a).toRat = -a.toRat := by
  change a.neg.toRat = _
  rw [toRat_eq, toRat_eq, neg, Int.cast_neg, neg_div]

@[simp]
theorem toRat_abs (a : Decimal) : a.abs.toRat = |a.toRat| := by
  rw [toRat_eq, toRat_eq, abs, abs_div, abs_of_pos (by positivity : (0 : ℚ) < 10 ^ a.places),
    Int.cast_natCast, Nat.cast_natAbs, Int.cast_abs]

@[simp]
theorem toRat_add (a b : Decimal) : (a + b).toRat = a.toRat + b.toRat := by
  have ha := unitsAt_eq a (le_max_left a.places b.places)
  have hb := unitsAt_eq b (le_max_right a.places b.places)
  calc
    (a.add b).toRat = (a.unitsAt (max a.places b.places) + b.unitsAt (max a.places b.places)) /
        10 ^ max a.places b.places := by rw [toRat_eq, add, Int.cast_add]
    _ = (a.toRat + b.toRat) * 10 ^ max a.places b.places / 10 ^ max a.places b.places := by
      rw [ha, hb, add_mul]
    _ = a.toRat + b.toRat := mul_div_cancel_right₀ _ (by positivity)

@[simp]
theorem toRat_sub (a b : Decimal) : (a - b).toRat = a.toRat - b.toRat := by
  change (a + -b).toRat = _
  rw [toRat_add, toRat_neg, sub_eq_add_neg]

@[simp]
theorem toRat_mul (a b : Decimal) : (a * b).toRat = a.toRat * b.toRat := by
  calc
    (a.mul b).toRat = (a.coefficient * b.coefficient) / (10 ^ a.places * 10 ^ b.places) := by
      rw [toRat_eq, mul, Int.cast_mul, pow_add]
    _ = a.toRat * b.toRat := by rw [mul_div_mul_comm, toRat_eq, toRat_eq]

theorem isZero_iff (d : Decimal) : d.isZero = true ↔ d.toRat = 0 := by
  rw [isZero, beq_iff_eq, toRat_eq, div_eq_zero_iff, Int.cast_eq_zero]
  simp

theorem isNegative_iff (d : Decimal) : d.isNegative = true ↔ d.toRat < 0 := by
  rw [isNegative, decide_eq_true_iff, toRat_eq, div_neg_iff]
  have hpos : (0 : ℚ) < 10 ^ d.places := by positivity
  simp [hpos, hpos.not_gt]

/-! ## Order -/

/-- Integers compare as the numbers that they count on a grid. -/
theorem compare_onGrid (places : ℕ) (m n : ℤ) :
    compare ((m : ℚ) / 10 ^ places) (n / 10 ^ places) = compare m n := by
  have hgrid : StrictMono fun n : ℤ ↦ (n : ℚ) / 10 ^ places := by
    intro m n h
    apply div_lt_div_of_pos_right (Int.cast_lt.2 h)
    positivity
  rw [← cmp_eq_compare, ← cmp_eq_compare, ← hgrid.cmp_map_eq m n]

theorem cmp_eq (a b : Decimal) : a.cmp b = compare a.toRat b.toRat := by
  have ha := unitsAt_eq a (le_max_left a.places b.places)
  have hb := unitsAt_eq b (le_max_right a.places b.places)
  have hunit : (10 : ℚ) ^ max a.places b.places ≠ 0 := by positivity
  calc
    a.cmp b = compare ((a.unitsAt (max a.places b.places) : ℚ) / 10 ^ max a.places b.places)
        ((b.unitsAt (max a.places b.places) : ℚ) / 10 ^ max a.places b.places) := by
      rw [cmp, compare_onGrid]
    _ = compare a.toRat b.toRat := by
      rw [ha, hb, mul_div_cancel_right₀ _ hunit, mul_div_cancel_right₀ _ hunit]

theorem lt_iff (a b : Decimal) : a.lt b = true ↔ a.toRat < b.toRat := by
  rw [lt, cmp_eq, beq_iff_eq, compare_lt_iff_lt]

theorem toRat_least (a : Decimal) (rest : List Decimal) :
    (least a rest).toRat = (rest.map toRat).foldl min a.toRat := by
  induction rest generalizing a with
  | nil => rfl
  | cons b rest ih =>
    rw [least, ih, List.map_cons, List.foldl_cons]
    congr 1
    split
    · next h => rw [min_eq_right ((lt_iff b a).1 h).le]
    · next h => rw [min_eq_left (not_lt.1 fun hlt ↦ h ((lt_iff b a).2 hlt))]

theorem toRat_greatest (a : Decimal) (rest : List Decimal) :
    (greatest a rest).toRat = (rest.map toRat).foldl max a.toRat := by
  induction rest generalizing a with
  | nil => rfl
  | cons b rest ih =>
    rw [greatest, ih, List.map_cons, List.foldl_cons]
    congr 1
    split
    · next h => rw [max_eq_right ((lt_iff a b).1 h).le]
    · next h => rw [max_eq_left (not_lt.1 fun hlt ↦ h ((lt_iff a b).2 hlt))]

/-! ## Cutting -/

theorem toInt_eq (d : Decimal) : d.toInt = Exact.towardZero d.toRat := by
  rw [toRat, toInt]
  exact_mod_cast (Exact.towardZero_div d.coefficient (tenTo d.places)).symm

theorem truncateAt_coefficient (places : ℕ) (d : Decimal) :
    (d.truncateAt places).coefficient = Exact.towardZero (d.toRat * 10 ^ places) := by
  have hquotient : d.toRat * 10 ^ places =
      ((d.coefficient * tenTo places : ℤ) : ℚ) / ((tenTo d.places : ℤ) : ℚ) := by
    rw [toRat]
    push_cast [cast_tenTo]
    ring
  rw [hquotient, Exact.towardZero_div, truncateAt]

@[simp]
theorem toRat_truncateAt (places : ℕ) (d : Decimal) :
    (d.truncateAt places).toRat = Exact.cut places d.toRat := by
  rw [toRat_eq, truncateAt_coefficient]
  rfl

/-- Zeros at the end of a fraction are worth nothing. -/
theorem toRat_trimmed (n : ℤ) (places : ℕ) : (trimmed n places).toRat = n / 10 ^ places := by
  induction places generalizing n with
  | zero => simp [trimmed, toRat_eq]
  | succ places ih =>
    rw [trimmed]
    split
    · next h =>
      have hn : (n : ℚ) = 10 * (n / 10 : ℤ) := by
        exact_mod_cast (Int.mul_ediv_cancel' (Int.dvd_of_emod_eq_zero h)).symm
      calc
        (trimmed (n / 10) places).toRat = (n / 10 : ℤ) / 10 ^ places := ih _
        _ = 10 * (n / 10 : ℤ) / (10 * 10 ^ places) :=
          (mul_div_mul_left _ _ (by norm_num : (10 : ℚ) ≠ 0)).symm
        _ = n / 10 ^ (places + 1) := by rw [← hn, pow_succ']
    · rw [toRat_eq]

@[simp]
theorem toRat_trim (d : Decimal) : d.trim.toRat = d.toRat := by
  rw [trim, toRat_trimmed, toRat_eq]

@[simp]
theorem toRat_quotientAt (places : ℕ) (a b : Decimal) :
    (quotientAt places a b).toRat = Exact.cut places (a.toRat / b.toRat) := by
  have hquotient : a.toRat / b.toRat * 10 ^ places =
      ((a.coefficient * tenTo (b.places + places) : ℤ) : ℚ) /
        ((b.coefficient * tenTo a.places : ℤ) : ℚ) := by
    rw [toRat, toRat]
    push_cast [cast_tenTo, pow_add]
    field_simp
  calc
    (quotientAt places a b).toRat =
        ((a.coefficient * tenTo (b.places + places)).tdiv (b.coefficient * tenTo a.places) : ℤ) /
          10 ^ places := by rw [toRat_eq, quotientAt]
    _ = Exact.towardZero (a.toRat / b.toRat * 10 ^ places) / 10 ^ places := by
      rw [hquotient, Exact.towardZero_div]
    _ = Exact.cut places (a.toRat / b.toRat) := rfl

/-! ## Arithmetic at a scale -/

@[simp]
theorem toRat_scaled (scale : ℕ) (d : Decimal) :
    (d.scaled scale).toRat = Exact.cut scale d.toRat := by
  rw [scaled, toRat_trim, toRat_truncateAt]

theorem toRat_addAt (scale : ℕ) (a b : Decimal) :
    (addAt scale a b).toRat = Exact.cut scale (a.toRat + b.toRat) := by
  rw [addAt, toRat_scaled, toRat_add]

theorem toRat_subAt (scale : ℕ) (a b : Decimal) :
    (subAt scale a b).toRat = Exact.cut scale (a.toRat - b.toRat) := by
  rw [subAt, toRat_scaled, toRat_sub]

theorem toRat_mulAt (scale : ℕ) (a b : Decimal) :
    (mulAt scale a b).toRat = Exact.cut scale (a.toRat * b.toRat) := by
  rw [mulAt, toRat_scaled, toRat_mul]

theorem toRat_absAt (scale : ℕ) (a : Decimal) :
    (absAt scale a).toRat = Exact.cut scale |a.toRat| := by
  rw [absAt, toRat_scaled, toRat_abs]

theorem toRat_negAt (scale : ℕ) (a : Decimal) :
    (negAt scale a).toRat = Exact.cut scale (-a.toRat) := by
  rw [negAt, toRat_scaled, toRat_neg]

theorem isZeroAt_iff (scale : ℕ) (d : Decimal) :
    d.isZeroAt scale = true ↔ Exact.cut scale d.toRat = 0 := by
  rw [isZeroAt, isZero_iff, toRat_truncateAt]

/-- A quotient exists when the divisor is not cut to zero, and then it is the exact one cut. -/
theorem divAt?_eq (scale : ℕ) (a b : Decimal) :
    (divAt? scale a b).map toRat =
      if Exact.cut scale b.toRat = 0 then none
      else some (Exact.cut scale (a.toRat / b.toRat)) := by
  rw [divAt?]
  by_cases h : Exact.cut scale b.toRat = 0
  · rw [if_pos h, if_pos ((isZeroAt_iff scale b).2 h), Option.map_none]
  · rw [if_neg h, if_neg fun hzero ↦ h ((isZeroAt_iff scale b).1 hzero), Option.map_some,
      toRat_trim, toRat_quotientAt]

theorem compareAt_eq (scale : ℕ) (a b : Decimal) :
    a.compareAt scale b = compare (Exact.cut scale a.toRat) (Exact.cut scale b.toRat) := by
  calc
    a.compareAt scale b =
        compare ((a.truncateAt scale).coefficient : ℤ) (b.truncateAt scale).coefficient := by
      rw [compareAt]
    _ = compare (Exact.towardZero (a.toRat * 10 ^ scale))
        (Exact.towardZero (b.toRat * 10 ^ scale)) := by
      rw [truncateAt_coefficient, truncateAt_coefficient]
    _ = compare (Exact.cut scale a.toRat) (Exact.cut scale b.toRat) :=
      (compare_onGrid scale _ _).symm

end Decimal

end PayFormula

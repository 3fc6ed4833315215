import Mathlib
import PayFormula.Proofs.Amount.Comparison
import PayFormula.Proofs.Amount.NetGross

/-!
# Amounts Between Bounds

A value is moved to a bound when the comparison at the scale puts it beyond that bound, and
otherwise it is returned with all its digits.  So a value that is beyond a bound only in digits which
the cut loses stays where it is.  That is the only exception: every other value is moved to the
nearest number between the bounds.  A discount takes its factor from such a clamp.  What is left
after the discount is cut once more and stays between nothing and the whole, but the discount itself
goes as far outside as its factor does.
-/

namespace PayFormula

namespace Exact

variable {places : ℕ} {amount factor : ℚ}

/-- What is left of one is cut to a part of one as soon as the factor is. -/
theorem cut_one_sub_mem_Icc (h : cut places factor ∈ Set.Icc 0 1) :
    cut places (1 - factor) ∈ Set.Icc 0 1 := by
  constructor
  · rcases le_total factor 1 with hle | hge
    · exact cut_nonneg places (sub_nonneg.2 hle)
    · have hsplit := cut_add_of_onGrid (onGrid_one places) zero_le_one (sub_nonneg.2 hge)
      rw [add_sub_cancel] at hsplit
      have hrest : cut places (1 - factor) = -cut places (factor - 1) := by
        rw [← cut_neg, neg_sub]
      linarith [h.2]
  · rcases le_total 0 factor with hge | hle
    · have hmono := cut_mono places (sub_le_self 1 hge)
      rwa [cut_one] at hmono
    · have hsplit := cut_add_of_onGrid (onGrid_one places) zero_le_one (neg_nonneg.2 hle)
      rw [← sub_eq_add_neg, cut_neg] at hsplit
      linarith [h.1]

theorem cut_mul_mem_Icc (places : ℕ) (hamount : 0 ≤ amount) (h : factor ∈ Set.Icc 0 1) :
    cut places (amount * factor) ∈ Set.Icc 0 amount := by
  have hproduct : 0 ≤ amount * factor := mul_nonneg hamount h.1
  exact ⟨cut_nonneg places hproduct,
    (cut_le places hproduct).trans (mul_le_of_le_one_right hamount h.2)⟩

end Exact

namespace Amount

/-! ## Bounds -/

/-- The number lies between the bounds; null leaves a side open. -/
structure Within (low high : Value) (q : ℚ) : Prop where
  low_le : low.isNull = false → numberOf low ≤ q
  le_high : high.isNull = false → q ≤ numberOf high

/-- `q` is `x` moved to the nearest number between the bounds. -/
structure IsClamp (low high : Value) (x q : ℚ) : Prop where
  within : Within low high q
  eq_self : Within low high x → q = x
  eq_low : low.isNull = false → x < numberOf low → q = numberOf low
  eq_high : high.isNull = false → numberOf high < x → q = numberOf high

/-- The number is beyond a bound, but the cut leaves nothing of the difference. -/
def IsOverlooked (scale : Option ℤ) (low high : Value) (x : ℚ) : Prop :=
  (low.isNull = false ∧ x < numberOf low ∧ cutAt scale x = cutAt scale (numberOf low)) ∨
  (high.isNull = false ∧ numberOf high < x ∧ cutAt scale x = cutAt scale (numberOf high))

/-- `q` is `x` moved between the bounds, unless `x` is overlooked and stays where it is. -/
structure IsClampAt (scale : Option ℤ) (low high : Value) (x q : ℚ) : Prop where
  isClamp : ¬IsOverlooked scale low high x → IsClamp low high x q
  eq_self : IsOverlooked scale low high x → q = x

variable {scale : Option ℤ} {low high : Value} {x q : ℚ}

theorem IsOverlooked.not_within (h : IsOverlooked scale low high x) : ¬Within low high x := by
  intro hwithin
  rcases h with ⟨hlow, hlt, -⟩ | ⟨hhigh, hlt, -⟩
  · exact hlt.not_ge (hwithin.low_le hlow)
  · exact hlt.not_ge (hwithin.le_high hhigh)

/-- What is overlooked is all that is returned outside the bounds. -/
theorem IsClampAt.within_iff (h : IsClampAt scale low high x q) :
    Within low high q ↔ ¬IsOverlooked scale low high x := by
  constructor
  · intro hwithin hoverlooked
    rw [h.eq_self hoverlooked] at hwithin
    exact hoverlooked.not_within hwithin
  · intro hseen
    exact (h.isClamp hseen).within

theorem IsClampAt.eq_of_within (h : IsClampAt scale low high x q) (hwithin : Within low high x) :
    q = x :=
  (h.isClamp fun hoverlooked ↦ hoverlooked.not_within hwithin).eq_self hwithin

/-- Each of the two cuts takes less than one step of the last digit. -/
theorem sub_lt_of_cutAt_le {x y : ℚ} (h : cutAt scale x ≤ cutAt scale y) :
    x - y < 2 / 10 ^ placesOf scale := by
  have hx := (abs_lt.1 (Exact.abs_sub_cut_lt (placesOf scale) x)).2
  have hy := (abs_lt.1 (Exact.abs_sub_cut_lt (placesOf scale) y)).1
  calc
    x - y ≤ (x - cutAt scale x) - (y - cutAt scale y) := by linarith
    _ < 1 / 10 ^ placesOf scale - -(1 / 10 ^ placesOf scale) := sub_lt_sub hx hy
    _ = 2 / 10 ^ placesOf scale := by ring

/-! ## Clamping -/

/-- The one of three values that a clamp returns. -/
def clamped (scale : Option ℤ) (value low high : Value) : Value :=
  if low.isNull = false ∧ cutAt scale (numberOf value) < cutAt scale (numberOf low) then low
  else if high.isNull = false ∧ cutAt scale (numberOf high) < cutAt scale (numberOf value) then high
  else value

theorem filter_toDecimal? (bound : Value) (beyond : Decimal → Bool) :
    bound.toDecimal?.filter beyond =
      if bound.isNull = false ∧ beyond bound.toDecimal = true then some bound.toDecimal
      else none := by
  rw [Value.toDecimal?]
  cases bound.isNull <;> simp [Option.filter]

theorem clampAt_eq (value low high : Value) (scale : Option ℤ) :
    value.toDecimal.clampAt (placesOf scale) low.toDecimal? high.toDecimal? =
      (clamped scale value low high).toDecimal := by
  have hlt (bound : Value) :
      (value.toDecimal.compareAt (placesOf scale) bound.toDecimal == .lt) = true ↔
        cutAt scale (numberOf value) < cutAt scale (numberOf bound) := by
    rw [beq_iff_eq, Decimal.compareAt_eq]
    exact compare_lt_iff_lt
  have hgt (bound : Value) :
      (value.toDecimal.compareAt (placesOf scale) bound.toDecimal == .gt) = true ↔
        cutAt scale (numberOf bound) < cutAt scale (numberOf value) := by
    rw [beq_iff_eq, Decimal.compareAt_eq]
    exact compare_gt_iff_gt
  simp only [Decimal.clampAt, filter_toDecimal?, hlt, hgt, clamped]
  split_ifs <;> rfl

theorem clamp_eq (value low high : Value) (scale : Option ℤ) :
    clamp value low high (scaleOf scale) = .ok (clamped scale value low high).normalize := by
  rw [clamp]
  split_ifs with hopen
  · rw [Bool.and_eq_true] at hopen
    simp [clamped, hopen]
  · rw [cutPlaces_scaleOf, Value.normalize, ← clampAt_eq]
    rfl

variable {value : Value}

theorem clamped_of_within (h : Within low high (numberOf value)) :
    clamped scale value low high = value := by
  rw [clamped, if_neg, if_neg]
  · rintro ⟨hhigh, hlt⟩
    exact hlt.not_ge (Exact.cut_mono _ (h.le_high hhigh))
  · rintro ⟨hlow, hlt⟩
    exact hlt.not_ge (Exact.cut_mono _ (h.low_le hlow))

section Ordered

variable (hbounds : low.isNull = false → high.isNull = false → numberOf low ≤ numberOf high)
include hbounds

/-- What is returned lies between the bounds as soon as it is known for a value beyond one. -/
theorem isClamp_of_eq (hself : Within low high x → q = x)
    (hlow : low.isNull = false → x < numberOf low → q = numberOf low)
    (hhigh : high.isNull = false → numberOf high < x → q = numberOf high) :
    IsClamp low high x q where
  within := by
    by_cases hbelow : low.isNull = false ∧ x < numberOf low
    · rw [hlow hbelow.1 hbelow.2]
      exact ⟨fun _ ↦ le_rfl, hbounds hbelow.1⟩
    by_cases habove : high.isNull = false ∧ numberOf high < x
    · rw [hhigh habove.1 habove.2]
      exact ⟨fun h ↦ hbounds h habove.1, fun _ ↦ le_rfl⟩
    have hwithin : Within low high x :=
      ⟨fun h ↦ not_lt.1 fun hlt ↦ hbelow ⟨h, hlt⟩, fun h ↦ not_lt.1 fun hlt ↦ habove ⟨h, hlt⟩⟩
    rwa [hself hwithin]
  eq_self := hself
  eq_low := hlow
  eq_high := hhigh

theorem clamped_of_lt (hlow : low.isNull = false) (hlt : numberOf value < numberOf low) :
    clamped scale value low high =
      if cutAt scale (numberOf value) = cutAt scale (numberOf low) then value else low := by
  have hle : cutAt scale (numberOf value) ≤ cutAt scale (numberOf low) :=
    Exact.cut_mono _ hlt.le
  split_ifs with hcut
  · rw [clamped, if_neg fun hbeyond ↦ hbeyond.2.ne hcut, if_neg]
    rintro ⟨hhigh, hbeyond⟩
    exact hbeyond.not_ge (Exact.cut_mono _ (hlt.le.trans (hbounds hlow hhigh)))
  · rw [clamped, if_pos ⟨hlow, hle.lt_of_ne hcut⟩]

theorem clamped_of_gt (hhigh : high.isNull = false) (hlt : numberOf high < numberOf value) :
    clamped scale value low high =
      if cutAt scale (numberOf value) = cutAt scale (numberOf high) then value else high := by
  have hle : cutAt scale (numberOf high) ≤ cutAt scale (numberOf value) :=
    Exact.cut_mono _ hlt.le
  have hlow : ¬(low.isNull = false ∧
      cutAt scale (numberOf value) < cutAt scale (numberOf low)) := by
    rintro ⟨hlow, hbeyond⟩
    exact hbeyond.not_ge (Exact.cut_mono _ ((hbounds hlow hhigh).trans hlt.le))
  rw [clamped, if_neg hlow]
  by_cases hcut : cutAt scale (numberOf value) = cutAt scale (numberOf high)
  · rw [if_neg fun hbeyond ↦ hbeyond.2.ne' hcut, if_pos hcut]
  · rw [if_pos ⟨hhigh, hle.lt_of_ne' hcut⟩, if_neg hcut]

theorem isClampAt_clamped :
    IsClampAt scale low high (numberOf value) (numberOf (clamped scale value low high)) where
  isClamp h := by
    apply isClamp_of_eq hbounds
    · intro hwithin
      rw [clamped_of_within hwithin]
    · intro hlow hlt
      rw [clamped_of_lt hbounds hlow hlt, if_neg fun hcut ↦ h (.inl ⟨hlow, hlt, hcut⟩)]
    · intro hhigh hlt
      rw [clamped_of_gt hbounds hhigh hlt, if_neg fun hcut ↦ h (.inr ⟨hhigh, hlt, hcut⟩)]
  eq_self h := by
    rcases h with ⟨hlow, hlt, hcut⟩ | ⟨hhigh, hlt, hcut⟩
    · rw [clamped_of_lt hbounds hlow hlt, if_pos hcut]
    · rw [clamped_of_gt hbounds hhigh hlt, if_pos hcut]

/-- After the cut, what is returned is not below the lower bound. -/
theorem cutAt_low_le_cutAt_clamped (hlow : low.isNull = false) :
    cutAt scale (numberOf low) ≤ cutAt scale (numberOf (clamped scale value low high)) := by
  rw [clamped]
  split_ifs with hbelow habove
  · exact le_rfl
  · exact Exact.cut_mono _ (hbounds hlow habove.1)
  · exact not_lt.1 fun hlt ↦ hbelow ⟨hlow, hlt⟩

theorem cutAt_clamped_le_cutAt_high (hhigh : high.isNull = false) :
    cutAt scale (numberOf (clamped scale value low high)) ≤ cutAt scale (numberOf high) := by
  rw [clamped]
  split_ifs with hbelow habove
  · exact Exact.cut_mono _ (hbounds hbelow.1 hhigh)
  · exact le_rfl
  · exact not_lt.1 fun hlt ↦ habove ⟨hhigh, hlt⟩

end Ordered

/-! ## Discounts -/

/-- The factor that a discount uses: the factor given, clamped between nothing and everything. -/
def discountFactorOf (scale : Option ℤ) (factor : Value) : ℚ :=
  numberOf (clamped scale factor (.int 0) (.int 1))

theorem numberOf_int_zero : numberOf (.int 0) = 0 := Decimal.toRat_zero

theorem numberOf_int_one : numberOf (.int 1) = 1 := Decimal.toRat_one

theorem toRat_discountFactor (scale : Option ℤ) (factor : Value) :
    (factor.toDecimal.discountFactor (placesOf scale)).toRat = discountFactorOf scale factor :=
  congrArg Decimal.toRat (clampAt_eq factor (.int 0) (.int 1) scale)

theorem discountAmount_gives (amount factor : Value) (scale : Option ℤ) :
    Gives (discountAmount amount factor (scaleOf scale))
      (cutAt scale (numberOf amount * discountFactorOf scale factor)) := by
  rw [discountAmount, cutPlaces_scaleOf, ← toRat_discountFactor]
  exact gives_plain (Decimal.isTrimmed_scaled _ _) (Decimal.toRat_mulAt _ _ _)

theorem applyDiscount_gives (amount factor : Value) (scale : Option ℤ) :
    Gives (applyDiscount amount factor (scaleOf scale))
      (cutAt scale (numberOf amount * cutAt scale (1 - discountFactorOf scale factor))) := by
  have hrest := Decimal.toRat_subAt (placesOf scale) 1
    (factor.toDecimal.discountFactor (placesOf scale))
  rw [Decimal.toRat_one, toRat_discountFactor] at hrest
  rw [applyDiscount, cutPlaces_scaleOf, cutAt, cutAt, ← hrest]
  exact gives_plain (Decimal.isTrimmed_scaled _ _) (Decimal.toRat_mulAt _ _ _)

theorem numberOf_zero_le_one : numberOf (.int 0) ≤ numberOf (.int 1) := by
  rw [numberOf_int_zero, numberOf_int_one]
  exact zero_le_one

theorem isClampAt_discountFactorOf (scale : Option ℤ) (factor : Value) :
    IsClampAt scale (.int 0) (.int 1) (numberOf factor) (discountFactorOf scale factor) :=
  isClampAt_clamped fun _ _ ↦ numberOf_zero_le_one

theorem cutAt_discountFactorOf_mem_Icc (scale : Option ℤ) (factor : Value) :
    cutAt scale (discountFactorOf scale factor) ∈ Set.Icc 0 1 := by
  have hlow : cutAt scale (numberOf (.int 0)) ≤ cutAt scale (discountFactorOf scale factor) :=
    cutAt_low_le_cutAt_clamped (fun _ _ ↦ numberOf_zero_le_one) rfl
  have hhigh : cutAt scale (discountFactorOf scale factor) ≤ cutAt scale (numberOf (.int 1)) :=
    cutAt_clamped_le_cutAt_high (fun _ _ ↦ numberOf_zero_le_one) rfl
  rw [numberOf_int_zero, cutAt, Exact.cut_zero] at hlow
  rw [numberOf_int_one, cutAt, cutAt, Exact.cut_one] at hhigh
  exact ⟨hlow, hhigh⟩

/-- What is left of an amount lies between nothing and the amount, whatever the factor is. -/
theorem rest_mem_Icc {amount : ℚ} (scale : Option ℤ) (factor : Value) (hamount : 0 ≤ amount) :
    cutAt scale (amount * cutAt scale (1 - discountFactorOf scale factor)) ∈ Set.Icc 0 amount :=
  Exact.cut_mul_mem_Icc _ hamount
    (Exact.cut_one_sub_mem_Icc (cutAt_discountFactorOf_mem_Icc scale factor))

theorem part_mem_Icc {amount : ℚ} {factor : Value} (hamount : 0 ≤ amount)
    (h : ¬IsOverlooked scale (.int 0) (.int 1) (numberOf factor)) :
    cutAt scale (amount * discountFactorOf scale factor) ∈ Set.Icc 0 amount := by
  have hwithin := ((isClampAt_discountFactorOf scale factor).isClamp h).within
  have hlow := hwithin.low_le rfl
  have hhigh := hwithin.le_high rfl
  rw [numberOf_int_zero] at hlow
  rw [numberOf_int_one] at hhigh
  exact Exact.cut_mul_mem_Icc _ hamount ⟨hlow, hhigh⟩

/-- A clamp moves a value between its bounds unless the cut hides that it is beyond one; then the
value is returned as it is, less than two steps of the last digit outside.  What a discount leaves
of an amount is always between nothing and the amount, and the discount itself is so unless its
factor is overlooked. -/
theorem clamp_overlooks_cut_digits
    (hbounds : low.isNull = false → high.isNull = false → numberOf low ≤ numberOf high) :
    (∃ n : Numeral, clamp value low high (scaleOf scale) = .ok n.text ∧
      IsClampAt scale low high (numberOf value) n.worth ∧
      (Within low high n.worth ↔ ¬IsOverlooked scale low high (numberOf value)) ∧
      (Within low high (numberOf value) → n.worth = numberOf value) ∧
      (low.isNull = false → numberOf low - n.worth < 2 / 10 ^ placesOf scale) ∧
      (high.isNull = false → n.worth - numberOf high < 2 / 10 ^ placesOf scale)) ∧
    ∀ amount factor : Value, ∃ part rest share : ℚ,
      IsClampAt scale (.int 0) (.int 1) (numberOf factor) share ∧
      Gives (discountAmount amount factor (scaleOf scale)) part ∧
      part = cutAt scale (numberOf amount * share) ∧
      Gives (applyDiscount amount factor (scaleOf scale)) rest ∧
      rest = cutAt scale (numberOf amount * cutAt scale (1 - share)) ∧
      (0 ≤ numberOf amount → rest ∈ Set.Icc 0 (numberOf amount) ∧
        (¬IsOverlooked scale (.int 0) (.int 1) (numberOf factor) →
          part ∈ Set.Icc 0 (numberOf amount))) := by
  constructor
  · obtain ⟨n, htext, hworth⟩ := (clamped scale value low high).toDecimal.exists_numeral_plain
    have hclamp : IsClampAt scale low high (numberOf value) n.worth :=
      hworth ▸ isClampAt_clamped hbounds
    refine ⟨n, ?_, hclamp, hclamp.within_iff, hclamp.eq_of_within, ?_, ?_⟩
    · rw [clamp_eq, htext]
      rfl
    · intro hlow
      rw [hworth]
      exact sub_lt_of_cutAt_le (cutAt_low_le_cutAt_clamped hbounds hlow)
    · intro hhigh
      rw [hworth]
      exact sub_lt_of_cutAt_le (cutAt_clamped_le_cutAt_high hbounds hhigh)
  · intro amount factor
    exact ⟨_, _, discountFactorOf scale factor, isClampAt_discountFactorOf scale factor,
      discountAmount_gives amount factor scale, rfl, applyDiscount_gives amount factor scale, rfl,
      fun hamount ↦ ⟨rest_mem_Icc scale factor hamount, part_mem_Icc hamount⟩⟩

/-- A value half a cent above its bound, which is returned as it is. -/
theorem clamp_overlooks_cut_digits_half_cent :
    ((Value.int 0).isNull = false → (Value.int 1).isNull = false →
      numberOf (.int 0) ≤ numberOf (.int 1)) ∧
    IsOverlooked (some 2) (.int 0) (.int 1) (numberOf (.text "1.005")) ∧
    ∃ n : Numeral, clamp (.text "1.005") (.int 0) (.int 1) (.int 2) = .ok n.text ∧
      n.worth = numberOf (.text "1.005") ∧ ¬Within (.int 0) (.int 1) n.worth ∧
      n.worth - numberOf (.int 1) < 2 / 10 ^ 2 := by
  have hbounds : (Value.int 0).isNull = false → (Value.int 1).isNull = false →
      numberOf (.int 0) ≤ numberOf (.int 1) := fun _ _ ↦ numberOf_zero_le_one
  have hoverlooked : IsOverlooked (some 2) (.int 0) (.int 1) (numberOf (.text "1.005")) :=
    .inr ⟨rfl, by decide +kernel, by decide +kernel⟩
  obtain ⟨⟨n, hresult, hclamp, hwithin, -, -, hhigh⟩, -⟩ :=
    @clamp_overlooks_cut_digits (some 2) _ _ (.text "1.005") hbounds
  exact ⟨hbounds, hoverlooked, n, hresult, hclamp.eq_self hoverlooked,
    fun h ↦ hwithin.1 h hoverlooked, hhigh rfl⟩

/-- Both bounds of a discount factor can be passed, and the discount then passes the amount or
falls below zero. -/
theorem clamp_returns_value_above_bound :
    clamp (.text "1.005") (.text "0") (.text "1") (.int 2) = .ok "1.005" ∧
    numberOf (.text "1") < numberOf (.text "1.005") ∧
    discountAmount (.text "100") (.text "1.005") (.int 2) = .ok "100.5" ∧
    discountAmount (.text "100") (.text "-0.005") (.int 2) = .ok "-0.5" := by
  refine ⟨rfl, ?_, rfl, rfl⟩
  decide +kernel

end Amount

end PayFormula

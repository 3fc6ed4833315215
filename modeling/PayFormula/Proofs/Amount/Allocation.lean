import Mathlib
import PayFormula.Proofs.Amount.Arithmetic
import PayFormula.Proofs.Decimal.Shares

/-!
# Signs of Allocated Amounts

An amount that is not negative is split by weights that are not negative.  What rounding leaves over
goes to one part, and if the other parts were rounded up that part pays for it.  All other parts are
rounded shares and never negative.  The part that pays is not negative either once the amount is
large enough for the number of weights, and under most modes no amount is too small for a few.
-/

namespace PayFormula

namespace Amount

theorem countP_isZero_eq {values : List Value} (h : ∀ value ∈ values, 0 ≤ numberOf value) :
    ((values.map Value.toDecimal).countP fun weight ↦ !weight.isZero) =
      values.countP fun value ↦ decide (0 < numberOf value) := by
  rw [List.countP_map]
  apply List.countP_congr
  intro value hvalue
  rw [Function.comp_apply, Bool.not_eq_true', decide_eq_true_iff, ← Bool.not_eq_true,
    Decimal.isZero_iff]
  exact (h value hvalue).lt_iff_ne'.symm

/-- At most one part of an allocation without negative numbers is negative.  None is negative when
the rounded amount, in steps of its last digit, is at least what the mode can overdraw on as many
parts as there are positive weights. -/
theorem allocate_charges_one_part {amount weights digits shown : Value} {values : List Value}
    {n : ℤ} {mode : RoundingMode} (hweights : weights? weights = some values)
    (hdigits : digits.count = .ok n) (hmode : RoundingMode.ofText shown.toText = mode)
    (hamount : 0 ≤ numberOf amount) (hvalues : ∀ value ∈ values, 0 ≤ numberOf value)
    (htotal : 0 < (values.map numberOf).sum) :
    let count := values.countP fun value ↦ decide (0 < numberOf value)
    ∃ (before : List Numeral) (charged : Numeral) (after : List Numeral) (rounded : Numeral),
      allocate amount weights digits shown =
        .ok (inPlaceOf weights ((before ++ charged :: after).map fun part ↦ .text part.text)) ∧
      (before ++ charged :: after).length = values.length ∧
      (∀ part ∈ before ++ after, 0 ≤ part.worth) ∧
      round amount digits shown = .ok rounded.text ∧ 0 ≤ rounded.worth ∧
      (((count - 1) * mode.overdrawn count : ℕ) ≤ rounded.worth * 10 ^ n.toNat →
        0 ≤ charged.worth) := by
  have hsum : ((values.map Value.toDecimal).map Decimal.toRat).sum = (values.map numberOf).sum := by
    rw [List.map_map]
    rfl
  obtain ⟨before, charged, after, hparts, hothers, hcharged⟩ :=
    Decimal.allocate_charges mode n.toNat hamount (List.forall_mem_map.2 hvalues)
      (hsum.symm ▸ htotal)
  rw [countP_isZero_eq hvalues] at hcharged
  have hlength := Decimal.length_allocate mode n.toNat amount.toDecimal (hsum.trans_ne htotal.ne')
  rw [hparts, List.length_map] at hlength
  refine ⟨before.map Decimal.numeral, charged.numeral, after.map Decimal.numeral,
    (amount.toDecimal.round mode n.toNat).numeral, ?_, ?_, ?_, ?_, ?_, ?_⟩
  · rw [allocate_eq_inPlaceOf hweights, allocateParts_eq hdigits, hmode, hparts,
      ← List.map_cons, ← List.map_append, List.map_map, Function.comp_def]
    simp only [Decimal.text_numeral]
    rfl
  · rw [← hlength, List.length_append, List.length_append, List.length_cons, List.length_cons,
      List.length_map, List.length_map]
  · rw [← List.map_append]
    exact List.forall_mem_map.2 fun part hpart ↦ (hothers part hpart).trans_eq
      (Decimal.worth_numeral part).symm
  · rw [round_eq hdigits, hmode, Decimal.text_numeral]
  · rw [Decimal.worth_numeral]
    exact Decimal.round_nonneg mode n.toNat hamount
  · rw [Decimal.worth_numeral, Decimal.worth_numeral]
    exact hcharged

/-- Ten cents pay for four shares of two and a half cents, each rounded up. -/
theorem allocate_charges_one_part_ten_cents :
    let weights : Value := .list [.int 1, .int 1, .int 0, .int 1, .int 1]
    ∃ (before : List Numeral) (charged : Numeral) (after : List Numeral),
      allocate (.text "0.10") weights (.int 2) (.text "HALF_UP") =
        .ok (inPlaceOf weights ((before ++ charged :: after).map fun part ↦ .text part.text)) ∧
      (before ++ charged :: after).length = 5 ∧
      (∀ part ∈ before ++ after, 0 ≤ part.worth) ∧ 0 ≤ charged.worth := by
  intro weights
  have hweights : weights? weights = some [.int 1, .int 1, .int 0, .int 1, .int 1] := rfl
  have hdigits : (Value.int 2).count = .ok 2 := rfl
  have hmode : RoundingMode.ofText (Value.text "HALF_UP").toText = .halfUp := by decide +kernel
  have hamount : 0 ≤ numberOf (.text "0.10") := by decide +kernel
  obtain ⟨before, charged, after, rounded, hallocate, hlength, hothers, hround, -, hcharged⟩ :=
    allocate_charges_one_part hweights hdigits hmode hamount (by decide +kernel)
      (by decide +kernel)
  have hworth : rounded.worth = 10 / 100 := by
    have htext : round (.text "0.10") (.int 2) (.text "HALF_UP") =
        .ok (Decimal.mk 10 2).numeral.text := rfl
    have heq := Decimal.worth_eq_of_text_eq (Except.ok.inj (htext.symm.trans hround))
    rw [← heq, Decimal.worth_numeral, Decimal.toRat_eq]
    norm_num
  refine ⟨before, charged, after, hallocate, hlength, hothers, hcharged ?_⟩
  rw [hworth]
  decide +kernel

/-- Two pieces are split into four equal halves, each rounded up, and one part pays for all. -/
theorem allocate_two_by_four_equal_weights :
    let weights : List Value := [.int 1, .int 1, .int 1, .int 1]
    0 ≤ numberOf (.text "2") ∧ (∀ weight ∈ weights, 0 ≤ numberOf weight) ∧
    0 < (weights.map numberOf).sum ∧
    allocate (.text "2") (.list weights) (.int 0) (.text "HALF_UP") =
      .ok (.list [.text "-1", .text "1", .text "1", .text "1"]) ∧
    numberOf (.text "-1") < 0 :=
  ⟨by decide +kernel, by decide +kernel, by decide +kernel, rfl, by decide +kernel⟩

end Amount

end PayFormula

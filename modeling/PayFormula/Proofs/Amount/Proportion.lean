import Mathlib
import PayFormula.Proofs.Amount.Arithmetic
import PayFormula.Proofs.Decimal.Settlement

/-!
# Allocated Amounts Follow Their Weights

An allocation gives each weight its exact share of the rounded amount, rounded, and settles what is
left over on the first of the largest shares.  So every part but one is less than a step of the last
digit from its exact share, and the settled one is less than as many steps off as there are other
parts.  A weight of zero is given nothing, but the first of the largest shares can be one of zero.
The digits that decide how a share is rounded are those of the exact share up to a fixed number of
them, which misleads some modes where the exact share lies just beyond one of their boundaries.
-/

namespace PayFormula

namespace Amount

variable (amount : Value) {weights digits shown : Value} {values : List Value} {n : ℤ}
  {mode : RoundingMode}

/-- The parts of an allocation, one for each weight, are worth the rounded shares of the rounded
amount, settled. -/
theorem exists_settled_parts (hweights : weights? weights = some values)
    (hdigits : digits.count = .ok n) (hmode : RoundingMode.ofText shown.toText = mode)
    (htotal : (values.map numberOf).sum ≠ 0) :
    ∃ (parts : List Numeral) (target : Numeral),
      allocate amount weights digits shown =
        .ok (inPlaceOf weights (parts.map fun part ↦ .text part.text)) ∧
      parts.length = values.length ∧
      round amount digits shown = .ok target.text ∧
      (∀ part ∈ parts, part.HasPlaces n.toNat) ∧
      parts.map Numeral.worth = Exact.settle target.worth ((values.map numberOf).map fun weight ↦
        (Exact.roundedShare mode n.toNat target.worth (values.map numberOf).sum weight : ℚ) /
          10 ^ n.toNat) := by
  have hnumbers : (values.map Value.toDecimal).map Decimal.toRat = values.map numberOf := by
    rw [List.map_map]
    rfl
  set rounded := amount.toDecimal.round mode n.toNat
  set parts := Decimal.allocate mode n.toNat amount.toDecimal (values.map Value.toDecimal)
  have hworths := Decimal.map_toRat_allocate mode n.toNat amount.toDecimal (hnumbers ▸ htotal)
  rw [hnumbers] at hworths
  refine ⟨parts.map Decimal.numeral, rounded.numeral, ?_, ?_, ?_, ?_, ?_⟩
  · rw [allocate_eq_inPlaceOf hweights, allocateParts_eq hdigits, hmode, List.map_map,
      Function.comp_def]
    simp only [Decimal.text_numeral]
    rfl
  · have hlength := congrArg List.length hworths
    rwa [List.length_map, Exact.length_settle, List.length_map, List.length_map,
      ← List.length_map Decimal.numeral] at hlength
  · rw [round_eq hdigits, hmode, Decimal.text_numeral]
  · refine List.forall_mem_map.2 fun part hpart ↦ ?_
    rw [← Decimal.places_of_mem_allocate hpart]
    exact part.hasPlaces_numeral
  · rw [List.map_map, Function.comp_def, Decimal.worth_numeral]
    simp only [Decimal.worth_numeral]
    exact hworths

/-- A result is worth what any decimal is worth that is written alike. -/
theorem worth_eq_toRat {result : Except Fault String} (d : Decimal) {target : Numeral}
    (hresult : result = .ok target.text) (htext : result = .ok d.numeral.text) :
    target.worth = d.toRat := by
  rw [← Decimal.worth_numeral]
  exact Decimal.worth_eq_of_text_eq (Except.ok.inj (hresult.symm.trans htext))

/-! ## Weights of zero -/

/-- A weight of zero takes nothing but what rounding leaves over, and that only where no share is
positive and all before it are negative.  Of an amount that is not negative it takes something only
as the first of the weights, and then all of it, which is less than a step for each positive
weight. -/
theorem allocate_zero_weight_takes_rest (hweights : weights? weights = some values)
    (hdigits : digits.count = .ok n) (hmode : RoundingMode.ofText shown.toText = mode)
    (hvalues : ∀ value ∈ values, 0 ≤ numberOf value) (htotal : 0 < (values.map numberOf).sum) :
    ∃ (parts : List Numeral) (target : Numeral),
      allocate amount weights digits shown =
        .ok (inPlaceOf weights (parts.map fun part ↦ .text part.text)) ∧
      parts.length = values.length ∧
      round amount digits shown = .ok target.text ∧
      let share := fun value ↦
        Exact.roundedShare mode n.toNat target.worth (values.map numberOf).sum (numberOf value)
      ∀ before value after, values = before ++ value :: after → numberOf value = 0 →
        ∃ part, parts[before.length]? = some part ∧
          part.worth =
            (if (∀ other ∈ before, share other < 0) ∧ ∀ other ∈ after, share other ≤ 0 then
              target.worth - (values.map fun other ↦ (share other : ℚ)).sum / 10 ^ n.toNat
            else 0) ∧
          (0 ≤ target.worth → part.worth ≠ 0 →
            before = [] ∧ part.worth = target.worth ∧
            target.worth * 10 ^ n.toNat <
              (values.countP fun other ↦ decide (0 < numberOf other))) := by
  obtain ⟨parts, target, hallocate, hlength, hround, -, hworths⟩ :=
    exists_settled_parts amount hweights hdigits hmode htotal.ne'
  refine ⟨parts, target, hallocate, hlength, hround, ?_⟩
  intro share before value after hsplit hzero
  have hshare : share value = 0 := by
    rw [← Exact.roundedShare_zero mode n.toNat target.worth (values.map numberOf).sum, ← hzero]
  have hshares : values.map share = before.map share ++ 0 :: after.map share := by
    rw [← hshare, ← List.map_cons, ← List.map_append, ← hsplit]
  have hpart := Exact.getElem?_settle_steps target.worth n.toNat (before.map share)
    (after.map share)
  have hsettled : parts.map Numeral.worth = Exact.settle target.worth
      ((before.map share ++ 0 :: after.map share).map fun steps : ℤ ↦
        (steps : ℚ) / 10 ^ n.toNat) := by
    rw [hworths, ← hshares, List.map_map, List.map_map]
    rfl
  rw [← hsettled, ← hshares, List.length_map, List.getElem?_map, Option.map_eq_some_iff,
    List.map_map] at hpart
  simp only [List.forall_mem_map, Function.comp_def] at hpart
  obtain ⟨part, hplace, hworth⟩ := hpart
  refine ⟨part, hplace, hworth, ?_⟩
  intro htarget hsome
  have hnonneg : ∀ steps ∈ values.map share, 0 ≤ steps :=
    List.forall_mem_map.2 fun other hother ↦
      Exact.roundedShare_nonneg htarget htotal.le (hvalues other hother)
  obtain ⟨hsettle, -⟩ := ite_ne_right_iff.1 (hworth ▸ hsome)
  obtain ⟨hempty, hnothing⟩ := Exact.eq_nil_of_settled_steps (hshares ▸ hnonneg)
    (List.forall_mem_map.2 hsettle.1) (List.forall_mem_map.2 hsettle.2)
  rw [← hshares, List.forall_mem_map] at hnothing
  have hsum : (values.map fun other ↦ (share other : ℚ)).sum = 0 :=
    List.sum_eq_zero (List.forall_mem_map.2 fun other hother ↦
      Int.cast_eq_zero.2 (hnothing other hother))
  refine ⟨List.map_eq_nil_iff.1 hempty, ?_, ?_⟩
  · rw [hworth, if_pos hsettle, hsum, zero_div, sub_zero]
  · have hless := Exact.target_lt_countP (List.forall_mem_map.2 hvalues) htotal
      (List.forall_mem_map.2 hnothing)
    rwa [List.countP_map] at hless

/-- A cent is not enough for any of three, so the first weight takes it, which is zero. -/
theorem allocate_zero_weight_takes_rest_cent :
    let weights : Value := .list [.int 0, .int 1, .int 1, .int 1]
    ∃ parts : List Numeral,
      allocate (.text "0.01") weights (.int 2) (.text "HALF_UP") =
        .ok (inPlaceOf weights (parts.map fun part ↦ .text part.text)) ∧
      ∃ part, parts[0]? = some part ∧ part.worth = 1 / 100 ∧
        (1 / 100 * 10 ^ 2 : ℚ) < (3 : ℕ) := by
  intro weights
  have hweights : weights? weights = some [.int 0, .int 1, .int 1, .int 1] := rfl
  have hdigits : (Value.int 2).count = .ok 2 := rfl
  have hmode : RoundingMode.ofText (Value.text "HALF_UP").toText = .halfUp := by decide +kernel
  obtain ⟨parts, target, hallocate, -, hround, hzero⟩ :=
    allocate_zero_weight_takes_rest (.text "0.01") hweights hdigits hmode
      (by decide +kernel) (by decide +kernel)
  have hworth : target.worth = 1 / 100 :=
    (worth_eq_toRat ⟨1, 2⟩ hround rfl).trans (by decide +kernel)
  rw [hworth] at hzero
  obtain ⟨part, hplace, hpart, hrest⟩ :=
    hzero [] (.int 0) [.int 1, .int 1, .int 1] rfl (by decide +kernel)
  have hcent : part.worth = 1 / 100 := hpart.trans (by decide +kernel)
  have hcount : [Value.int 0, .int 1, .int 1, .int 1].countP
      (fun other ↦ decide (0 < numberOf other)) = 3 := by decide +kernel
  obtain ⟨-, -, hfew⟩ := hrest (by norm_num) (by rw [hcent]; norm_num)
  rw [hcount] at hfew
  exact ⟨parts, hallocate, part, hplace, hcent, hfew⟩

/-- A debt is split among three, and the cent that is left over goes to a weight of zero. -/
theorem allocate_debt_by_zero_weight :
    let weights : List Value := [.int 0, .int 1, .int 1, .int 1]
    (∀ weight ∈ weights, 0 ≤ numberOf weight) ∧ 0 < (weights.map numberOf).sum ∧
    numberOf (.int 0) = 0 ∧
    allocate (.text "-100") (.list weights) (.int 2) (.text "HALF_UP") =
      .ok (.list [.text "-0.01", .text "-33.33", .text "-33.33", .text "-33.33"]) ∧
    numberOf (.text "-0.01") ≠ 0 :=
  ⟨by decide +kernel, by decide +kernel, by decide +kernel, rfl, by decide +kernel⟩

/-! ## Closeness -/

/-- Every part but one is less than a step of the last digit from its exact share, and that one is
less than as many steps off as there are other parts, or less than one if there is no other. -/
theorem allocate_close_to_proportion (hweights : weights? weights = some values)
    (hdigits : digits.count = .ok n) (hmode : RoundingMode.ofText shown.toText = mode)
    (htotal : (values.map numberOf).sum ≠ 0) :
    ∃ (parts : List Numeral) (target : Numeral),
      allocate amount weights digits shown =
        .ok (inPlaceOf weights (parts.map fun part ↦ .text part.text)) ∧
      parts.length = values.length ∧
      round amount digits shown = .ok target.text ∧
      ∃ settled < values.length, ∀ (i : ℕ) (value : Value) (part : Numeral),
        values[i]? = some value → parts[i]? = some part →
        |part.worth - target.worth * numberOf value / (values.map numberOf).sum| <
          (if i = settled then max 1 (values.length - 1) else 1 : ℕ) * (1 / 10 ^ n.toNat) := by
  obtain ⟨parts, target, hallocate, hlength, hround, -, hworths⟩ :=
    exists_settled_parts amount hweights hdigits hmode htotal
  have hne : values.map numberOf ≠ [] := by
    intro hnone
    exact htotal (by rw [hnone, List.sum_nil])
  obtain ⟨settled, hsettled, hclose⟩ :=
    Exact.exists_settle_close (by positivity) hne (Exact.sum_exactShares target.worth htotal)
      fun weight _ ↦ Exact.abs_roundedShare_sub_lt mode n.toNat target.worth _ weight
  rw [List.length_map] at hsettled hclose
  refine ⟨parts, target, hallocate, hlength, hround, settled, hsettled, ?_⟩
  intro i value part hvalue hpart
  apply hclose i
  · rw [List.getElem?_map, hvalue, Option.map_some]
  · rw [← hworths, List.getElem?_map, hpart, Option.map_some]

/-- A hundred split by three, of which two are less than a cent off and one less than two. -/
theorem allocate_close_to_proportion_hundred :
    let weights : Value := .list [.int 1, .int 1, .int 1]
    ∃ parts : List Numeral,
      allocate (.text "100") weights (.int 2) (.text "BANKERS") =
        .ok (inPlaceOf weights (parts.map fun part ↦ .text part.text)) ∧
      ∃ settled < 3, ∀ (i : ℕ) (value : Value) (part : Numeral),
        [Value.int 1, .int 1, .int 1][i]? = some value → parts[i]? = some part →
        |part.worth - 100 * numberOf value / 3| <
          (if i = settled then 2 else 1 : ℕ) * (1 / 10 ^ 2) := by
  intro weights
  have hweights : weights? weights = some [.int 1, .int 1, .int 1] := rfl
  have hdigits : (Value.int 2).count = .ok 2 := rfl
  have hmode : RoundingMode.ofText (Value.text "BANKERS").toText = .bankers := by decide +kernel
  have htotal : ([Value.int 1, .int 1, .int 1].map numberOf).sum = 3 := by decide +kernel
  obtain ⟨parts, target, hallocate, -, hround, hclose⟩ :=
    allocate_close_to_proportion (.text "100") hweights hdigits hmode
      (by rw [htotal]; norm_num)
  have hworth : target.worth = 100 :=
    (worth_eq_toRat ⟨10000, 2⟩ hround rfl).trans (by decide +kernel)
  rw [hworth, htotal] at hclose
  exact ⟨parts, hallocate, hclose⟩

/-! ## Exact shares -/

/-- Parts are exact shares rounded as the mode prescribes and settled, but that a share which
misleads the mode is rounded to one step nearer to zero. -/
theorem allocate_rounds_exact_shares (hweights : weights? weights = some values)
    (hdigits : digits.count = .ok n) (hmode : RoundingMode.ofText shown.toText = mode)
    (htotal : (values.map numberOf).sum ≠ 0) :
    ∃ (parts : List Numeral) (target : Numeral),
      allocate amount weights digits shown =
        .ok (inPlaceOf weights (parts.map fun part ↦ .text part.text)) ∧
      round amount digits shown = .ok target.text ∧
      (∀ part ∈ parts, part.HasPlaces n.toNat) ∧
      let steps := fun value ↦
        target.worth * numberOf value / (values.map numberOf).sum * 10 ^ n.toNat
      parts.map Numeral.worth = Exact.settle target.worth (values.map fun value ↦
        ((mode.choice (steps value) -
          if mode.Misled defaultScale (steps value) then
            (SignType.sign (steps value) : ℤ)
          else 0 : ℤ) : ℚ) / 10 ^ n.toNat) ∧
      ((∀ value ∈ values, ¬mode.Misled defaultScale (steps value)) →
        parts.map Numeral.worth =
          Exact.allocation mode n.toNat target.worth (values.map numberOf)) := by
  obtain ⟨parts, target, hallocate, -, hround, hplaces, hworths⟩ :=
    exists_settled_parts amount hweights hdigits hmode htotal
  refine ⟨parts, target, hallocate, hround, hplaces, ?_⟩
  simp only [List.map_map, Function.comp_def, Exact.roundedShare_eq] at hworths
  intro steps
  refine ⟨hworths, fun hclear ↦ ?_⟩
  rw [hworths, Exact.allocation, List.map_map]
  refine congrArg (Exact.settle _) (List.map_congr_left fun value hvalue ↦ ?_)
  rw [if_neg (hclear value hvalue), sub_zero]
  rfl

/-- A hundred split by three has no share that misleads. -/
theorem allocate_rounds_exact_shares_hundred :
    let weights : Value := .list [.int 1, .int 1, .int 1]
    ∃ parts : List Numeral,
      allocate (.text "100") weights (.int 2) (.text "BANKERS") =
        .ok (inPlaceOf weights (parts.map fun part ↦ .text part.text)) ∧
      parts.map Numeral.worth = Exact.allocation .bankers 2 100 [1, 1, 1] := by
  intro weights
  have hweights : weights? weights = some [.int 1, .int 1, .int 1] := rfl
  have hdigits : (Value.int 2).count = .ok 2 := rfl
  have hmode : RoundingMode.ofText (Value.text "BANKERS").toText = .bankers := by decide +kernel
  obtain ⟨parts, target, hallocate, hround, -, -, hclear⟩ :=
    allocate_rounds_exact_shares (.text "100") hweights hdigits hmode
      (by decide +kernel)
  have hworth : target.worth = 100 :=
    (worth_eq_toRat ⟨10000, 2⟩ hround rfl).trans (by decide +kernel)
  have hnumbers : [Value.int 1, .int 1, .int 1].map numberOf = [1, 1, 1] := by decide +kernel
  rw [hworth, hnumbers] at hclear
  exact ⟨parts, hallocate, hclear (by decide +kernel)⟩

/-- A trillionth is not seen, although every share must be rounded up. -/
theorem allocate_overlooks_trillionth :
    allocate (.text "1") (.list [.text "1", .text "1000000000000"]) (.int 2) (.text "CEIL") =
      .ok (.list [.text "0.00", .text "1.00"]) ∧
    Exact.allocation .ceil 2 (numberOf (.text "1"))
      ([.text "1", .text "1000000000000"].map numberOf) = [1 / 100, 99 / 100] ∧
    [.text "0.00", .text "1.00"].map numberOf ≠ [1 / 100, 99 / 100] :=
  ⟨rfl, by decide +kernel, by decide +kernel⟩

end Amount

end PayFormula

import Mathlib
import PayFormula.Amount.Basic
import PayFormula.Proofs.Decimal.Numeral

/-!
# Allocation Conserves the Amount

The shares of an allocation are rounded one by one, so their sum may miss the amount on either
side.  What is left over is a multiple of the same grid and goes to the first of the largest shares.
The sum of the parts is therefore the rounded amount, whatever the signs of the weights, and writing
the parts with their fixed number of digits changes none of them.
-/

namespace PayFormula

namespace Decimal

/-! ## Sums -/

theorem toRat_foldl_add (a : Decimal) (values : List Decimal) :
    (values.foldl add a).toRat = a.toRat + (values.map toRat).sum := by
  induction values generalizing a with
  | nil => simp
  | cons b rest ih =>
    calc
      (rest.foldl add (a + b)).toRat = (a + b).toRat + (rest.map toRat).sum := ih _
      _ = a.toRat + (b.toRat + (rest.map toRat).sum) := by rw [toRat_add, add_assoc]
      _ = a.toRat + ((b :: rest).map toRat).sum := by rw [List.map_cons, List.sum_cons]

theorem toRat_total (values : List Decimal) : (total values).toRat = (values.map toRat).sum := by
  rw [total, toRat_foldl_add, toRat_zero, zero_add]

theorem places_foldl_add_le {places : ℕ} {a : Decimal} {values : List Decimal}
    (ha : a.places ≤ places) (h : ∀ d ∈ values, d.places ≤ places) :
    (values.foldl add a).places ≤ places := by
  induction values generalizing a with
  | nil => exact ha
  | cons b rest ih =>
    apply ih
    · exact max_le ha (h b List.mem_cons_self)
    · intro d hd
      exact h d (List.mem_cons_of_mem b hd)

theorem places_total_le {places : ℕ} {values : List Decimal}
    (h : ∀ d ∈ values, d.places ≤ places) : (total values).places ≤ places :=
  places_foldl_add_le (Nat.zero_le _) h

/-- A cut that is as fine as the number changes nothing. -/
theorem toRat_truncateAt_of_places_le {places : ℕ} {d : Decimal} (h : d.places ≤ places) :
    (d.truncateAt places).toRat = d.toRat := by
  have hwhole : Exact.towardZero (d.toRat * 10 ^ places) = d.unitsAt places := by
    have hunits := Exact.towardZero_div (d.unitsAt places) 1
    rwa [Int.tdiv_one, Int.cast_one, div_one, unitsAt_eq d h] at hunits
  calc
    (d.truncateAt places).toRat = (d.unitsAt places : ℚ) / 10 ^ places := by
      rw [toRat_truncateAt, Exact.cut, hwhole]
    _ = d.toRat := by
      rw [unitsAt_eq d h]
      exact mul_div_cancel_right₀ _ (by positivity)

/-! ## The largest part -/

theorem greatest_mem (a : Decimal) (rest : List Decimal) : greatest a rest ∈ a :: rest := by
  induction rest generalizing a with
  | nil => exact List.mem_cons_self
  | cons b rest ih =>
    rw [greatest]
    rcases List.mem_cons.1 (ih (if a.lt b then b else a)) with h | h
    · rw [h]
      split <;> simp
    · simp [h]

theorem toRat_le_greatest {a d : Decimal} {rest : List Decimal} (h : d ∈ a :: rest) :
    d.toRat ≤ (greatest a rest).toRat := by
  induction rest generalizing a d with
  | nil => rw [List.mem_singleton.1 h, greatest]
  | cons b rest ih =>
    rw [greatest]
    have hlarger : ∀ c ∈ [a, b], c.toRat ≤ (if a.lt b then b else a).toRat := by
      have hlt := lt_iff a b
      split <;> simp_all [le_of_lt]
    rcases List.mem_cons.1 h with rfl | h
    · exact (hlarger d (by simp)).trans (ih List.mem_cons_self)
    · rcases List.mem_cons.1 h with rfl | h
      · exact (hlarger d (by simp)).trans (ih List.mem_cons_self)
      · exact ih (List.mem_cons_of_mem _ h)

/-- What is left over goes to the first of the largest parts and to no other. -/
theorem addToGreatest_eq (extra : Decimal) {parts : List Decimal} (h : parts ≠ []) :
    ∃ before found after, parts = before ++ found :: after ∧
      addToGreatest extra parts = before ++ (found + extra) :: after ∧
      (∀ d ∈ before, d.toRat < found.toRat) ∧ ∀ d ∈ after, d.toRat ≤ found.toRat := by
  rcases parts with _ | ⟨first, rest⟩
  · exact absurd rfl h
  rw [addToGreatest]
  set target := greatest first rest
  have hmem : target ∈ first :: rest := greatest_mem first rest
  have hdiffers (d : Decimal) : (d.cmp target != .eq) = true ↔ d.toRat ≠ target.toRat := by
    rw [cmp_eq, bne_iff_ne, ne_eq, compare_eq_iff_eq]
  have hsplit := List.takeWhile_append_dropWhile (p := (·.cmp target != .eq)) (l := first :: rest)
  rcases hdrop : (first :: rest).dropWhile (·.cmp target != .eq) with _ | ⟨found, after⟩
  · have hall := List.dropWhile_eq_nil_iff.1 hdrop target hmem
    exact absurd rfl ((hdiffers target).1 hall)
  rw [hdrop] at hsplit
  have hfound : found.toRat = target.toRat := by
    have hhead := List.dropWhile_get_zero_not (·.cmp target != .eq) (first :: rest)
      (by simp [hdrop])
    by_contra hne
    exact hhead (by simpa [hdrop] using (hdiffers found).2 hne)
  have hle : ∀ d ∈ first :: rest, d.toRat ≤ found.toRat := by
    intro d hd
    rw [hfound]
    exact toRat_le_greatest hd
  refine ⟨_, found, after, hsplit.symm, by rw [hdrop], ?_, ?_⟩
  · intro d hd
    have hdiffer := List.mem_takeWhile_imp (p := fun d : Decimal ↦ d.cmp target != .eq) hd
    apply lt_of_le_of_ne
    · exact hle d ((List.takeWhile_prefix _).subset hd)
    · rw [hfound]
      exact (hdiffers d).1 hdiffer
  · intro d hd
    apply hle
    rw [← hsplit]
    simp [hd]

/-! ## The parts -/

/-- Shares of `target` of which one has taken what is left over. -/
def balanced (target : Decimal) (shares : List Decimal) : List Decimal :=
  let left := target - total shares
  if left.isZero then shares else addToGreatest left shares

theorem length_balanced (target : Decimal) (shares : List Decimal) :
    (balanced target shares).length = shares.length := by
  unfold balanced
  dsimp only
  split
  · rfl
  · rcases eq_or_ne shares [] with rfl | hne
    · rfl
    · obtain ⟨before, found, after, hshares, hadded, -⟩ :=
        addToGreatest_eq (target - total shares) hne
      rw [hadded, congrArg List.length hshares]
      simp

theorem sum_balanced (target : Decimal) {shares : List Decimal} (hne : shares ≠ []) :
    ((balanced target shares).map toRat).sum = target.toRat := by
  have hleft : (target - total shares).toRat = target.toRat - (shares.map toRat).sum := by
    rw [toRat_sub, toRat_total]
  unfold balanced
  dsimp only
  split
  · next h =>
    rw [isZero_iff, hleft, sub_eq_zero] at h
    exact h.symm
  · obtain ⟨before, found, after, hshares, hadded, -⟩ :=
      addToGreatest_eq (target - total shares) hne
    have hsum := congrArg (fun parts ↦ (parts.map toRat).sum) hshares
    simp only [List.map_append, List.map_cons, List.sum_append, List.sum_cons] at hsum
    rw [hadded, List.map_append, List.map_cons, List.sum_append, List.sum_cons, toRat_add, hleft]
    linarith

/-- Balancing stays on the grid of the shares. -/
theorem places_balanced_le {places : ℕ} {target : Decimal} {shares : List Decimal}
    (htarget : target.places ≤ places) (hshares : ∀ d ∈ shares, d.places ≤ places) :
    ∀ d ∈ balanced target shares, d.places ≤ places := by
  have hleft : (target - total shares).places ≤ places :=
    max_le htarget (places_total_le hshares)
  unfold balanced
  dsimp only
  split
  · exact hshares
  · rcases eq_or_ne shares [] with rfl | hne
    · exact hshares
    · obtain ⟨before, found, after, heq, hadded, -⟩ :=
        addToGreatest_eq (target - total shares) hne
      rw [heq] at hshares
      intro d hd
      rw [hadded, List.mem_append, List.mem_cons] at hd
      rcases hd with hd | rfl | hd
      · exact hshares d (by simp [hd])
      · exact max_le (hshares found (by simp)) hleft
      · exact hshares d (by simp [hd])

/-- The rounded shares of an amount before they are balanced. -/
def shares (mode : RoundingMode) (places : ℕ) (amount : Decimal) (weights : List Decimal) :
    List Decimal :=
  weights.map fun weight ↦ share mode places (amount.round mode places) weight (total weights)

theorem places_shares {mode : RoundingMode} {places : ℕ} {amount : Decimal}
    {weights : List Decimal} {d : Decimal} (h : d ∈ shares mode places amount weights) :
    d.places = places := by
  obtain ⟨weight, -, rfl⟩ := List.mem_map.1 h
  rfl

theorem allocate_eq_balanced (mode : RoundingMode) (places : ℕ) (amount : Decimal)
    {weights : List Decimal} (htotal : (weights.map toRat).sum ≠ 0) :
    allocate mode places amount weights =
      (balanced (amount.round mode places) (shares mode places amount weights)).map
        (·.truncateAt places) := by
  have hwhole : ¬(total weights).isZero = true := by
    rwa [isZero_iff, toRat_total]
  rw [allocate]
  dsimp only
  rw [if_neg hwhole]
  rfl

theorem length_allocate (mode : RoundingMode) (places : ℕ) (amount : Decimal)
    {weights : List Decimal} (htotal : (weights.map toRat).sum ≠ 0) :
    (allocate mode places amount weights).length = weights.length := by
  rw [allocate_eq_balanced mode places amount htotal, List.length_map, length_balanced, shares,
    List.length_map]

/-- Every part has the digits asked for, also where a whole number would do. -/
theorem places_of_mem_allocate {mode : RoundingMode} {places : ℕ} {amount d : Decimal}
    {weights : List Decimal} (h : d ∈ allocate mode places amount weights) : d.places = places := by
  rw [allocate] at h
  dsimp only at h
  split at h
  · obtain ⟨_, -, rfl⟩ := List.mem_map.1 h
    rfl
  · obtain ⟨_, -, rfl⟩ := List.mem_map.1 h
    rfl

/-- The parts sum to the rounded amount. -/
theorem sum_allocate (mode : RoundingMode) (places : ℕ) (amount : Decimal)
    {weights : List Decimal} (htotal : (weights.map toRat).sum ≠ 0) :
    ((allocate mode places amount weights).map toRat).sum = (amount.round mode places).toRat := by
  have hne : shares mode places amount weights ≠ [] := by
    rintro h
    rw [List.map_eq_nil_iff.1 h] at htotal
    exact htotal rfl
  have hplaces := places_balanced_le (le_refl (amount.round mode places).places)
    fun d (hd : d ∈ shares mode places amount weights) ↦ (places_shares hd).le
  have hcut : ∀ d ∈ balanced (amount.round mode places) (shares mode places amount weights),
      (d.truncateAt places).toRat = d.toRat := by
    intro d hd
    exact toRat_truncateAt_of_places_le (hplaces d hd)
  calc
    _ = ((balanced (amount.round mode places) (shares mode places amount weights)).map
        fun d ↦ (d.truncateAt places).toRat).sum := by
      rw [allocate_eq_balanced mode places amount htotal, List.map_map, Function.comp_def]
    _ = ((balanced (amount.round mode places) (shares mode places amount weights)).map
        toRat).sum := by
      rw [List.map_congr_left hcut]
    _ = (amount.round mode places).toRat := sum_balanced _ hne

end Decimal

namespace Amount

/-! ## Parts as text -/

/-- The weights that a sequence or a mapping holds. -/
def weights? : Value → Option (List Value)
  | .map entries => some (entries.map (·.2))
  | .list items => some items
  | .text s => some (s.toList.map fun c ↦ .text c.toString)
  | _ => none

/-- Parts in the place of weights: under the same keys for a mapping, and otherwise in a list. -/
def inPlaceOf (weights : Value) (parts : List Value) : Value :=
  match weights with
  | .map entries => .map ((entries.map (·.1)).zip parts)
  | _ => .list parts

theorem allocate_eq_inPlaceOf {weights : Value} {values : List Value}
    (hweights : weights? weights = some values) (amount digits mode : Value) :
    allocate amount weights digits mode =
      (allocateParts amount values digits mode).map (inPlaceOf weights) := by
  cases weights with
  | map entries | list items | text s =>
    obtain rfl := Option.some.inj hweights
    rw [allocate]
    cases allocateParts amount _ digits mode <;> rfl
  | _ => simp [weights?] at hweights

theorem allocateParts_eq {digits : Value} {n : ℤ} (hdigits : digits.count = .ok n)
    (amount mode : Value) (values : List Value) :
    allocateParts amount values digits mode =
      .ok ((Decimal.allocate (.ofText mode.toText) n.toNat amount.toDecimal
        (values.map Value.toDecimal)).map fun part ↦ .text part.fixed) := by
  rw [allocateParts, precision, hdigits]
  rfl

theorem round_eq {digits : Value} {n : ℤ} (hdigits : digits.count = .ok n) (amount mode : Value) :
    round amount digits mode =
      .ok (amount.toDecimal.round (.ofText mode.toText) n.toNat).fixed := by
  rw [round, roundBy, precision, hdigits]
  rfl

/-- Nothing is lost and nothing is made in an allocation: there is one part for each weight, every
part is written with the digits asked for, and what the parts are worth sums to the amount as
rounding alone would write it.  The weights may have any sign. -/
theorem allocate_conserves {amount weights digits mode : Value} {values : List Value} {n : ℤ}
    (hweights : weights? weights = some values) (hdigits : digits.count = .ok n)
    (htotal : (values.map fun weight ↦ weight.toDecimal.toRat).sum ≠ 0) :
    ∃ (parts : List Numeral) (rounded : Numeral),
      allocate amount weights digits mode =
        .ok (inPlaceOf weights (parts.map fun part ↦ .text part.text)) ∧
      parts.length = values.length ∧ (∀ part ∈ parts, part.HasPlaces n.toNat) ∧
      round amount digits mode = .ok rounded.text ∧
      (parts.map Numeral.worth).sum = rounded.worth := by
  have htotal' : ((values.map Value.toDecimal).map Decimal.toRat).sum ≠ 0 := by
    rwa [List.map_map]
  set rounding := RoundingMode.ofText mode.toText
  set parts := Decimal.allocate rounding n.toNat amount.toDecimal (values.map Value.toDecimal)
    with hparts
  refine ⟨parts.map Decimal.numeral, (amount.toDecimal.round rounding n.toNat).numeral,
    ?_, ?_, ?_, ?_, ?_⟩
  · have htexts : (parts.map Decimal.numeral).map (fun part ↦ Value.text part.text) =
        parts.map fun part ↦ .text part.fixed := by
      simp only [List.map_map, Function.comp_def, Decimal.text_numeral]
    rw [allocate_eq_inPlaceOf hweights, allocateParts_eq hdigits, htexts]
    rfl
  · rw [List.length_map, Decimal.length_allocate _ _ _ htotal', List.length_map]
  · intro part hpart
    obtain ⟨d, hd, rfl⟩ := List.mem_map.1 hpart
    rw [← Decimal.places_of_mem_allocate hd]
    exact d.hasPlaces_numeral
  · rw [round_eq hdigits, Decimal.text_numeral]
  · simp only [List.map_map, Function.comp_def, Decimal.worth_numeral]
    exact Decimal.sum_allocate _ _ _ htotal'

theorem allocate_conserves_mixed_weights :
    let weights : Value :=
      .map [(.text "base", .text "2"), (.text "bonus", .int 0), (.text "fee", .text "-0.5")]
    ∃ (parts : List Numeral) (rounded : Numeral),
      allocate (.text "100.005") weights (.int 2) (.text "HALF_UP") =
        .ok (inPlaceOf weights (parts.map fun part ↦ .text part.text)) ∧
      parts.length = 3 ∧ (∀ part ∈ parts, part.HasPlaces 2) ∧
      round (.text "100.005") (.int 2) (.text "HALF_UP") = .ok rounded.text ∧
      (parts.map Numeral.worth).sum = rounded.worth :=
  have htotal : (([.text "2", .int 0, .text "-0.5"] : List Value).map
      fun weight ↦ weight.toDecimal.toRat).sum ≠ 0 := by decide +kernel
  allocate_conserves (n := 2) rfl rfl htotal

end Amount

end PayFormula

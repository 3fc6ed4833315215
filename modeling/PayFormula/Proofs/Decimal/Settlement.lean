import Mathlib
import PayFormula.Proofs.Decimal.Choice
import PayFormula.Proofs.Decimal.Shares

/-!
# Settling an Allocation

The parts of an allocation are rounded shares of which one, the first of the largest, is settled: it
takes what all of them together miss of the target.  Over the rationals this is one change at one
place of a list, so every other part stays as its share was rounded, less than one step from its
exact share.  The settled part answers for the errors of all the others and for no error of its own.
-/

namespace PayFormula

namespace Exact

/-! ## The settled share -/

/-- The place of the first share that no other exceeds. -/
def firstLargest (shares : List ℚ) : ℕ := shares.findIdx fun share ↦ shares.all (· ≤ share)

/-- Shares of which the first of the largest takes what they all miss of the target. -/
def settle (target : ℚ) (shares : List ℚ) : List ℚ :=
  shares.modify (firstLargest shares) (· + (target - shares.sum))

variable {before after shares : List ℚ} {share : ℚ}

theorem firstLargest_lt_length (h : shares ≠ []) : firstLargest shares < shares.length := by
  obtain ⟨largest, hmem, hlargest⟩ :=
    shares.toFinset.exists_max_image id (List.toFinset_nonempty_iff shares |>.2 h)
  simp only [List.mem_toFinset, id] at hmem hlargest
  exact List.findIdx_lt_length.2 ⟨largest, hmem, List.all_eq_true.2 fun other hother ↦
    decide_eq_true (hlargest other hother)⟩

theorem firstLargest_eq_length_iff :
    firstLargest (before ++ share :: after) = before.length ↔
      (∀ other ∈ before, other < share) ∧ ∀ other ∈ after, other ≤ share := by
  have hplace : before.length < (before ++ share :: after).length := by simp
  have hall (largest : ℚ) : (before ++ share :: after).all (· ≤ largest) = true ↔
      (∀ other ∈ before, other ≤ largest) ∧ share ≤ largest ∧ ∀ other ∈ after, other ≤ largest := by
    simp
  rw [firstLargest, List.findIdx_eq hplace]
  simp only [hall, ← Bool.not_eq_true, List.getElem_append_right le_rfl, Nat.sub_self,
    List.getElem_cons_zero]
  constructor
  · rintro ⟨⟨hbefore, -, hafter⟩, hfirst⟩
    refine ⟨fun other hother ↦ (hbefore other hother).lt_of_ne ?_, hafter⟩
    rintro rfl
    obtain ⟨place, hlt, rfl⟩ := List.getElem_of_mem hother
    apply hfirst place hlt
    rw [List.getElem_append_left hlt]
    exact ⟨hbefore, le_rfl, hafter⟩
  · rintro ⟨hbefore, hafter⟩
    refine ⟨⟨fun other hother ↦ (hbefore other hother).le, le_rfl, hafter⟩, ?_⟩
    intro place hlt hlargest
    rw [List.getElem_append_left hlt] at hlargest
    exact (hbefore _ (List.getElem_mem hlt)).not_ge hlargest.2.1

@[simp]
theorem length_settle (target : ℚ) (shares : List ℚ) :
    (settle target shares).length = shares.length :=
  List.length_modify ..

/-- Settling changes the share at one place. -/
theorem getElem?_settle (target : ℚ) (shares : List ℚ) (i : ℕ) :
    (settle target shares)[i]? = shares[i]?.map fun share ↦
      if i = firstLargest shares then share + (target - shares.sum) else share := by
  rw [settle, List.getElem?_modify, Option.map_eq_map]
  simp only [eq_comm]

theorem settle_append_cons (hbefore : ∀ other ∈ before, other < share)
    (hafter : ∀ other ∈ after, other ≤ share) (target : ℚ) :
    settle target (before ++ share :: after) =
      before ++ (target - (before ++ after).sum) :: after := by
  have hplace := firstLargest_eq_length_iff.2 ⟨hbefore, hafter⟩
  rw [settle, hplace, List.modify_eq_take_cons_drop (by simp)]
  simp
  ring

/-- A share of no steps is settled only where all before it are negative and none is positive. -/
theorem getElem?_settle_steps (target : ℚ) (places : ℕ) (before after : List ℤ) :
    (settle target
        ((before ++ 0 :: after).map fun steps : ℤ ↦ (steps : ℚ) / 10 ^ places))[before.length]? =
      some (if (∀ other ∈ before, other < 0) ∧ ∀ other ∈ after, other ≤ 0 then
        target - ((before ++ 0 :: after).map fun steps : ℤ ↦ (steps : ℚ)).sum / 10 ^ places
      else 0) := by
  have hunit : (0 : ℚ) < 10 ^ places := by positivity
  have hsum (steps : List ℤ) : (steps.map fun steps : ℤ ↦ (steps : ℚ) / 10 ^ places).sum =
      (steps.map fun steps : ℤ ↦ (steps : ℚ)).sum / 10 ^ places := by
    simp only [div_eq_mul_inv, List.sum_map_mul_right]
  set grid := fun steps : ℤ ↦ (steps : ℚ) / 10 ^ places with hgrid
  have hfirst : before.length = firstLargest ((before ++ 0 :: after).map grid) ↔
      (∀ other ∈ before, other < 0) ∧ ∀ other ∈ after, other ≤ 0 := by
    have hiff : firstLargest (before.map grid ++ grid 0 :: after.map grid) =
        (before.map grid).length ↔ _ := firstLargest_eq_length_iff
    rw [List.length_map, ← List.map_cons, ← List.map_append, eq_comm] at hiff
    rw [hiff]
    simp only [List.forall_mem_map, hgrid, div_lt_div_iff_of_pos_right hunit,
      div_le_div_iff_of_pos_right hunit, Int.cast_lt, Int.cast_le]
  rw [getElem?_settle, List.getElem?_map, List.getElem?_append_right le_rfl, Nat.sub_self,
    List.getElem?_cons_zero, Option.map_some, Option.map_some]
  simp only [hfirst, hsum]
  simp [hgrid]

/-- Among shares that are not negative, one of no steps is settled only if it is the first and all
the others are alike. -/
theorem eq_nil_of_settled_steps {before after : List ℤ}
    (hnonneg : ∀ steps ∈ before ++ 0 :: after, 0 ≤ steps)
    (hbefore : ∀ other ∈ before, other < 0) (hafter : ∀ other ∈ after, other ≤ 0) :
    before = [] ∧ ∀ steps ∈ before ++ 0 :: after, steps = 0 := by
  obtain ⟨hbefore', -, hafter'⟩ := by
    simpa only [List.forall_mem_append, List.forall_mem_cons] using hnonneg
  have hempty : before = [] := List.eq_nil_iff_forall_not_mem.2 fun other hother ↦
    (hbefore other hother).not_ge (hbefore' other hother)
  refine ⟨hempty, ?_⟩
  rw [hempty, List.nil_append, List.forall_mem_cons]
  exact ⟨rfl, fun other hother ↦ (hafter other hother).antisymm (hafter' other hother)⟩

/-! ## Errors -/

/-- Fewer than one error each. -/
theorem abs_sum_lt {unit : ℚ} {errors : List ℚ} (hne : errors ≠ [])
    (h : ∀ error ∈ errors, |error| < unit) : |errors.sum| < errors.length * unit := by
  induction errors with
  | nil => exact absurd rfl hne
  | cons error rest ih =>
    obtain ⟨herror, hrest⟩ := List.forall_mem_cons.1 h
    rcases eq_or_ne rest [] with rfl | hmore
    · simpa using herror
    · calc
        |(error :: rest).sum| = |error + rest.sum| := by rw [List.sum_cons]
        _ ≤ |error| + |rest.sum| := abs_add_le _ _
        _ < unit + rest.length * unit := add_lt_add herror (ih hmore hrest)
        _ = (error :: rest).length * unit := by
          rw [List.length_cons]
          push_cast
          ring

/-- The settled part is off by the errors of the other shares. -/
theorem abs_settled_sub_lt {unit target : ℚ} {rounded exact : ℚ → ℚ} {before after : List ℚ}
    {weight : ℚ} (hunit : 0 < unit)
    (hsum : ((before ++ weight :: after).map exact).sum = target)
    (hclose : ∀ other ∈ before ++ after, |rounded other - exact other| < unit) :
    |rounded weight + (target - ((before ++ weight :: after).map rounded).sum) - exact weight| <
      (max 1 ((before ++ weight :: after).length - 1) : ℕ) * unit := by
  set others := before ++ after with hothers
  have herrors : (others.map fun other ↦ exact other - rounded other).sum =
      (others.map exact).sum - (others.map rounded).sum := by
    simpa using Multiset.sum_map_sub (m := (others : Multiset ℚ)) (f := exact) (g := rounded)
  have hsettled : rounded weight + (target - ((before ++ weight :: after).map rounded).sum) -
      exact weight = (others.map fun other ↦ exact other - rounded other).sum := by
    rw [herrors, ← hsum, hothers]
    simp only [List.map_append, List.map_cons, List.sum_append, List.sum_cons]
    ring
  have hcount : (before ++ weight :: after).length - 1 = others.length := by
    simp [hothers]
  rw [hsettled, hcount]
  rcases eq_or_ne others [] with hnone | hsome
  · simpa [hnone] using hunit
  · have hpos : 1 ≤ others.length := List.length_pos_iff.2 hsome
    have hlt := abs_sum_lt (mt List.map_eq_nil_iff.1 hsome)
      (List.forall_mem_map.2 fun other hother ↦
        (abs_sub_comm (exact other) (rounded other)).trans_lt (hclose other hother))
    rwa [List.length_map, ← max_eq_right hpos] at hlt

/-- Where every share is rounded to less than one unit from the exact one, every part but the
settled one is so as well, and the settled one is less than as many units off as there are other
parts. -/
theorem exists_settle_close {unit target : ℚ} {rounded exact : ℚ → ℚ} {weights : List ℚ}
    (hunit : 0 < unit) (hne : weights ≠ []) (hsum : (weights.map exact).sum = target)
    (hclose : ∀ weight ∈ weights, |rounded weight - exact weight| < unit) :
    ∃ settled < weights.length, ∀ (i : ℕ) (weight part : ℚ), weights[i]? = some weight →
      (settle target (weights.map rounded))[i]? = some part →
      |part - exact weight| <
        (if i = settled then max 1 (weights.length - 1) else 1 : ℕ) * unit := by
  refine ⟨firstLargest (weights.map rounded), ?_, ?_⟩
  · have hrounded : weights.map rounded ≠ [] := mt List.map_eq_nil_iff.1 hne
    exact (firstLargest_lt_length hrounded).trans_eq (List.length_map rounded)
  · intro i weight part hweight hpart
    have hmem := List.mem_of_getElem? hweight
    rw [getElem?_settle, List.getElem?_map, hweight, Option.map_some, Option.map_some,
      Option.some_inj] at hpart
    rw [← hpart]
    split
    · obtain ⟨before, after, rfl⟩ := List.append_of_mem hmem
      exact abs_settled_sub_lt hunit hsum fun other hother ↦ hclose other (by grind)
    · simpa using hclose weight hmem

/-! ## Rounded shares -/

/-- The steps of `10 ^ -places` that a weight is given before one of them is settled. -/
def roundedShare (mode : RoundingMode) (places : ℕ) (target total weight : ℚ) : ℤ :=
  mode.choice (cut defaultScale (target * weight / total * 10 ^ places))

/-- Exact shares rounded as the mode prescribes and settled. -/
def allocation (mode : RoundingMode) (places : ℕ) (target : ℚ) (weights : List ℚ) : List ℚ :=
  settle target (weights.map fun weight ↦
    (mode.choice (target * weight / weights.sum * 10 ^ places) : ℚ) / 10 ^ places)

variable (mode : RoundingMode) (places : ℕ) (target total weight : ℚ)

theorem roundedShare_zero : roundedShare mode places target total 0 = 0 := by
  have hzero := (mode.prescribes_choice 0).eq_zero
  rw [roundedShare, mul_zero, zero_div, zero_mul, cut_zero, hzero]

/-- Digits that were cut before the rounding can only leave a share one step nearer to zero. -/
theorem roundedShare_eq :
    roundedShare mode places target total weight =
      mode.choice (target * weight / total * 10 ^ places) -
        if mode.Misled defaultScale (target * weight / total * 10 ^ places) then
          (SignType.sign (target * weight / total * 10 ^ places) : ℤ)
        else 0 :=
  mode.choice_cut (by decide) _

theorem abs_roundedShare_sub_lt :
    |(roundedShare mode places target total weight : ℚ) / 10 ^ places - target * weight / total| <
      1 / 10 ^ places := by
  have hunit : (0 : ℚ) < 10 ^ places := by positivity
  set exact := target * weight / total with hexact
  have hsteps := mode.abs_choice_cut_sub_lt_one defaultScale (exact * 10 ^ places)
  have hscaled : (roundedShare mode places target total weight : ℚ) / 10 ^ places - exact =
      (roundedShare mode places target total weight - exact * 10 ^ places) / 10 ^ places := by
    rw [sub_div, mul_div_cancel_right₀ _ hunit.ne']
  rw [hscaled, abs_div, abs_of_pos hunit]
  exact div_lt_div_of_pos_right hsteps hunit

section Nonnegative

variable {mode places target total weight}

theorem roundedShare_nonneg (htarget : 0 ≤ target) (htotal : 0 ≤ total) (hweight : 0 ≤ weight) :
    0 ≤ roundedShare mode places target total weight :=
  (mode.prescribes_choice _).nonneg (cut_nonneg _ (by positivity))

theorem cast_countP_pos (weights : List ℚ) :
    ((weights.countP fun weight ↦ decide (0 < weight) : ℕ) : ℚ) =
      (weights.map fun weight ↦ if 0 < weight then (1 : ℚ) else 0).sum := by
  induction weights with
  | nil => rfl
  | cons weight rest ih => by_cases h : 0 < weight <;> simp [h, ih, add_comm]

/-- A target of which no weight is given a step has fewer steps than there are positive weights. -/
theorem target_lt_countP {weights : List ℚ} (hweights : ∀ weight ∈ weights, 0 ≤ weight)
    (htotal : 0 < weights.sum)
    (hshares : ∀ weight ∈ weights, roundedShare mode places target weights.sum weight = 0) :
    target * 10 ^ places < (weights.countP fun weight ↦ decide (0 < weight)) := by
  have hsteps (weight : ℚ) (hmem : weight ∈ weights) :
      target * weight / weights.sum * 10 ^ places < 1 := by
    have hclose := mode.abs_choice_cut_sub_lt_one defaultScale
      (target * weight / weights.sum * 10 ^ places)
    rw [← roundedShare, hshares weight hmem, Int.cast_zero, zero_sub, abs_neg] at hclose
    exact (le_abs_self _).trans_lt hclose
  have hpositive : ∃ weight ∈ weights, 0 < weight := by
    by_contra! hnone
    exact htotal.not_ge ((List.sum_le_card_nsmul weights 0 hnone).trans_eq (nsmul_zero _))
  calc
    target * 10 ^ places =
        (weights.map fun weight ↦ target * weight / weights.sum * 10 ^ places).sum := by
      rw [List.sum_map_mul_right, sum_exactShares target htotal.ne']
    _ < (weights.map fun weight ↦ if 0 < weight then (1 : ℚ) else 0).sum := by
      apply List.sum_lt_sum
      · intro weight hmem
        split
        · exact (hsteps weight hmem).le
        · next h =>
          rw [le_antisymm (not_lt.1 h) (hweights weight hmem)]
          simp
      · obtain ⟨weight, hmem, hpos⟩ := hpositive
        refine ⟨weight, hmem, ?_⟩
        rw [if_pos hpos]
        exact hsteps weight hmem
    _ = _ := (cast_countP_pos weights).symm

end Nonnegative

end Exact

namespace Decimal

/-! ## Allocations are settled -/

theorem toRat_share_eq_roundedShare (mode : RoundingMode) (places : ℕ)
    (target weight whole : Decimal) :
    (share mode places target weight whole).toRat =
      Exact.roundedShare mode places target.toRat whole.toRat weight.toRat / 10 ^ places := by
  have hprescribed := share_prescribes mode places target weight whole
  rw [Exact.cut_add_mul] at hprescribed
  rw [toRat_share, hprescribed.eq_choice]
  rfl

/-- The parts are the rounded shares of the rounded amount, settled. -/
theorem map_toRat_allocate (mode : RoundingMode) (places : ℕ) (amount : Decimal)
    {weights : List Decimal} (htotal : (weights.map toRat).sum ≠ 0) :
    (allocate mode places amount weights).map toRat =
      Exact.settle (amount.round mode places).toRat ((weights.map toRat).map fun weight ↦
        (Exact.roundedShare mode places (amount.round mode places).toRat (weights.map toRat).sum
          weight : ℚ) / 10 ^ places) := by
  set rounded := fun weight : ℚ ↦
    (Exact.roundedShare mode places (amount.round mode places).toRat (weights.map toRat).sum
      weight : ℚ) / 10 ^ places with hrounded
  have hshare (weight : Decimal) :
      (share mode places (amount.round mode places) weight (total weights)).toRat =
        rounded weight.toRat := by
    rw [toRat_share_eq_roundedShare, toRat_total]
  obtain ⟨before, weight, after, charged, hsplit, hallocate, hcharged, hbefore, hafter⟩ :=
    exists_allocate_eq mode places amount htotal
  simp only [hshare] at hcharged hbefore hafter
  have hparts : (allocate mode places amount weights).map toRat =
      (before.map fun other ↦ rounded other.toRat) ++
        charged.toRat :: after.map fun other ↦ rounded other.toRat := by
    rw [hallocate, List.map_append, List.map_cons, List.map_map, List.map_map]
    simp only [Function.comp_def, hshare]
  have hshares : (weights.map toRat).map rounded =
      (before.map fun other ↦ rounded other.toRat) ++
        rounded weight.toRat :: after.map fun other ↦ rounded other.toRat := by
    rw [hsplit, List.map_map, List.map_append, List.map_cons]
    rfl
  rw [hparts, hshares, hcharged, Exact.settle_append_cons, List.map_append]
  · exact List.forall_mem_map.2 hbefore
  · exact List.forall_mem_map.2 hafter

end Decimal

end PayFormula

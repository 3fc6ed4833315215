import Mathlib
import PayFormula.Proofs.Decimal.Conservation
import PayFormula.Proofs.Decimal.Prescription

/-!
# The Part That Is Charged

All parts of an allocation but one are rounded shares.  The first of the largest shares is charged
with what rounding leaves over, so its part is the target less all other shares.  Where neither the
target nor a weight is negative, the other shares together exceed what they are exactly worth by no
more than the mode can add to each of them.  A largest share of enough steps makes up for that, and
if all shares are smaller, a target that is large enough covers them.  How many steps are enough
depends on the mode and on the number of weights that are not zero.
-/

namespace PayFormula

namespace RoundingMode

/-! ## How far a mode goes up -/

/-- A bound on what a mode adds to a number that is not negative. -/
def excess : RoundingMode → ℚ
  | floor | truncate => 0
  | ceil => 1
  | halfUp | halfDown | bankers => 1 / 2

/-- The most steps of a largest share that what the mode adds to the others of `count` shares can
overdraw. -/
def overdrawn (mode : RoundingMode) (count : ℕ) : ℕ :=
  match mode with
  | floor | truncate => 0
  | ceil => count - 2
  | halfUp => (count - 2) / 2
  | halfDown => (count - 3) / 2
  | bankers => if 4 ∣ count then (count - 4) / 2 else (count - 2) / 2

variable {mode : RoundingMode} {q : ℚ} {n : ℤ}

/-- So few shares never overdraw one that has a step. -/
theorem overdrawn_eq_zero_iff {count : ℕ} :
    mode.overdrawn count = 0 ↔
      match mode with
      | floor | truncate => True
      | ceil => count ≤ 2
      | halfUp => count ≤ 3
      | halfDown | bankers => count ≤ 4 := by
  cases mode with simp only [overdrawn]
  | bankers => split <;> omega
  | _ => omega

theorem Prescribes.le_add_excess (h : mode.Prescribes q n) (hq : 0 ≤ q) :
    (n : ℚ) ≤ q + mode.excess := by
  have hnearest {preferred : ℤ → ℤ → Prop} (h : Exact.IsNearest preferred q n) :
      (n : ℚ) ≤ q + 1 / 2 := by
    linarith [h.sub_half_le]
  have hgreatest (h : IsGreatest {m : ℤ | (m : ℚ) ≤ q} n) : (n : ℚ) ≤ q + 0 :=
    (add_zero q).symm ▸ h.1
  cases mode with simp only [Prescribes, excess] at h ⊢
  | halfUp | halfDown | bankers => exact hnearest h
  | floor => exact hgreatest h
  | ceil => linarith [sub_one_lt_of_isLeast h]
  | truncate =>
    rw [if_pos hq] at h
    exact hgreatest h

/-- A share of more steps is not overdrawn: what the mode adds to the others is less than one step
more than it. -/
theorem Prescribes.excess_lt (h : mode.Prescribes q n) (hq : 0 ≤ q) {others : ℕ}
    (hn : mode.overdrawn (others + 1) < n) : others * mode.excess < q + 1 := by
  have hhalf {bound : ℤ} (hothers : (others : ℤ) ≤ bound) : (others : ℚ) * (1 / 2) ≤ bound / 2 := by
    have hcast : (others : ℚ) ≤ bound := by exact_mod_cast hothers
    linarith
  cases mode with simp only [Prescribes, overdrawn, excess] at h hn ⊢
  | floor | truncate => linarith
  | ceil =>
    have hothers : (others : ℚ) ≤ n := by exact_mod_cast (by omega : (others : ℤ) ≤ n)
    linarith [sub_one_lt_of_isLeast h]
  | halfUp =>
    have hothers := hhalf (by omega : (others : ℤ) ≤ 2 * n)
    push_cast at hothers
    linarith [h.sub_half_le]
  | halfDown =>
    have hothers := hhalf (by omega : (others : ℤ) ≤ 2 * n + 1)
    push_cast at hothers
    linarith [h.sub_half_lt (by rw [abs_of_pos (by omega), abs_of_nonneg (by omega)]; omega)]
  | bankers =>
    by_cases hfew : 2 * n < others
    · -- then the count is a multiple of four, and no tie went up to the odd `n`
      have hodd : ¬Even n := by
        rw [Int.even_iff]
        split at hn <;> omega
      have hothers := hhalf (by split at hn <;> omega : (others : ℤ) ≤ 2 * n + 1)
      push_cast at hothers
      linarith [h.sub_half_lt hodd]
    · have hothers := hhalf (by omega : (others : ℤ) ≤ 2 * n)
      push_cast at hothers
      linarith [h.sub_half_le]

/-- Where one step can be overdrawn, a mode takes each of `count` equal shares of `count - 2` steps
for a whole one. -/
theorem exists_prescribes_one {count : ℕ} (h : 0 < mode.overdrawn count) :
    2 < count ∧ ∃ least : ℚ, 0 ≤ least ∧ least ≤ ((count : ℚ) - 2) / count ∧
      Exact.cut defaultScale least = least ∧ mode.Prescribes least 1 := by
  have hmore {fewer : ℕ} (hpos : 0 < fewer) (hle : fewer ≤ count) :
      ((fewer : ℚ) - 2) / fewer ≤ ((count : ℚ) - 2) / count := by
    have hcast : (fewer : ℚ) ≤ count := by exact_mod_cast hle
    have hfewer : (0 : ℚ) < fewer := by exact_mod_cast hpos
    rw [div_le_div_iff₀ hfewer (hfewer.trans_le hcast)]
    linarith
  have hcut {least : ℚ} (units : ℤ) (hnonneg : 0 ≤ least) (hunits : least * 10 ^ 10 = units) :
      Exact.cut defaultScale least = least := by
    rw [Exact.cut, defaultScale, Exact.towardZero_of_nonneg (by positivity), hunits,
      Int.floor_intCast, ← hunits, mul_div_cancel_right₀ _ (by positivity)]
  have hfive (hcount : 5 ≤ count) {preferred : ℤ → ℤ → Prop} :
      2 < count ∧ ∃ least : ℚ, 0 ≤ least ∧ least ≤ ((count : ℚ) - 2) / count ∧
        Exact.cut defaultScale least = least ∧ Exact.IsNearest preferred least 1 :=
    ⟨by omega, 3 / 5, by norm_num, le_trans (by norm_num) (hmore (by norm_num) hcount),
      hcut 6000000000 (by norm_num) (by norm_num),
      Exact.isNearest_of_abs_sub_lt_half (by norm_num [abs_lt])⟩
  have hmany := mt overdrawn_eq_zero_iff.2 h.ne'
  cases mode with simp only [Prescribes, not_true_eq_false] at hmany ⊢
  | halfUp =>
    have hcount : 4 ≤ count := not_le.1 hmany
    exact ⟨by omega, 1 / 2, by norm_num, le_trans (by norm_num) (hmore (by norm_num) hcount),
      hcut 5000000000 (by norm_num) (by norm_num),
      Exact.isNearest_of_midpoint (m := 0) (by norm_num) (by norm_num) (by norm_num)⟩
  | ceil =>
    have hcount : 3 ≤ count := not_le.1 hmany
    have hceil : ⌈(3 / 10 : ℚ)⌉ = 1 := by norm_num
    exact ⟨hcount, 3 / 10, by norm_num, le_trans (by norm_num) (hmore (by norm_num) hcount),
      hcut 3000000000 (by norm_num) (by norm_num), hceil ▸ isLeast_ceil _⟩
  | halfDown | bankers => exact hfive (not_le.1 hmany)

end RoundingMode

namespace Exact

/-- The exact shares of all weights make up the target. -/
theorem sum_exactShares (target : ℚ) {weights : List ℚ} (htotal : weights.sum ≠ 0) :
    (weights.map fun weight ↦ target * weight / weights.sum).sum = target := by
  calc
    _ = (weights.map fun weight ↦ target / weights.sum * weight).sum := by
      simp only [mul_div_right_comm]
    _ = target / weights.sum * (weights.map fun weight ↦ weight).sum := List.sum_map_mul_left ..
    _ = target := by rw [List.map_id', div_mul_cancel₀ _ htotal]

end Exact

namespace Decimal

/-! ## Shares -/

/-- The share of one weight before it is rounded. -/
def exactShare (target weight whole : Decimal) : ℚ := target.toRat * weight.toRat / whole.toRat

section Shares

variable (mode : RoundingMode) (places : ℕ) {target weight whole : Decimal}

/-- The digits that are kept for rounding are those of the exact share. -/
theorem share_prescribes (target weight whole : Decimal) :
    mode.Prescribes
      (Exact.cut (defaultScale + places) (exactShare target weight whole) * 10 ^ places)
      (share mode places target weight whole).coefficient := by
  have hrounded := round_prescribes mode places
    (quotientAt (defaultScale + places) (target * weight) whole)
  rwa [toRat_quotientAt, toRat_mul] at hrounded

theorem toRat_share (target weight whole : Decimal) :
    (share mode places target weight whole).toRat =
      (share mode places target weight whole).coefficient / 10 ^ places :=
  toRat_eq _

theorem exactShare_nonneg (htarget : 0 ≤ target.toRat) (hweight : 0 ≤ weight.toRat)
    (hwhole : 0 < whole.toRat) : 0 ≤ exactShare target weight whole :=
  div_nonneg (mul_nonneg htarget hweight) hwhole.le

theorem share_nonneg (h : 0 ≤ exactShare target weight whole) :
    0 ≤ (share mode places target weight whole).toRat := by
  have hcut := Exact.cut_nonneg (defaultScale + places) h
  have hcoefficient := (share_prescribes mode places target weight whole).nonneg (by positivity)
  rw [toRat_share]
  positivity

theorem share_of_weight_eq_zero (target whole : Decimal) (h : weight.toRat = 0) :
    (share mode places target weight whole).toRat = 0 := by
  have hprescribed := share_prescribes mode places target weight whole
  have hexact : exactShare target weight whole = 0 := by
    rw [exactShare, h, mul_zero, zero_div]
  rw [hexact, Exact.cut, zero_mul, Exact.towardZero_of_nonneg le_rfl, Int.floor_zero, Int.cast_zero,
    zero_div, zero_mul] at hprescribed
  rw [toRat_share, hprescribed.eq_zero, Int.cast_zero, zero_div]

theorem share_le (h : 0 ≤ exactShare target weight whole) :
    (share mode places target weight whole).toRat ≤
      exactShare target weight whole + mode.excess / 10 ^ places := by
  have hpos : (0 : ℚ) < 10 ^ places := by positivity
  have hcut := Exact.cut_nonneg (defaultScale + places) h
  calc
    (share mode places target weight whole).toRat
      ≤ (Exact.cut (defaultScale + places) (exactShare target weight whole) * 10 ^ places +
          mode.excess) / 10 ^ places := by
        rw [toRat_share]
        apply div_le_div_of_nonneg_right _ hpos.le
        exact (share_prescribes mode places target weight whole).le_add_excess (by positivity)
    _ = Exact.cut (defaultScale + places) (exactShare target weight whole) +
          mode.excess / 10 ^ places := by rw [add_div, mul_div_cancel_right₀ _ hpos.ne']
    _ ≤ exactShare target weight whole + mode.excess / 10 ^ places := by
        gcongr
        exact Exact.cut_le _ h

/-- Only shares of weights that are not zero can have something added. -/
theorem sum_share_le (base : Decimal → ℚ) {extra : ℚ} {weights : List Decimal}
    (hweights : ∀ weight ∈ weights,
      (share mode places target weight whole).toRat ≤ base weight + extra)
    (hbase : ∀ weight ∈ weights, 0 ≤ base weight) :
    (weights.map fun weight ↦ (share mode places target weight whole).toRat).sum ≤
      (weights.map base).sum + (weights.countP fun weight ↦ !weight.isZero) * extra := by
  induction weights with
  | nil => simp
  | cons weight rest ih =>
    obtain ⟨hweight, hrest⟩ := List.forall_mem_cons.1 hweights
    obtain ⟨hnonneg, hbaseRest⟩ := List.forall_mem_cons.1 hbase
    have hsum := ih hrest hbaseRest
    rw [List.map_cons, List.sum_cons, List.map_cons, List.sum_cons, List.countP_cons]
    cases hzero : weight.isZero with
    | true =>
      rw [share_of_weight_eq_zero mode places target whole ((isZero_iff weight).1 hzero)]
      simp only [Bool.not_true, Bool.false_eq_true, if_false, add_zero]
      linarith
    | false =>
      simp only [Bool.not_false, if_true]
      push_cast
      linarith

end Shares

theorem sum_exactShare (target : Decimal) {weights : List Decimal}
    (htotal : (weights.map toRat).sum ≠ 0) :
    (weights.map fun weight ↦ exactShare target weight (total weights)).sum = target.toRat := by
  have hsum := Exact.sum_exactShares target.toRat htotal
  rwa [List.map_map, ← toRat_total] at hsum

/-! ## The charged part -/

theorem truncateAt_places (d : Decimal) : d.truncateAt d.places = d := by
  have hunit : (tenTo d.places : ℤ) ≠ 0 := by exact_mod_cast (tenTo_pos d.places).ne'
  rw [truncateAt, Int.mul_tdiv_cancel _ hunit]

/-- Balancing changes one of the largest shares, the first, and no other. -/
theorem exists_balanced_eq (target : Decimal) {shares : List Decimal} (hne : shares ≠ []) :
    ∃ before found after charged, shares = before ++ found :: after ∧
      balanced target shares = before ++ charged :: after ∧
      (∀ d ∈ before, d.toRat < found.toRat) ∧ ∀ d ∈ after, d.toRat ≤ found.toRat := by
  obtain ⟨before, found, after, hshares, hadded, hbefore, hafter⟩ :=
    addToGreatest_eq (target - total shares) hne
  unfold balanced
  dsimp only
  split
  · exact ⟨before, found, after, found, hshares, hshares, hbefore, hafter⟩
  · exact ⟨before, found, after, _, hshares, hadded, hbefore, hafter⟩

/-- All parts are rounded shares but one, that of the first of the largest shares, which is the
target less the others. -/
theorem exists_allocate_eq (mode : RoundingMode) (places : ℕ) (amount : Decimal)
    {weights : List Decimal} (htotal : (weights.map toRat).sum ≠ 0) :
    let target := amount.round mode places
    let part := fun weight ↦ share mode places target weight (total weights)
    ∃ before weight after charged, weights = before ++ weight :: after ∧
      allocate mode places amount weights = before.map part ++ charged :: after.map part ∧
      charged.toRat = target.toRat - ((before ++ after).map fun other ↦ (part other).toRat).sum ∧
      (∀ other ∈ before, (part other).toRat < (part weight).toRat) ∧
      ∀ other ∈ after, (part other).toRat ≤ (part weight).toRat := by
  intro target part
  have hne : weights.map part ≠ [] := by
    rintro h
    rw [List.map_eq_nil_iff.1 h] at htotal
    exact htotal rfl
  obtain ⟨before', found, after', charged, hshares, hbalanced, hbefore, hafter⟩ :=
    exists_balanced_eq target hne
  obtain ⟨before, rest, rfl, rfl, hrest⟩ := List.map_eq_append_iff.1 hshares
  obtain ⟨weight, after, rfl, rfl, rfl⟩ := List.map_eq_cons_iff.1 hrest
  have hkept (weights : List Decimal) : (weights.map part).map (·.truncateAt places) =
      weights.map part := by
    rw [List.map_map]
    exact List.map_congr_left fun weight _ ↦ truncateAt_places (part weight)
  have hparts : allocate mode places amount (before ++ weight :: after) =
      before.map part ++ charged.truncateAt places :: after.map part := by
    have hallocate := allocate_eq_balanced mode places amount htotal
    rw [shares] at hallocate
    rw [hallocate, hbalanced, List.map_append, List.map_cons, hkept, hkept]
  refine ⟨before, weight, after, charged.truncateAt places, rfl, hparts, ?_, ?_, ?_⟩
  · have hsum := sum_allocate mode places amount htotal
    rw [hparts] at hsum
    simp only [List.map_append, List.map_cons, List.sum_append, List.sum_cons, List.map_map,
      Function.comp_def] at hsum ⊢
    linarith
  · intro other hother
    exact hbefore _ (List.mem_map_of_mem hother)
  · intro other hother
    exact hafter _ (List.mem_map_of_mem hother)

/-! ## The sign of the charged part -/

/-- A number on a grid that lies less than one step below zero is not below zero. -/
theorem toRat_nonneg_of_neg_step_lt {d : Decimal} (h : -(1 / 10 ^ d.places) < d.toRat) :
    0 ≤ d.toRat := by
  have hpos : (0 : ℚ) < 10 ^ d.places := by positivity
  rw [toRat_eq, ← neg_div, div_lt_div_iff_of_pos_right hpos] at h
  have hcoefficient : (-1 : ℤ) < d.coefficient := by exact_mod_cast h
  have hnonneg : 0 ≤ d.coefficient := by omega
  rw [toRat_eq]
  positivity

section Charged

variable {mode : RoundingMode} {places : ℕ} {target weight whole : Decimal} {others : List Decimal}

/-- Shares with no more than the steps of one of them. -/
theorem sum_share_le_mul
    (hlargest : ∀ other ∈ others, (share mode places target other whole).toRat ≤
      (share mode places target weight whole).toRat) :
    (others.map fun other ↦ (share mode places target other whole).toRat).sum ≤
      (others.countP fun weight ↦ !weight.isZero) *
        (share mode places target weight whole).toRat := by
  have hsum := sum_share_le mode places (fun _ ↦ 0)
    (fun other hother ↦ (hlargest other hother).trans_eq (zero_add _).symm) (fun _ _ ↦ le_rfl)
  rwa [List.map_const', List.sum_replicate, smul_zero, zero_add] at hsum

/-- Shares beside one that is not overdrawn leave less than one step uncovered. -/
theorem sum_share_lt_of_overdrawn_lt (htarget : 0 ≤ target.toRat) (hwhole : 0 < whole.toRat)
    (hweights : ∀ each ∈ weight :: others, 0 ≤ each.toRat)
    (hsum : ((weight :: others).map fun each ↦ exactShare target each whole).sum = target.toRat)
    (hmany : mode.overdrawn ((others.countP fun each ↦ !each.isZero) + 1) <
      (share mode places target weight whole).coefficient) :
    (others.map fun other ↦ (share mode places target other whole).toRat).sum <
      target.toRat + 1 / 10 ^ places := by
  have hunit : (0 : ℚ) < 10 ^ places := by positivity
  have hexact : ∀ each ∈ weight :: others, 0 ≤ exactShare target each whole := fun each heach ↦
    exactShare_nonneg htarget (hweights each heach) hwhole
  obtain ⟨hweight, hothers⟩ := List.forall_mem_cons.1 hexact
  set count := others.countP fun each ↦ !each.isZero
  have hadded : count * mode.excess < exactShare target weight whole * 10 ^ places + 1 := by
    have hcut := Exact.cut_nonneg (defaultScale + places) hweight
    have hexcess :=
      (share_prescribes mode places target weight whole).excess_lt (by positivity) hmany
    refine hexcess.trans_le ?_
    gcongr
    exact Exact.cut_le _ hweight
  have hcovered : count * (mode.excess / 10 ^ places) <
      exactShare target weight whole + 1 / 10 ^ places := by
    have hdivided := div_lt_div_of_pos_right hadded hunit
    rwa [mul_div_assoc, add_div, mul_div_cancel_right₀ _ hunit.ne'] at hdivided
  have hrounded := sum_share_le mode places (fun other ↦ exactShare target other whole)
    (fun other hother ↦ share_le mode places (hothers other hother)) hothers
  rw [List.map_cons, List.sum_cons] at hsum
  linarith

/-- Shares that are no larger than one of their number leave less than one step uncovered, if the
target is large enough for their number. -/
theorem sum_share_lt (htarget : 0 ≤ target.toRat) (hwhole : 0 < whole.toRat)
    (hweights : ∀ each ∈ weight :: others, 0 ≤ each.toRat)
    (hsum : ((weight :: others).map fun each ↦ exactShare target each whole).sum = target.toRat)
    (hlargest : ∀ other ∈ others, (share mode places target other whole).toRat ≤
      (share mode places target weight whole).toRat)
    (hlarge : let count := (weight :: others).countP fun each ↦ !each.isZero
      ((count - 1) * mode.overdrawn count : ℕ) ≤ target.toRat * 10 ^ places) :
    (others.map fun other ↦ (share mode places target other whole).toRat).sum <
      target.toRat + 1 / 10 ^ places := by
  have hunit : (0 : ℚ) < 10 ^ places := by positivity
  have hstep : (0 : ℚ) < 1 / 10 ^ places := by positivity
  have hcoarse := sum_share_le_mul hlargest
  cases hzero : weight.isZero with
  | true =>
    rw [share_of_weight_eq_zero mode places target whole ((isZero_iff weight).1 hzero),
      mul_zero] at hcoarse
    linarith
  | false =>
    dsimp only at hlarge
    rw [List.countP_cons_of_pos (by simp [hzero]), Nat.add_sub_cancel] at hlarge
    rcases lt_or_ge (mode.overdrawn ((others.countP fun each ↦ !each.isZero) + 1) : ℤ)
      (share mode places target weight whole).coefficient with hmany | hfew
    · exact sum_share_lt_of_overdrawn_lt htarget hwhole hweights hsum hmany
    · have hcovered : (others.countP fun each ↦ !each.isZero) *
          (share mode places target weight whole).toRat ≤ target.toRat := by
        rw [toRat_share, ← mul_div_assoc, div_le_iff₀ hunit]
        refine le_trans ?_ hlarge
        push_cast
        gcongr
        exact_mod_cast hfew
      linarith

end Charged

/-- No part is negative but for the charged one, and none at all where the rounded amount is large
enough for the number of weights that are not zero. -/
theorem allocate_charges (mode : RoundingMode) (places : ℕ) {amount : Decimal}
    {weights : List Decimal} (hamount : 0 ≤ amount.toRat)
    (hweights : ∀ weight ∈ weights, 0 ≤ weight.toRat) (htotal : 0 < (weights.map toRat).sum) :
    let count := weights.countP fun weight ↦ !weight.isZero
    ∃ before charged after, allocate mode places amount weights = before ++ charged :: after ∧
      (∀ part ∈ before ++ after, 0 ≤ part.toRat) ∧
      (((count - 1) * mode.overdrawn count : ℕ) ≤ (amount.round mode places).toRat * 10 ^ places →
        0 ≤ charged.toRat) := by
  intro count
  obtain ⟨before, weight, after, charged, hsplit, hallocate, hcharged, hbefore, hafter⟩ :=
    exists_allocate_eq mode places amount htotal.ne'
  have htarget := round_nonneg mode places hamount
  have hwhole : 0 < (total weights).toRat := by
    rwa [toRat_total]
  have hperm : weights.Perm (weight :: (before ++ after)) :=
    hsplit ▸ List.perm_middle
  have hnonneg : ∀ each ∈ weight :: (before ++ after), 0 ≤ each.toRat := fun other hother ↦
    hweights other (hperm.mem_iff.2 hother)
  refine ⟨_, charged, _, hallocate, ?_, ?_⟩
  · intro part hpart
    rw [← List.map_append] at hpart
    obtain ⟨other, hother, rfl⟩ := List.mem_map.1 hpart
    exact share_nonneg mode places
      (exactShare_nonneg htarget (hnonneg other (List.mem_cons_of_mem _ hother)) hwhole)
  · intro hlarge
    have hsum := sum_exactShare (amount.round mode places) htotal.ne'
    rw [(hperm.map _).sum_eq] at hsum
    have hcount : count = (weight :: (before ++ after)).countP fun weight ↦ !weight.isZero :=
      hperm.countP_eq _
    rw [hcount] at hlarge
    have hlargest : ∀ other ∈ before ++ after,
        (share mode places (amount.round mode places) other (total weights)).toRat ≤
          (share mode places (amount.round mode places) weight (total weights)).toRat := by
      intro other hother
      rcases List.mem_append.1 hother with h | h
      · exact (hbefore other h).le
      · exact hafter other h
    have hlt := sum_share_lt htarget hwhole hnonneg hsum hlargest hlarge
    have hplaces : charged.places = places :=
      places_of_mem_allocate (by rw [hallocate]; simp)
    apply toRat_nonneg_of_neg_step_lt
    rw [hplaces, hcharged]
    linarith

section Overdrawn

variable {mode : RoundingMode} {count : ℕ}

theorem sum_replicate_one (count : ℕ) :
    ((List.replicate count (1 : Decimal)).map toRat).sum = count := by
  rw [List.map_replicate, List.sum_replicate, toRat_one, nsmul_one]

/-- Each of `count` equal shares of `count - 2` steps is rounded to a whole step. -/
theorem share_eq_one_of_overdrawn (h : 0 < mode.overdrawn count) :
    (share mode 0 (ofInt (count - 2)) 1 (total (List.replicate count 1))).toRat = 1 := by
  obtain ⟨hcount, least, hnonneg, hle, hcut, hleast⟩ := RoundingMode.exists_prescribes_one h
  have hpos : (0 : ℚ) < count := by exact_mod_cast (by omega : 0 < count)
  have hexact : exactShare (ofInt (count - 2)) 1 (total (List.replicate count 1)) =
      ((count : ℚ) - 2) / count := by
    rw [exactShare, toRat_total, sum_replicate_one, toRat_ofInt, toRat_one, mul_one]
    push_cast
    rfl
  have hprescribed := share_prescribes mode 0 (ofInt (count - 2)) 1 (total (List.replicate count 1))
  rw [hexact, pow_zero, mul_one, add_zero] at hprescribed
  have hlower : least ≤ Exact.cut defaultScale (((count : ℚ) - 2) / count) :=
    hcut.symm.trans_le (Exact.cut_le_cut _ hnonneg hle)
  have hupper : Exact.cut defaultScale (((count : ℚ) - 2) / count) ≤ (1 : ℤ) := by
    apply (Exact.cut_le _ (hnonneg.trans hle)).trans
    rw [div_le_iff₀ hpos]
    push_cast
    linarith
  have hone := le_antisymm (hprescribed.le_of_le (mode.prescribes_intCast 1) hupper)
    (hleast.le_of_le hprescribed hlower)
  rw [toRat_share, hone, Int.cast_one, pow_zero, div_one]

/-- Where one step can be overdrawn, equal weights overdraw it: the other `count - 1` parts take one
step each of an amount of `count - 2`. -/
theorem exists_negative_part (h : 0 < mode.overdrawn count) :
    ∃ part ∈ allocate mode 0 (ofInt (count - 2)) (List.replicate count 1), part.toRat < 0 := by
  obtain ⟨hcount, -⟩ := RoundingMode.exists_prescribes_one h
  have htotal : ((List.replicate count (1 : Decimal)).map toRat).sum ≠ 0 := by
    rw [sum_replicate_one]
    exact_mod_cast (by omega : count ≠ 0)
  obtain ⟨before, weight, after, charged, hsplit, hallocate, hcharged, -⟩ :=
    exists_allocate_eq mode 0 (ofInt (count - 2)) htotal
  have htarget : (ofInt (count - 2)).round mode 0 = ofInt (count - 2) := round_eq_self mode _
  have hothers : ∀ other ∈ before ++ after,
      (share mode 0 (ofInt (count - 2)) other (total (List.replicate count 1))).toRat = 1 := by
    intro other hother
    have hmem : other ∈ List.replicate count (1 : Decimal) := by
      rw [hsplit]
      exact List.perm_middle.mem_iff.2 (List.mem_cons_of_mem _ hother)
    rw [List.eq_of_mem_replicate hmem, share_eq_one_of_overdrawn h]
  have hlength : ((before ++ after).length : ℚ) + 1 = count := by
    have := congrArg List.length hsplit
    rw [List.length_replicate, List.perm_middle.length_eq, List.length_cons] at this
    exact_mod_cast this.symm
  refine ⟨charged, by rw [hallocate]; simp, ?_⟩
  rw [hcharged, htarget, List.map_congr_left hothers, List.map_const', List.sum_replicate, nsmul_one,
    toRat_ofInt]
  push_cast
  linarith

end Overdrawn

end Decimal

end PayFormula

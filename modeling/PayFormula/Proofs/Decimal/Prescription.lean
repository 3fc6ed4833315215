import Mathlib
import PayFormula.Proofs.Decimal.Rounding

/-!
# What the Modes Prescribe

For every rational each mode prescribes one whole number: the greatest that is not above it, the
least that is not below it, the one that is left when it is cut toward zero, or the nearest, with a
rule of its own for ties.  A prescription does not say how its number is found, only how it compares
with all others.  It keeps the order of the rationals and leaves whole numbers alone, and rounding
finds what it prescribes on the grid of the places kept.  So rounding keeps the order as well, and a
number that was rounded once stays as it is.
-/

namespace PayFormula

namespace Exact

/-! ## The nearest whole number -/

/-- `n` is nearer to `q` than any other whole number, or as near as the other and preferred to it. -/
def IsNearest (preferred : ℤ → ℤ → Prop) (q : ℚ) (n : ℤ) : Prop :=
  ∀ m : ℤ, m ≠ n → |q - n| < |q - m| ∨ |q - n| = |q - m| ∧ preferred n m

variable {preferred : ℤ → ℤ → Prop} {q q' : ℚ} {m n n' : ℤ}

theorem IsNearest.abs_sub_le (h : IsNearest preferred q n) (m : ℤ) : |q - n| ≤ |q - m| := by
  rcases eq_or_ne m n with rfl | hne
  · exact le_rfl
  · exact (h m hne).elim le_of_lt fun htie ↦ htie.1.le

/-- Of two whole numbers the larger is the nearer one from the midpoint on. -/
theorem abs_sub_le_iff_of_lt (h : m < n) : |q - n| ≤ |q - m| ↔ ((m : ℚ) + n) / 2 ≤ q := by
  have hpos : (0 : ℚ) < n - m := sub_pos.2 (Int.cast_lt.2 h)
  rw [← sq_le_sq]
  constructor
  · intro hsq
    nlinarith
  · intro hmid
    nlinarith

/-- The smaller is the nearer one up to the midpoint. -/
theorem abs_sub_le_iff_of_gt (h : m < n) : |q - m| ≤ |q - n| ↔ q ≤ ((m : ℚ) + n) / 2 := by
  have hpos : (0 : ℚ) < n - m := sub_pos.2 (Int.cast_lt.2 h)
  rw [← sq_le_sq]
  constructor
  · intro hsq
    nlinarith
  · intro hmid
    nlinarith

theorem IsNearest.sub_half_le (h : IsNearest preferred q n) : (n : ℚ) - 1 / 2 ≤ q := by
  have hmid := (abs_sub_le_iff_of_lt (sub_one_lt n)).1 (h.abs_sub_le (n - 1))
  push_cast at hmid
  linarith

/-- A tie does not go up to a number that is not preferred to the one below. -/
theorem IsNearest.sub_half_lt (h : IsNearest preferred q n) (hnot : ¬preferred n (n - 1)) :
    (n : ℚ) - 1 / 2 < q := by
  have hnearer := (h (n - 1) (by omega)).resolve_right fun htie ↦ hnot htie.2
  have hmid := not_le.1 (mt (abs_sub_le_iff_of_gt (sub_one_lt n)).2 (not_le.2 hnearer))
  push_cast at hmid
  linarith

/-- Nothing else is as near as what is less than half away. -/
theorem isNearest_of_abs_sub_lt_half (h : |q - n| < 1 / 2) : IsNearest preferred q n := by
  intro m hne
  left
  have hapart : (1 : ℚ) ≤ |(m : ℚ) - n| := by
    exact_mod_cast Int.one_le_abs (sub_ne_zero.2 hne)
  have htriangle := abs_sub_le (m : ℚ) q n
  rw [abs_sub_comm (m : ℚ) q] at htriangle
  linarith

/-- Half way between two neighbours the preferred one is the nearest. -/
theorem isNearest_of_midpoint (hmid : q = ((n : ℚ) + m) / 2) (hneighbours : |n - m| = 1)
    (hpreferred : preferred n m) : IsNearest preferred q n := by
  intro k hne
  have hhalf : |q - n| = 1 / 2 := by
    have hcast : |(n : ℚ) - m| = 1 := by exact_mod_cast hneighbours
    rw [hmid, show ((n : ℚ) + m) / 2 - n = -((n - m) / 2) by ring, abs_neg, abs_div, hcast]
    norm_num
  rcases eq_or_ne k m with rfl | hother
  · refine .inr ⟨?_, hpreferred⟩
    rw [hmid, show ((n : ℚ) + k) / 2 - k = -(((n : ℚ) + k) / 2 - n) by ring, abs_neg]
  · left
    have hfar : (3 : ℤ) ≤ |2 * k - (n + m)| := by
      rcases abs_cases (n - m) with h | h <;>
        rcases abs_cases (2 * k - (n + m)) with h' | h' <;> omega
    have hcast : (3 : ℚ) ≤ |2 * (k : ℚ) - (n + m)| := by exact_mod_cast hfar
    have hdistance : |q - k| = |2 * (k : ℚ) - (n + m)| / 2 := by
      rw [hmid, show ((n : ℚ) + m) / 2 - k = -((2 * k - (n + m)) / 2) by ring, abs_neg, abs_div,
        abs_two]
    rw [hhalf, hdistance]
    linarith

/-- A preference that never goes both ways between neighbours makes the nearest monotone. -/
theorem IsNearest.le_of_le (h : IsNearest preferred q n) (h' : IsNearest preferred q' n')
    (honeWay : ∀ n, preferred (n + 1) n → ¬preferred n (n + 1)) (hle : q ≤ q') : n ≤ n' := by
  by_contra! hlt
  -- were the order turned round, both rationals would be the midpoint of two neighbours
  have hbelow : ((n' : ℚ) + n) / 2 ≤ q := (abs_sub_le_iff_of_lt hlt).1 (h.abs_sub_le n')
  have habove : q' ≤ ((n' : ℚ) + n) / 2 := (abs_sub_le_iff_of_gt hlt).1 (h'.abs_sub_le n)
  have hq : q = ((n' : ℚ) + n) / 2 := le_antisymm (hle.trans habove) hbelow
  have hq' : q' = ((n' : ℚ) + n) / 2 := le_antisymm habove (hbelow.trans hle)
  have hneighbours : n = n' + 1 := by
    by_contra hne
    have hbetween : n' + 1 < n := by omega
    have hnearer := (abs_sub_le_iff_of_lt hbetween).1 (h.abs_sub_le (n' + 1))
    rw [hq] at hnearer
    push_cast at hnearer
    linarith
  subst hneighbours
  have htie : |q - (n' + 1 : ℤ)| = |q - n'| := by
    apply le_antisymm (h.abs_sub_le n')
    rw [abs_sub_le_iff_of_gt hlt, hq]
  have hfirst : preferred (n' + 1) n' :=
    ((h n' (by omega)).resolve_left htie.not_lt).2
  have hsecond : preferred n' (n' + 1) := by
    rw [hq, ← hq'] at htie
    exact ((h' (n' + 1) (by omega)).resolve_left htie.symm.not_lt).2
  exact honeWay n' hfirst hsecond

/-- The nearest to a fraction is found by comparing twice its rest with the divisor. -/
theorem isNearest_div {a b steps : ℕ} (hb : 0 < b)
    (hbelow : 2 * (a % b) < b → steps = a / b)
    (habove : b < 2 * (a % b) → steps = a / b + 1)
    (htie : 2 * (a % b) = b →
      steps = a / b ∧ preferred (a / b : ℕ) (a / b + 1 : ℕ) ∨
        steps = a / b + 1 ∧ preferred (a / b + 1 : ℕ) (a / b : ℕ)) :
    IsNearest preferred ((a : ℚ) / b) steps := by
  have hpos : (0 : ℚ) < b := by exact_mod_cast hb
  have hlt := Nat.mod_lt a hb
  rw [div_eq_add_mod hb]
  generalize a / b = whole at hbelow habove htie ⊢
  generalize a % b = rest at hbelow habove htie hlt ⊢
  have hnonneg : (0 : ℚ) ≤ rest / b := by positivity
  have hrest : (rest : ℚ) / b < 1 := by
    rw [div_lt_one hpos]
    exact_mod_cast hlt
  rcases lt_trichotomy (2 * rest) b with h | h | h
  · have hsmall : (rest : ℚ) / b < 1 / 2 := by
      rw [div_lt_div_iff₀ hpos two_pos, one_mul, mul_comm]
      exact_mod_cast h
    apply isNearest_of_abs_sub_lt_half
    rw [hbelow h, Int.cast_natCast, add_sub_cancel_left, abs_of_nonneg hnonneg]
    exact hsmall
  · have hhalf : (rest : ℚ) / b = 1 / 2 := by
      rw [div_eq_div_iff hpos.ne' two_ne_zero, one_mul, mul_comm]
      exact_mod_cast h
    rcases htie h with ⟨rfl, hpreferred⟩ | ⟨rfl, hpreferred⟩
    · apply isNearest_of_midpoint _ _ hpreferred
      · rw [hhalf]
        push_cast
        ring
      · simp
    · apply isNearest_of_midpoint _ _ hpreferred
      · rw [hhalf]
        push_cast
        ring
      · simp
  · have hlarge : 1 / 2 < (rest : ℚ) / b := by
      rw [div_lt_div_iff₀ two_pos hpos, one_mul, mul_comm]
      exact_mod_cast h
    apply isNearest_of_abs_sub_lt_half
    rw [habove h, abs_lt]
    push_cast
    constructor <;> linarith

theorem IsNearest.neg (hneg : ∀ n m, preferred n m → preferred (-n) (-m))
    (h : IsNearest preferred q n) : IsNearest preferred (-q) (-n) := by
  intro m hne
  have habs (k : ℤ) : |-q - k| = |q - (-k : ℤ)| := by
    rw [← abs_neg]
    push_cast
    ring_nf
  rw [habs, habs, neg_neg]
  apply (h (-m) (by omega)).imp_right
  rintro ⟨htie, hpreferred⟩
  refine ⟨htie, ?_⟩
  have := hneg n (-m) hpreferred
  rwa [neg_neg] at this

end Exact

namespace RoundingMode

/-! ## Prescriptions -/

/-- The whole number that a mode prescribes for a rational. -/
def Prescribes (mode : RoundingMode) (q : ℚ) (n : ℤ) : Prop :=
  match mode with
  | halfUp => Exact.IsNearest (fun n m ↦ |m| < |n|) q n
  | halfDown => Exact.IsNearest (fun n m ↦ |n| < |m|) q n
  | bankers => Exact.IsNearest (fun n _ ↦ Even n) q n
  | floor => IsGreatest {m : ℤ | (m : ℚ) ≤ q} n
  | ceil => IsLeast {m : ℤ | q ≤ m} n
  | truncate =>
    if 0 ≤ q then IsGreatest {m : ℤ | (m : ℚ) ≤ q} n else IsLeast {m : ℤ | q ≤ m} n

theorem isGreatest_floor (q : ℚ) : IsGreatest {m : ℤ | (m : ℚ) ≤ q} ⌊q⌋ :=
  ⟨Int.floor_le q, fun _ hm ↦ Int.le_floor.2 hm⟩

theorem isLeast_ceil (q : ℚ) : IsLeast {m : ℤ | q ≤ m} ⌈q⌉ :=
  ⟨Int.le_ceil q, fun _ hm ↦ Int.ceil_le.2 hm⟩

variable {mode : RoundingMode} {q q' : ℚ} {n n' : ℤ}

theorem sub_one_lt_of_isLeast (h : IsLeast {m : ℤ | q ≤ m} n) : (n : ℚ) - 1 < q := by
  have hle : (n : ℚ) ≤ ⌈q⌉ := Int.cast_le.2 (h.2 (Int.le_ceil q))
  linarith [Int.ceil_lt_add_one q]

/-- A mode prescribes no less for a larger number. -/
theorem Prescribes.le_of_le (h : mode.Prescribes q n) (h' : mode.Prescribes q' n') (hle : q ≤ q') :
    n ≤ n' := by
  have hgreatest : IsGreatest {m : ℤ | (m : ℚ) ≤ q} n → IsGreatest {m : ℤ | (m : ℚ) ≤ q'} n' →
      n ≤ n' := fun hn hn' ↦ hn'.2 (hn.1.trans hle)
  have hleast : IsLeast {m : ℤ | q ≤ m} n → IsLeast {m : ℤ | q' ≤ m} n' → n ≤ n' :=
    fun hn hn' ↦ hn.2 (hle.trans hn'.1)
  cases mode with simp only [Prescribes] at h h'
  | halfUp => exact h.le_of_le h' (fun _ ↦ lt_asymm) hle
  | halfDown => exact h.le_of_le h' (fun _ ↦ lt_asymm) hle
  | bankers => exact h.le_of_le h' (fun _ ↦ Int.even_add_one.1) hle
  | floor => exact hgreatest h h'
  | ceil => exact hleast h h'
  | truncate =>
    split at h <;> split at h'
    · exact hgreatest h h'
    · next hnonneg hneg => exact absurd (hnonneg.trans hle) hneg
    · next hneg hnonneg =>
      have hbelow : n ≤ 0 := h.2 (by simpa using (not_le.1 hneg).le)
      have habove : 0 ≤ n' := h'.2 (by simpa using hnonneg)
      exact hbelow.trans habove
    · exact hleast h h'

theorem Prescribes.unique (h : mode.Prescribes q n) (h' : mode.Prescribes q n') : n = n' :=
  le_antisymm (h.le_of_le h' le_rfl) (h'.le_of_le h le_rfl)

/-- A whole number is left alone. -/
theorem prescribes_intCast (mode : RoundingMode) (n : ℤ) : mode.Prescribes n n := by
  have hgreatest := isGreatest_floor n
  have hleast := isLeast_ceil n
  rw [Int.floor_intCast] at hgreatest
  rw [Int.ceil_intCast] at hleast
  have hnearest (preferred : ℤ → ℤ → Prop) : Exact.IsNearest preferred n n :=
    Exact.isNearest_of_abs_sub_lt_half (by simp)
  cases mode with simp only [Prescribes]
  | halfUp | halfDown | bankers => exact hnearest _
  | floor => exact hgreatest
  | ceil => exact hleast
  | truncate =>
    split
    · exact hgreatest
    · exact hleast

theorem Prescribes.nonneg (h : mode.Prescribes q n) (hq : 0 ≤ q) : 0 ≤ n :=
  (mode.prescribes_intCast 0).le_of_le h (by simpa using hq)

theorem Prescribes.eq_zero (h : mode.Prescribes 0 n) : n = 0 :=
  h.unique (by simpa using mode.prescribes_intCast 0)

/-- Every mode has a name. -/
theorem ofText_name (mode : RoundingMode) : ofText mode.name = mode := by
  cases mode <;> decide +kernel

end RoundingMode

namespace Decimal

/-! ## Rounding -/

/-- Rounding finds what its mode prescribes on the grid of the places kept. -/
theorem round_prescribes (mode : RoundingMode) (places : ℕ) (d : Decimal) :
    mode.Prescribes (d.toRat * 10 ^ places) (d.round mode places).coefficient := by
  have hnearest {preferred : ℤ → ℤ → Prop} (hpreferred : ∀ n m, preferred n m → preferred (-n) (-m))
      (hsteps : ∀ negative (a b : ℕ), 0 < b →
        Exact.IsNearest preferred ((a : ℚ) / b) (mode.steps negative a b)) :
      Exact.IsNearest preferred (d.toRat * 10 ^ places) (d.round mode places).coefficient :=
    round_relates (hsteps false) (fun a b _ hb ↦ (hsteps true a b hb).neg hpreferred) places d
  cases mode with simp only [RoundingMode.Prescribes]
  | halfUp =>
    refine hnearest (fun n m h ↦ by rwa [abs_neg, abs_neg]) fun negative a b hb ↦ ?_
    apply Exact.isNearest_div hb <;> intro h <;>
      simp only [RoundingMode.steps, RoundingMode.bumps, decide_eq_true_iff]
    · exact if_neg (by omega)
    · exact if_pos (by omega)
    · rw [if_pos (by omega)]
      refine .inr ⟨rfl, ?_⟩
      rw [Nat.abs_cast, Nat.abs_cast]
      exact_mod_cast Nat.lt_succ_self _
  | halfDown =>
    refine hnearest (fun n m h ↦ by rwa [abs_neg, abs_neg]) fun negative a b hb ↦ ?_
    apply Exact.isNearest_div hb <;> intro h <;>
      simp only [RoundingMode.steps, RoundingMode.bumps, decide_eq_true_iff]
    · exact if_neg (by omega)
    · exact if_pos (by omega)
    · rw [if_neg (by omega)]
      refine .inl ⟨rfl, ?_⟩
      rw [Nat.abs_cast, Nat.abs_cast]
      exact_mod_cast Nat.lt_succ_self _
  | bankers =>
    refine hnearest (fun n m h ↦ h.neg) fun negative a b hb ↦ ?_
    apply Exact.isNearest_div hb <;> intro h <;>
      simp only [RoundingMode.steps, RoundingMode.bumps, Bool.or_eq_true, Bool.and_eq_true,
        decide_eq_true_iff, beq_iff_eq]
    · exact if_neg (by omega)
    · exact if_pos (by omega)
    · rcases Nat.even_or_odd (a / b) with heven | hodd
      · have hrest := Nat.even_iff.1 heven
        rw [if_neg (by omega)]
        exact .inl ⟨rfl, (Int.even_coe_nat _).2 heven⟩
      · have hrest := Nat.odd_iff.1 hodd
        rw [if_pos (by omega)]
        exact .inr ⟨rfl, (Int.even_coe_nat _).2 hodd.add_one⟩
  | floor =>
    rw [round_floor_coefficient]
    exact RoundingMode.isGreatest_floor _
  | ceil =>
    rw [round_ceil_coefficient]
    exact RoundingMode.isLeast_ceil _
  | truncate =>
    rw [round_truncate_coefficient, Exact.towardZero]
    split
    · exact RoundingMode.isGreatest_floor _
    · exact RoundingMode.isLeast_ceil _

theorem toRat_round (mode : RoundingMode) (places : ℕ) (d : Decimal) :
    (d.round mode places).toRat = (d.round mode places).coefficient / 10 ^ places :=
  toRat_eq _

/-- Rounding keeps the order. -/
theorem round_le_round (mode : RoundingMode) (places : ℕ) {d e : Decimal} (h : d.toRat ≤ e.toRat) :
    (d.round mode places).toRat ≤ (e.round mode places).toRat := by
  have hscaled : d.toRat * 10 ^ places ≤ e.toRat * 10 ^ places :=
    mul_le_mul_of_nonneg_right h (by positivity)
  have hcoefficient : ((d.round mode places).coefficient : ℚ) ≤ (e.round mode places).coefficient :=
    Int.cast_le.2 ((round_prescribes mode places d).le_of_le (round_prescribes mode places e) hscaled)
  rw [toRat_round, toRat_round]
  exact div_le_div_of_nonneg_right hcoefficient (by positivity)

theorem round_nonneg (mode : RoundingMode) (places : ℕ) {d : Decimal} (h : 0 ≤ d.toRat) :
    0 ≤ (d.round mode places).toRat := by
  have hcoefficient := (round_prescribes mode places d).nonneg (by positivity)
  rw [toRat_round]
  positivity

/-- What lies on the grid is its own rounding. -/
theorem round_eq_self (mode : RoundingMode) (d : Decimal) : d.round mode d.places = d := by
  have hprescribed := round_prescribes mode d.places d
  rw [← coefficient_eq] at hprescribed
  have hcoefficient : (d.round mode d.places).coefficient = d.coefficient :=
    hprescribed.unique (mode.prescribes_intCast _)
  exact congrArg (Decimal.mk · d.places) hcoefficient

end Decimal

end PayFormula

import Mathlib
import PayFormula.Proofs.Decimal.Prescription

/-!
# Rounding What Was Cut

The whole number that a mode prescribes for a rational is found from its floor and its fraction.  If
the rational is cut after some digits first, it is mostly rounded to the same whole number, because
whole numbers and the midpoints between them are left alone by the cut.  But where the cut ends on a
boundary of the mode, the mode is misled: it sees a number that stays, or a tie, and the rest that
would have carried it farther from zero is gone.  Then the result is one nearer to zero, and this is
the only difference.
-/

namespace PayFormula

namespace Exact

variable {digits : ℕ} {q q' : ℚ}

/-! ## Cuts between whole numbers -/

theorem prescribes_towardZero (q : ℚ) : RoundingMode.truncate.Prescribes q (towardZero q) := by
  rw [towardZero, RoundingMode.Prescribes]
  split
  · exact RoundingMode.isGreatest_floor q
  · exact RoundingMode.isLeast_ceil q

theorem cut_mono (digits : ℕ) (h : q ≤ q') : cut digits q ≤ cut digits q' := by
  have hscaled : q * 10 ^ digits ≤ q' * 10 ^ digits :=
    mul_le_mul_of_nonneg_right h (by positivity)
  have hwhole := (prescribes_towardZero _).le_of_le (prescribes_towardZero _) hscaled
  rw [cut, cut]
  gcongr

/-- A number without further digits is left alone. -/
theorem cut_eq_self {n : ℤ} (h : q * 10 ^ digits = n) : cut digits q = q := by
  have hwhole : towardZero (n : ℚ) = n :=
    (prescribes_towardZero n).unique (RoundingMode.truncate.prescribes_intCast n)
  rw [cut, h, hwhole, ← h, mul_div_cancel_right₀ _ (by positivity)]

theorem cut_intCast (digits : ℕ) (n : ℤ) : cut digits n = n :=
  cut_eq_self (n := n * 10 ^ digits) (by push_cast; rfl)

@[simp]
theorem cut_zero (digits : ℕ) : cut digits 0 = 0 := by
  simpa using cut_intCast digits 0

@[simp]
theorem cut_one (digits : ℕ) : cut digits 1 = 1 := by
  simpa using cut_intCast digits 1

/-- The cut leaves nothing of what is smaller than its last digit. -/
theorem cut_eq_zero_iff (places : ℕ) (q : ℚ) : cut places q = 0 ↔ |q| < 1 / 10 ^ places := by
  have hunit : (0 : ℚ) < 10 ^ places := by positivity
  have hnonneg {q : ℚ} (h : 0 ≤ q) : cut places q = 0 ↔ q < 1 / 10 ^ places := by
    rw [cut, div_eq_zero_iff, or_iff_left hunit.ne', Int.cast_eq_zero,
      towardZero_of_nonneg (mul_nonneg h hunit.le), Int.floor_eq_zero_iff, Set.mem_Ico,
      and_iff_right (mul_nonneg h hunit.le), lt_div_iff₀ hunit]
  rcases le_total 0 q with h | h
  · rw [abs_of_nonneg h, hnonneg h]
  · rw [abs_of_nonpos h, ← hnonneg (neg_nonneg.2 h), cut_neg, neg_eq_zero]

theorem floor_le_cut (digits : ℕ) (q : ℚ) : (⌊q⌋ : ℚ) ≤ cut digits q :=
  (cut_intCast digits ⌊q⌋).symm.trans_le (cut_mono digits (Int.floor_le q))

theorem cut_le_ceil (digits : ℕ) (q : ℚ) : cut digits q ≤ ⌈q⌉ :=
  (cut_mono digits (Int.le_ceil q)).trans_eq (cut_intCast digits ⌈q⌉)

/-- Digits that are kept beyond a grid are the digits of the number of its steps. -/
theorem cut_add_mul (digits places : ℕ) (q : ℚ) :
    cut (digits + places) q * 10 ^ places = cut digits (q * 10 ^ places) := by
  have hscaled : q * 10 ^ (digits + places) = q * 10 ^ places * 10 ^ digits := by
    rw [pow_add]
    ring
  have hpos : (10 : ℚ) ^ places ≠ 0 := by positivity
  rw [cut, cut, hscaled, pow_add, ← div_div, div_mul_cancel₀ _ hpos]

theorem floor_cut (digits : ℕ) (h : 0 ≤ q) : ⌊cut digits q⌋ = ⌊q⌋ :=
  Int.floor_eq_iff.2 ⟨floor_le_cut digits q, (cut_le digits h).trans_lt (Int.lt_floor_add_one q)⟩

theorem fract_cut_le (digits : ℕ) (h : 0 ≤ q) : Int.fract (cut digits q) ≤ Int.fract q := by
  rw [Int.fract, Int.fract, floor_cut digits h]
  exact sub_le_sub_right (cut_le digits h) _

theorem fract_cut_eq_iff (digits : ℕ) (h : 0 ≤ q) :
    Int.fract (cut digits q) = Int.fract q ↔ cut digits q = q := by
  rw [Int.fract, Int.fract, floor_cut digits h, sub_left_inj]

/-- The cut does not pass the midpoint. -/
theorem half_le_fract_cut (hdigits : 0 < digits) (h : 0 ≤ q) (hhalf : 1 / 2 ≤ Int.fract q) :
    1 / 2 ≤ Int.fract (cut digits q) := by
  obtain ⟨more, rfl⟩ := Nat.exists_eq_add_of_lt hdigits
  have hgrid : ((⌊q⌋ : ℚ) + 1 / 2) * 10 ^ (0 + more + 1) =
      ((2 * ⌊q⌋ + 1) * 5 * 10 ^ more : ℤ) := by
    push_cast
    ring
  have hmid : (⌊q⌋ : ℚ) + 1 / 2 ≤ q := by linarith [Int.floor_add_fract q]
  have hkept := cut_mono (0 + more + 1) hmid
  rw [cut_eq_self hgrid] at hkept
  rw [Int.fract, floor_cut _ h]
  linarith

/-- The cut takes a number from below the next whole number down to the last one only if nothing
else was kept of its fraction. -/
theorem ceil_cut (digits : ℕ) (h : 0 ≤ q) :
    ⌈cut digits q⌉ =
      ⌈q⌉ - if cut digits q ≠ q ∧ 0 < q ∧ Int.fract (cut digits q) = 0 then 1 else 0 := by
  have hceil {x : ℚ} (hx : 0 < Int.fract x) : ⌈x⌉ = ⌊x⌋ + 1 := by
    rw [Int.ceil_eq_iff]
    push_cast
    constructor <;> linarith [Int.floor_add_fract x, Int.lt_floor_add_one x]
  have hnonneg := Int.fract_nonneg (cut digits q)
  by_cases hsame : cut digits q = q
  · simp [hsame]
  have hlt : cut digits q < q := (cut_le digits h).lt_of_ne hsame
  have hfract : Int.fract (cut digits q) < Int.fract q := by
    rw [Int.fract, Int.fract, floor_cut digits h]
    exact sub_lt_sub_right hlt _
  rw [hceil (hnonneg.trans_lt hfract)]
  rcases hnonneg.eq_or_lt with hzero | hpos
  · have hwhole : cut digits q = ⌊q⌋ := by
      have hsplit := Int.floor_add_fract (cut digits q)
      rwa [← hzero, add_zero, floor_cut digits h, eq_comm] at hsplit
    rw [if_pos ⟨hsame, (cut_nonneg digits h).trans_lt hlt, hzero.symm⟩, hwhole, Int.ceil_intCast,
      add_sub_cancel_right]
  · rw [if_neg fun hkept ↦ hpos.ne' hkept.2.2, hceil hpos, floor_cut digits h, sub_zero]

/-! ## The nearest whole number -/

/-- The nearest whole number, and of two that are equally near the upper one if `up` holds of the
lower. -/
def nearestBy (up : ℤ → Bool) (q : ℚ) : ℤ :=
  if 1 / 2 < Int.fract q ∨ Int.fract q = 1 / 2 ∧ up ⌊q⌋ then ⌊q⌋ + 1 else ⌊q⌋

theorem nearestBy_of_lt (up : ℤ → Bool) (h : Int.fract q < 1 / 2) : nearestBy up q = ⌊q⌋ := by
  rw [nearestBy, if_neg]
  rintro (hhigh | ⟨htie, -⟩)
  · exact h.not_gt hhigh
  · exact h.ne htie

theorem nearestBy_of_eq (up : ℤ → Bool) (h : Int.fract q = 1 / 2) :
    nearestBy up q = if up ⌊q⌋ then ⌊q⌋ + 1 else ⌊q⌋ := by
  simp only [nearestBy, h, lt_irrefl, false_or, true_and]

theorem nearestBy_of_gt (up : ℤ → Bool) (h : 1 / 2 < Int.fract q) : nearestBy up q = ⌊q⌋ + 1 :=
  if_pos (.inl h)

theorem isNearest_nearestBy {up : ℤ → Bool} {preferred : ℤ → ℤ → Prop}
    (hup : ∀ n, up n = true → preferred (n + 1) n)
    (hdown : ∀ n, ¬up n = true → preferred n (n + 1)) (q : ℚ) :
    IsNearest preferred q (nearestBy up q) := by
  have hsplit := Int.floor_add_fract q
  have hnonneg := Int.fract_nonneg q
  have hlt := Int.fract_lt_one q
  rcases lt_trichotomy (Int.fract q) (1 / 2) with hlow | htie | hhigh
  · rw [nearestBy_of_lt up hlow]
    apply isNearest_of_abs_sub_lt_half
    rw [abs_of_nonneg (by linarith)]
    linarith
  · rw [nearestBy_of_eq up htie]
    split
    · next h =>
      refine isNearest_of_midpoint (m := ⌊q⌋) ?_ (by simp) (hup _ h)
      push_cast
      linarith
    · next h =>
      refine isNearest_of_midpoint (m := ⌊q⌋ + 1) ?_ (by simp) (hdown _ h)
      push_cast
      linarith
  · rw [nearestBy_of_gt up hhigh]
    apply isNearest_of_abs_sub_lt_half
    push_cast
    rw [abs_lt]
    constructor <;> linarith

/-- A tie that was none before the cut is all that moves the nearest whole number. -/
theorem nearestBy_cut (up : ℤ → Bool) (hdigits : 0 < digits) (h : 0 ≤ q) :
    nearestBy up (cut digits q) = nearestBy up q -
      if cut digits q ≠ q ∧ Int.fract (cut digits q) = 1 / 2 ∧ ¬up ⌊q⌋ then 1 else 0 := by
  have hle := fract_cut_le digits h
  have hsame := fract_cut_eq_iff digits h
  have hhalf := half_le_fract_cut hdigits h
  rcases lt_trichotomy (Int.fract q) (1 / 2) with hlow | htie | hhigh
  · have hkept := hle.trans_lt hlow
    rw [nearestBy_of_lt up hkept, nearestBy_of_lt up hlow, floor_cut digits h, if_neg, sub_zero]
    rintro ⟨-, hmid, -⟩
    exact hkept.ne hmid
  · have hkept := le_antisymm (hle.trans_eq htie) (hhalf htie.ge)
    rw [hsame.1 (hkept.trans htie.symm)]
    simp
  · rcases (hhalf hhigh.le).eq_or_lt with hkept | hkept
    · have hne : cut digits q ≠ q := fun heq ↦ hhigh.ne (hkept.trans (hsame.2 heq))
      rw [nearestBy_of_eq up hkept.symm, nearestBy_of_gt up hhigh, floor_cut digits h]
      by_cases hup : up ⌊q⌋
      · rw [if_pos hup, if_neg (fun hmoved ↦ hmoved.2.2 hup), sub_zero]
      · rw [if_neg hup, if_pos ⟨hne, hkept.symm, hup⟩, add_sub_cancel_right]
    · rw [nearestBy_of_gt up hkept, nearestBy_of_gt up hhigh, floor_cut digits h, if_neg, sub_zero]
      rintro ⟨-, hmid, -⟩
      exact hkept.ne' hmid

end Exact

namespace RoundingMode

variable {mode : RoundingMode} {digits : ℕ} {q : ℚ} {n : ℤ}

/-! ## What a mode chooses -/

/-- The whole number that a mode prescribes for a rational, by the floor and the fraction. -/
def choice (mode : RoundingMode) (q : ℚ) : ℤ :=
  match mode with
  | halfUp => Exact.nearestBy (fun n ↦ decide (0 ≤ n)) q
  | halfDown => Exact.nearestBy (fun n ↦ decide (n < 0)) q
  | bankers => Exact.nearestBy (fun n ↦ !decide (Even n)) q
  | floor => ⌊q⌋
  | ceil => ⌈q⌉
  | truncate => Exact.towardZero q

theorem prescribes_choice (mode : RoundingMode) (q : ℚ) : mode.Prescribes q (mode.choice q) := by
  cases mode with simp only [Prescribes, choice]
  | halfUp => apply Exact.isNearest_nearestBy <;> grind
  | halfDown => apply Exact.isNearest_nearestBy <;> grind
  | bankers =>
    apply Exact.isNearest_nearestBy
    · intro n hodd
      exact Int.even_add_one.2 (by simpa using hodd)
    · intro n heven
      simpa using heven
  | floor => exact isGreatest_floor q
  | ceil => exact isLeast_ceil q
  | truncate => exact Exact.prescribes_towardZero q

theorem Prescribes.eq_choice (h : mode.Prescribes q n) : n = mode.choice q :=
  h.unique (mode.prescribes_choice q)

/-- What is prescribed for a number between the whole numbers around `q` is less than one from
`q`. -/
theorem Prescribes.abs_sub_lt_one {kept : ℚ} (h : mode.Prescribes kept n)
    (hfloor : (⌊q⌋ : ℚ) ≤ kept) (hceil : kept ≤ ⌈q⌉) : |(n : ℚ) - q| < 1 := by
  have hlow : ((⌊q⌋ : ℤ) : ℚ) ≤ n :=
    Int.cast_le.2 ((mode.prescribes_intCast ⌊q⌋).le_of_le h hfloor)
  have hhigh : (n : ℚ) ≤ (⌈q⌉ : ℤ) :=
    Int.cast_le.2 (h.le_of_le (mode.prescribes_intCast ⌈q⌉) hceil)
  rw [abs_lt]
  constructor
  · linarith [Int.lt_floor_add_one q]
  · linarith [Int.ceil_lt_add_one q]

/-- A number that was cut is still rounded to less than one from what it was. -/
theorem abs_choice_cut_sub_lt_one (mode : RoundingMode) (digits : ℕ) (q : ℚ) :
    |(mode.choice (Exact.cut digits q) : ℚ) - q| < 1 :=
  (mode.prescribes_choice _).abs_sub_lt_one (Exact.floor_le_cut digits q)
    (Exact.cut_le_ceil digits q)

/-- The mode for the other side of zero. -/
def mirror : RoundingMode → RoundingMode
  | floor => ceil
  | ceil => floor
  | mode => mode

@[simp]
theorem mirror_mirror (mode : RoundingMode) : mode.mirror.mirror = mode := by
  cases mode <;> rfl

theorem choice_neg (mode : RoundingMode) (q : ℚ) : mode.choice (-q) = -mode.mirror.choice q := by
  have hchoice := mode.prescribes_choice q
  cases mode with simp only [mirror, Prescribes] at hchoice ⊢
  | halfUp =>
    have hneg : halfUp.Prescribes (-q) _ := hchoice.neg fun n m h ↦ by rwa [abs_neg, abs_neg]
    exact hneg.eq_choice.symm
  | halfDown =>
    have hneg : halfDown.Prescribes (-q) _ := hchoice.neg fun n m h ↦ by rwa [abs_neg, abs_neg]
    exact hneg.eq_choice.symm
  | bankers =>
    have hneg : bankers.Prescribes (-q) _ := hchoice.neg fun n m (h : Even n) ↦ h.neg
    exact hneg.eq_choice.symm
  | floor => exact Int.floor_neg
  | ceil => exact Int.ceil_neg
  | truncate => exact Exact.towardZero_neg q

/-! ## Misleading cuts -/

/-- The cut takes away a rest that would have led the mode farther from zero. -/
def Misled (mode : RoundingMode) (digits : ℕ) (q : ℚ) : Prop :=
  Exact.cut digits q ≠ q ∧
    match mode with
    | halfUp | truncate => False
    | halfDown => Int.fract |Exact.cut digits q| = 1 / 2
    | bankers => Int.fract |Exact.cut digits q| = 1 / 2 ∧ Even ⌊|Exact.cut digits q|⌋
    | floor => q < 0 ∧ Int.fract (Exact.cut digits q) = 0
    | ceil => 0 < q ∧ Int.fract (Exact.cut digits q) = 0

instance : Decidable (mode.Misled digits q) :=
  match mode with
  | halfUp | truncate => inferInstanceAs (Decidable (_ ∧ False))
  | halfDown => inferInstanceAs (Decidable (_ ∧ Int.fract |Exact.cut digits q| = 1 / 2))
  | bankers =>
    inferInstanceAs (Decidable
      (_ ∧ Int.fract |Exact.cut digits q| = 1 / 2 ∧ Even ⌊|Exact.cut digits q|⌋))
  | floor => inferInstanceAs (Decidable (_ ∧ q < 0 ∧ Int.fract (Exact.cut digits q) = 0))
  | ceil => inferInstanceAs (Decidable (_ ∧ 0 < q ∧ Int.fract (Exact.cut digits q) = 0))

theorem misled_neg_iff : mode.Misled digits (-q) ↔ mode.mirror.Misled digits q := by
  have hfract := Int.fract_neg_eq_zero (x := Exact.cut digits q)
  cases mode <;> simp [Misled, mirror, Exact.cut_neg, hfract]

/-- After a cut a mode may choose a number one nearer to zero, if it is misled. -/
theorem choice_cut_of_nonneg (mode : RoundingMode) (hdigits : 0 < digits) (h : 0 ≤ q) :
    mode.choice (Exact.cut digits q) = mode.choice q - if mode.Misled digits q then 1 else 0 := by
  have hkept : |Exact.cut digits q| = Exact.cut digits q :=
    abs_of_nonneg (Exact.cut_nonneg digits h)
  have hfloor := Exact.floor_cut digits h
  have hwhole : 0 ≤ ⌊q⌋ := Int.floor_nonneg.2 h
  cases mode with simp only [choice, Misled, hkept, hfloor]
  | halfUp =>
    rw [Exact.nearestBy_cut _ hdigits h]
    simp [hwhole]
  | halfDown =>
    rw [Exact.nearestBy_cut _ hdigits h]
    simp [hwhole.not_gt]
  | bankers =>
    rw [Exact.nearestBy_cut _ hdigits h]
    simp
  | floor => simp [h.not_gt]
  | ceil => exact Exact.ceil_cut digits h
  | truncate => simp [Exact.towardZero_of_nonneg, h, Exact.cut_nonneg, hfloor]

/-- After a cut a mode chooses the same number, or one nearer to zero if it is misled. -/
theorem choice_cut (mode : RoundingMode) (hdigits : 0 < digits) (q : ℚ) :
    mode.choice (Exact.cut digits q) =
      mode.choice q - if mode.Misled digits q then (SignType.sign q : ℤ) else 0 := by
  rcases lt_trichotomy q 0 with h | rfl | h
  · have hpositive := choice_cut_of_nonneg mode.mirror hdigits (neg_pos.2 h).le
    simp only [Exact.cut_neg, choice_neg, misled_neg_iff, mirror_mirror] at hpositive
    rw [sign_neg h, SignType.coe_neg_one, ← neg_inj, hpositive]
    split <;> ring
  · rw [Exact.cut_zero, if_neg fun hmisled ↦ hmisled.1 (Exact.cut_zero digits), sub_zero]
  · rw [choice_cut_of_nonneg mode hdigits h.le, sign_pos h]
    rfl

end RoundingMode

end PayFormula

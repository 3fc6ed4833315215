import Mathlib
import PayFormula.Decimal.Rounding
import PayFormula.Proofs.Decimal.Worth

/-!
# Rounding Is Exact

Rounding counts the whole steps of a magnitude and decides from the rest whether one more is taken.
For a rational the same decision is a choice of a whole number: the floor, the ceiling, the whole part
or the nearest.  Each mode is carried over by what its choice is for a fraction of either sign, and
rounding to a number of places is that choice on the grid of these places.
-/

namespace PayFormula

namespace Exact

/-- The nearest whole number, and of two that are equally near the one farther from zero. -/
def nearest (q : ℚ) : ℤ := if 0 ≤ q then ⌊q + 1 / 2⌋ else -⌊-q + 1 / 2⌋

/-! ## Whole numbers near a fraction -/

theorem floor_natCast_div (a b : ℕ) : ⌊(a : ℚ) / b⌋ = ((a / b : ℕ) : ℤ) := by
  rw [Rat.floor_natCast_div_natCast, Int.natCast_ediv]

theorem div_eq_add_mod {a b : ℕ} (hb : 0 < b) :
    (a : ℚ) / b = (a / b : ℕ) + (a % b : ℕ) / (b : ℚ) := by
  have hne : (b : ℚ) ≠ 0 := by positivity
  have hwhole : (a : ℚ) = (a / b : ℕ) * b + (a % b : ℕ) := by
    exact_mod_cast (Nat.div_add_mod' a b).symm
  calc
    (a : ℚ) / b = ((a / b : ℕ) * b + (a % b : ℕ)) / b := by rw [← hwhole]
    _ = (a / b : ℕ) + (a % b : ℕ) / (b : ℚ) := (add_div_eq_mul_add_div _ _ hne).symm

theorem ceil_natCast_div {a b : ℕ} (hb : 0 < b) :
    ⌈(a : ℚ) / b⌉ = ((if 0 < a % b then a / b + 1 else a / b : ℕ) : ℤ) := by
  have hpos : (0 : ℚ) < b := by positivity
  have hrest : ((a % b : ℕ) : ℚ) / b < 1 := by
    rw [div_lt_one hpos]
    exact_mod_cast Nat.mod_lt a hb
  rw [Int.ceil_eq_iff, div_eq_add_mod hb]
  generalize a / b = whole
  split
  · next h =>
    have hlarge : 0 < ((a % b : ℕ) : ℚ) / b := by positivity
    push_cast
    constructor <;> linarith
  · next h =>
    have hzero : a % b = 0 := by omega
    rw [hzero]
    push_cast
    constructor <;> simp

theorem floor_natCast_div_add_half {a b : ℕ} (hb : 0 < b) :
    ⌊(a : ℚ) / b + 1 / 2⌋ = ((if b ≤ 2 * (a % b) then a / b + 1 else a / b : ℕ) : ℤ) := by
  have hpos : (0 : ℚ) < b := by positivity
  have hrest : ((a % b : ℕ) : ℚ) / b < 1 := by
    rw [div_lt_one hpos]
    exact_mod_cast Nat.mod_lt a hb
  have hnonneg : 0 ≤ ((a % b : ℕ) : ℚ) / b := by positivity
  have hhalf : 1 / 2 ≤ ((a % b : ℕ) : ℚ) / b ↔ b ≤ 2 * (a % b) := by
    rw [div_le_div_iff₀ (by norm_num) hpos, one_mul, mul_comm]
    exact_mod_cast Iff.rfl
  rw [Int.floor_eq_iff, div_eq_add_mod hb]
  generalize a / b = whole
  split
  · next h =>
    have hlarge := hhalf.2 h
    push_cast
    constructor <;> linarith
  · next h =>
    have hsmall := not_le.1 (mt hhalf.1 h)
    push_cast
    constructor <;> linarith

end Exact

namespace RoundingMode

/-- The steps that a mode takes for a magnitude of `a / b`. -/
def steps (mode : RoundingMode) (negative : Bool) (a b : ℕ) : ℕ :=
  if mode.bumps negative (a / b) (a % b) b then a / b + 1 else a / b

end RoundingMode

namespace Decimal

/-- What holds of the steps that a mode takes for fractions of both signs holds of rounding. -/
theorem round_relates {mode : RoundingMode} {R : ℚ → ℤ → Prop}
    (hpositive : ∀ a b : ℕ, 0 < b → R (a / b) (mode.steps false a b))
    (hnegative : ∀ a b : ℕ, 0 < a → 0 < b → R (-(a / b)) (-(mode.steps true a b : ℤ)))
    (places : ℕ) (d : Decimal) :
    R (d.toRat * 10 ^ places) (d.round mode places).coefficient := by
  set a := d.coefficient.natAbs * tenTo places with ha
  have hunit : 0 < tenTo d.places := tenTo_pos d.places
  have hround : (d.round mode places).coefficient =
      if d.isNegative then -(mode.steps d.isNegative a (tenTo d.places) : ℤ)
      else mode.steps d.isNegative a (tenTo d.places) := rfl
  have habs : |d.toRat| * 10 ^ places = (a : ℚ) / (tenTo d.places : ℕ) := by
    rw [← toRat_abs, toRat, abs, ha, Nat.cast_mul, cast_tenTo places, Int.cast_natCast]
    ring
  rcases hnegative' : d.isNegative with _ | _
  · have hnonneg : 0 ≤ d.toRat := by
      by_contra hlt
      exact absurd ((isNegative_iff d).2 (not_le.1 hlt)) (by simp [hnegative'])
    rw [abs_of_nonneg hnonneg] at habs
    rw [hround, hnegative', if_neg Bool.false_ne_true, habs]
    exact hpositive a _ hunit
  · have hlt := (isNegative_iff d).1 hnegative'
    have hpos : 0 < a := by
      have hne : d.coefficient.natAbs ≠ 0 := by
        have := of_decide_eq_true hnegative'
        omega
      exact Nat.mul_pos (Nat.pos_of_ne_zero hne) (tenTo_pos places)
    rw [abs_of_neg hlt, neg_mul, neg_eq_iff_eq_neg] at habs
    rw [hround, hnegative', if_pos rfl, habs]
    exact hnegative a _ hpos hunit

/-- A mode makes a choice of whole numbers when it does so for fractions of both signs. -/
theorem round_coefficient {mode : RoundingMode} {choose : ℚ → ℤ}
    (hpositive : ∀ a b : ℕ, 0 < b → choose (a / b) = mode.steps false a b)
    (hnegative : ∀ a b : ℕ, 0 < a → 0 < b → choose (-(a / b)) = -(mode.steps true a b : ℤ))
    (places : ℕ) (d : Decimal) :
    (d.round mode places).coefficient = choose (d.toRat * 10 ^ places) :=
  (round_relates (R := fun q n ↦ choose q = n) hpositive hnegative places d).symm

theorem round_floor_coefficient (places : ℕ) (d : Decimal) :
    (d.round .floor places).coefficient = ⌊d.toRat * 10 ^ places⌋ :=
  round_coefficient
    (fun a b _ ↦ by
      simp [Exact.floor_natCast_div, RoundingMode.steps, RoundingMode.bumps])
    (fun a b _ hb ↦ by
      simp [Int.floor_neg, Exact.ceil_natCast_div hb, RoundingMode.steps, RoundingMode.bumps])
    places d

theorem round_ceil_coefficient (places : ℕ) (d : Decimal) :
    (d.round .ceil places).coefficient = ⌈d.toRat * 10 ^ places⌉ :=
  round_coefficient
    (fun a b hb ↦ by
      simp [Exact.ceil_natCast_div hb, RoundingMode.steps, RoundingMode.bumps])
    (fun a b _ _ ↦ by
      simp [Int.ceil_neg, Exact.floor_natCast_div, RoundingMode.steps, RoundingMode.bumps])
    places d

theorem round_truncate_coefficient (places : ℕ) (d : Decimal) :
    (d.round .truncate places).coefficient = Exact.towardZero (d.toRat * 10 ^ places) :=
  round_coefficient
    (fun a b _ ↦ by
      simp [Exact.towardZero_natCast_div, RoundingMode.steps, RoundingMode.bumps])
    (fun a b _ _ ↦ by
      simp [Exact.towardZero_neg, Exact.towardZero_natCast_div, RoundingMode.steps,
        RoundingMode.bumps])
    places d

theorem toRat_round_floor (places : ℕ) (d : Decimal) :
    (d.round .floor places).toRat = ⌊d.toRat * 10 ^ places⌋ / 10 ^ places := by
  rw [toRat_eq, round_floor_coefficient]
  rfl

theorem toRat_round_ceil (places : ℕ) (d : Decimal) :
    (d.round .ceil places).toRat = ⌈d.toRat * 10 ^ places⌉ / 10 ^ places := by
  rw [toRat_eq, round_ceil_coefficient]
  rfl

theorem toRat_round_truncate (places : ℕ) (d : Decimal) :
    (d.round .truncate places).toRat = Exact.cut places d.toRat := by
  rw [toRat_eq, round_truncate_coefficient]
  rfl

theorem toRat_round_halfUp (places : ℕ) (d : Decimal) :
    (d.round .halfUp places).toRat = Exact.nearest (d.toRat * 10 ^ places) / 10 ^ places := by
  have hcoefficient : (d.round .halfUp places).coefficient =
      Exact.nearest (d.toRat * 10 ^ places) := by
    refine round_coefficient (fun a b hb ↦ ?_) (fun a b ha hb ↦ ?_) places d
    · have hnonneg : (0 : ℚ) ≤ a / b := by positivity
      rw [Exact.nearest, if_pos hnonneg, Exact.floor_natCast_div_add_half hb]
      simp [RoundingMode.steps, RoundingMode.bumps]
    · have hpos : (0 : ℚ) < a / b := by positivity
      rw [Exact.nearest, if_neg (by linarith), neg_neg, Exact.floor_natCast_div_add_half hb]
      simp [RoundingMode.steps, RoundingMode.bumps]
  rw [toRat_eq, hcoefficient]
  rfl

end Decimal

end PayFormula

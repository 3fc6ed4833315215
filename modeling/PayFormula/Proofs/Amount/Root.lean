import Mathlib
import PayFormula.Proofs.Amount.Arithmetic

/-!
# Square Roots of Amounts

A square root is cut to a multiple of the last digit of the scale, and it is the integer root of a
radicand that was cut to a whole number before.  The first cut is harmless: the square of a whole
number is at most a rational exactly when it is at most the whole part of it.  So the result is the
one multiple whose square does not exceed the amount while that of the next multiple does.
-/

namespace PayFormula

namespace Exact

variable {places : ℕ} {q r r' : ℚ}

/-- The multiple of `10 ^ -places`, not below zero, at which the square root of `q` is cut. -/
structure IsCutRoot (places : ℕ) (q r : ℚ) : Prop where
  multiple : ∃ steps : ℕ, r = steps / 10 ^ places
  sq_le : r ^ 2 ≤ q
  lt_sq_next : q < (r + 1 / 10 ^ places) ^ 2

/-- The integer root does not see the fraction of what it is taken of. -/
theorem le_sqrt_floor_iff (h : 0 ≤ q) (steps : ℕ) :
    steps ≤ Nat.sqrt ⌊q⌋₊ ↔ (steps : ℚ) ^ 2 ≤ q := by
  rw [Nat.le_sqrt', Nat.le_floor_iff h, Nat.cast_pow]

theorem sq_div_le_iff (steps : ℕ) :
    ((steps : ℚ) / 10 ^ places) ^ 2 ≤ q ↔ (steps : ℚ) ^ 2 ≤ q * 10 ^ (2 * places) := by
  rw [div_pow, ← pow_mul, mul_comm places, div_le_iff₀ (by positivity)]

theorem isCutRoot_sqrt_floor (places : ℕ) (h : 0 ≤ q) :
    IsCutRoot places q (Nat.sqrt ⌊q * 10 ^ (2 * places)⌋₊ / 10 ^ places) := by
  have hscaled : 0 ≤ q * 10 ^ (2 * places) := by positivity
  set steps := Nat.sqrt ⌊q * 10 ^ (2 * places)⌋₊ with hsteps
  have hnext : ((steps : ℚ) + 1) / 10 ^ places = steps / 10 ^ places + 1 / 10 ^ places :=
    add_div _ _ _
  refine ⟨⟨steps, rfl⟩, ?_, ?_⟩
  · exact (sq_div_le_iff steps).2 ((le_sqrt_floor_iff hscaled steps).1 le_rfl)
  · have hlarge : ¬steps + 1 ≤ Nat.sqrt ⌊q * 10 ^ (2 * places)⌋₊ := Nat.not_succ_le_self _
    rw [le_sqrt_floor_iff hscaled, ← sq_div_le_iff, not_le, Nat.cast_add_one, hnext] at hlarge
    exact hlarge

/-- Of two cut roots neither reaches the multiple after the other. -/
theorem IsCutRoot.unique (h : IsCutRoot places q r) (h' : IsCutRoot places q r') : r = r' := by
  have hle {a b : ℕ} (ha : IsCutRoot places q (a / 10 ^ places))
      (hb : IsCutRoot places q (b / 10 ^ places)) : a ≤ b := by
    have hsq : ((a : ℚ) / 10 ^ places) ^ 2 < ((b + 1) / 10 ^ places) ^ 2 := by
      rw [add_div]
      exact ha.sq_le.trans_lt hb.lt_sq_next
    have hlt : (a : ℚ) / 10 ^ places < (b + 1) / 10 ^ places :=
      lt_of_pow_lt_pow_left₀ 2 (by positivity) hsq
    rw [div_lt_div_iff_of_pos_right (by positivity)] at hlt
    exact Nat.lt_succ_iff.1 (by exact_mod_cast hlt)
  obtain ⟨a, rfl⟩ := h.multiple
  obtain ⟨b, rfl⟩ := h'.multiple
  rw [(hle h h').antisymm (hle h' h)]

end Exact

namespace Decimal

theorem toRat_rootAt (places : ℕ) {d : Decimal} (h : 0 ≤ d.toRat) :
    (d.rootAt places).toRat = Nat.sqrt ⌊d.toRat * 10 ^ (2 * places)⌋₊ / 10 ^ places := by
  have hnonneg : 0 ≤ d.coefficient := by
    by_contra hlt
    exact h.not_gt ((isNegative_iff d).1 (decide_eq_true (not_le.1 hlt)))
  have hradicand : d.toRat * 10 ^ (2 * places) =
      ((d.coefficient.toNat * tenTo (2 * places) : ℕ) : ℚ) / (tenTo d.places : ℕ) := by
    have hcast : ((d.coefficient.toNat : ℕ) : ℚ) = d.coefficient := by
      exact_mod_cast Int.toNat_of_nonneg hnonneg
    rw [toRat, Nat.cast_mul, hcast, cast_tenTo (2 * places)]
    ring
  rw [hradicand, Nat.floor_div_eq_div, toRat_eq, rootAt, Int.cast_natCast]

end Decimal

namespace Amount

/-- A scale that is a number is no fault, so it does not matter that it is read before the sign. -/
theorem sqrt_eq (number : Value) (scale : Option ℤ) :
    sqrt number (scaleOf scale) =
      .ok ((number.toDecimal.sqrtAt? (placesOf scale)).map Decimal.plain) := by
  rw [sqrt, ofValue_scaleOf, Decimal.sqrtAt?]
  by_cases h : number.toDecimal.isNegative
  · simp only [bind, Except.bind, if_pos h]
    rfl
  · simp only [bind, Except.bind, Scale.cut, Decimal.sqrtAt?, if_neg h]
    rfl

/-- A square root is missing exactly for a number below zero.  Otherwise it is the canonical text
of the one multiple of the last digit that has the root between itself and the next. -/
theorem sqrt_cuts_root (number : Value) (scale : Option ℤ) :
    if numberOf number < 0 then sqrt number (scaleOf scale) = .ok none
    else
      ∃ s r, sqrt number (scaleOf scale) = .ok (some s) ∧ IsCanonicalText s r ∧
        Exact.IsCutRoot (placesOf scale) (numberOf number) r ∧
        ∀ other, Exact.IsCutRoot (placesOf scale) (numberOf number) other → other = r := by
  have hnegative := Decimal.isNegative_iff number.toDecimal
  rw [sqrt_eq, Decimal.sqrtAt?, numberOf]
  split
  · next h => rw [if_pos (hnegative.2 h), Option.map_none]
  · next h =>
    set root := (number.toDecimal.rootAt (placesOf scale)).trim with hroot
    have hcut : Exact.IsCutRoot (placesOf scale) number.toDecimal.toRat root.toRat := by
      rw [hroot, Decimal.toRat_trim, Decimal.toRat_rootAt _ (not_lt.1 h)]
      exact Exact.isCutRoot_sqrt_floor _ (not_lt.1 h)
    rw [if_neg (mt hnegative.1 h), Option.map_some]
    refine ⟨root.plain, root.toRat, rfl, ?_, hcut, fun other hother ↦ hother.unique hcut⟩
    exact (Decimal.isTrimmed_trim _).isCanonicalText_plain

end Amount

end PayFormula

import Mathlib
import PayFormula.Amount.Basic
import PayFormula.Proofs.Decimal.Canonical

/-!
# Amounts Are Computed Exactly

Sums, differences, products, quotients, remainders, absolute values and negatives of amounts are
the exact rational results cut toward zero at the scale.  Each is written as a canonical numeral,
so results are equal as texts exactly when they are equal as numbers.  A quotient or a remainder is
missing exactly when its divisor is cut to zero.
-/

namespace PayFormula

/-! ## Cutting and signs -/

namespace Exact

/-- What is left of `x` after taking `y` a whole number of times. -/
def remainder (x y : ℚ) : ℚ := x - y * towardZero (x / y)

theorem remainder_neg (x y : ℚ) : remainder (-x) y = -remainder x y := by
  rw [remainder, remainder, neg_div, towardZero_neg, Int.cast_neg]
  ring

theorem remainder_neg_right (x y : ℚ) : remainder x (-y) = remainder x y := by
  rw [remainder, remainder, div_neg, towardZero_neg, Int.cast_neg]
  ring

theorem remainder_nonneg {x : ℚ} (y : ℚ) (h : 0 ≤ x) : 0 ≤ remainder x y := by
  have hpositive : ∀ {y : ℚ}, 0 < y → 0 ≤ remainder x y := fun {y} hy ↦ by
    have hwhole : (⌊x / y⌋ : ℚ) ≤ x / y := Int.floor_le _
    rw [remainder, towardZero_of_nonneg (by positivity), sub_nonneg, mul_comm]
    exact (le_div_iff₀ hy).1 hwhole
  rcases lt_trichotomy y 0 with hy | rfl | hy
  · rw [← remainder_neg_right]
    exact hpositive (neg_pos.2 hy)
  · simpa [remainder] using h
  · exact hpositive hy

/-- An odd function that keeps nonnegative numbers so gives each number its sign, or zero. -/
theorem eq_zero_or_sign_eq {f : ℚ → ℚ} (hodd : ∀ x, f (-x) = -f x)
    (hnonneg : ∀ x, 0 ≤ x → 0 ≤ f x) (x : ℚ) :
    f x = 0 ∨ SignType.sign (f x) = SignType.sign x := by
  rcases lt_trichotomy x 0 with hx | rfl | hx
  · have hf : f x ≤ 0 := by
      rw [← neg_nonneg, ← hodd]
      exact hnonneg _ (neg_nonneg.2 hx.le)
    exact hf.eq_or_lt.imp_right fun hlt ↦ by rw [sign_neg hlt, sign_neg hx]
  · have hzero := hodd 0
    rw [neg_zero] at hzero
    exact .inl (by linarith)
  · exact (hnonneg x hx.le).eq_or_lt.imp Eq.symm fun hlt ↦ by rw [sign_pos hlt, sign_pos hx]

/-- A remainder has the sign of what was divided, unless the cut leaves nothing of it. -/
theorem cut_remainder_sign (places : ℕ) (x y : ℚ) :
    cut places (remainder x y) = 0 ∨
      SignType.sign (cut places (remainder x y)) = SignType.sign x := by
  apply eq_zero_or_sign_eq (f := fun x ↦ cut places (remainder x y))
  · intro x
    rw [remainder_neg, cut_neg]
  · intro x hx
    exact cut_nonneg places (remainder_nonneg y hx)

end Exact

namespace Decimal

theorem toRat_remainder (a b : Decimal) :
    (remainder a b).toRat = Exact.remainder a.toRat b.toRat := by
  have ha := unitsAt_eq a (le_max_left a.places b.places)
  have hb := unitsAt_eq b (le_max_right a.places b.places)
  have hunit : (10 : ℚ) ^ max a.places b.places ≠ 0 := by positivity
  have hquotient : (a.unitsAt (max a.places b.places)).tdiv (b.unitsAt (max a.places b.places)) =
      Exact.towardZero (a.toRat / b.toRat) := by
    rw [← Exact.towardZero_div, ha, hb, mul_div_mul_right _ _ hunit]
  calc
    (remainder a b).toRat =
        (a.unitsAt (max a.places b.places) - b.unitsAt (max a.places b.places) *
          Exact.towardZero (a.toRat / b.toRat)) / 10 ^ max a.places b.places := by
      rw [toRat_eq, remainder, Int.tmod_def, hquotient, Int.cast_sub, Int.cast_mul]
    _ = Exact.remainder a.toRat b.toRat * 10 ^ max a.places b.places /
        10 ^ max a.places b.places := by
      rw [ha, hb, Exact.remainder]
      ring
    _ = Exact.remainder a.toRat b.toRat := mul_div_cancel_right₀ _ hunit

theorem isTrimmed_scaled (scale : ℕ) (d : Decimal) : (d.scaled scale).IsTrimmed := isTrimmed_trim _

end Decimal

/-! ## Written results -/

/-- The text is the canonical numeral of the number. -/
def IsCanonicalText (s : String) (q : ℚ) : Prop :=
  ∃ n : Numeral, n.IsCanonical ∧ n.text = s ∧ n.worth = q

theorem IsCanonicalText.eq_iff {s t : String} {p q : ℚ} (hs : IsCanonicalText s p)
    (ht : IsCanonicalText t q) : s = t ↔ p = q := by
  obtain ⟨m, hm, rfl, rfl⟩ := hs
  obtain ⟨n, hn, rfl, rfl⟩ := ht
  exact hm.text_eq_iff hn

theorem Decimal.IsTrimmed.isCanonicalText_plain {d : Decimal} (hd : d.IsTrimmed) :
    IsCanonicalText d.plain d.toRat :=
  ⟨d.numeral, hd.isCanonical_numeral, by rw [text_numeral, hd.plain_eq_fixed], worth_numeral d⟩

namespace Amount

/-! ## Scales -/

/-- A scale that may be left out. -/
def scaleOf : Option ℤ → Value
  | none => .null
  | some n => .int n

/-- The places at which a scale cuts: ten when it is left out, and none below zero. -/
def placesOf : Option ℤ → ℕ
  | none => 10
  | some n => n.toNat

/-- A number cut toward zero at a scale. -/
def cutAt (scale : Option ℤ) (q : ℚ) : ℚ := Exact.cut (placesOf scale) q

theorem cutPlaces_scaleOf (scale : Option ℤ) :
    cutPlaces (scaleOf scale) = .ok (placesOf scale) := by
  cases scale <;> rfl

theorem ofValue_scaleOf (scale : Option ℤ) :
    Scale.ofValue (scaleOf scale) = .ok (.places (placesOf scale)) := by
  cases scale <;> rfl

theorem quotientPlaces_scaleOf (scale : Option ℤ) (divisor : Decimal) :
    quotientPlaces (scaleOf scale) divisor = .ok (placesOf scale) := by
  rw [quotientPlaces, ofValue_scaleOf]
  exact ite_self _

/-! ## The operations -/

/-- The number that a value is read as. -/
def numberOf (value : Value) : ℚ := value.toDecimal.toRat

/-- The operation succeeds with the canonical text of the number. -/
def Gives (result : Except Fault String) (q : ℚ) : Prop :=
  ∃ s, result = .ok s ∧ IsCanonicalText s q

/-- The operation has no result when the divisor counts as zero, and otherwise it succeeds with the
canonical text of the number. -/
def GivesUnless (divisor : ℚ) (result : Except Fault (Option String)) (q : ℚ) : Prop :=
  if divisor = 0 then result = .ok none else ∃ s, result = .ok (some s) ∧ IsCanonicalText s q

theorem gives_plain {d : Decimal} {q : ℚ} (hd : d.IsTrimmed) (hworth : d.toRat = q) :
    Gives (.ok d.plain) q :=
  ⟨d.plain, rfl, hworth ▸ hd.isCanonicalText_plain⟩

/-- A result that is left out when the divisor is cut to zero. -/
theorem givesUnless_plain {scale : ℕ} {d divisor : Decimal} {q : ℚ} (hd : d.IsTrimmed)
    (hworth : d.toRat = q) :
    GivesUnless (Exact.cut scale divisor.toRat)
      (.ok ((if divisor.isZeroAt scale then none else some d).map Decimal.plain)) q := by
  have hzero := Decimal.isZeroAt_iff scale divisor
  unfold GivesUnless
  by_cases h : Exact.cut scale divisor.toRat = 0
  · rw [if_pos h, if_pos (hzero.2 h), Option.map_none]
  · rw [if_neg h, if_neg (mt hzero.1 h), Option.map_some]
    exact ⟨d.plain, rfl, hworth ▸ hd.isCanonicalText_plain⟩

/-- A result that may be missing, known by what it is worth. -/
theorem givesUnless_map_plain {result : Option Decimal} {divisor q : ℚ}
    (htrimmed : ∀ d, result = some d → d.IsTrimmed)
    (hworth : result.map Decimal.toRat = if divisor = 0 then none else some q) :
    GivesUnless divisor (.ok (result.map Decimal.plain)) q := by
  unfold GivesUnless
  split
  · next h =>
    rw [if_pos h, Option.map_eq_none_iff] at hworth
    rw [hworth, Option.map_none]
  · next h =>
    rw [if_neg h, Option.map_eq_some_iff] at hworth
    obtain ⟨d, rfl, rfl⟩ := hworth
    exact ⟨d.plain, rfl, (htrimmed d rfl).isCanonicalText_plain⟩

/-- Results that are worth the same are the same text. -/
theorem Gives.eq {result result' : Except Fault String} {q : ℚ} (h : Gives result q)
    (h' : Gives result' q) : result = result' := by
  obtain ⟨s, rfl, hs⟩ := h
  obtain ⟨t, rfl, ht⟩ := h'
  rw [(hs.eq_iff ht).2 rfl]

theorem Gives.unique {result : Except Fault String} {q q' : ℚ} (h : Gives result q)
    (h' : Gives result q') : q = q' := by
  obtain ⟨s, hresult, hs⟩ := h
  obtain ⟨t, hresult', ht⟩ := h'
  obtain rfl := Except.ok.inj (hresult.symm.trans hresult')
  exact (hs.eq_iff ht).1 rfl

theorem GivesUnless.eq {result result' : Except Fault (Option String)} {divisor q : ℚ}
    (h : GivesUnless divisor result q) (h' : GivesUnless divisor result' q) : result = result' := by
  unfold GivesUnless at h h'
  split at h
  · next hzero =>
    rw [if_pos hzero] at h'
    rw [h, h']
  · next hzero =>
    rw [if_neg hzero] at h'
    obtain ⟨s, rfl, hs⟩ := h
    obtain ⟨t, rfl, ht⟩ := h'
    rw [(hs.eq_iff ht).2 rfl]

variable (a b : Value) (scale : Option ℤ)

theorem add_gives :
    Gives (add a b (scaleOf scale)) (cutAt scale (numberOf a + numberOf b)) := by
  rw [add, cutPlaces_scaleOf]
  exact gives_plain (Decimal.isTrimmed_scaled _ _) (Decimal.toRat_addAt _ _ _)

theorem sub_gives :
    Gives (sub a b (scaleOf scale)) (cutAt scale (numberOf a - numberOf b)) := by
  rw [sub, cutPlaces_scaleOf]
  exact gives_plain (Decimal.isTrimmed_scaled _ _) (Decimal.toRat_subAt _ _ _)

theorem mul_gives :
    Gives (mul a b (scaleOf scale)) (cutAt scale (numberOf a * numberOf b)) := by
  rw [mul, cutPlaces_scaleOf]
  exact gives_plain (Decimal.isTrimmed_scaled _ _) (Decimal.toRat_mulAt _ _ _)

theorem absolute_gives : Gives (absolute a (scaleOf scale)) (cutAt scale |numberOf a|) := by
  rw [absolute, cutPlaces_scaleOf]
  exact gives_plain (Decimal.isTrimmed_scaled _ _) (Decimal.toRat_absAt _ _)

theorem negate_gives : Gives (negate a (scaleOf scale)) (cutAt scale (-numberOf a)) := by
  rw [negate, cutPlaces_scaleOf]
  exact gives_plain (Decimal.isTrimmed_scaled _ _) (Decimal.toRat_negAt _ _)

theorem div_gives :
    GivesUnless (cutAt scale (numberOf b)) (div a b (scaleOf scale))
      (cutAt scale (numberOf a / numberOf b)) := by
  have hworth := Decimal.toRat_quotientAt (placesOf scale) a.toDecimal b.toDecimal
  rw [← Decimal.toRat_trim] at hworth
  rw [div, quotientPlaces_scaleOf]
  exact givesUnless_plain (Decimal.isTrimmed_trim _) hworth

theorem mod_gives :
    GivesUnless (cutAt scale (numberOf b)) (mod a b (scaleOf scale))
      (cutAt scale (Exact.remainder (numberOf a) (numberOf b))) := by
  have hworth := Decimal.toRat_scaled (placesOf scale) (a.toDecimal.remainder b.toDecimal)
  rw [Decimal.toRat_remainder] at hworth
  rw [mod, cutPlaces_scaleOf]
  exact givesUnless_plain (Decimal.isTrimmed_scaled _ _) hworth

/-- A quotient that must exist fails when the divisor counts as zero. -/
theorem divOrFail_gives :
    if cutAt scale (numberOf b) = 0 then divOrFail a b (scaleOf scale) = .error .zeroDivisor
    else Gives (divOrFail a b (scaleOf scale)) (cutAt scale (numberOf a / numberOf b)) := by
  have hdiv := div_gives a b scale
  unfold GivesUnless at hdiv
  rw [divOrFail]
  split
  · next h =>
    rw [if_pos h] at hdiv
    rw [hdiv]
    rfl
  · next h =>
    rw [if_neg h] at hdiv
    obtain ⟨s, hs, hcanonical⟩ := hdiv
    rw [hs]
    exact ⟨s, rfl, hcanonical⟩

/-- Amounts are computed exactly, cut toward zero and written canonically. -/
theorem arithmetic_exact_then_cut :
    Gives (add a b (scaleOf scale)) (cutAt scale (numberOf a + numberOf b)) ∧
    Gives (sub a b (scaleOf scale)) (cutAt scale (numberOf a - numberOf b)) ∧
    Gives (mul a b (scaleOf scale)) (cutAt scale (numberOf a * numberOf b)) ∧
    Gives (absolute a (scaleOf scale)) (cutAt scale |numberOf a|) ∧
    Gives (negate a (scaleOf scale)) (cutAt scale (-numberOf a)) ∧
    GivesUnless (cutAt scale (numberOf b)) (div a b (scaleOf scale))
      (cutAt scale (numberOf a / numberOf b)) ∧
    (if cutAt scale (numberOf b) = 0 then divOrFail a b (scaleOf scale) = .error .zeroDivisor
      else Gives (divOrFail a b (scaleOf scale)) (cutAt scale (numberOf a / numberOf b))) ∧
    GivesUnless (cutAt scale (numberOf b)) (mod a b (scaleOf scale))
      (cutAt scale (Exact.remainder (numberOf a) (numberOf b))) ∧
    (cutAt scale (Exact.remainder (numberOf a) (numberOf b)) = 0 ∨
      SignType.sign (cutAt scale (Exact.remainder (numberOf a) (numberOf b))) =
        SignType.sign (numberOf a)) ∧
    ∀ (s t : String) (p q : ℚ), IsCanonicalText s p → IsCanonicalText t q → (s = t ↔ p = q) :=
  ⟨add_gives a b scale, sub_gives a b scale, mul_gives a b scale, absolute_gives a scale,
    negate_gives a scale, div_gives a b scale, divOrFail_gives a b scale, mod_gives a b scale,
    Exact.cut_remainder_sign _ _ _, fun _ _ _ _ hs ht ↦ hs.eq_iff ht⟩

end Amount

end PayFormula

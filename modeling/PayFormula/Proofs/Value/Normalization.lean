import Mathlib
import PayFormula.Proofs.Value.Layout
import PayFormula.Value.Number

/-!
# Values in Plain Form

Any value at all can be written as a plain amount: digits, with a minus sign in front only if the
amount is below zero, with a point only where a fraction follows, and with a single `0` for every
zero.  The amount is what the value counts for.  Writing an amount that is written plainly already
changes nothing, so the plain form is a projection.
-/

namespace PayFormula

/-! ## Plain numerals -/

namespace Numeral

/-- There are digits before the point and after it, and zero is written in one way. -/
structure IsPlain (n : Numeral) : Prop where
  whole_ne_nil : n.magnitude.whole ≠ []
  no_bare_point : n.magnitude.fraction? ≠ some []
  zero : n.worth = 0 → n.text = "0"

end Numeral

namespace Decimal

theorem whole_numeral_ne_nil (d : Decimal) : d.numeral.magnitude.whole ≠ [] := Nat.toDigits_ne_nil

theorem isPlain_numeral {d : Decimal} (h : d.toRat ≠ 0) : d.numeral.IsPlain where
  whole_ne_nil := whole_numeral_ne_nil _
  no_bare_point := by
    intro hbare
    have hplaces := hasPlaces_numeral d
    rw [Numeral.HasPlaces, hbare] at hplaces
    split at hplaces
    · simp at hplaces
    · next hne => exact hne (Option.some.inj hplaces).symm
  zero hzero := absurd (d.worth_numeral.symm.trans hzero) h

theorem isPlain_zero : (0 : Decimal).numeral.IsPlain where
  whole_ne_nil := whole_numeral_ne_nil _
  no_bare_point := by simp [numeral, show (0 : Decimal).places = 0 from rfl]
  zero _ := by
    rw [text_numeral]
    decide +kernel

/-- The plain form is a plain numeral of the same worth. -/
theorem exists_isPlain_plain (d : Decimal) :
    ∃ n : Numeral, n.IsPlain ∧ d.plain = n.text ∧ n.worth = d.toRat := by
  by_cases hzero : d.toRat = 0
  · have hplain : d.plain = "0" := if_pos ((isZero_iff d).2 hzero)
    refine ⟨(0 : Decimal).numeral, isPlain_zero, ?_, ?_⟩
    · rw [hplain, isPlain_zero.zero (by rw [worth_numeral, toRat_zero])]
    · rw [worth_numeral, toRat_zero, hzero]
  · have hplain : d.plain = d.fixed := if_neg (mt (isZero_iff d).1 hzero)
    exact ⟨d.numeral, isPlain_numeral hzero, by rw [hplain, text_numeral], worth_numeral d⟩

/-- The plain form of a number is its own plain form. -/
theorem plain_ofText_plain (d : Decimal) : (ofText d.plain).plain = d.plain := by
  unfold plain
  split
  · decide +kernel
  · next h => rw [ofText_fixed, if_neg h]

end Decimal

/-! ## What values count for -/

namespace Value

theorem toRat_toDecimal_decimal (x : Scientific) : (decimal x).toDecimal.toRat = x.worth :=
  x.toRat_toDecimal

/-- A double counts for the number that its text spells. -/
theorem exists_toRat_toDecimal_float (negative : Bool) (mantissa : ℕ) (exponent : ℤ) :
    ∃ (n : Numeral) (power : ℤ),
      (Binary64.finite negative mantissa exponent).toChars = n.scaledChars 'e' 2 power ∧
      (float (.finite negative mantissa exponent)).toDecimal.toRat = n.worth * 10 ^ power ∧
      (power ≠ 0 → n.worth ≠ 0) := by
  obtain ⟨n, power, hchars, hworth⟩ :=
    Binary64.exists_scaledChars_eq_toChars negative mantissa exponent
  refine ⟨n, power, hchars, ?_, hworth⟩
  rw [toDecimal, Binary64.text, hchars, Scientific.ofText?_scaledChars, Option.map_some,
    Option.getD_some, Scientific.toRat_toDecimal, Scientific.worth_ofNumeral]

/-! ## Plain form of values -/

/-- Every value is written as a plain amount that is worth what the value counts for.  Of a text
that spells a number the plain amount is worth that number, and a plain amount stays as it is. -/
theorem normalize_projects :
    (∀ value : Value, ∃ n : Numeral,
      n.IsPlain ∧ value.normalize = n.text ∧ n.worth = value.toDecimal.toRat) ∧
    (∀ n : Numeral, ∃ m : Numeral,
      m.IsPlain ∧ (text n.text).normalize = m.text ∧ m.worth = n.worth) ∧
    ∀ value : Value, (text value.normalize).normalize = value.normalize := by
  refine ⟨fun value ↦ Decimal.exists_isPlain_plain value.toDecimal, fun n ↦ ?_, fun value ↦ ?_⟩
  · obtain ⟨m, hplain, htext, hworth⟩ :=
      Decimal.exists_isPlain_plain (text n.text).toDecimal
    refine ⟨m, hplain, htext, ?_⟩
    rw [hworth, toDecimal, Decimal.ofText_numeral, Decimal.toRat_ofNumeral]
  · exact Decimal.plain_ofText_plain value.toDecimal

example : (text "1.2.3").normalize = "0" ∧ (text "-00.50 EUR").normalize = "-0.50" := by
  decide +kernel

end Value

end PayFormula

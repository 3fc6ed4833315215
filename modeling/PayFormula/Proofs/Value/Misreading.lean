import Mathlib
import PayFormula.Proofs.Amount.Ratios
import PayFormula.Proofs.Value.Normalization

/-!
# Texts of Values

A scalar counts for an amount, and it also has a text, which a forgiving reading takes for an amount
as well.  For integers, dates and texts the two amounts are the same.  They differ for truth, whose
text is a word, for numbers written with an exponent, and for the payload of what is no number.
-/

namespace PayFormula

namespace Value

/-- A single piece of data, and not null. -/
def isScalar : Value → Bool
  | null | list _ | map _ => false
  | _ => true

theorem isNull_of_isScalar {value : Value} (h : value.isScalar = true) : value.isNull = false := by
  cases value with
  | null => exact absurd h Bool.false_ne_true
  | _ => rfl

/-- The text of the value is read as another amount than the value counts for. -/
def IsMisread : Value → Prop
  | bool b => b = true
  | float x => 'e' ∈ x.toChars
  | decimal (.finite negative digits power) =>
    'E' ∈ (Scientific.finite negative digits power).toChars ∧ (digits ≠ 0 ∨ 0 < power)
  | decimal (.nan _ _ payload) => payload ≠ 0
  | _ => False

instance : DecidablePred IsMisread
  | bool b => inferInstanceAs (Decidable (b = true))
  | float x => inferInstanceAs (Decidable ('e' ∈ x.toChars))
  | decimal (.finite negative digits power) =>
    inferInstanceAs (Decidable
      ('E' ∈ (Scientific.finite negative digits power).toChars ∧ (digits ≠ 0 ∨ 0 < power)))
  | decimal (.nan _ _ payload) => inferInstanceAs (Decidable (payload ≠ 0))
  | decimal (.infinite _) | null | int _ | date _ | text _ | list _ | map _ => isFalse not_false

/-! ## Doubles -/

theorem toRat_ofText_toText_float_iff (x : Binary64) :
    (Decimal.ofText (float x).toText).toRat = (float x).toDecimal.toRat ↔ 'e' ∉ x.toChars := by
  have hmark : Decimal.isNumeric 'e' = false := by decide +kernel
  cases x with
  | nan => decide +kernel
  | infinite negative => cases negative <;> decide +kernel
  | finite negative mantissa exponent =>
    obtain ⟨n, power, hchars, hworth, hne⟩ :=
      exists_toRat_toDecimal_float negative mantissa exponent
    change (Decimal.ofText (String.ofList _)).toRat = _ ↔ _
    rw [hchars, hworth, Numeral.toRat_ofText_scaledChars_iff hmark,
      Numeral.mark_mem_scaledChars_iff hmark, not_not]
    refine or_iff_left fun h ↦ ?_
    exact hne h.1.ne h.2

/-! ## Decimals -/

theorem worth_finite_eq_zero_iff (negative : Bool) (digits : ℕ) (power : ℤ) :
    (Scientific.finite negative digits power).worth = 0 ↔ digits = 0 := by
  rw [Scientific.worth, mul_eq_zero]
  cases negative <;> simp [zpow_ne_zero]

theorem toRat_ofText_toText_finite_iff (negative : Bool) (digits : ℕ) (power : ℤ) :
    (Decimal.ofText (decimal (.finite negative digits power)).toText).toRat =
        (decimal (.finite negative digits power)).toDecimal.toRat ↔
      ¬('E' ∈ (Scientific.finite negative digits power).toChars ∧ (digits ≠ 0 ∨ 0 < power)) := by
  have hmark : Decimal.isNumeric 'E' = false := by decide +kernel
  obtain ⟨n, exponent, hchars, hworth, hpower⟩ :=
    Scientific.exists_scaledChars_eq_toChars negative digits power
  have hzero : n.worth = 0 ↔ digits = 0 := by
    rw [← worth_finite_eq_zero_iff negative digits power, ← hworth, mul_eq_zero]
    simp [zpow_ne_zero]
  change (Decimal.ofText (String.ofList _)).toRat = _ ↔ _
  rw [hchars, toRat_toDecimal_decimal, ← hworth, Numeral.toRat_ofText_scaledChars_iff hmark,
    Numeral.mark_mem_scaledChars_iff hmark, hzero]
  by_cases hexponent : exponent = 0
  · simp [hexponent]
  · by_cases hdigits : digits = 0
    · have hsame := hpower hexponent hdigits
      simp [hexponent, hdigits]
      omega
    · simp [hexponent, hdigits]

theorem filter_toChars_nan (negative signalling : Bool) {payload : ℕ} (h : payload ≠ 0) :
    (Scientific.nan negative signalling payload).toChars.filter Decimal.isNumeric =
      (if negative then ['-'] else []) ++ Nat.toDigits 10 payload := by
  have hdigits : (Nat.toDigits 10 payload).filter Decimal.isNumeric = Nat.toDigits 10 payload :=
    List.filter_eq_self.2 fun c hc ↦ by
      have hdigit := Nat.isDigit_of_mem_toDigits (by decide) (by decide) hc
      simp [Decimal.isNumeric, Text.isDigit_of_isDigit hdigit]
  have hfront : (Scientific.toChars.sign negative ++
      (if signalling then ['s'] else []) ++ "NaN".toList).filter Decimal.isNumeric =
        if negative then ['-'] else [] := by
    cases negative <;> cases signalling <;> decide +kernel
  rw [Scientific.toChars, if_neg h, List.filter_append, hfront, hdigits]

/-- The payload of what is no number is read as if it were one. -/
theorem toRat_ofText_toText_nan_iff (negative signalling : Bool) (payload : ℕ) :
    (Decimal.ofText (decimal (.nan negative signalling payload)).toText).toRat =
      (decimal (.nan negative signalling payload)).toDecimal.toRat ↔ payload = 0 := by
  by_cases h : payload = 0
  · rw [h]
    cases negative <;> cases signalling <;> decide +kernel
  · set d : Decimal := ⟨if negative then -(payload : ℤ) else payload, 0⟩ with hd
    have hchars : d.fixedChars = (if negative then ['-'] else []) ++ Nat.toDigits 10 payload := by
      rw [hd, Decimal.fixedChars, Decimal.unsignedChars, Decimal.isNegative]
      cases negative <;> simp [tenTo_eq, Nat.pos_of_ne_zero h]
    have hread : Decimal.ofText (decimal (.nan negative signalling payload)).toText = d := by
      rw [toText, Scientific.text, Decimal.ofText, String.toList_ofList,
        filter_toChars_nan negative signalling h, ← hchars]
      exact congrArg (Option.getD · 0) ((Decimal.ofChars?_numeral d.numeral).trans
        (congrArg some d.ofNumeral_numeral))
    have hne : d.toRat ≠ 0 := by
      rw [Decimal.toRat_eq, hd]
      cases negative <;> simp [h]
    have hworth : (Scientific.nan negative signalling payload).worth = 0 := rfl
    rw [hread, toRat_toDecimal_decimal, hworth]
    exact iff_of_false hne h

/-- The text of a scalar is read as the amount that the scalar counts for, unless the scalar is
misread. -/
theorem toRat_ofText_toText_iff {value : Value} (h : value.isScalar = true) :
    (Decimal.ofText value.toText).toRat = value.toDecimal.toRat ↔ ¬value.IsMisread := by
  cases value with
  | null | list _ | map _ => exact absurd h Bool.false_ne_true
  | bool b => cases b <;> decide +kernel
  | int n =>
    simp only [IsMisread, not_false_iff, Decimal.ofText_toText_int, toDecimal]
  | float x => exact toRat_ofText_toText_float_iff x
  | decimal x =>
    cases x with
    | finite negative digits power => exact toRat_ofText_toText_finite_iff negative digits power
    | infinite negative => cases negative <;> decide +kernel
    | nan negative signalling payload =>
      exact (toRat_ofText_toText_nan_iff negative signalling payload).trans not_not.symm
  | date d => exact iff_of_true rfl not_false
  | text s => exact iff_of_true rfl not_false

end Value

end PayFormula

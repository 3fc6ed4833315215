import Mathlib
import PayFormula.Proofs.Amount.Arithmetic
import PayFormula.Proofs.Decimal.Conservation
import PayFormula.Proofs.Decimal.Prescription

/-!
# Amounts Are Rounded as Prescribed

A rounded amount is written with the digits asked for and is the multiple of its last digit that the
mode prescribes for the exact number.  A larger amount is never rounded to less, and an amount that
was rounded is its own rounding.
-/

namespace PayFormula

namespace Decimal

/-- The numeral of a number has a minus sign exactly when the number is below zero. -/
theorem negative_numeral_iff (d : Decimal) : d.numeral.negative = true ↔ d.numeral.worth < 0 := by
  rw [worth_numeral]
  exact isNegative_iff d

end Decimal

namespace Amount

/-- Rounding succeeds for every amount and with every mode.  The result has the digits asked for and
no minus sign unless it is below zero, it is the multiple that the mode prescribes, a larger amount
is not rounded to less, and rounding again changes nothing. -/
theorem round_as_prescribed {digits shown : Value} {n : ℤ} {mode : RoundingMode}
    (hdigits : digits.count = .ok n) (hmode : RoundingMode.ofText shown.toText = mode)
    (amount : Value) :
    ∃ rounded : Numeral,
      round amount digits shown = .ok rounded.text ∧
      rounded.HasPlaces n.toNat ∧
      (rounded.negative = true ↔ rounded.worth < 0) ∧
      (∃ multiple : ℤ, rounded.worth = multiple / 10 ^ n.toNat ∧
        mode.Prescribes (numberOf amount * 10 ^ n.toNat) multiple) ∧
      (∀ (larger : Value) (result : Numeral), numberOf amount ≤ numberOf larger →
        round larger digits shown = .ok result.text → rounded.worth ≤ result.worth) ∧
      round (.text rounded.text) digits shown = .ok rounded.text := by
  have hround (number : Value) : round number digits shown =
      .ok (number.toDecimal.round mode n.toNat).numeral.text := by
    rw [round_eq hdigits, hmode, Decimal.text_numeral]
  set rounded := amount.toDecimal.round mode n.toNat with hrounded
  have hplaces : rounded.places = n.toNat := rfl
  refine ⟨rounded.numeral, hround amount, ?_, rounded.negative_numeral_iff, ?_, ?_, ?_⟩
  · rw [← hplaces]
    exact rounded.hasPlaces_numeral
  · refine ⟨rounded.coefficient, ?_, Decimal.round_prescribes mode n.toNat amount.toDecimal⟩
    rw [Decimal.worth_numeral, hrounded, Decimal.toRat_round]
  · intro larger result hle hlarger
    rw [hround] at hlarger
    rw [← Decimal.worth_eq_of_text_eq (Except.ok.inj hlarger), Decimal.worth_numeral,
      Decimal.worth_numeral]
    exact Decimal.round_le_round mode n.toNat hle
  · have hread : (Value.text rounded.numeral.text).toDecimal = rounded := by
      rw [Decimal.text_numeral]
      exact Decimal.ofText_fixed rounded
    rw [hround, hread, ← hplaces, Decimal.round_eq_self]

/-- A tie goes to the even last digit, from below zero as well. -/
theorem round_as_prescribed_negative_tie :
    (Value.int 2).count = .ok 2 ∧
    RoundingMode.ofText (Value.text " bankers").toText = .bankers ∧
    ∃ rounded : Numeral,
      round (.text "-0.125") (.int 2) (.text " bankers") = .ok rounded.text ∧
      rounded.text = "-0.12" ∧ rounded.HasPlaces 2 ∧
      (rounded.negative = true ↔ rounded.worth < 0) ∧
      (∃ multiple : ℤ, rounded.worth = multiple / 10 ^ 2 ∧
        RoundingMode.bankers.Prescribes (numberOf (.text "-0.125") * 10 ^ 2) multiple) ∧
      (∀ (larger : Value) (result : Numeral), numberOf (.text "-0.125") ≤ numberOf larger →
        round larger (.int 2) (.text " bankers") = .ok result.text → rounded.worth ≤ result.worth) ∧
      round (.text rounded.text) (.int 2) (.text " bankers") = .ok rounded.text := by
  have hdigits : (Value.int 2).count = .ok 2 := rfl
  have hmode : RoundingMode.ofText (Value.text " bankers").toText = .bankers := by decide +kernel
  have htext : round (.text "-0.125") (.int 2) (.text " bankers") = .ok "-0.12" := rfl
  obtain ⟨rounded, hrounded, hprescribed⟩ :=
    round_as_prescribed hdigits hmode (.text "-0.125")
  exact ⟨hdigits, hmode, rounded, hrounded, Except.ok.inj (hrounded.symm.trans htext), hprescribed⟩

end Amount

end PayFormula

import Mathlib
import PayFormula.Formula.Lexer

/-!
# Blanks

A blank neither starts nor goes on with a number or a name, so a token that begins with one of
these is not passed over.
-/

namespace PayFormula

open Text

namespace Text

theorem Bands.exists_mem_of_has {bands : Bands} {point : ℕ} (h : bands.has point = true) :
    ∃ band ∈ bands, band.1 ≤ point ∧ point ≤ band.2 := by
  induction bands with
  | nil => exact absurd h Bool.false_ne_true
  | cons band rest ih =>
    rw [has] at h
    split at h
    · exact absurd h Bool.false_ne_true
    · next hlow =>
      rcases Bool.or_eq_true_iff.1 h with hhigh | hrest
      · exact ⟨band, List.mem_cons_self, not_lt.1 hlow, of_decide_eq_true hhigh⟩
      · obtain ⟨found, hmem, hfound⟩ := ih hrest
        exact ⟨found, List.mem_cons_of_mem band hmem, hfound⟩

/-- What holds of each point of the bands of blanks holds of each blank. -/
theorem forall_blank {p : Char → Prop}
    (h : ∀ band ∈ blankBands, ∀ n ∈ List.range' band.1 (band.2 + 1 - band.1), p (Char.ofNat n))
    {c : Char} (hc : isBlank c = true) : p c := by
  obtain ⟨band, hband, hlow, hhigh⟩ := Bands.exists_mem_of_has hc
  have hp := h band hband c.toNat (List.mem_range'_1.2 ⟨hlow, by omega⟩)
  rwa [Char.ofNat_toNat] at hp

end Text

theorem isDigitLike_of_isBlank {c : Char} (h : isBlank c = true) : isDigitLike c = false :=
  forall_blank (p := fun c ↦ isDigitLike c = false) (by decide +kernel) h

theorem isNameChar_of_isBlank {c : Char} (h : isBlank c = true) : isNameChar c = false :=
  forall_blank (p := fun c ↦ isNameChar c = false) (by decide +kernel) h

theorem isBlank_of_isNumberChar {c : Char} (h : isNumberChar c = true) : isBlank c = false := by
  rw [← Bool.not_eq_true]
  intro hblank
  rw [isNumberChar, isDigitLike_of_isBlank hblank, Bool.false_or, beq_iff_eq] at h
  rw [h] at hblank
  exact absurd hblank (by decide +kernel)

end PayFormula

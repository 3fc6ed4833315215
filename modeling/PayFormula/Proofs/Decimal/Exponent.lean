import Mathlib
import PayFormula.Proofs.Decimal.Canonical

/-!
# Numerals with an Exponent

A numeral may be written with a power of ten after it: a mark, a sign and the digits of the
exponent.  The forgiving reading passes over the mark and a plus sign.  So after a minus sign nothing
is left of the number, and otherwise the digits of the exponent go on where the numeral ends.  What
is read is never the number that was written, unless it is zero.
-/

namespace PayFormula

/-- A power of ten after a numeral, with at least `width` digits. -/
def exponentChars (mark : Char) (width : ℕ) (power : ℤ) : List Char :=
  mark :: (if power < 0 then '-' else '+') :: Decimal.fractionDigits width power.natAbs

theorem Decimal.fractionDigits_ne_nil (places n : ℕ) : fractionDigits places n ≠ [] := by
  simp [fractionDigits, List.leftpad, Nat.toDigits_ne_nil]

namespace UnsignedNumeral

theorem exists_chars_eq_cons (m : UnsignedNumeral) :
    ∃ c cs, m.chars = c :: cs ∧ (c.isDigit = true ∨ c = '.') := by
  rcases hchars : m.chars with _ | ⟨c, cs⟩
  · rw [chars, List.append_eq_nil_iff] at hchars
    obtain ⟨hwhole, hfraction⟩ := hchars
    have hnone : m.fraction?.getD [] = [] := by
      cases hf : m.fraction? with
      | none => rfl
      | some digits => simp [hf] at hfraction
    exact absurd (by rw [hwhole, hnone]; rfl) m.some_digit
  · exact ⟨c, cs, rfl, Decimal.mem_chars (by rw [hchars]; exact List.mem_cons_self)⟩

/-! ## More digits at the end -/

/-- The numeral with digits after its last one. -/
def append (m : UnsignedNumeral) (digits : List Char) (h : ∀ c ∈ digits, c.isDigit = true) :
    UnsignedNumeral :=
  match hf : m.fraction? with
  | none =>
    { whole := m.whole ++ digits
      fraction? := none
      whole_digits := List.forall_mem_append.2 ⟨m.whole_digits, h⟩
      fraction_digits := by simp
      some_digit := by
        have hne := m.some_digit
        simp_all }
  | some fraction =>
    { whole := m.whole
      fraction? := some (fraction ++ digits)
      whole_digits := m.whole_digits
      fraction_digits := List.forall_mem_append.2 ⟨by simpa [hf] using m.fraction_digits, h⟩
      some_digit := by
        have hne := m.some_digit
        rw [hf, Option.getD_some] at hne
        rw [Option.getD_some, ← List.append_assoc]
        exact List.append_ne_nil_of_left_ne_nil hne digits }

variable {m : UnsignedNumeral} {digits : List Char} (h : ∀ c ∈ digits, c.isDigit = true)

theorem chars_append : (m.append digits h).chars = m.chars ++ digits := by
  unfold append
  split
  · next hf => simp [chars, hf]
  · next hf => simp [chars, hf]

theorem digits_append :
    (m.append digits h).whole ++ (m.append digits h).fraction =
      m.whole ++ m.fraction ++ digits := by
  unfold append
  split
  · next hf => simp [fraction, hf]
  · next hf => simp [fraction, hf]

theorem length_fraction_append :
    (m.append digits h).fraction.length = m.fraction.length ∨
      (m.append digits h).fraction.length = m.fraction.length + digits.length := by
  unfold append
  split
  · next hf => simp [fraction, hf]
  · next hf => simp [fraction, hf]

end UnsignedNumeral

/-- Digits that are not all zero do not stand for zeros. -/
theorem mul_pow_add_ne_mul_pow {n p length : ℕ} (hp : 0 < p) (hlt : p < 10 ^ length) (q : ℕ) :
    n * 10 ^ length + p ≠ n * 10 ^ q := by
  intro h
  rcases le_total length q with hle | hle
  · have hdvd : 10 ^ length ∣ n * 10 ^ length + p := by
      rw [h]
      exact (pow_dvd_pow 10 hle).mul_left n
    have hrest : 10 ^ length ∣ p := (Nat.dvd_add_right (Nat.dvd_mul_left _ n)).1 hdvd
    exact (Nat.le_of_dvd hp hrest).not_gt hlt
  · have hle' : n * 10 ^ q ≤ n * 10 ^ length :=
      Nat.mul_le_mul_left n (Nat.pow_le_pow_right (by decide) hle)
    omega

namespace UnsignedNumeral

theorem worth_append_ne {m : UnsignedNumeral} {digits : List Char}
    (h : ∀ c ∈ digits, c.isDigit = true) (hpos : 0 < Nat.ofDigitChars 10 digits 0) (q : ℕ) :
    (m.append digits h).worth ≠ m.worth * 10 ^ q := by
  have hlt := Text.ofDigitChars_lt h
  set n := Nat.ofDigitChars 10 (m.whole ++ m.fraction) 0 with hn
  set p := Nat.ofDigitChars 10 digits 0 with hp
  have hvalue : Nat.ofDigitChars 10 (m.whole ++ m.fraction ++ digits) 0 =
      n * 10 ^ digits.length + p := by
    rw [Nat.ofDigitChars_append, Nat.ofDigitChars_eq_ofDigitChars_zero, ← hn, ← hp, mul_comm]
  rw [worth, digits_append, hvalue, worth, ← hn]
  intro heq
  rcases length_fraction_append h with hlength | hlength
  · rw [hlength, div_mul_eq_mul_div, div_left_inj' (by positivity)] at heq
    exact mul_pow_add_ne_mul_pow hpos hlt q (by exact_mod_cast heq)
  · rw [hlength, pow_add, ← div_div, div_eq_iff (by positivity), div_mul_eq_mul_div,
      div_mul_eq_mul_div, div_left_inj' (by positivity), mul_assoc, ← pow_add] at heq
    exact mul_pow_add_ne_mul_pow hpos hlt (q + digits.length) (by exact_mod_cast heq)

end UnsignedNumeral

namespace Numeral

variable {digits : List Char} (h : ∀ c ∈ digits, c.isDigit = true)

/-- The numeral with digits after its last one. -/
def append (n : Numeral) (digits : List Char) (h : ∀ c ∈ digits, c.isDigit = true) : Numeral :=
  { n with magnitude := n.magnitude.append digits h }

theorem chars_append (n : Numeral) : (n.append digits h).chars = n.chars ++ digits := by
  rw [chars, chars, append, UnsignedNumeral.chars_append, List.append_assoc]

/-- More digits never count as a power of ten. -/
theorem worth_append_ne (n : Numeral) (hpos : 0 < Nat.ofDigitChars 10 digits 0) (q : ℕ) :
    (n.append digits h).worth ≠ n.worth * 10 ^ q := by
  have hmagnitude := UnsignedNumeral.worth_append_ne (m := n.magnitude) h hpos q
  rw [worth, worth, append]
  split
  · exact fun heq ↦ hmagnitude (neg_injective (by rw [heq, neg_mul]))
  · exact hmagnitude

end Numeral

/-! ## Reading forgivingly -/

namespace Decimal

/-- A minus sign inside a number spoils it. -/
theorem ofUnsigned?_eq_none {cs : List Char} (h : '-' ∈ cs) : ofUnsigned? cs = none := by
  have hminus : Text.isDigit '-' = false := by decide +kernel
  have hdrop : '-' ∈ cs.dropWhile Text.isDigit := by
    rw [← List.takeWhile_append_dropWhile (p := Text.isDigit) (l := cs), List.mem_append] at h
    refine h.resolve_left fun hmem ↦ ?_
    rw [List.mem_takeWhile_imp hmem] at hminus
    exact Bool.noConfusion hminus
  unfold ofUnsigned?
  simp only
  split
  · next hnil => simp [hnil] at hdrop
  · next fraction hpoint =>
    rw [hpoint, List.mem_cons] at hdrop
    have hmem : '-' ∈ fraction := hdrop.resolve_left (by decide)
    rw [if_neg]
    simp only [Bool.and_eq_true, List.all_eq_true, not_and]
    exact fun hall ↦ absurd (hall _ hmem) (by simp [hminus])
  · rfl

theorem ofChars?_sign (negative : Bool) (m : UnsignedNumeral) (rest : List Char) :
    ofChars? ((if negative then ['-'] else []) ++ (m.chars ++ rest)) =
      (ofUnsigned? (m.chars ++ rest)).map fun d ↦ if negative then d.neg else d := by
  cases negative with
  | true => rfl
  | false =>
    obtain ⟨c, cs, hchars, hc⟩ := m.exists_chars_eq_cons
    have hne : c ≠ '-' := by
      rintro rfl
      revert hc
      decide
    simp only [Bool.false_eq_true, if_false, List.nil_append, hchars, List.cons_append,
      Option.map_id']
    unfold ofChars?
    split
    · next heq => exact absurd (List.cons.inj heq).1 hne
    · rfl

variable {n : Numeral} {mark : Char} {power : ℤ}

theorem filter_exponent (hmark : isNumeric mark = false) (width : ℕ) :
    (n.chars ++ exponentChars mark width power).filter isNumeric =
      n.chars ++ ((if power < 0 then ['-'] else []) ++ fractionDigits width power.natAbs) := by
  have hdigits : (fractionDigits width power.natAbs).filter isNumeric =
      fractionDigits width power.natAbs :=
    List.filter_eq_self.2 fun c hc ↦ by
      simp [isNumeric, Text.isDigit_of_isDigit (fractionDigits_digits hc)]
  have hminus : isNumeric '-' = true := by decide +kernel
  have hplus : isNumeric '+' = false := by decide +kernel
  rw [List.filter_append, List.filter_eq_self.2 fun c hc ↦ isNumeric_numeral hc, exponentChars,
    List.filter_cons_of_neg (by simp [hmark])]
  split
  · rw [List.filter_cons_of_pos hminus, hdigits, List.singleton_append]
  · rw [List.filter_cons_of_neg (by simp [hplus]), hdigits, List.nil_append]

/-- The sign of a negative exponent leaves nothing of the number. -/
theorem ofText_negative_exponent (hmark : isNumeric mark = false) (width : ℕ) (hpower : power < 0) :
    ofText (String.ofList (n.chars ++ exponentChars mark width power)) = 0 := by
  rw [ofText, String.toList_ofList, filter_exponent hmark, if_pos hpower, Numeral.chars,
    List.append_assoc, ofChars?_sign, ofUnsigned?_eq_none (by simp)]
  rfl

/-- The digits of an exponent without a minus sign go on where the numeral ends. -/
theorem ofText_positive_exponent (hmark : isNumeric mark = false) (width : ℕ)
    (hpower : ¬power < 0) :
    ofText (String.ofList (n.chars ++ exponentChars mark width power)) =
      ofNumeral (n.append (fractionDigits width power.natAbs)
        fun _ hc ↦ fractionDigits_digits hc) := by
  have hkept : (n.chars ++ exponentChars mark width power).filter isNumeric =
      (n.append (fractionDigits width power.natAbs) fun _ hc ↦ fractionDigits_digits hc).chars := by
    rw [filter_exponent hmark, if_neg hpower, List.nil_append, Numeral.chars_append]
  rw [ofText, String.toList_ofList, hkept, ofChars?_numeral, Option.getD_some]

/-- An exponent is never read as the power of ten that it is. -/
theorem toRat_ofText_exponent_iff (hmark : isNumeric mark = false) (width : ℕ) (hpower : power ≠ 0) :
    (ofText (String.ofList (n.chars ++ exponentChars mark width power))).toRat =
      n.worth * 10 ^ power ↔ power < 0 ∧ n.worth = 0 := by
  by_cases hneg : power < 0
  · rw [ofText_negative_exponent hmark width hneg, toRat_zero, eq_comm, mul_eq_zero]
    simp [hneg, zpow_ne_zero]
  · obtain ⟨q, rfl⟩ := Int.eq_ofNat_of_zero_le (not_lt.1 hneg)
    have hpos : 0 < Nat.ofDigitChars 10 (fractionDigits width (q : ℤ).natAbs) 0 := by
      rw [ofDigitChars_fractionDigits]
      omega
    rw [ofText_positive_exponent hmark width hneg, toRat_ofNumeral, zpow_natCast]
    simp only [hneg, false_and, iff_false]
    exact n.worth_append_ne _ hpos q

end Decimal

/-! ## Numerals times a power -/

namespace Numeral

/-- A numeral and the power of ten that it is taken times, which is left out when it is one. -/
def scaledChars (n : Numeral) (mark : Char) (width : ℕ) (power : ℤ) : List Char :=
  n.chars ++ if power = 0 then [] else exponentChars mark width power

variable {n : Numeral} {mark : Char}

theorem mark_mem_scaledChars_iff (hmark : Decimal.isNumeric mark = false) (width : ℕ) (power : ℤ) :
    mark ∈ n.scaledChars mark width power ↔ power ≠ 0 := by
  have hnot : mark ∉ n.chars := fun hmem ↦ by simp [Decimal.isNumeric_numeral hmem] at hmark
  rw [scaledChars, List.mem_append]
  split
  · next hzero => simp [hnot, hzero]
  · next hne => simp [hne, exponentChars]

/-- Read forgivingly, a numeral times a power is the number that it stands for only if there is no
power, or if nothing but zero was lost. -/
theorem toRat_ofText_scaledChars_iff (hmark : Decimal.isNumeric mark = false) (width : ℕ)
    (power : ℤ) :
    (Decimal.ofText (String.ofList (n.scaledChars mark width power))).toRat =
      n.worth * 10 ^ power ↔ power = 0 ∨ (power < 0 ∧ n.worth = 0) := by
  rw [scaledChars]
  split
  · next hzero =>
    have hread : Decimal.ofText (String.ofList n.chars) = Decimal.ofNumeral n :=
      Decimal.ofText_numeral n
    simp [hzero, hread, Decimal.toRat_ofNumeral]
  · next hne =>
    rw [Decimal.toRat_ofText_exponent_iff hmark width hne]
    simp [hne]

end Numeral

end PayFormula

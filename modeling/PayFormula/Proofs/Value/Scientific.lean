import Mathlib
import PayFormula.Proofs.Decimal.Exponent
import PayFormula.Proofs.Text.Case
import PayFormula.Value.Scientific

/-!
# Numerals with an Exponent

A number in scientific form is worth its signed digits times a power of ten.  A numeral may be
written with such a power after it, as a mark, a sign and the digits of the exponent.  Read in
scientific form, the text is worth the numeral times the power.  Read forgivingly, the mark and a
plus sign are passed over: after a minus sign nothing is left of the number, and otherwise the
digits of the exponent go on where the numeral ends.  That is never the same number, unless it is
zero.
-/

namespace PayFormula

namespace Scientific

/-! ## Worth -/

/-- What the number is worth.  Infinities and what is no number are worth nothing. -/
def worth : Scientific → ℚ
  | finite negative digits power => (if negative then -(digits : ℚ) else digits) * 10 ^ power
  | _ => 0

theorem toRat_toDecimal (x : Scientific) : x.toDecimal.toRat = x.worth := by
  cases x with
  | infinite | nan => exact Decimal.toRat_zero
  | finite negative digits power =>
    have hscale : (10 : ℚ) ^ power.toNat / 10 ^ (-power).toNat = 10 ^ power := by
      obtain ⟨n, rfl | rfl⟩ := power.eq_nat_or_neg
      · simp
      · simp
    cases digits with
    | zero => simp [toDecimal, worth]
    | succ n =>
      rw [worth, ← hscale, mul_div_assoc', toDecimal, Decimal.toRat_eq]
      · cases negative <;> push_cast [cast_tenTo] <;> rfl
      · exact Nat.succ_ne_zero n

/-- A numeral times a power of ten. -/
def ofNumeral (n : Numeral) (power : ℤ) : Scientific :=
  finite n.negative n.value (power - n.magnitude.fraction.length)

theorem worth_ofNumeral (n : Numeral) (power : ℤ) :
    (ofNumeral n power).worth = n.worth * 10 ^ power := by
  have hten : (10 : ℚ) ≠ 0 := by norm_num
  rw [ofNumeral, worth, zpow_sub₀ hten, zpow_natCast, Numeral.worth, UnsignedNumeral.worth,
    Numeral.value]
  split <;> ring

end Scientific

namespace Scientific

/-! ## Reading in scientific form -/

/-- The characters of numerals with exponents. -/
def isSpelling (c : Char) : Bool :=
  c.isDigit || c == '.' || c == '-' || c == '+' || c == 'e'

theorem isSpelling_of_isDigit {c : Char} (h : c.isDigit = true) : isSpelling c = true := by
  simp [isSpelling, h]

/-- Nothing is done to these characters before they are read. -/
theorem plain_of_isSpelling {c : Char} (h : isSpelling c = true) :
    Text.lowerChar c = [c] ∧ c ≠ 'Σ' ∧ Text.isBlank c = false ∧ (c != '_') = true := by
  have hascii : c.toNat < 128 := by
    simp only [isSpelling, Bool.or_eq_true, beq_iff_eq] at h
    rcases h with (((hdigit | rfl) | rfl) | rfl) | rfl
    · have hband : 48 ≤ c.toNat ∧ c.toNat ≤ 57 := Char.isDigit_iff_toNat.1 hdigit
      omega
    all_goals decide
  rw [Text.lowerChar_of_ascii hascii]
  exact Text.forall_ascii
    (p := fun c ↦ isSpelling c = true → Text.mapChar [] [Text.asciiLowerShift] c = [c] ∧ c ≠ 'Σ' ∧
      Text.isBlank c = false ∧ (c != '_') = true)
    (by decide +kernel) hascii h

theorem trim_ofList_eq_self {cs : List Char} (h : ∀ c ∈ cs, Text.isBlank c = false) :
    Text.trim (String.ofList cs) = String.ofList cs := by
  have hstart : ∀ {ds : List Char}, (∀ c ∈ ds, Text.isBlank c = false) →
      Text.trimStart ds = ds := by
    intro ds hds
    rw [Text.trimStart, List.dropWhile_eq_self_iff]
    intro hlength
    simp [hds _ (List.getElem_mem hlength)]
  rw [Text.trim, String.toList_ofList, hstart h, hstart (by simpa using h), List.reverse_reverse]

/-- A text that begins like a numeral is read as a finite number. -/
theorem ofText?_eq {negative : Bool} {body : List Char}
    (hspelling : ∀ c ∈ body, isSpelling c = true)
    (hhead : ∃ c cs, body = c :: cs ∧ (c.isDigit = true ∨ c = '.')) :
    ofText? (String.ofList ((if negative then ['-'] else []) ++ body)) =
      ofFiniteChars? negative body := by
  set cs := (if negative then ['-'] else []) ++ body with hcs
  have hplain : ∀ c ∈ cs, isSpelling c = true := by
    rw [hcs, List.forall_mem_append]
    refine ⟨?_, hspelling⟩
    cases negative <;> simp [isSpelling]
  have hlower : Text.lower (String.ofList cs) = String.ofList cs := by
    apply Text.lower_ofList_eq_self
    · exact fun c hc ↦ (plain_of_isSpelling (hplain c hc)).1
    · exact fun hmem ↦ (plain_of_isSpelling (hplain _ hmem)).2.1 rfl
  have htrim : Text.trim (String.ofList cs) = String.ofList cs :=
    trim_ofList_eq_self fun c hc ↦ (plain_of_isSpelling (hplain c hc)).2.2.1
  have hfilter : cs.filter (· != '_') = cs :=
    List.filter_eq_self.2 fun c hc ↦ (plain_of_isSpelling (hplain c hc)).2.2.2
  obtain ⟨c, rest, rfl, hc⟩ := hhead
  have hne : c ≠ '-' ∧ c ≠ '+' ∧ c ≠ 'n' ∧ c ≠ 's' ∧ c ≠ 'i' := by
    refine ⟨?_, ?_, ?_, ?_, ?_⟩ <;> rintro rfl <;> revert hc <;> decide
  have hsign : splitSign cs = (negative, c :: rest) := by
    rw [hcs]
    cases negative with
    | true => rfl
    | false =>
      simp only [Bool.false_eq_true, if_false, List.nil_append]
      unfold splitSign
      split <;> simp_all
  rw [ofText?, htrim, hlower, String.toList_ofList, hfilter, hsign]
  simp only
  split
  · simp_all
  · simp_all
  · rw [if_neg]
    simp [hne]

/-! The reader cuts a text at the mark of the exponent, and no numeral has one. -/

theorem exponent?_exponentChars (width : ℕ) (power : ℤ) :
    exponent? (exponentChars 'e' width power) = some power := by
  have hdigits : (Decimal.fractionDigits width power.natAbs).all Text.isDigit = true :=
    List.all_eq_true.2 fun c hc ↦ Text.isDigit_of_isDigit (Decimal.fractionDigits_digits hc)
  have hne : (Decimal.fractionDigits width power.natAbs).isEmpty = false := by
    simpa using Decimal.fractionDigits_ne_nil width power.natAbs
  have hvalue : Decimal.digitsValue (Decimal.fractionDigits width power.natAbs) = power.natAbs := by
    rw [Decimal.digitsValue_eq fun c hc ↦ Decimal.fractionDigits_digits hc,
      Decimal.ofDigitChars_fractionDigits]
  rw [exponentChars]
  split
  · next hneg => simp [exponent?, splitSign, hdigits, hne, hvalue, abs_of_neg hneg]
  · next hneg => simp [exponent?, splitSign, hdigits, hne, hvalue, abs_of_nonneg (not_lt.1 hneg)]

theorem ofFiniteChars?_append (negative : Bool) (m : UnsignedNumeral) {rest : List Char} {power : ℤ}
    (hmark : rest.takeWhile (· != 'e') = []) (hpower : exponent? rest = some power) :
    ofFiniteChars? negative (m.chars ++ rest) =
      some (ofNumeral ⟨negative, m⟩ power) := by
  have hplain : ∀ c ∈ m.chars, (c != 'e') = true := by
    intro c hc
    rcases Decimal.mem_chars hc with hdigit | rfl
    · rw [bne_iff_ne]
      rintro rfl
      exact absurd hdigit (by decide)
    · decide
  have hdrop : rest.dropWhile (· != 'e') = rest := by
    simpa [hmark] using List.takeWhile_append_dropWhile (p := (· != 'e')) (l := rest)
  rw [ofFiniteChars?, List.takeWhile_append_of_pos hplain, List.dropWhile_append_of_pos hplain,
    hmark, hdrop, List.append_nil, Decimal.ofUnsigned?_chars, hpower]
  rfl

/-- A numeral times a power of ten is read as just that. -/
theorem ofText?_scaledChars (n : Numeral) (width : ℕ) (power : ℤ) :
    ofText? (String.ofList (n.scaledChars 'e' width power)) = some (ofNumeral n power) := by
  set rest := if power = 0 then [] else exponentChars 'e' width power with hrest
  have hpower : exponent? rest = some power := by
    rw [hrest]
    split
    · next hzero => rw [hzero]; rfl
    · exact exponent?_exponentChars width power
  have hmark : rest.takeWhile (· != 'e') = [] := by
    rw [hrest]
    split
    · rfl
    · rfl
  have hspelling : ∀ c ∈ n.magnitude.chars ++ rest, isSpelling c = true := by
    rw [List.forall_mem_append]
    constructor
    · intro c hc
      rcases Decimal.mem_chars hc with hdigit | rfl
      · exact isSpelling_of_isDigit hdigit
      · rfl
    · rw [hrest]
      split
      · simp
      · rw [exponentChars, List.forall_mem_cons, List.forall_mem_cons]
        refine ⟨rfl, ?_, fun c hc ↦ isSpelling_of_isDigit (Decimal.fractionDigits_digits hc)⟩
        split <;> rfl
  have hhead : ∃ c cs, n.magnitude.chars ++ rest = c :: cs ∧ (c.isDigit = true ∨ c = '.') := by
    obtain ⟨c, cs, hchars, hc⟩ := n.magnitude.exists_chars_eq_cons
    exact ⟨c, cs ++ rest, by rw [hchars, List.cons_append], hc⟩
  rw [Numeral.scaledChars, ← hrest, Numeral.chars, List.append_assoc, ofText?_eq hspelling hhead]
  exact ofFiniteChars?_append n.negative n.magnitude hmark hpower

end Scientific

end PayFormula

import Mathlib
import PayFormula.Decimal.Text
import PayFormula.Proofs.Decimal.Worth

/-!
# Numerals

A numeral is a number in writing: an optional minus sign, digits with at most one point among them,
and at least one digit.  What it is worth is defined on its digits alone, so it can stand against
both directions of decimal text.  Every text that the plain and the fixed form write is the text of
a numeral of the same worth, and reading the text of a numeral gives a decimal number of the same
worth.  Hence a number that is written and read back is still the same number.
-/

namespace PayFormula

/-- Digits with at most one point among them. -/
structure UnsignedNumeral where
  whole : List Char
  fraction? : Option (List Char) := none
  whole_digits : ∀ c ∈ whole, c.isDigit = true
  fraction_digits : ∀ c ∈ fraction?.getD [], c.isDigit = true
  some_digit : whole ++ fraction?.getD [] ≠ []

structure Numeral where
  negative : Bool
  magnitude : UnsignedNumeral

namespace UnsignedNumeral

/-- The digits after the point. -/
def fraction (n : UnsignedNumeral) : List Char := n.fraction?.getD []

def chars (n : UnsignedNumeral) : List Char :=
  n.whole ++ (n.fraction?.map ('.' :: ·)).getD []

def text (n : UnsignedNumeral) : String := String.ofList n.chars

def worth (n : UnsignedNumeral) : ℚ :=
  Nat.ofDigitChars 10 (n.whole ++ n.fraction) 0 / 10 ^ n.fraction.length

end UnsignedNumeral

namespace Numeral

def chars (n : Numeral) : List Char := (if n.negative then ['-'] else []) ++ n.magnitude.chars

def text (n : Numeral) : String := String.ofList n.chars

def worth (n : Numeral) : ℚ := if n.negative then -n.magnitude.worth else n.magnitude.worth

/-- The numeral is written with exactly so many fraction digits, and without a point if there are
none. -/
def HasPlaces (n : Numeral) (places : ℕ) : Prop :=
  n.magnitude.fraction?.map List.length = if places = 0 then none else some places

end Numeral

/-! ## Digits -/

namespace Text

theorem digitValue?_of_isDigit {c : Char} (h : c.isDigit = true) :
    digitValue? c = some (c.toNat - '0'.toNat) := by
  have hband : 48 ≤ c.toNat ∧ c.toNat ≤ 57 := by
    simpa [Char.isDigit, UInt32.le_iff_toNat_le] using h
  have hfirst : (48 ≤ c.toNat && c.toNat < 48 + 10) = true := by
    simp; omega
  simp only [digitValue?, zeros, List.find?_cons, hfirst]
  rfl

theorem isDigit_point : isDigit '.' = false := by decide +kernel

theorem isDigit_of_isDigit {c : Char} (h : c.isDigit = true) : isDigit c = true := by
  rw [isDigit, digitValue?_of_isDigit h, Option.isSome_some]

end Text

namespace Decimal

theorem digitsValue_eq {cs : List Char} (h : ∀ c ∈ cs, c.isDigit = true) :
    digitsValue cs = Nat.ofDigitChars 10 cs 0 := by
  suffices hfold : ∀ n, cs.foldl (fun n c ↦ 10 * n + (Text.digitValue? c).getD 0) n =
      Nat.ofDigitChars 10 cs n from hfold 0
  induction cs with
  | nil => intro n; simp
  | cons c cs ih =>
    intro n
    have hc := Text.digitValue?_of_isDigit (h c List.mem_cons_self)
    rw [List.foldl_cons, hc, Option.getD_some, Nat.ofDigitChars_cons]
    exact ih (fun c' hc' ↦ h c' (List.mem_cons_of_mem c hc')) _

/-! ## Reading -/

theorem ofUnsigned?_whole {digits : List Char} (hne : digits ≠ [])
    (h : ∀ c ∈ digits, Text.isDigit c = true) :
    ofUnsigned? digits = some ⟨digitsValue digits, 0⟩ := by
  simp [ofUnsigned?, List.takeWhile_eq_self_iff.2 h, List.dropWhile_eq_nil_iff.2 h, hne]

theorem ofUnsigned?_pointed {whole fraction : List Char} (hne : whole ++ fraction ≠ [])
    (hwhole : ∀ c ∈ whole, Text.isDigit c = true)
    (hfraction : ∀ c ∈ fraction, Text.isDigit c = true) :
    ofUnsigned? (whole ++ '.' :: fraction) =
      some ⟨digitsValue (whole ++ fraction), fraction.length⟩ := by
  have htake : (whole ++ '.' :: fraction).takeWhile Text.isDigit = whole := by
    rw [List.takeWhile_append_of_pos hwhole,
      List.takeWhile_cons_of_neg (by simp [Text.isDigit_point]), List.append_nil]
  have hdrop : (whole ++ '.' :: fraction).dropWhile Text.isDigit = '.' :: fraction := by
    rw [List.dropWhile_append_of_pos hwhole,
      List.dropWhile_cons_of_neg (by simp [Text.isDigit_point])]
  have hfilled : (whole.isEmpty && fraction.isEmpty) = false := by
    simpa [List.isEmpty_iff] using hne
  simp [ofUnsigned?, htake, hdrop, List.all_eq_true.2 hfraction, hfilled]

theorem ofUnsigned?_chars (n : UnsignedNumeral) :
    ofUnsigned? n.chars = some ⟨Nat.ofDigitChars 10 (n.whole ++ n.fraction) 0, n.fraction.length⟩ := by
  have hwhole : ∀ c ∈ n.whole, Text.isDigit c = true := fun c hc ↦
    Text.isDigit_of_isDigit (n.whole_digits c hc)
  have hfraction : ∀ c ∈ n.fraction, Text.isDigit c = true := fun c hc ↦
    Text.isDigit_of_isDigit (n.fraction_digits c hc)
  have hvalue : digitsValue (n.whole ++ n.fraction) =
      Nat.ofDigitChars 10 (n.whole ++ n.fraction) 0 :=
    digitsValue_eq fun c hc ↦ (List.mem_append.1 hc).elim (n.whole_digits c) (n.fraction_digits c)
  rw [← hvalue]
  rcases hf : n.fraction? with _ | digits
  · have hchars : n.chars = n.whole := by simp [UnsignedNumeral.chars, hf]
    have hnone : n.fraction = [] := by simp [UnsignedNumeral.fraction, hf]
    rw [hchars, hnone, List.append_nil]
    exact ofUnsigned?_whole (by simpa [hf] using n.some_digit) hwhole
  · have hchars : n.chars = n.whole ++ '.' :: n.fraction := by
      simp [UnsignedNumeral.chars, UnsignedNumeral.fraction, hf]
    rw [hchars]
    exact ofUnsigned?_pointed n.some_digit hwhole hfraction

theorem mem_chars {n : UnsignedNumeral} {c : Char} (h : c ∈ n.chars) :
    c.isDigit = true ∨ c = '.' := by
  rw [UnsignedNumeral.chars, List.mem_append] at h
  rcases hf : n.fraction? with _ | digits
  · exact .inl (n.whole_digits c (by simpa [hf] using h))
  · rw [hf, Option.map_some, Option.getD_some, List.mem_cons] at h
    rcases h with h | h | h
    · exact .inl (n.whole_digits c h)
    · exact .inr h
    · exact .inl (n.fraction_digits c (by rwa [hf]))

theorem ofChars?_unsigned (n : UnsignedNumeral) : ofChars? n.chars = ofUnsigned? n.chars := by
  unfold ofChars?
  split
  · next cs h =>
    have hminus : ('-' : Char) ∈ n.chars := by simp [h]
    rcases mem_chars hminus with h | h
    · exact absurd h (by decide)
    · exact absurd h (by decide)
  · rfl

/-- A numeral as the decimal number that keeps its places. -/
def ofNumeral (n : Numeral) : Decimal :=
  let magnitude : ℕ := Nat.ofDigitChars 10 (n.magnitude.whole ++ n.magnitude.fraction) 0
  ⟨if n.negative then -(magnitude : ℤ) else magnitude, n.magnitude.fraction.length⟩

theorem toRat_ofNumeral (n : Numeral) : (ofNumeral n).toRat = n.worth := by
  rw [toRat_eq, ofNumeral, Numeral.worth, UnsignedNumeral.worth]
  split
  · rw [Int.cast_neg, Int.cast_natCast, neg_div]
  · rw [Int.cast_natCast]

theorem ofChars?_numeral (n : Numeral) : ofChars? n.chars = some (ofNumeral n) := by
  rcases n with ⟨_ | _, magnitude⟩
  · simp only [Numeral.chars, Bool.false_eq_true, if_false, List.nil_append, ofChars?_unsigned,
      ofUnsigned?_chars, ofNumeral]
  · simp only [Numeral.chars, if_true, List.cons_append, List.nil_append, ofChars?,
      ofUnsigned?_chars, ofNumeral, Option.map_some, neg]

theorem isNumeric_numeral {n : Numeral} {c : Char} (h : c ∈ n.chars) : isNumeric c = true := by
  rw [Numeral.chars, List.mem_append] at h
  rcases h with h | h
  · rw [show c = '-' by split at h <;> simp_all]
    decide +kernel
  · rcases mem_chars h with h | rfl
    · simp [isNumeric, Text.isDigit_of_isDigit h]
    · decide +kernel

/-- A numeral is read as it is written. -/
@[simp]
theorem ofText_numeral (n : Numeral) : ofText n.text = ofNumeral n := by
  have hkept : n.chars.filter isNumeric = n.chars :=
    List.filter_eq_self.2 fun c hc ↦ isNumeric_numeral hc
  rw [ofText, Numeral.text, String.toList_ofList, hkept, ofChars?_numeral, Option.getD_some]

/-- The text of a numeral settles what it is worth. -/
theorem worth_eq_of_text_eq {m n : Numeral} (h : m.text = n.text) : m.worth = n.worth := by
  calc
    m.worth = (ofText m.text).toRat := by rw [ofText_numeral, toRat_ofNumeral]
    _ = n.worth := by rw [h, ofText_numeral, toRat_ofNumeral]

/-! ## Writing -/

theorem fractionDigits_length {places n : ℕ} (h : n < tenTo places) (hplaces : places ≠ 0) :
    (fractionDigits places n).length = places := by
  have hdigits : (Nat.toDigits 10 n).length ≤ places :=
    (Nat.length_toDigits_le_iff (by decide) (Nat.pos_of_ne_zero hplaces)).2 h
  rw [fractionDigits, List.length_leftpad, Nat.max_eq_left hdigits]

theorem fractionDigits_digits {places n : ℕ} {c : Char} (h : c ∈ fractionDigits places n) :
    c.isDigit = true := by
  rw [fractionDigits, List.leftpad, List.mem_append, List.mem_replicate] at h
  rcases h with ⟨-, rfl⟩ | h
  · decide
  · exact Nat.isDigit_of_mem_toDigits (by decide) (by decide) h

theorem ofDigitChars_fractionDigits (places n : ℕ) :
    Nat.ofDigitChars 10 (fractionDigits places n) 0 = n := by
  rw [fractionDigits, List.leftpad, Nat.ofDigitChars_append, Nat.ofDigitChars_replicate_zero,
    Nat.mul_zero, Nat.ofDigitChars_ten_toDigits]

/-- The numeral that the fixed form writes. -/
def numeral (d : Decimal) : Numeral where
  negative := d.isNegative
  magnitude := {
    whole := Nat.toDigits 10 (d.coefficient.natAbs / tenTo d.places)
    fraction? :=
      if d.places = 0 then none
      else some (fractionDigits d.places (d.coefficient.natAbs % tenTo d.places))
    whole_digits := fun _ hc ↦ Nat.isDigit_of_mem_toDigits (by decide) (by decide) hc
    fraction_digits := fun c hc ↦ by
      split at hc
      · simp at hc
      · exact fractionDigits_digits hc
    some_digit := by simp [Nat.toDigits_ne_nil] }

theorem text_numeral (d : Decimal) : d.numeral.text = d.fixed := by
  rw [Numeral.text, fixed, Numeral.chars, fixedChars, UnsignedNumeral.chars, unsignedChars, numeral]
  split <;> rfl

theorem hasPlaces_numeral (d : Decimal) : d.numeral.HasPlaces d.places := by
  have hrest : d.coefficient.natAbs % tenTo d.places < tenTo d.places :=
    Nat.mod_lt _ (tenTo_pos _)
  rw [Numeral.HasPlaces, numeral]
  split
  · rfl
  · next h => rw [Option.map_some, fractionDigits_length hrest h]

theorem length_fraction_numeral (d : Decimal) :
    d.numeral.magnitude.fraction.length = d.places := by
  have hplaces := hasPlaces_numeral d
  rw [Numeral.HasPlaces] at hplaces
  rw [UnsignedNumeral.fraction]
  rcases hf : d.numeral.magnitude.fraction? with _ | digits
  · rw [hf] at hplaces
    split at hplaces
    · next h => simp [h]
    · simp at hplaces
  · rw [hf] at hplaces
    split at hplaces
    · simp at hplaces
    · simpa using hplaces

theorem ofDigitChars_numeral (d : Decimal) :
    Nat.ofDigitChars 10 (d.numeral.magnitude.whole ++ d.numeral.magnitude.fraction) 0 =
      d.coefficient.natAbs := by
  have hfraction : Nat.ofDigitChars 10 d.numeral.magnitude.fraction 0 =
      d.coefficient.natAbs % tenTo d.places := by
    rw [UnsignedNumeral.fraction, numeral]
    split
    · next h => simp [h, tenTo_eq, Nat.mod_one]
    · rw [Option.getD_some, ofDigitChars_fractionDigits]
  have hwhole : Nat.ofDigitChars 10 d.numeral.magnitude.whole 0 =
      d.coefficient.natAbs / tenTo d.places := Nat.ofDigitChars_ten_toDigits
  calc
    _ = 10 ^ d.numeral.magnitude.fraction.length *
          Nat.ofDigitChars 10 d.numeral.magnitude.whole 0 +
        Nat.ofDigitChars 10 d.numeral.magnitude.fraction 0 := by
      rw [Nat.ofDigitChars_append, Nat.ofDigitChars_eq_ofDigitChars_zero]
    _ = tenTo d.places * (d.coefficient.natAbs / tenTo d.places) +
        d.coefficient.natAbs % tenTo d.places := by
      rw [hwhole, hfraction, length_fraction_numeral, ← tenTo_eq]
    _ = d.coefficient.natAbs := Nat.div_add_mod _ _

/-- The fixed form loses nothing of a number, its places included. -/
@[simp]
theorem ofNumeral_numeral (d : Decimal) : ofNumeral d.numeral = d := by
  have hcoefficient : (if d.isNegative then -(d.coefficient.natAbs : ℤ) else d.coefficient.natAbs) =
      d.coefficient := by
    rw [isNegative]
    split
    · next h => rw [Int.ofNat_natAbs_of_nonpos (of_decide_eq_true h).le, neg_neg]
    · next h => rw [Int.natAbs_of_nonneg (not_lt.1 fun hlt ↦ h (decide_eq_true hlt))]
  rw [ofNumeral, ofDigitChars_numeral, length_fraction_numeral]
  exact congrArg (Decimal.mk · d.places) hcoefficient

@[simp]
theorem worth_numeral (d : Decimal) : d.numeral.worth = d.toRat := by
  rw [← toRat_ofNumeral, ofNumeral_numeral]

/-- A number that is written in its fixed form and read back is the same datum. -/
theorem ofText_fixed (d : Decimal) : ofText d.fixed = d := by
  rw [← text_numeral, ofText_numeral, ofNumeral_numeral]

/-- The plain form writes a numeral of the same worth. -/
theorem exists_numeral_plain (d : Decimal) : ∃ n : Numeral, n.text = d.plain ∧ n.worth = d.toRat := by
  rw [plain]
  split
  · next h =>
    refine ⟨(0 : Decimal).numeral, by rw [text_numeral]; decide +kernel, ?_⟩
    rw [worth_numeral, toRat_zero, (isZero_iff d).1 h]
  · exact ⟨d.numeral, text_numeral d, worth_numeral d⟩

end Decimal

end PayFormula

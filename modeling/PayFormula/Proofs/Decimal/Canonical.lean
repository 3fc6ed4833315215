import Mathlib
import PayFormula.Proofs.Decimal.Numeral

/-!
# Canonical Numerals

A numeral is canonical when nothing in it could be left out: its whole part has no zeros in front,
its fraction none at the end, a point is followed by a fraction, and zero has no minus sign.  A
decimal number is trimmed when its places are all needed.  The two notions are the same seen from
both sides, since the numerals of trimmed numbers are exactly the canonical ones, and each rational
has at most one trimmed number.  Hence two canonical numerals that are worth the same are written
the same.
-/

namespace PayFormula

/-! ## Digits and their values -/

namespace Text

theorem exists_digitChar {c : Char} (h : c.isDigit = true) : ∃ k < 10, c = k.digitChar := by
  have hband : 48 ≤ c.toNat ∧ c.toNat ≤ 57 := Char.isDigit_iff_toNat.1 h
  have hk : c.toNat - 48 < 10 := by omega
  refine ⟨c.toNat - 48, hk, Char.toNat_inj.1 ?_⟩
  rw [Nat.toNat_digitChar_of_lt_ten hk]
  omega

theorem ofDigitChars_concat (cs : List Char) {k : ℕ} (hk : k < 10) :
    Nat.ofDigitChars 10 (cs ++ [k.digitChar]) 0 = 10 * Nat.ofDigitChars 10 cs 0 + k := by
  rw [Nat.ofDigitChars_append, Nat.ofDigitChars_cons_digitChar_of_lt_ten hk, Nat.ofDigitChars_nil]

theorem ofDigitChars_lt {cs : List Char} (h : ∀ c ∈ cs, c.isDigit = true) :
    Nat.ofDigitChars 10 cs 0 < 10 ^ cs.length := by
  induction cs using List.reverseRecOn with
  | nil => simp
  | append_singleton front c ih =>
    rw [List.forall_mem_append, List.forall_mem_singleton] at h
    obtain ⟨k, hk, rfl⟩ := exists_digitChar h.2
    have hfront := ih h.1
    rw [ofDigitChars_concat front hk, List.length_append, List.length_singleton, pow_succ]
    omega

/-- As many digits with the same value are the same digits. -/
theorem eq_of_ofDigitChars_eq {cs ds : List Char} (hcs : ∀ c ∈ cs, c.isDigit = true)
    (hds : ∀ d ∈ ds, d.isDigit = true) (hlength : cs.length = ds.length)
    (hvalue : Nat.ofDigitChars 10 cs 0 = Nat.ofDigitChars 10 ds 0) : cs = ds := by
  induction cs using List.reverseRecOn generalizing ds with
  | nil => exact (List.length_eq_zero_iff.1 hlength.symm).symm
  | append_singleton front c ih =>
    rcases ds.eq_nil_or_concat' with rfl | ⟨others, d, rfl⟩
    · simp at hlength
    · rw [List.forall_mem_append, List.forall_mem_singleton] at hcs hds
      obtain ⟨k, hk, rfl⟩ := exists_digitChar hcs.2
      obtain ⟨l, hl, rfl⟩ := exists_digitChar hds.2
      rw [ofDigitChars_concat front hk, ofDigitChars_concat others hl] at hvalue
      have hlast : k = l := by omega
      have hfront : front = others := ih hcs.1 hds.1 (by simpa using hlength) (by omega)
      rw [hfront, hlast]

/-- Digits after a number are its own last digits. -/
theorem toDigits_append {n : ℕ} {cs : List Char} (hn : 0 < n) (h : ∀ c ∈ cs, c.isDigit = true) :
    Nat.toDigits 10 n ++ cs = Nat.toDigits 10 (Nat.ofDigitChars 10 cs n) := by
  induction cs generalizing n with
  | nil => rw [List.append_nil, Nat.ofDigitChars_nil]
  | cons c cs ih =>
    rw [List.forall_mem_cons] at h
    obtain ⟨k, hk, rfl⟩ := exists_digitChar h.1
    calc
      Nat.toDigits 10 n ++ k.digitChar :: cs = (Nat.toDigits 10 n ++ Nat.toDigits 10 k) ++ cs := by
        rw [Nat.toDigits_of_lt_base hk, List.append_assoc, List.singleton_append]
      _ = Nat.toDigits 10 (10 * n + k) ++ cs := by
        rw [Nat.toDigits_append_toDigits (by decide) hn hk]
      _ = Nat.toDigits 10 (Nat.ofDigitChars 10 cs (10 * n + k)) := ih (by omega) h.2
      _ = _ := by rw [Nat.ofDigitChars_cons_digitChar_of_lt_ten hk]

/-- Digits without a zero in front are those of their value. -/
theorem toDigits_ofDigitChars {cs : List Char} (hne : cs ≠ []) (h : ∀ c ∈ cs, c.isDigit = true)
    (hhead : cs.head? = some '0' → cs = ['0']) :
    Nat.toDigits 10 (Nat.ofDigitChars 10 cs 0) = cs := by
  rcases cs with _ | ⟨c, cs⟩
  · exact absurd rfl hne
  · rw [List.forall_mem_cons] at h
    obtain ⟨k, hk, rfl⟩ := exists_digitChar h.1
    rw [Nat.ofDigitChars_cons_digitChar_of_lt_ten hk, Nat.mul_zero, Nat.zero_add]
    rcases k.eq_zero_or_pos with rfl | hpos
    · have hzero := hhead rfl
      rw [(List.cons.inj hzero).2, Nat.ofDigitChars_nil, Nat.toDigits_zero]
      rfl
    · rw [← toDigits_append hpos h.2, Nat.toDigits_of_lt_base hk, List.singleton_append]

theorem eq_zero_of_head?_toDigits {n : ℕ} (h : (Nat.toDigits 10 n).head? = some '0') : n = 0 := by
  induction n using Nat.strong_induction_on with
  | _ n ih =>
    rw [Nat.toDigits_eq_if (by decide)] at h
    split at h
    · exact Nat.digitChar_eq_zero.1 (Option.some.inj h)
    · rw [List.head?_append_of_ne_nil _ Nat.toDigits_ne_nil] at h
      have hfront := ih (n / 10) (by omega) h
      omega

end Text

/-! ## Trimmed numbers -/

namespace Decimal

/-- The last fraction digit, if there is one, is no zero. -/
def IsTrimmed (d : Decimal) : Prop := d.places ≠ 0 → ¬(10 : ℤ) ∣ d.coefficient

theorem isTrimmed_ofInt (n : ℤ) : (ofInt n).IsTrimmed := fun hplaces ↦ absurd rfl hplaces

theorem isTrimmed_trimmed (n : ℤ) (places : ℕ) : (trimmed n places).IsTrimmed := by
  induction places generalizing n with
  | zero => exact fun h ↦ absurd rfl h
  | succ places ih =>
    rw [trimmed]
    split
    · exact ih _
    · next h => exact fun _ hdvd ↦ h (Int.emod_eq_zero_of_dvd hdvd)

theorem isTrimmed_trim (d : Decimal) : d.trim.IsTrimmed := isTrimmed_trimmed _ _

/-- A trimmed number has no more places than any other of the same worth. -/
theorem IsTrimmed.places_le {a b : Decimal} (hb : b.IsTrimmed) (h : a.toRat = b.toRat) :
    b.places ≤ a.places := by
  by_contra! hlt
  have hunits : a.unitsAt b.places = b.coefficient := by
    have hcast : (a.unitsAt b.places : ℚ) = b.coefficient := by
      rw [unitsAt_eq a hlt.le, h, coefficient_eq]
    exact_mod_cast hcast
  apply hb (by omega)
  have hpower : (10 : ℤ) ∣ (tenTo (b.places - a.places) : ℕ) := by
    rw [tenTo_eq, Nat.cast_pow]
    exact dvd_pow_self _ (by omega)
  rw [← hunits, unitsAt]
  exact hpower.mul_left _

theorem IsTrimmed.eq_of_toRat_eq {a b : Decimal} (ha : a.IsTrimmed) (hb : b.IsTrimmed)
    (h : a.toRat = b.toRat) : a = b := by
  have hplaces : a.places = b.places := (ha.places_le h.symm).antisymm (hb.places_le h)
  have hcoefficient : a.coefficient = b.coefficient := by
    have hcast : (a.coefficient : ℚ) = b.coefficient := by
      rw [coefficient_eq, coefficient_eq, h, hplaces]
    exact_mod_cast hcast
  calc
    a = ⟨a.coefficient, a.places⟩ := rfl
    _ = ⟨b.coefficient, b.places⟩ := by rw [hcoefficient, hplaces]
    _ = b := rfl

/-- The only trimmed zero has no places that the plain form could drop. -/
theorem IsTrimmed.plain_eq_fixed {d : Decimal} (hd : d.IsTrimmed) : d.plain = d.fixed := by
  rw [plain]
  split
  · next h =>
    have hworth : d.toRat = (0 : Decimal).toRat := by rw [(isZero_iff d).1 h, toRat_zero]
    rw [hd.eq_of_toRat_eq (isTrimmed_ofInt 0) hworth]
    decide +kernel
  · rfl

end Decimal

/-! ## Canonical numerals -/

namespace Numeral

/-- Nothing in the numeral could be left out. -/
structure IsCanonical (n : Numeral) : Prop where
  whole_ne_nil : n.magnitude.whole ≠ []
  no_zeros_in_front : n.magnitude.whole.head? = some '0' → n.magnitude.whole = ['0']
  no_bare_point : n.magnitude.fraction? ≠ some []
  no_zeros_at_end : n.magnitude.fraction.getLast? ≠ some '0'
  no_negative_zero : n.negative = true → n.worth ≠ 0

/-- What all digits together spell, the point and the sign left out. -/
def value (n : Numeral) : ℕ := Nat.ofDigitChars 10 (n.magnitude.whole ++ n.magnitude.fraction) 0

theorem natAbs_coefficient (n : Numeral) : (Decimal.ofNumeral n).coefficient.natAbs = n.value := by
  rw [Decimal.ofNumeral, value]
  split
  · rw [Int.natAbs_neg, Int.natAbs_natCast]
  · rw [Int.natAbs_natCast]

theorem value_eq (n : Numeral) :
    n.value = 10 ^ n.magnitude.fraction.length * Nat.ofDigitChars 10 n.magnitude.whole 0 +
      Nat.ofDigitChars 10 n.magnitude.fraction 0 := by
  rw [value, Nat.ofDigitChars_append, Nat.ofDigitChars_eq_ofDigitChars_zero]

theorem fraction_lt (n : Numeral) :
    Nat.ofDigitChars 10 n.magnitude.fraction 0 < 10 ^ n.magnitude.fraction.length :=
  Text.ofDigitChars_lt n.magnitude.fraction_digits

namespace IsCanonical

variable {n : Numeral}

theorem isNegative (h : n.IsCanonical) : (Decimal.ofNumeral n).isNegative = n.negative := by
  have hmagnitude : 0 ≤ n.magnitude.worth := by
    rw [UnsignedNumeral.worth]
    positivity
  rw [Bool.eq_iff_iff, Decimal.isNegative_iff, Decimal.toRat_ofNumeral]
  constructor
  · intro hlt
    by_contra hnegative
    rw [worth, if_neg hnegative] at hlt
    exact hmagnitude.not_gt hlt
  · intro hnegative
    have hne := h.no_negative_zero hnegative
    rw [worth, if_pos hnegative] at hne ⊢
    exact lt_of_le_of_ne (neg_nonpos.2 hmagnitude) hne

theorem whole_eq (h : n.IsCanonical) :
    Nat.toDigits 10 (n.value / 10 ^ n.magnitude.fraction.length) = n.magnitude.whole := by
  have hrest := n.fraction_lt
  rw [value_eq, Nat.mul_add_div (by positivity), Nat.div_eq_of_lt hrest, Nat.add_zero]
  exact Text.toDigits_ofDigitChars h.whole_ne_nil n.magnitude.whole_digits h.no_zeros_in_front

theorem fraction_eq (h : n.magnitude.fraction ≠ []) :
    Decimal.fractionDigits n.magnitude.fraction.length
      (n.value % 10 ^ n.magnitude.fraction.length) = n.magnitude.fraction := by
  have hrest := n.fraction_lt
  rw [value_eq, Nat.mul_add_mod, Nat.mod_eq_of_lt hrest]
  apply Text.eq_of_ofDigitChars_eq
  · exact fun c hc ↦ Decimal.fractionDigits_digits hc
  · exact n.magnitude.fraction_digits
  · exact Decimal.fractionDigits_length hrest (mt List.length_eq_zero_iff.1 h)
  · exact Decimal.ofDigitChars_fractionDigits _ _

/-- A canonical numeral is the one that is written for its number. -/
theorem fixed_ofNumeral (h : n.IsCanonical) : (Decimal.ofNumeral n).fixed = n.text := by
  have hwhole : (Decimal.ofNumeral n).numeral.magnitude.whole = n.magnitude.whole := by
    rw [← h.whole_eq, ← natAbs_coefficient]
    rfl
  have hfraction :
      (Decimal.ofNumeral n).numeral.magnitude.fraction? = n.magnitude.fraction? := by
    rcases hpoint : n.magnitude.fraction? with _ | digits
    · have hnil : n.magnitude.fraction = [] := by rw [UnsignedNumeral.fraction, hpoint]; rfl
      exact if_pos (by rw [Decimal.ofNumeral, hnil]; rfl)
    · have hdigits : n.magnitude.fraction = digits := by rw [UnsignedNumeral.fraction, hpoint]; rfl
      have hne : n.magnitude.fraction ≠ [] := fun hnil ↦
        h.no_bare_point (by rw [hpoint, ← hdigits, hnil])
      rw [← hdigits, ← fraction_eq hne, ← natAbs_coefficient]
      exact if_neg (mt List.length_eq_zero_iff.1 hne)
  have hnegative : (Decimal.ofNumeral n).numeral.negative = n.negative := h.isNegative
  rw [← Decimal.text_numeral, text, text, chars, chars, UnsignedNumeral.chars,
    UnsignedNumeral.chars, hnegative, hwhole, hfraction]

theorem isTrimmed (h : n.IsCanonical) : (Decimal.ofNumeral n).IsTrimmed := by
  intro hplaces hdvd
  have hvalue : 10 ∣ n.value := by
    rw [← natAbs_coefficient]
    exact Int.natCast_dvd.1 hdvd
  have hdigits : ∀ c ∈ n.magnitude.fraction, c.isDigit = true := n.magnitude.fraction_digits
  rcases n.magnitude.fraction.eq_nil_or_concat' with hnil | ⟨front, c, hfraction⟩
  · exact hplaces (by rw [Decimal.ofNumeral, hnil]; rfl)
  · rw [hfraction, List.forall_mem_append, List.forall_mem_singleton] at hdigits
    obtain ⟨k, hk, rfl⟩ := Text.exists_digitChar hdigits.2
    rw [value, hfraction, ← List.append_assoc, Text.ofDigitChars_concat _ hk] at hvalue
    obtain rfl : k = 0 := by omega
    exact h.no_zeros_at_end (by rw [hfraction, List.getLast?_concat]; rfl)

/-- Canonical numerals that are worth the same are written the same. -/
theorem text_eq_iff {m : Numeral} (hm : m.IsCanonical) (hn : n.IsCanonical) :
    m.text = n.text ↔ m.worth = n.worth := by
  refine ⟨Decimal.worth_eq_of_text_eq, fun h ↦ ?_⟩
  have hnumber : Decimal.ofNumeral m = Decimal.ofNumeral n := by
    apply hm.isTrimmed.eq_of_toRat_eq hn.isTrimmed
    rw [Decimal.toRat_ofNumeral, Decimal.toRat_ofNumeral, h]
  rw [← hm.fixed_ofNumeral, ← hn.fixed_ofNumeral, hnumber]

end IsCanonical

end Numeral

theorem Decimal.IsTrimmed.isCanonical_numeral {d : Decimal} (hd : d.IsTrimmed) :
    d.numeral.IsCanonical where
  whole_ne_nil := Nat.toDigits_ne_nil
  no_zeros_in_front h := by
    have hzero := Text.eq_zero_of_head?_toDigits h
    change Nat.toDigits 10 _ = _
    rw [hzero, Nat.toDigits_zero]
  no_bare_point h := by
    have hplaces := hasPlaces_numeral d
    rw [Numeral.HasPlaces, h] at hplaces
    split at hplaces
    · simp at hplaces
    · next hne => exact hne (Option.some.inj hplaces).symm
  no_zeros_at_end h := by
    obtain ⟨front, hfraction⟩ := List.getLast?_eq_some_iff.1 h
    have hplaces := length_fraction_numeral d
    have hvalue := ofDigitChars_numeral d
    rw [hfraction, ← List.append_assoc] at hvalue
    change Nat.ofDigitChars 10 (_ ++ [Nat.digitChar 0]) 0 = _ at hvalue
    rw [Text.ofDigitChars_concat _ (by decide)] at hvalue
    apply hd
    · rw [← hplaces, hfraction, List.length_append, List.length_singleton]
      exact Nat.succ_ne_zero _
    · exact Int.natCast_dvd.2 ⟨_, hvalue.symm⟩
  no_negative_zero h := by
    rw [worth_numeral]
    exact ((isNegative_iff d).1 h).ne

end PayFormula

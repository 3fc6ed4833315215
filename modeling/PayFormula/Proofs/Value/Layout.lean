import Mathlib
import PayFormula.Binary64.Shortest
import PayFormula.Proofs.Value.Scientific

/-!
# How Numbers Are Laid Out

A finite number in scientific form and a finite double are both written as a numeral times a power
of ten.  In scientific form the numeral times the power is the number itself.  A double is known by
its text alone, and its text has an exponent only where it does not spell zero.
-/

namespace PayFormula

/-! ## Digits with a point among them -/

namespace Text

theorem isDigit_of_mem_replicate {zeros : ℕ} : ∀ c ∈ List.replicate zeros '0', c.isDigit = true :=
  fun c hc ↦ by
    rw [List.eq_of_mem_replicate hc]
    rfl

theorem ofDigitChars_zeros_append (zeros : ℕ) (digits : List Char) :
    Nat.ofDigitChars 10 (List.replicate zeros '0' ++ digits) 0 = Nat.ofDigitChars 10 digits 0 := by
  rw [Nat.ofDigitChars_append, Nat.ofDigitChars_replicate_zero, Nat.mul_zero]

theorem ofDigitChars_append_zeros (digits : List Char) (zeros : ℕ) :
    Nat.ofDigitChars 10 (digits ++ List.replicate zeros '0') 0 =
      Nat.ofDigitChars 10 digits 0 * 10 ^ zeros := by
  rw [Nat.ofDigitChars_append, Nat.ofDigitChars_replicate_zero, mul_comm]

end Text

theorem UnsignedNumeral.worth_eq_zpow {m : UnsignedNumeral} {n : ℕ} (zeros : ℕ) {power : ℤ}
    (hvalue : Nat.ofDigitChars 10 (m.whole ++ m.fraction) 0 = n * 10 ^ zeros)
    (hlength : (m.fraction.length : ℤ) = zeros - power) : m.worth = n * 10 ^ power := by
  have hpower : power = zeros - m.fraction.length := by omega
  rw [worth, hvalue, hpower, zpow_sub₀ (by norm_num), zpow_natCast, zpow_natCast]
  push_cast
  ring

namespace Scientific

/-- Digits with a point among them are a numeral, scaled by where the point stands. -/
theorem exists_chars_eq_pointedChars {digits : List Char} (hdigits : ∀ c ∈ digits, c.isDigit = true)
    (hne : digits ≠ []) (point : ℤ) :
    ∃ m : UnsignedNumeral, m.chars = pointedChars digits point ∧
      m.worth = Nat.ofDigitChars 10 digits 0 * 10 ^ (point - digits.length) := by
  unfold pointedChars
  split
  · next hpoint =>
    refine ⟨{
      whole := ['0']
      fraction? := some (List.replicate (-point).toNat '0' ++ digits)
      whole_digits := by simp
      fraction_digits := List.forall_mem_append.2 ⟨Text.isDigit_of_mem_replicate, hdigits⟩
      some_digit := by simp }, by simp [UnsignedNumeral.chars],
      UnsignedNumeral.worth_eq_zpow 0 ?_ ?_⟩
    · rw [pow_zero, mul_one]
      exact Text.ofDigitChars_zeros_append ((-point).toNat + 1) digits
    · simp [UnsignedNumeral.fraction]
      omega
  · next hpoint =>
    split
    · next hlength =>
      refine ⟨{
        whole := digits ++ List.replicate (point.toNat - digits.length) '0'
        fraction? := none
        whole_digits := List.forall_mem_append.2 ⟨hdigits, Text.isDigit_of_mem_replicate⟩
        fraction_digits := by simp
        some_digit := by simp [hne] }, by simp [UnsignedNumeral.chars],
        UnsignedNumeral.worth_eq_zpow (point.toNat - digits.length) ?_ ?_⟩
      · simp only [UnsignedNumeral.fraction, Option.getD_none, List.append_nil]
        exact Text.ofDigitChars_append_zeros digits _
      · simp only [UnsignedNumeral.fraction, Option.getD_none, List.length_nil]
        omega
    · next hlength =>
      refine ⟨{
        whole := digits.take point.toNat
        fraction? := some (digits.drop point.toNat)
        whole_digits := fun c hc ↦ hdigits c (List.mem_of_mem_take hc)
        fraction_digits := fun c hc ↦ hdigits c (List.mem_of_mem_drop hc)
        some_digit := by simp [hne] }, by simp [UnsignedNumeral.chars],
        UnsignedNumeral.worth_eq_zpow 0 ?_ ?_⟩
      · simp [UnsignedNumeral.fraction]
      · simp only [UnsignedNumeral.fraction, Option.getD_some, List.length_drop]
        omega

/-! ## Numbers in scientific form -/

theorem exists_chars_eq_finiteChars (digits : ℕ) (power : ℤ) :
    ∃ (m : UnsignedNumeral) (exponent : ℤ),
      finiteChars digits power =
        m.chars ++ (if exponent = 0 then [] else exponentChars 'E' 0 exponent) ∧
      m.worth * 10 ^ exponent = digits * 10 ^ power ∧
      (exponent ≠ 0 → digits = 0 → exponent = power) := by
  have hdigits : ∀ c ∈ Nat.toDigits 10 digits, c.isDigit = true := fun c hc ↦
    Nat.isDigit_of_mem_toDigits (by decide) (by decide) hc
  have hvalue : Nat.ofDigitChars 10 (Nat.toDigits 10 digits) 0 = digits :=
    Nat.ofDigitChars_ten_toDigits
  have hlength : 0 < (Nat.toDigits 10 digits).length := List.length_pos_iff.2 Nat.toDigits_ne_nil
  set point := power + (Nat.toDigits 10 digits).length with hpoint
  unfold finiteChars
  simp only [← hpoint]
  split
  · obtain ⟨m, hchars, hworth⟩ :=
      exists_chars_eq_pointedChars hdigits Nat.toDigits_ne_nil point
    refine ⟨m, 0, by simp [hchars], ?_, by simp⟩
    rw [hworth, hvalue, hpoint, zpow_zero, mul_one, add_sub_cancel_right]
  · next hwide =>
    obtain ⟨m, hchars, hworth⟩ := exists_chars_eq_pointedChars hdigits Nat.toDigits_ne_nil 1
    have hne : point - 1 ≠ 0 := by
      intro hzero
      apply hwide
      simp only [Bool.and_eq_true, decide_eq_true_eq]
      omega
    refine ⟨m, point - 1, ?_, ?_, ?_⟩
    · rw [if_neg hne, hchars]
      simp [exponentChars, Decimal.fractionDigits, List.leftpad]
    · rw [hworth, hvalue, mul_assoc, ← zpow_add₀ (by norm_num)]
      congr 2
      omega
    · rintro - rfl
      rw [hpoint]
      simp

/-- A finite number in scientific form is written as a numeral times a power of ten. -/
theorem exists_scaledChars_eq_toChars (negative : Bool) (digits : ℕ) (power : ℤ) :
    ∃ (n : Numeral) (exponent : ℤ),
      (finite negative digits power).toChars = n.scaledChars 'E' 0 exponent ∧
      n.worth * 10 ^ exponent = (finite negative digits power).worth ∧
      (exponent ≠ 0 → digits = 0 → exponent = power) := by
  obtain ⟨m, exponent, hchars, hworth, hpower⟩ := exists_chars_eq_finiteChars digits power
  refine ⟨⟨negative, m⟩, exponent, ?_, ?_, hpower⟩
  · rw [toChars, hchars, Numeral.scaledChars, Numeral.chars, List.append_assoc]
    rfl
  · rw [Numeral.worth, worth]
    cases negative
    · simpa using hworth
    · simpa using hworth

end Scientific

/-! ## Doubles -/

namespace Binary64

/-- With a point far from the digits, the first of them stands before the point and a power follows. -/
theorem pointedChars_of_far {digits : List Char} {point : ℤ} (hne : digits ≠ [])
    (hfar : point ≤ -4 ∨ 16 < point) :
    pointedChars digits point =
      Scientific.pointedChars digits 1 ++ PayFormula.exponentChars 'e' 2 (point - 1) := by
  rw [pointedChars, if_pos (by simpa using hfar), Scientific.pointedChars,
    if_neg Int.one_pos.not_ge]
  rcases digits with _ | ⟨c, _ | ⟨d, rest⟩⟩
  · exact absurd rfl hne
  · rfl
  · have hlength : ¬((c :: d :: rest).length : ℤ) ≤ 1 := by
      rw [List.length_cons, List.length_cons]
      omega
    rw [if_neg hlength]
    simp [exponentChars, PayFormula.exponentChars, Decimal.fractionDigits]

/-- A point before the last digit is written where it stands. -/
theorem pointedChars_of_lt {digits : List Char} {point : ℤ}
    (hnear : ¬(point ≤ -4 ∨ 16 < point)) (hlt : point < digits.length) :
    pointedChars digits point = Scientific.pointedChars digits point := by
  rw [pointedChars, if_neg (by simpa using hnear), Scientific.pointedChars]
  split
  · rfl
  · have hfraction : (digits.drop point.toNat).isEmpty = false := by
      rw [List.isEmpty_eq_false_iff, ne_eq, List.drop_eq_nil_iff]
      omega
    have hzeros : point.toNat - min point.toNat digits.length = 0 := by omega
    rw [if_neg hlt.not_ge]
    simp [hfraction, hzeros]

/-- A point at or after the last digit is written with a zero behind it. -/
theorem pointedChars_of_ge {digits : List Char} {point : ℤ}
    (hnear : ¬(point ≤ -4 ∨ 16 < point)) (hpos : 0 < point) (hge : digits.length ≤ point) :
    pointedChars digits point =
      digits ++ List.replicate (point.toNat - digits.length) '0' ++ ['.', '0'] := by
  have htake : digits.take point.toNat = digits := List.take_of_length_le (by omega)
  have hdrop : digits.drop point.toNat = [] := List.drop_eq_nil_of_le (by omega)
  rw [pointedChars, if_neg (by simpa using hnear), if_neg hpos.not_ge]
  simp [htake, hdrop]

theorem exists_chars_eq_pointedChars {digits : List Char} (hdigits : ∀ c ∈ digits, c.isDigit = true)
    (hne : digits ≠ []) (point : ℤ) :
    ∃ (m : UnsignedNumeral) (exponent : ℤ),
      pointedChars digits point =
        m.chars ++ (if exponent = 0 then [] else PayFormula.exponentChars 'e' 2 exponent) ∧
      m.worth * 10 ^ exponent = Nat.ofDigitChars 10 digits 0 * 10 ^ (point - digits.length) := by
  by_cases hfar : point ≤ -4 ∨ 16 < point
  · obtain ⟨m, hchars, hworth⟩ := Scientific.exists_chars_eq_pointedChars hdigits hne 1
    refine ⟨m, point - 1, ?_, ?_⟩
    · rw [pointedChars_of_far hne hfar, hchars, if_neg (by omega)]
    · rw [hworth, mul_assoc, ← zpow_add₀ (by norm_num)]
      congr 2
      omega
  rcases lt_or_ge point digits.length with hlength | hlength
  · obtain ⟨m, hchars, hworth⟩ := Scientific.exists_chars_eq_pointedChars hdigits hne point
    refine ⟨m, 0, ?_, by rw [hworth, zpow_zero, mul_one]⟩
    rw [pointedChars_of_lt hfar hlength, hchars, if_pos rfl, List.append_nil]
  · have hpos : 0 < point := by
      have := List.length_pos_iff.2 hne
      omega
    refine ⟨{
      whole := digits ++ List.replicate (point.toNat - digits.length) '0'
      fraction? := some ['0']
      whole_digits := List.forall_mem_append.2 ⟨hdigits, Text.isDigit_of_mem_replicate⟩
      fraction_digits := by simp
      some_digit := by simp }, 0, ?_, ?_⟩
    · simp [pointedChars_of_ge hfar hpos hlength, UnsignedNumeral.chars]
    · rw [zpow_zero, mul_one]
      apply UnsignedNumeral.worth_eq_zpow (point.toNat - digits.length + 1)
      · simp only [UnsignedNumeral.fraction, Option.getD_some, List.append_assoc]
        rw [← List.replicate_succ', Text.ofDigitChars_append_zeros]
      · simp only [UnsignedNumeral.fraction, Option.getD_some, List.length_singleton]
        omega

/-- Zeros at the end of the digits are left to the power. -/
theorem exists_layoutDigits (digits : ℕ) (power : ℤ) :
    ∃ zeros : ℕ,
      Nat.toDigits 10 digits = (layoutDigits digits power).1 ++ List.replicate zeros '0' := by
  set written := (Nat.toDigits 10 digits).reverse with hwritten
  have hzeros : written.takeWhile (· == '0') =
      List.replicate (written.takeWhile (· == '0')).length '0' :=
    List.eq_replicate_of_mem fun c hc ↦ by simpa using List.mem_takeWhile_imp hc
  refine ⟨(written.takeWhile (· == '0')).length, ?_⟩
  calc Nat.toDigits 10 digits
      = (written.takeWhile (· == '0') ++ written.dropWhile (· == '0')).reverse := by
        rw [List.takeWhile_append_dropWhile, hwritten, List.reverse_reverse]
    _ = (layoutDigits digits power).1 ++ (written.takeWhile (· == '0')).reverse :=
        List.reverse_append
    _ = (layoutDigits digits power).1 ++
          List.replicate (written.takeWhile (· == '0')).length '0' := by
        rw [← List.reverse_replicate, ← hzeros]

/-- What is written for digits that are not zero stands for them. -/
theorem exists_chars_eq_layout {digits : ℕ} (power : ℤ) (hne : digits ≠ 0) :
    ∃ (m : UnsignedNumeral) (exponent : ℤ),
      pointedChars (layoutDigits digits power).1 (layoutDigits digits power).2 =
        m.chars ++ (if exponent = 0 then [] else PayFormula.exponentChars 'e' 2 exponent) ∧
      m.worth * 10 ^ exponent = digits * 10 ^ power := by
  obtain ⟨zeros, hzeros⟩ := exists_layoutDigits digits power
  set kept := (layoutDigits digits power).1 with hkept
  have hvalue : Nat.ofDigitChars 10 kept 0 * 10 ^ zeros = digits := by
    rw [← Text.ofDigitChars_append_zeros, ← hzeros, Nat.ofDigitChars_ten_toDigits]
  have hdigits : ∀ c ∈ kept, c.isDigit = true := fun c hc ↦
    Nat.isDigit_of_mem_toDigits (b := 10) (n := digits) (by decide) (by decide)
      (by rw [hzeros]; exact List.mem_append_left _ hc)
  have hnil : kept ≠ [] := by
    intro hnil
    rw [hnil, Nat.ofDigitChars_nil, zero_mul] at hvalue
    exact hne hvalue.symm
  have hpoint : (layoutDigits digits power).2 = kept.length + zeros + power := by
    rw [layoutDigits, hzeros, List.length_append, List.length_replicate, Nat.cast_add]
  obtain ⟨m, exponent, hchars, hworth⟩ :=
    exists_chars_eq_pointedChars hdigits hnil (layoutDigits digits power).2
  refine ⟨m, exponent, hchars, ?_⟩
  rw [hworth, hpoint, ← hvalue, add_assoc, add_sub_cancel_left, zpow_add₀ (by norm_num),
    zpow_natCast]
  push_cast
  ring

/-! No interval around a double that is not zero reaches zero. -/

theorem low_interval_pos {mantissa : ℕ} (exponent : ℤ) (hne : mantissa ≠ 0) :
    0 < (interval mantissa exponent).low := by
  have hscale : 0 < 1 * twoTo (exponent - 2).toNat :=
    Nat.mul_pos Nat.one_pos (Nat.pow_pos (by decide))
  have hbelow : (if mantissa = fullMantissa && leastExponent < exponent then 1 else 2) <
      4 * mantissa := by
    split <;> omega
  exact Nat.mul_pos (Nat.sub_pos_of_lt hbelow) hscale

theorem holds_zero {i : Interval} (hlow : 0 < i.low) (power : ℤ) : i.holds 0 power = false := by
  have hpos : 0 < i.low * tenTo (-power).toNat := Nat.mul_pos hlow (tenTo_pos _)
  rw [Interval.holds, Nat.zero_mul, Nat.zero_mul]
  simp only [decide_eq_false hpos.not_ge, decide_eq_false (Nat.not_lt_zero _), Bool.false_and,
    ite_self]

theorem shortestDigits_ne_zero {mantissa : ℕ} (exponent : ℤ) (hne : mantissa ≠ 0) :
    (shortestDigits mantissa exponent).1 ≠ 0 ∨ (shortestDigits mantissa exponent).2 = 0 := by
  set i := interval mantissa exponent with hi
  rw [shortestDigits, ← hi, Interval.shortest]
  simp only
  cases hfound : (List.range 17).findSome? fun extra ↦
      ((i.neighbours (decimalMagnitude i.value i.denominator - (extra : ℕ))).find?
        (i.holds · (decimalMagnitude i.value i.denominator - (extra : ℕ)))).map
          (·, decimalMagnitude i.value i.denominator - (extra : ℤ)) with
  | none => exact .inr rfl
  | some found =>
    obtain ⟨extra, -, hextra⟩ := List.exists_of_findSome?_eq_some hfound
    obtain ⟨digits, hdigits, rfl⟩ := Option.map_eq_some_iff.1 hextra
    refine .inl fun hzero ↦ ?_
    have hholds := List.find?_some hdigits
    have hdigits' : digits = 0 := hzero
    rw [hdigits', holds_zero (low_interval_pos exponent hne)] at hholds
    exact Bool.noConfusion hholds

/-- A zero is written out, whether it is the double itself or the digits that stand in where none
read back. -/
theorem exists_chars_eq_zero : ∃ m : UnsignedNumeral, m.chars = ['0', '.', '0'] :=
  ⟨{ whole := ['0']
     fraction? := some ['0']
     whole_digits := by simp
     fraction_digits := by simp
     some_digit := by simp }, rfl⟩

theorem exists_chars_eq_shortest {mantissa : ℕ} (exponent : ℤ) (hne : mantissa ≠ 0) :
    ∃ (m : UnsignedNumeral) (power : ℤ),
      pointedChars
          (layoutDigits (shortestDigits mantissa exponent).1 (shortestDigits mantissa exponent).2).1
          (layoutDigits (shortestDigits mantissa exponent).1 (shortestDigits mantissa exponent).2).2 =
        m.chars ++ (if power = 0 then [] else PayFormula.exponentChars 'e' 2 power) ∧
      (power ≠ 0 → m.worth ≠ 0) := by
  by_cases hdigits : (shortestDigits mantissa exponent).1 = 0
  · have hpower := (shortestDigits_ne_zero exponent hne).resolve_left (not_not.2 hdigits)
    obtain ⟨m, hchars⟩ := exists_chars_eq_zero
    refine ⟨m, 0, ?_, fun h ↦ absurd rfl h⟩
    rw [hdigits, hpower, hchars]
    rfl
  · obtain ⟨m, power, hchars, hworth⟩ :=
      exists_chars_eq_layout (shortestDigits mantissa exponent).2 hdigits
    refine ⟨m, power, hchars, fun _ hm ↦ ?_⟩
    rw [hm, zero_mul, eq_comm, mul_eq_zero] at hworth
    simp [hdigits, zpow_ne_zero] at hworth

/-- A finite double is written as a numeral times a power of ten, and a power is left out unless
the numeral is worth something. -/
theorem exists_scaledChars_eq_toChars (negative : Bool) (mantissa : ℕ) (exponent : ℤ) :
    ∃ (n : Numeral) (power : ℤ),
      (finite negative mantissa exponent).toChars = n.scaledChars 'e' 2 power ∧
      (power ≠ 0 → n.worth ≠ 0) := by
  have hbody : ∃ (m : UnsignedNumeral) (power : ℤ),
      (finite negative mantissa exponent).toChars =
        (if negative then ['-'] else []) ++
          (m.chars ++ if power = 0 then [] else PayFormula.exponentChars 'e' 2 power) ∧
      (power ≠ 0 → m.worth ≠ 0) := by
    by_cases hmantissa : mantissa = 0
    · obtain ⟨m, hchars⟩ := exists_chars_eq_zero
      exact ⟨m, 0, by simp [toChars, hmantissa, hchars], fun h ↦ absurd rfl h⟩
    · obtain ⟨m, power, hchars, hworth⟩ := exists_chars_eq_shortest exponent hmantissa
      exact ⟨m, power, by simp only [toChars, if_neg hmantissa, hchars], hworth⟩
  obtain ⟨m, power, hchars, hworth⟩ := hbody
  refine ⟨⟨negative, m⟩, power, ?_, fun hpower ↦ ?_⟩
  · rw [hchars, Numeral.scaledChars, Numeral.chars, List.append_assoc]
  · rw [Numeral.worth]
    split
    · exact neg_ne_zero.2 (hworth hpower)
    · exact hworth hpower

end Binary64

end PayFormula

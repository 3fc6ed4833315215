import Mathlib
import PayFormula.Proofs.Amount.Arithmetic
import PayFormula.Proofs.Formula.Written

/-!
# Number Literals

A number in a formula is a run of digits, digit marks and points.  Only some runs spell a number:
those of decimal digits with at most one point among them.  They are read as the number that they
spell.  But every run is accepted: a digit mark is passed over when the run is read, and one that has
a second point, or nothing but marks, is read as zero.
-/

namespace PayFormula

open Text

/-! ## What digits spell -/

/-- Decimal digits of any script, with at most one point among them, spell a number. -/
inductive SpellsOut : List Char → ℚ → Prop where
  | whole {digits : List Char} (hne : digits ≠ []) (h : ∀ c ∈ digits, isDigit c = true) :
    SpellsOut digits (Decimal.digitsValue digits)
  | pointed {whole fraction : List Char} (hne : whole ++ fraction ≠ [])
    (hwhole : ∀ c ∈ whole, isDigit c = true) (hfraction : ∀ c ∈ fraction, isDigit c = true) :
    SpellsOut (whole ++ '.' :: fraction)
      (Decimal.digitsValue (whole ++ fraction) / 10 ^ fraction.length)

/-- At least one decimal digit, at most one point and nothing else. -/
structure IsDecimalText (cs : List Char) : Prop where
  digit : ∃ c ∈ cs, isDigit c = true
  points : cs.count '.' ≤ 1
  others : ∀ c ∈ cs, isDigit c = true ∨ c = '.'

theorem count_point_of_digits {cs : List Char} (h : ∀ c ∈ cs, isDigit c = true) :
    cs.count '.' = 0 := by
  rw [List.count_eq_zero]
  intro hpoint
  have hdigit := h _ hpoint
  rw [isDigit_point] at hdigit
  exact Bool.noConfusion hdigit

theorem SpellsOut.isDecimalText {cs : List Char} {q : ℚ} (h : SpellsOut cs q) :
    IsDecimalText cs := by
  cases h with
  | whole hne h =>
    obtain ⟨c, hc⟩ := List.exists_mem_of_ne_nil _ hne
    refine ⟨⟨c, hc, h c hc⟩, ?_, fun d hd ↦ .inl (h d hd)⟩
    rw [count_point_of_digits h]
    exact Nat.zero_le 1
  | @pointed whole fraction hne hwhole hfraction =>
    obtain ⟨c, hc⟩ := List.exists_mem_of_ne_nil _ hne
    refine ⟨⟨c, ?_, List.forall_mem_append.2 ⟨hwhole, hfraction⟩ c hc⟩, ?_, ?_⟩
    · rw [List.mem_append] at hc ⊢
      exact hc.imp_right (List.mem_cons_of_mem _)
    · rw [List.count_append, List.count_cons_self, count_point_of_digits hwhole,
        count_point_of_digits hfraction]
    · refine List.forall_mem_append.2 ⟨fun d hd ↦ .inl (hwhole d hd), ?_⟩
      exact List.forall_mem_cons.2 ⟨.inr rfl, fun d hd ↦ .inl (hfraction d hd)⟩

theorem IsDecimalText.exists_spellsOut {cs : List Char} (h : IsDecimalText cs) :
    ∃ q, SpellsOut cs q := by
  obtain ⟨⟨c, hc, hdigit⟩, hpoints, hothers⟩ := h
  by_cases hpoint : '.' ∈ cs
  · obtain ⟨whole, fraction, rfl⟩ := List.append_of_mem hpoint
    have hnone : '.' ∉ whole ++ fraction := by
      rw [← List.count_eq_zero, List.count_append]
      rw [List.count_append, List.count_cons_self] at hpoints
      omega
    have hall : ∀ d ∈ whole ++ fraction, isDigit d = true := by
      intro d hd
      refine (hothers d ?_).resolve_right (ne_of_mem_of_not_mem hd hnone)
      rw [List.mem_append] at hd ⊢
      exact hd.imp_right (List.mem_cons_of_mem _)
    have hne : whole ++ fraction ≠ [] := by
      -- otherwise the point would be the digit
      intro hempty
      obtain ⟨rfl, rfl⟩ := List.append_eq_nil_iff.1 hempty
      obtain rfl := List.mem_singleton.1 hc
      rw [isDigit_point] at hdigit
      exact Bool.noConfusion hdigit
    rw [List.forall_mem_append] at hall
    exact ⟨_, .pointed hne hall.1 hall.2⟩
  · exact ⟨_, .whole (List.ne_nil_of_mem hc) fun d hd ↦
      (hothers d hd).resolve_right (ne_of_mem_of_not_mem hd hpoint)⟩

namespace Decimal

theorem spellsOut_of_ofUnsigned? {cs : List Char} {d : Decimal} (h : ofUnsigned? cs = some d) :
    SpellsOut cs d.toRat := by
  have hsplit : cs.takeWhile isDigit ++ cs.dropWhile isDigit = cs := List.takeWhile_append_dropWhile
  have hwhole : ∀ c ∈ cs.takeWhile isDigit, isDigit c = true := fun c hc ↦ List.mem_takeWhile_imp hc
  unfold ofUnsigned? at h
  generalize cs.takeWhile isDigit = whole at h hsplit hwhole
  dsimp only at h
  split at h
  · next hrest =>
    rw [hrest, List.append_nil] at hsplit
    rw [Option.ite_none_left_eq_some, hsplit] at h
    obtain ⟨hne, hd⟩ := h
    obtain rfl := Option.some.inj hd
    rw [hsplit] at hwhole
    rw [toRat_eq]
    simpa using SpellsOut.whole (by simpa using hne) hwhole
  · next fraction hrest =>
    rw [hrest] at hsplit
    rw [Option.ite_none_right_eq_some, Bool.and_eq_true, List.all_eq_true] at h
    obtain ⟨⟨hfraction, hne⟩, hd⟩ := h
    obtain rfl := Option.some.inj hd
    have hspelled := SpellsOut.pointed (by simpa [← not_and_or] using hne) hwhole hfraction
    rw [toRat_eq, ← hsplit]
    simpa using hspelled
  · nomatch h

end Decimal

theorem SpellsOut.map_toRat_ofUnsigned? {cs : List Char} {q : ℚ} (h : SpellsOut cs q) :
    (Decimal.ofUnsigned? cs).map Decimal.toRat = some q := by
  cases h with
  | whole hne h => simp [Decimal.ofUnsigned?_whole hne h, Decimal.toRat_eq]
  | pointed hne hwhole hfraction =>
    simp [Decimal.ofUnsigned?_pointed hne hwhole hfraction, Decimal.toRat_eq]

/-! ## How runs are read -/

/-- The characters of a run that are no digit marks. -/
def withoutMarks (cs : List Char) : List Char := cs.filter fun c ↦ isDigit c || c == '.'

theorem withoutMarks_eq_self_iff {cs : List Char} :
    withoutMarks cs = cs ↔ ∀ c ∈ cs, isDigit c = true ∨ c = '.' := by
  simp [withoutMarks, List.filter_eq_self]

theorem ofText_run {cs : List Char} (h : ∀ c ∈ cs, isNumberChar c = true) :
    Decimal.ofText (String.ofList cs) = (Decimal.ofUnsigned? (withoutMarks cs)).getD 0 := by
  have hkept : cs.filter Decimal.isNumeric = withoutMarks cs := by
    apply List.filter_congr
    intro c hc
    have hminus : (c == '-') = false := by
      rw [beq_eq_false_iff_ne]
      rintro rfl
      exact absurd (h _ hc) (by decide +kernel)
    rw [Decimal.isNumeric, hminus, Bool.or_false]
  have hunsigned : Decimal.ofChars? (withoutMarks cs) = Decimal.ofUnsigned? (withoutMarks cs) := by
    unfold Decimal.ofChars?
    split
    · next rest hrest =>
      have hminus : '-' ∈ withoutMarks cs := hrest ▸ List.mem_cons_self
      have hkept := (List.mem_filter.1 hminus).2
      exact absurd hkept (by decide +kernel)
    · rfl
  rw [Decimal.ofText, String.toList_ofList, hkept, hunsigned]

theorem SpellsOut.numberOf_eq {cs : List Char} (h : ∀ c ∈ cs, isNumberChar c = true) {q : ℚ}
    (hq : SpellsOut (withoutMarks cs) q) : Amount.numberOf (.text (String.ofList cs)) = q := by
  obtain ⟨d, hd, rfl⟩ := Option.map_eq_some_iff.1 hq.map_toRat_ofUnsigned?
  rw [Amount.numberOf, Value.toDecimal, ofText_run h, hd, Option.getD_some]

theorem numberOf_eq_zero {cs : List Char} (h : ∀ c ∈ cs, isNumberChar c = true)
    (hnone : ¬IsDecimalText (withoutMarks cs)) :
    Amount.numberOf (.text (String.ofList cs)) = 0 := by
  have hunread : Decimal.ofUnsigned? (withoutMarks cs) = none := by
    rw [Option.eq_none_iff_forall_ne_some]
    intro d hd
    exact hnone (Decimal.spellsOut_of_ofUnsigned? hd).isDecimalText
  rw [Amount.numberOf, Value.toDecimal, ofText_run h, hunread, Option.getD_none, Decimal.toRat_zero]

/-- A run spells a number if it has no digit mark and no second point. -/
theorem IsNumberRun.isDecimalText_iff {cs : List Char} (h : IsNumberRun cs) :
    IsDecimalText cs ↔ withoutMarks cs = cs ∧ cs.count '.' ≤ 1 := by
  rw [withoutMarks_eq_self_iff]
  constructor
  · intro hdecimal
    exact ⟨hdecimal.others, hdecimal.points⟩
  · rintro ⟨hothers, hpoints⟩
    obtain ⟨d, hd, hdigit⟩ : ∃ d ∈ cs, isDigitLike d = true := by
      obtain ⟨c, rest, rfl, hstart, -⟩ := h
      rw [startsNumber, Bool.or_eq_true, Bool.and_eq_true, Option.any_eq_true] at hstart
      rcases hstart with hdigit | ⟨-, d, hd, hdigit⟩
      · exact ⟨c, List.mem_cons_self, hdigit⟩
      · exact ⟨d, List.mem_cons_of_mem c (List.mem_of_mem_head? hd), hdigit⟩
    refine ⟨⟨d, hd, (hothers d hd).resolve_right ?_⟩, hpoints, hothers⟩
    rintro rfl
    exact absurd hdigit (by decide +kernel)

/-! ## Number tokens -/

/-- What holds of each lexeme that is read, and of the end, holds of each token. -/
theorem forall_lexeme_of_tokensFrom {P : Lexeme → Prop} (hfinish : P .finish)
    (hread : ∀ {position length : ℕ} {c : Char} {rest : List Char} {lexeme : Lexeme},
      lexemeAt position c rest = .ok (lexeme, length) → P lexeme)
    {skip position : ℕ} {cs : List Char} {tokens : List Token}
    (h : tokensFrom skip position cs = .ok tokens) : ∀ token ∈ tokens, P token.lexeme := by
  induction skip, position, cs using tokensFrom.induct generalizing tokens with
  | case1 skip position =>
    obtain rfl := Except.ok.inj h
    exact List.forall_mem_singleton.2 hfinish
  | case2 position c rest skip ih => exact ih h
  | case3 position c rest hblank ih =>
    rw [tokensFrom, if_pos hblank] at h
    exact ih h
  | case4 position c rest hblank ih =>
    rw [tokensFrom, if_neg hblank] at h
    obtain ⟨⟨lexeme, length⟩, hlexeme, hothers⟩ := exists_of_bind_eq_ok h
    obtain ⟨others, htokens, hresult⟩ := exists_of_bind_eq_ok hothers
    obtain rfl := Except.ok.inj hresult
    exact List.forall_mem_cons.2 ⟨hread hlexeme, ih length htokens⟩

/-- Only a run is read as a number. -/
theorem IsRead.isNumberRun {c : Char} {source rest : List Char} {digits : String}
    (h : IsRead c source rest (.number digits)) : IsNumberRun digits.toList := by
  cases h with
  | number hstart hrun => exact ⟨c, source, String.toList_ofList, hstart, hrun⟩
  | single hlexeme =>
    unfold singleLexeme? at hlexeme
    split at hlexeme <;> simp at hlexeme

/-- Some text has a number token with these digits. -/
def IsNumberLiteral (digits : String) : Prop :=
  ∃ s tokens, tokenize s = .ok tokens ∧ .number digits ∈ tokens.map Token.lexeme

theorem IsNumberLiteral.isNumberRun {digits : String} (h : IsNumberLiteral digits) :
    IsNumberRun digits.toList := by
  obtain ⟨s, tokens, htokens, hmem⟩ := h
  obtain ⟨token, htoken, hlexeme⟩ := List.mem_map.1 hmem
  refine forall_lexeme_of_tokensFrom
    (P := fun lexeme ↦ lexeme = .number digits → IsNumberRun digits.toList) nofun ?_ htokens token
    htoken hlexeme
  rintro _ _ _ _ _ hlexeme rfl
  obtain ⟨_, _, -, -, hread⟩ := isRead_of_lexemeAt hlexeme
  exact hread.isNumberRun

theorem IsNumberRun.tokenize_eq {cs : List Char} (h : IsNumberRun cs) :
    tokenize (String.ofList cs) =
      .ok [⟨.number (String.ofList cs), 0⟩, ⟨.finish, cs.length⟩] := by
  have hparted : Parted [] := by simp [Parted]
  have hread := tokensFrom_word h.isReadAs hparted 0
  rw [List.append_nil, String.toList_ofList, Nat.zero_add] at hread
  rw [tokenize, String.toList_ofList, hread]
  rfl

/-- Every run is a formula. -/
theorem IsNumberRun.parse_eq {cs : List Char} (h : IsNumberRun cs) {cap : DepthCap}
    (hcap : cap.levels? ≠ some 0) (strict : Bool) :
    tokenize (String.ofList cs) >>= parse cap strict =
      .ok (.number (.text (String.ofList cs))) := by
  have hfinish : Closes [⟨.finish, cs.length⟩] := by simp [Closes, headToken]
  have hexpression (room : ℕ) :
      expression cap (room + 1) 0 [⟨.number (String.ofList cs), 0⟩, ⟨.finish, cs.length⟩] =
        .ok (.number (.text (String.ofList cs)), [⟨.finish, cs.length⟩]) := by
    rw [expression]
    change chain cap room 0 _ [⟨.finish, cs.length⟩] = _
    rw [chain_eq_self cap room _ (hfinish.chainOperator?_eq_none 0)]
  rw [h.tokenize_eq]
  exact parse_of_expression hcap strict hexpression

theorem IsNumberRun.isNumberLiteral {cs : List Char} (h : IsNumberRun cs) :
    IsNumberLiteral (String.ofList cs) :=
  ⟨_, _, h.tokenize_eq, List.mem_cons_self⟩

/-- The number literals are all runs, and each is a formula of its own.  A literal spells a number
exactly if it has no digit mark and no second point; then it is read as that number.  Otherwise it is
read as if its marks were not there, and as zero if that spells no number either. -/
theorem number_literals_read_without_marks (digits : String) :
    (IsNumberLiteral digits ↔ IsNumberRun digits.toList) ∧
    (IsNumberLiteral digits →
      (∀ (cap : DepthCap) (strict : Bool), cap.levels? ≠ some 0 →
        tokenize digits >>= parse cap strict = .ok (.number (.text digits))) ∧
      ((∃ q, SpellsOut digits.toList q) ↔ IsDecimalText digits.toList) ∧
      (IsDecimalText digits.toList ↔
        withoutMarks digits.toList = digits.toList ∧ digits.toList.count '.' ≤ 1) ∧
      (∀ q, SpellsOut digits.toList q → Amount.numberOf (.text digits) = q) ∧
      (∀ q, SpellsOut (withoutMarks digits.toList) q → Amount.numberOf (.text digits) = q) ∧
      (¬IsDecimalText (withoutMarks digits.toList) → Amount.numberOf (.text digits) = 0)) := by
  obtain ⟨cs, rfl⟩ : ∃ cs, digits = String.ofList cs := ⟨_, String.ofList_toList.symm⟩
  have hliteral : IsNumberLiteral (String.ofList cs) → IsNumberRun cs := fun h ↦ by
    simpa only [String.toList_ofList] using h.isNumberRun
  rw [String.toList_ofList]
  refine ⟨⟨hliteral, IsNumberRun.isNumberLiteral⟩, fun h ↦ ?_⟩
  have hrun : IsNumberRun cs := hliteral h
  have hspelled : (∃ q, SpellsOut cs q) ↔ IsDecimalText cs :=
    ⟨fun ⟨_, hq⟩ ↦ hq.isDecimalText, IsDecimalText.exists_spellsOut⟩
  refine ⟨fun _ strict hcap ↦ hrun.parse_eq hcap strict, hspelled, hrun.isDecimalText_iff, ?_,
    fun _ ↦ SpellsOut.numberOf_eq hrun.isNumberChar, numberOf_eq_zero hrun.isNumberChar⟩
  intro q hq
  have hmarks := (hrun.isDecimalText_iff.1 hq.isDecimalText).1
  exact SpellsOut.numberOf_eq hrun.isNumberChar (by rwa [hmarks])

/-- An Arabic three, a point and an ASCII five. -/
theorem number_literals_read_without_marks_arabic :
    IsNumberLiteral "٣.5" ∧ SpellsOut ['٣', '.', '5'] (7 / 2) ∧
      Amount.numberOf (.text "٣.5") = 7 / 2 := by
  have hrun : IsNumberRun ['٣', '.', '5'] :=
    ⟨'٣', ['.', '5'], rfl, by decide +kernel, List.all_eq_true.1 (by decide +kernel)⟩
  have hspelled : SpellsOut ['٣', '.', '5'] (7 / 2) := by
    have hworth : (Decimal.digitsValue (['٣'] ++ ['5']) : ℚ) / 10 ^ ['5'].length = 7 / 2 := by
      decide +kernel
    have hdigits : SpellsOut (['٣'] ++ '.' :: ['5']) _ :=
      .pointed (by simp) (List.all_eq_true.1 (by decide +kernel))
        (List.all_eq_true.1 (by decide +kernel))
    rwa [hworth] at hdigits
  obtain ⟨-, hread⟩ := number_literals_read_without_marks "٣.5"
  have hliteral : IsNumberLiteral "٣.5" := hrun.isNumberLiteral
  exact ⟨hliteral, hspelled, (hread hliteral).2.2.2.1 _ hspelled⟩

/-- Two points, a digit with a mark, and a mark alone are accepted as numbers although none is
written. -/
theorem marks_and_second_points_accepted :
    tokenize "1.2.3" = .ok [⟨.number "1.2.3", 0⟩, ⟨.finish, 5⟩] ∧
    ¬IsDecimalText "1.2.3".toList ∧ Amount.numberOf (.text "1.2.3") = 0 ∧
    tokenize "1²" = .ok [⟨.number "1²", 0⟩, ⟨.finish, 2⟩] ∧
    ¬IsDecimalText "1²".toList ∧ Amount.numberOf (.text "1²") = 1 ∧
    tokenize "²" = .ok [⟨.number "²", 0⟩, ⟨.finish, 1⟩] ∧
    ¬IsDecimalText "²".toList ∧ Amount.numberOf (.text "²") = 0 := by
  have hpoints : ¬IsDecimalText "1.2.3".toList := fun h ↦ absurd h.points (by decide)
  have hmarked : ¬IsDecimalText "1²".toList := fun h ↦
    absurd (h.others '²' (by decide)) (by decide +kernel)
  have hmark : ¬IsDecimalText "²".toList := fun h ↦
    absurd (h.others '²' (by decide)) (by decide +kernel)
  refine ⟨?_, hpoints, ?_, ?_, hmarked, ?_, ?_, hmark, ?_⟩
  all_goals decide +kernel

end PayFormula

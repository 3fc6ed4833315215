import Mathlib
import PayFormula.Proofs.Formula.Written

/-!
# Texts between Quotes

Any text can stand in a formula: between quotes of either kind, with a backslash before each quote
of that kind and each backslash, it is read as one token whatever stands before and after it.  A
quote is read in vain exactly when no quote of its kind is left after it once each backslash has
been paired with the character that it takes.
-/

namespace PayFormula

open Text

/-! ## Pairs -/

/-- What is left when each backslash is taken away with the character after it.  A backslash at the
very end has none after it and is left. -/
def unpaired : List Char → List Char
  | [] => []
  | [c] => [c]
  | c :: d :: rest => if c = '\\' then unpaired rest else c :: unpaired (d :: rest)

theorem quotedContent?_eq_none_iff {quote : Char} (hquote : quote ≠ '\\') {cs : List Char} :
    quotedContent? quote cs = none ↔ quote ∉ unpaired cs := by
  induction cs using quotedContent?.induct quote with
  | case1 => simp [quotedContent?, unpaired]
  | case2 => simp [quotedContent?, unpaired]
  | case3 c hc => simp [quotedContent?, unpaired, hc, Ne.symm hc]
  | case4 d rest => simp [quotedContent?, unpaired, hquote]
  | case5 d rest _ ih =>
    rw [quotedContent?_escaped hquote, Option.map_eq_none_iff, ih, unpaired, if_pos rfl]
  | case6 c d rest hc hslash ih =>
    rw [quotedContent?_plain hc hslash, Option.map_eq_none_iff, ih, unpaired, if_neg hslash,
      List.mem_cons, not_or]
    exact (and_iff_right (Ne.symm hc)).symm

/-- A text that does not end begins with a quote that is left alone. -/
theorem lexemeAt_eq_unterminatedText {position place : ℕ} {c : Char} {rest : List Char} :
    lexemeAt position c rest = .error (.unterminatedText place) ↔
      place = position ∧ isQuote c = true ∧ c ∉ unpaired rest := by
  unfold lexemeAt
  dsimp only
  split
  · next hnumber =>
    have hquote : ¬isQuote c = true := fun hquote ↦ by
      simp [startsNumber, isDigitLike_of_isQuote hquote, not_point_of_isQuote hquote] at hnumber
    simp [hquote]
  split
  · next hquote =>
    have hnone := @quotedContent?_eq_none_iff c (isQuote_ne_backslash hquote) rest
    split
    · next hcontent =>
      rw [hcontent] at hnone
      simp [← hnone]
    · next hcontent => simp [hquote, hnone.1 hcontent, eq_comm]
  next hquote =>
  split
  · simp [hquote]
  split
  · simp [hquote]
  split <;> simp [hquote]

/-! ## Texts in formulas -/

theorem tokensFrom_quotedWord {quote : Char} (hquote : isQuote quote = true) (content : String)
    (position : ℕ) (rest : List Char) :
    tokensFrom 0 position ((quotedWord quote content).toList ++ rest) =
      (tokensFrom 0 (position + (quotedWord quote content).length) rest).map
        (⟨.text content, position⟩ :: ·) := by
  rw [← String.length_toList, quotedWord, String.toList_ofList]
  exact (isRead_quotedWord hquote content rest).tokensFrom_eq position

/-- A text between quotes is one token among those of what stands before and after it. -/
theorem tokenize_quotedWord {quote : Char} (hquote : isQuote quote = true) (content : String)
    {before after : String} {front back : List Token} (hbefore : tokenize before = .ok front)
    (hafter : tokenize after = .ok back) :
    tokenize (before ++ quotedWord quote content ++ after) =
      .ok (front.dropLast ++ ⟨.text content, before.length⟩ ::
        back.map (.moved (before.length + (quotedWord quote content).length))) := by
  have hends : ∀ c ∈ ((quotedWord quote content).toList ++ after.toList).head?, EndsTokens c := by
    intro c hc
    rw [quotedWord, String.toList_ofList] at hc
    obtain rfl := Option.some.inj hc
    exact endsTokens_of_isQuote hquote
  have hback := tokenizes_iff.1
    ((tokenizes_iff.2 hafter).moved (before.length + (quotedWord quote content).length))
  rw [Nat.add_zero] at hback
  rw [tokenize, String.toList_append, String.toList_append, List.append_assoc,
    (tokenizes_iff.2 hbefore).tokensFrom_append hends, tokensFrom_quotedWord hquote, Nat.zero_add,
    String.length_toList, hback]
  rfl

/-- Where the characters before a place can be read, what follows is read from there. -/
theorem tokenize_eq_unterminatedText_iff {s : String} {position : ℕ} :
    tokenize s = .error (.unterminatedText position) ↔
      ∃ before quote rest tokens, s = before ++ String.ofList (quote :: rest) ∧
        before.length = position ∧ isQuote quote = true ∧ tokenize before = .ok tokens ∧
        quote ∉ unpaired rest := by
  constructor
  · intro h
    obtain ⟨before, quote, rest, tokens, hs, hbefore, hfault⟩ :=
      exists_of_tokensFrom_eq_error (Nat.zero_le _) h
    obtain ⟨hposition, hquote, hrest⟩ := lexemeAt_eq_unterminatedText.1 hfault
    refine ⟨String.ofList before, quote, rest, tokens, ?_, ?_, hquote, ?_, hrest⟩
    · rw [← String.ofList_append, ← hs]
      exact String.ofList_toList.symm
    · rw [← String.length_toList, String.toList_ofList, hposition, Nat.add_zero, Nat.zero_add]
    · rw [tokenize, String.toList_ofList]
      exact tokenizes_iff.1 hbefore
  · rintro ⟨before, quote, rest, tokens, rfl, rfl, hquote, hbefore, hrest⟩
    have hends : ∀ c ∈ (quote :: rest).head?, EndsTokens c := by
      intro c hc
      obtain rfl := Option.some.inj hc
      exact endsTokens_of_isQuote hquote
    have hblank : ¬isBlank quote = true := by
      rcases isQuote_iff.1 hquote with rfl | rfl <;> decide +kernel
    have hfault : lexemeAt before.length quote rest = .error (.unterminatedText before.length) :=
      lexemeAt_eq_unterminatedText.2 ⟨rfl, hquote, hrest⟩
    rw [tokenize, String.toList_append, String.toList_ofList,
      (tokenizes_iff.2 hbefore).tokensFrom_append hends, Nat.zero_add, String.length_toList,
      tokensFrom, if_neg hblank, hfault]
    rfl

/-- Any text is carried between quotes, in any place; and reading a text that a quote begins fails
exactly when no such quote is left after it, and says where it began. -/
theorem texts_carried_between_quotes :
    (∀ (quote : Char) (content before after : String) (front back : List Token),
      isQuote quote = true → tokenize before = .ok front → tokenize after = .ok back →
      tokenize (before ++ quotedWord quote content ++ after) =
        .ok (front.dropLast ++ ⟨.text content, before.length⟩ ::
          back.map (.moved (before.length + (quotedWord quote content).length)))) ∧
    (∀ (quote : Char) (rest : List Char) (position : ℕ), isQuote quote = true →
      (lexemeAt position quote rest = .error (.unterminatedText position) ↔
        quote ∉ unpaired rest)) ∧
    (∀ (s : String) (position : ℕ), tokenize s = .error (.unterminatedText position) ↔
      ∃ before quote rest tokens, s = before ++ String.ofList (quote :: rest) ∧
        before.length = position ∧ isQuote quote = true ∧ tokenize before = .ok tokens ∧
        quote ∉ unpaired rest) ∧
    ∀ position : ℕ, (SyntaxFault.unterminatedText position).message =
      "Unterminated string literal at position " ++ toString position := by
  refine ⟨?_, ?_, ?_, ?_⟩
  · intro quote content before after front back hquote hbefore hafter
    exact tokenize_quotedWord hquote content hbefore hafter
  · intro quote rest position hquote
    rw [lexemeAt_eq_unterminatedText]
    exact ⟨fun h ↦ h.2.2, fun h ↦ ⟨rfl, hquote, h⟩⟩
  · intro s position
    exact tokenize_eq_unterminatedText_iff
  · intro position
    rfl

/-- An escaped quote and an escaped backslash as an argument, and a last backslash that escapes
nothing after one that does. -/
theorem texts_carried_between_quotes_escaped :
    tokenize "f(" = .ok [⟨.name "F", 0⟩, ⟨.leftParen, 1⟩, ⟨.finish, 2⟩] ∧
      tokenize " )" = .ok [⟨.rightParen, 1⟩, ⟨.finish, 2⟩] ∧
      tokenize ("f(" ++ quotedWord '\'' "it's \\" ++ " )") =
        .ok [⟨.name "F", 0⟩, ⟨.leftParen, 1⟩, ⟨.text "it's \\", 2⟩, ⟨.rightParen, 13⟩,
          ⟨.finish, 14⟩] ∧
      (lexemeAt 2 '"' ['\\', '"', '\\'] = .error (.unterminatedText 2) ↔
        '"' ∉ unpaired ['\\', '"', '\\']) ∧
      tokenize "f(\"\\\"\\" = .error (.unterminatedText 2) := by
  obtain ⟨hcarried, hscan, hwhole, -⟩ := texts_carried_between_quotes
  have hbefore : tokenize "f(" = .ok [⟨.name "F", 0⟩, ⟨.leftParen, 1⟩, ⟨.finish, 2⟩] := by
    decide +kernel
  have hafter : tokenize " )" = .ok [⟨.rightParen, 1⟩, ⟨.finish, 2⟩] := by decide +kernel
  refine ⟨hbefore, hafter, ?_, hscan '"' _ 2 rfl, (hwhole _ 2).2 ?_⟩
  · have hword := hcarried '\'' "it's \\" "f(" " )" _ _ rfl hbefore hafter
    have hlength : (quotedWord '\'' "it's \\").length = 10 := by decide +kernel
    rw [hlength] at hword
    exact hword
  · exact ⟨"f(", '"', ['\\', '"', '\\'], _, rfl, rfl, rfl, hbefore, by simp [unpaired]⟩

end PayFormula

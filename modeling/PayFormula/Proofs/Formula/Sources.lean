import Mathlib
import PayFormula.Formula.Lexer
import PayFormula.Proofs.Formula.Soundness

/-!
# The Sources of Tokens

A token stands on the characters that it was read from, its source: a number on its digits, a name
on characters whose upper case it is, an operator on its symbol, a text on its content between
quotes, where a backslash may stand before any character.  It is read as far as it goes: what
follows its source does not go on with it.  The tokens of a text cover it: the sources follow each
other from the first character to the last, each begins where its token says, and only blanks stand
between them.
-/

namespace PayFormula

open Text

/-! ## Sources -/

/-- The first list stands between quotes and spells the second one.  A backslash takes the next
character as it is. -/
inductive Escapes (quote : Char) : List Char → List Char → Prop where
  | nil : Escapes quote [] []
  | plain {c : Char} {body content : List Char} (hquote : c ≠ quote) (hslash : c ≠ '\\') :
    Escapes quote body content → Escapes quote (c :: body) (c :: content)
  | escaped (c : Char) {body content : List Char} :
    Escapes quote body content → Escapes quote ('\\' :: c :: body) (c :: content)

/-- An operator in writing: `AND` and `OR` are doubled symbols. -/
def Operator.spelling : Operator → String
  | and => "&&"
  | or => "||"
  | operator => operator.symbol

/-- A lexeme and the characters that it may stand on.  The end stands on none. -/
inductive Lexeme.Source : Lexeme → List Char → Prop where
  | number (digits : String) : Source (.number digits) digits.toList
  | text {quote : Char} {body content : List Char} (hquote : isQuote quote = true) :
    Escapes quote body content →
    Source (.text (String.ofList content)) (quote :: (body ++ [quote]))
  | name (source : List Char) : Source (.name (upper (String.ofList source))) source
  | operator (operator : Operator) : Source (.operator operator) operator.spelling.toList
  | leftParen : Source .leftParen ['(']
  | rightParen : Source .rightParen [')']
  | comma : Source .comma [',']
  | dot : Source .dot ['.']

/-- The tokens stand one after another in a text that starts at a position, with nothing but blanks
before, between and after their sources. -/
inductive Covers : ℕ → List Char → List Token → Prop where
  | finish (position : ℕ) : Covers position [] [⟨.finish, position⟩]
  | blank {position : ℕ} {c : Char} {rest : List Char} {tokens : List Token}
    (hblank : isBlank c = true) :
    Covers (position + 1) rest tokens → Covers position (c :: rest) tokens
  | token {position : ℕ} {lexeme : Lexeme} {source rest : List Char} {tokens : List Token}
    (hsource : lexeme.Source source) (hne : source ≠ []) :
    Covers (position + source.length) rest tokens →
    Covers position (source ++ rest) (⟨lexeme, position⟩ :: tokens)

/-! ## Quoted text -/

section Quoted

variable {quote : Char}

theorem isQuote_ne_backslash (h : isQuote quote = true) : quote ≠ '\\' := by
  rintro rfl
  exact absurd h (by decide)

theorem quotedContent?_quote (rest : List Char) :
    quotedContent? quote (quote :: rest) = some ([], 1) := by
  cases rest <;> simp [quotedContent?]

theorem quotedContent?_escaped (hquote : quote ≠ '\\') (c : Char) (rest : List Char) :
    quotedContent? quote ('\\' :: c :: rest) =
      (quotedContent? quote rest).map fun (content, length) ↦ (c :: content, length + 2) := by
  rw [quotedContent?, if_neg hquote.symm, if_pos rfl]

theorem quotedContent?_plain {c : Char} (hquote : c ≠ quote) (hslash : c ≠ '\\')
    (rest : List Char) :
    quotedContent? quote (c :: rest) =
      (quotedContent? quote rest).map fun (content, length) ↦ (c :: content, length + 1) := by
  cases rest with
  | nil => simp [quotedContent?, hquote]
  | cons d rest => rw [quotedContent?, if_neg hquote, if_neg hslash]

/-- What is read up to a closing quote is what stands before it spells. -/
theorem quotedContent?_sound (hquote : quote ≠ '\\') {cs content : List Char} {length : ℕ}
    (h : quotedContent? quote cs = some (content, length)) :
    ∃ body rest, cs = body ++ quote :: rest ∧ length = body.length + 1 ∧
      Escapes quote body content := by
  induction cs using quotedContent?.induct quote generalizing content length with
  | case1 => simp [quotedContent?] at h
  | case2 | case4 =>
    rw [quotedContent?_quote, Option.some.injEq, Prod.mk.injEq] at h
    obtain ⟨rfl, rfl⟩ := h
    exact ⟨[], _, rfl, rfl, .nil⟩
  | case3 c hc => simp [quotedContent?, hc] at h
  | case5 d rest _ ih =>
    rw [quotedContent?_escaped hquote, Option.map_eq_some_iff] at h
    obtain ⟨⟨others, count⟩, hothers, hpair⟩ := h
    obtain ⟨rfl, rfl⟩ := Prod.mk.inj hpair
    obtain ⟨body, after, rfl, rfl, hbody⟩ := ih hothers
    exact ⟨'\\' :: d :: body, after, rfl, rfl, .escaped d hbody⟩
  | case6 c d rest hc hslash ih =>
    rw [quotedContent?_plain hc hslash, Option.map_eq_some_iff] at h
    obtain ⟨⟨others, count⟩, hothers, hpair⟩ := h
    obtain ⟨rfl, rfl⟩ := Prod.mk.inj hpair
    obtain ⟨body, after, hrest, rfl, hbody⟩ := ih hothers
    exact ⟨c :: body, after, congrArg (c :: ·) hrest, rfl, .plain hc hslash hbody⟩

end Quoted

/-! ## Single tokens -/

theorem doubledOperator?_sound {c d : Char} {operator : Operator}
    (h : doubledOperator? c d = some operator) : operator.spelling.toList = [c, d] := by
  unfold doubledOperator? at h
  split at h <;> cases h
  all_goals rfl

theorem singleLexeme?_sound {c : Char} {lexeme : Lexeme} (h : singleLexeme? c = some lexeme) :
    lexeme.Source [c] := by
  unfold singleLexeme? at h
  split at h <;> cases h
  all_goals constructor

/-- A character and those after it are read as the lexeme, and the rest does not go on with it. -/
inductive IsRead : Char → List Char → List Char → Lexeme → Prop where
  | number {c : Char} {run rest : List Char} (hstart : startsNumber c run = true)
    (hrun : ∀ d ∈ run, isNumberChar d = true) (hrest : ∀ d ∈ rest.head?, isNumberChar d = false) :
    IsRead c run rest (.number (String.ofList (c :: run)))
  | text {quote : Char} {body content rest : List Char} (hquote : isQuote quote = true)
    (hbody : Escapes quote body content) :
    IsRead quote (body ++ [quote]) rest (.text (String.ofList content))
  | name {c : Char} {run rest : List Char} (hdigit : isDigitLike c = false)
    (hstart : isNameStart c = true) (hrun : ∀ d ∈ run, isNameChar d = true)
    (hrest : ∀ d ∈ rest.head?, isNameChar d = false) :
    IsRead c run rest (.name (upper (String.ofList (c :: run))))
  | doubled {c d : Char} {rest : List Char} {operator : Operator}
    (hoperator : doubledOperator? c d = some operator) : IsRead c [d] rest (.operator operator)
  | single {c : Char} {rest : List Char} {lexeme : Lexeme} (hlexeme : singleLexeme? c = some lexeme)
    (hnumber : startsNumber c rest = false)
    (hrest : ∀ d ∈ rest.head?, doubledOperator? c d = none) : IsRead c [] rest lexeme

theorem head?_dropWhile {p : Char → Bool} {cs : List Char} :
    ∀ d ∈ (cs.dropWhile p).head?, p d = false := by
  intro d hd
  have hstop := List.head?_dropWhile_not p cs
  rw [Option.mem_def.1 hd] at hstop
  exact hstop

theorem isRead_of_lexemeAt {position length : ℕ} {c : Char} {rest : List Char} {lexeme : Lexeme}
    (h : lexemeAt position c rest = .ok (lexeme, length)) :
    ∃ source after, rest = source ++ after ∧ length = source.length + 1 ∧
      IsRead c source after lexeme := by
  unfold lexemeAt at h
  dsimp only at h
  split at h
  · next hstart =>
    obtain ⟨rfl, rfl⟩ := ok_pair_inj h
    refine ⟨_, _, List.takeWhile_append_dropWhile.symm, rfl,
      .number ?_ (fun d hd ↦ List.mem_takeWhile_imp hd) head?_dropWhile⟩
    rw [startsNumber, Bool.or_eq_true] at hstart ⊢
    apply hstart.imp_right
    intro hpoint
    cases rest with
    | nil => simp at hpoint
    | cons d rest =>
      have hdigit : isDigitLike d = true := (Bool.and_eq_true_iff.1 hpoint).2
      rwa [List.takeWhile_cons_of_pos (by simp [isNumberChar, hdigit])]
  next hnumber =>
  split at h
  · next hquote =>
    split at h
    · next content count hcontent =>
      obtain ⟨rfl, rfl⟩ := ok_pair_inj h
      obtain ⟨body, after, rfl, rfl, hbody⟩ :=
        quotedContent?_sound (isQuote_ne_backslash hquote) hcontent
      exact ⟨body ++ [c], after, by simp, by simp, .text hquote hbody⟩
    · exact absurd h (by simp)
  split at h
  · next hstart =>
    obtain ⟨rfl, rfl⟩ := ok_pair_inj h
    refine ⟨_, _, List.takeWhile_append_dropWhile.symm, rfl,
      .name ?_ hstart (fun d hd ↦ List.mem_takeWhile_imp hd) head?_dropWhile⟩
    rw [startsNumber, Bool.not_eq_true, Bool.or_eq_false_iff] at hnumber
    exact hnumber.1
  split at h
  · next operator hoperator =>
    obtain ⟨rfl, rfl⟩ := ok_pair_inj h
    obtain ⟨d, hd, hdoubled⟩ := Option.bind_eq_some_iff.1 hoperator
    exact ⟨[d], rest.tail, (List.cons_head?_tail hd).symm, rfl, .doubled hdoubled⟩
  next hdoubled =>
  split at h
  · next lexeme' hlexeme =>
    obtain ⟨rfl, rfl⟩ := ok_pair_inj h
    exact ⟨[], rest, rfl, rfl,
      .single hlexeme (by simpa using hnumber) (Option.bind_eq_none_iff.1 hdoubled)⟩
  · exact absurd h (by simp)

theorem IsRead.source {c : Char} {source rest : List Char} {lexeme : Lexeme}
    (h : IsRead c source rest lexeme) : lexeme.Source (c :: source) := by
  cases h with
  | number =>
    have hsource := Lexeme.Source.number (String.ofList (c :: source))
    rwa [String.toList_ofList] at hsource
  | text hquote hbody => exact .text hquote hbody
  | name => exact .name _
  | @doubled _ _ operator hoperator =>
    have hsource := Lexeme.Source.operator operator
    rwa [doubledOperator?_sound hoperator] at hsource
  | single hlexeme => exact singleLexeme?_sound hlexeme

/-- A lexeme is read from its source, which is as long as the reader says. -/
theorem lexemeAt_sound {position length : ℕ} {c : Char} {rest : List Char} {lexeme : Lexeme}
    (h : lexemeAt position c rest = .ok (lexeme, length)) :
    ∃ source after, rest = source ++ after ∧ length = source.length + 1 ∧
      lexeme.Source (c :: source) := by
  obtain ⟨source, after, hrest, hlength, hread⟩ := isRead_of_lexemeAt h
  exact ⟨source, after, hrest, hlength, hread.source⟩

/-! ## Whole texts -/

/-- The tokens of a text that starts at a position, each of them read as far as it goes. -/
inductive Tokenizes : ℕ → List Char → List Token → Prop where
  | finish (position : ℕ) : Tokenizes position [] [⟨.finish, position⟩]
  | blank {position : ℕ} {c : Char} {rest : List Char} {tokens : List Token}
    (hblank : isBlank c = true) :
    Tokenizes (position + 1) rest tokens → Tokenizes position (c :: rest) tokens
  | token {position : ℕ} {c : Char} {source rest : List Char} {lexeme : Lexeme}
    {tokens : List Token} (hread : IsRead c source rest lexeme) :
    Tokenizes (position + (c :: source).length) rest tokens →
    Tokenizes position (c :: source ++ rest) (⟨lexeme, position⟩ :: tokens)

theorem tokenizes_of_tokensFrom {skip position : ℕ} {cs : List Char} {tokens : List Token}
    (hskip : skip ≤ cs.length) (h : tokensFrom skip position cs = .ok tokens) :
    Tokenizes (position + skip) (cs.drop skip) tokens := by
  induction skip, position, cs using tokensFrom.induct generalizing tokens with
  | case1 skip position =>
    obtain rfl := Nat.le_zero.1 hskip
    obtain rfl := Except.ok.inj h
    exact .finish position
  | case2 position c rest skip ih =>
    have hrest := ih (Nat.le_of_succ_le_succ hskip) h
    rwa [Nat.add_right_comm, Nat.add_assoc] at hrest
  | case3 position c rest hblank ih =>
    rw [tokensFrom, if_pos hblank] at h
    exact .blank hblank (ih (Nat.zero_le _) h)
  | case4 position c rest hblank ih =>
    rw [tokensFrom, if_neg hblank] at h
    obtain ⟨⟨lexeme, length⟩, hlexeme, hothers⟩ := exists_of_bind_eq_ok h
    obtain ⟨others, htokens, hresult⟩ := exists_of_bind_eq_ok hothers
    obtain rfl := Except.ok.inj hresult
    obtain ⟨source, after, rfl, rfl, hread⟩ := isRead_of_lexemeAt hlexeme
    have hrest := ih (source.length + 1) (by simp) htokens
    rw [Nat.add_sub_cancel, List.drop_left, Nat.add_assoc, Nat.add_comm 1] at hrest
    exact .token hread hrest

theorem Tokenizes.covers {position : ℕ} {cs : List Char} {tokens : List Token}
    (h : Tokenizes position cs tokens) : Covers position cs tokens := by
  induction h with
  | finish position => exact .finish position
  | blank hblank _ ih => exact .blank hblank ih
  | token hread _ ih => exact .token hread.source (List.cons_ne_nil _ _) ih

/-- The tokens of a text cover what is left of it after the characters that are passed over. -/
theorem tokensFrom_covers {skip position : ℕ} {cs : List Char} {tokens : List Token}
    (hskip : skip ≤ cs.length) (h : tokensFrom skip position cs = .ok tokens) :
    Covers (position + skip) (cs.drop skip) tokens :=
  (tokenizes_of_tokensFrom hskip h).covers

theorem Lexeme.Source.ne_finish {lexeme : Lexeme} {source : List Char}
    (h : lexeme.Source source) : lexeme ≠ .finish := by
  rintro rfl
  cases h

namespace Covers

variable {position : ℕ} {cs : List Char} {tokens : List Token}

/-- The end stands last, after the last character, and nowhere else. -/
theorem exists_eq_concat (h : Covers position cs tokens) :
    ∃ front, tokens = front ++ [⟨.finish, position + cs.length⟩] ∧
      ∀ token ∈ front, token.lexeme ≠ .finish := by
  induction h with
  | finish position => exact ⟨[], rfl, by simp⟩
  | @blank position c rest tokens _ _ ih =>
    obtain ⟨front, rfl, hfront⟩ := ih
    exact ⟨front, by rw [List.length_cons, Nat.add_right_comm, Nat.add_assoc], hfront⟩
  | @token position lexeme source rest tokens hsource _ _ ih =>
    obtain ⟨front, rfl, hfront⟩ := ih
    refine ⟨⟨lexeme, position⟩ :: front, ?_, List.forall_mem_cons.2 ⟨hsource.ne_finish, hfront⟩⟩
    rw [List.length_append, Nat.add_assoc, List.cons_append]

/-- There is a first token, and nothing but blanks before it. -/
theorem exists_eq_cons (h : Covers position cs tokens) :
    ∃ blanks after token others, tokens = token :: others ∧ cs = blanks ++ after ∧
      token.position = position + blanks.length ∧ ∀ c ∈ blanks, isBlank c = true := by
  induction h with
  | finish position => exact ⟨[], [], _, [], rfl, rfl, rfl, by simp⟩
  | @blank position c rest tokens hblank _ ih =>
    obtain ⟨blanks, after, token, others, rfl, rfl, hposition, hblanks⟩ := ih
    refine ⟨c :: blanks, after, token, others, rfl, rfl, ?_,
      List.forall_mem_cons.2 ⟨hblank, hblanks⟩⟩
    rw [hposition, List.length_cons, Nat.add_assoc, Nat.add_comm 1]
  | token => exact ⟨[], _, _, _, rfl, rfl, rfl, by simp⟩

/-- Each token but the end has a character of its own. -/
theorem length_le (h : Covers position cs tokens) : tokens.length ≤ cs.length + 1 := by
  induction h with
  | finish => exact le_rfl
  | blank _ _ ih => exact ih.trans (Nat.le_succ _)
  | token _ hne _ ih =>
    have hpos := List.length_pos_of_ne_nil hne
    rw [List.length_cons, List.length_append]
    omega

theorem position_le (h : Covers position cs tokens) :
    ∀ token ∈ tokens, position ≤ token.position := by
  induction h with
  | finish position => simp
  | blank _ _ ih => exact fun token htoken ↦ Nat.le_of_succ_le (ih token htoken)
  | token _ _ _ ih =>
    refine List.forall_mem_cons.2 ⟨le_rfl, fun token htoken ↦ ?_⟩
    exact (Nat.le_add_right _ _).trans (ih token htoken)

theorem pairwise_position_lt (h : Covers position cs tokens) :
    tokens.Pairwise (·.position < ·.position) := by
  induction h with
  | finish position => simp
  | blank _ _ ih => exact ih
  | token _ hne hrest ih =>
    refine List.pairwise_cons.2 ⟨fun token htoken ↦ ?_, ih⟩
    have hlength := List.length_pos_of_ne_nil hne
    have hposition := hrest.position_le token htoken
    dsimp only
    omega

/-- Of two tokens in a row, the first has its source at its position, and blanks fill the text up to
the position of the second. -/
theorem exists_source (h : Covers position cs tokens) {before after : List Token}
    {token next : Token} (htokens : tokens = before ++ token :: next :: after) :
    ∃ front source blanks back, cs = front ++ (source ++ (blanks ++ back)) ∧
      token.position = position + front.length ∧
      next.position = token.position + source.length + blanks.length ∧
      token.lexeme.Source source ∧ source ≠ [] ∧ ∀ c ∈ blanks, isBlank c = true := by
  induction h generalizing before with
  | finish position =>
    have hlength := congrArg List.length htokens
    simp at hlength
    omega
  | @blank position c rest tokens _ _ ih =>
    obtain ⟨front, source, blanks, back, rfl, hposition, hsource⟩ := ih htokens
    refine ⟨c :: front, source, blanks, back, rfl, ?_, hsource⟩
    rw [hposition, List.length_cons, Nat.add_assoc, Nat.add_comm 1]
  | @token position lexeme source rest tokens hsource hne hrest ih =>
    rcases before with _ | ⟨first, before⟩
    · obtain ⟨rfl, rfl⟩ := List.cons.inj htokens
      obtain ⟨blanks, back, next', others, hnext, rfl, hposition, hblanks⟩ := hrest.exists_eq_cons
      obtain ⟨rfl, rfl⟩ := List.cons.inj hnext
      exact ⟨[], source, blanks, back, rfl, rfl, hposition, hsource, hne, hblanks⟩
    · obtain ⟨-, htail⟩ := List.cons.inj htokens
      obtain ⟨front, source', blanks, back, rfl, hposition, hrest⟩ := ih htail
      refine ⟨source ++ front, source', blanks, back, by rw [List.append_assoc], ?_, hrest⟩
      rw [hposition, List.length_append, Nat.add_assoc]

end Covers

/-- The tokens of a text end with its only end, at the length of the text; their positions ascend;
blanks stand before the first one; and each other token has its source at its position, after which
there are blanks up to the next token. -/
theorem tokens_cover_text {s : String} {tokens : List Token} (h : tokenize s = .ok tokens) :
    (∃ front, tokens = front ++ [⟨.finish, s.length⟩] ∧
      ∀ token ∈ front, token.lexeme ≠ .finish) ∧
    tokens.Pairwise (·.position < ·.position) ∧
    (∀ c ∈ s.toList.take (headToken tokens).position, isBlank c = true) ∧
    ∀ before token next after, tokens = before ++ token :: next :: after →
      ∃ stop, token.position < stop ∧ stop ≤ next.position ∧
        token.lexeme.Source (s.toList.extract token.position stop) ∧
        ∀ c ∈ s.toList.extract stop next.position, isBlank c = true := by
  have hcovers : Covers 0 s.toList tokens := tokensFrom_covers (Nat.zero_le _) h
  refine ⟨?_, hcovers.pairwise_position_lt, ?_, ?_⟩
  · obtain ⟨front, htokens, hfront⟩ := hcovers.exists_eq_concat
    rw [Nat.zero_add, String.length_toList] at htokens
    exact ⟨front, htokens, hfront⟩
  · obtain ⟨blanks, rest, token, others, rfl, htext, hposition, hblanks⟩ := hcovers.exists_eq_cons
    rw [Nat.zero_add] at hposition
    rwa [htext, headToken, hposition, List.take_left]
  · intro before token next after htokens
    obtain ⟨front, source, blanks, back, htext, hposition, hnext, hsource, hne, hblanks⟩ :=
      hcovers.exists_source htokens
    rw [Nat.zero_add] at hposition
    have hpositive := List.length_pos_of_ne_nil hne
    refine ⟨token.position + source.length, by omega, by omega, ?_, ?_⟩
    · rw [htext, hposition, List.extract_eq_take_drop, List.drop_left, Nat.add_sub_cancel_left,
        List.take_left]
      exact hsource
    · rw [htext, hnext, hposition, List.extract_eq_take_drop, List.drop_length_add_append,
        List.drop_left, Nat.add_sub_cancel_left, List.take_left]
      exact hblanks

/-- The doubled symbol, a text with an escaped quote and blanks at both ends. -/
theorem tokens_cover_text_quoted :
    let s := " rate&&'it\\'s' "
    let tokens : List Token :=
      [⟨.name "RATE", 1⟩, ⟨.operator .and, 5⟩, ⟨.text "it's", 7⟩, ⟨.finish, 15⟩]
    tokenize s = .ok tokens ∧
    (∃ front, tokens = front ++ [⟨.finish, s.length⟩] ∧
      ∀ token ∈ front, token.lexeme ≠ .finish) ∧
    tokens.Pairwise (·.position < ·.position) ∧
    (∀ c ∈ s.toList.take (headToken tokens).position, isBlank c = true) ∧
    ∀ before token next after, tokens = before ++ token :: next :: after →
      ∃ stop, token.position < stop ∧ stop ≤ next.position ∧
        token.lexeme.Source (s.toList.extract token.position stop) ∧
        ∀ c ∈ s.toList.extract stop next.position, isBlank c = true := by
  intro s tokens
  have htokens : tokenize s = .ok tokens := by decide +kernel
  exact ⟨htokens, tokens_cover_text htokens⟩

end PayFormula

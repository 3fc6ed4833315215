import Mathlib
import PayFormula.Proofs.Formula.Boundaries
import PayFormula.Proofs.Formula.Lookahead

/-!
# Layout and Letter Case

The tokens of a text fix it up to layout and letter case.  Blanks may be put wherever a token begins
or ends, those that are there may be others, and letters outside of quoted texts may be large or
small: the tokens of the new text hold the same lexemes, and so it is the same formula.
-/

namespace PayFormula

open Text

/-! ## Sources do not overlap -/

/-- What is escaped ends where its quote does. -/
theorem Escapes.eq_of_append {quote : Char} (hquote : quote ≠ '\\')
    {body body' content rest rest' : List Char} (h : Escapes quote body content)
    (h' : Escapes quote body' content) (hwhole : body ++ quote :: rest = body' ++ quote :: rest') :
    body = body' := by
  have hread := h.quotedContent?_eq hquote rest
  rw [hwhole, h'.quotedContent?_eq hquote rest', Option.some.injEq, Prod.mk.injEq] at hread
  exact (List.append_inj hwhole (Nat.succ.inj hread.2).symm).1

theorem eq_nil_of_upper_append {front back : List Char}
    (h : upper (String.ofList (front ++ back)) = upper (String.ofList front)) : back = [] := by
  rw [upper, upper, String.toList_ofList, String.toList_ofList, String.ofList_inj,
    List.flatMap_append, List.append_right_eq_self, List.flatMap_eq_nil_iff] at h
  exact List.eq_nil_iff_forall_not_mem.2 fun c hc ↦ upperChar_ne_nil c (h c hc)

namespace Lexeme.Source

variable {source : List Char}

theorem exists_text {s : String} (h : (Lexeme.text s).Source source) :
    ∃ quote body content, s = String.ofList content ∧ source = quote :: (body ++ [quote]) ∧
      isQuote quote = true ∧ Escapes quote body content := by
  cases h with
  | text hquote hbody => exact ⟨_, _, _, rfl, rfl, hquote, hbody⟩

theorem eq_upper {name : String} (h : (Lexeme.name name).Source source) :
    name = upper (String.ofList source) := by
  cases h
  rfl

/-- A text begins with one source of a lexeme at most. -/
theorem eq_of_append {lexeme : Lexeme} {source' rest rest' : List Char}
    (h : lexeme.Source source) (h' : lexeme.Source source')
    (hwhole : source ++ rest = source' ++ rest') : source = source' := by
  cases lexeme with
  | text s =>
    obtain ⟨quote, body, content, hs, rfl, hquote, hbody⟩ := h.exists_text
    obtain ⟨quote', body', content', hs', rfl, hquote', hbody'⟩ := h'.exists_text
    rw [List.cons_append, List.cons_append] at hwhole
    obtain ⟨rfl, hrest⟩ := List.cons.inj hwhole
    obtain rfl : content = content' := String.ofList_injective (hs.symm.trans hs')
    rw [List.append_assoc, List.append_assoc] at hrest
    rw [hbody.eq_of_append (isQuote_ne_backslash hquote) hbody' hrest]
  | name name =>
    have hname := h.eq_upper
    rw [h'.eq_upper] at hname
    rcases List.append_eq_append_iff.1 hwhole with ⟨more, rfl, -⟩ | ⟨more, rfl, -⟩
    · rw [eq_nil_of_upper_append hname, List.append_nil]
    · rw [eq_nil_of_upper_append hname.symm, List.append_nil]
  | number | operator | leftParen | rightParen | comma | dot =>
    cases h
    cases h'
    rfl
  | finish => cases h

end Lexeme.Source

/-! ## New layouts -/

/-- The characters hold the tokens from the position on, and become others: a run of blanks, which
may be none, becomes another, which is none only if there were none; and a token is written in other
letters, unless it is a quoted text. -/
inductive Relaid : ℕ → List Char → List Token → List Char → Prop where
  | finish (position : ℕ) : Relaid position [] [⟨.finish, position⟩] []
  | blanks {position : ℕ} {old new rest rest' : List Char} {tokens : List Token}
    (hold : ∀ c ∈ old, isBlank c = true) (hnew : ∀ c ∈ new, isBlank c = true)
    (hkept : new = [] → old = []) :
    Relaid (position + old.length) rest tokens rest' →
    Relaid position (old ++ rest) tokens (new ++ rest')
  | token {position : ℕ} {lexeme : Lexeme} {source source' rest rest' : List Char}
    {tokens : List Token} (hsource : lexeme.Source source) (hne : source ≠ [])
    (hcase : lexeme.Recases source source') :
    Relaid (position + source.length) rest tokens rest' →
    Relaid position (source ++ rest) (⟨lexeme, position⟩ :: tokens) (source' ++ rest')

/-- Every text is a layout of its own. -/
theorem Covers.relaid {position : ℕ} {cs : List Char} {tokens : List Token}
    (h : Covers position cs tokens) : Relaid position cs tokens cs := by
  induction h with
  | finish position => exact .finish position
  | @blank position c rest tokens hblank _ ih =>
    have hblanks : ∀ d ∈ [c], isBlank d = true := by simpa using hblank
    exact .blanks hblanks hblanks id ih
  | token hsource hne _ ih => exact .token hsource hne (.refl _ _) ih

namespace Relaid

variable {position : ℕ} {cs cs' : List Char} {tokens : List Token}

/-- New blanks end what stands before them, and letters go on as they did. -/
theorem followsAs (h : Relaid position cs tokens cs') : FollowsAs cs cs' := by
  induction h with
  | finish position => exact .of_append [] []
  | @blanks _ old new _ _ _ _ hnew hkept _ ih =>
    cases new with
    | nil => rwa [hkept rfl]
    | cons c new =>
      intro d hd
      obtain rfl : c = d := Option.some.inj hd
      exact .inl (endsTokens_of_isBlank (hnew c List.mem_cons_self))
  | @token _ _ source source' _ _ _ _ hne hcase _ _ =>
    cases hcase.1 with
    | nil => exact absurd rfl hne
    | @cons c d _ _ hhead _ =>
      intro e he
      obtain rfl : d = e := Option.some.inj he
      exact .inr ⟨c, rfl, hhead⟩

/-- The lexemes are read again from the new layout, wherever it begins. -/
theorem exists_tokenizes (h : Relaid position cs tokens cs')
    (htokens : Tokenizes position cs tokens) (position' : ℕ) :
    ∃ tokens', Tokenizes position' cs' tokens' ∧
      tokens'.map Token.lexeme = tokens.map Token.lexeme := by
  induction h generalizing position' with
  | finish => exact ⟨_, .finish position', rfl⟩
  | @blanks position old new rest rest' tokens hold hnew _ _ ih =>
    obtain ⟨tokens', htokens', hlexemes⟩ :=
      ih ((tokenizes_blanks_iff hold).1 htokens) (position' + new.length)
    exact ⟨tokens', (tokenizes_blanks_iff hnew).2 htokens', hlexemes⟩
  | @token position lexeme source source' rest rest' tokens hsource hne hcase hrest ih =>
    obtain ⟨c, run, after, hwhole, hread, hothers⟩ := htokens.exists_isRead hsource.ne_finish
    obtain rfl := hsource.eq_of_append hread.source hwhole
    obtain rfl := List.append_cancel_left hwhole
    obtain ⟨tokens', htokens', hlexemes⟩ := ih hothers (position' + source'.length)
    obtain ⟨c', run', hfirst, hcase', rfl⟩ := List.forall₂_cons_left_iff.1 hcase.1
    have hread' := hread.recase hcase hrest.followsAs
    refine ⟨⟨lexeme, position'⟩ :: tokens', .token hread' htokens', ?_⟩
    rw [List.map_cons, List.map_cons, hlexemes]

end Relaid

/-- Whatever layout and letter case a text is given, its tokens hold the same lexemes and are the
same formula. -/
theorem layout_and_case_do_not_matter {s t : String} {tokens : List Token}
    (h : tokenize s = .ok tokens) (hlayout : Relaid 0 s.toList tokens t.toList) :
    ∃ tokens', tokenize t = .ok tokens' ∧
      tokens'.map Token.lexeme = tokens.map Token.lexeme ∧
      ∀ (cap : DepthCap) (strict : Bool) (formula : Formula),
        parse cap strict tokens' = .ok formula ↔ parse cap strict tokens = .ok formula := by
  obtain ⟨tokens', htokens', hlexemes⟩ := hlayout.exists_tokenizes (tokenizes_iff.2 h) 0
  exact ⟨tokens', tokenizes_iff.1 htokens', hlexemes,
    fun _ _ _ ↦ parse_eq_ok_iff_of_lexemes hlexemes⟩

/-- A name in capitals and new blanks around an operator, with a text as it was. -/
theorem layout_and_case_do_not_matter_comparison :
    let tokens : List Token :=
      [⟨.name "X", 0⟩, ⟨.operator .equal, 1⟩, ⟨.text "x", 3⟩, ⟨.finish, 6⟩]
    tokenize "x=='x'" = .ok tokens ∧ Relaid 0 "x=='x'".toList tokens "X\t== 'x'".toList ∧
      ∃ tokens', tokenize "X\t== 'x'" = .ok tokens' ∧
        tokens'.map Token.lexeme = tokens.map Token.lexeme ∧
        ∀ (cap : DepthCap) (strict : Bool) (formula : Formula),
          parse cap strict tokens' = .ok formula ↔ parse cap strict tokens = .ok formula := by
  intro tokens
  have htokens : tokenize "x=='x'" = .ok tokens := by decide +kernel
  have hname : (Lexeme.name "X").Source ['x'] := by
    have hsource := Lexeme.Source.name ['x']
    have hupper : upper (String.ofList ['x']) = "X" := by decide +kernel
    rwa [hupper] at hsource
  have hcase : (Lexeme.name "X").Recases ['x'] ['X'] :=
    ⟨.cons (.inr ⟨rfl, .inl rfl⟩) .nil, by simp [Lexeme.kind]⟩
  have htext : Covers 3 "'x'".toList [⟨.text "x", 3⟩, ⟨.finish, 6⟩] := by
    have hread : tokensFrom 0 3 "'x'".toList = .ok [⟨.text "x", 3⟩, ⟨.finish, 6⟩] := by
      decide +kernel
    exact (tokenizes_iff.2 hread).covers
  have hblank (c : Char) (hc : isBlank c = true) : ∀ d ∈ [c], isBlank d = true := by simpa using hc
  have hlayout : Relaid 0 (['x'] ++ ([] ++ (['=', '='] ++ ([] ++ "'x'".toList)))) tokens
      (['X'] ++ (['\t'] ++ (['=', '='] ++ ([' '] ++ "'x'".toList)))) :=
    .token hname (by simp) hcase <|
      .blanks (by simp) (hblank '\t' (by decide +kernel)) (fun _ ↦ rfl) <|
      .token (.operator .equal) (by simp) (.refl _ _) <|
      .blanks (by simp) (hblank ' ' (by decide +kernel)) (fun _ ↦ rfl) htext.relaid
  exact ⟨htokens, hlayout, layout_and_case_do_not_matter htokens hlayout⟩

end PayFormula

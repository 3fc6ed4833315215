import Mathlib
import PayFormula.Proofs.Formula.Sources
import PayFormula.Proofs.Text.Blank
import PayFormula.Proofs.Text.Case

/-!
# Where Tokens End

A token is the longest one that its first character begins, so the characters after it matter only
in whether the first of them goes on with it.  A blank or a quote goes on with nothing.  Hence a
token is read again, in whatever letter case, wherever what follows begins with such a character or
as what followed before did.
-/

namespace PayFormula

open Text

/-! ## Symbols -/

/-- Neither a blank nor what begins a number, a text or a name. -/
def isSymbolic (c : Char) : Bool :=
  !isBlank c && !isDigitLike c && !isQuote c && !isNameStart c

theorem isSymbolic_iff (c : Char) :
    isSymbolic c = true ↔
      isBlank c = false ∧ isDigitLike c = false ∧ isQuote c = false ∧ isNameStart c = false := by
  simp only [isSymbolic, Bool.and_eq_true, Bool.not_eq_true', and_assoc]

theorem isSymbolic_of_singleLexeme? {c : Char} {lexeme : Lexeme}
    (h : singleLexeme? c = some lexeme) : isSymbolic c = true := by
  unfold singleLexeme? at h
  split at h <;> cases h
  all_goals decide +kernel

theorem isSymbolic_of_doubledOperator? {c d : Char} {operator : Operator}
    (h : doubledOperator? c d = some operator) : isSymbolic c = true ∧ (c == '.') = false := by
  unfold doubledOperator? at h
  split at h <;> cases h
  all_goals decide +kernel

/-- The second half of a doubled operator is a symbol too. -/
theorem isSymbolic_of_doubledOperator?_right {c d : Char} {operator : Operator}
    (h : doubledOperator? c d = some operator) : isSymbolic d = true := by
  unfold doubledOperator? at h
  split at h <;> cases h
  all_goals decide +kernel

/-- What does not begin a number, a text or a name is an operator or a mark. -/
theorem lexemeAt_of_isSymbolic {c : Char} {rest : List Char} (hsymbolic : isSymbolic c = true)
    (hnumber : startsNumber c rest = false) (position : ℕ) :
    lexemeAt position c rest =
      match rest.head?.bind (doubledOperator? c) with
      | some operator => .ok (.operator operator, 2)
      | none =>
        match singleLexeme? c with
        | some lexeme => .ok (lexeme, 1)
        | none => .error (.unexpectedCharacter c position) := by
  obtain ⟨-, -, hquote, hname⟩ := (isSymbolic_iff c).1 hsymbolic
  have hnotNumber : ¬startsNumber c rest = true := by simp [hnumber]
  have hnotQuote : ¬isQuote c = true := by simp [hquote]
  have hnotName : ¬isNameStart c = true := by simp [hname]
  exact (if_neg hnotNumber).trans ((if_neg hnotQuote).trans (if_neg hnotName))

/-! ## Single tokens -/

theorem takeWhile_append_of_stop {p : Char → Bool} {run rest : List Char}
    (hrun : ∀ c ∈ run, p c = true) (hrest : ∀ c ∈ rest.head?, p c = false) :
    (run ++ rest).takeWhile p = run := by
  have hstop : rest.takeWhile p = [] := by
    cases rest with
    | nil => rfl
    | cons c rest => exact List.takeWhile_cons_of_neg (by simp [hrest c rfl])
  rw [List.takeWhile_append_of_pos hrun, hstop, List.append_nil]

/-- What stands between quotes is read up to the closing one. -/
theorem Escapes.quotedContent?_eq {quote : Char} {body content : List Char}
    (h : Escapes quote body content) (hquote : quote ≠ '\\') (rest : List Char) :
    quotedContent? quote (body ++ quote :: rest) = some (content, body.length + 1) := by
  induction h with
  | nil => exact quotedContent?_quote rest
  | plain hc hslash _ ih =>
    rw [List.cons_append, quotedContent?_plain hc hslash, ih]
    rfl
  | escaped c _ ih =>
    rw [List.cons_append, List.cons_append, quotedContent?_escaped hquote, ih]
    rfl

theorem isQuote_iff {c : Char} : isQuote c = true ↔ c = '\'' ∨ c = '"' := by
  simp [isQuote]

theorem isDigitLike_of_isQuote {c : Char} (h : isQuote c = true) : isDigitLike c = false := by
  rcases isQuote_iff.1 h with rfl | rfl <;> decide +kernel

theorem isNumberChar_of_startsNumber {c : Char} {rest : List Char}
    (h : startsNumber c rest = true) : isNumberChar c = true := by
  rw [startsNumber, Bool.or_eq_true, Bool.and_eq_true] at h
  rw [isNumberChar, Bool.or_eq_true]
  exact h.imp_right And.left

theorem not_point_of_isQuote {c : Char} (h : isQuote c = true) : (c == '.') = false := by
  rcases isQuote_iff.1 h with rfl | rfl <;> rfl

theorem not_point_of_isNameStart {c : Char} (h : isNameStart c = true) : (c == '.') = false := by
  rw [beq_eq_false_iff_ne]
  rintro rfl
  exact absurd h (by decide +kernel)

theorem isQuote_of_isNameStart {c : Char} (h : isNameStart c = true) : isQuote c = false := by
  rw [← Bool.not_eq_true]
  intro hquote
  rcases isQuote_iff.1 hquote with rfl | rfl <;> exact absurd h (by decide +kernel)

theorem isNameChar_of_isNameStart {c : Char} (h : isNameStart c = true) : isNameChar c = true := by
  rw [isNameStart, Bool.or_eq_true] at h
  rw [isNameChar, isWordChar]
  rcases h with h | h <;> simp [h]

theorem isBlank_of_isNameStart {c : Char} (h : isNameStart c = true) : isBlank c = false := by
  rw [← Bool.not_eq_true]
  intro hblank
  have hchar := isNameChar_of_isNameStart h
  rw [isNameChar_of_isBlank hblank] at hchar
  exact Bool.noConfusion hchar

namespace IsRead

variable {c : Char} {source rest : List Char} {lexeme : Lexeme}

theorem isBlank_eq (h : IsRead c source rest lexeme) : isBlank c = false := by
  cases h with
  | number hstart => exact isBlank_of_isNumberChar (isNumberChar_of_startsNumber hstart)
  | text hquote => rcases isQuote_iff.1 hquote with rfl | rfl <;> decide +kernel
  | name _ hstart => exact isBlank_of_isNameStart hstart
  | doubled hoperator =>
    exact ((isSymbolic_iff c).1 (isSymbolic_of_doubledOperator? hoperator).1).1
  | single hlexeme => exact ((isSymbolic_iff c).1 (isSymbolic_of_singleLexeme? hlexeme)).1

theorem lexemeAt_eq (h : IsRead c source rest lexeme) (position : ℕ) :
    lexemeAt position c (source ++ rest) = .ok (lexeme, source.length + 1) := by
  cases h with
  | number hstart hrun hrest =>
    have hnumber : startsNumber c (source ++ rest) = true := by
      rw [startsNumber, Bool.or_eq_true] at hstart ⊢
      apply hstart.imp_right
      intro hpoint
      cases source with
      | nil => simp at hpoint
      | cons d source => exact hpoint
    rw [lexemeAt, if_pos hnumber]
    dsimp only
    rw [takeWhile_append_of_stop hrun hrest, List.length_cons]
  | @text body _ _ hquote hbody =>
    have hnumber : startsNumber c (body ++ [c] ++ rest) = false := by
      simp [startsNumber, isDigitLike_of_isQuote hquote, not_point_of_isQuote hquote]
    rw [lexemeAt, if_neg (ne_true_of_eq_false hnumber), if_pos hquote, List.append_assoc,
      List.singleton_append, hbody.quotedContent?_eq (isQuote_ne_backslash hquote)]
    simp
  | name hdigit hstart hrun hrest =>
    have hnumber : startsNumber c (source ++ rest) = false := by
      simp [startsNumber, hdigit, not_point_of_isNameStart hstart]
    have hquote := isQuote_of_isNameStart hstart
    rw [lexemeAt, if_neg (ne_true_of_eq_false hnumber), if_neg (ne_true_of_eq_false hquote),
      if_pos hstart]
    dsimp only
    rw [takeWhile_append_of_stop hrun hrest, List.length_cons]
  | @doubled d _ _ hoperator =>
    obtain ⟨hsymbolic, hpoint⟩ := isSymbolic_of_doubledOperator? hoperator
    obtain ⟨-, hdigit, -, -⟩ := (isSymbolic_iff c).1 hsymbolic
    have hnumber : startsNumber c ([d] ++ rest) = false := by
      simp [startsNumber, hdigit, hpoint]
    rw [lexemeAt_of_isSymbolic hsymbolic hnumber, List.singleton_append, List.head?_cons,
      Option.bind_some, hoperator]
    rfl
  | single hlexeme hnumber hrest =>
    have hsymbolic := isSymbolic_of_singleLexeme? hlexeme
    have hnone : rest.head?.bind (doubledOperator? c) = none := Option.bind_eq_none_iff.2 hrest
    rw [List.nil_append, lexemeAt_of_isSymbolic hsymbolic hnumber, hnone]
    dsimp only
    rw [hlexeme]
    rfl

end IsRead

/-! ## What follows a token -/

/-- No token before the character goes on with it. -/
structure EndsTokens (c : Char) : Prop where
  number : isNumberChar c = false
  name : isNameChar c = false
  symbol : isSymbolic c = false

theorem endsTokens_of_isBlank {c : Char} (h : isBlank c = true) : EndsTokens c where
  number := by
    rw [← Bool.not_eq_true]
    intro hnumber
    rw [isBlank_of_isNumberChar hnumber] at h
    exact Bool.noConfusion h
  name := isNameChar_of_isBlank h
  symbol := by simp [isSymbolic, h]

theorem endsTokens_of_isQuote {c : Char} (h : isQuote c = true) : EndsTokens c where
  number := by simp [isNumberChar, isDigitLike_of_isQuote h, not_point_of_isQuote h]
  name := by rcases isQuote_iff.1 h with rfl | rfl <;> decide +kernel
  symbol := by simp [isSymbolic, h]

/-! ## Letter case -/

/-- The same character, or an ASCII letter in upper or lower case. -/
def Recased (c d : Char) : Prop := d = c ∨ c.isAlpha = true ∧ (d = c.toUpper ∨ d = c.toLower)

theorem toNat_lt_of_isUpper {c : Char} (h : c.isUpper = true) : c.toNat < 128 := by
  have hband : 65 ≤ c.toNat ∧ c.toNat ≤ 90 := by
    simpa [Char.isUpper, UInt32.le_iff_toNat_le] using h
  omega

theorem toNat_lt_of_isAlpha {c : Char} (h : c.isAlpha = true) : c.toNat < 128 := by
  rcases Bool.or_eq_true_iff.1 h with hupper | hlower
  · exact toNat_lt_of_isUpper hupper
  · have hband : 97 ≤ c.toNat ∧ c.toNat ≤ 122 := by
      simpa [Char.isLower, UInt32.le_iff_toNat_le] using hlower
    omega

/-- An ASCII letter begins names and belongs to no number. -/
theorem isNameStart_of_isAlpha {c : Char} (h : c.isAlpha = true) :
    isNameStart c = true ∧ isNumberChar c = false :=
  forall_ascii (p := fun c ↦ c.isAlpha = true → isNameStart c = true ∧ isNumberChar c = false)
    (by decide +kernel) (toNat_lt_of_isAlpha h) h

theorem isDigitLike_of_isNumberChar {c : Char} (h : isNumberChar c = false) :
    isDigitLike c = false := by
  rw [isNumberChar, Bool.or_eq_false_iff] at h
  exact h.1

theorem upperChar_toUpper {c : Char} (h : c.isAlpha = true) : upperChar c.toUpper = upperChar c :=
  forall_ascii (p := fun c ↦ c.isAlpha = true → upperChar c.toUpper = upperChar c)
    (by decide +kernel) (toNat_lt_of_isAlpha h) h

theorem startsNumber_eq_false_iff {c : Char} {rest : List Char} :
    startsNumber c rest = false ↔
      isDigitLike c = false ∧ (c = '.' → ∀ d ∈ rest.head?, isDigitLike d = false) := by
  cases rest <;> simp [startsNumber]

theorem isSymbolic_of_isNameStart {c : Char} (h : isNameStart c = true) : isSymbolic c = false := by
  simp [isSymbolic, h]

namespace Recased

variable {c d : Char}

theorem refl (c : Char) : Recased c c := .inl rfl

theorem eq_or_isAlpha (h : Recased c d) : d = c ∨ c.isAlpha = true ∧ d.isAlpha = true := by
  refine h.imp_right ?_
  rintro ⟨halpha, rfl | rfl⟩
  · exact ⟨halpha, by rwa [Char.isAlpha_toUpper_eq_isAlpha]⟩
  · exact ⟨halpha, by rwa [Char.isAlpha_toLower_eq_isAlpha]⟩

theorem upperChar_eq (h : Recased c d) : upperChar d = upperChar c := by
  rcases h with rfl | ⟨halpha, rfl | rfl⟩
  · rfl
  · exact upperChar_toUpper halpha
  · have hlower : c.toLower.isAlpha = true := by rwa [Char.isAlpha_toLower_eq_isAlpha]
    rw [← upperChar_toUpper hlower, Char.toUpper_toLower_eq_toUpper, upperChar_toUpper halpha]

/-- Two letters are alike to every property that holds of letters. -/
theorem eq_of_isAlpha {p : Char → Bool} {b : Bool} (hp : ∀ e : Char, e.isAlpha = true → p e = b)
    (h : Recased c d) : p d = p c := by
  rcases h.eq_or_isAlpha with rfl | ⟨hc, hd⟩
  · rfl
  · rw [hp c hc, hp d hd]

theorem isNumberChar_eq (h : Recased c d) : isNumberChar d = isNumberChar c :=
  h.eq_of_isAlpha fun _ he ↦ (isNameStart_of_isAlpha he).2

theorem isDigitLike_eq (h : Recased c d) : isDigitLike d = isDigitLike c :=
  h.eq_of_isAlpha fun _ he ↦ isDigitLike_of_isNumberChar (isNameStart_of_isAlpha he).2

theorem isNameStart_eq (h : Recased c d) : isNameStart d = isNameStart c :=
  h.eq_of_isAlpha fun _ he ↦ (isNameStart_of_isAlpha he).1

theorem isNameChar_eq (h : Recased c d) : isNameChar d = isNameChar c :=
  h.eq_of_isAlpha fun _ he ↦ isNameChar_of_isNameStart (isNameStart_of_isAlpha he).1

theorem isSymbolic_eq (h : Recased c d) : isSymbolic d = isSymbolic c :=
  h.eq_of_isAlpha fun _ he ↦ isSymbolic_of_isNameStart (isNameStart_of_isAlpha he).1

/-- Only a letter has two cases. -/
theorem eq_self (h : Recased c d) (hc : isNumberChar c = true ∨ isSymbolic c = true) : d = c := by
  refine h.eq_or_isAlpha.resolve_right fun halpha ↦ ?_
  obtain ⟨hstart, hnumber⟩ := isNameStart_of_isAlpha halpha.1
  rw [hnumber, isSymbolic_of_isNameStart hstart] at hc
  exact absurd hc (by decide)

end Recased

theorem isNameChar_of_recased {cs ds : List Char} (h : List.Forall₂ Recased cs ds)
    (hcs : ∀ c ∈ cs, isNameChar c = true) : ∀ d ∈ ds, isNameChar d = true := by
  induction h with
  | nil => simp
  | cons hcase _ ih =>
    rw [List.forall_mem_cons] at hcs ⊢
    exact ⟨hcase.isNameChar_eq.trans hcs.1, ih hcs.2⟩

/-- Nothing but letters has two cases. -/
theorem eq_of_recased {cs ds : List Char} (h : List.Forall₂ Recased cs ds)
    (hcs : ∀ c ∈ cs, isNumberChar c = true ∨ isSymbolic c = true) : ds = cs := by
  induction h with
  | nil => rfl
  | cons hcase _ ih =>
    rw [List.forall_mem_cons] at hcs
    rw [hcase.eq_self hcs.1, ih hcs.2]

theorem upper_eq_of_recased {cs ds : List Char} (h : List.Forall₂ Recased cs ds) :
    upper (String.ofList ds) = upper (String.ofList cs) := by
  rw [upper, upper, String.toList_ofList, String.toList_ofList]
  congr 1
  induction h with
  | nil => rfl
  | cons hcase _ ih => rw [List.flatMap_cons, List.flatMap_cons, hcase.upperChar_eq, ih]

/-! ## Reading again -/

/-- Whatever follows now goes on with a token before it only if what followed then did. -/
def FollowsAs (old new : List Char) : Prop :=
  ∀ d ∈ new.head?, EndsTokens d ∨ ∃ c ∈ old.head?, Recased c d

namespace FollowsAs

variable {old new : List Char}

/-- What the next character did not have, it does not have now. -/
theorem head?_eq_false (h : FollowsAs old new) {p : Char → Bool}
    (hends : ∀ c, EndsTokens c → p c = false) (hcase : ∀ {c d}, Recased c d → p d = p c)
    (hold : ∀ c ∈ old.head?, p c = false) : ∀ d ∈ new.head?, p d = false := by
  intro d hd
  rcases h d hd with hd | ⟨c, hc, hrecased⟩
  · exact hends d hd
  · rw [hcase hrecased, hold c hc]

theorem startsNumber_eq_false (h : FollowsAs old new) {c : Char}
    (hold : startsNumber c old = false) : startsNumber c new = false := by
  rw [startsNumber_eq_false_iff] at hold ⊢
  refine hold.imp_right fun hpoint hc ↦ ?_
  exact h.head?_eq_false (fun _ he ↦ isDigitLike_of_isNumberChar he.number)
    Recased.isDigitLike_eq (hpoint hc)

theorem doubledOperator?_eq_none (h : FollowsAs old new) {c : Char}
    (hold : ∀ d ∈ old.head?, doubledOperator? c d = none) :
    ∀ d ∈ new.head?, doubledOperator? c d = none := by
  intro d hd
  -- Only a symbol goes on with another, and a symbol has one case.
  rw [Option.eq_none_iff_forall_ne_some]
  intro operator hoperator
  have hsymbol := isSymbolic_of_doubledOperator?_right hoperator
  rcases h d hd with hends | ⟨e, he, hrecased⟩
  · rw [hends.symbol] at hsymbol
    exact Bool.noConfusion hsymbol
  · obtain rfl := hrecased.eq_self (.inr (hrecased.isSymbolic_eq ▸ hsymbol))
    rw [hold d he] at hoperator
    exact absurd hoperator (by simp)

end FollowsAs

/-- A source with letters in another case.  A text is what it is. -/
def Lexeme.Recases (lexeme : Lexeme) (source source' : List Char) : Prop :=
  List.Forall₂ Recased source source' ∧ (lexeme.kind = .text → source' = source)

theorem Lexeme.Recases.refl (lexeme : Lexeme) (source : List Char) :
    lexeme.Recases source source :=
  ⟨List.forall₂_same.2 fun c _ ↦ .refl c, fun _ ↦ rfl⟩

namespace IsRead

variable {c : Char} {source old new : List Char} {lexeme : Lexeme}

/-- A token is read again in other letters and before other characters. -/
theorem recase (h : IsRead c source old lexeme) {c' : Char} {source' : List Char}
    (hsource : lexeme.Recases (c :: source) (c' :: source')) (hrest : FollowsAs old new) :
    IsRead c' source' new lexeme := by
  obtain ⟨hrecased, htext⟩ := hsource
  cases h with
  | number hstart hrun hold =>
    have hchars : ∀ d ∈ c :: source, isNumberChar d = true :=
      List.forall_mem_cons.2 ⟨isNumberChar_of_startsNumber hstart, hrun⟩
    obtain ⟨rfl, rfl⟩ := List.cons.inj (eq_of_recased hrecased fun d hd ↦ .inl (hchars d hd))
    exact .number hstart hrun
      (hrest.head?_eq_false (fun _ he ↦ he.number) Recased.isNumberChar_eq hold)
  | text hquote hbody =>
    obtain ⟨rfl, rfl⟩ := List.cons.inj (htext rfl)
    exact .text hquote hbody
  | name hdigit hstart hrun hold =>
    rw [← upper_eq_of_recased hrecased]
    obtain ⟨hfirst, hothers⟩ := List.forall₂_cons.1 hrecased
    exact .name (by rwa [hfirst.isDigitLike_eq]) (by rwa [hfirst.isNameStart_eq])
      (isNameChar_of_recased hothers hrun)
      (hrest.head?_eq_false (fun _ he ↦ he.name) Recased.isNameChar_eq hold)
  | @doubled d _ _ hoperator =>
    have hsymbols : ∀ e ∈ [c, d], isSymbolic e = true := by
      simp [(isSymbolic_of_doubledOperator? hoperator).1,
        isSymbolic_of_doubledOperator?_right hoperator]
    obtain ⟨rfl, rfl⟩ := List.cons.inj (eq_of_recased hrecased fun e he ↦ .inr (hsymbols e he))
    exact .doubled hoperator
  | single hlexeme hnumber hold =>
    have hsymbol := isSymbolic_of_singleLexeme? hlexeme
    obtain ⟨hfirst, hothers⟩ := List.forall₂_cons.1 hrecased
    obtain rfl := hfirst.eq_self (.inr hsymbol)
    obtain rfl := List.forall₂_nil_left_iff.1 hothers
    exact .single hlexeme (hrest.startsNumber_eq_false hnumber)
      (hrest.doubledOperator?_eq_none hold)

/-- A token is read again before other characters. -/
theorem follow (h : IsRead c source old lexeme) (hrest : FollowsAs old new) :
    IsRead c source new lexeme :=
  h.recase (.refl lexeme _) hrest

end IsRead

/-! ## Tokens in a row -/

/-- The token with more characters before it. -/
def Token.moved (count : ℕ) (token : Token) : Token := ⟨token.lexeme, count + token.position⟩

theorem tokensFrom_append (front rest : List Char) (position : ℕ) :
    tokensFrom front.length position (front ++ rest) =
      tokensFrom 0 (position + front.length) rest := by
  induction front generalizing position with
  | nil => rfl
  | cons c front ih =>
    calc
      _ = tokensFrom front.length (position + 1) (front ++ rest) := by
        rw [List.length_cons, List.cons_append, tokensFrom]
      _ = _ := by rw [ih, List.length_cons, Nat.add_assoc, Nat.add_comm 1]

theorem tokensFrom_blanks {blanks : List Char} (h : ∀ c ∈ blanks, isBlank c = true)
    (position : ℕ) (rest : List Char) :
    tokensFrom 0 position (blanks ++ rest) = tokensFrom 0 (position + blanks.length) rest := by
  induction blanks generalizing position with
  | nil => rfl
  | cons c blanks ih =>
    rw [List.forall_mem_cons] at h
    rw [List.cons_append, tokensFrom, if_pos h.1, ih h.2, List.length_cons, Nat.add_assoc,
      Nat.add_comm 1]

/-- A token and the tokens of what follows it. -/
theorem IsRead.tokensFrom_eq {c : Char} {source rest : List Char} {lexeme : Lexeme}
    (h : IsRead c source rest lexeme) (position : ℕ) :
    tokensFrom 0 position (c :: source ++ rest) =
      (tokensFrom 0 (position + (c :: source).length) rest).map (⟨lexeme, position⟩ :: ·) := by
  rw [List.cons_append, tokensFrom, if_neg (by simp [h.isBlank_eq]), h.lexemeAt_eq]
  change (tokensFrom source.length (position + 1) (source ++ rest) >>= _) = _
  rw [tokensFrom_append, List.length_cons, Nat.add_assoc, Nat.add_comm 1]
  rfl

/-- The tokens are those that the reader finds. -/
theorem tokenizes_iff {position : ℕ} {cs : List Char} {tokens : List Token} :
    Tokenizes position cs tokens ↔ tokensFrom 0 position cs = .ok tokens := by
  refine ⟨fun h ↦ ?_, tokenizes_of_tokensFrom (Nat.zero_le _)⟩
  induction h with
  | finish position => rfl
  | blank hblank _ ih => rw [tokensFrom, if_pos hblank, ih]
  | token hread _ ih =>
    rw [hread.tokensFrom_eq, ih]
    rfl

theorem FollowsAs.of_append (old rest : List Char) : FollowsAs (old ++ rest) old := by
  intro d hd
  exact .inr ⟨d, List.mem_head?_append_of_mem_head? hd, .refl d⟩

theorem FollowsAs.append (old : List Char) {rest : List Char}
    (hrest : ∀ d ∈ rest.head?, EndsTokens d) : FollowsAs old (old ++ rest) := by
  intro d hd
  cases old with
  | nil => exact .inl (hrest d hd)
  | cons c old => exact .inr ⟨d, hd, .refl d⟩

/-- A text that cannot be read has tokens up to some place, and none begins there. -/
theorem exists_of_tokensFrom_eq_error {skip position : ℕ} {cs : List Char} {fault : SyntaxFault}
    (hskip : skip ≤ cs.length) (h : tokensFrom skip position cs = .error fault) :
    ∃ before c after tokens, cs.drop skip = before ++ c :: after ∧
      Tokenizes (position + skip) before tokens ∧
      lexemeAt (position + skip + before.length) c after = .error fault := by
  induction skip, position, cs using tokensFrom.induct with
  | case1 => exact absurd h (by simp [tokensFrom])
  | case2 position c rest skip ih =>
    obtain ⟨before, c', after, tokens, hrest, hbefore, hfault⟩ :=
      ih (Nat.le_of_succ_le_succ hskip) h
    rw [Nat.add_assoc position, Nat.add_comm 1] at hbefore hfault
    exact ⟨before, c', after, tokens, hrest, hbefore, hfault⟩
  | case3 position c rest hblank ih =>
    rw [tokensFrom, if_pos hblank] at h
    obtain ⟨before, c', after, tokens, rfl, hbefore, hfault⟩ := ih (Nat.zero_le _) h
    refine ⟨c :: before, c', after, tokens, rfl, .blank hblank hbefore, ?_⟩
    rwa [List.length_cons, ← Nat.add_assoc, Nat.add_right_comm]
  | case4 position c rest hblank ih =>
    rw [tokensFrom, if_neg hblank, bind_eq_error_iff] at h
    obtain hfault | ⟨⟨lexeme, length⟩, hlexeme, hothers⟩ := h
    · exact ⟨[], c, rest, _, rfl, .finish _, hfault⟩
    · obtain hothers | ⟨others, -, hresult⟩ := bind_eq_error_iff.1 hothers
      · obtain ⟨source, after, rfl, rfl, hread⟩ := isRead_of_lexemeAt hlexeme
        obtain ⟨before, c', after', tokens, hafter, hbefore, hfault⟩ :=
          ih (source.length + 1) (by simp) hothers
        rw [Nat.add_sub_cancel, List.drop_left] at hafter
        rw [Nat.add_sub_cancel, Nat.add_assoc position, Nat.add_comm 1] at hbefore hfault
        subst hafter
        have hfollow : FollowsAs (before ++ c' :: after') before := .of_append before _
        refine ⟨c :: source ++ before, c', after', ⟨lexeme, position⟩ :: tokens,
          by simp, .token (hread.follow hfollow) hbefore, ?_⟩
        rwa [List.length_append, List.length_cons, ← Nat.add_assoc]
      · exact absurd hresult (by simp [pure, Except.pure])

theorem tokenizes_blanks_iff {blanks : List Char} (hblanks : ∀ c ∈ blanks, isBlank c = true)
    {position : ℕ} {rest : List Char} {tokens : List Token} :
    Tokenizes position (blanks ++ rest) tokens ↔
      Tokenizes (position + blanks.length) rest tokens := by
  rw [tokenizes_iff, tokenizes_iff, tokensFrom_blanks hblanks]

namespace Tokenizes

variable {position : ℕ} {cs : List Char} {tokens : List Token}

theorem ne_nil (h : Tokenizes position cs tokens) : tokens ≠ [] := by
  obtain ⟨front, rfl, -⟩ := h.covers.exists_eq_concat
  simp

/-- A token that begins where its text does is read from its front. -/
theorem exists_isRead {lexeme : Lexeme} (h : Tokenizes position cs (⟨lexeme, position⟩ :: tokens))
    (hlexeme : lexeme ≠ .finish) : ∃ c source rest, cs = c :: source ++ rest ∧
      IsRead c source rest lexeme ∧ Tokenizes (position + (c :: source).length) rest tokens := by
  cases h with
  | finish => exact absurd rfl hlexeme
  | blank _ hrest =>
    have hposition := hrest.covers.position_le _ List.mem_cons_self
    exact absurd hposition (by simp)
  | token hread hrest => exact ⟨_, _, _, rfl, hread, hrest⟩

/-- The tokens of a text are the same wherever it stands. -/
theorem moved (h : Tokenizes position cs tokens) (n : ℕ) :
    Tokenizes (n + position) cs (tokens.map (.moved n)) := by
  induction h with
  | finish position => exact .finish (n + position)
  | blank hblank _ ih => exact .blank hblank ih
  | token hread _ ih =>
    rw [← Nat.add_assoc] at ih
    exact .token hread ih

/-- The tokens of a text are those of a longer one, as far as it goes, if what follows goes on with
none of them. -/
theorem tokensFrom_append (h : Tokenizes position cs tokens) {rest : List Char}
    (hrest : ∀ d ∈ rest.head?, EndsTokens d) :
    tokensFrom 0 position (cs ++ rest) =
      (tokensFrom 0 (position + cs.length) rest).map (tokens.dropLast ++ ·) := by
  induction h with
  | finish position =>
    change _ = Except.map id _
    rw [Except.map_id]
    rfl
  | @blank position c cs tokens hblank _ ih =>
    rw [List.cons_append, tokensFrom, if_pos hblank, ih, List.length_cons, Nat.add_assoc,
      Nat.add_comm 1]
  | @token position c source cs lexeme tokens hread hcs ih =>
    rw [List.append_assoc, (hread.follow (.append cs hrest)).tokensFrom_eq, ih,
      List.dropLast_cons_of_ne_nil hcs.ne_nil, List.length_append, Nat.add_assoc]
    cases tokensFrom 0 _ rest <;> rfl

end Tokenizes

end PayFormula

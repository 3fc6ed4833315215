import Mathlib
import PayFormula.Proofs.Formula.Reading

/-!
# One Token Ahead

What is read from a list of tokens depends on the lexemes that are taken and, of those that are
left, on the first one, which is only looked at.  The end in its place makes no difference.  Nor does
it matter whether `AND`, `OR` and `NOT` are written as symbols or as names, for where an operator is
looked for, both stand for the same one.
-/

namespace PayFormula

/-! ## Tokens in another spelling -/

/-- The second lexeme is the first one, or the name that stands for the same operator. -/
inductive Lexeme.Respelled : Lexeme → Lexeme → Prop where
  | refl (lexeme : Lexeme) : Respelled lexeme lexeme
  | or : Respelled (.operator .or) (.name "OR")
  | and : Respelled (.operator .and) (.name "AND")
  | not : Respelled (.operator .bang) (.name "NOT")

def Token.Respells (token token' : Token) : Prop := token.lexeme.Respelled token'.lexeme

namespace Lexeme.Respelled

variable {lexeme lexeme' : Lexeme}

theorem eq_self (h : Respelled lexeme lexeme') (hkind : lexeme.kind ≠ .operator) :
    lexeme' = lexeme := by
  cases h with
  | refl => rfl
  | or | and | not => exact absurd rfl hkind

/-- Only names are other spellings. -/
theorem eq_of_kind (h : Respelled lexeme lexeme') (hkind : lexeme'.kind ≠ .name) :
    lexeme' = lexeme := by
  cases h with
  | refl => rfl
  | or | and | not => exact absurd rfl hkind

end Lexeme.Respelled

theorem exists_append_of_forall₂ {α β : Type} {R : α → β → Prop} {front back : List α}
    {whole : List β} (h : List.Forall₂ R (front ++ back) whole) :
    ∃ front' back', whole = front' ++ back' ∧ List.Forall₂ R front front' ∧
      List.Forall₂ R back back' := by
  induction front generalizing whole with
  | nil => exact ⟨[], whole, rfl, .nil, h⟩
  | cons a front ih =>
    cases h with
    | cons hhead htail =>
      obtain ⟨front', back', rfl, hfront, hback⟩ := ih htail
      exact ⟨_ :: front', back', rfl, .cons hhead hfront, hback⟩

/-- Both spellings of an operator are the same operator between two operands. -/
theorem operatorAhead?_respelled {rest rest' : List Token}
    (h : (headToken rest).lexeme.Respelled (headToken rest').lexeme) :
    operatorAhead? rest' = operatorAhead? rest := by
  unfold operatorAhead?
  generalize (headToken rest).lexeme = lexeme at h
  generalize (headToken rest').lexeme = lexeme' at h
  cases h <;> rfl

/-- The second list begins as the first one does, or with the end. -/
def Ahead (rest rest' : List Token) : Prop :=
  (headToken rest).lexeme.Respelled (headToken rest').lexeme ∨ (headToken rest').lexeme = .finish

namespace Ahead

variable {rest rest' : List Token}

theorem append (h : Ahead rest rest') {read read' : List Token}
    (hread : List.Forall₂ Token.Respells read read') : Ahead (read ++ rest) (read' ++ rest') := by
  cases hread with
  | nil => exact h
  | cons hhead _ => exact .inl hhead

/-- What is not ahead does not come there. -/
theorem lexeme_ne (h : Ahead rest rest') {lexeme : Lexeme} (hkind : lexeme.kind ≠ .name)
    (hfinish : lexeme ≠ .finish) (hne : (headToken rest).lexeme ≠ lexeme) :
    (headToken rest').lexeme ≠ lexeme := by
  rintro rfl
  rcases h with hrespelled | hend
  · exact hne (hrespelled.eq_of_kind hkind).symm
  · exact hfinish hend

theorem not_continues (h : Ahead rest rest') (hrest : ¬Continues rest) : ¬Continues rest' := by
  rw [Continues, not_or] at hrest ⊢
  exact ⟨h.lexeme_ne (by simp [Lexeme.kind]) (by simp) hrest.1,
    h.lexeme_ne (by simp [Lexeme.kind]) (by simp) hrest.2⟩

theorem chainOperator?_eq_none (h : Ahead rest rest') {level : ℕ}
    (hnone : chainOperator? level rest = none) : chainOperator? level rest' = none := by
  rcases h with hrespelled | hend
  · rwa [chainOperator?, operatorAhead?_respelled hrespelled]
  · simp [chainOperator?, operatorAhead?, hend]

end Ahead

/-! ## Reading again -/

/-- What is read from these tokens, with what is left of them, is read from others as well that are
the same up to the first one left. -/
def Rereads {α : Type} (reader : Reader α) (tokens : List Token) (a : α) (rest : List Token) :
    Prop :=
  ∃ read, tokens = read ++ rest ∧ ∀ ⦃read' rest' : List Token⦄,
    List.Forall₂ Token.Respells read read' → Ahead rest rest' →
    reader (read' ++ rest') = .ok (a, rest')

/-- The reader looks at one token beyond those that it takes. -/
def LooksOneAhead {α : Type} (reader : Reader α) : Prop :=
  ∀ ⦃tokens : List Token⦄ ⦃a : α⦄ ⦃rest : List Token⦄,
    reader tokens = .ok (a, rest) → Rereads reader tokens a rest

section Readers

variable {α β : Type} {tokens rest : List Token}

theorem Rereads.ok (a : α) (tokens : List Token) :
    Rereads (fun tokens ↦ .ok (a, tokens)) tokens a tokens := by
  refine ⟨[], rfl, fun read' rest' hread _ ↦ ?_⟩
  rw [List.forall₂_nil_left_iff.1 hread]
  rfl

theorem looksOneAhead_ok (a : α) : LooksOneAhead fun tokens ↦ .ok (a, tokens) := by
  intro tokens b rest h
  obtain ⟨rfl, rfl⟩ := ok_pair_inj h
  exact .ok a tokens

/-- One reader after another: the second one looks ahead for both. -/
theorem LooksOneAhead.bind {first : Reader α} {next : α → Reader β} (hfirst : LooksOneAhead first)
    (hnext : ∀ a, LooksOneAhead (next a)) :
    LooksOneAhead fun tokens ↦ first tokens >>= fun read ↦ next read.1 read.2 := by
  intro tokens b rest h
  obtain ⟨⟨a, middle⟩, hread, hothers⟩ := exists_of_bind_eq_ok h
  obtain ⟨read, rfl, hreread⟩ := hfirst hread
  obtain ⟨others, rfl, hrereadOthers⟩ := hnext a hothers
  refine ⟨read ++ others, by rw [List.append_assoc], fun read' rest' hboth hrest ↦ ?_⟩
  obtain ⟨front, back, rfl, hfront, hback⟩ := exists_append_of_forall₂ hboth
  dsimp only
  rw [List.append_assoc, hreread hfront (hrest.append hback)]
  exact hrereadOthers hback hrest

theorem LooksOneAhead.map {reader : Reader α} (h : LooksOneAhead reader) (change : α → β) :
    LooksOneAhead fun tokens ↦ reader tokens >>= fun read ↦ .ok (change read.1, read.2) :=
  h.bind fun a ↦ looksOneAhead_ok (change a)

/-- A first token, given what is read after it. -/
theorem Rereads.cons {reader after : Reader α} {token : Token} {a : α}
    (hreader : ∀ lexeme position, token.lexeme.Respelled lexeme → ∀ tokens,
      reader (⟨lexeme, position⟩ :: tokens) = after tokens)
    (h : Rereads after tokens a rest) : Rereads reader (token :: tokens) a rest := by
  obtain ⟨read, rfl, hreread⟩ := h
  refine ⟨token :: read, rfl, fun read' rest' hread hrest ↦ ?_⟩
  cases hread with
  | @cons _ token' _ tokens' htoken htokens =>
    rw [List.cons_append]
    exact (hreader token'.lexeme token'.position htoken _).trans (hreread htokens hrest)

theorem Token.Respells.eq {lexeme : Lexeme} {position : ℕ} {token' : Token}
    (h : (⟨lexeme, position⟩ : Token).Respells token') (hkind : lexeme.kind ≠ .operator) :
    ∃ position', token' = ⟨lexeme, position'⟩ := by
  obtain ⟨lexeme', position'⟩ := token'
  obtain rfl : lexeme' = lexeme := h.eq_self hkind
  exact ⟨position', rfl⟩

/-- A closing parenthesis after what has been read. -/
theorem looksOneAhead_close (a : α) :
    LooksOneAhead fun tokens ↦ expect .rightParen tokens >>= fun rest ↦ .ok (a, rest) := by
  intro tokens b rest h
  obtain ⟨after, hexpect, hresult⟩ := exists_of_bind_eq_ok h
  obtain ⟨rfl, rfl⟩ := ok_pair_inj hresult
  obtain ⟨position, rfl⟩ := expect_eq_ok (by simp) hexpect
  refine .cons (fun _ _ hlexeme _ ↦ ?_) (.ok a after)
  cases hlexeme
  rfl

end Readers

/-! ## Names and arguments -/

/-- A path has one spelling. -/
theorem map_lexeme_of_dotted {segments : List String} {read read' : List Token}
    (hdotted : read.map Token.lexeme = dotted segments)
    (hread : List.Forall₂ Token.Respells read read') :
    read'.map Token.lexeme = dotted segments := by
  have hkind : ∀ token ∈ read, token.lexeme.kind ≠ .operator := by
    intro token htoken
    have hlexeme : token.lexeme ∈ dotted segments := hdotted ▸ List.mem_map_of_mem htoken
    obtain ⟨segment, -, hsegment⟩ := List.mem_flatMap.1 hlexeme
    rcases List.mem_pair.1 hsegment with hdot | hname
    · simp [hdot, Lexeme.kind]
    · simp [hname, Lexeme.kind]
  rw [← hdotted]
  clear hdotted
  induction hread with
  | nil => rfl
  | cons htoken _ ih =>
    rw [List.forall_mem_cons] at hkind
    rw [List.map_cons, List.map_cons, htoken.eq_self hkind.1, ih hkind.2]

section Arguments

variable {part : Reader Formula} {tokens rest : List Token} {formulas : List Formula}

/-- What a part is read from is not nothing, so the limit is never what ends the parts. -/
theorem separated_rereads (hpart : LooksOneAhead part) (hsound : Sound .disjunction part)
    {limit : ℕ} (hpos : 0 < limit) (hlimit : tokens.length ≤ limit)
    (h : separated part limit tokens = .ok (formulas, rest)) :
    ∃ read, tokens = read ++ rest ∧ ∀ ⦃read' rest' : List Token⦄ ⦃limit' : ℕ⦄,
      List.Forall₂ Token.Respells read read' → Ahead rest rest' → read.length ≤ limit' →
      separated part limit' (read' ++ rest') = .ok (formulas, rest') := by
  induction limit generalizing tokens rest formulas with
  | zero => exact absurd hpos (lt_irrefl 0)
  | succ limit ih =>
    obtain ⟨⟨first, after⟩, hfirst, hothers⟩ := exists_of_bind_eq_ok h
    have hshorter := length_lt_of_sound hsound hfirst
    obtain ⟨read, rfl, hreread⟩ := hpart hfirst
    rw [List.length_append] at hlimit hshorter
    dsimp only at hothers
    split at hothers
    · next hcomma =>
      obtain ⟨position, hafter⟩ := eq_cons_of_headToken (by simp) hcomma
      obtain ⟨⟨others, last⟩, hseparated, hresult⟩ := exists_of_bind_eq_ok hothers
      obtain ⟨rfl, rfl⟩ := ok_pair_inj hresult
      have hlength := congrArg List.length hafter
      rw [List.length_cons] at hlength
      obtain ⟨readOthers, hdrop, hrereadOthers⟩ := ih (by omega) (by omega) hseparated
      rw [hdrop] at hafter
      subst hafter
      refine ⟨read ++ ⟨.comma, position⟩ :: readOthers, by simp, ?_⟩
      intro read' rest' limit' hboth hrest hlimit'
      obtain ⟨front, back, rfl, hfront, hback⟩ := exists_append_of_forall₂ hboth
      cases hback with
      | @cons _ comma _ back hmark hback =>
        rw [List.length_append, List.length_cons] at hlimit'
        obtain ⟨limit', rfl⟩ : ∃ n, limit' = n + 1 := ⟨limit' - 1, by omega⟩
        have hahead : Ahead (⟨.comma, position⟩ :: (readOthers ++ last))
            (comma :: (back ++ rest')) := .inl hmark
        obtain ⟨position', rfl⟩ := hmark.eq (by simp [Lexeme.kind])
        rw [List.append_assoc, List.cons_append, separated, hreread hfront hahead]
        change separated part limit' (back ++ rest') >>= _ = _
        rw [hrereadOthers hback hrest (by omega)]
        rfl
    · next hcomma =>
      obtain ⟨rfl, rfl⟩ := ok_pair_inj hothers
      refine ⟨read, rfl, fun read' rest' limit' hread hrest hlimit' ↦ ?_⟩
      obtain ⟨limit', rfl⟩ : ∃ n, limit' = n + 1 := ⟨limit' - 1, by omega⟩
      rw [separated, hreread hread hrest]
      change (if _ then _ else _) = _
      rw [if_neg (hrest.lexeme_ne (by simp [Lexeme.kind]) (by simp) hcomma)]
      rfl

theorem callArguments_looksOneAhead (hpart : LooksOneAhead part)
    (hsound : Sound .disjunction part) : LooksOneAhead (callArguments part) := by
  intro tokens formulas rest h
  rw [callArguments_eq] at h
  obtain ⟨⟨arguments, after⟩, harguments, hclose⟩ := exists_of_bind_eq_ok h
  obtain ⟨last, hexpect, hresult⟩ := exists_of_bind_eq_ok hclose
  obtain ⟨rfl, rfl⟩ := ok_pair_inj hresult
  obtain ⟨position, rfl⟩ := expect_eq_ok (by simp) hexpect
  split at harguments
  · obtain ⟨rfl, rfl⟩ := ok_pair_inj harguments
    refine .cons (fun _ _ hlexeme _ ↦ ?_) (.ok [] last)
    cases hlexeme
    rfl
  · next hopen =>
    have hpos : 0 < tokens.length := by
      cases tokens with
      | nil => exact absurd (ok_pair_inj harguments).2 (by simp)
      | cons => simp
    obtain ⟨read, rfl, hreread⟩ := separated_rereads hpart hsound hpos le_rfl harguments
    refine ⟨read ++ [⟨.rightParen, position⟩], by simp, fun read' rest' hboth hrest ↦ ?_⟩
    obtain ⟨front, back, rfl, hfront, hback⟩ := exists_append_of_forall₂ hboth
    obtain ⟨position', rfl⟩ : ∃ position', back = [⟨.rightParen, position'⟩] := by
      obtain ⟨token', others, hmark, hothers, rfl⟩ := List.forall₂_cons_left_iff.1 hback
      obtain ⟨position', rfl⟩ := hmark.eq (by simp [Lexeme.kind])
      rw [List.forall₂_nil_left_iff.1 hothers]
      exact ⟨position', rfl⟩
    have hahead : Ahead (⟨.rightParen, position⟩ :: last) (⟨.rightParen, position'⟩ :: rest') :=
      .inl (.refl _)
    have hopen' := (hahead.append hfront).lexeme_ne (by simp [Lexeme.kind]) (by simp) hopen
    have hlimit : read.length ≤ (front ++ ⟨.rightParen, position'⟩ :: rest').length := by
      rw [List.length_append, hfront.length_eq]
      exact Nat.le_add_right _ _
    rw [callArguments_eq, List.append_assoc, List.singleton_append, if_neg hopen',
      hreread hfront hahead hlimit]
    rfl

end Arguments

/-- What stands after a name that is not reserved. -/
theorem reference_looksOneAhead {part : Reader Formula} (hpart : LooksOneAhead part)
    (hsound : Sound .disjunction part) (name : String) : LooksOneAhead (reference part name) := by
  intro tokens formula rest h
  unfold reference at h
  split at h
  · next hdot =>
    obtain ⟨segments, hpath, rfl⟩ :=
      exists_of_map_eq_ok (fun path ↦ Formula.variable (name :: path)) h
    obtain ⟨⟨read, rfl, hread⟩, hstop⟩ := pathRest_sound hpath
    have hsegments : segments ≠ [] := by
      rintro rfl
      rw [List.map_eq_nil_iff.1 hread] at hdot
      exact hstop hdot
    refine ⟨read, rfl, fun read' rest' hrespells hrest ↦ ?_⟩
    exact reference_path part name hsegments (map_lexeme_of_dotted hread hrespells)
      (hrest.lexeme_ne (by simp [Lexeme.kind]) (by simp) hstop)
  · next hparen =>
    obtain ⟨position, htokens⟩ := eq_cons_of_headToken (by simp) hparen
    rw [htokens]
    refine .cons (fun _ _ hlexeme _ ↦ ?_)
      ((callArguments_looksOneAhead hpart hsound).map (Formula.call name) h)
    cases hlexeme
    rfl
  · next hdot hparen =>
    obtain ⟨rfl, rfl⟩ := ok_pair_inj h
    refine ⟨[], rfl, fun read' rest' hread hrest ↦ ?_⟩
    rw [List.forall₂_nil_left_iff.1 hread, List.nil_append]
    exact reference_of_not_continues part name (hrest.not_continues (not_or.2 ⟨hdot, hparen⟩))

/-! ## Operands -/

theorem primary_looksOneAhead {inner operand : Reader Formula} (hinner : LooksOneAhead inner)
    (hsound : Sound .disjunction inner) (hoperand : LooksOneAhead operand) :
    LooksOneAhead (primary inner operand) := by
  intro tokens formula rest h
  rcases tokens with _ | ⟨⟨lexeme, position⟩, tokens⟩
  · exact absurd h (by simp [primary, headToken])
  unfold primary at h
  dsimp only [headToken, List.drop_one, List.tail_cons] at h
  split at h
  · refine .cons (fun _ _ hlexeme _ ↦ ?_) (hoperand.map (Formula.unary .not) h)
    cases hlexeme
    rfl
  · refine .cons (fun _ _ hlexeme _ ↦ ?_) (hoperand.map (Formula.unary .not) h)
    cases hlexeme <;> rfl
  · refine .cons (fun _ _ hlexeme _ ↦ ?_) (hoperand.map (Formula.unary .negate) h)
    cases hlexeme
    rfl
  · refine .cons (fun _ _ hlexeme _ ↦ ?_) (hinner.bind looksOneAhead_close h)
    cases hlexeme
    rfl
  · refine .cons (fun _ _ hlexeme _ ↦ ?_) (looksOneAhead_ok _ h)
    cases hlexeme
    rfl
  · refine .cons (fun _ _ hlexeme _ ↦ ?_) (looksOneAhead_ok _ h)
    cases hlexeme
    rfl
  · refine .cons (fun _ _ hlexeme _ ↦ ?_) (looksOneAhead_ok _ h)
    cases hlexeme
    rfl
  · refine .cons (fun _ _ hlexeme _ ↦ ?_) (looksOneAhead_ok _ h)
    cases hlexeme
    rfl
  · next name hnot htrue hfalse =>
    have hname : name ∉ reservedNames := by
      simp_all [reservedNames]
    refine .cons (fun _ position' hlexeme tokens ↦ ?_)
      (reference_looksOneAhead hinner hsound name h)
    cases hlexeme
    exact primary_name hname inner operand position' tokens
  · exact absurd h (by simp)

/-! ## Formulas -/

/-- The readers of whole formulas look one token ahead. -/
structure LooksWithin (cap : DepthCap) (room : ℕ) : Prop where
  unaryOperand : LooksOneAhead (unaryOperand cap room)
  expression : ∀ level, LooksOneAhead (expression cap room level)
  chain : ∀ level left, LooksOneAhead (chain cap room level left)

theorem chain_rereads_of_stop {cap : DepthCap} {room level : ℕ} {left formula : Formula}
    {tokens rest : List Token} (hnone : chainOperator? level tokens = none)
    (h : chain cap room level left tokens = .ok (formula, rest)) :
    Rereads (chain cap room level left) tokens formula rest := by
  rw [chain_eq_self cap room left hnone] at h
  obtain ⟨rfl, rfl⟩ := ok_pair_inj h
  refine ⟨[], rfl, fun read' rest' hread hrest ↦ ?_⟩
  rw [List.forall₂_nil_left_iff.1 hread, List.nil_append]
  exact chain_eq_self cap room left (hrest.chainOperator?_eq_none hnone)

theorem looksWithin_zero (cap : DepthCap) : LooksWithin cap 0 where
  unaryOperand := fun _ _ _ h ↦ absurd h (by simp [unaryOperand])
  expression := fun _ _ _ _ h ↦ absurd h (by simp [expression])
  chain := by
    intro level left tokens formula rest h
    rcases hoperator : chainOperator? level tokens with _ | operator
    · exact chain_rereads_of_stop hoperator h
    · unfold chain at h
      rw [hoperator] at h
      exact absurd h (by simp)

theorem LooksWithin.succ {cap : DepthCap} {room : ℕ} (ih : LooksWithin cap room) :
    LooksWithin cap (room + 1) := by
  have hsound : Sound .disjunction (PayFormula.expression cap room 0) := by
    intro _ _ _ h
    exact ((soundWithin cap room).expression h).1
  have hprimary := primary_looksOneAhead (ih.expression 0) hsound ih.unaryOperand
  constructor
  case unaryOperand =>
    intro tokens formula rest h
    exact hprimary h
  case expression =>
    intro level tokens formula rest h
    exact hprimary.bind (ih.chain level) h
  case chain =>
    intro level left tokens formula rest h
    rcases hoperator : chainOperator? level tokens with _ | operator
    · exact chain_rereads_of_stop hoperator h
    obtain ⟨hahead, hlevel⟩ := chainOperator?_eq_some.1 hoperator
    obtain ⟨token, tokens, rfl, -⟩ := operatorAhead?_eq_some hahead
    rw [chain_eq_bind cap room left hoperator] at h
    have hright := ih.expression (operator.level + 1)
    refine .cons (fun lexeme position hlexeme tokens' ↦ ?_)
      (hright.bind (fun right ↦ ih.chain level (.binary operator left right)) h)
    have hahead' : operatorAhead? (⟨lexeme, position⟩ :: tokens') =
        operatorAhead? (token :: tokens) := operatorAhead?_respelled hlexeme
    exact chain_eq_bind cap room left (chainOperator?_eq_some.2 ⟨hahead'.trans hahead, hlevel⟩)

theorem looksWithin (cap : DepthCap) (room : ℕ) : LooksWithin cap room := by
  induction room with
  | zero => exact looksWithin_zero cap
  | succ room ih => exact ih.succ

/-- A formula is read whichever way its operators are spelled. -/
theorem parse_respelled {cap : DepthCap} {strict : Bool} {tokens tokens' : List Token}
    {formula : Formula} (h : parse cap strict tokens = .ok formula)
    (htokens : List.Forall₂ Token.Respells tokens tokens') :
    parse cap strict tokens' = .ok formula := by
  obtain ⟨rest, hread, hend⟩ := parse_eq_ok_iff.1 h
  obtain ⟨read, rfl, hreread⟩ := (looksWithin cap _).expression 0 hread
  obtain ⟨read', rest', rfl, hread', hrest⟩ := exists_append_of_forall₂ htokens
  have hnil : Ahead [] [] := .inl (.refl _)
  have hahead : Ahead rest rest' := by
    simpa using hnil.append hrest
  refine parse_eq_ok_iff.2 ⟨rest', ?_, fun hstrict ↦ ?_⟩
  · rw [← htokens.length_eq]
    exact hreread hread' hahead
  · rcases hahead with hrespelled | hfinish
    · have hfinish := hend hstrict
      rw [hfinish] at hrespelled
      exact hrespelled.eq_self (by simp [Lexeme.kind])
    · exact hfinish

theorem respells_of_map_lexeme {tokens tokens' : List Token}
    (h : tokens'.map Token.lexeme = tokens.map Token.lexeme) :
    List.Forall₂ Token.Respells tokens tokens' := by
  have hlexemes : List.Forall₂ (· = ·) (tokens.map Token.lexeme) (tokens'.map Token.lexeme) := by
    rw [List.forall₂_eq_eq_eq, h]
  rw [List.forall₂_map_left_iff, List.forall₂_map_right_iff] at hlexemes
  refine hlexemes.imp fun token token' hlexeme ↦ ?_
  rw [Token.Respells, hlexeme]
  exact .refl _

/-- Where its tokens stand is no part of a formula. -/
theorem parse_eq_ok_iff_of_lexemes {cap : DepthCap} {strict : Bool} {tokens tokens' : List Token}
    (h : tokens'.map Token.lexeme = tokens.map Token.lexeme) {formula : Formula} :
    parse cap strict tokens' = .ok formula ↔ parse cap strict tokens = .ok formula :=
  ⟨fun hparse ↦ parse_respelled hparse (respells_of_map_lexeme h.symm),
    fun hparse ↦ parse_respelled hparse (respells_of_map_lexeme h)⟩

end PayFormula

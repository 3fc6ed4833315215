import Mathlib
import PayFormula.Proofs.Formula.Soundness

/-!
# Reading Agrees with the Grammar

What the grammar derives, the reader returns when it has two levels of room for each token and one
more.  The induction is on the derivation; beside the result of a whole formula it carries how the
chain goes on after it, because a chain is read from its left end and derived from its right one.
With soundness, a formula is read exactly where one is derived, and since reading is a function, no
list of lexemes derives two.
-/

namespace PayFormula

/-! ## Tokens and lexemes -/

theorem exists_cons_of_map_lexeme {tokens : List Token} {lexeme : Lexeme} {lexemes : List Lexeme}
    (h : tokens.map Token.lexeme = lexeme :: lexemes) :
    ∃ position rest, tokens = ⟨lexeme, position⟩ :: rest ∧ rest.map Token.lexeme = lexemes := by
  obtain ⟨⟨_, position⟩, rest, rfl, rfl, hrest⟩ := List.map_eq_cons_iff.1 h
  exact ⟨position, rest, rfl, hrest⟩

theorem exists_concat_of_map_lexeme {tokens : List Token} {lexeme : Lexeme} {lexemes : List Lexeme}
    (h : tokens.map Token.lexeme = lexemes ++ [lexeme]) :
    ∃ front position, tokens = front ++ [⟨lexeme, position⟩] ∧
      front.map Token.lexeme = lexemes := by
  obtain ⟨front, last, rfl, hfront, hlast⟩ := List.map_eq_append_iff.1 h
  obtain ⟨position, rest, rfl, hrest⟩ := exists_cons_of_map_lexeme hlast
  rw [List.map_eq_nil_iff.1 hrest]
  exact ⟨front, position, rfl, hfront⟩

/-! ## What is read wherever it stands -/

/-- The tokens begin with one that goes on with a name before it. -/
def Continues (tokens : List Token) : Prop :=
  (headToken tokens).lexeme = .dot ∨ (headToken tokens).lexeme = .leftParen

/-- The tokens begin with one that ends every formula before it. -/
def Closes (tokens : List Token) : Prop :=
  (headToken tokens).lexeme ∈ [Lexeme.comma, .rightParen, .finish]

theorem Closes.not_continues {tokens : List Token} (h : Closes tokens) : ¬Continues tokens := by
  simp only [Closes, List.mem_cons, List.not_mem_nil, or_false] at h
  rintro (hhead | hhead) <;> simp [hhead] at h

theorem Closes.chainOperator?_eq_none {tokens : List Token} (h : Closes tokens) (level : ℕ) :
    chainOperator? level tokens = none := by
  simp only [Closes, List.mem_cons, List.not_mem_nil, or_false] at h
  rcases h with hhead | hhead | hhead <;> simp [chainOperator?, operatorAhead?, hhead]

theorem closes_rightParen (position : ℕ) (rest : List Token) :
    Closes (⟨.rightParen, position⟩ :: rest) := by
  simp [Closes, headToken]

theorem not_continues_of_spelling {operator : BinaryOperator} {lexeme : Lexeme}
    (hspelling : lexeme ∈ operator.spellings) (position : ℕ) (rest : List Token) :
    ¬Continues (⟨lexeme, position⟩ :: rest) := by
  intro h
  obtain rfl | rfl : lexeme = .dot ∨ lexeme = .leftParen := h
  all_goals cases operator <;> simp [BinaryOperator.spellings] at hspelling

/-- The lexemes are read as the formula wherever they stand, with room for two levels a token.  A
reader that asks for looser operators as well has only come to the end of a left side then. -/
structure ReadsAs (s : Stratum) (lexemes : List Lexeme) (formula : Formula) : Prop where
  primary : s = .primary → ∀ (cap : DepthCap) {room : ℕ} {body rest : List Token},
    body.map Token.lexeme = lexemes → 2 * body.length ≤ room → ¬Continues rest →
    primary (expression cap room 0) (unaryOperand cap room) (body ++ rest) = .ok (formula, rest)
  expression : ∀ (cap : DepthCap) {room level : ℕ} {body rest : List Token},
    body.map Token.lexeme = lexemes → 2 * body.length ≤ room → ¬Continues rest →
    level ≤ s.level → chainOperator? (s.level + 1) rest = none →
    ∃ left, room ≤ left + 2 * body.length ∧
      expression cap (room + 1) level (body ++ rest) = chain cap left level formula rest

namespace ReadsAs

variable {s : Stratum} {lexemes : List Lexeme} {formula : Formula}

/-- A single operand, after which the chain begins. -/
theorem of_primary
    (h : ∀ (cap : DepthCap) {room : ℕ} {body rest : List Token},
      body.map Token.lexeme = lexemes → 2 * body.length ≤ room → ¬Continues rest →
      PayFormula.primary (PayFormula.expression cap room 0) (unaryOperand cap room) (body ++ rest) =
        .ok (formula, rest)) : ReadsAs .primary lexemes formula := by
  constructor
  case primary =>
    intro _
    exact h
  case expression =>
    intro cap room level body rest hbody hroom hrest _ _
    refine ⟨room, by omega, ?_⟩
    rw [PayFormula.expression, h cap hbody hroom hrest]
    rfl

theorem operand (h : ReadsAs s.tighter lexemes formula) : ReadsAs s lexemes formula := by
  have hlevel := s.level_le_tighter
  constructor
  case primary =>
    intro hs
    apply h.primary
    rw [hs]
    rfl
  case expression =>
    intro cap room level body rest hbody hroom hrest hle hstop
    apply h.expression cap hbody hroom hrest (hle.trans hlevel)
    exact chainOperator?_mono (Nat.succ_le_succ hlevel) hstop

/-- A whole formula, after which no operator follows. -/
theorem expression_eq (h : ReadsAs s lexemes formula) (cap : DepthCap) {room level : ℕ}
    {body rest : List Token} (hbody : body.map Token.lexeme = lexemes)
    (hroom : 2 * body.length ≤ room) (hrest : ¬Continues rest) (hlevel : level ≤ s.level)
    (hstop : chainOperator? level rest = none) :
    PayFormula.expression cap (room + 1) level (body ++ rest) = .ok (formula, rest) := by
  have hlooser := chainOperator?_mono (hlevel.trans (Nat.le_succ s.level)) hstop
  obtain ⟨left, -, hread⟩ := h.expression cap hbody hroom hrest hlevel hlooser
  rw [hread, chain_eq_self cap left formula hstop]

theorem chain {operator : BinaryOperator} {lexeme : Lexeme} {before after : List Lexeme}
    {left right : Formula} (hoperator : operator ∈ s.operators)
    (hspelling : lexeme ∈ operator.spellings) (hleft : ReadsAs s before left)
    (hright : ReadsAs s.tighter after right) :
    ReadsAs s (before ++ lexeme :: after) (.binary operator left right) := by
  have hstrength := Stratum.mem_operators_iff.1 hoperator
  constructor
  case primary =>
    intro hs
    rw [hs] at hoperator
    simp [Stratum.operators] at hoperator
  case expression =>
    intro cap room level body rest hbody hroom hrest hlevel hstop
    obtain ⟨bodyLeft, bodyAfter, rfl, hbefore, hafter⟩ := List.map_eq_append_iff.1 hbody
    obtain ⟨position, bodyRight, rfl, hbodyRight⟩ := exists_cons_of_map_lexeme hafter
    rw [List.length_append, List.length_cons] at hroom ⊢
    rw [List.append_assoc, List.cons_append]
    have hahead : operatorAhead? (⟨lexeme, position⟩ :: (bodyRight ++ rest)) = some operator :=
      operatorAhead?_cons.2 hspelling
    have hchain := chainOperator?_eq_some.2 ⟨hahead, hstrength ▸ hlevel⟩
    have hlooser : chainOperator? (s.level + 1)
        (⟨lexeme, position⟩ :: (bodyRight ++ rest)) = none := by
      simp [chainOperator?, hahead, hstrength]
    have hroomLeft : 2 * bodyLeft.length ≤ room := by omega
    obtain ⟨roomAfter, hroomAfter, hreadLeft⟩ := hleft.expression cap hbefore hroomLeft
      (not_continues_of_spelling hspelling position _) hlevel hlooser
    -- The operator takes one level and the formula to its right another.
    obtain ⟨roomRight, rfl⟩ : ∃ n, roomAfter = n + 2 := ⟨roomAfter - 2, by omega⟩
    have hroomRight : 2 * bodyRight.length ≤ roomRight := by omega
    have hreadRight := hright.expression_eq cap hbodyRight hroomRight hrest
      (Stratum.tighter_level hoperator).ge (hstrength ▸ hstop)
    refine ⟨roomRight + 1, by omega, ?_⟩
    rw [hreadLeft, chain_eq_bind cap _ left hchain, hreadRight]
    rfl

/-! ## Operands -/

theorem unaryOperand_eq (h : ReadsAs .primary lexemes formula) (cap : DepthCap) {room : ℕ}
    {body rest : List Token} (hbody : body.map Token.lexeme = lexemes)
    (hroom : 2 * body.length ≤ room) (hrest : ¬Continues rest) :
    unaryOperand cap (room + 1) (body ++ rest) = .ok (formula, rest) := by
  rw [unaryOperand]
  exact h.primary rfl cap hbody hroom hrest

/-- A unary operator, given how it is read from its lexeme. -/
theorem unary {operator : UnaryOperator} {lexeme : Lexeme}
    (hoperator : ∀ (inner operand : Reader Formula) (position : ℕ) (tokens : List Token),
      PayFormula.primary inner operand (⟨lexeme, position⟩ :: tokens) =
        operand tokens >>= fun read ↦ .ok (.unary operator read.1, read.2))
    (h : ReadsAs .primary lexemes formula) :
    ReadsAs .primary (lexeme :: lexemes) (.unary operator formula) := by
  apply of_primary
  intro cap room body rest hbody hroom hrest
  obtain ⟨position, body, rfl, hoperand⟩ := exists_cons_of_map_lexeme hbody
  rw [List.length_cons] at hroom
  obtain ⟨inside, rfl⟩ : ∃ n, room = n + 1 := ⟨room - 1, by omega⟩
  have hinside : 2 * body.length ≤ inside := by omega
  rw [List.cons_append, hoperator, h.unaryOperand_eq cap hoperand hinside hrest]
  rfl

theorem not {lexeme : Lexeme} (hspelling : lexeme ∈ notSpellings)
    (h : ReadsAs .primary lexemes formula) :
    ReadsAs .primary (lexeme :: lexemes) (.unary .not formula) := by
  simp only [notSpellings, List.mem_cons, List.not_mem_nil, or_false] at hspelling
  rcases hspelling with rfl | rfl
  · exact unary (fun _ _ _ _ ↦ rfl) h
  · exact unary (fun _ _ _ _ ↦ rfl) h

theorem negate (h : ReadsAs .primary lexemes formula) :
    ReadsAs .primary (.operator .minus :: lexemes) (.unary .negate formula) :=
  unary (fun _ _ _ _ ↦ rfl) h

/-- A whole formula within others. -/
theorem inner_eq (h : ReadsAs .disjunction lexemes formula) (cap : DepthCap) {room : ℕ}
    {body rest : List Token} (hbody : body.map Token.lexeme = lexemes)
    (hroom : 2 * body.length < room) (hrest : Closes rest) :
    PayFormula.expression cap room 0 (body ++ rest) = .ok (formula, rest) := by
  obtain ⟨inside, rfl⟩ : ∃ n, room = n + 1 := ⟨room - 1, by omega⟩
  have hinside : 2 * body.length ≤ inside := by omega
  exact h.expression_eq cap hbody hinside hrest.not_continues (Nat.zero_le _)
    (hrest.chainOperator?_eq_none 0)

theorem parentheses (h : ReadsAs .disjunction lexemes formula) :
    ReadsAs .primary (.leftParen :: (lexemes ++ [.rightParen])) formula := by
  apply of_primary
  intro cap room body rest hbody hroom hrest
  obtain ⟨position, body, rfl, hclosed⟩ := exists_cons_of_map_lexeme hbody
  obtain ⟨body, close, rfl, hinner⟩ := exists_concat_of_map_lexeme hclosed
  rw [List.length_cons, List.length_append, List.length_singleton] at hroom
  have hinside : 2 * body.length < room := by omega
  have hread := h.inner_eq cap hinner hinside (closes_rightParen close rest)
  change (PayFormula.expression cap room 0 (body ++ [_] ++ rest) >>= _) = _
  rw [List.append_assoc, List.singleton_append, hread]
  rfl

end ReadsAs

/-! ## Names and arguments -/

theorem primary_name {name : String} (hname : name ∉ reservedNames) (inner operand : Reader Formula)
    (position : ℕ) (tokens : List Token) :
    primary inner operand (⟨.name name, position⟩ :: tokens) = reference inner name tokens := by
  simp only [reservedNames, List.mem_cons, List.not_mem_nil, or_false, not_or] at hname
  simp [primary, headToken, hname]

theorem reference_of_not_continues (part : Reader Formula) (name : String) {rest : List Token}
    (hrest : ¬Continues rest) : reference part name rest = .ok (.variable [name], rest) := by
  unfold reference
  split
  · next hdot => exact absurd (.inl hdot) hrest
  · next hparen => exact absurd (.inr hparen) hrest
  · rfl

theorem pathRest_complete {segments : List String} {body rest : List Token}
    (hbody : body.map Token.lexeme = dotted segments) (hrest : (headToken rest).lexeme ≠ .dot) :
    pathRest (body ++ rest) = .ok (segments, rest) := by
  induction segments generalizing body with
  | nil =>
    rw [List.map_eq_nil_iff.1 hbody, List.nil_append]
    unfold pathRest
    split
    · exact absurd rfl hrest
    · exact absurd rfl hrest
    · rfl
  | cons segment segments ih =>
    obtain ⟨dot, body, rfl, hsegment⟩ := exists_cons_of_map_lexeme hbody
    obtain ⟨position, body, rfl, hsegments⟩ := exists_cons_of_map_lexeme hsegment
    change (pathRest (body ++ rest) >>= _) = _
    rw [ih hsegments]
    rfl

theorem reference_path (part : Reader Formula) (name : String) {segments : List String}
    {body rest : List Token} (hsegments : segments ≠ [])
    (hbody : body.map Token.lexeme = dotted segments) (hrest : (headToken rest).lexeme ≠ .dot) :
    reference part name (body ++ rest) = .ok (.variable (name :: segments), rest) := by
  obtain ⟨segment, segments, rfl⟩ := List.exists_cons_of_ne_nil hsegments
  obtain ⟨dot, tail, rfl, -⟩ := exists_cons_of_map_lexeme hbody
  change (pathRest (⟨.dot, dot⟩ :: tail ++ rest) >>= _) = _
  rw [pathRest_complete hbody hrest]
  rfl

theorem ReadsAs.bare {name : String} (hname : name ∉ reservedNames) :
    ReadsAs .primary [.name name] (.variable [name]) := by
  apply ReadsAs.of_primary
  intro cap room body rest hbody hroom hrest
  obtain ⟨position, body, rfl, hnil⟩ := exists_cons_of_map_lexeme hbody
  rw [List.map_eq_nil_iff.1 hnil, List.singleton_append, primary_name hname,
    reference_of_not_continues _ _ hrest]

theorem ReadsAs.path {name : String} {segments : List String} (hname : name ∉ reservedNames)
    (hsegments : segments ≠ []) :
    ReadsAs .primary (.name name :: dotted segments) (.variable (name :: segments)) := by
  apply ReadsAs.of_primary
  intro cap room body rest hbody hroom hrest
  obtain ⟨position, body, rfl, hpath⟩ := exists_cons_of_map_lexeme hbody
  rw [List.cons_append, primary_name hname]
  exact reference_path _ name hsegments hpath fun hdot ↦ hrest (.inl hdot)

section Arguments

variable {part : Reader Formula} {pieces : List (List Lexeme × Formula)} {bound : ℕ}
  {body rest : List Token}

/-- Parts between commas that a reader reads one by one are read together. -/
theorem separated_complete {limit : ℕ} (hne : pieces ≠ [])
    (hpieces : ∀ piece ∈ pieces, Derives .disjunction piece.1 piece.2)
    (hpart : ∀ piece ∈ pieces, ∀ {body rest : List Token}, body.map Token.lexeme = piece.1 →
      body.length ≤ bound → Closes rest → part (body ++ rest) = .ok (piece.2, rest))
    (hbody : body.map Token.lexeme = [.comma].intercalate (pieces.map (·.1)))
    (hlimit : body.length ≤ limit) (hbound : body.length ≤ bound)
    (hrest : (headToken rest).lexeme = .rightParen) :
    separated part limit (body ++ rest) = .ok (pieces.map (·.2), rest) := by
  induction pieces generalizing limit body with
  | nil => exact absurd rfl hne
  | cons piece others ih =>
    have hpiece := (hpieces piece List.mem_cons_self).ne_nil
    have hread := @hpart piece List.mem_cons_self
    rcases eq_or_ne others [] with rfl | hothers
    · rw [List.map_singleton, List.intercalate_singleton] at hbody
      have hpos : 0 < body.length := by
        rw [← List.length_map Token.lexeme, hbody]
        exact List.length_pos_of_ne_nil hpiece
      obtain ⟨limit, rfl⟩ : ∃ n, limit = n + 1 := ⟨limit - 1, by omega⟩
      have hlast : Closes rest := by
        simp [Closes, hrest]
      have hcomma : (headToken rest).lexeme ≠ .comma := by
        simp [hrest]
      rw [separated, hread hbody hbound hlast]
      change (if _ then _ else _) = _
      rw [if_neg hcomma]
      rfl
    · rw [List.map_cons, List.intercalate_cons_of_ne_nil (by simpa using hothers),
        List.append_assoc] at hbody
      obtain ⟨first, after, rfl, hfirst, hcomma⟩ := List.map_eq_append_iff.1 hbody
      obtain ⟨position, tail, rfl, htail⟩ := exists_cons_of_map_lexeme hcomma
      rw [List.length_append, List.length_cons] at hlimit hbound
      obtain ⟨limit, rfl⟩ : ∃ n, limit = n + 1 := ⟨limit - 1, by omega⟩
      have hfirstBound : first.length ≤ bound := by omega
      have htailLimit : tail.length ≤ limit := by omega
      have htailBound : tail.length ≤ bound := by omega
      have hnext : Closes (⟨.comma, position⟩ :: (tail ++ rest)) := List.mem_cons_self
      have hseparated := ih hothers (List.forall_mem_cons.1 hpieces).2
        (fun piece h ↦ @hpart piece (List.mem_cons_of_mem _ h)) htail htailLimit htailBound
      rw [List.append_assoc, List.cons_append, separated, hread hfirst hfirstBound hnext]
      change separated part limit (tail ++ rest) >>= _ = _
      rw [hseparated]
      rfl

/-- The arguments of a call do not begin with the parenthesis that closes it. -/
theorem headToken_arguments_ne (hne : pieces ≠ [])
    (hpieces : ∀ piece ∈ pieces, Derives .disjunction piece.1 piece.2)
    (hbody : body.map Token.lexeme = [.comma].intercalate (pieces.map (·.1))) :
    (headToken (body ++ rest)).lexeme ≠ .rightParen := by
  obtain ⟨piece, others, rfl⟩ := List.exists_cons_of_ne_nil hne
  have hpiece := hpieces piece List.mem_cons_self
  have hhead := hpiece.head?_ne_rightParen
  obtain ⟨lexeme, lexemes, hlexemes⟩ := List.exists_cons_of_ne_nil hpiece.ne_nil
  rw [List.map_cons, hlexemes, List.intercalate_cons_cons_left] at hbody
  obtain ⟨position, tail, rfl, -⟩ := exists_cons_of_map_lexeme hbody
  intro hparen
  apply hhead
  rw [hlexemes]
  exact congrArg some hparen

theorem callArguments_complete
    (hpieces : ∀ piece ∈ pieces, Derives .disjunction piece.1 piece.2)
    (hpart : ∀ piece ∈ pieces, ∀ {body rest : List Token}, body.map Token.lexeme = piece.1 →
      body.length ≤ bound → Closes rest → part (body ++ rest) = .ok (piece.2, rest))
    (hbody : body.map Token.lexeme = [.comma].intercalate (pieces.map (·.1)))
    (hbound : body.length ≤ bound) (close : ℕ) (after : List Token) :
    callArguments part (body ++ ⟨.rightParen, close⟩ :: after) = .ok (pieces.map (·.2), after) := by
  rw [callArguments_eq]
  rcases eq_or_ne pieces [] with rfl | hne
  · rw [List.map_eq_nil_iff.1 hbody]
    rfl
  · have hlimit : body.length ≤ (body ++ ⟨.rightParen, close⟩ :: after).length := by
      rw [List.length_append]
      exact Nat.le_add_right _ _
    rw [if_neg (headToken_arguments_ne hne hpieces hbody),
      separated_complete hne hpieces hpart hbody hlimit hbound rfl]
    rfl

end Arguments

theorem ReadsAs.call {name : String} {pieces : List (List Lexeme × Formula)}
    (hname : name ∉ reservedNames)
    (hpieces : ∀ piece ∈ pieces, Derives .disjunction piece.1 piece.2)
    (h : ∀ piece ∈ pieces, ReadsAs .disjunction piece.1 piece.2) :
    ReadsAs .primary
      (.name name :: .leftParen :: ([.comma].intercalate (pieces.map (·.1)) ++ [.rightParen]))
      (.call name (pieces.map (·.2))) := by
  apply ReadsAs.of_primary
  intro cap room body rest hbody hroom hrest
  obtain ⟨position, body, rfl, hparen⟩ := exists_cons_of_map_lexeme hbody
  obtain ⟨leftParen, body, rfl, hclosed⟩ := exists_cons_of_map_lexeme hparen
  obtain ⟨body, close, rfl, harguments⟩ := exists_concat_of_map_lexeme hclosed
  simp only [List.length_cons, List.length_append, List.length_nil] at hroom
  have hpart : ∀ piece ∈ pieces, ∀ {inside after : List Token},
      inside.map Token.lexeme = piece.1 → inside.length ≤ body.length → Closes after →
      PayFormula.expression cap room 0 (inside ++ after) = .ok (piece.2, after) := by
    intro piece hpiece inside after hinside hlength hafter
    have hinsideRoom : 2 * inside.length < room := by omega
    exact (h piece hpiece).inner_eq cap hinside hinsideRoom hafter
  have hread := callArguments_complete hpieces hpart harguments le_rfl close rest
  rw [List.cons_append, primary_name hname]
  change callArguments _ (body ++ [_] ++ rest) >>= _ = _
  rw [List.append_assoc, List.singleton_append, hread]
  rfl

/-! ## Completeness -/

theorem Derives.readsAs {s : Stratum} {lexemes : List Lexeme} {formula : Formula}
    (h : Derives s lexemes formula) : ReadsAs s lexemes formula := by
  induction h with
  | operand _ ih => exact ih.operand
  | chain hoperator hspelling _ _ hleft hright => exact .chain hoperator hspelling hleft hright
  | not hspelling _ ih => exact .not hspelling ih
  | negate _ ih => exact ih.negate
  | parentheses _ ih => exact ih.parentheses
  | number | text | truth | falsity =>
    apply ReadsAs.of_primary
    intro cap room body rest hbody hroom hrest
    obtain ⟨position, body, rfl, hnil⟩ := exists_cons_of_map_lexeme hbody
    obtain rfl := List.map_eq_nil_iff.1 hnil
    rfl
  | bare hname => exact .bare hname
  | path hname hsegments => exact .path hname hsegments
  | call hname hpieces ih => exact .call hname hpieces ih

/-! ## Whole formulas -/

/-- What needs one level is the whole formula if nothing but the end comes after it. -/
theorem parse_of_expression {cap : DepthCap} (hcap : cap.levels? ≠ some 0) (strict : Bool)
    {tokens : List Token} {formula : Formula} {position : ℕ}
    (h : ∀ room, expression cap (room + 1) 0 tokens = .ok (formula, [⟨.finish, position⟩])) :
    parse cap strict tokens = .ok formula := by
  have hroom : ∃ room, cap.room tokens.length = room + 1 := by
    rw [DepthCap.room]
    rcases hlevels : cap.levels? with _ | levels
    · exact ⟨_, rfl⟩
    · exact Nat.exists_eq_succ_of_ne_zero fun hzero ↦ hcap (hlevels.trans (congrArg some hzero))
  obtain ⟨room, hroom⟩ := hroom
  rw [parse, hroom, h]
  cases strict <;> rfl

/-- With enough room, reading returns what is derived. -/
theorem Derives.parse_eq {lexemes : List Lexeme} {formula : Formula}
    (h : Derives .disjunction lexemes formula) {cap : DepthCap} {body : List Token} {last : Token}
    (hbody : body.map Token.lexeme = lexemes) (hlast : last.lexeme = .finish)
    (hcap : ∀ levels, cap.levels? = some levels → 2 * body.length + 1 ≤ levels) :
    parse cap true (body ++ [last]) = .ok formula := by
  have hroom : 2 * body.length < cap.room (body ++ [last]).length := by
    unfold DepthCap.room
    rcases hlevels : cap.levels? with _ | levels
    · rw [Option.getD_none, List.length_append, List.length_singleton]
      omega
    · rw [Option.getD_some]
      exact hcap levels hlevels
  have hfinish : (headToken [last]).lexeme = .finish := hlast
  have hcloses : Closes [last] := by
    simp [Closes, hfinish]
  have hread := h.readsAs.inner_eq cap hbody hroom hcloses
  rw [parse, hread]
  change (if (true && (headToken [last]).lexeme != .finish) = true then _ else _) = _
  rw [hfinish]
  rfl

/-- No list of lexemes derives two formulas. -/
theorem Derives.unique {lexemes : List Lexeme} {first second : Formula}
    (hfirst : Derives .disjunction lexemes first) (hsecond : Derives .disjunction lexemes second) :
    first = second := by
  have hparse {formula : Formula} (h : Derives .disjunction lexemes formula) :
      parse ⟨none, ""⟩ true (lexemes.map (⟨·, 0⟩) ++ [⟨.finish, 0⟩]) = .ok formula :=
    h.parse_eq (by simp [Function.comp_def]) rfl (by simp)
  have hok := (hparse hfirst).symm.trans (hparse hsecond)
  exact Except.ok.inj hok

/-- What holds no end lies before the last one. -/
theorem exists_append_of_finish {body read rest : List Token} {last : Token}
    (hlast : last.lexeme = .finish) (hread : .finish ∉ read.map Token.lexeme)
    (h : body ++ [last] = read ++ rest) : ∃ after, body = read ++ after ∧ rest = after ++ [last] := by
  rcases List.append_eq_append_iff.1 h with ⟨beyond, rfl, hbeyond⟩ | ⟨short, rfl, rfl⟩
  · cases beyond with
    | nil => exact ⟨[], by simp, by simpa using hbeyond.symm⟩
    | cons token beyond =>
      obtain ⟨rfl, -⟩ := List.cons.inj hbeyond
      exact absurd hread (by simp [hlast])
  · exact ⟨short, rfl, rfl⟩

/-- Reading takes all tokens but the end, for neither a formula nor what precedes the end has one in
its midst. -/
theorem derives_of_parse {cap : DepthCap} {body : List Token} {last : Token} {formula : Formula}
    (hbody : ∀ token ∈ body, token.lexeme ≠ .finish) (hlast : last.lexeme = .finish)
    (h : parse cap true (body ++ [last]) = .ok formula) :
    Derives .disjunction (body.map Token.lexeme) formula := by
  obtain ⟨rest, hread, hend⟩ := parse_eq_ok_iff.1 h
  obtain ⟨⟨read, htokens, hderives⟩, -⟩ := (soundWithin cap _).expression hread
  have hformula : Derives .disjunction (read.map Token.lexeme) formula := hderives
  obtain ⟨after, rfl, rfl⟩ := exists_append_of_finish hlast hformula.finish_notMem htokens
  cases after with
  | nil => rwa [List.append_nil]
  | cons token after => exact absurd (hend rfl) (hbody token (by simp))

/-- A strict reading returns a formula exactly where the grammar derives it, provided that the cap
leaves two levels for each token and one more; and the grammar derives no second one. -/
theorem parse_iff_derives {cap : DepthCap} {body : List Token} {last : Token}
    (hbody : ∀ token ∈ body, token.lexeme ≠ .finish) (hlast : last.lexeme = .finish)
    (hcap : ∀ levels, cap.levels? = some levels → 2 * body.length + 1 ≤ levels) :
    (∀ formula, parse cap true (body ++ [last]) = .ok formula ↔
      Derives .disjunction (body.map Token.lexeme) formula) ∧
    ∀ (lexemes : List Lexeme) (first second : Formula),
      Derives .disjunction lexemes first → Derives .disjunction lexemes second → first = second := by
  constructor
  · intro formula
    constructor
    · intro h
      exact derives_of_parse hbody hlast h
    · intro h
      exact h.parse_eq rfl hlast hcap
  · intro lexemes first second hfirst hsecond
    exact hfirst.unique hsecond

/-- `a AND -b * 2`, with just enough room. -/
theorem parse_iff_derives_conjunction :
    let body : List Token := [⟨.name "A", 0⟩, ⟨.name "AND", 2⟩, ⟨.operator .minus, 6⟩,
      ⟨.name "B", 7⟩, ⟨.operator .times, 9⟩, ⟨.number "2", 11⟩]
    (∀ formula, parse (.ofInt 13) true (body ++ [⟨.finish, 12⟩]) = .ok formula ↔
      Derives .disjunction (body.map Token.lexeme) formula) ∧
    ∀ (lexemes : List Lexeme) (first second : Formula),
      Derives .disjunction lexemes first → Derives .disjunction lexemes second → first = second := by
  refine parse_iff_derives ?_ rfl ?_
  · simp
  · rintro levels hlevels
    obtain rfl := Option.some.inj hlevels
    decide

end PayFormula

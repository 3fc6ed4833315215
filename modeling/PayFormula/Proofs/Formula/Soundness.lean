import Mathlib
import PayFormula.Formula.Parser
import PayFormula.Proofs.Formula.Grammar

/-!
# What Is Read Is Derived

The reader climbs: after an operand it takes every operator that binds tightly enough, and gives each
the formula of tighter operators to its right.  Levels number the strata of the grammar, and each
reader is sound for the stratum of its level: whatever room it has, what it returns is derived from
the lexemes that it took.
-/

namespace PayFormula

theorem exists_of_bind_eq_ok {ε α β : Type} {first : Except ε α} {next : α → Except ε β}
    {result : β} (h : first >>= next = .ok result) : ∃ a, first = .ok a ∧ next a = .ok result :=
  match first, h with
  | .ok a, h => ⟨a, rfl, h⟩

theorem bind_eq_error_iff {ε α β : Type} {first : Except ε α} {next : α → Except ε β} {fault : ε} :
    first >>= next = .error fault ↔
      first = .error fault ∨ ∃ a, first = .ok a ∧ next a = .error fault := by
  cases first with
  | error cause =>
    change Except.error cause = _ ↔ _
    simp
  | ok a =>
    change next a = _ ↔ _
    simp

theorem ok_pair_inj {ε α β : Type} {a c : α} {b d : β}
    (h : (.ok (a, b) : Except ε (α × β)) = .ok (c, d)) : a = c ∧ b = d :=
  Prod.mk.inj (Except.ok.inj h)

/-- A reader whose result is changed after it has been read. -/
theorem exists_of_map_eq_ok {ε α β γ : Type} {first : Except ε (α × γ)} (change : α → β)
    {result : β} {rest : γ}
    (h : (first >>= fun read ↦ .ok (change read.1, read.2)) = .ok (result, rest)) :
    ∃ a, first = .ok (a, rest) ∧ result = change a := by
  obtain ⟨⟨a, after⟩, hfirst, hresult⟩ := exists_of_bind_eq_ok h
  obtain ⟨rfl, rfl⟩ := ok_pair_inj hresult
  exact ⟨a, hfirst, rfl⟩

/-! ## Levels and strata -/

/-- The loosest stratum whose operators bind at least as tightly as a level. -/
def Stratum.ofLevel : ℕ → Stratum
  | 0 | 1 => disjunction
  | 2 => conjunction
  | 3 => comparison
  | 4 => additive
  | 5 => multiplicative
  | _ => primary

namespace Stratum

def level : Stratum → ℕ
  | disjunction => 1
  | conjunction => 2
  | comparison => 3
  | additive => 4
  | multiplicative => 5
  | primary => 6

theorem level_le_tighter (s : Stratum) : s.level ≤ s.tighter.level := by
  cases s <;> decide

theorem mem_operators_iff {s : Stratum} {operator : BinaryOperator} :
    operator ∈ s.operators ↔ operator.level = s.level := by
  cases s <;> cases operator <;> simp [operators, level, BinaryOperator.level]

theorem tighter_level {s : Stratum} {operator : BinaryOperator} (h : operator ∈ s.operators) :
    s.tighter.level = operator.level + 1 := by
  rw [mem_operators_iff.1 h]
  cases s <;> first | rfl | simp [operators] at h

end Stratum

theorem BinaryOperator.mem_operators_ofLevel {operator : BinaryOperator} {lexeme : Lexeme}
    (h : lexeme ∈ operator.spellings) : operator ∈ (Stratum.ofLevel operator.level).operators := by
  cases operator <;> simp_all [Stratum.ofLevel, Stratum.operators, level, spellings]

theorem BinaryOperator.ofLevel_succ {operator : BinaryOperator} {lexeme : Lexeme}
    (h : lexeme ∈ operator.spellings) :
    Stratum.ofLevel (operator.level + 1) = (Stratum.ofLevel operator.level).tighter := by
  cases operator <;> first | rfl | simp [spellings] at h

theorem Derives.ofLevel_mono {m n : ℕ} {lexemes : List Lexeme} {formula : Formula} (hle : m ≤ n)
    (h : Derives (.ofLevel n) lexemes formula) : Derives (.ofLevel m) lexemes formula := by
  induction n, hle using Nat.le_induction with
  | base => exact h
  | succ n hle ih =>
    refine ih ?_
    match n with
    | 0 => exact h
    | 1 | 2 | 3 | 4 | 5 => exact .operand h
    | n + 6 => exact h

/-! ## Operators ahead -/

theorem operatorAhead?_cons {token : Token} {rest : List Token} {operator : BinaryOperator} :
    operatorAhead? (token :: rest) = some operator ↔ token.lexeme ∈ operator.spellings := by
  rcases token with ⟨lexeme, position⟩
  unfold operatorAhead? headToken
  dsimp only
  split
  · next symbol =>
    cases symbol <;> cases operator <;> simp [BinaryOperator.ofOperator?, BinaryOperator.spellings]
  · cases operator <;> simp [BinaryOperator.spellings]
  · cases operator <;> simp [BinaryOperator.spellings]
  · cases operator <;> simp_all [BinaryOperator.spellings]

theorem operatorAhead?_eq_some {tokens : List Token} {operator : BinaryOperator}
    (h : operatorAhead? tokens = some operator) :
    ∃ token rest, tokens = token :: rest ∧ token.lexeme ∈ operator.spellings := by
  cases tokens with
  | nil => exact absurd h (by simp [operatorAhead?, headToken])
  | cons token rest => exact ⟨token, rest, rfl, operatorAhead?_cons.1 h⟩

theorem chainOperator?_eq_some {level : ℕ} {tokens : List Token} {operator : BinaryOperator} :
    chainOperator? level tokens = some operator ↔
      operatorAhead? tokens = some operator ∧ level ≤ operator.level := by
  simp [chainOperator?, Option.filter_eq_some_iff]

theorem chainOperator?_eq_none {level : ℕ} (hlevel : 5 < level) (tokens : List Token) :
    chainOperator? level tokens = none := by
  refine Option.filter_eq_none_iff.2 fun operator _ hle ↦ ?_
  have hbound : operator.level ≤ 5 := by cases operator <;> simp [BinaryOperator.level]
  exact absurd (of_decide_eq_true hle) (by omega)

/-- An operator that binds too loosely for one level does so for every tighter one. -/
theorem chainOperator?_mono {m n : ℕ} {tokens : List Token} (hle : m ≤ n)
    (h : chainOperator? m tokens = none) : chainOperator? n tokens = none := by
  simp only [chainOperator?, Option.filter_eq_none_iff, decide_eq_true_eq] at h ⊢
  exact fun operator hoperator hn ↦ h operator hoperator (hle.trans hn)

theorem chain_eq_self (cap : DepthCap) (room : ℕ) {level : ℕ} {tokens : List Token}
    (left : Formula) (h : chainOperator? level tokens = none) :
    chain cap room level left tokens = .ok (left, tokens) := by
  unfold chain
  rw [h]

theorem chain_eq_bind (cap : DepthCap) (room : ℕ) {level : ℕ} {token : Token}
    {tokens : List Token} {operator : BinaryOperator} (left : Formula)
    (h : chainOperator? level (token :: tokens) = some operator) :
    chain cap (room + 1) level left (token :: tokens) =
      expression cap room (operator.level + 1) tokens >>= fun read ↦
        chain cap room level (.binary operator left read.1) read.2 := by
  conv_lhs => unfold chain
  rw [h]
  rfl

/-! ## What a reader takes -/

/-- What the tokens before the rest spell as a member of the stratum. -/
def Spells (s : Stratum) (tokens rest : List Token) (formula : Formula) : Prop :=
  ∃ read, tokens = read ++ rest ∧ Derives s (read.map Token.lexeme) formula

def Sound (s : Stratum) (reader : Reader Formula) : Prop :=
  ∀ ⦃tokens formula rest⦄, reader tokens = .ok (formula, rest) → Spells s tokens rest formula

/-- A formula is not read from nothing. -/
theorem length_lt_of_sound {s : Stratum} {reader : Reader Formula} (hreader : Sound s reader)
    {tokens rest : List Token} {formula : Formula} (h : reader tokens = .ok (formula, rest)) :
    rest.length < tokens.length := by
  obtain ⟨read, rfl, hderives⟩ := hreader h
  have hread : 0 < read.length := by
    simpa using List.length_pos_of_ne_nil hderives.ne_nil
  rw [List.length_append]
  omega

theorem eq_cons_of_headToken {lexeme : Lexeme} {tokens : List Token} (hlexeme : lexeme ≠ .finish)
    (h : (headToken tokens).lexeme = lexeme) :
    ∃ position, tokens = ⟨lexeme, position⟩ :: tokens.drop 1 := by
  cases tokens with
  | nil => exact absurd h.symm hlexeme
  | cons token rest =>
    obtain rfl := h
    exact ⟨token.position, rfl⟩

theorem expect_eq_ok {wanted : Lexeme} {tokens rest : List Token} (hwanted : wanted ≠ .finish)
    (h : expect wanted tokens = .ok rest) : ∃ position, tokens = ⟨wanted, position⟩ :: rest := by
  unfold expect at h
  split at h
  · next hhead =>
    obtain rfl := Except.ok.inj h
    exact eq_cons_of_headToken hwanted hhead
  · exact absurd h (by simp)

theorem pathRest_sound {tokens rest : List Token} {segments : List String}
    (h : pathRest tokens = .ok (segments, rest)) :
    (∃ read, tokens = read ++ rest ∧ read.map Token.lexeme = dotted segments) ∧
      (headToken rest).lexeme ≠ .dot := by
  induction tokens using pathRest.induct generalizing segments rest with
  | case1 dot segment name tokens ih =>
    obtain ⟨others, hothers, rfl⟩ := exists_of_map_eq_ok (segment :: ·) h
    obtain ⟨⟨read, rfl, hread⟩, hstop⟩ := ih hothers
    refine ⟨⟨⟨.dot, dot⟩ :: ⟨.name segment, name⟩ :: read, rfl, ?_⟩, hstop⟩
    simp [hread, dotted]
  | case2 dot tokens hname =>
    rw [pathRest] at h
    · exact absurd h (by simp)
    · exact hname
  | case3 tokens hpath hdot =>
    rw [pathRest] at h
    · obtain ⟨rfl, rfl⟩ := ok_pair_inj h
      refine ⟨⟨[], rfl, rfl⟩, fun hhead ↦ ?_⟩
      obtain ⟨position, htokens⟩ := eq_cons_of_headToken (by simp) hhead
      exact hdot _ _ htokens
    · exact hpath
    · exact hdot

/-- Each part takes a token, so the limit on the parts is never what ends them. -/
theorem separated_sound {part : Reader Formula} (hpart : Sound .disjunction part) {limit : ℕ}
    {tokens rest : List Token} {formulas : List Formula} (hpos : 0 < limit)
    (hlimit : tokens.length ≤ limit) (h : separated part limit tokens = .ok (formulas, rest)) :
    ∃ (read : List Token) (pieces : List (List Lexeme × Formula)), tokens = read ++ rest ∧
      read.map Token.lexeme = [.comma].intercalate (pieces.map (·.1)) ∧
      formulas = pieces.map (·.2) ∧ pieces ≠ [] ∧
      ∀ piece ∈ pieces, Derives .disjunction piece.1 piece.2 := by
  induction limit generalizing tokens rest formulas with
  | zero => exact absurd hpos (lt_irrefl 0)
  | succ limit ih =>
    obtain ⟨⟨first, after⟩, hfirst, hothers⟩ := exists_of_bind_eq_ok h
    obtain ⟨read, rfl, hderives⟩ := hpart hfirst
    have hread : 0 < read.length := by
      simpa using List.length_pos_of_ne_nil hderives.ne_nil
    rw [List.length_append] at hlimit
    dsimp only at hothers
    split at hothers
    · next hcomma =>
      obtain ⟨position, hafter⟩ := eq_cons_of_headToken (by simp) hcomma
      obtain ⟨⟨others, last⟩, hseparated, hresult⟩ := exists_of_bind_eq_ok hothers
      have hlength := congrArg List.length hafter
      rw [List.length_cons] at hlength
      obtain ⟨readOthers, pieces, hdrop, hlexemes, hformulas, hne, hpieces⟩ :=
        ih (by omega) (by omega) hseparated
      obtain ⟨rfl, rfl⟩ := ok_pair_inj hresult
      refine ⟨read ++ ⟨.comma, position⟩ :: readOthers, (read.map Token.lexeme, first) :: pieces,
        ?_, ?_, ?_, List.cons_ne_nil _ _, List.forall_mem_cons.2 ⟨hderives, hpieces⟩⟩
      · rw [hafter, hdrop, List.append_assoc, List.cons_append]
      · rw [List.map_cons, List.intercalate_cons_of_ne_nil (by simpa using hne), ← hlexemes]
        simp
      · rw [List.map_cons, hformulas]
    · obtain ⟨rfl, rfl⟩ := ok_pair_inj hothers
      exact ⟨read, [(read.map Token.lexeme, first)], rfl, by simp, rfl, by simp, by simpa⟩

theorem callArguments_eq (part : Reader Formula) (tokens : List Token) :
    callArguments part tokens =
      (if (headToken tokens).lexeme = .rightParen then .ok ([], tokens)
        else separated part tokens.length tokens) >>= fun read ↦
          expect .rightParen read.2 >>= fun rest ↦ .ok (read.1, rest) := by
  unfold callArguments
  dsimp only
  split <;> rfl

theorem callArguments_sound {part : Reader Formula} (hpart : Sound .disjunction part)
    {tokens rest : List Token} {formulas : List Formula}
    (h : callArguments part tokens = .ok (formulas, rest)) :
    ∃ (read : List Token) (pieces : List (List Lexeme × Formula)), tokens = read ++ rest ∧
      read.map Token.lexeme = [.comma].intercalate (pieces.map (·.1)) ++ [.rightParen] ∧
      formulas = pieces.map (·.2) ∧ ∀ piece ∈ pieces, Derives .disjunction piece.1 piece.2 := by
  rw [callArguments_eq] at h
  obtain ⟨⟨arguments, after⟩, harguments, hexpect⟩ := exists_of_bind_eq_ok h
  obtain ⟨rest', hclose, hresult⟩ := exists_of_bind_eq_ok hexpect
  obtain ⟨rfl, rfl⟩ := ok_pair_inj hresult
  obtain ⟨position, rfl⟩ := expect_eq_ok (by simp) hclose
  split at harguments
  · obtain ⟨rfl, rfl⟩ := ok_pair_inj harguments
    exact ⟨[⟨.rightParen, position⟩], [], rfl, rfl, rfl, by simp⟩
  · rcases eq_or_ne tokens [] with rfl | hne
    · have hnil := (ok_pair_inj harguments).2
      exact absurd hnil (by simp)
    · obtain ⟨read, pieces, rfl, hread, rfl, -, hpieces⟩ :=
        separated_sound hpart (List.length_pos_of_ne_nil hne) le_rfl harguments
      exact ⟨read ++ [⟨.rightParen, position⟩], pieces, by simp, by simp [hread], rfl, hpieces⟩

/-- A name that is not reserved, with what belongs to it after it. -/
theorem reference_sound {part : Reader Formula} (hpart : Sound .disjunction part) {name : String}
    (hname : name ∉ reservedNames) {tokens rest : List Token} {formula : Formula}
    (h : reference part name tokens = .ok (formula, rest)) :
    ∃ read, tokens = read ++ rest ∧
      Derives .primary (.name name :: read.map Token.lexeme) formula := by
  unfold reference at h
  split at h
  · next hdot =>
    obtain ⟨segments, hpath, rfl⟩ :=
      exists_of_map_eq_ok (fun path ↦ Formula.variable (name :: path)) h
    obtain ⟨⟨read, rfl, hread⟩, hstop⟩ := pathRest_sound hpath
    refine ⟨read, rfl, hread ▸ .path hname fun hnil ↦ hstop ?_⟩
    rw [hnil] at hread
    rwa [List.map_eq_nil_iff.1 hread] at hdot
  · next hparen =>
    obtain ⟨position, htokens⟩ := eq_cons_of_headToken (by simp) hparen
    obtain ⟨arguments, harguments, rfl⟩ := exists_of_map_eq_ok (Formula.call name) h
    obtain ⟨read, pieces, hread, hlexemes, rfl, hpieces⟩ := callArguments_sound hpart harguments
    refine ⟨⟨.leftParen, position⟩ :: read, by rw [htokens, hread, List.cons_append], ?_⟩
    rw [List.map_cons, hlexemes]
    exact .call hname hpieces
  · obtain ⟨rfl, rfl⟩ := ok_pair_inj h
    exact ⟨[], rfl, .bare hname⟩

/-- A unary operator with the operand that is read after it. -/
theorem unary_sound {operand : Reader Formula} (hoperand : Sound .primary operand)
    {operator : UnaryOperator} {tokens rest : List Token} {formula : Formula}
    (h : (operand tokens >>= fun read ↦ .ok (.unary operator read.1, read.2)) =
      .ok (formula, rest)) :
    ∃ read inside, tokens = read ++ rest ∧ Derives .primary (read.map Token.lexeme) inside ∧
      formula = .unary operator inside := by
  obtain ⟨inside, hread, rfl⟩ := exists_of_map_eq_ok (Formula.unary operator) h
  obtain ⟨read, rfl, hderives⟩ := hoperand hread
  exact ⟨read, inside, rfl, hderives, rfl⟩

theorem primary_sound {inner operand : Reader Formula} (hinner : Sound .disjunction inner)
    (hoperand : Sound .primary operand) : Sound .primary (primary inner operand) := by
  intro tokens formula rest h
  rcases tokens with _ | ⟨⟨lexeme, position⟩, tokens⟩
  · exact absurd h (by simp [primary, headToken])
  unfold primary at h
  dsimp only [headToken, List.drop_one, List.tail_cons] at h
  split at h
  · obtain ⟨read, inside, rfl, hderives, rfl⟩ := unary_sound hoperand h
    exact ⟨⟨.name "NOT", position⟩ :: read, rfl, .not (by simp [notSpellings]) hderives⟩
  · obtain ⟨read, inside, rfl, hderives, rfl⟩ := unary_sound hoperand h
    exact ⟨⟨.operator .bang, position⟩ :: read, rfl, .not (by simp [notSpellings]) hderives⟩
  · obtain ⟨read, inside, rfl, hderives, rfl⟩ := unary_sound hoperand h
    exact ⟨⟨.operator .minus, position⟩ :: read, rfl, .negate hderives⟩
  · obtain ⟨⟨inside, after⟩, hread, hclose⟩ := exists_of_bind_eq_ok h
    obtain ⟨after', hexpect, hresult⟩ := exists_of_bind_eq_ok hclose
    obtain ⟨rfl, rfl⟩ := ok_pair_inj hresult
    obtain ⟨read, rfl, hderives⟩ := hinner hread
    obtain ⟨close, rfl⟩ := expect_eq_ok (by simp) hexpect
    refine ⟨⟨.leftParen, position⟩ :: (read ++ [⟨.rightParen, close⟩]), by simp, ?_⟩
    simpa using hderives.parentheses
  · next digits =>
    obtain ⟨rfl, rfl⟩ := ok_pair_inj h
    exact ⟨[⟨.number digits, position⟩], rfl, .number digits⟩
  · next content =>
    obtain ⟨rfl, rfl⟩ := ok_pair_inj h
    exact ⟨[⟨.text content, position⟩], rfl, .text content⟩
  · obtain ⟨rfl, rfl⟩ := ok_pair_inj h
    exact ⟨[⟨.name "TRUE", position⟩], rfl, .truth⟩
  · obtain ⟨rfl, rfl⟩ := ok_pair_inj h
    exact ⟨[⟨.name "FALSE", position⟩], rfl, .falsity⟩
  · next name hnot htrue hfalse =>
    have hname : name ∉ reservedNames := by
      simp_all [reservedNames]
    obtain ⟨read, rfl, hderives⟩ := reference_sound hinner hname h
    exact ⟨⟨.name name, position⟩ :: read, rfl, hderives⟩
  · exact absurd h (by simp)

/-! ## Chains -/

/-- What the readers of whole formulas return with this much room.  The operators of a chain bind ever
more loosely: what stands to the left belongs to the stratum of some level `n`, and no operator
after it binds more tightly than `n`. -/
structure SoundWithin (cap : DepthCap) (room : ℕ) : Prop where
  unaryOperand : Sound .primary (unaryOperand cap room)
  expression : ∀ {level : ℕ} {tokens rest : List Token} {formula : Formula},
    expression cap room level tokens = .ok (formula, rest) →
    Spells (.ofLevel level) tokens rest formula ∧ chainOperator? level rest = none
  chain : ∀ {level n : ℕ} {before : List Lexeme} {left formula : Formula} {tokens rest : List Token},
    chain cap room level left tokens = .ok (formula, rest) → level ≤ n →
    Derives (.ofLevel n) before left → chainOperator? (n + 1) tokens = none →
    (∃ read, tokens = read ++ rest ∧
      Derives (.ofLevel level) (before ++ read.map Token.lexeme) formula) ∧
      chainOperator? level rest = none

/-- A chain that ends where it begins. -/
theorem chain_sound_of_stop {cap : DepthCap} {room level n : ℕ} {before : List Lexeme}
    {left formula : Formula} {tokens rest : List Token} (hnone : chainOperator? level tokens = none)
    (h : chain cap room level left tokens = .ok (formula, rest)) (hle : level ≤ n)
    (hleft : Derives (.ofLevel n) before left) :
    (∃ read, tokens = read ++ rest ∧
      Derives (.ofLevel level) (before ++ read.map Token.lexeme) formula) ∧
      chainOperator? level rest = none := by
  rw [chain_eq_self cap room left hnone] at h
  obtain ⟨rfl, rfl⟩ := ok_pair_inj h
  have hformula := hleft.ofLevel_mono hle
  exact ⟨⟨[], rfl, by rwa [List.map_nil, List.append_nil]⟩, hnone⟩

theorem soundWithin_zero (cap : DepthCap) : SoundWithin cap 0 where
  unaryOperand := fun _ _ _ h ↦ absurd h (by simp [unaryOperand])
  expression := fun h ↦ absurd h (by simp [expression])
  chain := by
    intro level n before left formula tokens rest h hle hleft _
    rcases hoperator : chainOperator? level tokens with _ | operator
    · exact chain_sound_of_stop hoperator h hle hleft
    · unfold chain at h
      rw [hoperator] at h
      exact absurd h (by simp)

theorem SoundWithin.succ {cap : DepthCap} {room : ℕ} (ih : SoundWithin cap room) :
    SoundWithin cap (room + 1) := by
  have hinner : Sound .disjunction (PayFormula.expression cap room 0) := by
    intro _ _ _ h
    exact (ih.expression h).1
  have hprimary := primary_sound hinner ih.unaryOperand
  constructor
  case unaryOperand =>
    intro tokens formula rest h
    rw [PayFormula.unaryOperand] at h
    exact hprimary h
  case expression =>
    intro level tokens rest formula h
    rw [PayFormula.expression] at h
    obtain ⟨⟨first, after⟩, hfirst, hchain⟩ := exists_of_bind_eq_ok h
    obtain ⟨read, rfl, hderives⟩ := hprimary hfirst
    -- A single operand belongs to the stratum of every level above the operators.
    have hleft : Derives (.ofLevel (level + 6)) (read.map Token.lexeme) first := hderives
    have hstop : chainOperator? (level + 6 + 1) after = none := chainOperator?_eq_none (by omega) after
    obtain ⟨⟨readRest, rfl, hformula⟩, hend⟩ :=
      ih.chain hchain (Nat.le_add_right level 6) hleft hstop
    exact ⟨⟨read ++ readRest, by rw [List.append_assoc], by rwa [List.map_append]⟩, hend⟩
  case chain =>
    intro level n before left formula tokens rest h hle hleft hstop
    rcases hoperator : chainOperator? level tokens with _ | operator
    · exact chain_sound_of_stop hoperator h hle hleft
    obtain ⟨hahead, hlevel⟩ := chainOperator?_eq_some.1 hoperator
    obtain ⟨token, tokens, rfl, hspelling⟩ := operatorAhead?_eq_some hahead
    rw [chain_eq_bind cap room left hoperator] at h
    obtain ⟨⟨right, after⟩, hright, hchain⟩ := exists_of_bind_eq_ok h
    obtain ⟨⟨read, rfl, hderives⟩, hafter⟩ := ih.expression hright
    have hloose : operator.level ≤ n := by
      by_contra hlt
      have hsome := chainOperator?_eq_some.2 ⟨hahead, Nat.lt_of_not_le hlt⟩
      rw [hstop] at hsome
      exact absurd hsome (by simp)
    rw [BinaryOperator.ofLevel_succ hspelling] at hderives
    have hjoined := Derives.chain (BinaryOperator.mem_operators_ofLevel hspelling) hspelling
      (hleft.ofLevel_mono hloose) hderives
    obtain ⟨⟨readRest, rfl, hformula⟩, hend⟩ := ih.chain hchain hlevel hjoined hafter
    refine ⟨⟨token :: (read ++ readRest), ?_, ?_⟩, hend⟩
    · rw [List.cons_append, List.append_assoc]
    · simpa using hformula

theorem soundWithin (cap : DepthCap) (room : ℕ) : SoundWithin cap room := by
  induction room with
  | zero => exact soundWithin_zero cap
  | succ room ih => exact ih.succ

theorem sound_expression (cap : DepthCap) (room level : ℕ) :
    Sound (.ofLevel level) (expression cap room level) :=
  fun _ _ _ h ↦ ((soundWithin cap room).expression h).1

theorem sound_primary (cap : DepthCap) (room : ℕ) :
    Sound .primary (primary (expression cap room 0) (unaryOperand cap room)) :=
  primary_sound (sound_expression cap room 0) (soundWithin cap room).unaryOperand

/-! ## Whole formulas -/

/-- What is parsed is read, and a strict reading leaves nothing before the end. -/
theorem parse_eq_ok_iff {cap : DepthCap} {strict : Bool} {tokens : List Token} {formula : Formula} :
    parse cap strict tokens = .ok formula ↔
      ∃ rest, expression cap (cap.room tokens.length) 0 tokens = .ok (formula, rest) ∧
        (strict = true → (headToken rest).lexeme = .finish) := by
  constructor
  · intro h
    obtain ⟨⟨whole, rest⟩, hread, hend⟩ := exists_of_bind_eq_ok h
    dsimp only at hend
    split at hend
    · exact absurd hend (by simp)
    · next hstop =>
      obtain rfl := Except.ok.inj hend
      exact ⟨rest, hread, by simpa using hstop⟩
  · rintro ⟨rest, hread, hend⟩
    rw [parse, hread]
    change (if _ then _ else _) = _
    rw [if_neg (by simpa using hend)]
    rfl

end PayFormula

import Mathlib
import PayFormula.Proofs.Formula.Room

/-!
# Counting the Levels That Are Open

The depth can also be kept in one counter for the whole reading, which is raised wherever a level
opens and lowered again when what opened it has been read; a chain lowers it at its end, by all the
levels of its operators at once.  Reading with a counter returns what reading with room returns and
leaves the counter as it found it.  Hence nothing that has been read takes levels from what follows
it, and a greater bound changes nothing but where the levels run out.
-/

namespace PayFormula

/-! ## Reading with a counter -/

/-- The tokens ahead and the number of levels that are open. -/
structure Cursor where
  tokens : List Token
  depth : ℕ

/-- What reads a part of a formula and moves the cursor behind it. -/
abbrev Counting (α : Type) := Cursor → Except SyntaxFault (α × Cursor)

namespace Cursor

/-- Open a level, if the cap admits one more. -/
def enter (cap : DepthCap) (cursor : Cursor) : Except SyntaxFault Cursor :=
  if cap.levels?.all (cursor.depth + 1 ≤ ·) then .ok { cursor with depth := cursor.depth + 1 }
  else .error (.nestedTooDeep cap.shown)

/-- Close levels. -/
def leave (count : ℕ) (cursor : Cursor) : Cursor := { cursor with depth := cursor.depth - count }

/-- Step over the token ahead. -/
def step (cursor : Cursor) : Cursor := { cursor with tokens := cursor.tokens.drop 1 }

/-- Step over the token that has to stand here. -/
def expect (wanted : Lexeme) (cursor : Cursor) : Except SyntaxFault Cursor := do
  return { cursor with tokens := ← PayFormula.expect wanted cursor.tokens }

end Cursor

namespace Counting

def separated (part : Counting Formula) : (limit : ℕ) → Counting (List Formula)
  | 0, cursor => .ok ([], cursor)
  | limit + 1, cursor => do
    let (first, cursor) ← part cursor
    if (headToken cursor.tokens).lexeme = .comma then
      let (others, cursor) ← separated part limit cursor.step
      return (first :: others, cursor)
    else return ([first], cursor)

def callArguments (part : Counting Formula) : Counting (List Formula) := fun cursor ↦ do
  let (arguments, cursor) ←
    if (headToken cursor.tokens).lexeme = .rightParen then .ok ([], cursor)
    else separated part cursor.tokens.length cursor
  return (arguments, ← cursor.expect .rightParen)

def reference (part : Counting Formula) (name : String) : Counting Formula := fun cursor ↦
  match (headToken cursor.tokens).lexeme with
  | .dot => do
    let (segments, rest) ← pathRest cursor.tokens
    return (.variable (name :: segments), { cursor with tokens := rest })
  | .leftParen => do
    let (arguments, cursor) ← callArguments part cursor.step
    return (.call name arguments, cursor)
  | _ => .ok (.variable [name], cursor)

def primary (inner operand : Counting Formula) : Counting Formula := fun cursor ↦
  match (headToken cursor.tokens).lexeme with
  | .name "NOT" | .operator .bang => do
    let (formula, cursor) ← operand cursor.step
    return (.unary .not formula, cursor)
  | .operator .minus => do
    let (formula, cursor) ← operand cursor.step
    return (.unary .negate formula, cursor)
  | .leftParen => do
    let (formula, cursor) ← inner cursor.step
    return (formula, ← cursor.expect .rightParen)
  | .number digits => .ok (.number (.text digits), cursor.step)
  | .text content => .ok (.text (.text content), cursor.step)
  | .name "TRUE" => .ok (.truth true, cursor.step)
  | .name "FALSE" => .ok (.truth false, cursor.step)
  | .name name => reference inner name cursor.step
  | _ => .error (.unexpectedToken (headToken cursor.tokens))

mutual

/-- The fuel bounds the recursion and no more: with two steps for each token and one more it never
runs out. -/
def unaryOperand (cap : DepthCap) : (fuel : ℕ) → Counting Formula
  | 0, _ => .error (.nestedTooDeep cap.shown)
  | fuel + 1, cursor => do
    let cursor ← cursor.enter cap
    let (formula, cursor) ← primary (expression cap fuel 0) (unaryOperand cap fuel) cursor
    return (formula, cursor.leave 1)

def expression (cap : DepthCap) : (fuel level : ℕ) → Counting Formula
  | 0, _, _ => .error (.nestedTooDeep cap.shown)
  | fuel + 1, level, cursor => do
    let cursor ← cursor.enter cap
    let (first, cursor) ← primary (expression cap fuel 0) (unaryOperand cap fuel) cursor
    chain cap fuel level 1 first cursor

/-- The operators after a first operand; `opened` levels are open for what has been read of the
chain. -/
def chain (cap : DepthCap) : (fuel level opened : ℕ) → Formula → Counting Formula
  | fuel, level, opened, left, cursor =>
    match chainOperator? level cursor.tokens with
    | none => .ok (left, cursor.leave opened)
    | some operator =>
      match fuel with
      | 0 => .error (.nestedTooDeep cap.shown)
      | fuel + 1 => do
        let cursor ← cursor.enter cap
        let (right, cursor) ← expression cap fuel (operator.level + 1) cursor.step
        chain cap fuel level (opened + 1) (.binary operator left right) cursor

end

/-- The formula that tokens spell, read with no level open at first. -/
def parse (cap : DepthCap) (strict : Bool) (tokens : List Token) : Except SyntaxFault Formula := do
  let (formula, cursor) ← expression cap (2 * tokens.length + 1) 0 ⟨tokens, 0⟩
  if strict && (headToken cursor.tokens).lexeme != .finish then
    .error (.trailingToken (headToken cursor.tokens))
  else return formula

end Counting

/-! ## The counter comes back -/

/-- At this depth the one reader does with the tokens what the other one does, and the depth is the
same afterwards. -/
def Counts {α : Type} (depth : ℕ) (counting : Counting α) (reader : Reader α) : Prop :=
  ∀ tokens, counting ⟨tokens, depth⟩ =
    (reader tokens).map fun read ↦ (read.1, ⟨read.2, depth⟩)

namespace Counts

variable {α β : Type} {depth : ℕ}

theorem depth_eq {counting : Counting α} {reader : Reader α} (h : Counts depth counting reader)
    {tokens : List Token} {a : α} {cursor : Cursor}
    (hread : counting ⟨tokens, depth⟩ = .ok (a, cursor)) : cursor.depth = depth := by
  rw [h tokens] at hread
  rcases hreader : reader tokens with fault | ⟨b, rest⟩
  · rw [hreader] at hread
    exact absurd hread (by simp [Except.map])
  · rw [hreader] at hread
    obtain ⟨-, rfl⟩ := ok_pair_inj hread
    rfl

theorem ok (a : α) : Counts depth (fun cursor ↦ .ok (a, cursor)) fun tokens ↦ .ok (a, tokens) :=
  fun _ ↦ rfl

/-- One reader after another. -/
theorem bind {counting : Counting α} {reader : Reader α} (h : Counts depth counting reader)
    {countingNext : α → Counting β} {next : α → Reader β}
    (hnext : ∀ a, Counts depth (countingNext a) (next a)) :
    Counts depth (fun cursor ↦ counting cursor >>= fun read ↦ countingNext read.1 read.2)
      fun tokens ↦ reader tokens >>= fun read ↦ next read.1 read.2 := by
  intro tokens
  dsimp only
  rw [h tokens]
  rcases reader tokens with fault | ⟨a, rest⟩
  · rfl
  · exact hnext a rest

theorem map {counting : Counting α} {reader : Reader α} (h : Counts depth counting reader)
    (change : α → β) :
    Counts depth (fun cursor ↦ counting cursor >>= fun read ↦ .ok (change read.1, read.2))
      fun tokens ↦ reader tokens >>= fun read ↦ .ok (change read.1, read.2) :=
  h.bind fun a ↦ ok (change a)

/-- A closing parenthesis after what has been read. -/
theorem close (a : α) :
    Counts depth (fun cursor ↦ cursor.expect .rightParen >>= fun cursor ↦ .ok (a, cursor))
      fun tokens ↦ PayFormula.expect .rightParen tokens >>= fun rest ↦ .ok (a, rest) := by
  intro tokens
  dsimp only [Cursor.expect]
  rcases PayFormula.expect .rightParen tokens <;> rfl

section Inside

variable {counting countingOperand : Counting Formula} {reader operand : Reader Formula}

theorem separated (h : Counts depth counting reader) (limit : ℕ) :
    Counts depth (Counting.separated counting limit) (PayFormula.separated reader limit) := by
  induction limit with
  | zero => exact fun _ ↦ rfl
  | succ limit ih =>
    intro tokens
    rw [Counting.separated, PayFormula.separated, h]
    rcases reader tokens with fault | ⟨first, rest⟩
    · rfl
    change (if _ then _ else _) = Except.map _ (if _ then _ else _)
    split
    · exact ih.map (first :: ·) (rest.drop 1)
    · rfl

theorem callArguments (h : Counts depth counting reader) :
    Counts depth (Counting.callArguments counting) (PayFormula.callArguments reader) := by
  have harguments : Counts depth
      (fun cursor ↦ if (headToken cursor.tokens).lexeme = .rightParen then .ok ([], cursor)
        else Counting.separated counting cursor.tokens.length cursor)
      fun tokens ↦ if (headToken tokens).lexeme = .rightParen then .ok ([], tokens)
        else PayFormula.separated reader tokens.length tokens := by
    intro tokens
    dsimp only
    split
    · rfl
    · exact h.separated tokens.length tokens
  intro tokens
  rw [callArguments_eq]
  refine Eq.trans ?_ (harguments.bind close tokens)
  unfold Counting.callArguments
  dsimp only
  split <;> rfl

theorem reference (h : Counts depth counting reader) (name : String) :
    Counts depth (Counting.reference counting name) (PayFormula.reference reader name) := by
  intro tokens
  unfold Counting.reference
  -- Both look at the same token, so they go the same way.
  fun_cases PayFormula.reference reader name tokens <;> simp_all only
  · rcases pathRest tokens <;> rfl
  · exact h.callArguments.map (Formula.call name) (tokens.drop 1)
  · rfl

theorem primary (h : Counts depth counting reader)
    (hoperand : Counts depth countingOperand operand) :
    Counts depth (Counting.primary counting countingOperand)
      (PayFormula.primary reader operand) := by
  intro tokens
  unfold Counting.primary
  fun_cases PayFormula.primary reader operand tokens <;> simp_all only
  · exact hoperand.map (Formula.unary .not) (tokens.drop 1)
  · exact hoperand.map (Formula.unary .not) (tokens.drop 1)
  · exact hoperand.map (Formula.unary .negate) (tokens.drop 1)
  · exact h.bind close (tokens.drop 1)
  · rfl
  · rfl
  · rfl
  · rfl
  · exact h.reference _ (tokens.drop 1)
  · rfl

end Inside

end Counts

/-! ## The counter and the room -/

/-- The levels that may still be opened at a depth, and for which there is fuel. -/
def DepthCap.roomLeft (cap : DepthCap) (fuel depth : ℕ) : ℕ :=
  match cap.levels? with
  | none => fuel
  | some levels => min fuel (levels - depth)

theorem roomLeft_zero (cap : DepthCap) (depth : ℕ) : cap.roomLeft 0 depth = 0 := by
  unfold DepthCap.roomLeft
  split
  · rfl
  · exact Nat.zero_min _

/-- A level is opened exactly where there is room for it. -/
theorem enter_cases (cap : DepthCap) (fuel depth : ℕ) (tokens : List Token) :
    Cursor.enter cap ⟨tokens, depth⟩ = .ok ⟨tokens, depth + 1⟩ ∧
        cap.roomLeft (fuel + 1) depth = cap.roomLeft fuel (depth + 1) + 1 ∨
      Cursor.enter cap ⟨tokens, depth⟩ = .error (.nestedTooDeep cap.shown) ∧
        cap.roomLeft (fuel + 1) depth = 0 := by
  unfold Cursor.enter DepthCap.roomLeft
  rcases cap.levels? with _ | levels
  · exact .inl ⟨rfl, rfl⟩
  · dsimp only [Option.all_some]
    rcases Nat.lt_or_ge depth levels with hlt | hge
    · rw [if_pos (by simpa using hlt)]
      exact .inl ⟨rfl, by omega⟩
    · rw [if_neg (by simpa using hge)]
      exact .inr ⟨rfl, by omega⟩

/-- What the readers with a counter do, in terms of the room that the counter leaves. -/
structure CountsWithin (cap : DepthCap) (fuel : ℕ) : Prop where
  unaryOperand : ∀ depth, Counts depth (Counting.unaryOperand cap fuel)
    (unaryOperand cap (cap.roomLeft fuel depth))
  expression : ∀ depth level, Counts depth (Counting.expression cap fuel level)
    (expression cap (cap.roomLeft fuel depth) level)
  chain : ∀ depth level opened left tokens,
    Counting.chain cap fuel level opened left ⟨tokens, depth⟩ =
      (chain cap (cap.roomLeft fuel depth) level left tokens).map
        fun read ↦ (read.1, ⟨read.2, depth - opened⟩)

theorem counting_chain_of_stop {cap : DepthCap} {fuel room depth level opened : ℕ} {left : Formula}
    {tokens : List Token} (hnone : chainOperator? level tokens = none) :
    Counting.chain cap fuel level opened left ⟨tokens, depth⟩ =
      (chain cap room level left tokens).map fun read ↦ (read.1, ⟨read.2, depth - opened⟩) := by
  rw [chain_eq_self cap room left hnone]
  unfold Counting.chain
  rw [hnone]
  rfl

/-- An operator for which there is no room. -/
theorem chain_zero {cap : DepthCap} {level : ℕ} {left : Formula} {tokens : List Token}
    {operator : BinaryOperator} (h : chainOperator? level tokens = some operator) :
    chain cap 0 level left tokens = .error (.nestedTooDeep cap.shown) := by
  unfold chain
  rw [h]

theorem countsWithin_zero (cap : DepthCap) : CountsWithin cap 0 where
  unaryOperand depth tokens := by
    rw [roomLeft_zero, Counting.unaryOperand, unaryOperand]
    rfl
  expression depth level tokens := by
    rw [roomLeft_zero, Counting.expression, expression]
    rfl
  chain depth level opened left tokens := by
    rcases hoperator : chainOperator? level tokens with _ | operator
    · exact counting_chain_of_stop hoperator
    · rw [roomLeft_zero, chain_zero hoperator]
      unfold Counting.chain
      rw [hoperator]
      rfl

theorem CountsWithin.succ {cap : DepthCap} {fuel : ℕ} (ih : CountsWithin cap fuel) :
    CountsWithin cap (fuel + 1) := by
  have hprimary (depth : ℕ) := (ih.expression depth 0).primary (ih.unaryOperand depth)
  constructor
  case unaryOperand =>
    intro depth tokens
    rw [Counting.unaryOperand]
    rcases enter_cases cap fuel depth tokens with ⟨henter, hroom⟩ | ⟨henter, hroom⟩
    · rw [henter, hroom, PayFormula.unaryOperand]
      change Counting.primary _ _ ⟨tokens, depth + 1⟩ >>= _ = _
      rw [hprimary]
      rcases PayFormula.primary _ _ tokens <;> rfl
    · rw [henter, hroom, PayFormula.unaryOperand]
      rfl
  case expression =>
    intro depth level tokens
    rw [Counting.expression]
    rcases enter_cases cap fuel depth tokens with ⟨henter, hroom⟩ | ⟨henter, hroom⟩
    · rw [henter, hroom, PayFormula.expression]
      change Counting.primary _ _ ⟨tokens, depth + 1⟩ >>= _ = _
      rw [hprimary]
      rcases PayFormula.primary _ _ tokens with fault | ⟨first, rest⟩
      · rfl
      · exact ih.chain (depth + 1) level 1 first rest
    · rw [henter, hroom, PayFormula.expression]
      rfl
  case chain =>
    intro depth level opened left tokens
    rcases hoperator : chainOperator? level tokens with _ | operator
    · exact counting_chain_of_stop hoperator
    unfold Counting.chain
    rw [hoperator]
    dsimp only
    rcases enter_cases cap fuel depth tokens with ⟨henter, hroom⟩ | ⟨henter, hroom⟩
    · obtain ⟨token, tokens, rfl, -⟩ :=
        operatorAhead?_eq_some (chainOperator?_eq_some.1 hoperator).1
      rw [henter, hroom, chain_eq_bind cap _ left hoperator]
      change Counting.expression cap fuel _ ⟨tokens, depth + 1⟩ >>= _ = _
      rw [ih.expression]
      rcases PayFormula.expression cap _ _ tokens with fault | ⟨right, rest⟩
      · rfl
      · -- The level of this operator is closed with those before it.
        have hchain := ih.chain (depth + 1) level (opened + 1) (.binary operator left right) rest
        rwa [Nat.add_sub_add_right] at hchain
    · rw [henter, hroom, chain_zero hoperator]
      rfl

theorem countsWithin (cap : DepthCap) (fuel : ℕ) : CountsWithin cap fuel := by
  induction fuel with
  | zero => exact countsWithin_zero cap
  | succ fuel ih => exact ih.succ

/-! ## Whole formulas -/

/-- With enough fuel no more than the cap bounds the room. -/
theorem expression_roomLeft_eq (cap : DepthCap) {fuel : ℕ} {tokens : List Token}
    (hfuel : 2 * tokens.length < fuel) :
    expression cap (cap.roomLeft fuel 0) 0 tokens =
      expression cap (cap.room tokens.length) 0 tokens := by
  unfold DepthCap.roomLeft DepthCap.room
  rcases cap.levels? with _ | levels
  · exact expression_eq_of_ample (Nat.lt_succ_self _) hfuel 0
  · dsimp only [Option.getD_some]
    rw [Nat.sub_zero]
    rcases Nat.le_total levels fuel with hle | hge
    · rw [Nat.min_eq_right hle]
    · rw [Nat.min_eq_left hge]
      exact (expression_eq_of_ample hfuel hge 0).symm

theorem counting_parse_eq (cap : DepthCap) (strict : Bool) (tokens : List Token) :
    Counting.parse cap strict tokens = parse cap strict tokens := by
  rw [Counting.parse, parse, (countsWithin cap _).expression,
    expression_roomLeft_eq cap (Nat.lt_succ_self _)]
  rcases expression cap (cap.room tokens.length) 0 tokens <;> rfl

/-- A greater bound returns what a smaller one does, and fails for the same reason unless the levels
ran out; counting the levels that are open is the same reading; and the counter is the same after
each part as before it. -/
theorem depth_budget_is_monotone_and_kept :
    (∀ (cap cap' : DepthCap) (strict : Bool) (tokens : List Token), cap.AtMost cap' →
      (∀ formula, parse cap strict tokens = .ok formula → parse cap' strict tokens = .ok formula) ∧
      ∀ fault, parse cap strict tokens = .error fault →
        (∀ shown, fault ≠ .nestedTooDeep shown) → parse cap' strict tokens = .error fault) ∧
    (∀ (cap : DepthCap) (strict : Bool) (tokens : List Token),
      Counting.parse cap strict tokens = parse cap strict tokens) ∧
    ∀ (cap : DepthCap) (fuel : ℕ) (before after : Cursor) (formula : Formula),
      (∀ level, Counting.expression cap fuel level before = .ok (formula, after) →
        after.depth = before.depth) ∧
      (Counting.primary (Counting.expression cap fuel 0) (Counting.unaryOperand cap fuel) before =
        .ok (formula, after) → after.depth = before.depth) ∧
      (Counting.unaryOperand cap fuel before = .ok (formula, after) →
        after.depth = before.depth) := by
  refine ⟨?_, counting_parse_eq, ?_⟩
  · intro cap cap' strict tokens hcap
    have hsame := parse_sameUnlessTooDeep hcap strict tokens
    constructor
    · intro formula h
      rw [h] at hsame
      exact hsame.resolve_left (not_isTooDeep_ok formula)
    · intro fault h hfault
      rw [h] at hsame
      exact hsame.resolve_left (not_isTooDeep_error hfault)
  · rintro cap fuel ⟨tokens, depth⟩ after formula
    have hwithin := countsWithin cap fuel
    have hprimary := (hwithin.expression depth 0).primary (hwithin.unaryOperand depth)
    exact ⟨fun level ↦ (hwithin.expression depth level).depth_eq, hprimary.depth_eq,
      (hwithin.unaryOperand depth).depth_eq⟩

/-- `1 + 2` with three levels, which are all that it needs, and `1 2` with one. -/
theorem depth_budget_is_monotone_and_kept_sum :
    let tokens : List Token :=
      [⟨.number "1", 0⟩, ⟨.operator .plus, 2⟩, ⟨.number "2", 4⟩, ⟨.finish, 5⟩]
    let sum : Formula := .binary .plus (.number (.text "1")) (.number (.text "2"))
    let pair : List Token := [⟨.number "1", 0⟩, ⟨.number "2", 2⟩, ⟨.finish, 3⟩]
    let fault : SyntaxFault := .trailingToken ⟨.number "2", 2⟩
    (parse (.ofInt 3) true tokens = .ok sum ∧ parse (.ofInt 4) true tokens = .ok sum) ∧
      (parse (.ofInt 1) true pair = .error fault ∧ parse (.ofInt 4) true pair = .error fault) ∧
      Counting.expression (.ofInt 3) 9 0 ⟨tokens, 0⟩ = .ok (sum, ⟨[⟨.finish, 5⟩], 0⟩) ∧
      (⟨[⟨.finish, 5⟩], 0⟩ : Cursor).depth = (⟨tokens, 0⟩ : Cursor).depth := by
  intro tokens sum pair fault
  obtain ⟨hmono, -, hkept⟩ := depth_budget_is_monotone_and_kept
  have hcap (m n : ℕ) (h : m ≤ n) : (DepthCap.ofInt m).AtMost (.ofInt n) := by
    intro levels hlevels
    obtain rfl := Option.some.inj hlevels
    exact ⟨m, rfl, h⟩
  have hsum : parse (.ofInt 3) true tokens = .ok sum := rfl
  have hpair : parse (.ofInt 1) true pair = .error fault := rfl
  have hread : Counting.expression (.ofInt 3) 9 0 ⟨tokens, 0⟩ =
      .ok (sum, ⟨[⟨.finish, 5⟩], 0⟩) := rfl
  refine ⟨⟨hsum, ?_⟩, ⟨hpair, ?_⟩, hread, ?_⟩
  · exact (hmono _ (.ofInt 4) true tokens (hcap 3 4 (by decide))).1 sum hsum
  · exact (hmono _ (.ofInt 4) true pair (hcap 1 4 (by decide))).2 fault hpair (by simp [fault])
  · exact (hkept _ 9 _ _ sum).1 0 hread

end PayFormula

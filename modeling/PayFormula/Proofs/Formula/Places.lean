import Mathlib
import PayFormula.Proofs.Formula.DepthCounter
import PayFormula.Proofs.Formula.Scanning

/-!
# Reading by Index

A formula can also be read with an index into its tokens, which is raised to step over a token and
used to look at the next one.  The index might leave the tokens, and readers that call each other
for ever would use up any fuel.  Neither happens where the last token is an end: no reader steps
over an end, and each operand takes a token before another one is read.  So with two steps of fuel
for each token and one more every reading ends within the tokens, with the formula or the fault that
reading from a list gives, under any cap and under none.
-/

namespace PayFormula

/-! ## Readers with an index -/

/-- Why reading by index ends without a formula. -/
inductive Halt where
  | fault (cause : SyntaxFault)
  /-- No token has the index. -/
  | outside (index : ℕ)

/-- The index that is reached, the token looked at and the number of levels that are open. -/
structure Place where
  index : ℕ
  current : Token
  depth : ℕ

/-- The place before anything is looked at. -/
def Place.start : Place := ⟨0, ⟨.finish, 0⟩, 0⟩

/-- What reads a part of a formula and moves the place, also where it fails.  What runs out of fuel
has no outcome. -/
abbrev Indexed (α : Type) := ExceptT Halt (StateT Place Option) α

namespace Indexed

def runFrom {α : Type} (reader : Indexed α) (place : Place) : Option (Except Halt α × Place) :=
  reader.run.run place

/-- Look at the token that has the index. -/
def look (tokens : List Token) : Indexed Unit := do
  let place ← get
  match tokens[place.index]? with
  | some token => set { place with current := token }
  | none => throw (.outside place.index)

def advance (tokens : List Token) : Indexed Unit := do
  modify fun place ↦ { place with index := place.index + 1 }
  look tokens

/-- Step over the token that has to stand here. -/
def eat (tokens : List Token) (wanted : TokenKind) : Indexed Unit := do
  let found := (← get).current.kind
  if found = wanted then advance tokens else throw (.fault (.expected wanted found))

/-- Open a level, if the cap admits one more. -/
def enter (cap : DepthCap) : Indexed Unit := do
  modify fun place ↦ { place with depth := place.depth + 1 }
  unless cap.levels?.all ((← get).depth ≤ ·) do throw (.fault (.nestedTooDeep cap.shown))

def leave (count : ℕ) : Indexed Unit :=
  modify fun place ↦ { place with depth := place.depth - count }

/-- There is no fuel left. -/
def exhausted {α : Type} : Indexed α := fun _ ↦ none

def pathRest (tokens : List Token) : (fuel : ℕ) → Indexed (List String)
  | 0 => exhausted
  | fuel + 1 => do
    match (← get).current.lexeme with
    | .dot =>
      eat tokens .dot
      match (← get).current.lexeme with
      | .name segment =>
        eat tokens .name
        return segment :: (← pathRest tokens fuel)
      | lexeme => throw (.fault (.expectedNameAfterDot lexeme.kind))
    | _ => return []

def separated (tokens : List Token) (part : Indexed Formula) : (fuel : ℕ) → Indexed (List Formula)
  | 0 => exhausted
  | fuel + 1 => do
    let first ← part
    if (← get).current.lexeme = .comma then
      eat tokens .comma
      return first :: (← separated tokens part fuel)
    else return [first]

def callArguments (tokens : List Token) (fuel : ℕ) (part : Indexed Formula) :
    Indexed (List Formula) := do
  let arguments ←
    if (← get).current.lexeme = .rightParen then pure [] else separated tokens part fuel
  eat tokens .rightParen
  return arguments

def reference (tokens : List Token) (fuel : ℕ) (part : Indexed Formula) (name : String) :
    Indexed Formula := do
  match (← get).current.lexeme with
  | .dot => return .variable (name :: (← pathRest tokens fuel))
  | .leftParen =>
    eat tokens .leftParen
    return .call name (← callArguments tokens fuel part)
  | _ => return .variable [name]

def primary (tokens : List Token) (fuel : ℕ) (inner operand : Indexed Formula) :
    Indexed Formula := do
  let token := (← get).current
  match token.lexeme with
  | .name "NOT" | .operator .bang =>
    eat tokens token.kind
    return .unary .not (← operand)
  | .operator .minus =>
    eat tokens .operator
    return .unary .negate (← operand)
  | .leftParen =>
    eat tokens .leftParen
    let formula ← inner
    eat tokens .rightParen
    return formula
  | .number digits =>
    eat tokens .number
    return .number (.text digits)
  | .text content =>
    eat tokens .text
    return .text (.text content)
  | .name "TRUE" =>
    eat tokens .name
    return .truth true
  | .name "FALSE" =>
    eat tokens .name
    return .truth false
  | .name name =>
    eat tokens .name
    reference tokens fuel inner name
  | _ => throw (.fault (.unexpectedToken token))

mutual

def unaryOperand (cap : DepthCap) (tokens : List Token) : (fuel : ℕ) → Indexed Formula
  | 0 => exhausted
  | fuel + 1 => do
    enter cap
    let formula ← primary tokens fuel (expression cap tokens fuel 0) (unaryOperand cap tokens fuel)
    leave 1
    return formula

def expression (cap : DepthCap) (tokens : List Token) : (fuel level : ℕ) → Indexed Formula
  | 0, _ => exhausted
  | fuel + 1, level => do
    enter cap
    let first ← primary tokens fuel (expression cap tokens fuel 0) (unaryOperand cap tokens fuel)
    chain cap tokens fuel level 1 first

/-- The operators after a first operand; `opened` levels are open for what has been read of the
chain. -/
def chain (cap : DepthCap) (tokens : List Token) :
    (fuel level opened : ℕ) → Formula → Indexed Formula
  | 0, _, _, _ => exhausted
  | fuel + 1, level, opened, left => do
    match chainOperator? level [(← get).current] with
    | none =>
      leave opened
      return left
    | some operator =>
      enter cap
      advance tokens
      let right ← expression cap tokens fuel (operator.level + 1)
      chain cap tokens fuel level (opened + 1) (.binary operator left right)

end

/-- The formula that tokens spell from the place on. -/
def parse (cap : DepthCap) (strict : Bool) (tokens : List Token) (fuel : ℕ) : Indexed Formula := do
  let formula ← expression cap tokens fuel 0
  let token := (← get).current
  if strict && token.lexeme != .finish then throw (.fault (.trailingToken token))
  else return formula

/-- The formula that tokens spell, read from the first of them on. -/
def ofTokens (cap : DepthCap) (strict : Bool) (tokens : List Token) (fuel : ℕ) :
    Option (Except Halt Formula × Place) :=
  (look tokens >>= fun _ ↦ parse cap strict tokens fuel).runFrom .start

/-- The formula that a text spells: the text is cut by index, and the tokens are read by index. -/
def ofText (cap : DepthCap) (strict : Bool) (s : String) (fuel : ℕ) :
    Option (Except Halt Formula) := do
  match ← Scanning.tokenize s fuel with
  | .error cause => return .error (.fault cause)
  | .ok tokens =>
    let (result, _) ← ofTokens cap strict tokens fuel
    return result

theorem runFrom_bind {α β : Type} (reader : Indexed α) (next : α → Indexed β) (place : Place) :
    (reader >>= next).runFrom place =
      (reader.runFrom place).bind fun read ↦
        match read.1 with
        | .ok a => (next a).runFrom read.2
        | .error halt => some (.error halt, read.2) := by
  change (reader.runFrom place).bind _ = _
  rcases reader.runFrom place with _ | ⟨_ | a, after⟩ <;> rfl

theorem runFrom_look {tokens : List Token} (place : Place) {token : Token}
    (h : tokens[place.index]? = some token) :
    (look tokens).runFrom place = some (.ok (), { place with current := token }) := by
  change runFrom (match tokens[place.index]? with | some _ => _ | none => _) _ = _
  rw [h]
  rfl

/-- A level is opened before it is known whether there is one. -/
theorem runFrom_enter (cap : DepthCap) (place : Place) :
    (enter cap).runFrom place =
      some (if cap.levels?.all (place.depth + 1 ≤ ·) then .ok ()
          else .error (.fault (.nestedTooDeep cap.shown)),
        { place with depth := place.depth + 1 }) := by
  change runFrom (if cap.levels?.all (place.depth + 1 ≤ ·) = true then _ else _) _ = _
  split <;> rfl

end Indexed

/-! ## Places and cursors -/

/-- From the place on the tokens are those that the cursor has ahead. -/
structure Place.At (tokens : List Token) (place : Place) (cursor : Cursor) : Prop where
  ahead : tokens.drop place.index = cursor.tokens
  current : cursor.tokens.head? = some place.current
  depth : place.depth = cursor.depth

/-- The last token is an end. -/
def Finished (tokens : List Token) : Prop := ∃ last ∈ tokens.getLast?, last.lexeme = .finish

theorem Cursor.length_step (cursor : Cursor) :
    cursor.step.tokens.length = cursor.tokens.length - 1 :=
  List.length_drop

namespace Place.At

variable {tokens : List Token} {place : Place} {cursor : Cursor}

theorem of_getElem? (h : tokens[place.index]? = some place.current) :
    place.At tokens ⟨tokens.drop place.index, place.depth⟩ where
  ahead := rfl
  current := by rw [List.head?_drop, h]
  depth := rfl

theorem exists_eq_cons (h : place.At tokens cursor) :
    ∃ rest, cursor = ⟨place.current :: rest, place.depth⟩ := by
  obtain ⟨rest, hrest⟩ := List.head?_eq_some_iff.1 h.current
  exact ⟨rest, by rw [h.depth, ← hrest]⟩

theorem headToken_eq (h : place.At tokens cursor) : headToken cursor.tokens = place.current := by
  obtain ⟨rest, rfl⟩ := h.exists_eq_cons
  rfl

theorem length_pos (h : place.At tokens cursor) : 0 < cursor.tokens.length := by
  obtain ⟨rest, rfl⟩ := h.exists_eq_cons
  exact Nat.succ_pos _

theorem index_add_length (h : place.At tokens cursor) :
    place.index + cursor.tokens.length = tokens.length := by
  have hlength := congrArg List.length h.ahead
  have hpos := h.length_pos
  rw [List.length_drop] at hlength
  omega

theorem index_lt (h : place.At tokens cursor) : place.index < tokens.length := by
  have hlength := h.index_add_length
  have hpos := h.length_pos
  omega

/-- Any token but an end has another one behind it. -/
theorem exists_next (h : place.At tokens cursor) (hlast : Finished tokens)
    (hcurrent : place.current.lexeme ≠ .finish) :
    ∃ next rest, cursor.step = ⟨next :: rest, place.depth⟩ ∧
      tokens.drop (place.index + 1) = next :: rest := by
  obtain ⟨rest, rfl⟩ := h.exists_eq_cons
  have hdrop := drop_succ_of_drop_eq_cons h.ahead
  cases rest with
  | cons next rest => exact ⟨next, rest, rfl, hdrop⟩
  | nil =>
    obtain ⟨last, hmem, hfinish⟩ := hlast
    have hdropped := congrArg List.getLast? h.ahead
    rw [List.getLast?_drop, if_neg (Nat.not_le.2 h.index_lt)] at hdropped
    rw [hdropped] at hmem
    obtain rfl := Option.some.inj hmem
    exact absurd hfinish hcurrent

/-- The operator of a chain depends on the token that is looked at. -/
theorem chainOperator?_current (h : place.At tokens cursor) (level : ℕ) :
    chainOperator? level [place.current] = chainOperator? level cursor.tokens := by
  obtain ⟨rest, rfl⟩ := h.exists_eq_cons
  rfl

theorem current_ne_finish (h : place.At tokens cursor) {level : ℕ} {operator : BinaryOperator}
    (hoperator : chainOperator? level cursor.tokens = some operator) :
    place.current.lexeme ≠ .finish := by
  rw [← h.chainOperator?_current] at hoperator
  intro hfinish
  simp [chainOperator?, operatorAhead?, headToken, hfinish] at hoperator

end Place.At

/-! ## Following a reading from a list -/

/-- An outcome by index and the result of reading from a list: they agree, and the place is one of
the tokens, not before the start. -/
inductive Agree {α : Type} (tokens : List Token) (start : ℕ) :
    Option (Except Halt α × Place) → Except SyntaxFault (α × Cursor) → Prop where
  | value {a : α} {place : Place} {cursor : Cursor} (hstart : start ≤ place.index)
    (hplace : place.At tokens cursor) : Agree tokens start (some (.ok a, place)) (.ok (a, cursor))
  | fault {cause : SyntaxFault} {place : Place} (hstart : start ≤ place.index)
    (hindex : place.index < tokens.length) :
    Agree tokens start (some (.error (.fault cause), place)) (.error cause)

theorem Agree.mono {α : Type} {tokens : List Token} {start start' : ℕ}
    {outcome : Option (Except Halt α × Place)} {result : Except SyntaxFault (α × Cursor)}
    (h : Agree tokens start outcome result) (hle : start' ≤ start) :
    Agree tokens start' outcome result := by
  cases h with
  | value hstart hplace => exact .value (hle.trans hstart) hplace
  | fault hstart hindex => exact .fault (hle.trans hstart) hindex

/-- From the place a reader by index ends as the reading from a list does. -/
def Follows {α : Type} (tokens : List Token) (reader : Indexed α) (place : Place)
    (result : Except SyntaxFault (α × Cursor)) : Prop :=
  Agree tokens place.index (reader.runFrom place) result

namespace Follows

variable {α β : Type} {tokens : List Token} {place : Place} {cursor : Cursor}

theorem pure (h : place.At tokens cursor) (a : α) :
    Follows tokens (Pure.pure a) place (.ok (a, cursor)) :=
  .value le_rfl h

theorem throw (h : place.At tokens cursor) (cause : SyntaxFault) :
    Follows (α := α) tokens (MonadExcept.throw (.fault cause)) place (.error cause) :=
  .fault le_rfl h.index_lt

theorem bind {reader : Indexed α} {next : α → Indexed β} {result : Except SyntaxFault (α × Cursor)}
    {after : α × Cursor → Except SyntaxFault (β × Cursor)} (h : Follows tokens reader place result)
    (hnext : ∀ a place' cursor', result = .ok (a, cursor') → place'.At tokens cursor' →
      Follows tokens (next a) place' (after (a, cursor'))) :
    Follows tokens (reader >>= next) place (result >>= after) := by
  unfold Follows at h ⊢
  rw [Indexed.runFrom_bind]
  generalize reader.runFrom place = outcome at h ⊢
  cases h with
  | value hstart hplace => exact (hnext _ _ _ rfl hplace).mono hstart
  | fault hstart hindex => exact .fault hstart hindex

/-- What has been read is changed afterwards. -/
theorem map {reader : Indexed α} {result : Except SyntaxFault (α × Cursor)}
    (h : Follows tokens reader place result) (change : α → β) :
    Follows tokens (reader >>= fun a ↦ Pure.pure (change a)) place
      (result >>= fun read ↦ .ok (change read.1, read.2)) :=
  h.bind fun a _ _ _ hplace ↦ .pure hplace (change a)

theorem get_bind {next : Place → Indexed α} {result : Except SyntaxFault (α × Cursor)}
    (h : Follows tokens (next place) place result) :
    Follows tokens (MonadState.get >>= next) place result := h

/-! ### Steps -/

section Steps

variable {next : Unit → Indexed α} {result : Except SyntaxFault (α × Cursor)}

/-- Only an end must not be stepped over. -/
theorem advance_bind (hlast : Finished tokens) (hplace : place.At tokens cursor)
    (hcurrent : place.current.lexeme ≠ .finish)
    (hnext : ∀ place', place'.At tokens cursor.step → Follows tokens (next ()) place' result) :
    Follows tokens (Indexed.advance tokens >>= next) place result := by
  obtain ⟨token, rest, hstep, hdrop⟩ := hplace.exists_next hlast hcurrent
  have hadvance : (Indexed.advance tokens).runFrom place =
      some (.ok (), ⟨place.index + 1, token, place.depth⟩) :=
    Indexed.runFrom_look ⟨place.index + 1, place.current, place.depth⟩
      (getElem?_of_drop_eq_cons hdrop)
  rw [hstep] at hnext
  unfold Follows
  rw [Indexed.runFrom_bind, hadvance]
  exact (hnext ⟨place.index + 1, token, place.depth⟩ ⟨hdrop, rfl, rfl⟩).mono (Nat.le_succ _)

/-- Step over a token that is known to stand here. -/
theorem eat_bind (hlast : Finished tokens) (hplace : place.At tokens cursor) {lexeme : Lexeme}
    {kind : TokenKind} (hcurrent : place.current.lexeme = lexeme) (hkind : lexeme.kind = kind)
    (hlexeme : lexeme ≠ .finish)
    (hnext : ∀ place', place'.At tokens cursor.step → Follows tokens (next ()) place' result) :
    Follows tokens (Indexed.eat tokens kind >>= next) place result := by
  subst hcurrent
  rw [Indexed.eat, bind_assoc]
  apply get_bind
  dsimp only [Token.kind]
  rw [if_pos hkind]
  exact advance_bind hlast hplace hlexeme hnext

end Steps

/-- A token that is all of what is read. -/
theorem eat_pure (hlast : Finished tokens) (hplace : place.At tokens cursor) {lexeme : Lexeme}
    {kind : TokenKind} (hcurrent : place.current.lexeme = lexeme) (hkind : lexeme.kind = kind)
    (hlexeme : lexeme ≠ .finish) (a : α) :
    Follows tokens (Indexed.eat tokens kind >>= fun _ ↦ Pure.pure a) place
      (.ok (a, cursor.step)) :=
  eat_bind hlast hplace hcurrent hkind hlexeme fun _ hplace' ↦ pure hplace' a

/-- A closing parenthesis after what has been read. -/
theorem close (hlast : Finished tokens) (hplace : place.At tokens cursor) (a : α) :
    Follows tokens (Indexed.eat tokens .rightParen >>= fun _ ↦ Pure.pure a) place
      (cursor.expect .rightParen >>= fun cursor ↦ .ok (a, cursor)) := by
  have hkind : place.current.kind = .rightParen ↔ place.current.lexeme = .rightParen := by
    rw [Token.kind]
    cases place.current.lexeme <;> simp [Lexeme.kind]
  have hexpect : cursor.expect .rightParen =
      if place.current.lexeme = .rightParen then .ok cursor.step
      else .error (.expected .rightParen place.current.kind) := by
    rw [Cursor.expect, PayFormula.expect, hplace.headToken_eq]
    split <;> rfl
  rw [hexpect]
  split
  · next hclose =>
    exact eat_pure hlast hplace hclose rfl (by simp) a
  · next hclose =>
    rw [Indexed.eat, bind_assoc]
    apply get_bind
    dsimp only
    rw [if_neg (mt hkind.1 hclose)]
    exact throw hplace _

theorem enter_bind (cap : DepthCap) (hplace : place.At tokens cursor) {next : Unit → Indexed α}
    {after : Cursor → Except SyntaxFault (α × Cursor)}
    (hnext : ∀ place' cursor', place'.At tokens cursor' → cursor'.tokens = cursor.tokens →
      Follows tokens (next ()) place' (after cursor')) :
    Follows tokens (Indexed.enter cap >>= next) place (cursor.enter cap >>= after) := by
  unfold Follows
  rw [Indexed.runFrom_bind, Indexed.runFrom_enter, Cursor.enter, ← hplace.depth]
  split
  · exact hnext { place with depth := place.depth + 1 } { cursor with depth := place.depth + 1 }
      ⟨hplace.ahead, hplace.current, rfl⟩ rfl
  · exact .fault le_rfl hplace.index_lt

theorem leave (hplace : place.At tokens cursor) (count : ℕ) (a : α) :
    Follows tokens (Indexed.leave count >>= fun _ ↦ Pure.pure a) place
      (.ok (a, cursor.leave count)) := by
  have hleft : Place.At tokens { place with depth := place.depth - count } (cursor.leave count) :=
    ⟨hplace.ahead, hplace.current, congrArg (· - count) hplace.depth⟩
  exact .value le_rfl hleft

end Follows

/-! ## Readers inside others -/

theorem follows_pathRest {tokens : List Token} {place : Place} {fuel : ℕ} {ahead : List Token}
    {depth : ℕ} (hlast : Finished tokens) (hplace : place.At tokens ⟨ahead, depth⟩)
    (hfuel : ahead.length ≤ fuel) :
    Follows tokens (Indexed.pathRest tokens fuel) place
      (pathRest ahead >>= fun read ↦ .ok (read.1, ⟨read.2, depth⟩)) := by
  induction fuel generalizing place ahead with
  | zero => exact absurd hplace.length_pos (Nat.not_lt.2 hfuel)
  | succ fuel ih =>
  rw [Indexed.pathRest]
  cases ahead using pathRest.fun_cases with
  | case1 dot segment name rest =>
    have hread : pathRest (⟨.dot, dot⟩ :: ⟨.name segment, name⟩ :: rest) >>=
          (fun read ↦ .ok (read.1, (⟨read.2, depth⟩ : Cursor))) =
        (pathRest rest >>= fun read ↦ .ok (read.1, (⟨read.2, depth⟩ : Cursor))) >>=
          fun read ↦ .ok (segment :: read.1, read.2) := by
      rw [pathRest]
      rcases pathRest rest <;> rfl
    have hdot : place.current = ⟨.dot, dot⟩ := hplace.headToken_eq.symm
    rw [hread]
    apply Follows.get_bind
    rw [hdot]
    refine .eat_bind hlast hplace (congrArg Token.lexeme hdot) rfl (by simp) fun place' hplace' ↦ ?_
    have hname : place'.current = ⟨.name segment, name⟩ := hplace'.headToken_eq.symm
    apply Follows.get_bind
    rw [hname]
    refine .eat_bind hlast hplace' (congrArg Token.lexeme hname) rfl (by simp)
      fun place'' hplace'' ↦ ?_
    have hleft : rest.length ≤ fuel := Nat.le_of_succ_le (Nat.le_of_succ_le_succ hfuel)
    exact (ih hplace'' hleft).map (segment :: ·)
  | case2 dot rest hname =>
    have hdot : place.current = ⟨.dot, dot⟩ := hplace.headToken_eq.symm
    apply Follows.get_bind
    rw [hdot]
    refine .eat_bind hlast hplace (congrArg Token.lexeme hdot) rfl (by simp) fun place' hplace' ↦ ?_
    have hhead : headToken rest = place'.current := hplace'.headToken_eq
    have hfault : pathRest (⟨.dot, dot⟩ :: rest) =
        .error (.expectedNameAfterDot place'.current.kind) := by
      rw [← hhead, pathRest]
      exact hname
    rw [hfault]
    apply Follows.get_bind
    split
    · next segment hsegment =>
      obtain ⟨position, hrest⟩ := eq_cons_of_headToken (by simp) (hhead ▸ hsegment)
      exact absurd hrest (hname _ _ _)
    · exact .throw hplace' _
  | case3 _ hpath hdot =>
    have hstop : pathRest ahead = .ok ([], ahead) := by
      rw [pathRest]
      · exact hpath
      · exact hdot
    rw [hstop]
    apply Follows.get_bind
    split
    · next hcurrent =>
      obtain ⟨position, hahead⟩ := eq_cons_of_headToken (by simp) (hplace.headToken_eq ▸ hcurrent)
      exact absurd hahead (hdot _ _)
    · exact .pure hplace []

/-- From any place with fewer than so many tokens ahead. -/
def FollowsBelow (tokens : List Token) (count : ℕ) (reader : Indexed Formula)
    (counting : Counting Formula) : Prop :=
  ∀ ⦃place cursor⦄, place.At tokens cursor → cursor.tokens.length < count →
    Follows tokens reader place (counting cursor)

/-- Each formula takes a token. -/
def Consumes (counting : Counting Formula) : Prop :=
  ∀ ⦃cursor after formula⦄, counting cursor = .ok (formula, after) →
    after.tokens.length < cursor.tokens.length

namespace FollowsBelow

variable {tokens : List Token} {count fuel : ℕ} {part operandPart : Indexed Formula}
  {counting operand : Counting Formula} {place : Place} {cursor : Cursor}

/-- Each part leaves fewer tokens, so neither the fuel nor the limit on the parts is what ends
them. -/
theorem separated (h : FollowsBelow tokens count part counting) (hlast : Finished tokens)
    (hconsumes : Consumes counting) {limit : ℕ} (hplace : place.At tokens cursor)
    (hcount : cursor.tokens.length < count) (hfuel : cursor.tokens.length ≤ fuel)
    (hlimit : cursor.tokens.length ≤ limit) :
    Follows tokens (Indexed.separated tokens part fuel) place
      (Counting.separated counting limit cursor) := by
  have hpos := hplace.length_pos
  induction fuel generalizing place cursor limit with
  | zero => exact absurd hpos (Nat.not_lt.2 hfuel)
  | succ fuel ih =>
    obtain ⟨limit, rfl⟩ := Nat.exists_eq_add_one.2 (hpos.trans_le hlimit)
    rw [Indexed.separated, Counting.separated]
    refine (h hplace hcount).bind fun first place' cursor' hfirst hplace' ↦ ?_
    have hshorter := hconsumes hfirst
    have hstep := cursor'.length_step
    apply Follows.get_bind
    dsimp only
    rw [hplace'.headToken_eq]
    split
    · next hcomma =>
      refine .eat_bind hlast hplace' hcomma rfl (by simp) fun place'' hplace'' ↦ ?_
      have hothers : Follows tokens (Indexed.separated tokens part fuel) place''
          (Counting.separated counting limit cursor'.step) :=
        ih hplace'' (by omega) (by omega) (by omega) hplace''.length_pos
      exact hothers.map (first :: ·)
    · exact .pure hplace' [first]

theorem callArguments (h : FollowsBelow tokens count part counting) (hlast : Finished tokens)
    (hconsumes : Consumes counting) (hplace : place.At tokens cursor)
    (hcount : cursor.tokens.length < count) (hfuel : cursor.tokens.length ≤ fuel) :
    Follows tokens (Indexed.callArguments tokens fuel part) place
      (Counting.callArguments counting cursor) := by
  rw [Indexed.callArguments]
  unfold Counting.callArguments
  apply Follows.get_bind
  dsimp only
  rw [hplace.headToken_eq]
  split
  · exact .close hlast hplace []
  · have harguments := h.separated hlast hconsumes hplace hcount hfuel le_rfl
    exact harguments.bind fun arguments _ _ _ hplace' ↦ .close hlast hplace' arguments

theorem reference (h : FollowsBelow tokens count part counting) (hlast : Finished tokens)
    (hconsumes : Consumes counting) (name : String) (hplace : place.At tokens cursor)
    (hcount : cursor.tokens.length < count) (hfuel : cursor.tokens.length ≤ fuel) :
    Follows tokens (Indexed.reference tokens fuel part name) place
      (Counting.reference counting name cursor) := by
  have hcurrent := hplace.headToken_eq
  have hstep := cursor.length_step
  rw [Indexed.reference]
  apply Follows.get_bind
  -- Both look at the same token, so they go the same way.
  fun_cases Counting.reference counting name cursor <;> simp_all only
  · next hdot =>
    have hpath := (follows_pathRest hlast hplace hfuel).map fun path ↦
      Formula.variable (name :: path)
    rcases hread : pathRest cursor.tokens with fault | ⟨segments, rest⟩
    · rwa [hread] at hpath
    · rwa [hread] at hpath
  · next hparen =>
    refine .eat_bind hlast hplace hparen rfl (by simp) fun place' hplace' ↦ ?_
    have hcount' : cursor.step.tokens.length < count := by omega
    have hfuel' : cursor.step.tokens.length ≤ fuel := by omega
    have harguments := h.callArguments hlast hconsumes hplace' hcount' hfuel'
    exact harguments.map (Formula.call name)
  · split
    · contradiction
    · contradiction
    · exact .pure hplace _

/-- An operand takes its first token before anything is read inside it. -/
theorem primary (h : FollowsBelow tokens count part counting)
    (hoperand : FollowsBelow tokens count operandPart operand) (hlast : Finished tokens)
    (hconsumes : Consumes counting) (hplace : place.At tokens cursor)
    (hcount : cursor.tokens.length ≤ count) (hfuel : cursor.tokens.length ≤ fuel) :
    Follows tokens (Indexed.primary tokens fuel part operandPart) place
      (Counting.primary counting operand cursor) := by
  have hcurrent := hplace.headToken_eq
  have hshorter : cursor.step.tokens.length < cursor.tokens.length := by
    have hlength := cursor.length_step
    have hpos := hplace.length_pos
    omega
  have hstep := hshorter.trans_le hcount
  have hleft := hshorter.le.trans hfuel
  rw [Indexed.primary]
  apply Follows.get_bind
  fun_cases Counting.primary counting operand cursor <;> simp_all only
  · next hnot =>
    refine .eat_bind hlast hplace hnot (congrArg Lexeme.kind hnot).symm (by simp)
      fun place' hplace' ↦ ?_
    exact (hoperand hplace' hstep).map (Formula.unary .not)
  · next hbang =>
    refine .eat_bind hlast hplace hbang (congrArg Lexeme.kind hbang).symm (by simp)
      fun place' hplace' ↦ ?_
    exact (hoperand hplace' hstep).map (Formula.unary .not)
  · next hminus =>
    refine .eat_bind hlast hplace hminus rfl (by simp) fun place' hplace' ↦ ?_
    exact (hoperand hplace' hstep).map (Formula.unary .negate)
  · next hparen =>
    refine .eat_bind hlast hplace hparen rfl (by simp) fun place' hplace' ↦ ?_
    exact (h hplace' hstep).bind fun formula _ _ _ hplace'' ↦ .close hlast hplace'' formula
  · next hnumber => exact .eat_pure hlast hplace hnumber rfl (by simp) _
  · next htext => exact .eat_pure hlast hplace htext rfl (by simp) _
  · next htrue => exact .eat_pure hlast hplace htrue rfl (by simp) _
  · next hfalse => exact .eat_pure hlast hplace hfalse rfl (by simp) _
  · next name _ _ _ hname =>
    refine .eat_bind hlast hplace hname rfl (by simp) fun place' hplace' ↦ ?_
    exact h.reference hlast hconsumes name hplace' hstep hleft
  · -- No other lexeme begins an operand.
    split
    case h_10 => exact .throw hplace _
    all_goals simp_all

end FollowsBelow

/-! ## More and more fuel -/

theorem Counts.length_lt {s : Stratum} {depth : ℕ} {counting : Counting Formula}
    {reader : Reader Formula} (h : Counts depth counting reader) (hsound : Sound s reader)
    {tokens : List Token} {formula : Formula} {after : Cursor}
    (hread : counting ⟨tokens, depth⟩ = .ok (formula, after)) :
    after.tokens.length < tokens.length := by
  rw [h tokens] at hread
  rcases hreader : reader tokens with fault | ⟨whole, rest⟩
  · rw [hreader] at hread
    exact absurd hread (by simp [Except.map])
  · rw [hreader] at hread
    obtain ⟨-, rfl⟩ := ok_pair_inj hread
    exact length_lt_of_sound hsound hreader

theorem consumes_expression (cap : DepthCap) (fuel level : ℕ) :
    Consumes (Counting.expression cap fuel level) := by
  rintro ⟨tokens, depth⟩ after formula h
  exact ((countsWithin cap fuel).expression depth level).length_lt (sound_expression cap _ level) h

theorem consumes_primary (cap : DepthCap) (fuel : ℕ) :
    Consumes (Counting.primary (Counting.expression cap fuel 0)
      (Counting.unaryOperand cap fuel)) := by
  rintro ⟨tokens, depth⟩ after formula h
  have hcounts := countsWithin cap fuel
  exact ((hcounts.expression depth 0).primary (hcounts.unaryOperand depth)).length_lt
    (sound_primary cap _) h

/-- With two steps of fuel for each token ahead and one more, the readers by index do what the
readers from lists do. -/
structure FollowsWithin (tokens : List Token) (cap : DepthCap) (fuel : ℕ) : Prop where
  unaryOperand : ∀ {place cursor}, place.At tokens cursor → 2 * cursor.tokens.length < fuel →
    Follows tokens (Indexed.unaryOperand cap tokens fuel) place
      (Counting.unaryOperand cap fuel cursor)
  expression : ∀ {place cursor} (level : ℕ), place.At tokens cursor →
    2 * cursor.tokens.length < fuel →
    Follows tokens (Indexed.expression cap tokens fuel level) place
      (Counting.expression cap fuel level cursor)
  chain : ∀ {place cursor} (level opened : ℕ) (left : Formula), place.At tokens cursor →
    2 * cursor.tokens.length ≤ fuel →
    Follows tokens (Indexed.chain cap tokens fuel level opened left) place
      (Counting.chain cap fuel level opened left cursor)

theorem FollowsWithin.primary {tokens : List Token} {cap : DepthCap} {fuel : ℕ}
    (ih : FollowsWithin tokens cap fuel) (hlast : Finished tokens) {place : Place} {cursor : Cursor}
    (hplace : place.At tokens cursor) (hfuel : 2 * cursor.tokens.length < fuel + 2) :
    Follows tokens
      (Indexed.primary tokens fuel (Indexed.expression cap tokens fuel 0)
        (Indexed.unaryOperand cap tokens fuel))
      place
      (Counting.primary (Counting.expression cap fuel 0) (Counting.unaryOperand cap fuel)
        cursor) := by
  have hpos := hplace.length_pos
  refine FollowsBelow.primary ?_ ?_ hlast (consumes_expression cap fuel 0) hplace le_rfl (by omega)
  · intro inside cursorInside hinside hshorter
    exact ih.expression 0 hinside (by omega)
  · intro inside cursorInside hinside hshorter
    exact ih.unaryOperand hinside (by omega)

theorem followsWithin_zero (tokens : List Token) (cap : DepthCap) : FollowsWithin tokens cap 0 where
  unaryOperand _ hfuel := absurd hfuel (Nat.not_lt_zero _)
  expression _ _ hfuel := absurd hfuel (Nat.not_lt_zero _)
  chain _ _ _ hplace hfuel := by
    have hpos := hplace.length_pos
    omega

theorem FollowsWithin.succ {tokens : List Token} {cap : DepthCap} {fuel : ℕ}
    (hlast : Finished tokens) (ih : FollowsWithin tokens cap fuel) :
    FollowsWithin tokens cap (fuel + 1) := by
  constructor
  case unaryOperand =>
    intro place cursor hplace hfuel
    rw [Indexed.unaryOperand, Counting.unaryOperand]
    refine .enter_bind cap hplace fun opened cursorOpened hopened htokens ↦ ?_
    have hprimary := ih.primary hlast hopened (by rw [htokens]; omega)
    exact hprimary.bind fun formula _ _ _ hafter ↦ .leave hafter 1 formula
  case expression =>
    intro place cursor level hplace hfuel
    rw [Indexed.expression, Counting.expression]
    refine .enter_bind cap hplace fun opened cursorOpened hopened htokens ↦ ?_
    have hprimary := ih.primary hlast hopened (by rw [htokens]; omega)
    refine hprimary.bind fun first after cursorAfter hfirst hafter ↦ ?_
    have hshorter := consumes_primary cap fuel hfirst
    rw [htokens] at hshorter
    exact ih.chain level 1 first hafter (by omega)
  case chain =>
    intro place cursor level opened left hplace hfuel
    rw [Indexed.chain]
    unfold Counting.chain
    apply Follows.get_bind
    rw [hplace.chainOperator?_current]
    rcases hoperator : chainOperator? level cursor.tokens with _ | operator
    · exact .leave hplace opened left
    · refine .enter_bind cap hplace fun deeper cursorDeeper hdeeper htokens ↦ ?_
      rw [← htokens] at hoperator hfuel
      have hstep := cursorDeeper.length_step
      have hpos := hdeeper.length_pos
      refine .advance_bind hlast hdeeper (hdeeper.current_ne_finish hoperator)
        fun behind hbehind ↦ ?_
      have hexpression := ih.expression (operator.level + 1) hbehind (by omega)
      refine hexpression.bind fun right after cursorAfter hright hafter ↦ ?_
      have hshorter := consumes_expression cap fuel _ hright
      exact ih.chain level (opened + 1) _ hafter (by omega)

theorem followsWithin {tokens : List Token} (hlast : Finished tokens) (cap : DepthCap) (fuel : ℕ) :
    FollowsWithin tokens cap fuel := by
  induction fuel with
  | zero => exact followsWithin_zero tokens cap
  | succ fuel ih => exact ih.succ hlast

/-! ## Whole formulas -/

theorem finished_concat (body : List Token) {last : Token} (hlast : last.lexeme = .finish) :
    Finished (body ++ [last]) :=
  ⟨last, by simp, hlast⟩

theorem finished_of_tokenize {s : String} {tokens : List Token} (h : tokenize s = .ok tokens) :
    Finished tokens := by
  obtain ⟨front, rfl, -⟩ := (tokensFrom_covers (Nat.zero_le _) h).exists_eq_concat
  exact finished_concat front rfl

/-- From the place reading ends at one of the tokens, not before the place, with a value or with a
fault of the formula. -/
def EndsWithin {α : Type} (tokens : List Token) (reader : Indexed α) (place : Place) : Prop :=
  ∃ (result : Except SyntaxFault α) (after : Place),
    reader.runFrom place = some (result.mapError Halt.fault, after) ∧
      place.index ≤ after.index ∧ after.index < tokens.length

namespace Follows

variable {tokens : List Token} {place : Place}

theorem exists_runFrom_eq {α : Type} {reader : Indexed α} {result : Except SyntaxFault (α × Cursor)}
    (h : Follows tokens reader place result) :
    ∃ after, reader.runFrom place = some ((result.map Prod.fst).mapError Halt.fault, after) ∧
      place.index ≤ after.index ∧ after.index < tokens.length := by
  unfold Follows at h
  generalize reader.runFrom place = outcome at h ⊢
  cases h with
  | value hstart hplace => exact ⟨_, rfl, hstart, hplace.index_lt⟩
  | fault hstart hindex => exact ⟨_, rfl, hstart, hindex⟩

theorem endsWithin {α : Type} {reader : Indexed α} {result : Except SyntaxFault (α × Cursor)}
    (h : Follows tokens reader place result) : EndsWithin tokens reader place :=
  ⟨_, h.exists_runFrom_eq⟩

/-- What is taken from ahead of the cursor moves the place. -/
theorem index_lt {reader : Indexed Formula} {counting : Counting Formula} {after : Place}
    {cursor : Cursor} {formula : Formula} (h : Follows tokens reader place (counting cursor))
    (hplace : place.At tokens cursor) (hconsumes : Consumes counting)
    (hread : reader.runFrom place = some (.ok formula, after)) : place.index < after.index := by
  unfold Follows at h
  rw [hread] at h
  generalize hresult : counting cursor = result at h
  cases h with
  | value _ hafter =>
    have hshorter := hconsumes hresult
    have hbefore := hplace.index_add_length
    have hbehind := hafter.index_add_length
    omega

end Follows

/-- A strict reading wants the end where a lenient one leaves what it finds. -/
def Counting.checked (strict : Bool) (read : Formula × Cursor) :
    Except SyntaxFault (Formula × Cursor) :=
  if strict && (headToken read.2.tokens).lexeme != .finish then
    .error (.trailingToken (headToken read.2.tokens))
  else .ok read

theorem map_checked_eq_parse (cap : DepthCap) (strict : Bool) {tokens : List Token} {fuel : ℕ}
    (hfuel : 2 * tokens.length < fuel) :
    (Counting.expression cap fuel 0 ⟨tokens, 0⟩ >>= Counting.checked strict).map Prod.fst =
      parse cap strict tokens := by
  rw [parse, (countsWithin cap fuel).expression, expression_roomLeft_eq cap hfuel]
  rcases expression cap (cap.room tokens.length) 0 tokens with fault | ⟨formula, rest⟩
  · rfl
  · change (Counting.checked strict (formula, ⟨rest, 0⟩)).map Prod.fst = if _ then _ else _
    unfold Counting.checked
    dsimp only
    split <;> rfl

theorem follows_parse {tokens : List Token} {place : Place} {fuel : ℕ} (hlast : Finished tokens)
    (hplace : place.At tokens ⟨tokens, 0⟩) (hfuel : 2 * tokens.length < fuel) (cap : DepthCap)
    (strict : Bool) :
    Follows tokens (Indexed.parse cap strict tokens fuel) place
      (Counting.expression cap fuel 0 ⟨tokens, 0⟩ >>= Counting.checked strict) := by
  have hread := (followsWithin hlast cap fuel).expression 0 hplace hfuel
  refine hread.bind fun formula after cursor _ hafter ↦ ?_
  apply Follows.get_bind
  unfold Counting.checked
  dsimp only
  rw [hafter.headToken_eq]
  split
  · exact .throw hafter _
  · exact .pure hafter formula

theorem ofTokens_eq {tokens : List Token} {fuel : ℕ} (hlast : Finished tokens)
    (hfuel : 2 * tokens.length < fuel) (cap : DepthCap) (strict : Bool) :
    ∃ after, Indexed.ofTokens cap strict tokens fuel =
        some ((parse cap strict tokens).mapError Halt.fault, after) ∧
      after.index < tokens.length := by
  obtain ⟨token, rest, rfl⟩ : ∃ token rest, tokens = token :: rest := by
    obtain ⟨last, hmem, -⟩ := hlast
    exact List.exists_cons_of_ne_nil (by rintro rfl; exact absurd hmem (by simp))
  have hplace : Place.At (token :: rest) ⟨0, token, 0⟩ ⟨token :: rest, 0⟩ := ⟨rfl, rfl, rfl⟩
  have hfollows := follows_parse hlast hplace hfuel cap strict
  obtain ⟨after, hrun, -, hindex⟩ := hfollows.exists_runFrom_eq
  rw [map_checked_eq_parse cap strict hfuel] at hrun
  exact ⟨after, hrun, hindex⟩

/-- Each character gives one token at most, and there is the end. -/
theorem ofText_eq (cap : DepthCap) (strict : Bool) {s : String} {fuel : ℕ}
    (hfuel : 2 * s.length + 2 < fuel) :
    Indexed.ofText cap strict s fuel =
      some ((tokenize s >>= parse cap strict).mapError Halt.fault) := by
  rw [Indexed.ofText, scanning_tokenize_eq (by omega)]
  rcases htokens : tokenize s with cause | tokens
  · rfl
  · have hlength : tokens.length ≤ s.length + 1 :=
      (tokensFrom_covers (Nat.zero_le _) htokens).length_le
    have henough : 2 * tokens.length < fuel := by omega
    obtain ⟨after, hread, -⟩ := ofTokens_eq (finished_of_tokenize htokens) henough cap strict
    change (Indexed.ofTokens cap strict tokens fuel >>= _) = _
    rw [hread]
    rfl

/-- Tokens of which the last one is an end are read to an outcome, whatever the cap: to the formula
or the fault that reading from the list gives, without a step behind the end.  From each of the
tokens the readers end likewise.  An operand that is read takes a token, by index and from the list.
Hence every text is read to an outcome as well.  Any fuel does that has two steps for each token,
and one more; so it is never the fuel that ends a reading. -/
theorem reading_by_index_ends_within :
    (∀ (cap : DepthCap) (body : List Token) (last : Token) (fuel : ℕ), last.lexeme = .finish →
      let tokens := body ++ [last]
      2 * tokens.length < fuel →
      (∀ strict, ∃ after, Indexed.ofTokens cap strict tokens fuel =
          some ((parse cap strict tokens).mapError Halt.fault, after) ∧
        after.index ≤ body.length) ∧
      ∀ place, tokens[place.index]? = some place.current →
        let primary := Indexed.primary tokens fuel (Indexed.expression cap tokens fuel 0)
          (Indexed.unaryOperand cap tokens fuel)
        (∀ level, EndsWithin tokens (Indexed.expression cap tokens fuel level) place) ∧
        EndsWithin tokens (Indexed.unaryOperand cap tokens fuel) place ∧
        EndsWithin tokens primary place ∧
        ∀ formula after, primary.runFrom place = some (.ok formula, after) →
          place.index < after.index) ∧
    (∀ (cap : DepthCap) (room : ℕ) (tokens rest : List Token) (formula : Formula),
      primary (expression cap room 0) (unaryOperand cap room) tokens = .ok (formula, rest) →
      rest.length < tokens.length) ∧
    ∀ (cap : DepthCap) (strict : Bool) (s : String) (fuel : ℕ), 2 * s.length + 2 < fuel →
      Indexed.ofText cap strict s fuel =
          some ((tokenize s >>= parse cap strict).mapError Halt.fault) ∧
        ((∃ formula, Indexed.ofText cap strict s fuel = some (.ok formula)) ∨
          ∃ cause, Indexed.ofText cap strict s fuel = some (.error (.fault cause))) := by
  refine ⟨?_, fun cap room _ _ _ ↦ length_lt_of_sound (sound_primary cap room), ?_⟩
  · intro cap body last fuel hlast tokens hfuel
    have hfinished : Finished tokens := finished_concat body hlast
    constructor
    · intro strict
      obtain ⟨after, hread, hindex⟩ := ofTokens_eq hfinished hfuel cap strict
      refine ⟨after, hread, Nat.le_of_lt_succ ?_⟩
      simpa [tokens] using hindex
    · intro place hcurrent primary
      have hplace := Place.At.of_getElem? hcurrent
      have hahead : 2 * (tokens.drop place.index).length < fuel := by
        rw [List.length_drop]
        omega
      have hwithin := followsWithin hfinished cap fuel
      have hprimary := hwithin.primary hfinished hplace
        (hahead.trans (Nat.lt_add_of_pos_right two_pos))
      exact ⟨fun level ↦ (hwithin.expression level hplace hahead).endsWithin,
        (hwithin.unaryOperand hplace hahead).endsWithin, hprimary.endsWithin,
        fun formula after ↦ hprimary.index_lt hplace (consumes_primary cap fuel)⟩
  · intro cap strict s fuel hfuel
    rw [ofText_eq cap strict hfuel]
    refine ⟨rfl, ?_⟩
    rcases tokenize s >>= parse cap strict with cause | formula
    · exact .inr ⟨cause, rfl⟩
    · exact .inl ⟨formula, rfl⟩

/-- `1 + (` without a bound on depth: the reading ends at the end, with a fault there, and the
operand that is read before takes one token. -/
theorem reading_by_index_ends_within_unclosed :
    let cap : DepthCap := ⟨none, "inf"⟩
    let body : List Token := [⟨.number "1", 0⟩, ⟨.operator .plus, 2⟩, ⟨.leftParen, 4⟩]
    let last : Token := ⟨.finish, 5⟩
    let tokens := body ++ [last]
    let place : Place := ⟨0, ⟨.number "1", 0⟩, 0⟩
    let after : Place := ⟨1, ⟨.operator .plus, 2⟩, 0⟩
    let one : Formula := .number (.text "1")
    (last.lexeme = .finish ∧ 2 * tokens.length < 9 ∧
        ∃ stop, Indexed.ofTokens cap true tokens 9 =
            some (.error (.fault (.unexpectedToken last)), stop) ∧
          stop.index ≤ 3) ∧
      (tokens[place.index]? = some place.current ∧
        (Indexed.primary tokens 9 (Indexed.expression cap tokens 9 0)
          (Indexed.unaryOperand cap tokens 9)).runFrom place = some (.ok one, after) ∧
        place.index < after.index) ∧
      (primary (expression cap 1 0) (unaryOperand cap 1) tokens = .ok (one, tokens.drop 1) ∧
        (tokens.drop 1).length < tokens.length) ∧
      2 * "1 + (".length + 2 < 13 ∧
        Indexed.ofText cap true "1 + (" 13 = some (.error (.fault (.unexpectedToken last))) := by
  intro cap body last tokens place after one
  obtain ⟨hindexed, hlist, htexts⟩ := reading_by_index_ends_within
  have hfuel : 2 * tokens.length < 9 := by decide
  obtain ⟨hwhole, hplaces⟩ := hindexed cap body last 9 rfl hfuel
  have hcurrent : tokens[place.index]? = some place.current := rfl
  have hread : (Indexed.primary tokens 9 (Indexed.expression cap tokens 9 0)
      (Indexed.unaryOperand cap tokens 9)).runFrom place = some (.ok one, after) := rfl
  obtain ⟨-, -, -, htakes⟩ := hplaces place hcurrent
  have hprimary : primary (expression cap 1 0) (unaryOperand cap 1) tokens =
      .ok (one, tokens.drop 1) := rfl
  have hlength : 2 * "1 + (".length + 2 < 13 := by decide
  exact ⟨⟨rfl, hfuel, hwhole true⟩, ⟨hcurrent, hread, htakes one after hread⟩,
    ⟨hprimary, hlist cap 1 tokens _ one hprimary⟩, hlength, (htexts cap true _ 13 hlength).1⟩

end PayFormula

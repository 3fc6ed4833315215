import Mathlib
import PayFormula.Proofs.Formula.Soundness

/-!
# The Height of a Formula under a Cap

A cap bounds the levels that are open at one time, and a level is given back as soon as its part has
been read.  The operators after a part therefore put their own levels on top of the height that it
already has, and the tree may grow higher than the cap.  It is still bounded: with `n` levels no tree
is higher than `n * (n - 1) / 2 + 1`, and a call within a chain within a call reaches that height.
-/

namespace PayFormula

namespace Formula

mutual

/-- The nodes on the longest path down from the root. -/
def height : Formula → ℕ
  | number _ | text _ | truth _ | .variable _ | missing => 1
  | call _ arguments => greatestHeight arguments + 1
  | unary _ operand => operand.height + 1
  | binary _ left right => max left.height right.height + 1

def greatestHeight : List Formula → ℕ
  | [] => 0
  | formula :: rest => max formula.height (greatestHeight rest)

end

end Formula

/-- The greatest height that a formula may have with so many levels. -/
def highest : ℕ → ℕ
  | 0 => 0
  | n + 1 => (n + 1) * n / 2 + 1

/-- One more level is one more node for an operand, and one for each operator after it. -/
theorem highest_succ (n : ℕ) : highest (n + 1) = highest n + max 1 n := by
  cases n with
  | zero => rfl
  | succ n =>
    have hdouble : (n + 1 + 1) * (n + 1) = (n + 1) * n + 2 * (n + 1) := by ring
    change (n + 1 + 1) * (n + 1) / 2 + 1 = (n + 1) * n / 2 + 1 + max 1 (n + 1)
    rw [hdouble, Nat.add_mul_div_left _ _ (by decide)]
    omega

theorem highest_mono : Monotone highest :=
  monotone_nat_of_le_succ fun n ↦ by
    rw [highest_succ]
    exact Nat.le_add_right _ _

/-! ## Bounds -/

def HeightWithin (bound : ℕ) (reader : Reader Formula) : Prop :=
  ∀ ⦃tokens formula rest⦄, reader tokens = .ok (formula, rest) → formula.height ≤ bound

theorem separated_heightWithin {part : Reader Formula} {bound : ℕ} (hpart : HeightWithin bound part)
    {limit : ℕ} {tokens rest : List Token} {formulas : List Formula}
    (h : separated part limit tokens = .ok (formulas, rest)) :
    Formula.greatestHeight formulas ≤ bound := by
  induction limit generalizing tokens rest formulas with
  | zero =>
    obtain ⟨rfl, -⟩ := ok_pair_inj h
    exact Nat.zero_le bound
  | succ limit ih =>
    obtain ⟨⟨first, after⟩, hfirst, hothers⟩ := exists_of_bind_eq_ok h
    dsimp only at hothers
    split at hothers
    · obtain ⟨others, hseparated, rfl⟩ := exists_of_map_eq_ok (first :: ·) hothers
      exact max_le (hpart hfirst) (ih hseparated)
    · obtain ⟨rfl, -⟩ := ok_pair_inj hothers
      exact max_le (hpart hfirst) (Nat.zero_le bound)

theorem callArguments_heightWithin {part : Reader Formula} {bound : ℕ}
    (hpart : HeightWithin bound part) {tokens rest : List Token} {formulas : List Formula}
    (h : callArguments part tokens = .ok (formulas, rest)) :
    Formula.greatestHeight formulas ≤ bound := by
  rw [callArguments_eq] at h
  obtain ⟨⟨arguments, after⟩, harguments, hexpect⟩ := exists_of_bind_eq_ok h
  obtain ⟨_, -, hresult⟩ := exists_of_bind_eq_ok hexpect
  obtain ⟨rfl, -⟩ := ok_pair_inj hresult
  split at harguments
  · obtain ⟨rfl, -⟩ := ok_pair_inj harguments
    exact Nat.zero_le bound
  · exact separated_heightWithin hpart harguments

theorem reference_heightWithin {part : Reader Formula} {bound : ℕ} (hpart : HeightWithin bound part)
    (name : String) : HeightWithin (bound + 1) (reference part name) := by
  intro tokens formula rest h
  unfold reference at h
  split at h
  · obtain ⟨segments, -, rfl⟩ :=
      exists_of_map_eq_ok (fun path ↦ Formula.variable (name :: path)) h
    exact Nat.le_add_left 1 bound
  · obtain ⟨arguments, harguments, rfl⟩ := exists_of_map_eq_ok (Formula.call name) h
    exact Nat.succ_le_succ (callArguments_heightWithin hpart harguments)
  · obtain ⟨rfl, -⟩ := ok_pair_inj h
    exact Nat.le_add_left 1 bound

/-- An operand is at most one node higher than what is read inside it. -/
theorem primary_heightWithin {inner operand : Reader Formula} {bound : ℕ}
    (hinner : HeightWithin bound inner) (hoperand : HeightWithin bound operand) :
    HeightWithin (bound + 1) (primary inner operand) := by
  intro tokens formula rest h
  have hleaf : 1 ≤ bound + 1 := Nat.le_add_left 1 bound
  have hunary {operator : UnaryOperator} {after : List Token}
      (h : (operand after >>= fun read ↦ .ok (.unary operator read.1, read.2)) =
        .ok (formula, rest)) : formula.height ≤ bound + 1 := by
    obtain ⟨inside, hread, rfl⟩ := exists_of_map_eq_ok (Formula.unary operator) h
    exact Nat.succ_le_succ (hoperand hread)
  unfold primary at h
  dsimp only at h
  split at h
  · exact hunary h
  · exact hunary h
  · exact hunary h
  · obtain ⟨⟨inside, _⟩, hread, hclose⟩ := exists_of_bind_eq_ok h
    obtain ⟨_, -, hresult⟩ := exists_of_bind_eq_ok hclose
    obtain ⟨rfl, -⟩ := ok_pair_inj hresult
    exact (hinner hread).trans (Nat.le_succ bound)
  · obtain ⟨rfl, -⟩ := ok_pair_inj h
    exact hleaf
  · obtain ⟨rfl, -⟩ := ok_pair_inj h
    exact hleaf
  · obtain ⟨rfl, -⟩ := ok_pair_inj h
    exact hleaf
  · obtain ⟨rfl, -⟩ := ok_pair_inj h
    exact hleaf
  · exact reference_heightWithin hinner _ h
  · exact absurd h (by simp)

/-- The heights of what the readers return with this much room.  In a chain the room that is left
counts the operators that may still follow, one apart for the operand of the last of them. -/
structure HeightsWithin (cap : DepthCap) (room : ℕ) : Prop where
  unaryOperand : HeightWithin (highest room) (unaryOperand cap room)
  expression : ∀ level, HeightWithin (highest room) (expression cap room level)
  chain : ∀ level left,
    HeightWithin (max left.height (highest (room - 1)) + (room - 1)) (chain cap room level left)

theorem chain_height_of_stop {cap : DepthCap} {room level : ℕ} {left formula : Formula}
    {tokens rest : List Token} (hnone : chainOperator? level tokens = none)
    (h : chain cap room level left tokens = .ok (formula, rest)) :
    formula.height = left.height := by
  rw [chain_eq_self cap room left hnone] at h
  obtain ⟨rfl, -⟩ := ok_pair_inj h
  rfl

theorem heightsWithin_zero (cap : DepthCap) : HeightsWithin cap 0 where
  unaryOperand := fun _ _ _ h ↦ absurd h (by simp [unaryOperand])
  expression := fun _ _ _ _ h ↦ absurd h (by simp [expression])
  chain := by
    intro level left tokens formula rest h
    rcases hoperator : chainOperator? level tokens with _ | operator
    · rw [chain_height_of_stop hoperator h]
      exact le_max_left _ _
    · unfold chain at h
      rw [hoperator] at h
      exact absurd h (by simp)

theorem HeightsWithin.succ {cap : DepthCap} {room : ℕ} (ih : HeightsWithin cap room) :
    HeightsWithin cap (room + 1) := by
  have hprimary := primary_heightWithin (ih.expression 0) ih.unaryOperand
  have hsucc := highest_succ room
  have hpred : highest (room - 1) ≤ highest room := highest_mono (Nat.sub_le room 1)
  constructor
  case unaryOperand =>
    intro tokens formula rest h
    rw [PayFormula.unaryOperand] at h
    have hoperand := hprimary h
    omega
  case expression =>
    intro level tokens formula rest h
    rw [PayFormula.expression] at h
    obtain ⟨⟨first, after⟩, hfirst, hchain⟩ := exists_of_bind_eq_ok h
    have hoperand := hprimary hfirst
    have hwhole := ih.chain level first hchain
    omega
  case chain =>
    intro level left tokens formula rest h
    rw [Nat.add_sub_cancel]
    rcases hoperator : chainOperator? level tokens with _ | operator
    · have hstop := chain_height_of_stop hoperator h
      omega
    obtain ⟨hahead, -⟩ := chainOperator?_eq_some.1 hoperator
    obtain ⟨token, tokens, rfl, -⟩ := operatorAhead?_eq_some hahead
    rw [chain_eq_bind cap room left hoperator] at h
    obtain ⟨⟨right, after⟩, hright, hchain⟩ := exists_of_bind_eq_ok h
    -- Without a level left the right side cannot be read, so the operator has one more below it.
    have hpos : 0 < room := by
      rcases room with _ | room
      · exact absurd hright (by simp [PayFormula.expression])
      · exact Nat.succ_pos room
    have hoperand := ih.expression _ hright
    have hwhole := ih.chain level (.binary operator left right) hchain
    rw [Formula.height] at hwhole
    omega

theorem heightsWithin (cap : DepthCap) (room : ℕ) : HeightsWithin cap room := by
  induction room with
  | zero => exact heightsWithin_zero cap
  | succ room ih => exact ih.succ

/-- No formula that a cap admits is higher than its levels allow. -/
theorem parse_height_le {cap : DepthCap} {levels : ℕ} (hcap : cap.levels? = some levels)
    {strict : Bool} {tokens : List Token} {formula : Formula}
    (h : parse cap strict tokens = .ok formula) : formula.height ≤ highest levels := by
  obtain ⟨⟨whole, rest⟩, hread, hend⟩ := exists_of_bind_eq_ok h
  have hheight := (heightsWithin cap _).expression 0 hread
  rw [DepthCap.room, hcap, Option.getD_some] at hheight
  dsimp only at hend
  split at hend
  · exact absurd hend (by simp)
  · obtain rfl := Except.ok.inj hend
    exact hheight

/-! ## Trees of that height -/

def one : Formula := .number (.text "1")

/-- `+ 1`, so many times. -/
def summands : ℕ → List Token
  | 0 => []
  | n + 1 => ⟨.operator .plus, 0⟩ :: ⟨.number "1", 0⟩ :: summands n

def addOnes : ℕ → Formula → Formula
  | 0, left => left
  | n + 1, left => addOnes n (.binary .plus left one)

/-- A call within a chain within a call, with one operator more in each chain than in the one inside
it: `F(F(F(1)) + 1) + 1 + 1`. -/
def towerTokens : ℕ → List Token
  | 0 => [⟨.number "1", 0⟩]
  | n + 1 => ⟨.name "F", 0⟩ :: ⟨.leftParen, 0⟩ ::
      (towerTokens n ++ ⟨.rightParen, 0⟩ :: summands n)

def tower : ℕ → Formula
  | 0 => one
  | n + 1 => addOnes n (.call "F" [tower n])

theorem Formula.height_pos (formula : Formula) : 0 < formula.height := by
  cases formula <;> simp [height]

theorem height_addOnes (n : ℕ) (left : Formula) : (addOnes n left).height = left.height + n := by
  induction n generalizing left with
  | zero => rfl
  | succ n ih =>
    have hleft : max left.height one.height = left.height := max_eq_left left.height_pos
    rw [addOnes, ih, Formula.height, hleft]
    omega

theorem height_tower (n : ℕ) : (tower n).height = highest (n + 1) := by
  induction n with
  | zero => rfl
  | succ n ih =>
    have hpos := (tower n).height_pos
    rw [tower, height_addOnes, Formula.height, Formula.greatestHeight, Formula.greatestHeight, ih,
      highest_succ (n + 1)]
    omega

theorem expression_one (cap : DepthCap) (room n : ℕ) {rest : List Token}
    (hrest : chainOperator? 0 rest = none) :
    expression cap (room + 1) 5 (⟨.number "1", 0⟩ :: (summands n ++ rest)) =
      .ok (one, summands n ++ rest) := by
  have hstop : chainOperator? 5 (summands n ++ rest) = none := by
    cases n with
    | zero => exact chainOperator?_mono (Nat.zero_le 5) hrest
    | succ n => rfl
  rw [expression]
  change chain cap room 5 one (summands n ++ rest) = _
  rw [chain_eq_self cap room one hstop]

theorem chain_summands (cap : DepthCap) (n : ℕ) (left : Formula) {rest : List Token}
    (hrest : chainOperator? 0 rest = none) :
    chain cap (n + 1) 0 left (summands n ++ rest) = .ok (addOnes n left, rest) := by
  induction n generalizing left with
  | zero => exact chain_eq_self cap 1 left hrest
  | succ n ih =>
    have hplus : chainOperator? 0
        (⟨.operator .plus, 0⟩ :: ⟨.number "1", 0⟩ :: (summands n ++ rest)) = some .plus := rfl
    rw [summands, List.cons_append, List.cons_append, chain_eq_bind cap _ left hplus]
    change expression cap (n + 1) 5 _ >>= _ = _
    rw [expression_one cap n n hrest]
    exact ih _

/-- One part before a closing parenthesis. -/
theorem callArguments_single {part : Reader Formula} {tokens rest : List Token} {formula : Formula}
    (hopen : (headToken tokens).lexeme ≠ .rightParen)
    (hpart : part tokens = .ok (formula, ⟨.rightParen, 0⟩ :: rest)) (hne : tokens ≠ []) :
    callArguments part tokens = .ok ([formula], rest) := by
  obtain ⟨token, tokens, rfl⟩ := List.exists_cons_of_ne_nil hne
  rw [callArguments_eq, if_neg hopen, List.length_cons, separated, hpart]
  rfl

theorem expression_tower (cap : DepthCap) (n : ℕ) {rest : List Token}
    (hrest : chainOperator? 0 rest = none) :
    expression cap (n + 1) 0 (towerTokens n ++ rest) = .ok (tower n, rest) := by
  induction n generalizing rest with
  | zero =>
    rw [expression]
    exact chain_eq_self cap 0 one hrest
  | succ n ih =>
    have hargument := ih (rfl : chainOperator? 0 (⟨.rightParen, 0⟩ :: (summands n ++ rest)) = none)
    have hread := callArguments_single (by cases n <;> simp [towerTokens, headToken]) hargument
      (by simp)
    rw [expression, towerTokens, List.cons_append, List.cons_append, List.append_assoc,
      List.cons_append]
    change (callArguments (expression cap (n + 1) 0)
      (towerTokens n ++ _ :: (summands n ++ rest)) >>= _) >>= _ = _
    rw [hread]
    exact chain_summands cap n _ hrest

theorem parse_tower (shown : String) (n : ℕ) :
    parse ⟨some (n + 1), shown⟩ true (towerTokens n ++ [⟨.finish, 0⟩]) = .ok (tower n) := by
  have hread := expression_tower ⟨some (n + 1), shown⟩ n
    (rfl : chainOperator? 0 [⟨.finish, 0⟩] = none)
  rw [parse]
  change expression _ (n + 1) 0 _ >>= _ = _
  rw [hread]
  rfl

theorem highest_le_iff (levels : ℕ) : highest levels ≤ levels ↔ levels ≤ 2 := by
  match levels with
  | 0 | 1 | 2 => decide
  | n + 3 =>
    have hlarge : 2 * (n + 3) ≤ (n + 3) * (n + 2) := by nlinarith
    have hhalf : n + 3 ≤ (n + 3) * (n + 2) / 2 := by omega
    change (n + 3) * (n + 2) / 2 + 1 ≤ n + 3 ↔ n + 3 ≤ 2
    omega

/-- A cap of one or two levels bounds the height of every formula by itself, and no greater cap
does.  With `levels` levels the height is at most `highest levels`, and some formula has it. -/
theorem height_le_levels_iff (levels : ℕ) :
    (∀ (shown : String) (strict : Bool) (tokens : List Token) (formula : Formula),
      parse ⟨some levels, shown⟩ strict tokens = .ok formula → formula.height ≤ highest levels) ∧
    (0 < levels → ∃ (tokens : List Token) (formula : Formula), ∀ shown : String,
      parse ⟨some levels, shown⟩ true tokens = .ok formula ∧ formula.height = highest levels) ∧
    ((∀ (shown : String) (strict : Bool) (tokens : List Token) (formula : Formula),
      parse ⟨some levels, shown⟩ strict tokens = .ok formula → formula.height ≤ levels) ↔
      levels ≤ 2) := by
  have hbound : ∀ (shown : String) (strict : Bool) (tokens : List Token) (formula : Formula),
      parse ⟨some levels, shown⟩ strict tokens = .ok formula → formula.height ≤ highest levels :=
    fun _ _ _ _ h ↦ parse_height_le rfl h
  refine ⟨hbound, ?_, ?_, ?_⟩
  · intro hpos
    obtain ⟨n, rfl⟩ : ∃ n, levels = n + 1 := ⟨levels - 1, by omega⟩
    exact ⟨_, tower n, fun shown ↦ ⟨parse_tower shown n, height_tower n⟩⟩
  · intro h
    rcases levels with _ | n
    · exact Nat.zero_le 2
    · have hheight := h "" true _ _ (parse_tower "" n)
      rw [height_tower] at hheight
      exact (highest_le_iff _).1 hheight
  · intro hle shown strict tokens formula h
    calc formula.height ≤ highest levels := hbound shown strict tokens formula h
      _ ≤ levels := (highest_le_iff levels).2 hle

theorem height_not_within_three :
    ¬∀ (shown : String) (strict : Bool) (tokens : List Token) (formula : Formula),
      parse ⟨some 3, shown⟩ strict tokens = .ok formula → formula.height ≤ 3 := by
  intro h
  have hlevels := (height_le_levels_iff 3).2.2.1 h
  exact absurd hlevels (by decide)

/-- The levels of `--1` are free again when the `+` after it puts its own node on top. -/
theorem negated_sum_height_exceeds_cap :
    ∃ formula : Formula,
      parse (.ofInt 3) true [⟨.operator .minus, 0⟩, ⟨.operator .minus, 1⟩, ⟨.number "1", 2⟩,
        ⟨.operator .plus, 3⟩, ⟨.number "1", 4⟩, ⟨.finish, 5⟩] = .ok formula ∧
      3 < formula.height :=
  ⟨.binary .plus (.unary .negate (.unary .negate one)) one, rfl, by decide⟩

end PayFormula

import Mathlib
import PayFormula.Proofs.Formula.Soundness

/-!
# More Room

The room that a reader is given decides only whether it runs out.  With more room it returns what it
returned before, and fails for the same reason if that was another one; and with two levels for each
token and one more it does not run out, so that any room beyond that makes no difference.
-/

namespace PayFormula

/-! ## Running out of levels -/

def IsTooDeep {α : Type} (result : Except SyntaxFault α) : Prop :=
  ∃ shown, result = .error (.nestedTooDeep shown)

/-- The second result is the first one, unless the first one is that the levels ran out. -/
def SameUnlessTooDeep {α : Type} (result result' : Except SyntaxFault α) : Prop :=
  IsTooDeep result ∨ result' = result

section Results

variable {α β : Type} {first first' : Except SyntaxFault α}
  {next next' : α → Except SyntaxFault β}

theorem not_isTooDeep_ok (a : α) : ¬IsTooDeep (.ok a : Except SyntaxFault α) := by
  simp [IsTooDeep]

theorem not_isTooDeep_error {fault : SyntaxFault} (h : ∀ shown, fault ≠ .nestedTooDeep shown) :
    ¬IsTooDeep (.error fault : Except SyntaxFault α) := by
  rintro ⟨shown, hfault⟩
  exact h shown (Except.error.inj hfault)

theorem IsTooDeep.bind (h : IsTooDeep first) (next : α → Except SyntaxFault β) :
    IsTooDeep (first >>= next) := by
  obtain ⟨shown, rfl⟩ := h
  exact ⟨shown, rfl⟩

theorem not_isTooDeep_bind (h : ¬IsTooDeep first)
    (hnext : ∀ a, first = .ok a → ¬IsTooDeep (next a)) : ¬IsTooDeep (first >>= next) := by
  rintro ⟨shown, hdeep⟩
  rcases bind_eq_error_iff.1 hdeep with hfirst | ⟨a, hfirst, hthen⟩
  · exact h ⟨shown, hfirst⟩
  · exact hnext a hfirst ⟨shown, hthen⟩

namespace SameUnlessTooDeep

theorem refl (result : Except SyntaxFault α) : SameUnlessTooDeep result result := .inr rfl

theorem bind (h : SameUnlessTooDeep first first')
    (hnext : ∀ a, SameUnlessTooDeep (next a) (next' a)) :
    SameUnlessTooDeep (first >>= next) (first' >>= next') := by
  rcases h with hdeep | rfl
  · exact .inl (hdeep.bind next)
  · cases first' with
    | error fault => exact .refl _
    | ok a => exact hnext a

end SameUnlessTooDeep

end Results

/-! ## Readers inside others -/

section Inside

variable {part part' operand operand' : Reader Formula}

theorem separated_sameUnlessTooDeep (h : ∀ tokens, SameUnlessTooDeep (part tokens) (part' tokens))
    (limit : ℕ) (tokens : List Token) :
    SameUnlessTooDeep (separated part limit tokens) (separated part' limit tokens) := by
  induction limit generalizing tokens with
  | zero => exact .refl _
  | succ limit ih =>
    refine (h tokens).bind fun read ↦ ?_
    obtain ⟨first, rest⟩ := read
    dsimp only
    split
    · exact (ih _).bind fun _ ↦ .refl _
    · exact .refl _

theorem callArguments_sameUnlessTooDeep
    (h : ∀ tokens, SameUnlessTooDeep (part tokens) (part' tokens)) (tokens : List Token) :
    SameUnlessTooDeep (callArguments part tokens) (callArguments part' tokens) := by
  rw [callArguments_eq, callArguments_eq]
  refine .bind ?_ fun _ ↦ .refl _
  split
  · exact .refl _
  · exact separated_sameUnlessTooDeep h tokens.length tokens

theorem reference_sameUnlessTooDeep
    (h : ∀ tokens, SameUnlessTooDeep (part tokens) (part' tokens)) (name : String)
    (tokens : List Token) :
    SameUnlessTooDeep (reference part name tokens) (reference part' name tokens) := by
  unfold reference
  split
  · exact .refl _
  · exact (callArguments_sameUnlessTooDeep h _).bind fun _ ↦ .refl _
  · exact .refl _

theorem primary_sameUnlessTooDeep (h : ∀ tokens, SameUnlessTooDeep (part tokens) (part' tokens))
    (hoperand : ∀ tokens, SameUnlessTooDeep (operand tokens) (operand' tokens))
    (tokens : List Token) :
    SameUnlessTooDeep (primary part operand tokens) (primary part' operand' tokens) := by
  unfold primary
  dsimp only
  split
  · exact (hoperand _).bind fun _ ↦ .refl _
  · exact (hoperand _).bind fun _ ↦ .refl _
  · exact (hoperand _).bind fun _ ↦ .refl _
  · exact (h _).bind fun _ ↦ .refl _
  · exact .refl _
  · exact .refl _
  · exact .refl _
  · exact .refl _
  · exact reference_sameUnlessTooDeep h _ _
  · exact .refl _

end Inside

/-! ## More room -/

/-- The readers of whole formulas with some room, and with more. -/
structure SameWithin (cap cap' : DepthCap) (room room' : ℕ) : Prop where
  unaryOperand : ∀ tokens,
    SameUnlessTooDeep (unaryOperand cap room tokens) (unaryOperand cap' room' tokens)
  expression : ∀ level tokens,
    SameUnlessTooDeep (expression cap room level tokens) (expression cap' room' level tokens)
  chain : ∀ level left tokens,
    SameUnlessTooDeep (chain cap room level left tokens) (chain cap' room' level left tokens)

theorem chain_same_of_stop {cap cap' : DepthCap} {room room' level : ℕ} {tokens : List Token}
    (left : Formula) (hnone : chainOperator? level tokens = none) :
    SameUnlessTooDeep (chain cap room level left tokens) (chain cap' room' level left tokens) := by
  rw [chain_eq_self cap room left hnone, chain_eq_self cap' room' left hnone]
  exact .refl _

theorem sameWithin_zero (cap cap' : DepthCap) (room' : ℕ) : SameWithin cap cap' 0 room' where
  unaryOperand _ := .inl ⟨cap.shown, by rw [unaryOperand]⟩
  expression _ _ := .inl ⟨cap.shown, by rw [expression]⟩
  chain level left tokens := by
    rcases hoperator : chainOperator? level tokens with _ | operator
    · exact chain_same_of_stop left hoperator
    · refine .inl ⟨cap.shown, ?_⟩
      unfold chain
      rw [hoperator]

theorem SameWithin.succ {cap cap' : DepthCap} {room room' : ℕ}
    (ih : SameWithin cap cap' room room') : SameWithin cap cap' (room + 1) (room' + 1) := by
  have hprimary := primary_sameUnlessTooDeep (ih.expression 0) ih.unaryOperand
  constructor
  case unaryOperand =>
    intro tokens
    rw [PayFormula.unaryOperand, PayFormula.unaryOperand]
    exact hprimary tokens
  case expression =>
    intro level tokens
    rw [PayFormula.expression, PayFormula.expression]
    exact (hprimary tokens).bind fun first ↦ ih.chain level first.1 first.2
  case chain =>
    intro level left tokens
    rcases hoperator : chainOperator? level tokens with _ | operator
    · exact chain_same_of_stop left hoperator
    obtain ⟨token, tokens, rfl, -⟩ :=
      operatorAhead?_eq_some (chainOperator?_eq_some.1 hoperator).1
    rw [chain_eq_bind cap room left hoperator, chain_eq_bind cap' room' left hoperator]
    exact (ih.expression _ tokens).bind fun right ↦ ih.chain level _ right.2

theorem sameWithin (cap cap' : DepthCap) {room room' : ℕ} (h : room ≤ room') :
    SameWithin cap cap' room room' := by
  induction room generalizing room' with
  | zero => exact sameWithin_zero cap cap' room'
  | succ room ih =>
    obtain ⟨room', rfl⟩ : ∃ n, room' = n + 1 := ⟨room' - 1, by omega⟩
    exact (ih (by omega)).succ

/-! ## Enough room -/

theorem not_isTooDeep_expect (wanted : Lexeme) (tokens : List Token) :
    ¬IsTooDeep (expect wanted tokens) := by
  unfold expect
  split
  · exact not_isTooDeep_ok _
  · exact not_isTooDeep_error (by simp)

theorem not_isTooDeep_pathRest (tokens : List Token) : ¬IsTooDeep (pathRest tokens) := by
  induction tokens using pathRest.induct with
  | case1 dot segment name tokens ih =>
    rw [pathRest]
    exact not_isTooDeep_bind ih fun _ _ ↦ not_isTooDeep_ok _
  | case2 dot tokens hname =>
    rw [pathRest]
    · exact not_isTooDeep_error (by simp)
    · exact hname
  | case3 tokens hpath hdot =>
    rw [pathRest]
    · exact not_isTooDeep_ok _
    · exact hpath
    · exact hdot

section Ample

variable {part operand : Reader Formula} {tokens : List Token}

/-- Each part leaves fewer tokens than it was given. -/
theorem not_isTooDeep_separated (hsound : Sound .disjunction part) {limit : ℕ}
    (hpart : ∀ inside : List Token, inside.length ≤ tokens.length → ¬IsTooDeep (part inside)) :
    ¬IsTooDeep (separated part limit tokens) := by
  induction limit generalizing tokens with
  | zero => exact not_isTooDeep_ok _
  | succ limit ih =>
    refine not_isTooDeep_bind (hpart tokens le_rfl) fun read hfirst ↦ ?_
    obtain ⟨first, rest⟩ := read
    have hshorter := length_lt_of_sound hsound hfirst
    dsimp only
    split
    · refine not_isTooDeep_bind (ih fun inside hinside ↦ hpart inside ?_) fun _ _ ↦
        not_isTooDeep_ok _
      rw [List.length_drop] at hinside
      omega
    · exact not_isTooDeep_ok _

theorem not_isTooDeep_callArguments (hsound : Sound .disjunction part)
    (hpart : ∀ inside : List Token, inside.length ≤ tokens.length → ¬IsTooDeep (part inside)) :
    ¬IsTooDeep (callArguments part tokens) := by
  rw [callArguments_eq]
  refine not_isTooDeep_bind ?_ fun _ _ ↦
    not_isTooDeep_bind (not_isTooDeep_expect _ _) fun _ _ ↦ not_isTooDeep_ok _
  split
  · exact not_isTooDeep_ok _
  · exact not_isTooDeep_separated hsound hpart

theorem not_isTooDeep_reference (hsound : Sound .disjunction part) (name : String)
    (hpart : ∀ inside : List Token, inside.length ≤ tokens.length → ¬IsTooDeep (part inside)) :
    ¬IsTooDeep (reference part name tokens) := by
  unfold reference
  split
  · exact not_isTooDeep_bind (not_isTooDeep_pathRest tokens) fun _ _ ↦ not_isTooDeep_ok _
  · refine not_isTooDeep_bind ?_ fun _ _ ↦ not_isTooDeep_ok _
    refine not_isTooDeep_callArguments hsound fun inside hinside ↦ hpart inside ?_
    rw [List.length_drop] at hinside
    omega
  · exact not_isTooDeep_ok _

/-- An operand takes its first token before anything is read inside it. -/
theorem not_isTooDeep_primary (hsound : Sound .disjunction part)
    (hpart : ∀ inside : List Token, inside.length < tokens.length → ¬IsTooDeep (part inside))
    (hoperand : ∀ inside : List Token, inside.length < tokens.length →
      ¬IsTooDeep (operand inside)) :
    ¬IsTooDeep (primary part operand tokens) := by
  rcases tokens with _ | ⟨⟨lexeme, position⟩, tokens⟩
  · exact not_isTooDeep_error (by simp)
  have hshorter : tokens.length < (⟨lexeme, position⟩ :: tokens : List Token).length :=
    Nat.lt_succ_self _
  have hinside := hoperand tokens hshorter
  unfold primary
  dsimp only [headToken, List.drop_one, List.tail_cons]
  split
  · exact not_isTooDeep_bind hinside fun _ _ ↦ not_isTooDeep_ok _
  · exact not_isTooDeep_bind hinside fun _ _ ↦ not_isTooDeep_ok _
  · exact not_isTooDeep_bind hinside fun _ _ ↦ not_isTooDeep_ok _
  · exact not_isTooDeep_bind (hpart tokens hshorter) fun _ _ ↦
      not_isTooDeep_bind (not_isTooDeep_expect _ _) fun _ _ ↦ not_isTooDeep_ok _
  · exact not_isTooDeep_ok _
  · exact not_isTooDeep_ok _
  · exact not_isTooDeep_ok _
  · exact not_isTooDeep_ok _
  · exact not_isTooDeep_reference hsound _ fun inside h ↦ hpart inside (h.trans_lt hshorter)
  · exact not_isTooDeep_error (by simp)

end Ample

/-- With so much room for so many tokens the levels do not run out. -/
structure AmpleWithin (cap : DepthCap) (room : ℕ) : Prop where
  unaryOperand : ∀ tokens : List Token, 2 * tokens.length < room →
    ¬IsTooDeep (unaryOperand cap room tokens)
  expression : ∀ (level : ℕ) (tokens : List Token), 2 * tokens.length < room →
    ¬IsTooDeep (expression cap room level tokens)
  chain : ∀ (level : ℕ) (left : Formula) (tokens : List Token), 2 * tokens.length ≤ room →
    ¬IsTooDeep (chain cap room level left tokens)

theorem AmpleWithin.succ {cap : DepthCap} {room : ℕ} (ih : AmpleWithin cap room) :
    AmpleWithin cap (room + 1) := by
  have hsound : Sound .disjunction (PayFormula.expression cap room 0) := sound_expression cap room 0
  have hprimary (tokens : List Token) (hroom : 2 * tokens.length < room + 1) :
      ¬IsTooDeep (primary (PayFormula.expression cap room 0) (PayFormula.unaryOperand cap room)
        tokens) :=
    not_isTooDeep_primary hsound (fun inside h ↦ ih.expression 0 inside (by omega))
      fun inside h ↦ ih.unaryOperand inside (by omega)
  constructor
  case unaryOperand =>
    intro tokens hroom
    rw [PayFormula.unaryOperand]
    exact hprimary tokens hroom
  case expression =>
    intro level tokens hroom
    rw [PayFormula.expression]
    refine not_isTooDeep_bind (hprimary tokens hroom) fun read hfirst ↦ ?_
    obtain ⟨first, rest⟩ := read
    have hshorter := length_lt_of_sound (sound_primary cap room) hfirst
    exact ih.chain level first rest (by omega)
  case chain =>
    intro level left tokens hroom
    rcases hoperator : chainOperator? level tokens with _ | operator
    · rw [chain_eq_self cap _ left hoperator]
      exact not_isTooDeep_ok _
    obtain ⟨token, tokens, rfl, -⟩ :=
      operatorAhead?_eq_some (chainOperator?_eq_some.1 hoperator).1
    rw [List.length_cons] at hroom
    rw [chain_eq_bind cap room left hoperator]
    refine not_isTooDeep_bind (ih.expression _ tokens (by omega)) fun read hright ↦ ?_
    obtain ⟨right, rest⟩ := read
    have hshorter := length_lt_of_sound (sound_expression cap room _) hright
    exact ih.chain level _ rest (by omega)

theorem ampleWithin (cap : DepthCap) (room : ℕ) : AmpleWithin cap room := by
  induction room with
  | zero =>
    refine ⟨fun _ h ↦ absurd h (by omega), fun _ _ h ↦ absurd h (by omega), ?_⟩
    intro level left tokens hroom
    obtain rfl : tokens = [] := List.length_eq_zero_iff.1 (by omega)
    rw [chain_eq_self cap 0 left (by simp [chainOperator?, operatorAhead?, headToken])]
    exact not_isTooDeep_ok _
  | succ room ih => exact ih.succ

/-- More room than enough makes no difference. -/
theorem expression_eq_of_ample {cap cap' : DepthCap} {room room' : ℕ} {tokens : List Token}
    (hroom : 2 * tokens.length < room) (hle : room ≤ room') (level : ℕ) :
    expression cap' room' level tokens = expression cap room level tokens :=
  ((sameWithin cap cap' hle).expression level tokens).resolve_left
    ((ampleWithin cap room).expression level tokens hroom)

/-- A cap leaves the same room to tokens as to more of them, as far as it matters. -/
theorem expression_room_eq (cap : DepthCap) {tokens : List Token} {count : ℕ}
    (h : tokens.length ≤ count) (level : ℕ) :
    expression cap (cap.room count) level tokens =
      expression cap (cap.room tokens.length) level tokens := by
  unfold DepthCap.room
  rcases cap.levels? with _ | levels
  · exact expression_eq_of_ample (Nat.lt_succ_self _) (by simp only [Option.getD_none]; omega) level
  · rfl

/-! ## Whole formulas -/

/-- Where the second cap has a bound, so has the first one, and it is no greater. -/
def DepthCap.AtMost (cap cap' : DepthCap) : Prop :=
  ∀ levels' ∈ cap'.levels?, ∃ levels ∈ cap.levels?, levels ≤ levels'

theorem parse_sameUnlessTooDeep {cap cap' : DepthCap} (h : cap.AtMost cap') (strict : Bool)
    (tokens : List Token) :
    SameUnlessTooDeep (parse cap strict tokens) (parse cap' strict tokens) := by
  have hread : SameUnlessTooDeep (expression cap (cap.room tokens.length) 0 tokens)
      (expression cap' (cap'.room tokens.length) 0 tokens) := by
    rcases Nat.le_or_ge (cap.room tokens.length) (cap'.room tokens.length) with hle | hge
    · exact (sameWithin cap cap' hle).expression 0 tokens
    · rcases hlevels' : cap'.levels? with _ | levels'
      · -- There is no second bound, so the room that it stands for is enough.
        refine .inr (expression_eq_of_ample ?_ hge 0).symm
        rw [DepthCap.room, hlevels', Option.getD_none]
        omega
      · obtain ⟨levels, hlevels, hle⟩ := h levels' hlevels'
        refine (sameWithin cap cap' ?_).expression 0 tokens
        rw [DepthCap.room, DepthCap.room, hlevels', Option.mem_def.1 hlevels]
        exact hle
  exact hread.bind fun _ ↦ .refl _

end PayFormula

import Mathlib
import PayFormula.Engine.Basic
import PayFormula.Proofs.Decimal.Worth
import PayFormula.Proofs.Evaluation.Determination

/-!
# Skipped Operands Never Matter

Some operands do not take place: the right side of `AND` and `OR` when the left side settles the
result, the branch that a condition does not choose, and the arguments of `COALESCE` after the first
that is filled.  Two formulas that differ only there run in the same way, and because the run of a
formula is built from the runs of its parts, so do all formulas that hold one or the other at the
same place.  What is skipped may fail or ask collaborators; nothing of it is seen.
-/

namespace PayFormula

/-! ## Formulas with a hole -/

namespace Formula

/-- A formula with one place left open. -/
inductive Hole where
  | here
  | operand (operator : UnaryOperator) (inner : Hole)
  | leftSide (operator : BinaryOperator) (inner : Hole) (right : Formula)
  | rightSide (operator : BinaryOperator) (left : Formula) (inner : Hole)
  | argument (name : String) (before : List Formula) (inner : Hole) (after : List Formula)

/-- The formula with another one at the open place. -/
def Hole.fill (formula : Formula) : Hole → Formula
  | here => formula
  | operand operator inner => .unary operator (inner.fill formula)
  | leftSide operator inner right => .binary operator (inner.fill formula) right
  | rightSide operator left inner => .binary operator left (inner.fill formula)
  | argument name before inner after => .call name (before ++ inner.fill formula :: after)

variable {s : Surroundings}

theorem evalEach_eq_map (formulas : List Formula) :
    evalEach s formulas = formulas.map (eval s) := by
  induction formulas with
  | nil => rfl
  | cons formula rest ih => rw [evalEach, ih, List.map_cons]

/-- A formula runs in the same way with any part that runs in the same way. -/
theorem Hole.eval_fill_congr (hole : Hole) {f g : Formula} (h : f.eval s = g.eval s) :
    (hole.fill f).eval s = (hole.fill g).eval s := by
  induction hole with
  | here => exact h
  | operand operator inner ih => rw [fill, fill, eval, eval, ih]
  | leftSide operator inner right ih => rw [fill, fill, eval, eval, ih]
  | rightSide operator left inner ih => rw [fill, fill, eval, eval, ih]
  | argument name before inner after ih =>
    rw [fill, fill, eval, eval, evalEach_eq_map, evalEach_eq_map, List.map_append, List.map_append,
      List.map_cons, List.map_cons, ih]

end Formula

/-! ## What settles a result -/

/-- Zero after the cut. -/
def Surroundings.IsZero (s : Surroundings) (value : Value) : Prop :=
  Exact.cut s.places value.toDecimal.toRat = 0

/-- Null or the empty text. -/
def Value.IsEmpty (value : Value) : Prop := value = .null ∨ value = .text ""

namespace Surroundings

variable {s : Surroundings}

theorem isTrue_iff (value : Value) : s.isTrue value = true ↔ ¬s.IsZero value := by
  rw [isTrue, Bool.not_eq_true', ← Bool.not_eq_true, Decimal.isZeroAt_iff, IsZero]

theorem isFilled_iff (value : Value) : isFilled value = true ↔ ¬value.IsEmpty := by
  unfold Value.IsEmpty
  cases value with
  | text content => simp [isFilled]
  | _ => simp [isFilled]

end Surroundings

/-- The formulas differ at most in an operand that does not take place in the surroundings. -/
inductive Formula.Skips (s : Surroundings) : Formula → Formula → Prop where
  | conjunction {left right right' : Formula} {value : Value}
      (hleft : (left.eval s).outcome = .ok value) (hzero : s.IsZero value) :
      Skips s (.binary .and left right) (.binary .and left right')
  | disjunction {left right right' : Formula} {value : Value}
      (hleft : (left.eval s).outcome = .ok value) (hzero : ¬s.IsZero value) :
      Skips s (.binary .or left right) (.binary .or left right')
  | positive {name : String} {condition positive positive' negative : Formula} {value : Value}
      (hname : name = "IF" ∨ name = "IIF")
      (hcondition : (condition.eval s).outcome = .ok value) (hzero : s.IsZero value) :
      Skips s (.call name [condition, positive, negative])
        (.call name [condition, positive', negative])
  | negative {name : String} {condition positive negative negative' : Formula} {value : Value}
      (hname : name = "IF" ∨ name = "IIF")
      (hcondition : (condition.eval s).outcome = .ok value) (hzero : ¬s.IsZero value) :
      Skips s (.call name [condition, positive, negative])
        (.call name [condition, positive, negative'])
  | coalesced {before after after' : List Formula} {filled : Formula} {value : Value}
      (hbefore : ∀ formula ∈ before, ∃ empty, (formula.eval s).outcome = .ok empty ∧ empty.IsEmpty)
      (hfilled : (filled.eval s).outcome = .ok value) (hvalue : ¬value.IsEmpty) :
      Skips s (.call "COALESCE" (before ++ filled :: after))
        (.call "COALESCE" (before ++ filled :: after'))

/-- There is no journal on which the run gives another value. -/
def Run.GivesOnly {α : Type} (run : Run α) (a : α) : Prop := ∀ a', run.Gives a' → a' = a

/-- Work that goes on from the one value there can be need only agree there. -/
theorem Run.GivesOnly.bind_congr {α β : Type} {run : Run α} {a : α} {next₁ next₂ : α → Run β}
    (hrun : run.GivesOnly a) (h : next₁ a = next₂ a) : run >>= next₁ = run >>= next₂ := by
  apply Run.bind_congr
  intro a' ha'
  rw [hrun a' ha', h]

/-- Where answers depend on what is asked alone, a formula gives the same wherever it stands. -/
theorem Formula.givesOnly_of_steady {s : Surroundings} (hsteady : s.sources.collaborators.Steady)
    {formula : Formula} {value : Value} (h : (formula.eval s).outcome = .ok value) :
    (formula.eval s).GivesOnly value := by
  rintro value' ⟨journal, hjournal⟩
  rw [eval_on_eq_of_steady hsteady, h] at hjournal
  exact (Except.ok.inj hjournal).symm

namespace Surroundings

variable {s : Surroundings}

theorem conjunction_congr {left right right' : Run Value} {value : Value}
    (hleft : left.GivesOnly value) (hzero : s.IsZero value) :
    s.binaryValue .and left right = s.binaryValue .and left right' := by
  have hfalse : ¬s.isTrue value = true := fun h ↦ (isTrue_iff value).1 h hzero
  apply hleft.bind_congr
  rw [if_neg hfalse, if_neg hfalse]

theorem disjunction_congr {left right right' : Run Value} {value : Value}
    (hleft : left.GivesOnly value) (hzero : ¬s.IsZero value) :
    s.binaryValue .or left right = s.binaryValue .or left right' := by
  have htrue := (isTrue_iff value).2 hzero
  apply hleft.bind_congr
  rw [if_pos htrue, if_pos htrue]

theorem firstFilled_congr {before after after' : List (Run Value)} {filled : Run Value}
    {value : Value}
    (hbefore : ∀ run ∈ before, ∃ empty, run.GivesOnly empty ∧ empty.IsEmpty)
    (hfilled : filled.GivesOnly value) (hvalue : ¬value.IsEmpty) :
    firstFilled (before ++ filled :: after) = firstFilled (before ++ filled :: after') := by
  induction before with
  | nil =>
    have htrue := (isFilled_iff value).2 hvalue
    apply hfilled.bind_congr
    rw [if_pos htrue, if_pos htrue]
  | cons run before ih =>
    rw [List.forall_mem_cons] at hbefore
    obtain ⟨empty, hrun, hempty⟩ := hbefore.1
    have hfalse : ¬isFilled empty = true := fun h ↦ (isFilled_iff empty).1 h hempty
    apply hrun.bind_congr
    rw [if_neg hfalse, if_neg hfalse]
    exact ih hbefore.2

end Surroundings

theorem Formula.eval_choice {s : Surroundings} {name : String} (hname : name = "IF" ∨ name = "IIF")
    (condition positive negative : Formula) :
    (call name [condition, positive, negative]).eval s =
      condition.eval s >>= fun value ↦
        if s.isTrue value then positive.eval s else negative.eval s := by
  rcases hname with rfl | rfl
  · rfl
  · rfl

theorem Formula.eval_coalesce (s : Surroundings) (arguments : List Formula) :
    (call "COALESCE" arguments).eval s = Surroundings.firstFilled (arguments.map (eval s)) := by
  rw [eval, evalEach_eq_map]
  rfl

/-- What differs only in what is skipped runs in the same way. -/
theorem Formula.Skips.eval_eq {s : Surroundings} (hsteady : s.sources.collaborators.Steady)
    {f g : Formula} (h : Skips s f g) : f.eval s = g.eval s := by
  cases h with
  | conjunction hleft hzero =>
    rw [eval, eval]
    exact Surroundings.conjunction_congr (givesOnly_of_steady hsteady hleft) hzero
  | disjunction hleft hzero =>
    rw [eval, eval]
    exact Surroundings.disjunction_congr (givesOnly_of_steady hsteady hleft) hzero
  | positive hname hcondition hzero =>
    have hfalse := mt (Surroundings.isTrue_iff _).1 (not_not_intro hzero)
    rw [eval_choice hname, eval_choice hname]
    apply (givesOnly_of_steady hsteady hcondition).bind_congr
    rw [if_neg hfalse, if_neg hfalse]
  | negative hname hcondition hzero =>
    have htrue := (Surroundings.isTrue_iff _).2 hzero
    rw [eval_choice hname, eval_choice hname]
    apply (givesOnly_of_steady hsteady hcondition).bind_congr
    rw [if_pos htrue, if_pos htrue]
  | coalesced hbefore hfilled hvalue =>
    rw [eval_coalesce, eval_coalesce, List.map_append, List.map_append, List.map_cons,
      List.map_cons]
    apply Surroundings.firstFilled_congr (List.forall_mem_map.2 ?_)
      (givesOnly_of_steady hsteady hfilled) hvalue
    intro formula hformula
    obtain ⟨empty, hempty, hisEmpty⟩ := hbefore formula hformula
    exact ⟨empty, givesOnly_of_steady hsteady hempty, hisEmpty⟩

/-! ## The engine -/

namespace Engine

/-- The formula that is read from a source. -/
def Reads (settings : Settings) (source : Value) (formula : Formula) : Prop :=
  ∃ tokens, Source.tokens source = .ok tokens ∧
    Source.formula settings.depthCap settings.isStrict tokens = .ok formula

theorem Reads.run_eq {today : Date} {settings : Settings} {source context : Value}
    {options : Options} {s : Surroundings} {formula : Formula}
    (hread : Reads settings source formula)
    (hs : surroundings today settings context options = .ok s) :
    run today settings source context options = formula.eval s := by
  obtain ⟨tokens, htokens, hformula⟩ := hread
  rw [run, hs, htokens, Run.ofExcept_ok_bind, Run.ofExcept_ok_bind, hformula,
    Run.ofExcept_ok_bind]

end Engine

/-- The same value or fault, with the same trace, ledger and inquiries. -/
structure Observed.SameRun (seen₁ seen₂ : Observed EvaluationReport) : Prop where
  outcome : seen₁.report.outcome = seen₂.report.outcome
  trace : seen₁.report.trace = seen₂.report.trace
  ledger : seen₁.report.ledger = seen₂.report.ledger
  inquiries : seen₁.inquiries = seen₂.inquiries

theorem Engine.sameRun_of_run_eq {today : Date} {settings : Settings}
    {source₁ source₂ context : Value} {options : Options} (engine : Engine)
    (h : run today settings source₁ context options = run today settings source₂ context options) :
    (engine.evaluate today settings source₁ context options).2.SameRun
      (engine.evaluate today settings source₂ context options).2 := by
  unfold evaluate
  rw [h]
  exact ⟨rfl, rfl, rfl, rfl⟩

/-- What is skipped at one place of a formula never matters: neither for the run of the whole, with
all its events and its value or fault, nor for what an engine reports of it. -/
theorem skipped_operands_never_matter {s : Surroundings}
    (hsteady : s.sources.collaborators.Steady) {f g : Formula} (h : f.Skips s g)
    (hole : Formula.Hole) :
    (hole.fill f).eval s = (hole.fill g).eval s ∧
      ∀ (engine : Engine) today settings source₁ source₂ context options,
        Engine.surroundings today settings context options = .ok s →
        Engine.Reads settings source₁ (hole.fill f) → Engine.Reads settings source₂ (hole.fill g) →
        (engine.evaluate today settings source₁ context options).2.SameRun
          (engine.evaluate today settings source₂ context options).2 := by
  have hrun : (hole.fill f).eval s = (hole.fill g).eval s :=
    hole.eval_fill_congr (h.eval_eq hsteady)
  refine ⟨hrun, fun engine today settings source₁ source₂ context options hs hread₁ hread₂ ↦ ?_⟩
  apply Engine.sameRun_of_run_eq
  rw [hread₁.run_eq hs, hread₂.run_eq hs, hrun]

/-- `0.04` is zero at one place: what stands beside it may be unbound or ask a collaborator. -/
theorem skipped_operands_never_matter_unbound :
    let collaborators : Collaborators := { parameters? := some fun _ _ ↦ .ok (.text "7") }
    let s : Surroundings := {
      context := { concepts := [(.text "base", .int 100)], date := "2026-01-31", scale := 1 }
      sources := { collaborators } }
    let context : Value := .map [(.text "concepts", .map [(.text "Base", .int 100)]),
      (.text "date", .text "2026-01-31")]
    let options : Options := { scale := .int 1, collaborators }
    let hole : Formula.Hole :=
      .argument "MAX" [.variable ["BASE"]] (.operand .negate .here) [.number (.text "1")]
    let unbound : Formula := .variable ["X"]
    let asked : Formula := .call "PARAM" [.text (.text "rate")]
    let f : Formula := .binary .and (.number (.text "0.04")) unbound
    let g : Formula := .binary .and (.number (.text "0.04")) asked
    let source₁ : Value := .text "max(base, -(0.04 && x), 1)"
    let source₂ : Value := .text "max(base, -(0.04 && param('rate')), 1)"
    collaborators.Steady ∧
      (unbound.eval s).outcome = .error (.undefinedVariable "x") ∧
      (asked.eval s).journal.inquiries = [.parameter (.text "rate") (.text "2026-01-31")] ∧
      f.Skips s g ∧ (hole.fill f).eval s = (hole.fill g).eval s ∧
      Engine.surroundings default {} context options = .ok s ∧
      Engine.Reads {} source₁ (hole.fill f) ∧ Engine.Reads {} source₂ (hole.fill g) ∧
      (({} : Engine).evaluate default {} source₁ context options).2.SameRun
        (({} : Engine).evaluate default {} source₂ context options).2 := by
  intro collaborators s context options hole unbound asked f g source₁ source₂
  have hzero : s.IsZero (.text "0.04") := (Decimal.isZeroAt_iff _ _).1 (by decide +kernel)
  have hskips : f.Skips s g := .conjunction rfl hzero
  have hs : Engine.surroundings default {} context options = .ok s := rfl
  have hread₁ : Engine.Reads {} source₁ (hole.fill f) := ⟨_, rfl, rfl⟩
  have hread₂ : Engine.Reads {} source₂ (hole.fill g) := ⟨_, rfl, rfl⟩
  have hsteady : collaborators.Steady := by
    rintro collaborator hmember past inquiry
    obtain rfl := List.mem_singleton.1 hmember
    rfl
  have hsame := skipped_operands_never_matter hsteady hskips hole
  exact ⟨hsteady, rfl, rfl, hskips, hsame.1, hs, hread₁, hread₂,
    hsame.2 {} default {} source₁ source₂ context options hs hread₁ hread₂⟩

end PayFormula

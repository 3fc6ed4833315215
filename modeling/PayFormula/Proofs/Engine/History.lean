import Mathlib
import PayFormula.Proofs.Evaluation.Ledger

/-!
# The History of an Engine

An engine may be used for one step after another, and every evaluation writes into the trace and the
ledger that the steps before it have left.  It could read them as well, but it does not: it answers
as on a fresh engine, adds to the trace what it would leave there, and puts its ledger on top of the
one before.  A step that fails leaves what happened until then.

What a collaborator has become by a later step, in case it keeps the questions of an earlier one in
mind, is another collaborator, which the options of that step hold.
-/

namespace PayFormula

/-- Reading leaves the trace and the ledger alone, and the stage tells whether there were tokens. -/
theorem Engine.parse_eq (settings : Settings) (source : Value) (engine : Engine) :
    engine.parse settings source =
      ({ engine with
          stage := if (Source.tokens source).toBool then .parsing else .tokenizing },
        Source.tokens source >>= Source.formula settings.depthCap settings.isStrict) := by
  unfold parse
  cases Source.tokens source <;> rfl

/-! ## Steps -/

/-- One use of an engine, with everything that is given for it. -/
inductive Step where
  | evaluate (today : Date) (settings : Settings) (source context : Value) (options : Options)
  | validate (settings : Settings) (source : Value)
  | parse (settings : Settings) (source : Value)

/-- What a step answers, the trace and the ledger of the engine apart. -/
inductive Answer where
  | evaluated (outcome : Except Fault Value) (inquiries : List Inquiry) (logs : List LogLine)
  | validated (outcome : Except Fault Formula) (logs : List LogLine)
  | parsed (outcome : Except Fault Formula)

def Answer.succeeded : Answer → Bool
  | evaluated outcome _ _ => outcome.toBool
  | validated outcome _ | parsed outcome => outcome.toBool

namespace Step

def perform (engine : Engine) : Step → Engine × Answer
  | evaluate today settings source context options =>
    let (next, observed) := engine.evaluate today settings source context options
    (next, .evaluated observed.report.outcome observed.inquiries observed.logs)
  | validate settings source =>
    let (next, observed) := engine.validate settings source
    (next, .validated observed.report.outcome observed.logs)
  | parse settings source =>
    let (next, outcome) := engine.parse settings source
    (next, .parsed outcome)

/-- What happens during a step.  Only evaluation leaves events. -/
def events : Step → List Event
  | evaluate today settings source context options =>
    (Engine.run today settings source context options).events
  | validate .. | parse .. => []

/-- The stage in which a step with the given answer leaves an engine. -/
def stageAfter (answer : Answer) : Step → Stage
  | evaluate .. | validate .. => if answer.succeeded then .done else .error
  | parse _ source => if (Source.tokens source).toBool then .parsing else .tokenizing

end Step

/-- The run of a source writes behind what an engine holds, and holds on to nothing of it. -/
theorem Engine.run_on_eq (today : Date) (settings : Settings) (source context : Value)
    (options : Options) (engine : Engine) :
    let run := run today settings source context options
    run.on engine.journal = (run.outcome, engine.journal.recordAll run.events) := by
  intro run
  rcases run_eq_fail_or_eval today settings source context options with
    ⟨fault, hfail⟩ | ⟨s, formula, heval⟩
  · unfold run
    rw [hfail]
    rfl
  · unfold run
    rw [heval]
    exact formula.eval_on_eq s engine.journal rfl

namespace Step

variable (engine : Engine) (step : Step)

theorem perform_answer : (step.perform engine).2 = (step.perform {}).2 := by
  cases step with
  | evaluate today settings source context options =>
    simp only [perform, Engine.evaluate, Engine.run_on_eq, Journal.inquiries_recordAll]
    rfl
  | validate => simp only [perform, Engine.validate, Engine.parse_eq]
  | parse => simp only [perform, Engine.parse_eq]

theorem perform_trace : (step.perform engine).1.trace = engine.trace ++ traceOf step.events := by
  cases step with
  | evaluate =>
    simp only [perform, Engine.evaluate, Engine.run_on_eq, Journal.trace_recordAll]
    rfl
  | validate => exact (List.append_nil _).symm
  | parse =>
    rw [perform, Engine.parse_eq]
    exact (List.append_nil _).symm

theorem perform_ledger :
    (step.perform engine).1.ledger = engine.ledger.overlay (usagesOf step.events) := by
  cases step with
  | evaluate =>
    simp only [perform, Engine.evaluate, Engine.run_on_eq, Journal.ledger_recordAll]
    rfl
  | validate => rfl
  | parse =>
    rw [perform, Engine.parse_eq]
    rfl

theorem perform_stage :
    (step.perform engine).1.stage = step.stageAfter (step.perform engine).2 := by
  cases step with
  | evaluate today settings source context options =>
    simp only [perform, Engine.evaluate, stageAfter, Answer.succeeded]
    split <;> simp [*, Except.toBool]
  | validate settings source =>
    simp only [perform, Engine.validate, stageAfter, Answer.succeeded]
    split <;> simp [*, Except.toBool]
  | parse =>
    rw [perform, Engine.parse_eq]
    rfl

/-- A step records keys that a mapping can have. -/
theorem checkKey_of_mem_usagesOf {entry : Value × Usage} (h : entry ∈ usagesOf step.events) :
    entry.1.checkKey = .ok () := by
  cases step with
  | evaluate today settings source context options =>
    rcases Engine.run_eq_fail_or_eval today settings source context options with
      ⟨fault, hfail⟩ | ⟨s, formula, heval⟩
    · rw [events, hfail] at h
      nomatch h
    · rw [events, heval] at h
      exact Formula.checkKey_of_mem_usagesOf h
  | validate => nomatch h
  | parse => nomatch h

end Step

/-! ## Engines -/

namespace Engine

/-- An engine on which steps were taken one after another. -/
def after (steps : List Step) : Engine :=
  steps.foldl (fun engine step ↦ (step.perform engine).1) {}

theorem after_concat (steps : List Step) (step : Step) :
    after (steps ++ [step]) = (step.perform (after steps)).1 := by
  rw [after, List.foldl_concat, after]

/-- The ledger of an engine has only keys that a mapping can have. -/
theorem checkKey_of_mem_ledger_after (steps : List Step) :
    ∀ key ∈ (after steps).ledger.keys, key.checkKey = .ok () := by
  induction steps using List.reverseRecOn with
  | nil => exact List.forall_mem_nil _
  | append_singleton steps step ih =>
    rw [after_concat, Step.perform_ledger]
    exact Table.forall_mem_keys_overlay ih fun _ h ↦ step.checkKey_of_mem_usagesOf h

/-- The trace and the ledger of an engine are what the events of its steps leave in a fresh journal
when each is written down at the moment at which it happens. -/
theorem views_after (steps : List Step) :
    let recorded := ({} : Journal).recordAll (steps.flatMap Step.events)
    (after steps).trace = recorded.trace ∧ (after steps).ledger = recorded.ledger := by
  induction steps using List.reverseRecOn with
  | nil => exact ⟨rfl, rfl⟩
  | append_singleton steps step ih =>
    dsimp only at ih ⊢
    rw [after_concat, List.flatMap_append, List.flatMap_singleton, Journal.recordAll_append]
    constructor
    · rw [step.perform_trace, Journal.trace_recordAll, ih.1]
    · rw [step.perform_ledger, Journal.ledger_recordAll, ih.2]

/-- Each step answers as on a fresh engine, adds to the trace what it leaves there, and puts the
ledger that it leaves there on top of the one before.  All that an engine holds is what its steps
have recorded, event by event. -/
theorem perform_independent_of_history (earlier : List Step) (step : Step) :
    let engine := after earlier
    let next := step.perform engine
    let fresh := step.perform {}
    let recorded := ({} : Journal).recordAll ((earlier ++ [step]).flatMap Step.events)
    next.2 = fresh.2 ∧
    next.1.trace = engine.trace ++ fresh.1.trace ∧
    next.1.ledger = engine.ledger.overlay fresh.1.ledger ∧
    next.1.stage = step.stageAfter fresh.2 ∧
    next.1.trace = recorded.trace ∧
    next.1.ledger = recorded.ledger := by
  intro engine next fresh recorded
  have hanswer : next.2 = fresh.2 := step.perform_answer engine
  have hfreshTrace : fresh.1.trace = traceOf step.events := step.perform_trace {}
  have hfreshLedger : fresh.1.ledger = Table.ofPairs (usagesOf step.events) :=
    step.perform_ledger {}
  have hledger : engine.ledger.overlay fresh.1.ledger =
      engine.ledger.overlay (usagesOf step.events) := by
    rw [hfreshLedger]
    exact Value.regular_keys.overlay_ofPairs (checkKey_of_mem_ledger_after earlier)
      fun _ h ↦ step.checkKey_of_mem_usagesOf h
  have hviews := views_after (earlier ++ [step])
  rw [after_concat] at hviews
  refine ⟨hanswer, ?_, ?_, ?_, hviews.1, hviews.2⟩
  · rw [hfreshTrace]
    exact step.perform_trace engine
  · rw [hledger]
    exact step.perform_ledger engine
  · rw [← hanswer]
    exact step.perform_stage engine

end Engine

end PayFormula

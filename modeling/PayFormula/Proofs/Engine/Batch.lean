import Mathlib
import PayFormula.Engine.Batch
import PayFormula.Proofs.Evaluation.Course

/-!
# Batches Evaluate Each Context Alone

A batch is a walk through its contexts that evaluates each on an engine of its own.  Its reports,
its inquiries and its log are those of the contexts alone, one after another, and every failing
context adds one line that names its employee.  All contexts ask the same collaborators, which have
to answer from what they are asked alone: others could tell a context that comes later from the
first.

For the line of a failing context the context is read again, so it has to be a mapping: where no
context is given and the evaluation fails, the batch ends and the reports before it are lost.
-/

namespace PayFormula

/-! ## Progress -/

namespace BatchProgress

theorem append_empty (progress : BatchProgress) : progress.append {} = progress := by
  simp only [append, List.append_nil]

theorem append_assoc (first second third : BatchProgress) :
    (first.append second).append third = first.append (second.append third) := by
  simp only [append, List.append_assoc]

end BatchProgress

/-! ## One context -/

/-- The employee that a context names, null when it names none. -/
def employeeOf : Value → Value
  | .map entries => Value.lookup "employee_id" entries
  | _ => .null

/-- The line for a context that fails. -/
def failureLine (context : Value) (fault : Fault) : LogLine :=
  let shown := s!"({fault.reportedCode}): {fault.message}"
  ⟨.error, s!"Formula error for employee {(employeeOf context).toText} {shown}"⟩

/-- What a context adds to the log of a batch: the lines of its own evaluation and, if that fails,
one line for its employee. -/
def contextLines (context : Value) (seen : Observed EvaluationReport) : List LogLine :=
  match seen.report.outcome with
  | .ok _ => seen.logs
  | .error fault => seen.logs ++ [failureLine context fault]

/-- A context that a batch can take: a mapping, or none at all if the evaluation succeeds without
one. -/
def IsBatchable (context : Value) (seen : Observed EvaluationReport) : Prop :=
  (∃ entries, context = .map entries) ∨ context = .null ∧ seen.report.succeeded = true

/-- The fault of a batch that looks for the employee of a missing context. -/
def noContext : Fault := .badData (.noAttribute "NoneType" "get")

theorem contextLog_map (entries : List (Value × Value)) (fault : Fault) :
    contextLog (.map entries) fault = .ok (failureLine (.map entries) fault) :=
  rfl

theorem contextLog_null (fault : Fault) : contextLog .null fault = .error noContext :=
  rfl

section Contexts

variable (today : Date) (settings : Settings) (source : Value) (options : Options)

/-- What contexts add to a batch: what each of them shows alone, in their order. -/
def progressOf (contexts : List Value) : BatchProgress where
  reports := contexts.map fun context ↦ (evaluate today settings source context options).report
  inquiries := contexts.flatMap fun context ↦
    (evaluate today settings source context options).inquiries
  logs := contexts.flatMap fun context ↦
    contextLines context (evaluate today settings source context options)

theorem progressOf_cons (context : Value) (rest : List Value) :
    progressOf today settings source options (context :: rest) =
      (progressOf today settings source options [context]).append
        (progressOf today settings source options rest) := by
  simp only [progressOf, BatchProgress.append, List.map_cons, List.map_nil, List.flatMap_cons,
    List.flatMap_nil, List.append_nil, List.singleton_append]

variable {today settings source options}

/-- A context that the batch can take leaves its progress, and the batch goes on. -/
theorem evaluateContext_eq {context : Value}
    (h : IsBatchable context (evaluate today settings source context options)) :
    evaluateContext today settings source options context =
      (progressOf today settings source options [context], none) := by
  simp only [evaluateContext, progressOf, contextLines, List.map_singleton, List.flatMap_singleton]
  cases houtcome : (evaluate today settings source context options).report.outcome with
  | ok value => rfl
  | error fault =>
    obtain ⟨entries, rfl⟩ | ⟨-, hsucceeded⟩ := h
    · simp only [contextLog_map, BatchProgress.append, List.append_nil]
    · rw [EvaluationReport.succeeded, houtcome] at hsucceeded
      exact absurd hsucceeded Bool.false_ne_true

/-- A missing context that makes the evaluation fail ends the batch. -/
theorem evaluateContext_null
    (h : (evaluate today settings source .null options).report.succeeded = false) :
    (evaluateContext today settings source options .null).2 = some noContext := by
  simp only [evaluateContext]
  cases houtcome : (evaluate today settings source .null options).report.outcome with
  | ok value =>
    rw [EvaluationReport.succeeded, houtcome] at h
    exact absurd h.symm Bool.false_ne_true
  | error fault => simp only [contextLog_null]

/-! ## All contexts -/

variable (hsteady : options.collaborators.Steady)

include hsteady

/-- Contexts that the batch can take leave their progress before that of the others. -/
theorem evaluateContexts_append {before : List Value} (after : List Value)
    (h : ∀ context ∈ before,
      IsBatchable context (evaluate today settings source context options)) :
    let later := evaluateContexts today settings source options after
    evaluateContexts today settings source options (before ++ after) =
      ((progressOf today settings source options before).append later.1, later.2) := by
  intro later
  induction before with
  | nil => rfl
  | cons context rest ih =>
    obtain ⟨hcontext, hrest⟩ := List.forall_mem_cons.1 h
    rw [List.cons_append, evaluateContexts, evaluateContext_eq hcontext]
    dsimp only
    -- steady collaborators are the same for the contexts that follow
    rw [hsteady.after_eq, ih hrest, progressOf_cons _ _ _ _ context rest,
      BatchProgress.append_assoc]

theorem evaluateContexts_eq {contexts : List Value}
    (h : ∀ context ∈ contexts,
      IsBatchable context (evaluate today settings source context options)) :
    evaluateContexts today settings source options contexts =
      (progressOf today settings source options contexts, none) := by
  have happend := evaluateContexts_append hsteady [] h
  rw [List.append_nil] at happend
  rw [happend, evaluateContexts, BatchProgress.append_empty]

/-- A missing context that makes the evaluation fail costs the batch the reports of all others. -/
theorem report_evaluateBatch_null {before : List Value} (after : List Value)
    (hbefore : ∀ context ∈ before,
      IsBatchable context (evaluate today settings source context options))
    (hnull : (evaluate today settings source .null options).report.succeeded = false) :
    (evaluateBatch today settings source (.list (before ++ .null :: after)) options).report =
      .error noContext := by
  have hstop : (evaluateContexts today settings source options (.null :: after)).2 =
      some noContext := by
    have hcontext := evaluateContext_null hnull
    rw [evaluateContexts]
    cases hnext : evaluateContext today settings source options .null with
    | mk progress stop? =>
      rw [hnext] at hcontext
      subst hcontext
      rfl
  simp only [evaluateBatch, Value.members, evaluateContexts_append hsteady _ hbefore, hstop]

end Contexts

/-! ## Batches -/

/-- The line that closes a batch. -/
def summaryLine (source : Value) (evaluated failed : Nat) : LogLine :=
  ⟨.info, s!"Evaluated {evaluated} contexts, {failed} errors for formula: {source.toText}"⟩

theorem batchSummary_eq (source : Value) (reports : List EvaluationReport) :
    batchSummary source reports =
      summaryLine source reports.length (reports.countP fun report ↦ !report.succeeded) := by
  rw [batchSummary, summaryLine, List.countP_eq_length_filter]

/-- A batch over contexts that it can take has one report for each, in their order: that of the
context alone on a fresh engine, if the collaborators answer from what they are asked alone.  Its
log has the lines of each evaluation, followed by one line for the employee where it fails, and then
a summary with the numbers of contexts and of failures. -/
theorem batch_reports_each_alone (today : Date) (settings : Settings)
    (source parameters employeeParameters scale : Value)
    (hsteady : settings.collaborators.Steady) {contexts : List Value}
    (hcontexts : ∀ context ∈ contexts,
      IsBatchable context (evaluate today settings source context
        (batchOptions settings parameters employeeParameters scale))) :
    let options := batchOptions settings parameters employeeParameters scale
    let alone := fun context ↦ evaluate today settings source context options
    let failures := contexts.countP fun context ↦ !(alone context).report.succeeded
    let batch := evaluateBatch today settings source (.list contexts) options
    batch.report = .ok (contexts.map fun context ↦ (alone context).report) ∧
    batch.inquiries = contexts.flatMap (fun context ↦ (alone context).inquiries) ∧
    batch.logs = contexts.flatMap (fun context ↦ contextLines context (alone context)) ++
      [summaryLine source contexts.length failures] := by
  intro options alone failures batch
  have hsummary : batchSummary source (contexts.map fun context ↦ (alone context).report) =
      summaryLine source contexts.length failures := by
    rw [batchSummary_eq, List.length_map, List.countP_map]
    rfl
  have hbatch : batch = {
      report := .ok (contexts.map fun context ↦ (alone context).report)
      inquiries := contexts.flatMap fun context ↦ (alone context).inquiries
      logs := contexts.flatMap (fun context ↦ contextLines context (alone context)) ++
        [summaryLine source contexts.length failures] } := by
    have hall := evaluateContexts_eq (show options.collaborators.Steady from hsteady) hcontexts
    simp only [batch, evaluateBatch, Value.members, hall, ← hsummary]
    rfl
  rw [hbatch]
  exact ⟨rfl, rfl, rfl⟩

/-- A collaborator is asked for one context that succeeds and for none at all, and not for one that
fails on its employee. -/
theorem batch_reports_each_alone_unknown_employee :
    let collaborators : Collaborators := { parameters? := some fun _ _ ↦ .ok (.int 7) }
    let settings : Settings := { collaborators }
    let source : Value := .text "param('rate') * 2"
    let bad : Value := .map [(.text "employee_id", .text "seven")]
    let contexts : List Value := [.map [(.text "employee_id", .int 3)], bad, .null]
    let options := batchOptions settings .null .null .null
    let alone := fun context ↦ evaluate default settings source context options
    let batch := evaluateBatch default settings source (.list contexts) options
    collaborators.Steady ∧
    (∀ context ∈ contexts, IsBatchable context (alone context)) ∧
    batch.report = .ok (contexts.map fun context ↦ (alone context).report) ∧
    (contexts.map fun context ↦ (alone context).report.succeeded) = [true, false, true] ∧
    batch.inquiries.length = 2 ∧
    batch.logs.getLast? = some (summaryLine source 3 1) := by
  intro collaborators settings source bad contexts options alone batch
  have hsteady : collaborators.Steady := by
    rintro collaborator hmember past inquiry
    obtain rfl := List.mem_singleton.1 hmember
    rfl
  have hgood : (alone (.map [(.text "employee_id", .int 3)])).report.succeeded = true := by
    decide +kernel
  have hbad : (alone bad).report.succeeded = false := by decide +kernel
  have hnull : (alone .null).report.succeeded = true := by decide +kernel
  have hcontexts : ∀ context ∈ contexts, IsBatchable context (alone context) :=
    List.forall_mem_cons.2 ⟨.inl ⟨_, rfl⟩, List.forall_mem_cons.2 ⟨.inl ⟨_, rfl⟩,
      List.forall_mem_singleton.2 (.inr ⟨rfl, hnull⟩)⟩⟩
  obtain ⟨hreport, hinquiries, hlogs⟩ :=
    batch_reports_each_alone default settings source .null .null .null hsteady hcontexts
  have hfailures : contexts.countP (fun context ↦ !(alone context).report.succeeded) = 1 := by
    decide +kernel
  have hasked : (contexts.flatMap fun context ↦ (alone context).inquiries).length = 2 := by
    decide +kernel
  refine ⟨hsteady, hcontexts, hreport, ?_, ?_, ?_⟩
  · rw [List.map_cons, List.map_cons, List.map_singleton, hgood, hbad, hnull]
  · rw [hinquiries, hasked]
  · rw [hlogs, List.getLast?_concat, hfailures]
    rfl

/-- No context at all for a formula that reads a variable: the report of the mapping before it,
which succeeds alone, is lost. -/
theorem batch_loses_reports_without_context :
    let known : Value := .map [(.text "variables", .map [(.text "x", .int 1)])]
    let options := batchOptions {} .null .null .null
    let alone := fun context ↦ evaluate default {} (.text "x") context options
    (alone known).report.succeeded = true ∧
    (evaluateBatch default {} (.text "x") (.list [known, .null]) options).report =
      .error noContext := by
  intro known options alone
  have hknown : (alone known).report.succeeded = true := rfl
  have hnull : (alone .null).report.succeeded = false := rfl
  have hnobody : options.collaborators.Steady := List.forall_mem_nil _
  exact ⟨hknown, report_evaluateBatch_null hnobody []
    (List.forall_mem_singleton.2 (.inl ⟨_, rfl⟩)) hnull⟩

end PayFormula

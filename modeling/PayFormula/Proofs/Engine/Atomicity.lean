import Mathlib
import PayFormula.Proofs.Engine.History
import PayFormula.Proofs.Evaluation.Resolution

/-!
# Atomic Resolutions

Queries for parameters and group totals may be put one after another, with one trace and one ledger
for all of them.  A query that fails leaves both as they were, wherever it stopped.  One that
succeeds adds one line to the trace; in the ledger a parameter changes the entry of its own key, and
a group total changes nothing.

Collaborators need not give the same answer whenever they are asked, and maps may change between
queries.  So each query comes with the sources as they are when it is put.
-/

namespace PayFormula

/-! ## Queries -/

/-- A question to sources with all its arguments. -/
inductive Query where
  | parameter (key date : Value)
  | employeeParameter (key employee date : Value)
  | groupSum (code concepts groups scale : Value)

namespace Query

def question : Query → Sources.Question
  | parameter .. => .parameter
  | employeeParameter .. => .employeeParameter
  | groupSum .. => .groupSum

def arguments : Query → List Value
  | parameter key date => [key, date]
  | employeeParameter key employee date => [key, employee, date]
  | groupSum code concepts groups scale => [code, concepts, groups, scale]

/-- The event that tells what a query has given. -/
def event (origin : Origin) (value : String) : Query → Event
  | parameter key date => .parameterRead origin key value date
  | employeeParameter key employee date => .employeeParameterRead origin key value employee date
  | groupSum code .. => .groupSummed code.toText value

/-- What is recorded of a query: the event that tells what it has given, if it gave anything. -/
def recorded (origin : Origin) (outcome : Except Fault String) (query : Query) : List Event :=
  Run.recordOf (fun value ↦ query.event origin value) outcome

def run (sources : Sources) (query : Query) : Run String :=
  sources.answer query.question query.arguments

/-- What a query looks up. -/
def lookup : Query → Lookup
  | parameter key _ => .keyed .parameter key.toText
  | employeeParameter key _ _ => .keyed .employeeParameter key.toText
  | groupSum code .. => .keyed .group code.toText

variable (sources : Sources) (query : Query)

theorem run_records :
    (query.run sources).Records sources.collaborators query.lookup fun origin value ↦
      query.event origin value := by
  cases query with
  | parameter key date => exact sources.parameter_records key date
  | employeeParameter key employee date => exact sources.employeeParameter_records key date employee
  | groupSum code concepts groups scale => exact sources.groupSum_records code concepts groups scale

/-- Every query that succeeds has a line to show for it. -/
theorem exists_traceLine (origin : Origin) (value : String) :
    ∃ line, (query.event origin value).traceLine? = some line := by
  cases query <;> cases origin <;> exact ⟨_, rfl⟩

end Query

/-! ## Queries on an engine -/

/-- In `after` a usage is recorded for a key; all other keys are as in `before`. -/
structure Ledger.ChangedAt (key : Value) (usage : Usage) (before after : Ledger) : Prop where
  put : after = before.put key usage
  found : ∀ other : Value, other.checkKey = .ok () → key == other → after.get? other = some usage
  kept : ∀ other : Value, other.checkKey = .ok () → ¬key == other →
    after.get? other = before.get? other

/-- What a query does to a ledger when it gives a value. -/
def Query.Updates (value : String) (before after : Ledger) : Query → Prop
  | parameter key date =>
    let usage : Usage := ⟨value, date, none⟩
    usage.scope = "GLOBAL" ∧ Ledger.ChangedAt key usage before after
  | employeeParameter key employee date =>
    let usage : Usage := ⟨value, date, some employee⟩
    usage.scope = "EMPLOYEE" ∧ Ledger.ChangedAt key usage before after
  | groupSum .. => after = before

theorem Ledger.changedAt_put {ledger : Ledger}
    (hledger : ∀ key ∈ ledger.keys, key.checkKey = .ok ()) {key : Value}
    (hkey : key.checkKey = .ok ()) (usage : Usage) :
    Ledger.ChangedAt key usage ledger (ledger.put key usage) where
  put := rfl
  found _ hother hequal := by
    rw [Value.regular_keys.get?_put hledger hkey hother, if_pos hequal]
  kept _ hother hne := by
    rw [Value.regular_keys.get?_put hledger hkey hother, if_neg hne]

namespace Engine

/-- The ledger has only keys that a mapping can have. -/
def HasKeys (engine : Engine) : Prop := ∀ key ∈ engine.ledger.keys, key.checkKey = .ok ()

/-- Put a query to sources, on the trace and the ledger of an engine. -/
def ask (engine : Engine) (sources : Sources) (query : Query) : Engine × Except Fault String :=
  let (outcome, journal) := (query.run sources).on engine.journal
  ({ engine with trace := journal.trace, ledger := journal.ledger }, outcome)

/-- Put queries one after another, whatever becomes of each. -/
def askEach (engine : Engine) (queries : List (Sources × Query)) : Engine :=
  queries.foldl (fun engine entry ↦ (engine.ask entry.1 entry.2).1) engine

variable (engine : Engine) (sources : Sources) (query : Query)

/-- What an engine holds makes no difference to the answer. -/
theorem ask_outcome : (engine.ask sources query).2 = (query.run sources).outcome := by
  obtain ⟨quiet, origin, outcome, htakes, -⟩ := query.run_records sources []
  have hengine := htakes engine.journal fun _ _ ↦ rfl
  have hfresh := htakes {} fun _ _ ↦ rfl
  exact (congrArg Prod.fst hengine).trans (congrArg Prod.fst hfresh).symm

/-- A query changes the trace and the ledger by the event that tells what it gives, if it gives
anything. -/
theorem exists_origin_ask : ∃ origin,
    (engine.ask sources query).1 = { engine with
      trace := engine.trace ++ traceOf (query.recorded origin (engine.ask sources query).2)
      ledger :=
        engine.ledger.overlay (usagesOf (query.recorded origin (engine.ask sources query).2)) } ∧
    ∀ value, (engine.ask sources query).2 = .ok value →
      (query.event origin value).IsRecordable := by
  obtain ⟨origin, hrecords⟩ := (query.run_records sources).exists_origin engine.journal
  refine ⟨origin, ?_, hrecords.2.2⟩
  exact congrArg₂ (Engine.mk engine.stage) hrecords.1 hrecords.2.1

variable {engine sources query}

theorem ask_of_error {fault : Fault} (h : (engine.ask sources query).2 = .error fault) :
    (engine.ask sources query).1 = engine := by
  obtain ⟨origin, hnext, -⟩ := engine.exists_origin_ask sources query
  rw [hnext, h, Query.recorded, Run.recordOf, traceOf, List.filterMap_nil, List.append_nil]
  rfl

theorem ask_trace_of_ok {value : String} (h : (engine.ask sources query).2 = .ok value) :
    ∃ origin line, (query.event origin value).traceLine? = some line ∧
      (engine.ask sources query).1.trace = engine.trace ++ [line] := by
  obtain ⟨origin, hnext, -⟩ := engine.exists_origin_ask sources query
  obtain ⟨line, hline⟩ := query.exists_traceLine origin value
  refine ⟨origin, line, hline, ?_⟩
  rw [hnext, h, Query.recorded, Run.recordOf, traceOf, List.filterMap_cons_some hline,
    List.filterMap_nil]

theorem HasKeys.ask (h : engine.HasKeys) : (engine.ask sources query).1.HasKeys := by
  obtain ⟨origin, hnext, hkey⟩ := engine.exists_origin_ask sources query
  rw [hnext]
  apply Table.forall_mem_keys_overlay h
  intro entry hentry
  obtain ⟨event, hevent, husage⟩ := List.mem_filterMap.1 hentry
  cases houtcome : (engine.ask sources query).2 with
  | error fault =>
    rw [houtcome] at hevent
    nomatch hevent
  | ok value =>
    rw [houtcome] at hevent
    obtain rfl := List.mem_singleton.1 hevent
    exact hkey value houtcome _ _ husage

theorem HasKeys.askEach (h : engine.HasKeys) (queries : List (Sources × Query)) :
    (engine.askEach queries).HasKeys := by
  induction queries generalizing engine with
  | nil => exact h
  | cons entry rest ih => exact ih h.ask

theorem HasKeys.updates (h : engine.HasKeys) {value : String}
    (hvalue : (engine.ask sources query).2 = .ok value) :
    query.Updates value engine.ledger (engine.ask sources query).1.ledger := by
  obtain ⟨origin, hnext, hkey⟩ := engine.exists_origin_ask sources query
  have hrecordable := hkey value hvalue
  rw [hnext, hvalue]
  cases query with
  | parameter key date => exact ⟨rfl, Ledger.changedAt_put h (hrecordable key _ rfl) _⟩
  | employeeParameter key employee date =>
    exact ⟨rfl, Ledger.changedAt_put h (hrecordable key _ rfl) _⟩
  | groupSum => rfl

/-- There is one line for each query that succeeds. -/
theorem length_trace_askEach (engine : Engine) (queries : List (Sources × Query)) :
    (engine.askEach queries).trace.length = engine.trace.length +
      queries.countP fun entry ↦ (entry.2.run entry.1).outcome.toBool := by
  induction queries generalizing engine with
  | nil => rfl
  | cons entry rest ih =>
    obtain ⟨sources, query⟩ := entry
    have hstep : (engine.ask sources query).1.trace.length =
        engine.trace.length + if (query.run sources).outcome.toBool then 1 else 0 := by
      rw [← engine.ask_outcome]
      cases houtcome : (engine.ask sources query).2 with
      | ok value =>
        obtain ⟨_, line, -, htrace⟩ := ask_trace_of_ok houtcome
        rw [htrace, List.length_append]
        rfl
      | error fault =>
        rw [ask_of_error houtcome]
        rfl
    calc
      _ = (engine.ask sources query).1.trace.length +
          rest.countP fun entry ↦ (entry.2.run entry.1).outcome.toBool := ih _
      _ = _ := by rw [hstep, List.countP_cons, add_assoc, add_comm (List.countP _ _)]

/-- Whatever queries came before: a query that fails leaves the engine as it was, and one that gives
a value adds the one line that tells it to the trace and updates the ledger with the value, and with
the date and the employee that it asked for.  So there are as many new lines as there were queries
that succeeded. -/
theorem queries_atomic (start : Engine) (hstart : start.HasKeys)
    (earlier : List (Sources × Query)) (sources : Sources) (query : Query) :
    let before := start.askEach earlier
    let next := before.ask sources query
    (∀ fault, next.2 = .error fault → next.1 = before) ∧
    (∀ value, next.2 = .ok value →
      (∃ origin line, (query.event origin value).traceLine? = some line ∧
        next.1.trace = before.trace ++ [line]) ∧
      query.Updates value before.ledger next.1.ledger) ∧
    before.trace.length = start.trace.length +
      earlier.countP fun entry ↦ (entry.2.run entry.1).outcome.toBool := by
  intro before next
  have hbefore : before.HasKeys := hstart.askEach earlier
  refine ⟨?_, ?_, length_trace_askEach start earlier⟩
  · intro fault hfault
    exact ask_of_error hfault
  · intro value hvalue
    exact ⟨ask_trace_of_ok hvalue, hbefore.updates hvalue⟩

/-- The rate is known, so asking for it again on another day changes its entry in the ledger. -/
theorem queries_atomic_rate :
    let sources : Sources := { parameters := [(.text "rate", .text "0.1")] }
    let before := askEach {} [(sources, .parameter (.text "rate") (.text "2026-01-31"))]
    let next := before.ask sources (.parameter (.text "rate") (.text "2026-02-28"))
    Ledger.ChangedAt (.text "rate") ⟨"0.1", .text "2026-02-28", none⟩ before.ledger
      next.1.ledger := by
  intro sources before next
  have hatomic := queries_atomic {} (List.forall_mem_nil _)
    [(sources, .parameter (.text "rate") (.text "2026-01-31"))] sources
    (.parameter (.text "rate") (.text "2026-02-28"))
  exact (hatomic.2.1 "0.1" rfl).2.2

end Engine

end PayFormula

import Mathlib
import PayFormula.Engine.Basic
import PayFormula.Proofs.Evaluation.Shown
import PayFormula.Proofs.Table
import PayFormula.Proofs.Value.Equality

/-!
# The Ledger of a Run

A formula that asks for a parameter and gets it makes a resolution, with its key, value, date and,
for a parameter of an employee, whose it is.  The ledger is written by the resolver, before the
formula goes on with the value.  Still the two agree: the ledger has one entry for each key, that of
the key's last resolution, whatever its scope, employee and date are, and even if a collaborator has
answered the same question in another way before.  An earlier resolution of the same key can then no
longer be seen in the ledger, only in the trace; resolutions of other keys leave it alone.
-/

namespace PayFormula

/-- The resolutions that a formula has got, in their order. -/
def resolutionsOf (events : List Event) : List (Value × Usage) := events.filterMap Event.resolution?

theorem resolutionsOf_append (earlier later : List Event) :
    resolutionsOf (earlier ++ later) = resolutionsOf earlier ++ resolutionsOf later :=
  List.filterMap_append

section Quiet

variable {events : List Event} (h : ∀ event ∈ events, event.IsQuiet)

include h

theorem resolutionsOf_of_isQuiet : resolutionsOf events = [] :=
  List.filterMap_eq_nil_iff.2 fun event hevent ↦ (h event hevent).resolution?

theorem Journal.ledger_recordAll_of_isQuiet (journal : Journal) :
    (journal.recordAll events).ledger = journal.ledger := by
  rw [ledger_recordAll, usagesOf_of_isQuiet h]
  rfl

theorem Journal.resolutionsOf_recordAll_of_isQuiet (journal : Journal) :
    resolutionsOf (journal.recordAll events).events = resolutionsOf journal.events := by
  rw [events_recordAll, resolutionsOf_append, resolutionsOf_of_isQuiet h, List.append_nil]

end Quiet

/-! ## One resolution -/

/-- On every journal the work either fails and leaves the ledger alone, or it gives a value, notes
one resolution and puts the same into the ledger. -/
def Run.Resolves (key : Value) (usage : String → Usage) (run : Run Value) : Prop :=
  ∀ journal, let (outcome, later) := run.on journal
    (∃ fault, outcome = .error fault ∧ later.ledger = journal.ledger ∧
      resolutionsOf later.events = resolutionsOf journal.events) ∨
    ∃ value, outcome = .ok (.text value) ∧ later.ledger = journal.ledger.put key (usage value) ∧
      resolutionsOf later.events = resolutionsOf journal.events ++ [(key, usage value)]

/-- A resolver records what is then given to the formula. -/
theorem Run.Records.resolves {collaborators : Collaborators} {lookup : Lookup}
    {event : Origin → String → Event} {run : Run String} {kind : Formula.KeyedCall} {key : Value}
    {usage : String → Usage} (h : run.Records collaborators lookup event)
    (husage : ∀ origin value, (event origin value).usage? = some (key, usage value))
    (hresolution : ∀ origin value, (event origin value).resolution? = none) :
    (Run.emit (.sought kind key) >>= fun _ ↦ run >>= fun value ↦
      Run.emit (.resolved key (usage value)) >>= fun _ ↦ Run.pure (.text value)).Resolves key
        usage := by
  intro journal
  obtain ⟨quiet, origin, outcome, htakes, hquiet, -⟩ :=
    h (journal.record (.sought kind key)).inquiries
  have hon := htakes _ fun _ _ ↦ rfl
  have hsought : (journal.record (.sought kind key)).recordAll quiet =
      journal.recordAll (.sought kind key :: quiet) := rfl
  have hprepared : ∀ event ∈ Event.sought kind key :: quiet, event.IsQuiet :=
    List.forall_mem_cons.2 ⟨⟨rfl, rfl, rfl⟩, fun event hevent ↦ (hquiet event hevent).1⟩
  have hledger := journal.ledger_recordAll_of_isQuiet hprepared
  have hevents := journal.resolutionsOf_recordAll_of_isQuiet hprepared
  rw [Run.on_emit_bind]
  cases outcome with
  | error fault =>
    rw [recordOf, List.append_nil, hsought] at hon
    rw [Run.on_bind_of_error hon]
    exact .inl ⟨fault, rfl, hledger, hevents⟩
  | ok value =>
    rw [Journal.recordAll_append, hsought] at hon
    rw [Run.on_bind_of_ok hon]
    generalize journal.recordAll (.sought kind key :: quiet) = prepared at hledger hevents
    -- the resolver writes into the ledger first, then the formula is given the value
    let recorded := prepared.record (event origin value)
    let given := recorded.record (.resolved key (usage value))
    have hrecorded : given.ledger = prepared.ledger.put key (usage value) := by
      simp only [given, recorded, Journal.record, husage]
      rfl
    have hgiven : resolutionsOf given.events =
        resolutionsOf prepared.events ++ [(key, usage value)] := by
      have hnone : resolutionsOf [event origin value] = [] :=
        List.filterMap_cons_none (hresolution _ _)
      simp only [given, recorded, Journal.record, resolutionsOf_append, hnone, List.append_nil]
      rfl
    exact .inr ⟨value, rfl, hledger ▸ hrecorded, hevents ▸ hgiven⟩

namespace Surroundings

variable (s : Surroundings) (key date : Value)

theorem parameterValue_resolves :
    (s.parameterValue key date).Resolves key fun value ↦ ⟨value, date, none⟩ :=
  (s.sources.parameter_records key date).resolves (fun _ _ ↦ rfl) fun _ _ ↦ rfl

theorem employeeParameterValue_resolves (employee : Value) :
    (s.employeeParameterValue key employee date).Resolves key fun value ↦
      ⟨value, date, some employee⟩ :=
  (s.sources.employeeParameter_records key date employee).resolves (fun _ _ ↦ rfl) fun _ _ ↦ rfl

end Surroundings

/-! ## The resolutions of a run -/

/-- What is given to the formula is what was recorded, in the same order. -/
def EventLaw.balanced : EventLaw where
  Holds events := resolutionsOf events = usagesOf events
  nil := rfl
  append hearlier hlater := by
    rw [resolutionsOf_append, usagesOf_append, hearlier, hlater]

namespace Event

theorem balanced_of_isQuiet {event : Event} (h : event.IsQuiet) :
    EventLaw.balanced.Holds [event] := by
  have hquiet := List.forall_mem_singleton.2 h
  exact (resolutionsOf_of_isQuiet hquiet).trans (usagesOf_of_isQuiet hquiet).symm

theorem resolution?_of_lookup?_eq_none {event : Event} (h : event.lookup? = none) :
    event.resolution? = none := by
  cases event with
  | resolved => nomatch h
  | _ => rfl

theorem usage?_of_lookup?_eq_none {event : Event} (h : event.lookup? = none) :
    event.usage? = none := by
  cases husage : event.usage? with
  | none => rfl
  | some entry =>
    rw [lookup?_of_usage? husage] at h
    nomatch h

end Event

namespace Formula

variable (s : Surroundings) (formula : Formula)

theorem permits_balanced : formula.Permits s .balanced fun _ ↦ True where
  plainEvent event h := by
    simp [EventLaw.balanced, resolutionsOf, usagesOf, Event.resolution?_of_lookup?_eq_none h,
      Event.usage?_of_lookup?_eq_none h]
  plainFault _ _ _ := trivial
  variableEvent _ _ _ := rfl
  variableFault _ _ _ _ := trivial
  resolution kind _ _ _ key _ run hrun := by
    apply hrun.shows (fun event hquiet _ ↦ Event.balanced_of_isQuiet hquiet) ?_ fun _ _ ↦ trivial
    intro events hconcludes
    cases hconcludes <;> rfl

theorem permits_recordable : formula.Permits s (.each Event.IsRecordable) fun _ ↦ True where
  plainEvent event h :=
    List.forall_mem_singleton.2 (.of_usage?_eq_none (Event.usage?_of_lookup?_eq_none h))
  plainFault _ _ _ := trivial
  variableEvent _ _ _ := List.forall_mem_singleton.2 nofun
  variableFault _ _ _ _ := trivial
  resolution kind _ _ _ key _ run hrun := by
    apply hrun.shows ?_ ?_ fun _ _ ↦ trivial
    · intro event hquiet _
      exact List.forall_mem_singleton.2 (.of_usage?_eq_none hquiet.usage?)
    · intro events hconcludes
      cases hconcludes with
      | parameter origin value date hkey =>
        exact List.forall_mem_cons.2 ⟨.of_usage? rfl hkey, List.forall_mem_singleton.2 nofun⟩
      | employeeParameter origin value employee date hkey =>
        exact List.forall_mem_cons.2 ⟨.of_usage? rfl hkey, List.forall_mem_singleton.2 nofun⟩
      | group total => exact List.forall_mem_singleton.2 nofun

theorem resolutionsOf_events :
    resolutionsOf (formula.eval s).events = usagesOf (formula.eval s).events :=
  (eval_shows formula (permits_balanced s formula)).holds

variable {s formula}

/-- Every key that a run records is one that a mapping can have. -/
theorem checkKey_of_mem_usagesOf {entry : Value × Usage}
    (h : entry ∈ usagesOf (formula.eval s).events) : entry.1.checkKey = .ok () := by
  obtain ⟨event, hevent, husage⟩ := List.mem_filterMap.1 h
  exact (eval_shows formula (permits_recordable s formula)).holds event hevent _ _ husage

end Formula

/-- A run on the engine is the evaluation of a formula, unless it fails before there is one. -/
theorem Engine.run_eq_fail_or_eval (today : Date) (settings : Settings) (source context : Value)
    (options : Options) :
    (∃ fault, run today settings source context options = Run.fail fault) ∨
      ∃ (s : Surroundings) (formula : Formula),
        run today settings source context options = formula.eval s := by
  unfold run
  cases surroundings today settings context options with
  | error fault => exact .inl ⟨fault, rfl⟩
  | ok s =>
    rw [Run.ofExcept_ok_bind]
    cases Source.tokens source with
    | error fault => exact .inl ⟨fault, rfl⟩
    | ok tokens =>
      rw [Run.ofExcept_ok_bind]
      cases Source.formula settings.depthCap settings.isStrict tokens with
      | error fault => exact .inl ⟨fault, rfl⟩
      | ok formula => exact .inr ⟨s, formula, rfl⟩

/-! ## The last resolution of a key -/

/-- A ledger has what the last resolution of each key left, under the key of one of that key's
resolutions, and nothing else. -/
structure Ledger.KeepsLast (resolutions : List (Value × Usage)) (ledger : Ledger) : Prop where
  recorded : ∀ earlier key usage later, resolutions = earlier ++ (key, usage) :: later →
    (∀ resolution ∈ later, ¬key == resolution.1) →
      ∃ recorded, Table.SameKey recorded key ∧ (recorded, usage) ∈ ledger
  resolved : ∀ recorded usage, (recorded, usage) ∈ ledger → ∃ earlier key later,
    resolutions = earlier ++ (key, usage) :: later ∧ Table.SameKey recorded key ∧
      ∀ resolution ∈ later, ¬recorded == resolution.1
  distinct : ledger.Distinct

theorem keepsLast_ofPairs {resolutions : List (Value × Usage)}
    (hkeys : ∀ resolution ∈ resolutions, resolution.1.checkKey = .ok ()) :
    Ledger.KeepsLast resolutions (Table.ofPairs resolutions) where
  recorded earlier key usage later hsplit hlater := by
    rw [hsplit] at hkeys ⊢
    exact Value.regular_keys.exists_mem_ofPairs hkeys hlater
  resolved recorded usage hentry := Value.regular_keys.exists_of_mem_ofPairs hkeys hentry
  distinct := Table.distinct_ofPairs _

theorem Formula.keepsLast_eval (s : Surroundings) (formula : Formula) :
    Ledger.KeepsLast (resolutionsOf (formula.eval s).events) (formula.eval s).journal.ledger := by
  have hledger : (formula.eval s).journal.ledger =
      Table.ofPairs (resolutionsOf (formula.eval s).events) := by
    rw [(eval_shows formula (permits_balanced s formula)).journal_eq, Journal.ledger_recordAll,
      resolutionsOf_events]
    rfl
  rw [hledger]
  apply keepsLast_ofPairs
  rw [resolutionsOf_events]
  exact fun _ ↦ checkKey_of_mem_usagesOf

/-- A formula that asks for a parameter makes one resolution if it gets a value, with its key,
value, date and employee, and a ledger keeps the last resolution of every key: so it is with any
formula against any surroundings, whatever the collaborators answer and however often they change
their answers, and with what a fresh engine reports. -/
theorem ledger_keeps_last_resolution :
    (∀ (s : Surroundings) key date, (s.parameterValue key date).Resolves key fun value ↦
      ⟨value, date, none⟩) ∧
    (∀ (s : Surroundings) key employee date,
      (s.employeeParameterValue key employee date).Resolves key fun value ↦
        ⟨value, date, some employee⟩) ∧
    (∀ (s : Surroundings) (formula : Formula), let run := formula.eval s
      run.journal.ledger.KeepsLast (resolutionsOf run.events)) ∧
    ∀ today settings source context options,
      (evaluate today settings source context options).report.ledger.KeepsLast
        (resolutionsOf (Engine.run today settings source context options).events) := by
  refine ⟨fun s key date ↦ s.parameterValue_resolves key date, fun s key employee date ↦
    s.employeeParameterValue_resolves key date employee, Formula.keepsLast_eval, ?_⟩
  intro today settings source context options
  have hreport : (evaluate today settings source context options).report.ledger =
      (Engine.run today settings source context options).journal.ledger := rfl
  rw [hreport]
  rcases Engine.run_eq_fail_or_eval today settings source context options with
    ⟨fault, hfail⟩ | ⟨s, formula, hrun⟩
  · rw [hfail]
    exact keepsLast_ofPairs (List.forall_mem_nil _)
  · rw [hrun]
    exact Formula.keepsLast_eval s formula

/-- A collaborator raises the rate once it has been asked: the same question is answered in two
ways, and the ledger has the second answer. -/
theorem ledger_keeps_last_resolution_raised :
    let raising : Collaborator := fun past _ ↦ .ok (.text (if past.isEmpty then "0.1" else "0.2"))
    let s : Surroundings := {
      context := { date := "2026-01-31" }
      sources := { collaborators := { parameters? := some raising } } }
    let rate : Formula := .call "PARAM" [.text (.text "rate")]
    let run := (Formula.binary .plus rate rate).eval s
    let usage (value : String) : Usage := ⟨value, .text "2026-01-31", none⟩
    resolutionsOf run.events = [(.text "rate", usage "0.1"), (.text "rate", usage "0.2")] ∧
      ∃ recorded, Table.SameKey recorded (Value.text "rate") ∧
        (recorded, usage "0.2") ∈ run.journal.ledger := by
  intro raising s rate run usage
  have hresolutions : resolutionsOf run.events =
      [(.text "rate", usage "0.1"), (.text "rate", usage "0.2")] := rfl
  have hkeeps := ledger_keeps_last_resolution.2.2.1 s (.binary .plus rate rate)
  exact ⟨hresolutions, hkeeps.recorded [(.text "rate", usage "0.1")] _ _ [] hresolutions
    (List.forall_mem_nil _)⟩

/-- The hours of the first employee are resolved, but only those of the second one are recorded. -/
theorem later_employee_erases_earlier :
    let s : Surroundings := {
      context := { date := "2026-01-31" }
      sources := { employeeParameters := [(.int 1, [(.text "hours", .text "10")]),
        (.int 2, [(.text "hours", .text "20")])] } }
    let hours (employee : String) : Formula :=
      .call "EMP_PARAM" [.text (.text "hours"), .number (.text employee)]
    let run := (Formula.binary .plus (hours "1") (hours "2")).eval s
    ¬∀ resolution ∈ resolutionsOf run.events, ∃ entry ∈ run.journal.ledger,
      entry.2 = resolution.2 := by
  intro s hours run hall
  have hresolutions : resolutionsOf run.events =
      [(.text "hours", ⟨"10", .text "2026-01-31", some (.int 1)⟩),
       (.text "hours", ⟨"20", .text "2026-01-31", some (.int 2)⟩)] := rfl
  have hledger : run.journal.ledger =
      [(.text "hours", ⟨"20", .text "2026-01-31", some (.int 2)⟩)] := rfl
  rw [hresolutions, hledger, List.forall_mem_cons] at hall
  obtain ⟨entry, hentry, husage⟩ := hall.1
  obtain rfl := List.mem_singleton.1 hentry
  simp at husage

end PayFormula

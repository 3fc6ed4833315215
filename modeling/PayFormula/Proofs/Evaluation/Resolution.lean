import Mathlib
import PayFormula.Evaluation.Resolution
import PayFormula.Proofs.Evaluation.Course
import PayFormula.Proofs.Value.Shape

/-!
# Resolutions

A parameter or a group total is resolved in one go.  A collaborator may be asked first, which leaves
neither a line nor an entry, and whatever can go wrong goes wrong before anything is recorded.  If
nothing does, one event tells the result.  So the trace and the ledger show one resolution if it
succeeds and nothing of it if it fails.
-/

namespace PayFormula

/-! ## Lookups -/

/-- What is looked up: a variable, or the key of a parameter or a group. -/
inductive Lookup where
  | variable (key : String)
  | keyed (kind : Formula.KeyedCall) (key : String)

/-- The calls that leave usages of a scope. -/
def Usage.kind (usage : Usage) : Formula.KeyedCall :=
  if usage.employee?.isSome then .employeeParameter else .parameter

namespace Event

/-- The lookup that an event tells of.  Taxes look nothing up. -/
def lookup? : Event → Option Lookup
  | inquired (.parameter key _) => some (.keyed .parameter key.toText)
  | inquired (.employeeParameter key _ _) => some (.keyed .employeeParameter key.toText)
  | inquired (.groupTotal code _) => some (.keyed .group code.toText)
  | sought kind key => some (.keyed kind key.toText)
  | resolved key usage => some (.keyed usage.kind key.toText)
  | variableRead key _ => some (.variable key)
  | parameterRead _ key _ _ => some (.keyed .parameter key.toText)
  | employeeParameterRead _ key _ _ _ => some (.keyed .employeeParameter key.toText)
  | groupSummed code _ => some (.keyed .group code)
  | _ => none

/-- The resolution of a parameter that a formula has got. -/
def resolution? : Event → Option (Value × Usage)
  | resolved key usage => some (key, usage)
  | _ => none

/-- Nothing is recorded by the event, and no parameter has arrived with it. -/
structure IsQuiet (event : Event) : Prop where
  traceLine? : event.traceLine? = none
  usage? : event.usage? = none
  resolution? : event.resolution? = none

/-- What is recorded in the ledger is recorded under a key that a mapping can have. -/
def IsRecordable (event : Event) : Prop :=
  ∀ key usage, event.usage? = some (key, usage) → key.checkKey = .ok ()

theorem IsRecordable.of_usage? {event : Event} {key : Value} {usage : Usage}
    (h : event.usage? = some (key, usage)) (hkey : key.checkKey = .ok ()) :
    event.IsRecordable := by
  intro recorded other hother
  rw [h] at hother
  obtain ⟨rfl, -⟩ := Prod.mk.inj (Option.some.inj hother)
  exact hkey

theorem IsRecordable.of_usage?_eq_none {event : Event} (h : event.usage? = none) :
    event.IsRecordable := by
  intro key usage husage
  rw [h] at husage
  nomatch husage

theorem lookup?_of_usage? {event : Event} {key : Value} {usage : Usage}
    (h : event.usage? = some (key, usage)) :
    event.lookup? = some (.keyed usage.kind key.toText) := by
  unfold usage? at h
  split at h
  · obtain ⟨rfl, rfl⟩ := Prod.mk.inj (Option.some.inj h)
    rfl
  · obtain ⟨rfl, rfl⟩ := Prod.mk.inj (Option.some.inj h)
    rfl
  · nomatch h

end Event

theorem traceOf_of_isQuiet {events : List Event} (h : ∀ event ∈ events, event.IsQuiet) :
    traceOf events = [] :=
  List.filterMap_eq_nil_iff.2 fun event hevent ↦ (h event hevent).traceLine?

theorem usagesOf_of_isQuiet {events : List Event} (h : ∀ event ∈ events, event.IsQuiet) :
    usagesOf events = [] :=
  List.filterMap_eq_nil_iff.2 fun event hevent ↦ (h event hevent).usage?

/-- The lookup that a fault tells of: it found nothing that would do. -/
def Fault.lookup? : Fault → Option Lookup
  | undefinedVariable key | notAValue key => some (.variable key)
  | parameterNotFound key _ => some (.keyed .parameter key)
  | noEmployee key _ | employeeParameterNotFound key _ _ => some (.keyed .employeeParameter key)
  | groupNotFound code => some (.keyed .group code)
  | _ => none

/-! ## Work that records its result -/

/-- What can go wrong with a lookup: the data are not of the right shape, or nothing is found. -/
def Lookup.Fails (lookup : Lookup) (fault : Fault) : Prop :=
  (∃ cause, fault = .badData cause) ∨ fault.lookup? = some lookup

namespace Run

variable {α : Type}

/-- The work tells of the lookup only, and records nothing. -/
def Prepares (collaborators : Collaborators) (lookup : Lookup) (run : Run α) : Prop :=
  run.Shows collaborators (.each fun event ↦ event.IsQuiet ∧ event.lookup? = some lookup)
    lookup.Fails

/-- The event that tells a result, if there is one. -/
def recordOf (event : String → Event) : Except Fault String → List Event
  | .ok value => [event value]
  | .error _ => []

/-- The work prepares for a lookup and, if it succeeds, ends with one event that tells what it gives
and where that came from. -/
def Records (collaborators : Collaborators) (lookup : Lookup) (event : Origin → String → Event)
    (run : Run String) : Prop :=
  ∀ past, ∃ quiet origin outcome,
    run.Takes collaborators past (quiet ++ recordOf (event origin) outcome) outcome ∧
    (∀ event ∈ quiet, event.IsQuiet ∧ event.lookup? = some lookup) ∧
    (∀ value, outcome = .ok value → (event origin value).IsRecordable) ∧
    ∀ fault, outcome = .error fault → lookup.Fails fault ∨ collaborators.FailLast past quiet fault

variable {collaborators : Collaborators} {lookup : Lookup}

namespace Prepares

theorem ofExcept {result : Except Fault α} (h : FailsByData result) :
    Prepares collaborators lookup (Run.ofExcept result) := by
  apply Shows.ofExcept
  intro fault hfault
  exact .inl (h fault hfault)

theorem ask {collaborator? : Option Collaborator} {inquiry : Inquiry}
    (hmember : ∀ collaborator ∈ collaborator?, collaborator ∈ collaborators.all)
    (h : Event.lookup? (.inquired inquiry) = some lookup) :
    Prepares collaborators lookup (Sources.ask collaborator? inquiry) := by
  cases collaborator? with
  | none => exact .pure none
  | some collaborator =>
    apply Shows.bind
    · exact .inquire (hmember collaborator rfl) (List.forall_mem_singleton.2 ⟨⟨rfl, rfl, rfl⟩, h⟩)
    · intro answer _
      exact .pure _

end Prepares

namespace Records

variable {run : Run String} {event : Origin → String → Event}

theorem fail {fault : Fault} (h : lookup.Fails fault) :
    Records collaborators lookup event (Run.fail fault) := by
  intro past
  refine ⟨[], .static, .error fault, fun _ _ ↦ rfl, List.forall_mem_nil _, nofun, ?_⟩
  rintro _ ⟨⟩
  exact .inl h

theorem record (origin : Origin) {value : String} (h : (event origin value).IsRecordable) :
    Records collaborators lookup event
      (Run.emit (event origin value) >>= fun _ ↦ Run.pure value) := by
  intro past
  refine ⟨[], origin, .ok value, fun _ _ ↦ rfl, List.forall_mem_nil _, ?_, nofun⟩
  rintro _ ⟨⟩
  exact h

/-- What is recorded comes last. -/
theorem after {first : Run α} {next : α → Run String} (h : first.Prepares collaborators lookup)
    (hnext : ∀ a, first.Gives a → (next a).Records collaborators lookup event) :
    (first >>= next).Records collaborators lookup event := by
  intro past
  obtain ⟨earlier, outcome, htakes, hearlier, hfault⟩ := h past
  cases outcome with
  | error fault =>
    refine ⟨earlier, .static, .error fault, ?_, hearlier, nofun, ?_⟩
    · rw [recordOf, List.append_nil]
      exact htakes.bind_error next
    · rintro _ ⟨⟩
      exact hfault fault rfl
  | ok a =>
    obtain ⟨later, origin, last, hlast, hlater, hkey, hlastFault⟩ :=
      hnext a htakes.gives (past ++ inquiriesOf earlier)
    refine ⟨earlier ++ later, origin, last, ?_, List.forall_mem_append.2 ⟨hearlier, hlater⟩, hkey,
      ?_⟩
    · rw [List.append_assoc]
      exact htakes.bind hlast
    · intro fault hfails
      exact (hlastFault fault hfails).imp_right .append

/-- Whatever the journal: the trace and the ledger show what is recorded, and nothing else. -/
theorem exists_origin (h : run.Records collaborators lookup event) (journal : Journal) :
    ∃ origin, let (outcome, later) := run.on journal
      later.trace = journal.trace ++ traceOf (recordOf (event origin) outcome) ∧
      later.ledger = journal.ledger.overlay (usagesOf (recordOf (event origin) outcome)) ∧
      ∀ value, outcome = .ok value → (event origin value).IsRecordable := by
  obtain ⟨quiet, origin, outcome, htakes, hquiet, hkey, -⟩ := h journal.inquiries
  refine ⟨origin, ?_⟩
  have hprepared : ∀ event ∈ quiet, event.IsQuiet := fun event hevent ↦ (hquiet event hevent).1
  rw [htakes journal fun _ _ ↦ rfl]
  dsimp only
  rw [Journal.trace_recordAll, Journal.ledger_recordAll, traceOf_append, usagesOf_append,
    traceOf_of_isQuiet hprepared, usagesOf_of_isQuiet hprepared]
  exact ⟨rfl, rfl, hkey⟩

end Records

end Run

/-! ## The three resolutions -/

namespace Sources

variable (sources : Sources) (key date : Value)

theorem fault_of_groupMembers {code groups : Value} {fault : Fault}
    (h : groupMembers code groups = .error fault) :
    (∃ cause, fault = .badData cause) ∨ fault = .groupNotFound code.toText := by
  unfold groupMembers at h
  cases hheld : groups.holds code with
  | error cause =>
    rw [hheld] at h
    obtain rfl := Except.error.inj h
    exact .inl (Value.holds_failsByData groups code _ hheld)
  | ok held =>
    rw [hheld] at h
    cases held with
    | false => exact .inr (Except.error.inj h).symm
    | true =>
      have hmembers : FailsByData (groups.entryAt code >>= Value.members) :=
        (Value.entryAt_failsByData groups code).bind Value.members_failsByData
      exact .inl (hmembers fault h)

theorem parameter_records :
    (sources.parameter key date).Records sources.collaborators (.keyed .parameter key.toText)
      fun origin value ↦ .parameterRead origin key value date := by
  apply Run.Records.after (.ask (by simp +contextual [Collaborators.all]) rfl)
  intro answer? _
  cases answer? with
  | some value =>
    apply Run.Records.after (.ofExcept (Value.checkKey_failsByData key))
    intro _ hkey
    exact .record .collaborator (.of_usage? rfl hkey.eq_ok)
  | none =>
    apply Run.Records.after (.ofExcept (Value.checkKey_failsByData key))
    intro _ hkey
    split
    · exact .record .static (.of_usage? rfl hkey.eq_ok)
    · exact .fail (.inr rfl)

theorem employeeParameter_records (employee : Value) :
    (sources.employeeParameter key employee date).Records sources.collaborators
      (.keyed .employeeParameter key.toText)
      fun origin value ↦ .employeeParameterRead origin key value employee date := by
  unfold Sources.employeeParameter
  split
  · exact .fail (.inr rfl)
  · apply Run.Records.after (.ask (by simp +contextual [Collaborators.all]) rfl)
    intro answer? _
    cases answer? with
    | some value =>
      apply Run.Records.after (.ofExcept (Value.checkKey_failsByData key))
      intro _ hkey
      exact .record .collaborator (.of_usage? rfl hkey.eq_ok)
    | none =>
      apply Run.Records.after (.ofExcept (Value.checkKey_failsByData employee))
      intro _ _
      apply Run.Records.after (.ofExcept (Value.checkKey_failsByData key))
      intro _ hkey
      split
      · exact .record .static (.of_usage? rfl hkey.eq_ok)
      · exact .fail (.inr rfl)

theorem groupSum_records (code concepts groups scale : Value) :
    (sources.groupSum code concepts groups scale).Records sources.collaborators
      (.keyed .group code.toText) fun _ total ↦ .groupSummed code.toText total := by
  apply Run.Records.after (.ask (by simp +contextual [Collaborators.all]) rfl)
  intro answer? _
  cases answer? with
  | some total => exact .record .collaborator nofun
  | none =>
    have hmembers : Run.Prepares sources.collaborators (.keyed .group code.toText)
        (Run.ofExcept (groupMembers code groups)) := by
      apply Run.Shows.ofExcept
      intro fault hfails
      apply (fault_of_groupMembers hfails).imp_right
      rintro rfl
      rfl
    apply Run.Records.after hmembers
    intro members _
    apply Run.Records.after (.ofExcept (memberSum_failsByData concepts scale members))
    intro total _
    exact .record .static nofun

end Sources

end PayFormula

import Mathlib
import PayFormula.Evaluation.Run

/-!
# The Course of a Run

A run may look at everything in the journal that it goes on with.  The work that formulas are made
of does not: it only writes new events behind those that are there, and which ones these are, and
how it ends, depends on the past through the answers of collaborators alone.  What the new events
and the final fault are like is shown along with this, so that one induction over formulas gives
both.
-/

namespace PayFormula

/-! ## Writing into a journal -/

def traceOf (events : List Event) : List String := events.filterMap Event.traceLine?

/-- What events leave in the ledger, in their order. -/
def usagesOf (events : List Event) : List (Value × Usage) := events.filterMap Event.usage?

theorem traceOf_append (earlier later : List Event) :
    traceOf (earlier ++ later) = traceOf earlier ++ traceOf later :=
  List.filterMap_append

theorem usagesOf_append (earlier later : List Event) :
    usagesOf (earlier ++ later) = usagesOf earlier ++ usagesOf later :=
  List.filterMap_append

theorem inquiriesOf_append (earlier later : List Event) :
    inquiriesOf (earlier ++ later) = inquiriesOf earlier ++ inquiriesOf later :=
  List.filterMap_append

namespace Journal

/-- Write down events one after another. -/
def recordAll (journal : Journal) (events : List Event) : Journal := events.foldl record journal

theorem recordAll_append (journal : Journal) (earlier later : List Event) :
    journal.recordAll (earlier ++ later) = (journal.recordAll earlier).recordAll later :=
  List.foldl_append

theorem events_recordAll (journal : Journal) (events : List Event) :
    (journal.recordAll events).events = journal.events ++ events := by
  induction events generalizing journal with
  | nil => exact (List.append_nil _).symm
  | cons event rest ih =>
    refine (ih (journal.record event)).trans ?_
    rw [record, List.append_assoc, List.singleton_append]

theorem trace_recordAll (journal : Journal) (events : List Event) :
    (journal.recordAll events).trace = journal.trace ++ traceOf events := by
  induction events generalizing journal with
  | nil => exact (List.append_nil _).symm
  | cons event rest ih =>
    refine (ih (journal.record event)).trans ?_
    rw [record, List.append_assoc, traceOf, traceOf]
    cases hline : event.traceLine? <;> simp [hline]

theorem ledger_recordAll (journal : Journal) (events : List Event) :
    (journal.recordAll events).ledger = journal.ledger.overlay (usagesOf events) := by
  induction events generalizing journal with
  | nil => rfl
  | cons event rest ih =>
    refine (ih (journal.record event)).trans ?_
    rw [record, usagesOf, usagesOf]
    cases husage : event.usage? <;> simp [husage, Table.overlay]

theorem inquiries_recordAll (journal : Journal) (events : List Event) :
    (journal.recordAll events).inquiries = journal.inquiries ++ inquiriesOf events := by
  rw [inquiries, events_recordAll, inquiriesOf_append, inquiries]

/-- A journal in which there were inquiries and nothing else. -/
def ofInquiries (past : List Inquiry) : Journal := { events := past.map .inquired }

theorem inquiries_ofInquiries (past : List Inquiry) : (ofInquiries past).inquiries = past := by
  simp [inquiries, inquiriesOf, ofInquiries, Event.inquiry?, Function.comp_def]

end Journal

/-! ## What collaborators make of the past -/

namespace Collaborators

variable (collaborators : Collaborators)

/-- The collaborators that there are. -/
def all : List Collaborator :=
  [collaborators.parameters?, collaborators.employeeParameters?, collaborators.groups?,
    collaborators.taxes?].filterMap id

/-- Answers depend on what is asked alone. -/
def Steady : Prop :=
  ∀ collaborator ∈ collaborators.all, ∀ past inquiry,
    collaborator past inquiry = collaborator [] inquiry

/-- After either past, whatever is asked from then on is answered in the same way. -/
def Alike (past past' : List Inquiry) : Prop :=
  ∀ collaborator ∈ collaborators.all, collaborator.after past = collaborator.after past'

/-- One of the collaborators answers an inquiry with a fault. -/
def FailWith (past : List Inquiry) (inquiry : Inquiry) (fault : Fault) : Prop :=
  ∃ collaborator ∈ collaborators.all, collaborator past inquiry = .error fault

/-- The last inquiry among the events is answered with a fault. -/
def FailLast (past : List Inquiry) (events : List Event) (fault : Fault) : Prop :=
  ∃ earlier inquiry, inquiriesOf events = earlier ++ [inquiry] ∧
    collaborators.FailWith (past ++ earlier) inquiry fault

variable {collaborators}

theorem Alike.append {past past' : List Inquiry} (h : collaborators.Alike past past')
    (later : List Inquiry) : collaborators.Alike (past ++ later) (past' ++ later) := by
  intro collaborator hmember
  have hafter (past : List Inquiry) :
      collaborator.after (past ++ later) = (collaborator.after past).after later := by
    funext rest inquiry
    simp only [Collaborator.after, List.append_assoc]
  rw [hafter, hafter, h collaborator hmember]

theorem Alike.answer_eq {past past' : List Inquiry} (h : collaborators.Alike past past')
    {collaborator : Collaborator} (hmember : collaborator ∈ collaborators.all) (inquiry : Inquiry) :
    collaborator past inquiry = collaborator past' inquiry := by
  have hanswer := congrFun (congrFun (h collaborator hmember) []) inquiry
  simpa only [Collaborator.after, List.append_nil] using hanswer

theorem Steady.alike (h : collaborators.Steady) (past past' : List Inquiry) :
    collaborators.Alike past past' := by
  intro collaborator hmember
  funext later inquiry
  rw [Collaborator.after, Collaborator.after, h collaborator hmember,
    h collaborator hmember (past' ++ later)]

theorem Steady.after_eq (h : collaborators.Steady) (past : List Inquiry) :
    collaborators.after past = collaborators := by
  have hsame : ∀ member? ∈ [collaborators.parameters?, collaborators.employeeParameters?,
      collaborators.groups?, collaborators.taxes?], member?.map (.after past) = member? := by
    intro member? hmember
    cases member? with
    | none => rfl
    | some collaborator =>
      have hall : collaborator ∈ collaborators.all :=
        List.mem_filterMap.2 ⟨some collaborator, hmember, rfl⟩
      exact congrArg some (h.alike past [] collaborator hall)
  rw [after, hsame, hsame, hsame, hsame]
  all_goals simp

theorem FailLast.append {past : List Inquiry} {earlier later : List Event} {fault : Fault}
    (h : collaborators.FailLast (past ++ inquiriesOf earlier) later fault) :
    collaborators.FailLast past (earlier ++ later) fault := by
  obtain ⟨asked, inquiry, hlast, hfails⟩ := h
  refine ⟨inquiriesOf earlier ++ asked, inquiry, ?_, by rwa [← List.append_assoc]⟩
  rw [inquiriesOf_append, hlast, List.append_assoc]

end Collaborators

/-! ## Courses -/

/-- Something that holds of stretches of events and of any two of them put together. -/
structure EventLaw where
  Holds : List Event → Prop
  nil : Holds []
  append : ∀ {earlier later}, Holds earlier → Holds later → Holds (earlier ++ later)

theorem EventLaw.of_forall (law : EventLaw) {events : List Event}
    (h : ∀ event ∈ events, law.Holds [event]) : law.Holds events := by
  induction events with
  | nil => exact law.nil
  | cons event rest ih =>
    rw [List.forall_mem_cons] at h
    exact law.append h.1 (ih h.2)

/-- What holds of each event. -/
def EventLaw.each (P : Event → Prop) : EventLaw where
  Holds events := ∀ event ∈ events, P event
  nil := List.forall_mem_nil P
  append hearlier hlater := List.forall_mem_append.2 ⟨hearlier, hlater⟩

namespace Run

variable {α β : Type}

def events (run : Run α) : List Event := run.journal.events

/-- There is a journal on which the run gives the value. -/
def Gives (run : Run α) (a : α) : Prop := ∃ journal, (run.on journal).1 = .ok a

theorem Gives.eq_ok {result : Except Fault α} {a : α} (h : (Run.ofExcept result).Gives a) :
    result = .ok a := by
  obtain ⟨_, hgives⟩ := h
  exact hgives

/-- On every journal the run ends in this way. -/
def Ends (run : Run α) (outcome : Except Fault α) : Prop :=
  ∀ journal, (run.on journal).1 = outcome

theorem Ends.bind {run : Run α} {next : α → Run β} {a : α} {outcome : Except Fault β}
    (h : run.Ends (.ok a)) (hnext : (next a).Ends outcome) : (run >>= next).Ends outcome := by
  intro journal
  rw [outcome_on_bind, h]
  exact hnext _

/-- With such a past the run writes these events, one after another, behind those that are in the
journal, and ends in this way.  Whatever else the journal holds makes no difference. -/
def Takes (collaborators : Collaborators) (past : List Inquiry) (run : Run α) (events : List Event)
    (outcome : Except Fault α) : Prop :=
  ∀ journal : Journal, collaborators.Alike past journal.inquiries →
    run.on journal = (outcome, journal.recordAll events)

/-- With every past the run takes a course of its own.  Its events are such as the law says, and the
fault that ends it, if one does, is such as `Q` says or the answer to its last inquiry. -/
def Shows (collaborators : Collaborators) (law : EventLaw) (Q : Fault → Prop) (run : Run α) :
    Prop :=
  ∀ past, ∃ events outcome, run.Takes collaborators past events outcome ∧ law.Holds events ∧
    ∀ fault, outcome = .error fault → Q fault ∨ collaborators.FailLast past events fault

variable {collaborators : Collaborators} {law : EventLaw} {Q : Fault → Prop} {past : List Inquiry}

/-! ## Composition -/

theorem Takes.bind {run : Run α} {next : α → Run β} {a : α} {earlier later : List Event}
    {outcome : Except Fault β} (h : run.Takes collaborators past earlier (.ok a))
    (hnext : (next a).Takes collaborators (past ++ inquiriesOf earlier) later outcome) :
    (run >>= next).Takes collaborators past (earlier ++ later) outcome := by
  intro journal hpast
  rw [on_bind_of_ok (h journal hpast), hnext, Journal.recordAll_append]
  rw [Journal.inquiries_recordAll]
  exact hpast.append _

theorem Takes.bind_error {run : Run α} {events : List Event} {fault : Fault}
    (h : run.Takes collaborators past events (.error fault)) (next : α → Run β) :
    (run >>= next).Takes collaborators past events (.error fault) :=
  fun journal hpast ↦ on_bind_of_error (h journal hpast) next

theorem Takes.gives {run : Run α} {events : List Event} {a : α}
    (h : run.Takes collaborators past events (.ok a)) : run.Gives a := by
  have hpast : collaborators.Alike past (Journal.ofInquiries past).inquiries := by
    rw [Journal.inquiries_ofInquiries]
    exact fun _ _ ↦ rfl
  exact ⟨_, congrArg Prod.fst (h _ hpast)⟩

namespace Shows

theorem ofExcept {result : Except Fault α} (h : ∀ fault, result = .error fault → Q fault) :
    Shows collaborators law Q (Run.ofExcept result) :=
  fun _ ↦ ⟨[], result, fun _ _ ↦ rfl, law.nil, fun fault hfault ↦ .inl (h fault hfault)⟩

theorem pure (a : α) : Shows collaborators law Q (Run.pure a) :=
  show Shows collaborators law Q (Run.ofExcept (.ok a)) from ofExcept nofun

theorem fail {fault : Fault} (h : Q fault) :
    Shows collaborators law Q (Run.fail (α := α) fault) := by
  change Shows collaborators law Q (Run.ofExcept (.error fault))
  apply ofExcept
  rintro _ ⟨⟩
  exact h

theorem emit {event : Event} (h : law.Holds [event]) : Shows collaborators law Q (Run.emit event) :=
  fun _ ↦ ⟨[event], .ok (), fun _ _ ↦ rfl, h, nofun⟩

/-- Two events at once, for laws that the first one alone would break. -/
theorem emit_emit {first second : Event} (h : law.Holds [first, second]) (a : α) :
    Shows collaborators law Q
      (Run.emit first >>= fun _ ↦ Run.emit second >>= fun _ ↦ Run.pure a) :=
  fun _ ↦ ⟨[first, second], .ok a, fun _ _ ↦ rfl, h, nofun⟩

/-- An inquiry and its answer. -/
theorem inquire {collaborator : Collaborator} {inquiry : Inquiry}
    (hmember : collaborator ∈ collaborators.all) (h : law.Holds [.inquired inquiry]) :
    Shows collaborators law Q (Run.inquire collaborator inquiry) := by
  intro past
  refine ⟨[.inquired inquiry], collaborator past inquiry, ?_, h, ?_⟩
  · intro journal hpast
    rw [hpast.answer_eq hmember]
    rfl
  · intro fault hfault
    refine .inr ⟨[], inquiry, rfl, collaborator, hmember, ?_⟩
    rwa [List.append_nil]

theorem bind {run : Run α} {next : α → Run β} (h : Shows collaborators law Q run)
    (hnext : ∀ a, run.Gives a → Shows collaborators law Q (next a)) :
    Shows collaborators law Q (run >>= next) := by
  intro past
  obtain ⟨earlier, outcome, htakes, hearlier, hfault⟩ := h past
  cases outcome with
  | error fault =>
    refine ⟨earlier, .error fault, htakes.bind_error next, hearlier, ?_⟩
    rintro _ ⟨⟩
    exact hfault fault rfl
  | ok a =>
    -- what was asked in the first part is part of the past of the second
    obtain ⟨later, last, hlast, hlater, hlastFault⟩ :=
      hnext a htakes.gives (past ++ inquiriesOf earlier)
    refine ⟨earlier ++ later, last, htakes.bind hlast, law.append hearlier hlater, ?_⟩
    intro fault hfails
    exact (hlastFault fault hfails).imp_right .append

/-! ## On a fresh journal -/

variable {run : Run α} (h : run.Shows collaborators law Q)

include h

/-- The course from a journal without inquiries. -/
theorem takes_nil : run.Takes collaborators [] run.events run.outcome ∧ law.Holds run.events ∧
    ∀ fault, run.outcome = .error fault → Q fault ∨ collaborators.FailLast [] run.events fault := by
  obtain ⟨events, outcome, htakes, hholds, hfault⟩ := h []
  have hfresh : run.on {} = (outcome, ({} : Journal).recordAll events) :=
    htakes {} fun _ _ ↦ rfl
  have houtcome : run.outcome = outcome := congrArg Prod.fst hfresh
  have hevents : run.events = events := by
    rw [Run.events, journal, hfresh, Journal.events_recordAll]
    rfl
  rw [houtcome, hevents]
  exact ⟨htakes, hholds, hfault⟩

theorem holds : law.Holds run.events := h.takes_nil.2.1

theorem fault {fault : Fault} (hfault : run.outcome = .error fault) :
    Q fault ∨ collaborators.FailLast [] run.events fault :=
  h.takes_nil.2.2 fault hfault

/-- What a journal holds is neither read nor lost: a run that begins on it makes the same events as
on a fresh one, writes them behind what is there, and ends in the same way. -/
theorem on_eq (journal : Journal) (hpast : collaborators.Alike [] journal.inquiries) :
    run.on journal = (run.outcome, journal.recordAll run.events) :=
  h.takes_nil.1 journal hpast

theorem on_eq_of_steady (hsteady : collaborators.Steady) (journal : Journal) :
    run.on journal = (run.outcome, journal.recordAll run.events) :=
  h.on_eq journal (hsteady.alike _ _)

theorem journal_eq : run.journal = ({} : Journal).recordAll run.events :=
  congrArg Prod.snd (h.on_eq {} fun _ _ ↦ rfl)

end Shows

end Run

end PayFormula

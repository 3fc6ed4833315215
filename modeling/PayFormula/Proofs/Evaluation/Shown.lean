import Mathlib
import PayFormula.Evaluation.Evaluator
import PayFormula.Proofs.Evaluation.Resolution
import PayFormula.Proofs.Formula.Nodes

/-!
# What a Run Shows

A run shows the events on its way and the fault that may end it.  Work put together from parts shows
what its parts show and, of its own, only what its node stands for: a variable its key, a keyed call
the key that its first argument gives.  What the evaluation of a formula shows can therefore be read
off the nodes of the formula, whatever the evaluation leaves out and wherever it stops.
-/

namespace PayFormula

/-- A fault in the text of a formula, which only reading can find. -/
def Fault.isOfReading : Fault → Bool
  | badSyntax _ => true
  | _ => false

theorem Fault.isOfReading_of_lookup? {fault : Fault} {lookup : Lookup}
    (h : fault.lookup? = some lookup) : fault.isOfReading = false := by
  cases fault with
  | badSyntax => nomatch h
  | _ => rfl

theorem Lookup.Fails.isOfReading {lookup : Lookup} {fault : Fault} (h : lookup.Fails fault) :
    fault.isOfReading = false := by
  obtain ⟨cause, rfl⟩ | hlookup := h
  · rfl
  · exact Fault.isOfReading_of_lookup? hlookup

/-! ## Keys -/

/-- The events with which a resolution that succeeds comes to its end: a parameter is recorded and
then given to the formula, and a group total is recorded. -/
inductive Concludes (key : Value) : Formula.KeyedCall → List Event → Prop where
  | parameter (origin : Origin) (value : String) (date : Value) (hkey : key.checkKey = .ok ()) :
    Concludes key .parameter
      [.parameterRead origin key value date, .resolved key ⟨value, date, none⟩]
  | employeeParameter (origin : Origin) (value : String) (employee date : Value)
      (hkey : key.checkKey = .ok ()) :
    Concludes key .employeeParameter
      [.employeeParameterRead origin key value employee date,
        .resolved key ⟨value, date, some employee⟩]
  | group (total : String) : Concludes key .group [.groupSummed key.toText total]

theorem Concludes.lookup?_eq {key : Value} {kind : Formula.KeyedCall} {events : List Event}
    (h : Concludes key kind events) :
    ∀ event ∈ events, event.lookup? = some (.keyed kind key.toText) := by
  cases h with
  | group total => exact List.forall_mem_singleton.2 rfl
  | _ => exact List.forall_mem_cons.2 ⟨rfl, List.forall_mem_singleton.2 rfl⟩

/-- Work that goes on from a resolution shows what it prepares with, and what is shown from the
event on that records it. -/
theorem Run.Records.shows_bind {collaborators : Collaborators} {law : EventLaw} {Q : Fault → Prop}
    {lookup : Lookup} {event : Origin → String → Event} {run : Run String} {α : Type}
    {next : String → Run α} (h : run.Records collaborators lookup event)
    (hquiet : ∀ event : Event, event.IsQuiet → event.lookup? = some lookup → law.Holds [event])
    (hfault : ∀ fault : Fault, lookup.Fails fault → Q fault)
    (hnext : ∀ origin value, (event origin value).IsRecordable →
      (Run.emit (event origin value) >>= fun _ ↦ next value).Shows collaborators law Q) :
    (run >>= next).Shows collaborators law Q := by
  intro past
  obtain ⟨quiet, origin, outcome, htakes, hprepared, hkey, hfails⟩ := h past
  have hholds : law.Holds quiet :=
    law.of_forall fun event hevent ↦
      hquiet event (hprepared event hevent).1 (hprepared event hevent).2
  cases outcome with
  | error fault =>
    rw [recordOf, List.append_nil] at htakes
    refine ⟨quiet, .error fault, htakes.bind_error next, hholds, ?_⟩
    rintro _ ⟨⟩
    exact (hfails fault rfl).imp_left (hfault fault)
  | ok value =>
    obtain ⟨later, last, hlast, hlater, hlastFault⟩ :=
      hnext origin value (hkey value rfl) (past ++ inquiriesOf quiet)
    refine ⟨quiet ++ later, last, ?_, law.append hholds hlater, ?_⟩
    · intro journal hpast
      have hprepare : run.on journal =
          (.ok value, (journal.recordAll quiet).record (event origin value)) := by
        rw [htakes journal hpast, Journal.recordAll_append]
        rfl
      rw [Run.on_bind_of_ok hprepare, Journal.recordAll_append]
      apply hlast
      rw [Journal.inquiries_recordAll]
      exact hpast.append _
    · intro fault hlastFails
      exact (hlastFault fault hlastFails).imp_right .append

namespace Surroundings

/-- The work of a keyed call once its key is known. -/
inductive Resolves (s : Surroundings) (key : Value) : Formula.KeyedCall → Run Value → Prop where
  | parameter (date : Value) : Resolves s key .parameter (s.parameterValue key date)
  | employeeParameter (employee date : Value) :
    Resolves s key .employeeParameter (s.employeeParameterValue key employee date)
  | group : Resolves s key .group (s.groupValue key)

variable {s : Surroundings} {key : Value} {kind : Formula.KeyedCall} {run : Run Value}

/-- A resolution begins with the event that tells its key.  What is shown after it tells of the key
as well, faults of data apart. -/
theorem Resolves.exists_rest (h : s.Resolves key kind run) :
    ∃ rest, run = (Run.emit (.sought kind key) >>= fun _ ↦ rest) ∧
      ∀ (law : EventLaw) (Q : Fault → Prop),
        (∀ event : Event, event.IsQuiet → event.lookup? = some (.keyed kind key.toText) →
          law.Holds [event]) →
        (∀ events, Concludes key kind events → law.Holds events) →
        (∀ fault, (Lookup.keyed kind key.toText).Fails fault → Q fault) →
        rest.Shows s.sources.collaborators law Q := by
  cases h with
  | parameter date =>
    refine ⟨_, rfl, ?_⟩
    intro law Q hquiet hconcludes hfault
    apply (s.sources.parameter_records key date).shows_bind hquiet hfault
    intro origin value hkey
    apply Run.Shows.emit_emit
    exact hconcludes _ (.parameter origin value date (hkey key _ rfl))
  | employeeParameter employee date =>
    refine ⟨_, rfl, ?_⟩
    intro law Q hquiet hconcludes hfault
    apply (s.sources.employeeParameter_records key date employee).shows_bind hquiet hfault
    intro origin value hkey
    apply Run.Shows.emit_emit
    exact hconcludes _ (.employeeParameter origin value employee date (hkey key _ rfl))
  | group =>
    refine ⟨_, rfl, ?_⟩
    intro law Q hquiet hconcludes hfault
    apply (s.sources.groupSum_records key _ _ _).shows_bind hquiet hfault
    intro _ total _
    exact (Run.Shows.emit (hconcludes _ (.group total))).bind fun _ _ ↦ .pure _

/-- A resolution shows events and faults that tell of its key, and faults of data. -/
theorem Resolves.shows {law : EventLaw} {Q : Fault → Prop} (h : s.Resolves key kind run)
    (hquiet : ∀ event : Event, event.IsQuiet →
      event.lookup? = some (.keyed kind key.toText) → law.Holds [event])
    (hconcludes : ∀ events, Concludes key kind events → law.Holds events)
    (hfault : ∀ fault, (Lookup.keyed kind key.toText).Fails fault → Q fault) :
    run.Shows s.sources.collaborators law Q := by
  obtain ⟨rest, rfl, hrest⟩ := h.exists_rest
  exact (Run.Shows.emit (hquiet _ ⟨rfl, rfl, rfl⟩ rfl)).bind fun _ _ ↦
    hrest law Q hquiet hconcludes hfault

/-- Whatever comes of a resolution, the journal tells afterwards that the key was looked up. -/
theorem Resolves.sought_mem (h : s.Resolves key kind run) (journal : Journal) :
    .sought kind key ∈ (run.on journal).2.events := by
  obtain ⟨rest, rfl, hrest⟩ := h.exists_rest
  have hshows := hrest (.each fun _ ↦ True) (fun _ ↦ True) (fun _ _ _ _ _ ↦ trivial)
    (fun _ _ _ _ ↦ trivial) fun _ _ ↦ trivial
  obtain ⟨events, outcome, htakes, -⟩ := hshows (journal.record (.sought kind key)).inquiries
  rw [Run.on_emit_bind, htakes _ fun _ _ ↦ rfl, Journal.events_recordAll, Journal.record]
  simp

end Surroundings

/-! ## Calls -/

namespace Formula.KeyedCall

def builtin : KeyedCall → Builtin
  | parameter => .parameter
  | employeeParameter => .employeeParameter
  | group => .sumGroup

theorem name_of_ofName? {kind : KeyedCall} {name : String}
    (h : Builtin.ofName? name = some kind.builtin) : kind.name = name := by
  unfold Builtin.ofName? at h
  cases htable : Builtin.table.lookup name with
  | some builtin =>
    rw [htable] at h
    obtain rfl : builtin = kind.builtin := Option.some.inj h
    obtain ⟨before, after, hsplit, -⟩ := List.lookup_eq_some_iff.1 htable
    have hmember : (name, kind.builtin) ∈ Builtin.table := by simp [hsplit]
    have hunique : ∀ entry ∈ Builtin.table, entry.2 = kind.builtin → kind.name = entry.1 := by
      cases kind <;> decide
    exact hunique _ hmember rfl
  | none =>
    rw [htable] at h
    obtain ⟨tax, -, htax⟩ := Option.map_eq_some_iff.1 h
    cases kind <;> nomatch htax

end Formula.KeyedCall

namespace Surroundings

/-- There is a first argument, and it gives a key. -/
def FirstGives (arguments : List (Run Value)) (key : Value) : Prop :=
  ∃ first rest, arguments = first :: rest ∧ first.Gives key

variable {s : Surroundings} {law : EventLaw} {Q : Fault → Prop}

theorem inOrder_shows {runs : List (Run Value)}
    (h : ∀ run ∈ runs, run.Shows s.sources.collaborators law Q) :
    (inOrder runs).Shows s.sources.collaborators law Q := by
  induction runs with
  | nil => exact .pure []
  | cons run rest ih =>
    rw [List.forall_mem_cons] at h
    exact h.1.bind fun _ _ ↦ (ih h.2).bind fun _ _ ↦ .pure _

theorem firstFilled_shows {runs : List (Run Value)}
    (h : ∀ run ∈ runs, run.Shows s.sources.collaborators law Q) :
    (firstFilled runs).Shows s.sources.collaborators law Q := by
  induction runs with
  | nil => exact .pure _
  | cons run rest ih =>
    rw [List.forall_mem_cons] at h
    apply h.1.bind
    intro value _
    split
    · exact .pure value
    · exact ih h.2

theorem mem_all_of_taxCollaborator {name : String} {collaborator : Collaborator}
    (h : (s.taxCollaborator name).Gives collaborator) :
    collaborator ∈ s.sources.collaborators.all := by
  obtain ⟨_, hgives⟩ := h
  rw [taxCollaborator] at hgives
  cases htaxes : s.sources.collaborators.taxes? with
  | none =>
    rw [htaxes] at hgives
    cases hgives
  | some other =>
    rw [htaxes] at hgives
    obtain rfl := Except.ok.inj hgives
    simp [Collaborators.all, htaxes]

theorem variableValue_shows {path : List String}
    (hevent : ∀ value, law.Holds [.variableRead (variableKey path) value])
    (hfault : ∀ fault : Fault, fault.lookup? = some (.variable (variableKey path)) → Q fault) :
    (s.variableValue path).Shows s.sources.collaborators law Q := by
  unfold variableValue
  extract_lets key concept found
  have hfound : ∀ fault, found = .error fault → Q fault := by
    intro fault hfails
    apply hfault
    unfold found at hfails
    split at hfails
    · nomatch hfails
    · split at hfails
      · obtain rfl := Except.error.inj hfails
        rfl
      · obtain rfl := Except.error.inj hfails
        rfl
      · obtain rfl := Except.error.inj hfails
        rfl
      · nomatch hfails
  apply (Run.Shows.ofExcept hfound).bind
  intro value _
  exact (Run.Shows.emit (hevent _)).bind fun _ _ ↦ .pure _

section

-- What tells of no lookup may be shown by any work, faults of reading apart.
variable (hevent : ∀ event : Event, event.lookup? = none → law.Holds [event])
  (hfault : ∀ fault : Fault, fault.lookup? = none → fault.isOfReading = false → Q fault)

include hfault

theorem checkPrecision_shows (name : String) (value : Value) :
    (s.checkPrecision name value).Shows s.sources.collaborators law Q := by
  unfold checkPrecision
  dsimp only
  split
  · exact .fail (hfault _ rfl rfl)
  · exact .pure _

theorem ofExcept_shows {α : Type} {result : Except Fault α} (h : FailsByData result) :
    (Run.ofExcept result).Shows s.sources.collaborators law Q := by
  apply Run.Shows.ofExcept
  intro fault hfails
  obtain ⟨cause, rfl⟩ := h fault hfails
  exact hfault _ rfl rfl

theorem taxCollaborator_shows (name : String) :
    (s.taxCollaborator name).Shows s.sources.collaborators law Q := by
  unfold taxCollaborator
  split
  · exact .pure _
  · exact .fail (hfault _ rfl rfl)

theorem unaryValue_shows {operator : UnaryOperator} {operand : Run Value}
    (h : operand.Shows s.sources.collaborators law Q) :
    (s.unaryValue operator operand).Shows s.sources.collaborators law Q := by
  apply h.bind
  intro value _
  split
  · exact .pure _
  · exact .pure _
  · exact .fail (hfault _ rfl rfl)

theorem binaryValue_shows {operator : BinaryOperator} {left right : Run Value}
    (hleft : left.Shows s.sources.collaborators law Q)
    (hright : right.Shows s.sources.collaborators law Q) :
    (s.binaryValue operator left right).Shows s.sources.collaborators law Q := by
  have hstrict (a b : Value) :
      (s.strictValue operator a b).Shows s.sources.collaborators law Q := by
    unfold strictValue
    extract_lets _ _ order
    split
    case h_4 =>
      split
      · exact .pure _
      · exact .fail (hfault _ rfl rfl)
    case h_13 => exact .fail (hfault _ rfl rfl)
    all_goals exact .pure _
  unfold binaryValue
  split
  · apply hleft.bind
    intro value _
    split
    · exact hright.bind fun _ _ ↦ .pure _
    · exact .pure _
  · apply hleft.bind
    intro value _
    split
    · exact .pure _
    · exact hright.bind fun _ _ ↦ .pure _
  · exact hleft.bind fun _ _ ↦ hright.bind fun _ _ ↦ hstrict _ _

include hevent

theorem countryTaxed_shows (tax : CountryTax) {arguments : List (Run Value)}
    (h : ∀ run ∈ arguments, run.Shows s.sources.collaborators law Q) :
    (s.countryTaxed tax arguments).Shows s.sources.collaborators law Q := by
  apply (taxCollaborator_shows hfault _).bind
  intro collaborator hcollaborator
  apply (inOrder_shows h).bind
  intro amounts _
  apply (Run.Shows.inquire (mem_all_of_taxCollaborator hcollaborator) (hevent _ rfl)).bind
  intro result _
  apply (ofExcept_shows hfault (Value.field_failsByData _ _)).bind
  intro amount _
  apply (ofExcept_shows hfault (shownAmounts_failsByData _ _)).bind
  intro shown _
  apply (ofExcept_shows hfault (Value.field_failsByData _ _)).bind
  intro rate _
  exact (Run.Shows.emit (hevent _ rfl)).bind fun _ _ ↦ .pure _

theorem tiersApplied_shows {base tiers : Run Value} {mode? : Option (Run Value)}
    (hbase : base.Shows s.sources.collaborators law Q)
    (htiers : tiers.Shows s.sources.collaborators law Q)
    (hmode : ∀ mode ∈ mode?, mode.Shows s.sources.collaborators law Q) :
    (s.tiersApplied base tiers mode?).Shows s.sources.collaborators law Q := by
  apply (taxCollaborator_shows hfault _).bind
  intro collaborator hcollaborator
  apply hbase.bind
  intro base _
  apply htiers.bind
  intro tiers _
  extract_lets applied
  have happlied (mode : String) : (applied mode).Shows s.sources.collaborators law Q := by
    unfold applied
    split
    · exact .fail (hfault _ rfl rfl)
    · apply (Run.Shows.inquire (mem_all_of_taxCollaborator hcollaborator) (hevent _ rfl)).bind
      intro result _
      apply (ofExcept_shows hfault (Value.field_failsByData _ _)).bind
      intro amount _
      exact (Run.Shows.emit (hevent _ rfl)).bind fun _ _ ↦ .pure _
  cases mode? with
  | none => exact (Run.Shows.pure _).bind fun _ _ ↦ happlied _
  | some mode =>
    apply (hmode mode rfl).bind
    intro mode _
    exact (ofExcept_shows hfault (tierMode_failsByData mode)).bind fun _ _ ↦ happlied _

/-- A function shows what its arguments show, what its resolution shows once its first argument has
given a key, and otherwise nothing that tells of a lookup. -/
theorem applied_shows {builtin : Builtin} {arguments : List (Run Value)} {run : Run Value}
    (h : ∀ run ∈ arguments, run.Shows s.sources.collaborators law Q)
    (hresolves : ∀ kind : Formula.KeyedCall, builtin = kind.builtin →
      ∀ key, FirstGives arguments key →
        ∀ run, s.Resolves key kind run → run.Shows s.sources.collaborators law Q)
    (hrun : s.applied? builtin arguments = some run) :
    run.Shows s.sources.collaborators law Q := by
  have hprecision (name : String) (value : Value) :
      (s.checkPrecision name value).Shows s.sources.collaborators law Q :=
    checkPrecision_shows hfault name value
  unfold applied? at hrun
  split at hrun
  case h_19 =>
    split at hrun
    · obtain rfl := Option.some.inj hrun
      exact countryTaxed_shows hevent hfault _ h
    · nomatch hrun
  case h_22 => nomatch hrun
  all_goals obtain rfl := Option.some.inj hrun
  -- the extrema
  · apply (inOrder_shows h).bind
    intro values _
    split <;> exact .pure _
  · apply (inOrder_shows h).bind
    intro values _
    split <;> exact .pure _
  -- functions of one value
  · exact (h _ (by simp)).bind fun _ _ ↦ .pure _
  · exact (h _ (by simp)).bind fun _ _ ↦ .pure _
  · exact (h _ (by simp)).bind fun _ _ ↦ .pure _
  -- cuts and roundings
  · exact (h _ (by simp)).bind fun _ _ ↦ (hprecision _ _).bind fun _ _ ↦ .pure _
  · exact (h _ (by simp)).bind fun _ _ ↦ (h _ (by simp)).bind fun _ _ ↦
      (hprecision _ _).bind fun _ _ ↦ .pure _
  · exact (h _ (by simp)).bind fun _ _ ↦ (hprecision _ _).bind fun _ _ ↦ .pure _
  · exact (h _ (by simp)).bind fun _ _ ↦ (h _ (by simp)).bind fun _ _ ↦
      (hprecision _ _).bind fun _ _ ↦ .pure _
  · exact (h _ (by simp)).bind fun _ _ ↦ (h _ (by simp)).bind fun _ _ ↦
      (h _ (by simp)).bind fun _ _ ↦ (hprecision _ _).bind fun _ _ ↦ .pure _
  -- choices
  · apply (h _ (by simp)).bind
    intro condition _
    split
    · exact h _ (by simp)
    · exact h _ (by simp)
  · exact firstFilled_shows h
  -- parameters
  · apply (h _ (by simp)).bind
    intro key hkey
    exact hresolves .parameter rfl key ⟨_, _, rfl, hkey⟩ _ (.parameter _)
  · apply (h _ (by simp)).bind
    intro key hkey
    apply (h _ (by simp)).bind
    intro date _
    exact hresolves .parameter rfl key ⟨_, _, rfl, hkey⟩ _ (.parameter _)
  -- parameters of an employee
  · apply (h _ (by simp)).bind
    intro key hkey
    exact hresolves .employeeParameter rfl key ⟨_, _, rfl, hkey⟩ _ (.employeeParameter _ _)
  · apply (h _ (by simp)).bind
    intro key hkey
    apply (h _ (by simp)).bind
    intro employee _
    exact hresolves .employeeParameter rfl key ⟨_, _, rfl, hkey⟩ _ (.employeeParameter _ _)
  · apply (h _ (by simp)).bind
    intro key hkey
    apply (h _ (by simp)).bind
    intro employee _
    apply (h _ (by simp)).bind
    intro date _
    exact hresolves .employeeParameter rfl key ⟨_, _, rfl, hkey⟩ _ (.employeeParameter _ _)
  -- groups
  · apply (h _ (by simp)).bind
    intro code hcode
    exact hresolves .group rfl code ⟨_, _, rfl, hcode⟩ _ .group
  -- tiers
  · exact tiersApplied_shows hevent hfault (h _ (by simp)) (h _ (by simp)) fun _ h ↦ nomatch h
  · apply tiersApplied_shows hevent hfault (h _ (by simp)) (h _ (by simp))
    rintro _ ⟨⟩
    exact h _ (by simp)

/-- A call shows what its arguments show, what its resolution shows once its first argument has
given a key, and otherwise nothing that tells of a lookup. -/
theorem call_shows {name : String} {arguments : List (Run Value)}
    (h : ∀ run ∈ arguments, run.Shows s.sources.collaborators law Q)
    (hresolves : ∀ kind : Formula.KeyedCall, kind.name = name →
      ∀ key, FirstGives arguments key →
        ∀ run, s.Resolves key kind run → run.Shows s.sources.collaborators law Q) :
    (s.call name arguments).Shows s.sources.collaborators law Q := by
  unfold call
  split
  · exact .fail (hfault _ rfl rfl)
  · rename_i builtin hbuiltin
    split
    · rename_i run hrun
      apply applied_shows hevent hfault h ?_ hrun
      rintro kind rfl
      exact hresolves kind (Formula.KeyedCall.name_of_ofName? hbuiltin)
    · exact .fail (hfault _ rfl rfl)

end

end Surroundings

/-! ## Formulas -/

namespace Formula

variable {s : Surroundings} {law : EventLaw} {Q : Fault → Prop}

/-- What tells of no lookup, and what the nodes of a formula stand for, is such as the law and
`Q` say.  Faults of reading are left out: there is nothing to read any more. -/
structure Permits (s : Surroundings) (law : EventLaw) (Q : Fault → Prop) (formula : Formula) :
    Prop where
  plainEvent : ∀ event : Event, event.lookup? = none → law.Holds [event]
  plainFault : ∀ fault : Fault, fault.lookup? = none → fault.isOfReading = false → Q fault
  variableEvent : ∀ path, .variable path ∈ formula.nodes → ∀ value,
    law.Holds [.variableRead (variableKey path) value]
  variableFault : ∀ path, .variable path ∈ formula.nodes → ∀ fault : Fault,
    fault.lookup? = some (.variable (variableKey path)) → Q fault
  resolution : ∀ (kind : KeyedCall) first rest, .call kind.name (first :: rest) ∈ formula.nodes →
    ∀ key, first.MayGive key → ∀ run, s.Resolves key kind run →
      run.Shows s.sources.collaborators law Q

theorem Permits.part {part formula : Formula} (h : formula.Permits s law Q)
    (hpart : part ∈ formula.children) : part.Permits s law Q where
  plainEvent := h.plainEvent
  plainFault := h.plainFault
  variableEvent path hpath := h.variableEvent path (nodes_subset_of_mem_children hpart hpath)
  variableFault path hpath := h.variableFault path (nodes_subset_of_mem_children hpart hpath)
  resolution kind first rest hcall :=
    h.resolution kind first rest (nodes_subset_of_mem_children hpart hcall)

/-- What the first of some formulas gives is what it may give: a literal text gives itself. -/
theorem mayGive_of_firstGives {formulas : List Formula} {key : Value}
    (h : Surroundings.FirstGives (evalEach s formulas) key) :
    ∃ first rest, formulas = first :: rest ∧ first.MayGive key := by
  obtain ⟨run, runs, hruns, hkey⟩ := h
  cases formulas with
  | nil => nomatch hruns
  | cons first rest =>
    refine ⟨first, rest, rfl, ?_⟩
    rintro literal rfl
    obtain ⟨rfl, -⟩ := List.cons.inj hruns
    obtain ⟨_, hkey⟩ := hkey
    exact (Except.ok.inj hkey).symm

mutual

/-- Evaluation shows nothing beyond what the nodes of the formula stand for. -/
theorem eval_shows : (formula : Formula) → formula.Permits s law Q →
    (formula.eval s).Shows s.sources.collaborators law Q
  | .number _, _ | .text _, _ | .truth _, _ => .pure _
  | .variable path, h =>
    Surroundings.variableValue_shows (h.variableEvent path (self_mem_nodes _))
      (h.variableFault path (self_mem_nodes _))
  | .call name arguments, h => by
    apply Surroundings.call_shows h.plainEvent h.plainFault
    · exact evalEach_shows arguments fun argument hargument ↦ h.part hargument
    · rintro kind rfl key hfirst
      obtain ⟨first, rest, rfl, hkey⟩ := mayGive_of_firstGives hfirst
      exact h.resolution kind first rest (self_mem_nodes _) key hkey
  | .unary operator operand, h =>
    Surroundings.unaryValue_shows h.plainFault (eval_shows operand (h.part (by simp [children])))
  | .binary operator left right, h =>
    Surroundings.binaryValue_shows h.plainFault (eval_shows left (h.part (by simp [children])))
      (eval_shows right (h.part (by simp [children])))
  | .missing, h => .fail (h.plainFault _ rfl rfl)

theorem evalEach_shows : (formulas : List Formula) →
    (∀ formula ∈ formulas, formula.Permits s law Q) →
    ∀ run ∈ evalEach s formulas, run.Shows s.sources.collaborators law Q
  | [], _ => List.forall_mem_nil _
  | formula :: rest, h => by
    rw [List.forall_mem_cons] at h
    exact List.forall_mem_cons.2 ⟨eval_shows formula h.1, evalEach_shows rest h.2⟩

end

theorem permits_noReading (s : Surroundings) (formula : Formula) :
    formula.Permits s (.each fun _ ↦ True) (fun fault ↦ fault.isOfReading = false) where
  plainEvent _ _ _ _ := trivial
  plainFault _ _ h := h
  variableEvent _ _ _ _ _ := trivial
  variableFault _ _ _ h := Fault.isOfReading_of_lookup? h
  resolution _ _ _ _ _ _ _ hrun :=
    hrun.shows (fun _ _ _ _ _ ↦ trivial) (fun _ _ _ _ ↦ trivial) fun _ h ↦ h.isOfReading

/-- Evaluation neither reads nor loses what a journal holds: if nobody was asked before, it makes
the events that it makes on a fresh journal, writes them behind what is there, and ends in the same
way, wherever it stops. -/
theorem eval_on_eq (s : Surroundings) (formula : Formula) (journal : Journal)
    (hpast : journal.inquiries = []) :
    (formula.eval s).on journal =
      ((formula.eval s).outcome, journal.recordAll (formula.eval s).events) := by
  apply (eval_shows formula (permits_noReading s formula)).on_eq
  rw [hpast]
  exact fun _ _ ↦ rfl

/-- Where answers depend on what is asked alone, so it is whoever was asked before. -/
theorem eval_on_eq_of_steady {s : Surroundings} (hsteady : s.sources.collaborators.Steady)
    (formula : Formula) (journal : Journal) :
    (formula.eval s).on journal =
      ((formula.eval s).outcome, journal.recordAll (formula.eval s).events) :=
  (eval_shows formula (permits_noReading s formula)).on_eq_of_steady hsteady journal

end Formula

end PayFormula

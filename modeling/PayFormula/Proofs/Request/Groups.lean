import Mathlib
import PayFormula.Engine.Basic
import PayFormula.Proofs.Evaluation.GroupTotals
import PayFormula.Proofs.Request.Checks

/-!
# Groups of Accepted Requests

A request to evaluate a formula may describe groups, and the context of the evaluation takes them over
as they passed the checks: each group is a list of mappings, and each of these names its concept.  That
is all that the sum of a group asks for.  Concepts may have values of any kind and members weights of
any kind, since every value is worth some amount.  So the only fault of a sum is a group that the
request does not have.
-/

namespace PayFormula

/-! ## Groups of a request -/

def groupsOf : Value → List (Value × Value)
  | .map groups => groups
  | _ => []

/-- The groups that a request to evaluate a formula describes. -/
def requestGroups (body : Value) : List (Value × Value) :=
  groupsOf ((body.under "context").under "groups")

namespace Form

/-- The entries of a mapping as they are taken over: their keys become texts. -/
def takenEntries : Value → List (Value × Value)
  | .map fields => fields.map fun (key, value) ↦ (.text key.toText, value)
  | _ => []

/-- A member of a group is a mapping that names its concept. -/
structure IsMember (item : Value) : Prop where
  isMapping : ∃ fields, item = .map fields
  concept : (Value.lookup "concept_code" (takenEntries item)).isTruthy = true

/-- A group is a list of members under a code. -/
def IsGroup (group : Value) : Prop :=
  ∃ items, group = .list items ∧ ∀ item ∈ items, IsMember item

/-- What is taken over of a group has its code as a text and the entries of its members. -/
structure TakesGroup (group entry : Value × Value) : Prop where
  code : entry.1 = .text group.1.toText
  members : ∃ items, group.2 = .list items ∧
    entry.2 = .list ((items.map takenEntries).map .map) ∧ ∀ item ∈ items, IsMember item

theorem TakesGroup.isGroup {group entry : Value × Value} (h : TakesGroup group entry) :
    IsGroup group.2 := by
  obtain ⟨items, hitems, -, hmembers⟩ := h.members
  exact ⟨items, hitems, hmembers⟩

theorem IsMember.isSome_code {item : Value} (h : IsMember item) :
    (Value.valueAt? "concept_code" (takenEntries item)).isSome := by
  have hconcept := h.concept
  rw [Value.lookup] at hconcept
  cases hcode : Value.valueAt? "concept_code" (takenEntries item) with
  | none => rw [hcode] at hconcept; exact absurd hconcept Bool.false_ne_true
  | some code => rfl

/-- A mapping with values of any kind passes as what is taken over of it. -/
theorem mapping_eq_takenEntries {item member : Value}
    (h : Field.present Field.anyMapping item = .ok member) :
    (∃ fields, item = .map fields) ∧ member = .map (takenEntries item) := by
  obtain ⟨-, hmapping⟩ := Field.present_eq_ok_iff.1 h
  obtain ⟨fields, entries, rfl, rfl, hentries⟩ := Field.mapping_eq_ok_iff.1 hmapping
  have hmap : List.Forall₂ (· = ·) (takenEntries (.map fields)) entries :=
    List.forall₂_map_left_iff.2 (hentries.imp fun _ _ hentry ↦
      Prod.ext hentry.1.symm (Except.ok.inj hentry.2))
  rw [List.forall₂_eq_eq_eq] at hmap
  exact ⟨⟨fields, rfl⟩, congrArg Value.map hmap.symm⟩

/-- Mappings none of which lacks a concept. -/
theorem members_eq_map {items members : List Value}
    (h : List.Forall₂ (fun item member ↦ Field.present Field.anyMapping item = .ok member)
      items members) (hsafe : members.any lacksConcept = false) :
    members = (items.map takenEntries).map .map ∧ ∀ item ∈ items, IsMember item := by
  induction h with
  | nil => exact ⟨rfl, nofun⟩
  | cons hitem _ ih =>
    rw [List.any_cons, Bool.or_eq_false_iff] at hsafe
    obtain ⟨hmapping, rfl⟩ := mapping_eq_takenEntries hitem
    obtain ⟨rfl, hmembers⟩ := ih hsafe.2
    refine ⟨rfl, List.forall_mem_cons.2 ⟨⟨hmapping, ?_⟩, hmembers⟩⟩
    simpa [lacksConcept] using hsafe.1

/-- Lists of mappings, when no group among them is faulty. -/
theorem takesGroups {pairs entries : List (Value × Value)}
    (h : List.Forall₂ (fun pair entry ↦ entry.1 = .text pair.1.toText ∧
      Field.present (Field.listOf (Field.present Field.anyMapping)) pair.2 = .ok entry.2)
        pairs entries)
    (hsafe : faultyGroup? entries = none) : List.Forall₂ TakesGroup pairs entries := by
  induction h with
  | nil => exact .nil
  | @cons pair entry _ _ hentry _ ih =>
    obtain ⟨code, group⟩ := entry
    obtain ⟨hcode, hgroup⟩ := hentry
    obtain ⟨-, hlist⟩ := Field.present_eq_ok_iff.1 hgroup
    obtain ⟨items, members, hitems, rfl, hpassed⟩ := Field.listOf_eq_ok_iff.1 hlist
    -- The search has gone past a list, so all of its members name a concept.
    rw [faultyGroup?] at hsafe
    split at hsafe
    · nomatch hsafe
    · next hmember =>
      obtain ⟨rfl, hmembers⟩ := members_eq_map hpassed (Bool.eq_false_iff.2 hmember)
      exact .cons ⟨hcode, items, hitems, rfl, hmembers⟩ (ih hsafe)

/-- A code finds a group of the request that has it, if there is one. -/
theorem get?_takenGroups {pairs entries : List (Value × Value)}
    (h : List.Forall₂ TakesGroup pairs entries) (code : String) :
    (∀ pair ∈ pairs, pair.1.toText ≠ code) ∧ Table.get? (.text code) entries = none ∨
      ∃ pair ∈ pairs, pair.1.toText = code ∧
        ∃ entry, TakesGroup pair entry ∧ Table.get? (.text code) entries = some entry.2 := by
  induction h with
  | nil => exact .inl ⟨nofun, rfl⟩
  | @cons pair entry pairs entries hgroup _ ih =>
    have hsame : (entry.1 == Value.text code) = (pair.1.toText == code) := by
      rw [hgroup.code]
      rfl
    by_cases hcode : pair.1.toText = code
    · refine .inr ⟨pair, List.mem_cons_self, hcode, entry, hgroup, ?_⟩
      rw [Table.get?, List.find?_cons_of_pos (by rw [hsame, hcode, BEq.rfl])]
      rfl
    · have hrest : Table.get? (.text code) (entry :: entries) = Table.get? (.text code) entries := by
        rw [Table.get?, List.find?_cons_of_neg (by rw [hsame, beq_iff_eq]; exact hcode), Table.get?]
      rw [hrest, List.forall_mem_cons]
      rcases ih with ⟨habsent, hnone⟩ | ⟨found, hfound, hother⟩
      · exact .inl ⟨⟨hcode, habsent⟩, hnone⟩
      · exact .inr ⟨found, List.mem_cons_of_mem _ hfound, hother⟩

theorem groups_eq_ok {value checked : Value} (h : groups value = .ok checked) :
    ∃ pairs entries, value = .map pairs ∧ checked = .map entries ∧
      List.Forall₂ TakesGroup pairs entries := by
  obtain ⟨passed, hmapping, hsafe⟩ := exists_of_bind_eq_ok h
  obtain ⟨pairs, entries, rfl, rfl, hentries⟩ := Field.mapping_eq_ok_iff.1 hmapping
  dsimp only at hsafe
  split at hsafe
  · nomatch hsafe
  · next hfaulty =>
    obtain rfl := Except.ok.inj hsafe
    exact ⟨pairs, entries, rfl, rfl, takesGroups hentries hfaulty⟩

/-! ## Contexts -/

/-- Entries that a context can be made of, with its groups: their concepts and groups are mappings or
left out, and the employee is a number or nobody. -/
structure MakesContext (entries groups : List (Value × Value)) : Prop where
  concepts : ∃ concepts, (Value.lookup "concepts" entries).orEmpty = .map concepts
  groups : (Value.lookup "groups" entries).orEmpty = .map groups
  employee : ∃ employee?, Context.count? (Value.lookup "employee_id" entries) = .ok employee?

/-- A description of a context with the groups. -/
def IsReadable (described : Value) (groups : List (Value × Value)) : Prop :=
  ∃ entries, described.orEmpty = .map entries ∧ MakesContext entries groups

theorem orEmpty_map (entries : List (Value × Value)) :
    (Value.map entries).orEmpty = .map entries := by
  cases entries <;> rfl

/-- What passes as a mapping, or is left out. -/
theorem exists_orEmpty_taken {name : String} {body : List (Value × Value)} {taken? : Option Value}
    (h : Field.optional (Field.present Field.anyMapping) name body = .ok taken?) :
    ∃ entries, (taken id (.ok taken?)).orEmpty = .map entries := by
  rcases Field.optional_eq_ok_iff.1 h with ⟨-, rfl⟩ | ⟨_, _, -, hkind, rfl⟩
  · exact ⟨[], rfl⟩
  · obtain ⟨-, rfl⟩ := mapping_eq_takenEntries hkind
    exact ⟨_, orEmpty_map _⟩

theorem exists_groups_taken {value : Value} {body : List (Value × Value)} {taken? : Option Value}
    (hbody : fields value = .ok body)
    (h : Field.optional (Field.present groups) "groups" body = .ok taken?) :
    ∃ entries, (taken id (.ok taken?)).orEmpty = .map entries ∧
      List.Forall₂ TakesGroup (groupsOf (value.under "groups")) entries := by
  rw [under_eq_lookup hbody, Value.lookup]
  rcases Field.optional_eq_ok_iff.1 h with ⟨hnone, rfl⟩ | ⟨_, _, hvalue, hkind, rfl⟩
  · rw [hnone]
    exact ⟨[], rfl, .nil⟩
  · obtain ⟨-, hgroups⟩ := Field.present_eq_ok_iff.1 hkind
    obtain ⟨pairs, entries, rfl, rfl, hentries⟩ := groups_eq_ok hgroups
    rw [hvalue]
    exact ⟨entries, orEmpty_map entries, hentries⟩

theorem exists_employee_taken {body : List (Value × Value)} {taken? : Option Value}
    (h : Field.optional employee "employee_id" body = .ok taken?) :
    ∃ employee?, Context.count? (taken id (.ok taken?)) = .ok employee? := by
  rcases Field.optional_eq_ok_iff.1 h with ⟨-, rfl⟩ | ⟨value, _, -, hkind, rfl⟩
  · exact ⟨none, rfl⟩
  · rw [employee] at hkind
    split at hkind
    · obtain rfl := Except.ok.inj hkind
      exact ⟨none, rfl⟩
    · cases hinteger : Field.integer value with
      | error complaint => rw [hinteger] at hkind; nomatch hkind
      | ok n =>
        rw [hinteger] at hkind
        obtain rfl := Except.ok.inj hkind
        exact ⟨some n, rfl⟩

theorem exists_isReadable_context {value described : Value} (h : context value = .ok described) :
    ∃ entries, IsReadable described entries ∧
      List.Forall₂ TakesGroup (groupsOf (value.under "groups")) entries := by
  obtain ⟨body, hbody, hform⟩ := exists_of_bind_eq_ok h
  obtain ⟨hparts, rfl⟩ := assemble_eq_ok_iff.1 hform
  simp only [List.forall_mem_cons, Complaint.part?_eq_none_iff] at hparts
  obtain ⟨-, ⟨employee?, hemployee⟩, -, ⟨concepts?, hconcepts⟩, ⟨groups?, hgroups⟩, -⟩ := hparts
  obtain ⟨concepts, hconceptsTaken⟩ := exists_orEmpty_taken hconcepts
  obtain ⟨entries, hentries, htakes⟩ := exists_groups_taken hbody hgroups
  obtain ⟨count?, hcount⟩ := exists_employee_taken hemployee
  rw [hemployee, hconcepts, hgroups]
  exact ⟨entries, ⟨_, rfl, ⟨⟨concepts, hconceptsTaken⟩, hentries, count?, hcount⟩⟩, htakes⟩

theorem isReadable_null : IsReadable .null [] :=
  ⟨[], rfl, ⟨⟨[], rfl⟩, rfl, none, rfl⟩⟩

/-- What a description leaves open of its context is the two limits. -/
theorem IsReadable.exists_ofValue_eq {described : Value} {groups : List (Value × Value)}
    (h : IsReadable described groups) (today : Date) :
    ∃ context : Context, context.groups = groups ∧ ∀ scale limit,
      Context.ofValue today described scale limit = (do
        let scale ← Context.count? scale
        let limit ← Context.count? limit
        return { context with
          scale := scale.getD defaultScale
          precisionLimit := limit.getD defaultPrecisionLimit }) := by
  obtain ⟨entries, hdescribed, ⟨concepts, hconcepts⟩, hgroups, employee?, hemployee⟩ := h
  refine ⟨{ bindings := Context.lowerKeys (Value.lookup "variables" entries).orEmpty
            concepts := Table.ofPairs (concepts.map fun (key, item) ↦ (Context.lowerKey key, item))
            groups
            date := Context.dateText today (Value.lookup "date" entries)
            employee? }, rfl, fun scale limit ↦ ?_⟩
  have hconceptsOf : Context.conceptsOf (Value.lookup "concepts" entries) =
      .ok (Table.ofPairs (concepts.map fun (key, item) ↦ (Context.lowerKey key, item))) := by
    rw [Context.conceptsOf, hconcepts]
    rfl
  have hentriesOf : (Value.lookup "groups" entries).orEmpty.entriesOf = .ok groups := by
    rw [hgroups]
    rfl
  simp only [Context.ofValue, hdescribed, Value.mappingEntries, bind, Except.bind, hconceptsOf,
    hentriesOf, hemployee]

end Form

/-! ## Parameters -/

namespace Sources

/-- A text is known as a number or stays as it is. -/
theorem exists_employeeKey_text (s : String) : ∃ key, employeeKey (.text s) = .ok key := by
  rw [employeeKey, Value.toCount]
  cases Value.integerText? s with
  | some n => exact ⟨.int n, rfl⟩
  | none => exact ⟨.text s, rfl⟩

theorem exists_employeeTable {pairs entries : List (Value × Value)}
    (h : List.Forall₂ (fun pair entry ↦ entry.1 = .text pair.1.toText ∧
      Field.present Field.anyMapping pair.2 = .ok entry.2) pairs entries) :
    ∃ table, employeeTable entries = .ok table := by
  induction h with
  | nil => exact ⟨[], rfl⟩
  | @cons pair entry _ entries hentry _ ih =>
    obtain ⟨employee, values⟩ := entry
    obtain ⟨rfl, hvalues⟩ := hentry
    obtain ⟨-, rfl⟩ := Form.mapping_eq_takenEntries hvalues
    obtain ⟨key, hkey⟩ := exists_employeeKey_text pair.1.toText
    obtain ⟨table, htable⟩ := ih
    refine ⟨(key, Form.takenEntries pair.2) :: table, ?_⟩
    simp only [employeeTable, hkey, Form.orEmpty_map, Value.entriesOf, htable, bind, Except.bind]
    rfl

end Sources

/-! ## Requests -/

namespace EvaluationForm

open Form

/-- The options of the evaluation that a request asks for. -/
def options (form : EvaluationForm) (settings : Settings) : Options where
  scale := form.scale
  parameters := form.parameters
  employeeParameters := form.employeeParameters
  collaborators := settings.collaborators

/-- A form that a run can be made of, with the groups. -/
structure IsRunnable (form : EvaluationForm) (groups : List (Value × Value)) : Prop where
  context : IsReadable form.context groups
  sources : ∀ collaborators, ∃ sources,
    Sources.build collaborators form.parameters form.employeeParameters = .ok sources
  scale : ∃ scale?, Context.count? form.scale = .ok scale?

theorem exists_sources {body : List (Value × Value)} {parameters? employees? : Option Value}
    (hparameters : Field.optional (Field.present Field.anyMapping) "params" body = .ok parameters?)
    (hemployees : Field.optional (Field.present (Field.mapping (Field.present Field.anyMapping)))
      "employee_params" body = .ok employees?) (collaborators : Collaborators) :
    ∃ sources, Sources.build collaborators (taken id (.ok parameters?))
      (taken id (.ok employees?)) = .ok sources := by
  obtain ⟨parameters, hparameters⟩ := exists_orEmpty_taken hparameters
  obtain ⟨entries, table, hentries, htable⟩ : ∃ entries table,
      (taken id (.ok employees?)).orEmpty = .map entries ∧
        Sources.employeeTable entries = .ok table := by
    rcases Field.optional_eq_ok_iff.1 hemployees with ⟨-, rfl⟩ | ⟨_, _, -, hkind, rfl⟩
    · exact ⟨[], [], rfl, rfl⟩
    · obtain ⟨-, hmapping⟩ := Field.present_eq_ok_iff.1 hkind
      obtain ⟨_, entries, -, rfl, hentries⟩ := Field.mapping_eq_ok_iff.1 hmapping
      obtain ⟨table, htable⟩ := Sources.exists_employeeTable hentries
      exact ⟨entries, table, orEmpty_map entries, htable⟩
  refine ⟨{ collaborators, parameters, employeeParameters := Table.ofPairs table }, ?_⟩
  simp only [Sources.build, hparameters, hentries, Value.entriesOf, Value.mappingEntries, htable,
    bind, Except.bind]
  rfl

theorem exists_isRunnable {body : Value} {form : EvaluationForm} (h : ofValue body = .ok form) :
    ∃ groups, form.IsRunnable groups ∧ List.Forall₂ TakesGroup (requestGroups body) groups := by
  obtain ⟨fields, hfields, hform⟩ := exists_of_bind_eq_ok h
  obtain ⟨hparts, rfl⟩ := assemble_eq_ok_iff.1 hform
  simp only [List.forall_mem_cons, Complaint.part?_eq_none_iff] at hparts
  obtain ⟨-, ⟨context?, hcontext⟩, ⟨parameters?, hparameters⟩, ⟨employees?, hemployees⟩,
    ⟨scale?, hscale⟩, -⟩ := hparts
  have hcount : ∃ n?, Context.count? (taken .int (.ok scale?)) = .ok n? := by
    cases scale? with
    | none => exact ⟨none, rfl⟩
    | some n => exact ⟨some n, rfl⟩
  have hsources := exists_sources hparameters hemployees
  rw [requestGroups, under_eq_lookup hfields, Value.lookup, hcontext, hparameters, hemployees, hscale]
  rcases Field.optional_eq_ok_iff.1 hcontext with ⟨hnone, rfl⟩ | ⟨value, _, hvalue, hkind, rfl⟩
  · rw [hnone]
    exact ⟨[], ⟨isReadable_null, hsources, hcount⟩, .nil⟩
  · obtain ⟨-, hcontext⟩ := Field.present_eq_ok_iff.1 hkind
    obtain ⟨groups, hreadable, htakes⟩ := exists_isReadable_context hcontext
    rw [hvalue]
    exact ⟨groups, ⟨hreadable, hsources, hcount⟩, htakes⟩

variable {form : EvaluationForm} {groups : List (Value × Value)} {settings : Settings}

/-- A run of the form fails before it starts only when a limit of the settings is no count. -/
theorem IsRunnable.exists_surroundings (h : form.IsRunnable groups) (today : Date)
    (hscale : ∃ scale?, Context.count? settings.scale = .ok scale?)
    (hlimit : ∃ limit?, Context.count? settings.precisionLimit = .ok limit?) :
    ∃ s, Engine.surroundings today settings form.context (form.options settings) = .ok s := by
  obtain ⟨context, -, hcontext⟩ := h.context.exists_ofValue_eq today
  obtain ⟨sources, hsources⟩ : ∃ sources, Sources.build (form.options settings).collaborators
      (form.options settings).parameters (form.options settings).employeeParameters =
        .ok sources := h.sources _
  obtain ⟨limit?, hlimit⟩ := hlimit
  obtain ⟨scale?, hscale⟩ : ∃ scale?, Context.count? (if (form.options settings).scale.isNull then
      settings.scale else (form.options settings).scale) = .ok scale? := by
    split
    · exact hscale
    · exact h.scale
  refine ⟨{ context := { context with
              scale := scale?.getD defaultScale
              precisionLimit := limit?.getD defaultPrecisionLimit }
            sources }, ?_⟩
  simp only [Engine.surroundings, hcontext, hscale, hlimit, hsources, bind, Except.bind]
  rfl

theorem IsRunnable.groups_eq (h : form.IsRunnable groups) {today : Date} {s : Surroundings}
    (hs : Engine.surroundings today settings form.context (form.options settings) = .ok s) :
    s.context.groups = groups := by
  obtain ⟨context, rfl, hcontext⟩ := h.context.exists_ofValue_eq today
  obtain ⟨read, hread, hrest⟩ := exists_of_bind_eq_ok hs
  obtain ⟨sources, -, hs⟩ := exists_of_bind_eq_ok hrest
  obtain rfl := Except.ok.inj hs
  rw [hcontext] at hread
  obtain ⟨scale?, -, hread⟩ := exists_of_bind_eq_ok hread
  obtain ⟨limit?, -, hread⟩ := exists_of_bind_eq_ok hread
  obtain rfl := Except.ok.inj hread
  rfl

end EvaluationForm

/-! ## Sums -/

/-- A request that is accepted describes groups of mappings, each of which names its concept, and an
evaluation of it fails before it starts only when a limit of the settings is no count.  When nobody
else answers, the sum of a group then fails only if the request has no group with the code, and
otherwise it is the total of the members of such a group, whatever their concepts and weights are. -/
theorem accepted_requests_make_group_sums_safe {body : Value} {form : EvaluationForm}
    (h : EvaluationForm.ofValue body = .ok form) (today : Date) (settings : Settings) :
    (∀ group ∈ requestGroups body, Form.IsGroup group.2) ∧
    ((∃ scale?, Context.count? settings.scale = .ok scale?) →
      (∃ limit?, Context.count? settings.precisionLimit = .ok limit?) →
      ∃ s, Engine.surroundings today settings form.context (form.options settings) = .ok s) ∧
    ∀ s, Engine.surroundings today settings form.context (form.options settings) = .ok s →
      ∀ (argument : Formula) (code : String), (argument.eval s).outcome = .ok (.text code) →
        Sources.Silent s.sources.collaborators.groups?
          (.groupTotal (.text code) (.map s.context.concepts)) →
        (∀ group ∈ requestGroups body, group.1.toText ≠ code) ∧
            ((Formula.call "SUM_GROUP" [argument]).eval s).outcome = .error (.groupNotFound code) ∨
          ∃ group ∈ requestGroups body, group.1.toText = code ∧ ∃ items, group.2 = .list items ∧
            (Formula.call "SUM_GROUP" [argument]).GivesAmount s
              (Sources.groupTotal s.context.concepts (some s.context.scale)
                (items.map Form.takenEntries)) := by
  obtain ⟨groups, hrunnable, htakes⟩ := EvaluationForm.exists_isRunnable h
  have hgroups : ∀ group ∈ requestGroups body, Form.IsGroup group.2 :=
    ((List.forall₂_and_left _ _).1 (htakes.imp fun _ _ hgroup ↦ ⟨hgroup.isGroup, hgroup⟩)).1
  refine ⟨hgroups, hrunnable.exists_surroundings today, ?_⟩
  intro s hs argument code hargument hsilent
  obtain rfl := hrunnable.groups_eq hs
  rcases Form.get?_takenGroups htakes code with
    ⟨habsent, hnone⟩ | ⟨group, hgroup, hcode, taken, htaken, hfound⟩
  · exact .inl ⟨habsent, Formula.outcome_sumGroup_of_absent hargument hsilent hnone⟩
  · obtain ⟨items, hitems, htakenItems, hmembers⟩ := htaken.members
    have hcodes : ∀ member ∈ items.map Form.takenEntries,
        (Value.valueAt? "concept_code" member).isSome :=
      List.forall_mem_map.2 fun item hitem ↦ (hmembers item hitem).isSome_code
    exact .inr ⟨group, hgroup, hcode, items, hitems,
      Formula.givesAmount_sumGroup hargument ⟨hsilent, htakenItems ▸ hfound⟩ hcodes⟩

/-- A request with concepts and weights of many kinds. -/
def mixedRequest : Value :=
  .record [("expression", .text "SUM_GROUP('pay')"),
    ("context", .record [
      ("concepts", .record [("base", .list [.int 1]), ("Bonus", .bool true), ("7", .null)]),
      ("groups", .record [("pay", .list [
        .record [("concept_code", .text "BASE"), ("weight", .map [])],
        .record [("concept_code", .text "bonus"), ("weight", .text "2.5")],
        .record [("concept_code", .text "bonus"), ("weight", .null)],
        .record [("concept_code", .text "bonus"), ("weight", .bool true)],
        .record [("concept_code", .int 7), ("weight", .list [.null])]])])])]

/-- Two of the members count for something. -/
theorem accepted_requests_make_group_sums_safe_mixed :
    ∃ form s, EvaluationForm.ofValue mixedRequest = .ok form ∧
      Engine.surroundings default {} form.context (form.options {}) = .ok s ∧
      (Formula.call "SUM_GROUP" [.text (.text "pay")]).GivesAmount s (7 / 2) ∧
      ((Formula.call "SUM_GROUP" [.text (.text "tax")]).eval s).outcome =
        .error (.groupNotFound "tax") := by
  let concepts : List (Value × Value) :=
    [(.text "base", .list [.int 1]), (.text "bonus", .bool true), (.text "7", .null)]
  let items : List Value :=
    [.record [("concept_code", .text "BASE"), ("weight", .map [])],
      .record [("concept_code", .text "bonus"), ("weight", .text "2.5")],
      .record [("concept_code", .text "bonus"), ("weight", .null)],
      .record [("concept_code", .text "bonus"), ("weight", .bool true)],
      .record [("concept_code", .int 7), ("weight", .list [.null])]]
  let s : Surroundings :=
    { context := { concepts, groups := [(.text "pay", .list items)], date := (default : Date).iso } }
  obtain ⟨form, hform, hs⟩ : ∃ form, EvaluationForm.ofValue mixedRequest = .ok form ∧
      Engine.surroundings default {} form.context (form.options {}) = .ok s :=
    ⟨_, rfl, rfl⟩
  obtain ⟨-, -, hsums⟩ := accepted_requests_make_group_sums_safe hform default {}
  refine ⟨form, s, hform, hs, ?_, ?_⟩
  · obtain ⟨habsent, -⟩ | ⟨group, hgroup, -, others, hothers, hgives⟩ :=
      hsums s hs (.text (.text "pay")) "pay" rfl nofun
    · exact absurd rfl (habsent _ List.mem_cons_self)
    · obtain rfl := List.mem_singleton.1 hgroup
      obtain rfl : items = others := Value.list.inj hothers
      have htotal : Sources.groupTotal concepts (some 10) (items.map Form.takenEntries) = 7 / 2 := by
        decide +kernel
      rw [← htotal]
      exact hgives
  · obtain ⟨-, hfails⟩ | ⟨group, hgroup, hcode, -⟩ :=
      hsums s hs (.text (.text "tax")) "tax" rfl nofun
    · exact hfails
    · obtain rfl := List.mem_singleton.1 hgroup
      exact absurd hcode (by decide)

end PayFormula

import Mathlib
import PayFormula.Evaluation.Evaluator
import PayFormula.Proofs.Evaluation.Shown

/-!
# Dependencies Determine the Run

A formula that names all its keys reads nothing but what its dependencies report: two surroundings
that agree there, and in date, employee and limits, give the same run, with the same events on the
way and the same value or fault in the end.  Whatever else the surroundings hold does not matter.

Keys that a part of the formula computes would escape the report, and a collaborator is shown more
than it is asked for.  Both are ruled out here.
-/

namespace PayFormula

namespace Surroundings

/-- The same date, employee and limits, and no collaborators. -/
structure Alike (s₁ s₂ : Surroundings) : Prop where
  date : s₁.context.date = s₂.context.date
  employee? : s₁.context.employee? = s₂.context.employee?
  scale : s₁.context.scale = s₂.context.scale
  precisionLimit : s₁.context.precisionLimit = s₂.context.precisionLimit
  alone₁ : s₁.sources.collaborators = {}
  alone₂ : s₂.sources.collaborators = {}

/-- What is read for a key of a call is the same: the parameter, that of each employee, or the group
with the concepts that its members count. -/
def AgreeAt (s₁ s₂ : Surroundings) : Formula.KeyedCall → Value → Prop
  | .parameter, key =>
    Sources.static? key s₁.sources.parameters = Sources.static? key s₂.sources.parameters
  | .employeeParameter, key => ∀ employee,
    Sources.static? key ((Table.get? employee s₁.sources.employeeParameters).getD []) =
      Sources.static? key ((Table.get? employee s₂.sources.employeeParameters).getD [])
  | .group, code =>
    Table.get? code s₁.context.groups = Table.get? code s₂.context.groups ∧
      ∀ members, Sources.groupMembers code (.map s₁.context.groups) = .ok members →
        ∀ member ∈ members, ∀ concept, Sources.memberConcept member = .ok concept →
          Table.get? (.text concept) s₁.context.concepts =
            Table.get? (.text concept) s₂.context.concepts

end Surroundings

/-- Two surroundings agree on what a formula reports: on the concept and the way through nested
mappings of each variable, and on each key of a keyed call.  A key is reported by its text, and
looked up as the literal that the call names. -/
structure Formula.AgreeOn (formula : Formula) (s₁ s₂ : Surroundings) : Prop extends
    s₁.Alike s₂ where
  variableAt : ∀ key ∈ (Dependencies.ofFormula formula).variableKeys,
    Value.lookup key s₁.context.concepts = Value.lookup key s₂.context.concepts ∧
      ∀ path, .variable path ∈ formula.nodes → variableKey path = key →
        Context.follow s₁.context.bindings path = Context.follow s₂.context.bindings path
  keyAt : ∀ kind, ∀ name ∈ (Dependencies.ofFormula formula).keys kind,
    ∀ key, formula.Names kind key → key.toText = name → s₁.AgreeAt s₂ kind key

/-- Work goes on in the same way if it does so with what it has got. -/
theorem Run.bind_congr {α β : Type} {run : Run α} {next₁ next₂ : α → Run β}
    (h : ∀ a, run.Gives a → next₁ a = next₂ a) : run >>= next₁ = run >>= next₂ := by
  ext journal : 1
  rcases hrun : run.on journal with ⟨fault | a, later⟩
  · rw [Run.on_bind_of_error hrun, Run.on_bind_of_error hrun]
  · rw [Run.on_bind_of_ok hrun, Run.on_bind_of_ok hrun, h a ⟨journal, congrArg Prod.fst hrun⟩]

/-! ## Resolution -/

namespace Sources

theorem groupMembers_congr {code : Value} {groups₁ groups₂ : List (Value × Value)}
    (h : Table.get? code groups₁ = Table.get? code groups₂) :
    groupMembers code (.map groups₁) = groupMembers code (.map groups₂) := by
  unfold groupMembers Value.holds Value.entryAt
  simp only [h]

theorem addMember_congr {concepts₁ concepts₂ : List (Value × Value)} {member : Value}
    (h : ∀ concept, memberConcept member = .ok concept →
      Table.get? (.text concept) concepts₁ = Table.get? (.text concept) concepts₂)
    (scale : Value) (total : Decimal) :
    addMember (.map concepts₁) scale total member =
      addMember (.map concepts₂) scale total member := by
  unfold addMember
  cases hconcept : memberConcept member with
  | error fault => rfl
  | ok concept =>
    dsimp only [bind, Except.bind]
    unfold Value.holds Value.entryAt
    simp only [h concept hconcept]

theorem memberSum_congr {concepts₁ concepts₂ : List (Value × Value)} {members : List Value}
    (h : ∀ member ∈ members, ∀ concept, memberConcept member = .ok concept →
      Table.get? (.text concept) concepts₁ = Table.get? (.text concept) concepts₂)
    (scale : Value) :
    memberSum (.map concepts₁) scale members = memberSum (.map concepts₂) scale members := by
  unfold memberSum
  generalize (0 : Decimal) = total
  induction members generalizing total with
  | nil => rfl
  | cons member rest ih =>
    rw [List.forall_mem_cons] at h
    rw [List.foldlM_cons, List.foldlM_cons, addMember_congr h.1]
    congr 1
    funext total
    exact ih h.2 total

end Sources

namespace Surroundings

variable {s₁ s₂ : Surroundings} {key : Value}

theorem parameterValue_congr (h : s₁.Alike s₂) (hkey : s₁.AgreeAt s₂ .parameter key)
    (date : Value) : s₁.parameterValue key date = s₂.parameterValue key date := by
  unfold parameterValue Sources.parameter
  rw [h.alone₁, h.alone₂, show Sources.static? key _ = _ from hkey]

theorem employeeParameterValue_congr (h : s₁.Alike s₂)
    (hkey : s₁.AgreeAt s₂ .employeeParameter key) (employee date : Value) :
    s₁.employeeParameterValue key employee date =
      s₂.employeeParameterValue key employee date := by
  unfold employeeParameterValue Sources.employeeParameter
  rw [h.alone₁, h.alone₂, show Sources.static? key _ = _ from hkey employee]

theorem groupSum_congr (h : s₁.Alike s₂) (hcode : s₁.AgreeAt s₂ .group key) :
    s₁.sources.groupSum key (.map s₁.context.concepts) (.map s₁.context.groups)
        (.int s₁.context.scale) =
      s₂.sources.groupSum key (.map s₂.context.concepts) (.map s₂.context.groups)
        (.int s₂.context.scale) := by
  obtain ⟨hgroup, hconcepts⟩ := hcode
  unfold Sources.groupSum
  rw [h.alone₁, h.alone₂, ← Sources.groupMembers_congr hgroup, ← h.scale]
  -- the inquiries differ, but there is nobody to make them to
  apply Run.bind_congr
  intro answer? hanswer
  obtain ⟨_, hnobody⟩ := hanswer
  obtain rfl := Except.ok.inj hnobody
  apply Run.bind_congr
  intro members hmembers
  rw [Sources.memberSum_congr (hconcepts members hmembers.eq_ok)]

theorem groupValue_congr (h : s₁.Alike s₂) (hcode : s₁.AgreeAt s₂ .group key) :
    s₁.groupValue key = s₂.groupValue key := by
  rw [groupValue, groupValue, groupSum_congr h hcode]

theorem variableValue_congr {path : List String}
    (hconcept : Value.lookup (variableKey path) s₁.context.concepts =
      Value.lookup (variableKey path) s₂.context.concepts)
    (hbinding : Context.follow s₁.context.bindings path = Context.follow s₂.context.bindings path) :
    s₁.variableValue path = s₂.variableValue path := by
  unfold variableValue
  dsimp only
  rw [hconcept, hbinding]

/-! ## Functions -/

namespace Alike

variable (h : s₁.Alike s₂)

include h

theorem places_eq : s₁.places = s₂.places := by
  unfold places Context.places
  rw [h.scale]

theorem isTrue_eq : s₁.isTrue = s₂.isTrue := by
  funext value
  unfold isTrue
  rw [h.places_eq]

theorem employee_eq : s₁.context.employee = s₂.context.employee := by
  unfold Context.employee
  rw [h.employee?]

theorem checkPrecision_eq : s₁.checkPrecision = s₂.checkPrecision := by
  funext name value
  unfold checkPrecision
  rw [h.precisionLimit]

theorem taxCollaborator_eq : s₁.taxCollaborator = s₂.taxCollaborator := by
  funext name
  unfold taxCollaborator
  rw [h.alone₁, h.alone₂]

theorem unaryValue_eq : s₁.unaryValue = s₂.unaryValue := by
  funext operator operand
  unfold unaryValue
  rw [h.places_eq, h.isTrue_eq]

theorem binaryValue_eq : s₁.binaryValue = s₂.binaryValue := by
  funext operator left right
  unfold binaryValue strictValue
  rw [h.places_eq, h.isTrue_eq]

theorem countryTaxed_eq : s₁.countryTaxed = s₂.countryTaxed := by
  funext tax arguments
  unfold countryTaxed
  rw [h.taxCollaborator_eq, h.date]

theorem tiersApplied_eq : s₁.tiersApplied = s₂.tiersApplied := by
  funext base tiers mode?
  unfold tiersApplied
  rw [h.taxCollaborator_eq]

/-- A function reads settings, and what there is for the key that its first argument gives. -/
theorem applied?_congr {builtin : Builtin} {arguments : List (Run Value)}
    (hkeys : ∀ kind : Formula.KeyedCall, builtin = kind.builtin →
      ∀ key, FirstGives arguments key → s₁.AgreeAt s₂ kind key) :
    s₁.applied? builtin arguments = s₂.applied? builtin arguments := by
  unfold applied?
  split
  -- the extrema, and functions of one value
  · rfl
  · rfl
  · rw [h.places_eq]
  · rfl
  · rfl
  -- cuts and roundings
  · rw [h.checkPrecision_eq]
  · rw [h.checkPrecision_eq]
  · rw [h.checkPrecision_eq]
  · rw [h.checkPrecision_eq]
  · rw [h.checkPrecision_eq]
  -- choices
  · rw [h.isTrue_eq]
  · rfl
  -- parameters
  · rw [h.date]
    congr 1
    apply Run.bind_congr
    intro key hkey
    rw [parameterValue_congr h (hkeys .parameter rfl key ⟨_, _, rfl, hkey⟩)]
  · congr 1
    apply Run.bind_congr
    intro key hkey
    apply Run.bind_congr
    intro date _
    rw [parameterValue_congr h (hkeys .parameter rfl key ⟨_, _, rfl, hkey⟩)]
  -- parameters of an employee
  · rw [h.date, h.employee_eq]
    congr 1
    apply Run.bind_congr
    intro key hkey
    rw [employeeParameterValue_congr h (hkeys .employeeParameter rfl key ⟨_, _, rfl, hkey⟩)]
  · rw [h.date]
    congr 1
    apply Run.bind_congr
    intro key hkey
    apply Run.bind_congr
    intro employee _
    dsimp only
    rw [employeeParameterValue_congr h (hkeys .employeeParameter rfl key ⟨_, _, rfl, hkey⟩)]
  · congr 1
    apply Run.bind_congr
    intro key hkey
    apply Run.bind_congr
    intro employee _
    apply Run.bind_congr
    intro date _
    rw [employeeParameterValue_congr h (hkeys .employeeParameter rfl key ⟨_, _, rfl, hkey⟩)]
  -- groups
  · congr 1
    apply Run.bind_congr
    intro code hcode
    rw [groupValue_congr h (hkeys .group rfl code ⟨_, _, rfl, hcode⟩)]
  -- taxes and tiers
  · rw [h.countryTaxed_eq]
  · rw [h.tiersApplied_eq]
  · rw [h.tiersApplied_eq]
  · rfl

theorem call_congr {name : String} {arguments : List (Run Value)}
    (hkeys : ∀ kind : Formula.KeyedCall, kind.name = name →
      ∀ key, FirstGives arguments key → s₁.AgreeAt s₂ kind key) :
    s₁.call name arguments = s₂.call name arguments := by
  unfold call
  split
  · rfl
  · rename_i builtin hbuiltin
    have happlied : s₁.applied? builtin arguments = s₂.applied? builtin arguments := by
      apply h.applied?_congr
      rintro kind rfl
      exact hkeys kind (Formula.KeyedCall.name_of_ofName? hbuiltin)
    rw [happlied]

end Alike

end Surroundings

/-! ## Formulas -/

namespace Formula

/-- Agreement in terms of the nodes, which passes from a formula to its parts. -/
structure AgreeOnNodes (s₁ s₂ : Surroundings) (formula : Formula) : Prop where
  alike : s₁.Alike s₂
  variableAt : ∀ path, .variable path ∈ formula.nodes →
    Value.lookup (variableKey path) s₁.context.concepts =
        Value.lookup (variableKey path) s₂.context.concepts ∧
      Context.follow s₁.context.bindings path = Context.follow s₂.context.bindings path
  keyAt : ∀ (kind : KeyedCall) first rest, call kind.name (first :: rest) ∈ formula.nodes →
    ∃ key, first = text key ∧ s₁.AgreeAt s₂ kind key

variable {s₁ s₂ : Surroundings}

theorem AgreeOnNodes.part {part formula : Formula} (h : formula.AgreeOnNodes s₁ s₂)
    (hpart : part ∈ formula.children) : part.AgreeOnNodes s₁ s₂ where
  alike := h.alike
  variableAt path hpath := h.variableAt path (nodes_subset_of_mem_children hpart hpath)
  keyAt kind first rest hcall :=
    h.keyAt kind first rest (nodes_subset_of_mem_children hpart hcall)

/-- Without dynamic keys, agreement on what is reported is agreement on every node. -/
theorem agreeOnNodes_of_agreeOn {formula : Formula}
    (hstatic : ∀ kind, dynamicKey ∉ (Dependencies.ofFormula formula).keys kind)
    (h : formula.AgreeOn s₁ s₂) : formula.AgreeOnNodes s₁ s₂ where
  alike := h.toAlike
  variableAt path hpath := by
    obtain ⟨hconcept, hbinding⟩ :=
      h.variableAt (variableKey path) (Dependencies.mem_variableKeys_iff.2 ⟨path, hpath, rfl⟩)
    exact ⟨hconcept, hbinding path hpath rfl⟩
  keyAt kind first rest hcall := by
    have hreported : keyOf first ∈ (Dependencies.ofFormula formula).keys kind :=
      Dependencies.mem_keys_iff.2 ⟨first, rest, hcall, rfl⟩
    cases first with
    | text key => exact ⟨key, rfl, h.keyAt kind _ hreported key ⟨rest, hcall⟩ rfl⟩
    | _ => exact absurd hreported (hstatic kind)

mutual

theorem eval_congr : (formula : Formula) → formula.AgreeOnNodes s₁ s₂ →
    formula.eval s₁ = formula.eval s₂
  | .number _, _ | .text _, _ | .truth _, _ | .missing, _ => rfl
  | .variable path, h =>
    have hpath := h.variableAt path (self_mem_nodes _)
    Surroundings.variableValue_congr hpath.1 hpath.2
  | .call name arguments, h => by
    rw [eval, eval, ← evalEach_congr arguments fun argument hargument ↦ h.part hargument]
    apply h.alike.call_congr
    rintro kind rfl key hfirst
    obtain ⟨first, rest, rfl, hkey⟩ := mayGive_of_firstGives hfirst
    obtain ⟨literal, rfl, hagree⟩ := h.keyAt kind first rest (self_mem_nodes _)
    obtain rfl := hkey literal rfl
    exact hagree
  | .unary operator operand, h => by
    rw [eval, eval, h.alike.unaryValue_eq, eval_congr operand (h.part (by simp [children]))]
  | .binary operator left right, h => by
    rw [eval, eval, h.alike.binaryValue_eq, eval_congr left (h.part (by simp [children])),
      eval_congr right (h.part (by simp [children]))]

theorem evalEach_congr : (formulas : List Formula) →
    (∀ formula ∈ formulas, formula.AgreeOnNodes s₁ s₂) → evalEach s₁ formulas = evalEach s₂ formulas
  | [], _ => rfl
  | formula :: rest, h => by
    rw [List.forall_mem_cons] at h
    rw [evalEach, evalEach, eval_congr formula h.1, evalEach_congr rest h.2]

end

/-- A formula none of whose keys is dynamic runs in the same way wherever what it names is the same:
the same value or the same fault, with the same trace and the same ledger. -/
theorem dependencies_determine_run (formula : Formula) (s₁ s₂ : Surroundings)
    (hstatic : ∀ kind, dynamicKey ∉ (Dependencies.ofFormula formula).keys kind)
    (h : formula.AgreeOn s₁ s₂) : formula.eval s₁ = formula.eval s₂ :=
  eval_congr formula (agreeOnNodes_of_agreeOn hstatic h)

/-- A bonus that is not read may come and go. -/
theorem dependencies_determine_run_bonus :
    let formula : Formula :=
      .binary .times (.variable ["base"]) (.call "PARAM" [.text (.text "rate")])
    let s₁ : Surroundings := {
      context := { concepts := [(.text "base", .int 100)], date := "2026-01-31" }
      sources := { parameters := [(.text "rate", .text "0.1")] } }
    let s₂ : Surroundings := {
      context := { concepts := [(.text "bonus", .int 7), (.text "base", .int 100)],
                   date := "2026-01-31" }
      sources := { parameters := [(.text "cap", .int 3), (.text "rate", .text "0.1")] } }
    formula.eval s₁ = formula.eval s₂ := by
  intro formula s₁ s₂
  have hnodes : formula.nodes =
      [formula, .variable ["base"], .call "PARAM" [.text (.text "rate")], .text (.text "rate")] := by
    simp [formula, nodes, walk, children]
  apply dependencies_determine_run formula s₁ s₂
  · intro kind
    cases kind <;> decide +kernel
  · refine ⟨⟨rfl, rfl, rfl, rfl, rfl, rfl⟩, ?_, ?_⟩
    · intro key hkey
      obtain ⟨path, hpath, rfl⟩ := Dependencies.mem_variableKeys_iff.1 hkey
      obtain rfl : path = ["base"] := by simpa [hnodes, formula] using hpath
      refine ⟨rfl, ?_⟩
      intro path hpath _
      obtain rfl : path = ["base"] := by simpa [hnodes, formula] using hpath
      rfl
    · rintro kind _ _ key ⟨rest, hcall⟩ -
      obtain ⟨hkind, rfl, -⟩ : kind.name = "PARAM" ∧ key = .text "rate" ∧ rest = [] := by
        simpa [hnodes, formula] using hcall
      cases kind with
      | parameter => rfl
      | _ => exact absurd hkind (by decide)

end Formula

end PayFormula

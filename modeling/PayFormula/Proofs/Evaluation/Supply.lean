import Mathlib
import PayFormula.Proofs.Evaluation.ZeroGuard
import PayFormula.Proofs.Value.Misreading

/-!
# How Values Are Supplied

A value enters a formula as a variable or a concept, as a parameter, or as the weight of a group's
member.  Variables and concepts enter as plain amounts.  Parameters and weights enter as texts,
which are read forgivingly when they are computed with.  So a value counts for the same amount
wherever it comes from exactly when its text spells the amount that it counts for.
-/

namespace PayFormula

/-! ## Variables and concepts -/

namespace Context

/-- What a formula reads of a value is worth what the value counts for. -/
theorem toRat_formulaText (value : Value) :
    (Decimal.ofText (formulaText value)).toRat = value.toDecimal.toRat := by
  have hnormalize (value : Value) :
      (Decimal.ofText value.normalize).toRat = value.toDecimal.toRat := by
    obtain ⟨n, -, htext, hworth⟩ := Decimal.exists_isPlain_plain value.toDecimal
    rw [Value.normalize, htext, Decimal.ofText_numeral, Decimal.toRat_ofNumeral, hworth]
  cases value with
  | text s => rfl
  | bool b => cases b <;> decide +kernel
  | _ => exact hnormalize _

end Context

/-! ## Collaborators -/

namespace Sources

/-- There is nobody to ask, or never an answer. -/
def Silent (collaborator? : Option Collaborator) (inquiry : Inquiry) : Prop :=
  ∀ collaborator ∈ collaborator?, ∀ past, collaborator past inquiry = .ok .null

/-- The collaborator is there and answers with the value, whenever it is asked. -/
def Answers (collaborator? : Option Collaborator) (inquiry : Inquiry) (value : Value) : Prop :=
  ∃ collaborator ∈ collaborator?, ∀ past, collaborator past inquiry = .ok value

variable {collaborator? : Option Collaborator} {inquiry : Inquiry} {value : Value}

theorem ends_ask_of_silent (h : Silent collaborator? inquiry) :
    (ask collaborator? inquiry).Ends (.ok none) := by
  cases collaborator? with
  | none => exact fun _ ↦ rfl
  | some collaborator =>
    have hinquire : (Run.inquire collaborator inquiry).Ends (.ok .null) :=
      fun journal ↦ h collaborator rfl journal.inquiries
    exact hinquire.bind fun _ ↦ rfl

theorem ends_ask_of_answers (h : Answers collaborator? inquiry value)
    (hvalue : value.isNull = false) :
    (ask collaborator? inquiry).Ends (.ok (some value.toText)) := by
  obtain ⟨collaborator, hmem, hanswer⟩ := h
  obtain rfl := Option.mem_def.1 hmem
  have hinquire : (Run.inquire collaborator inquiry).Ends (.ok value) :=
    fun journal ↦ hanswer journal.inquiries
  apply hinquire.bind
  rw [hvalue]
  exact fun _ ↦ rfl

/-- The value is the collaborator's answer, or there is none and it stands under the key. -/
def Supplies (collaborator? : Option Collaborator) (inquiry : Inquiry) (key : String)
    (entries : List (Value × Value)) (value : Value) : Prop :=
  Answers collaborator? inquiry value ∨
    Silent collaborator? inquiry ∧ Table.get? (.text key) entries = some value

theorem static?_eq_some {key : Value} {entries : List (Value × Value)}
    (h : Table.get? key entries = some value) (hvalue : value.isNull = false) :
    static? key entries = some value.toText := by
  rw [static?, h]
  cases value with
  | null => exact absurd hvalue.symm Bool.false_ne_true
  | _ => rfl

variable {sources : Sources} {key : String}

theorem ends_parameter {date : Value} (hvalue : value.isNull = false)
    (h : Supplies sources.collaborators.parameters? (.parameter (.text key) date) key
      sources.parameters value) :
    (sources.parameter (.text key) date).Ends (.ok value.toText) := by
  rcases h with hanswer | ⟨hsilent, hentry⟩
  · exact (ends_ask_of_answers hanswer hvalue).bind fun _ ↦ rfl
  · apply (ends_ask_of_silent hsilent).bind
    simp only [static?_eq_some hentry hvalue]
    exact fun _ ↦ rfl

theorem ends_employeeParameter {n : ℤ} {date : Value} (hvalue : value.isNull = false)
    (h : Supplies sources.collaborators.employeeParameters?
      (.employeeParameter (.text key) (.int n) date) key
      ((Table.get? (.int n) sources.employeeParameters).getD []) value) :
    (sources.employeeParameter (.text key) (.int n) date).Ends (.ok value.toText) := by
  rw [employeeParameter, if_neg (by simp [Value.isNull])]
  rcases h with hanswer | ⟨hsilent, hentry⟩
  · exact (ends_ask_of_answers hanswer hvalue).bind fun _ ↦ rfl
  · apply (ends_ask_of_silent hsilent).bind
    simp only [static?_eq_some hentry hvalue]
    exact fun _ ↦ rfl

/-! ## Members of groups -/

/-- A member of a group that counts the amount of a concept with the weight. -/
structure Weighs (concepts entries : List (Value × Value)) (weight amount : Value) : Prop where
  concept : ∃ code, Table.get? (.text "concept_code") entries = some code ∧
    Table.get? (.text (Text.lower code.toText)) concepts = some amount
  weight : Value.lookup "weight" entries = weight

/-- A member counts if the concept of its code is there. -/
theorem addMember_of_code (concepts : List (Value × Value)) (scale : Option ℤ) (total : Decimal)
    {entries : List (Value × Value)} {code : Value}
    (hcode : Table.get? (.text "concept_code") entries = some code) :
    addMember (.map concepts) (Amount.scaleOf scale) total (.map entries) =
      .ok (match Table.get? (.text (Text.lower code.toText)) concepts with
        | some amount => total.addAt (Amount.placesOf scale)
            (amount.toDecimal.mulAt (Amount.placesOf scale) (memberWeight (.map entries)))
        | none => total) := by
  have hconcept : memberConcept (.map entries) = .ok (Text.lower code.toText) := by
    simp only [memberConcept, Value.field, Value.entryAt, Value.checkKey, hcode, bind, Except.bind]
    rfl
  cases hamount : Table.get? (.text (Text.lower code.toText)) concepts with
  | some amount =>
    simp only [addMember, hconcept, Value.holds, Value.entryAt, Value.checkKey, hamount,
      Amount.cutPlaces_scaleOf, bind, Except.bind, pure, Except.pure, Option.isSome_some, if_true]
  | none =>
    simp [addMember, hconcept, Value.holds, Value.checkKey, hamount, bind, Except.bind, pure,
      Except.pure]

theorem addMember_eq {concepts entries : List (Value × Value)} {weight amount : Value}
    (h : Weighs concepts entries weight amount) (hweight : weight.isNull = false) (scale : ℤ)
    (total : Decimal) :
    addMember (.map concepts) (.int scale) total (.map entries) =
      .ok (total.addAt scale.toNat
        (amount.toDecimal.mulAt scale.toNat (Decimal.ofText weight.toText))) := by
  obtain ⟨code, hcode, hamount⟩ := h.concept
  have hcounted : memberWeight (.map entries) = Decimal.ofText weight.toText := by
    simp [memberWeight, h.weight, hweight]
  refine (addMember_of_code concepts (some scale) total hcode).trans ?_
  rw [hamount, hcounted]
  rfl

/-- The total that nobody answers is the text of the sum of the members, if there is such a
group. -/
theorem ends_groupSum_of_silent {code concepts : Value} (groups scale : Value)
    (hsilent : Silent sources.collaborators.groups? (.groupTotal code concepts)) :
    (sources.groupSum code concepts groups scale).Ends
      ((groupMembers code groups >>= memberSum concepts scale).map Decimal.plain) := by
  apply (ends_ask_of_silent hsilent).bind
  intro journal
  cases hmembers : groupMembers code groups with
  | error fault => rfl
  | ok members =>
    rw [Run.ofExcept_ok_bind]
    change _ = (memberSum concepts scale members).map Decimal.plain
    cases memberSum concepts scale members <;> rfl

theorem ends_groupSum_of_members {code concepts groups scale : Value} {members : List Value}
    (hsilent : Silent sources.collaborators.groups? (.groupTotal code concepts))
    (hmembers : groupMembers code groups = .ok members) :
    (sources.groupSum code concepts groups scale).Ends
      ((memberSum concepts scale members).map Decimal.plain) := by
  have hends := ends_groupSum_of_silent groups scale hsilent
  rwa [hmembers] at hends

/-- The group of a code is the one that the code finds. -/
theorem groupMembers_eq (code : String) (groups : List (Value × Value)) :
    groupMembers (.text code) (.map groups) =
      match Table.get? (.text code) groups with
      | some group => group.members
      | none => .error (.groupNotFound code) := by
  cases hgroup : Table.get? (.text code) groups <;>
    simp only [groupMembers, Value.holds, Value.entryAt, Value.checkKey, hgroup, bind, Except.bind]
      <;> rfl

end Sources

/-! ## Formulas -/

namespace Formula

/-- The formula names the value, as a concept or else as a variable. -/
inductive IsNameFor (s : Surroundings) (value : Value) : Formula → Prop where
  | concept {path : List String}
      (h : Value.lookup (variableKey path) s.context.concepts = value) :
      IsNameFor s value (.variable path)
  | binding {path : List String}
      (hconcept : Value.lookup (variableKey path) s.context.concepts = .null)
      (h : Context.follow s.context.bindings path = some value) :
      IsNameFor s value (.variable path)

/-- The formula asks for the value as a parameter, of the employee or of all. -/
inductive IsQueryFor (s : Surroundings) (value : Value) : Formula → Prop where
  | parameter {key : String}
      (h : Sources.Supplies s.sources.collaborators.parameters?
        (.parameter (.text key) (.text s.context.date)) key s.sources.parameters value) :
      IsQueryFor s value (.call "PARAM" [.text (.text key)])
  | employeeParameter {key : String} {n : ℤ} (hemployee : s.context.employee? = some n)
      (h : Sources.Supplies s.sources.collaborators.employeeParameters?
        (.employeeParameter (.text key) (.int n) (.text s.context.date)) key
        ((Table.get? (.int n) s.sources.employeeParameters).getD []) value) :
      IsQueryFor s value (.call "EMP_PARAM" [.text (.text key)])

variable {s : Surroundings} {value : Value} {formula : Formula}

theorem IsNameFor.ends_eval (h : formula.IsNameFor s value) (hvalue : value.isScalar = true) :
    (formula.eval s).Ends (.ok (.text (Context.formulaText value))) := by
  cases h with
  | concept h =>
    rw [eval, Surroundings.variableValue, h, Value.isNull_of_isScalar hvalue]
    exact fun _ ↦ rfl
  | binding hconcept h =>
    rw [eval, Surroundings.variableValue, hconcept, h]
    cases value with
    | null | list _ | map _ => exact absurd hvalue Bool.false_ne_true
    | _ => exact fun _ ↦ rfl

theorem IsQueryFor.ends_eval (h : formula.IsQueryFor s value) (hvalue : value.isScalar = true) :
    (formula.eval s).Ends (.ok (.text value.toText)) := by
  have hnull := Value.isNull_of_isScalar hvalue
  cases h with
  | parameter h =>
    rw [eval, evalEach, call_eq (show Builtin.ofName? "PARAM" = some .parameter from rfl) rfl]
    intro journal
    exact (Sources.ends_parameter hnull h).bind (fun _ ↦ rfl) _
  | @employeeParameter key n hemployee h =>
    have hkey : s.context.employee = .int n := by rw [Context.employee, hemployee]
    rw [eval, evalEach,
      call_eq (show Builtin.ofName? "EMP_PARAM" = some .employeeParameter from rfl) rfl, hkey]
    intro journal
    exact (Sources.ends_employeeParameter hnull h).bind (fun _ ↦ rfl) _

/-! ## Amounts of formulas -/

/-- The formula is worked out to the canonical text of the number. -/
def GivesAmount (s : Surroundings) (formula : Formula) (q : ℚ) : Prop :=
  ∃ text, (formula.eval s).outcome = .ok (.text text) ∧ IsCanonicalText text q

theorem GivesAmount.outcome_eq_iff {f g : Formula} {p q : ℚ} (hf : f.GivesAmount s p)
    (hg : g.GivesAmount s q) : (f.eval s).outcome = (g.eval s).outcome ↔ p = q := by
  obtain ⟨left, hleft, hp⟩ := hf
  obtain ⟨right, hright, hq⟩ := hg
  rw [hleft, hright, Except.ok.injEq, Value.text.injEq, hp.eq_iff hq]

/-- Adding zero computes with the text of a formula and changes nothing but the places. -/
theorem givesAmount_plus_zero {text : String} (h : (formula.eval s).outcome = .ok (.text text)) :
    (binary .plus formula zero).GivesAmount s
      (Exact.cut s.places (Decimal.ofText text).toRat) := by
  have hzero : (Value.text "0").toDecimal.toRat = 0 := by decide +kernel
  refine ⟨(Decimal.addAt s.places (Decimal.ofText text) (Value.text "0").toDecimal).plain, ?_, ?_⟩
  · rw [eval_binary (by decide) (by decide), Run.outcome,
      Run.on_bind_of_ok (Prod.ext h rfl)]
    rfl
  · have hworth := Decimal.toRat_addAt s.places (Decimal.ofText text) (Value.text "0").toDecimal
    rw [hzero, add_zero] at hworth
    rw [← hworth]
    exact (Decimal.isTrimmed_scaled _ _).isCanonicalText_plain

/-! ## Group totals -/

/-- The group has the members, and nobody else is asked for its total. -/
structure HasMembers (s : Surroundings) (code : String) (members : List Value) : Prop where
  silent : Sources.Silent s.sources.collaborators.groups?
    (.groupTotal (.text code) (.map s.context.concepts))
  entry : Table.get? (.text code) s.context.groups = some (.list members)

theorem outcome_sumGroup_of_code {argument : Formula} {code : Value}
    {total : Except Fault String} (h : (argument.eval s).outcome = .ok code)
    (htotal : (s.sources.groupSum code (.map s.context.concepts) (.map s.context.groups)
      (.int s.context.scale)).Ends total) :
    ((call "SUM_GROUP" [argument]).eval s).outcome = total.map .text := by
  rw [eval, evalEach, call_eq (show Builtin.ofName? "SUM_GROUP" = some .sumGroup from rfl) rfl,
    Run.outcome, Run.on_bind_of_ok (Prod.ext h rfl), Surroundings.groupValue, Run.on_emit_bind,
    Run.outcome_on_bind, htotal]
  cases total <;> rfl

theorem outcome_sumGroup {argument : Formula} {code : String} {members : List Value}
    (hargument : (argument.eval s).outcome = .ok (.text code)) (h : HasMembers s code members) :
    ((call "SUM_GROUP" [argument]).eval s).outcome =
      (Sources.memberSum (.map s.context.concepts) (.int s.context.scale) members).map
        Surroundings.amountValue := by
  have hmembers : Sources.groupMembers (.text code) (.map s.context.groups) = .ok members := by
    rw [Sources.groupMembers_eq, h.entry]
    rfl
  rw [outcome_sumGroup_of_code hargument (Sources.ends_groupSum_of_members h.silent hmembers)]
  cases Sources.memberSum (.map s.context.concepts) (.int s.context.scale) members <;> rfl

theorem outcome_sumGroup_of_absent {argument : Formula} {code : String}
    (hargument : (argument.eval s).outcome = .ok (.text code))
    (hsilent : Sources.Silent s.sources.collaborators.groups?
      (.groupTotal (.text code) (.map s.context.concepts)))
    (habsent : Table.get? (.text code) s.context.groups = none) :
    ((call "SUM_GROUP" [argument]).eval s).outcome = .error (.groupNotFound code) := by
  rw [outcome_sumGroup_of_code hargument (Sources.ends_groupSum_of_silent _ _ hsilent),
    Sources.groupMembers_eq, habsent]
  rfl

end Formula

/-- A scale that is fine enough for a number does not cut it. -/
theorem Decimal.cut_toRat {places : ℕ} (d : Decimal) (h : d.places ≤ places) :
    Exact.cut places d.toRat = d.toRat :=
  Exact.cut_eq_self (unitsAt_eq d h).symm

/-- A value that has two names, one as a concept and one as a parameter. -/
def suppliedTwice (value : Value) (scale : ℤ) : Surroundings where
  context := { concepts := [(.text "x", value)], scale }
  sources := { parameters := [(.text "k", value)] }

theorem places_suppliedTwice (value : Value) (places : ℕ) :
    (suppliedTwice value places).places = places := rfl

theorem isNameFor_suppliedTwice (value : Value) (scale : ℤ) :
    Formula.IsNameFor (suppliedTwice value scale) value (.variable ["x"]) :=
  .concept rfl

theorem isQueryFor_suppliedTwice (value : Value) (scale : ℤ) :
    Formula.IsQueryFor (suppliedTwice value scale) value (.call "PARAM" [.text (.text "k")]) :=
  .parameter (.inr ⟨nofun, rfl⟩)

/-- Where a scalar stands as a name, adding zero gives the amount that it counts for, cut at the
scale.  Where it stands as a parameter, adding zero gives the amount that its text is read as, and
as the weight of a group's last member that amount times the member's concept is what comes to the
total of the members before it.  Names and parameters agree at every scale, and so do the amounts
themselves, exactly when the scalar is not misread. -/
theorem supplies_agree_iff_not_misread {value : Value} (hvalue : value.isScalar = true) :
    (∀ s formula, formula.IsNameFor s value →
      (Formula.binary .plus formula .zero).GivesAmount s
        (Exact.cut s.places value.toDecimal.toRat)) ∧
    (∀ s formula, formula.IsQueryFor s value →
      (Formula.binary .plus formula .zero).GivesAmount s
        (Exact.cut s.places (Decimal.ofText value.toText).toRat)) ∧
    (∀ (s : Surroundings) code front entries amount total,
      Formula.HasMembers s code (front ++ [.map entries]) →
      Sources.Weighs s.context.concepts entries value amount →
      Sources.memberSum (.map s.context.concepts) (.int s.context.scale) front = .ok total →
      ((Formula.call "SUM_GROUP" [.text (.text code)]).eval s).outcome =
        .ok (Surroundings.amountValue (total.addAt s.places
          (amount.toDecimal.mulAt s.places (Decimal.ofText value.toText))))) ∧
    ((∀ s f g, Formula.IsNameFor s value f → Formula.IsQueryFor s value g →
        ((Formula.binary .plus f .zero).eval s).outcome =
          ((Formula.binary .plus g .zero).eval s).outcome) ↔ ¬value.IsMisread) ∧
    ((Decimal.ofText value.toText).toRat = value.toDecimal.toRat ↔ ¬value.IsMisread) := by
  have hname : ∀ s formula, formula.IsNameFor s value →
      (Formula.binary .plus formula .zero).GivesAmount s
        (Exact.cut s.places value.toDecimal.toRat) := fun s formula h ↦ by
    rw [← Context.toRat_formulaText]
    exact Formula.givesAmount_plus_zero (h.ends_eval hvalue {})
  have hquery : ∀ s formula, formula.IsQueryFor s value →
      (Formula.binary .plus formula .zero).GivesAmount s
        (Exact.cut s.places (Decimal.ofText value.toText).toRat) := fun s formula h ↦
    Formula.givesAmount_plus_zero (h.ends_eval hvalue {})
  have hread := Value.toRat_ofText_toText_iff hvalue
  refine ⟨hname, hquery, ?_, ?_, hread⟩
  · intro s code front entries amount total hmembers hweighs htotal
    rw [Formula.outcome_sumGroup rfl hmembers, Sources.memberSum, List.foldlM_append]
    change (Sources.memberSum _ _ front >>= _).map _ = _
    rw [htotal]
    simp only [List.foldlM_cons, List.foldlM_nil, bind, Except.bind,
      Sources.addMember_eq hweighs (Value.isNull_of_isScalar hvalue)]
    rfl
  · rw [← hread]
    constructor
    · intro hall
      set places := max value.toDecimal.places (Decimal.ofText value.toText).places
      have hname' := hname _ _ (isNameFor_suppliedTwice value places)
      have hquery' := hquery _ _ (isQueryFor_suppliedTwice value places)
      have hcut := (hname'.outcome_eq_iff hquery').1
        (hall _ _ _ (isNameFor_suppliedTwice value places) (isQueryFor_suppliedTwice value places))
      rw [places_suppliedTwice, Decimal.cut_toRat _ (le_max_left _ _),
        Decimal.cut_toRat _ (le_max_right _ _)] at hcut
      exact hcut.symm
    · intro hsame s f g hf hg
      rw [(hname s f hf).outcome_eq_iff (hquery s g hg), hsame]

/-- A decimal that is written without an exponent counts for the same amount wherever it comes
from. -/
theorem supplies_agree_iff_not_misread_half :
    let half : Value := .decimal (.finite true 50 (-2))
    half.isScalar = true ∧ ¬half.IsMisread ∧
    (∀ s f g, Formula.IsNameFor s half f → Formula.IsQueryFor s half g →
      ((Formula.binary .plus f .zero).eval s).outcome =
        ((Formula.binary .plus g .zero).eval s).outcome) ∧
    (Decimal.ofText half.toText).toRat = half.toDecimal.toRat := by
  intro half
  have hscalar : half.isScalar = true := rfl
  have hplain : ¬half.IsMisread := by decide +kernel
  obtain ⟨-, -, -, hagree, hsame⟩ := supplies_agree_iff_not_misread hscalar
  exact ⟨hscalar, hplain, hagree.2 hplain, hsame.2 hplain⟩

/-- A double with an exponent in its text, and truth, count for other amounts as parameters. -/
theorem misread_parameters :
    let sum (formula : Formula) (value : Value) :=
      ((Formula.binary .plus formula .zero).eval (suppliedTwice value 10)).outcome
    let parameter : Formula := .call "PARAM" [.text (.text "k")]
    let large : Value := .float (.finite false 5000000000000000 1)
    sum (.variable ["x"]) large = .ok (.text "10000000000000000") ∧
      sum parameter large = .ok (.text "116") ∧
    sum (.variable ["x"]) (.bool true) = .ok (.text "1") ∧
      sum parameter (.bool true) = .ok (.text "0") :=
  ⟨rfl, rfl, rfl, rfl⟩

end PayFormula

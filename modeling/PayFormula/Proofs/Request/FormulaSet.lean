import Mathlib
import PayFormula.Proofs.Engine.Validation
import PayFormula.Proofs.Request.Checks
import PayFormula.Request.Endpoint

/-!
# Summaries of Sets

A request to validate a set spells formulas under codes.  The codes are compared as they are taken
over, without the blanks around them, and only a set of different codes is validated.  Its summary is
then that of the formulas read one by one: those that are not read are listed in their order, each
under its own code with its own fault.
-/

namespace PayFormula

/-! ## Rejected formulas -/

namespace Engine

/-- The formula is rejected with the fault, as its characters or its tokens are read. -/
inductive Rejects (settings : Settings) (source : String) : Fault → Prop where
  | tokenizer {cause : SyntaxFault} (h : tokenize source = .error cause) :
      Rejects settings source (.badSyntax cause)
  | parser {tokens : List Token} {fault : Fault} (htokens : tokenize source = .ok tokens)
      (h : Source.formula settings.depthCap settings.isStrict (.ofText tokens) = .error fault) :
      Rejects settings source fault

theorem read_text (settings : Settings) (source : String) :
    read settings (.text source) = (tokenize source).mapError Fault.badSyntax >>=
      fun tokens ↦ Source.formula settings.depthCap settings.isStrict (.ofText tokens) := by
  rw [read, Source.tokens, Source.textTokens]
  cases tokenize source <;> rfl

theorem read_eq_error_iff {settings : Settings} {source : String} {fault : Fault} :
    read settings (.text source) = .error fault ↔ Rejects settings source fault := by
  rw [read_text]
  constructor
  · intro h
    cases htokens : tokenize source with
    | error cause =>
      rw [htokens] at h
      obtain rfl := Except.error.inj h
      exact .tokenizer htokens
    | ok tokens =>
      rw [htokens] at h
      exact .parser htokens h
  · rintro (htokens | ⟨htokens, h⟩)
    · rw [htokens]
      rfl
    · rw [htokens]
      exact h

end Engine

/-! ## Definitions -/

/-- A formula of a set and its code. -/
structure Definition where
  code : String
  source : String

/-- A definition as it is validated. -/
def Definition.toValue (d : Definition) : Value :=
  .record [("formula_code", .text d.code), ("expression", .text d.source)]

namespace FormulaSetForm

/-- An item of a request spells the definition: its code stands in it with blanks around it or not,
and its formula as it is. -/
structure SpellsDefinition (item : Value) (d : Definition) : Prop where
  code : ∃ raw, Field.characters? (item.under "formula_code") = some raw ∧ d.code = Text.trim raw
  codeFilled : d.code ≠ ""
  codeLength : d.code.length ≤ greatestCodeLength
  source : Field.characters? (item.under "expression") = some d.source
  sourceFilled : item.under "expression" ≠ .text ""
  noNulls : Field.hasNull d.code = false ∧ Field.hasNull d.source = false

/-- A request spells definitions in a list of items, one in each. -/
def Spells (body : Value) (spelled : List Definition) : Prop :=
  ∃ items, body.under "formulas" = .list items ∧ List.Forall₂ SpellsDefinition items spelled

/-! ## Forms -/

theorem spellsDefinition_iff {item : Value} {d : Definition} :
    SpellsDefinition item d ↔
      Field.text true (some greatestCodeLength) (item.under "formula_code") = .ok d.code ∧
        Form.source (item.under "expression") = .ok d.source := by
  rw [Form.source, Field.text_eq_ok_iff, Field.text_eq_ok_iff, Field.textFaults_eq_nil_iff,
    Field.textFaults_eq_nil_iff]
  constructor
  · rintro ⟨⟨raw, hraw, hcode⟩, hcodeFilled, hlength, hsource, hsourceFilled, hcodeNull, hsourceNull⟩
    refine ⟨⟨fun hempty ↦ ?_, fun _ ↦ hcodeFilled, ⟨raw, hraw, hcode⟩, ?_, hcodeNull⟩,
      hsourceFilled, nofun, ⟨d.source, hsource, rfl⟩, nofun, hsourceNull⟩
    · rw [hempty] at hraw
      obtain rfl : "" = raw := Option.some.inj hraw
      exact hcodeFilled hcode
    · rintro _ ⟨⟩
      exact hlength
  · rintro ⟨⟨-, hcodeFilled, ⟨raw, hraw, hcode⟩, hlength, hcodeNull⟩, hsourceFilled, -,
      ⟨_, hsource, rfl⟩, -, hsourceNull⟩
    exact ⟨⟨raw, hraw, hcode⟩, hcodeFilled rfl, hlength _ rfl, hsource, hsourceFilled, hcodeNull,
      hsourceNull⟩

/-- An item passes exactly when it spells a definition. -/
theorem definition_eq_ok_iff {item checked : Value} :
    Field.present definition item = .ok checked ↔
      ∃ d : Definition, SpellsDefinition item d ∧ d.toValue = checked := by
  cases item with
  | map fields =>
    have hform : definition (.map fields) = Form.assemble _ _ := rfl
    rw [Field.present_eq_ok_iff, hform, Form.assemble_eq_ok_iff]
    simp only [List.forall_mem_cons, Complaint.part?_eq_none_iff]
    constructor
    · rintro ⟨-, ⟨⟨code?, hcode⟩, ⟨source?, hsource⟩, -⟩, rfl⟩
      rw [hcode, hsource]
      obtain ⟨code, hcodeText, rfl⟩ :=
        (Field.required_lookup_eq_ok_iff (Field.text_null_ne_ok _ _)).1 hcode
      obtain ⟨source, hsourceText, rfl⟩ :=
        (Field.required_lookup_eq_ok_iff (Field.text_null_ne_ok _ _)).1 hsource
      exact ⟨⟨code, source⟩, spellsDefinition_iff.2 ⟨hcodeText, hsourceText⟩, rfl⟩
    · rintro ⟨d, hd, rfl⟩
      obtain ⟨hcodeText, hsourceText⟩ := spellsDefinition_iff.1 hd
      have hcode :=
        (Field.required_lookup_eq_ok_iff (Field.text_null_ne_ok _ _)).2 ⟨_, hcodeText, rfl⟩
      have hsource :=
        (Field.required_lookup_eq_ok_iff (Field.text_null_ne_ok _ _)).2 ⟨_, hsourceText, rfl⟩
      refine ⟨rfl, ⟨⟨_, hcode⟩, ⟨_, hsource⟩, nofun⟩, ?_⟩
      rw [hcode, Form.source, hsource]
      rfl
  | _ =>
    refine ⟨nofun, fun ⟨d, hd, _⟩ ↦ ?_⟩
    nomatch hd.source

theorem definitions_eq_ok_iff {items checked : List Value} :
    definitions (.list items) = .ok checked ↔
      List.Forall₂ (fun item value ↦ Field.present definition item = .ok value) items checked := by
  have hlist : definitions (.list items) =
      Field.listOf (Field.present definition) (.list items) >>= _ := rfl
  rw [hlist]
  constructor
  · intro h
    obtain ⟨passed, hpassed, hchecked⟩ := exists_of_bind_eq_ok h
    obtain ⟨_, members, hitems, rfl, hmembers⟩ := Field.listOf_eq_ok_iff.1 hpassed
    obtain rfl := Value.list.inj hitems
    obtain rfl := Except.ok.inj hchecked
    exact hmembers
  · intro h
    rw [Field.listOf_eq_ok_iff.2 ⟨items, checked, rfl, rfl, h⟩]
    rfl

theorem allDistinct_iff {codes : List String} : allDistinct codes = true ↔ codes.Nodup := by
  induction codes with
  | nil => simp [allDistinct]
  | cons code rest ih => simp [allDistinct, ih]

/-- The definitions of a list of items, one for each. -/
theorem definitions_of_spelled {items : List Value} {spelled : List Definition}
    (h : List.Forall₂ SpellsDefinition items spelled) :
    definitions (.list items) = .ok (spelled.map Definition.toValue) := by
  rw [definitions_eq_ok_iff, List.forall₂_map_right_iff]
  exact h.imp fun item d hd ↦ definition_eq_ok_iff.2 ⟨d, hd, rfl⟩

theorem exists_spelled {items checked : List Value}
    (h : List.Forall₂ (fun item value ↦ Field.present definition item = .ok value) items checked) :
    ∃ spelled : List Definition,
      List.Forall₂ SpellsDefinition items spelled := by
  induction h with
  | nil => exact ⟨[], .nil⟩
  | cons hitem _ ih =>
    obtain ⟨d, hd, -⟩ := definition_eq_ok_iff.1 hitem
    obtain ⟨spelled, hspelled⟩ := ih
    exact ⟨d :: spelled, .cons hd hspelled⟩

/-- The complaint about a set with a code that stands twice. -/
def repeatedCode : Complaint := .parts [("formulas", .of "formula_code values must be unique")]

theorem ofValue_of_list {body : Value} {items : List Value}
    (h : body.under "formulas" = .list items) :
    ofValue body = (distinctDefinitions (.list items)).mapError fun complaint ↦
      .parts [("formulas", complaint)] := by
  cases body with
  | map fields =>
    have hvalue : Value.valueAt? "formulas" fields = some (.list items) := by
      rw [Value.under, Value.lookup] at h
      cases hvalue : Value.valueAt? "formulas" fields with
      | none => rw [hvalue] at h; cases h
      | some value => rw [hvalue] at h; exact congrArg some h
    have hform : ofValue (.map fields) =
        let formulas := Field.required (Field.present distinctDefinitions) "formulas" fields
        Form.assemble [Complaint.part? "formulas" formulas]
          ((formulas.toOption.bind id).getD []) := rfl
    rw [hform, Field.required, Field.check, hvalue]
    dsimp only [Field.present, Value.isNull, Bool.false_eq_true, if_false]
    cases distinctDefinitions (.list items) <;> rfl
  | _ => cases h

/-- Definitions are taken over when their codes are all different. -/
theorem ofValue_of_spells {body : Value} {spelled : List Definition} (h : Spells body spelled) :
    ofValue body = if (spelled.map Definition.code).Nodup then .ok (spelled.map Definition.toValue)
      else .error repeatedCode := by
  obtain ⟨items, hbody, hitems⟩ := h
  have hcodes : (spelled.map Definition.toValue).map codeOf = spelled.map Definition.code := by
    rw [List.map_map]
    rfl
  rw [ofValue_of_list hbody, distinctDefinitions, definitions_of_spelled hitems]
  simp only [bind, Except.bind, hcodes, allDistinct_iff]
  split <;> rfl

/-- What is taken over was spelled. -/
theorem exists_spells {body : Value} {checked : List Value} (h : ofValue body = .ok checked) :
    ∃ spelled, Spells body spelled := by
  obtain ⟨fields, hfields, hform⟩ := exists_of_bind_eq_ok h
  obtain ⟨hparts, -⟩ := Form.assemble_eq_ok_iff.1 hform
  obtain ⟨passed?, hpassed⟩ := Complaint.part?_eq_none_iff.1 (hparts _ List.mem_cons_self)
  have hnull : ∀ passed, Field.present distinctDefinitions .null ≠ .ok passed := nofun
  obtain ⟨passed, hpresent, -⟩ := (Field.required_lookup_eq_ok_iff hnull).1 hpassed
  rw [← Form.under_eq_lookup hfields] at hpresent
  obtain ⟨-, hdistinct⟩ := Field.present_eq_ok_iff.1 hpresent
  obtain ⟨taken, htaken, -⟩ := exists_of_bind_eq_ok hdistinct
  cases hvalue : body.under "formulas" with
  | list items =>
    rw [hvalue] at htaken
    obtain ⟨spelled, hspelled⟩ := exists_spelled (definitions_eq_ok_iff.1 htaken)
    exact ⟨spelled, items, hvalue, hspelled⟩
  | _ => rw [hvalue] at htaken; cases htaken

end FormulaSetForm

/-! ## Summaries -/

/-- The entry that a definition has in the list of failures. -/
def Definition.failure? (settings : Settings) (d : Definition) : Option (Value × Fault) :=
  formulaFailure? (.text d.code) (validate settings (.text d.source)).report

theorem Definition.failure?_eq_some_iff {settings : Settings} {d : Definition} {code : Value}
    {fault : Fault} :
    d.failure? settings = some (code, fault) ↔
      code = .text d.code ∧ Engine.Rejects settings d.source fault := by
  rw [failure?, formulaFailure?, Engine.outcome_validate, ← Engine.read_eq_error_iff]
  cases Engine.read settings (.text d.source) <;> simp [eq_comm]

/-- A formula is read alone, and its entry comes before those of the formulas after it. -/
theorem validateFormulas_cons (settings : Settings) (d : Definition) (rest : List Value) :
    (validateFormulas settings (d.toValue :: rest)).1 =
      (validateFormulas settings rest).1.map fun report ↦
        { count := report.count + 1
          failures := (d.failure? settings).toList ++ report.failures } :=
  rfl

theorem validateFormulas_map (settings : Settings) (spelled : List Definition) :
    (validateFormulas settings (spelled.map Definition.toValue)).1 =
      .ok { count := spelled.length, failures := spelled.filterMap (·.failure? settings) } := by
  induction spelled with
  | nil => rfl
  | cons d rest ih =>
    rw [List.map_cons, validateFormulas_cons, ih]
    cases hfailure : d.failure? settings with
    | none => rw [List.filterMap_cons_none hfailure]; rfl
    | some failure => rw [List.filterMap_cons_some hfailure]; rfl

/-- A report sums up the definitions: it counts them, and an entry tells of each formula that is
rejected, and of no other, under its code and with its fault.  The entries have the order of the
formulas and different codes, and what they show is what each formula is told alone. -/
structure FormulaSetReport.IsSummaryOf (report : FormulaSetReport) (settings : Settings)
    (spelled : List Definition) : Prop where
  count : report.count = spelled.length
  entry_iff : ∀ d ∈ spelled, ∀ fault,
    (.text d.code, fault) ∈ report.failures ↔ Engine.Rejects settings d.source fault
  codes : report.failures.map Prod.fst =
    (spelled.filter fun d ↦ !(Engine.read settings (.text d.source)).toBool).map (.text ·.code)
  distinct : (report.failures.map Prod.fst).Nodup
  shown : ∀ d ∈ spelled, ∀ fault, (.text d.code, fault) ∈ report.failures →
    ∀ key ∈ ["error", "error_code"], (failureValue (.text d.code) fault).field key =
      (validate settings (.text d.source)).report.toValue.field key
  isValid_iff : report.isValid = true ↔
    ∀ d ∈ spelled, ∃ formula, Engine.read settings (.text d.source) = .ok formula

theorem map_fst_filterMap_failure? (settings : Settings) (spelled : List Definition) :
    (spelled.filterMap (·.failure? settings)).map Prod.fst =
      (spelled.filter fun d ↦ !(Engine.read settings (.text d.source)).toBool).map
        (.text ·.code) := by
  rw [List.map_filterMap, ← List.filterMap_eq_map, List.filterMap_filter]
  congr 1
  funext d
  rw [Definition.failure?, formulaFailure?, Engine.outcome_validate]
  cases Engine.read settings (.text d.source) <;> rfl

theorem mem_filterMap_failure?_iff {settings : Settings} {spelled : List Definition}
    (h : (spelled.map Definition.code).Nodup) {d : Definition} (hd : d ∈ spelled) {fault : Fault} :
    (.text d.code, fault) ∈ spelled.filterMap (·.failure? settings) ↔
      Engine.Rejects settings d.source fault := by
  simp only [List.mem_filterMap, Definition.failure?_eq_some_iff, Value.text.injEq]
  constructor
  -- An entry with the code of a definition is its own, as no other one has the code.
  · rintro ⟨other, hother, hcode, hrejects⟩
    obtain rfl := List.inj_on_of_nodup_map h hd hother hcode
    exact hrejects
  · exact fun hrejects ↦ ⟨d, hd, rfl, hrejects⟩

theorem isSummaryOf_filterMap (settings : Settings) {spelled : List Definition}
    (h : (spelled.map Definition.code).Nodup) :
    FormulaSetReport.IsSummaryOf
      { count := spelled.length, failures := spelled.filterMap (·.failure? settings) } settings
        spelled where
  count := rfl
  entry_iff d hd fault := mem_filterMap_failure?_iff h hd
  codes := map_fst_filterMap_failure? settings spelled
  distinct := by
    have hcodes := (List.filter_sublist (p := fun d : Definition ↦
      !(Engine.read settings (.text d.source)).toBool) (l := spelled)).map Definition.code
    rw [map_fst_filterMap_failure?, ← Function.comp_def Value.text, ← List.map_map]
    exact (h.sublist hcodes).map fun _ _ ↦ Value.text.inj
  shown d hd fault hfault key hkey := by
    have hread := Engine.read_eq_error_iff.2 ((mem_filterMap_failure?_iff h hd).1 hfault)
    rw [ValidationReport.toValue, Engine.outcome_validate, hread]
    fin_cases hkey <;> rfl
  isValid_iff := by
    rw [FormulaSetReport.isValid, List.isEmpty_iff, List.filterMap_eq_nil_iff]
    refine forall₂_congr fun d _ ↦ ?_
    rw [Definition.failure?, formulaFailure?, Engine.outcome_validate]
    cases Engine.read settings (.text d.source) <;> simp

/-! ## Answers -/

namespace Endpoint

variable {body : Value} {spelled : List Definition}

theorem post_validateSet_of_nodup (today : Date) (settings : Settings)
    (h : FormulaSetForm.Spells body spelled) (hcodes : (spelled.map Definition.code).Nodup) :
    ∃ report : FormulaSetReport, report.IsSummaryOf settings spelled ∧
      (post today settings body .validateSet).status = 200 ∧
      (post today settings body .validateSet).data? = some (success report.toValue) := by
  have hpost : post today settings body .validateSet =
      validateDefinitions settings (spelled.map Definition.toValue) := by
    rw [post, FormulaSetForm.ofValue_of_spells h, if_pos hcodes]
  have hreport := validateFormulas_map settings spelled
  refine ⟨_, isSummaryOf_filterMap settings hcodes, ?_⟩
  rw [hpost, validateDefinitions]
  cases hvalidated : validateFormulas settings (spelled.map Definition.toValue) with
  | mk validated logs =>
    rw [hvalidated] at hreport
    obtain rfl := hreport
    exact ⟨rfl, rfl⟩

/-- A body that spells nothing that can be taken over is complained about. -/
theorem exists_post_eq_complain (today : Date) (settings : Settings)
    (h : ∀ spelled, ¬FormulaSetForm.Spells body spelled) :
    ∃ complaint, post today settings body .validateSet = complain complaint := by
  cases hform : FormulaSetForm.ofValue body with
  | ok checked =>
    obtain ⟨spelled, hspelled⟩ := FormulaSetForm.exists_spells hform
    exact absurd hspelled (h spelled)
  | error complaint => exact ⟨complaint, by rw [post, hform]⟩

end Endpoint

/-- A set of formulas with different codes is answered with its summary, in which the entry of a
formula depends on this formula alone, whatever the other formulas of the set are.  A set with a code
that stands twice, once the blanks around the codes are gone, is refused with one complaint before any
formula is read, and so are bodies that spell no set. -/
theorem set_summary_is_exact (today : Date) (settings : Settings) (body : Value) :
    (∀ spelled, FormulaSetForm.Spells body spelled → (spelled.map Definition.code).Nodup →
      ∃ report : FormulaSetReport, report.IsSummaryOf settings spelled ∧
        (Endpoint.post today settings body .validateSet).status = 200 ∧
        (Endpoint.post today settings body .validateSet).data? =
          some (Endpoint.success report.toValue) ∧
        ∀ others other, FormulaSetReport.IsSummaryOf other settings others →
          ∀ d ∈ spelled, d ∈ others → ∀ fault,
            (.text d.code, fault) ∈ report.failures ↔ (.text d.code, fault) ∈ other.failures) ∧
    (∀ spelled, FormulaSetForm.Spells body spelled → ¬(spelled.map Definition.code).Nodup →
      Endpoint.post today settings body .validateSet =
        Endpoint.complain FormulaSetForm.repeatedCode) ∧
    ((∀ spelled, ¬FormulaSetForm.Spells body spelled) →
      ∃ complaint, Endpoint.post today settings body .validateSet =
        Endpoint.complain complaint) := by
  refine ⟨fun spelled hspelled hcodes ↦ ?_, fun spelled hspelled hcodes ↦ ?_,
    Endpoint.exists_post_eq_complain today settings⟩
  · obtain ⟨report, hreport, hstatus, hdata⟩ :=
      Endpoint.post_validateSet_of_nodup today settings hspelled hcodes
    refine ⟨report, hreport, hstatus, hdata, fun others other hother d hd hdOther fault ↦ ?_⟩
    rw [hreport.entry_iff d hd, hother.entry_iff d hdOther]
  · rw [Endpoint.post, FormulaSetForm.ofValue_of_spells hspelled, if_neg hcodes]

/-- A request to validate formulas under codes. -/
def setRequest (formulas : List (String × String)) : Value :=
  .record [("formulas", .list (formulas.map fun (code, source) ↦
    .record [("formula_code", .text code), ("expression", .text source)]))]

theorem spells_setRequest {formulas : List (String × String)}
    (h : ∀ formula ∈ formulas, (Text.trim formula.1 ≠ "" ∧
      (Text.trim formula.1).length ≤ FormulaSetForm.greatestCodeLength ∧ formula.2 ≠ "") ∧
        Field.hasNull (Text.trim formula.1) = false ∧ Field.hasNull formula.2 = false) :
    FormulaSetForm.Spells (setRequest formulas)
      (formulas.map fun (code, source) ↦ ⟨Text.trim code, source⟩) := by
  refine ⟨_, rfl, ?_⟩
  rw [List.forall₂_map_left_iff, List.forall₂_map_right_iff, List.forall₂_same]
  intro formula hformula
  obtain ⟨⟨hcode, hlength, hsource⟩, hnulls⟩ := h formula hformula
  exact ⟨⟨formula.1, rfl, rfl⟩, hcode, hlength, rfl, fun hempty ↦ hsource (Value.text.inj hempty),
    hnulls⟩

/-- Of three formulas one has a token too few and one a character too many.  A code with a blank
around it stands twice once that is gone. -/
theorem set_summary_is_exact_gross :
    (∃ report : FormulaSetReport,
      (Endpoint.post default {} (setRequest [(" GROSS ", "base + bonus"), ("NET", "(1"),
        ("TAX", "1 ? 2")]) .validateSet).data? = some (Endpoint.success report.toValue) ∧
      report.failures.map Prod.fst = [.text "NET", .text "TAX"] ∧ report.isValid = false) ∧
    Endpoint.post default {} (setRequest [("GROSS", "1"), ("GROSS ", "2")]) .validateSet =
      Endpoint.complain FormulaSetForm.repeatedCode := by
  have hmixed := spells_setRequest
    (show ∀ formula ∈ [(" GROSS ", "base + bonus"), ("NET", "(1"), ("TAX", "1 ? 2")], _ by
      decide +kernel)
  have hrepeated := spells_setRequest
    (show ∀ formula ∈ [("GROSS", "1"), ("GROSS ", "2")], _ by decide +kernel)
  constructor
  · obtain ⟨report, hreport, -, hdata, -⟩ :=
      (set_summary_is_exact default {} _).1 _ hmixed (by decide +kernel)
    have hcodes : report.failures.map Prod.fst = [.text "NET", .text "TAX"] :=
      hreport.codes.trans rfl
    refine ⟨report, hdata, hcodes, ?_⟩
    rw [FormulaSetReport.isValid, List.isEmpty_eq_false_iff]
    exact fun hempty ↦ by simp [hempty] at hcodes
  · exact (set_summary_is_exact default {} _).2.1 _ hrepeated (by decide +kernel)

end PayFormula

import PayFormula.Request.Field

/-!
# Forms

The three forms of request: evaluate a formula, validate one, validate a set.  A form is checked
field by field and all complaints are collected.  Two rules go beyond single fields: every member
of a group names its concept, and the codes of a set are all different.
-/

namespace PayFormula

namespace Form

/-- The fields of a form, which has to be a mapping.  A request without a body is an empty form. -/
def fields (value : Value) : Checked (List (Value × Value)) :=
  match value with
  | .map body => .ok body
  | .null => .ok []
  | value => .error (.ofWhole s!"Invalid data. Expected a dictionary, but got {value.typeName}.")

/-- The value of a checked field, null when it was left out. -/
def taken {α : Type} (toValue : α → Value) (checked : Checked (Option α)) : Value :=
  match checked with
  | .ok (some a) => toValue a
  | _ => .null

/-- The complaints about fields, and otherwise the form that they make. -/
def assemble {α : Type} (complaints : List (Option (String × Complaint))) (form : α) : Checked α :=
  Complaint.settle (complaints.filterMap id) form

/-! ## Contexts -/

/-- A member of a group without a concept. -/
def lacksConcept : Value → Bool
  | .map member => !(Value.lookup "concept_code" member).isTruthy
  | _ => true

/-- The first group with a member that lacks its concept. -/
def faultyGroup? : List (Value × Value) → Option String
  | [] => none
  | (code, .list members) :: rest =>
    if members.any lacksConcept then some code.toText else faultyGroup? rest
  | _ :: rest => faultyGroup? rest

/-- Groups of members, each of which names its concept. -/
def groups (value : Value) : Checked Value := do
  let checked ← Field.mapping
    (Field.present (Field.listOf (Field.present Field.anyMapping))) value
  match checked with
  | .map pairs =>
    match faultyGroup? pairs with
    | some code => .error (.of s!"Group '{code}' has a member without concept_code")
    | none => return checked
  | _ => return checked

/-- An employee's number, which may be null. -/
def employee (value : Value) : Checked Value :=
  if value.isNull then .ok .null else (Field.integer value).map .int

def context (value : Value) : Checked Value := do
  let body ← fields value
  let date := Field.optional (Field.present Field.date) "date" body
  let employee := Field.optional employee "employee_id" body
  let bindings := Field.optional (Field.present Field.anyMapping) "variables" body
  let concepts := Field.optional (Field.present Field.anyMapping) "concepts" body
  let groups := Field.optional (Field.present groups) "groups" body
  assemble
    [Complaint.part? "date" date, Complaint.part? "employee_id" employee,
      Complaint.part? "variables" bindings, Complaint.part? "concepts" concepts,
      Complaint.part? "groups" groups]
    (.record [("date", taken .date date), ("employee_id", taken id employee),
      ("variables", taken id bindings), ("concepts", taken id concepts),
      ("groups", taken id groups)])

/-- The text of a formula, blanks included. -/
def source : Value → Checked String := Field.text false none

end Form

/-! ## Evaluating -/

/-- A request to evaluate a formula. -/
structure EvaluationForm where
  source : Value
  context : Value
  parameters : Value
  employeeParameters : Value
  scale : Value

namespace EvaluationForm

/-- The largest scale that a request may ask for. -/
def greatestScale : Int := 50

def ofValue (value : Value) : Checked EvaluationForm := do
  let body ← Form.fields value
  let source := Field.required Form.source "expression" body
  let context := Field.optional (Field.present Form.context) "context" body
  let parameters := Field.optional (Field.present Field.anyMapping) "params" body
  let employeeParameters :=
    Field.optional (Field.present (Field.mapping (Field.present Field.anyMapping)))
      "employee_params" body
  let scale :=
    Field.optional (Field.present (Field.integerBetween 0 greatestScale)) "scale" body
  Form.assemble
    [Complaint.part? "expression" source, Complaint.part? "context" context,
      Complaint.part? "params" parameters, Complaint.part? "employee_params" employeeParameters,
      Complaint.part? "scale" scale]
    { source := Form.taken .text source
      context := Form.taken id context
      parameters := Form.taken id parameters
      employeeParameters := Form.taken id employeeParameters
      scale := Form.taken .int scale }

end EvaluationForm

/-! ## Validating -/

/-- The formula of a request to validate one. -/
def validationForm (value : Value) : Checked Value := do
  let body ← Form.fields value
  let source := Field.required Form.source "expression" body
  Form.assemble [Complaint.part? "expression" source] (Form.taken .text source)

namespace FormulaSetForm

/-- The longest code that a formula of a set may have. -/
def greatestCodeLength : Nat := 64

/-- A formula of a set with its code. -/
def definition (value : Value) : Checked Value := do
  let body ← Form.fields value
  let code := Field.required (Field.text true (some greatestCodeLength)) "formula_code" body
  let source := Field.required Form.source "expression" body
  Form.assemble [Complaint.part? "formula_code" code, Complaint.part? "expression" source]
    (.record [("formula_code", Form.taken .text code), ("expression", Form.taken .text source)])

/-- A list of formulas; what is no list is a complaint about the list as a whole. -/
def definitions (value : Value) : Checked (List Value) := do
  match value with
  | .list _ =>
    match ← Field.listOf (Field.present definition) value with
    | .list items => return items
    | _ => return []
  | value =>
    .error (.ofWhole s!"Expected a list of items but got type \"{value.typeName}\".")

/-- The code of a checked formula. -/
def codeOf : Value → String
  | .map fields => (Value.lookup "formula_code" fields).toText
  | _ => ""

/-- No text stands twice in a list. -/
def allDistinct : List String → Bool
  | [] => true
  | s :: rest => !rest.contains s && allDistinct rest

/-- Formulas with codes that are all different. -/
def distinctDefinitions (value : Value) : Checked (List Value) := do
  let items ← definitions value
  if allDistinct (items.map codeOf) then return items
  else .error (.of "formula_code values must be unique")

/-- The formulas of a request to validate a set. -/
def ofValue (value : Value) : Checked (List Value) := do
  let body ← Form.fields value
  let formulas := Field.required (Field.present distinctDefinitions) "formulas" body
  Form.assemble [Complaint.part? "formulas" formulas] ((formulas.toOption.bind id).getD [])

end FormulaSetForm

end PayFormula

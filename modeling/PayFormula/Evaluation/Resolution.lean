import PayFormula.Amount.Scale
import PayFormula.Evaluation.Run
import PayFormula.Signature
import PayFormula.Text.Case

/-!
# Resolution of Parameters and Groups

A parameter is asked of a collaborator first; when there is none, or it has no answer, a map that
came with the evaluation is looked up.  A group total is asked for in the same way and otherwise
summed from the group's members.  Each resolution that succeeds is recorded by one event, and one
that fails is not recorded.

Formulas ask with texts.  Other callers may ask with any value: it is looked up as it is and shown
as its text.
-/

namespace PayFormula

/-- Where parameters and group totals come from. -/
structure Sources where
  collaborators : Collaborators := {}
  parameters : List (Value × Value) := []
  employeeParameters : Table Value (List (Value × Value)) := []

namespace Sources

/-! ## Building -/

/-- Employees are known by number where their key reads as one. -/
def employeeKey (key : Value) : Except Fault Value :=
  match key.toCount with
  | .ok n => .ok (.int n)
  | .error cause => if cause.isOutOfRange then badData (.notACount cause) else .ok key

def employeeTable : List (Value × Value) → Except Fault (List (Value × List (Value × Value)))
  | [] => .ok []
  | (key, values) :: rest => do
    let key ← employeeKey key
    let values ← values.orEmpty.entriesOf
    return (key, values) :: (← employeeTable rest)

def build (collaborators : Collaborators) (parameters employeeParameters : Value) :
    Except Fault Sources := do
  let parameters ← parameters.orEmpty.entriesOf
  let entries ← employeeParameters.orEmpty.mappingEntries "items"
  let employeeParameters ← employeeTable entries
  return { collaborators, parameters, employeeParameters := Table.ofPairs employeeParameters }

/-! ## Asking -/

/-- The answer of a collaborator as text, if there is a collaborator and it has one. -/
def ask (collaborator? : Option Collaborator) (inquiry : Inquiry) : Run (Option String) :=
  match collaborator? with
  | none => return none
  | some collaborator => do
    let answer ← Run.inquire collaborator inquiry
    return if answer.isNull then none else some answer.toText

/-- A value of a map as text, unless it is null. -/
def static? (key : Value) (entries : List (Value × Value)) : Option String :=
  match Table.get? key entries with
  | none | some .null => none
  | some value => some value.toText

def parameter (sources : Sources) (key date : Value) : Run String := do
  match ← ask sources.collaborators.parameters? (.parameter key date) with
  | some value =>
    Run.ofExcept key.checkKey
    Run.emit (.parameterRead .collaborator key value date)
    return value
  | none =>
    Run.ofExcept key.checkKey
    match static? key sources.parameters with
    | some value =>
      Run.emit (.parameterRead .static key value date)
      return value
    | none => Run.fail (.parameterNotFound key.toText date)

def employeeParameter (sources : Sources) (key employee date : Value) : Run String := do
  if employee.isNull then Run.fail (.noEmployee key.toText date)
  else
    let inquiry := Inquiry.employeeParameter key employee date
    match ← ask sources.collaborators.employeeParameters? inquiry with
    | some value =>
      Run.ofExcept key.checkKey
      Run.emit (.employeeParameterRead .collaborator key value employee date)
      return value
    | none =>
      Run.ofExcept employee.checkKey
      Run.ofExcept key.checkKey
      match static? key ((Table.get? employee sources.employeeParameters).getD []) with
      | some value =>
        Run.emit (.employeeParameterRead .static key value employee date)
        return value
      | none => Run.fail (.employeeParameterNotFound key.toText employee date)

/-! ## Groups -/

/-- The key of the concept that a member of a group counts, in lower case. -/
def memberConcept (member : Value) : Except Fault String := do
  return Text.lower (← member.field "concept_code").toText

/-- The weight of a member; no weight counts as one. -/
def memberWeight : Value → Decimal
  | .map entries =>
    let weight := Value.lookup "weight" entries
    if weight.isNull then 1 else Decimal.ofText weight.toText
  | _ => 1

/-- `total` with one member counted, if the member's concept is there. -/
def addMember (concepts scale : Value) (total : Decimal) (member : Value) :
    Except Fault Decimal := do
  let concept := Value.text (← memberConcept member)
  if ← concepts.holds concept then
    let value ← concepts.entryAt concept
    let places ← Amount.cutPlaces scale
    return total.addAt places (value.toDecimal.mulAt places (memberWeight member))
  else return total

/-- The weighted sum of a group's members. -/
def memberSum (concepts scale : Value) (members : List Value) : Except Fault Decimal :=
  members.foldlM (addMember concepts scale) 0

/-- The members of the group with a code. -/
def groupMembers (code groups : Value) : Except Fault (List Value) := do
  if ← groups.holds code then (← groups.entryAt code).members
  else .error (.groupNotFound code.toText)

def groupSum (sources : Sources) (code concepts groups scale : Value) : Run String := do
  match ← ask sources.collaborators.groups? (.groupTotal code concepts) with
  | some total =>
    Run.emit (.groupSummed code.toText total)
    return total
  | none =>
    let members ← Run.ofExcept (groupMembers code groups)
    let total ← Run.ofExcept (memberSum concepts scale members)
    Run.emit (.groupSummed code.toText total.plain)
    return total.plain

/-! ## Questions put together at run time -/

inductive Question where
  | parameter
  | employeeParameter
  | groupSum
  deriving DecidableEq, Repr

namespace Question

def name : Question → String
  | parameter => "param"
  | employeeParameter => "employee_param"
  | groupSum => "group_sum"

def signature : Question → Signature
  | parameter => ⟨"Resolver.param", .listed ["key", "date"] [], 1⟩
  | employeeParameter => ⟨"Resolver.employee_param", .listed ["key", "employee_id", "date"] [], 1⟩
  | groupSum => ⟨"Resolver.group_sum", .listed ["code", "concepts", "groups", "scale"] [], 1⟩

def all : List Question := [parameter, employeeParameter, groupSum]

def ofName? (name : String) : Option Question := all.find? (·.name == name)

end Question

/-- The answer to a question with the arguments given for it. -/
def answer (sources : Sources) (question : Question) (given : List Value) : Run String := do
  let values ← Run.ofExcept (question.signature.arguments given [])
  let value := Signature.argument values
  match question with
  | .parameter => sources.parameter (value 0) (value 1)
  | .employeeParameter => sources.employeeParameter (value 0) (value 1) (value 2)
  | .groupSum => sources.groupSum (value 0) (value 1) (value 2) (value 3)

end Sources

end PayFormula

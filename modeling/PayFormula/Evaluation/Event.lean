import PayFormula.Evaluation.Inquiry
import PayFormula.Formula.Dependencies
import PayFormula.Table

/-!
# Events of a Run

What happens while a formula runs, one thing after another.  Some events leave a line in the trace
or an entry in the ledger of parameters used; others leave neither: an inquiry, a lookup that
begins, a parameter that arrives.
-/

namespace PayFormula

/-- Where the value of a parameter came from. -/
inductive Origin where
  | collaborator
  | static
  deriving DecidableEq, Repr

/-- An entry of the ledger: the value of a parameter, the date it was asked for and, for a
parameter of an employee, whose it is. -/
structure Usage where
  value : String
  date : Value
  employee? : Option Value
  deriving Repr

/-- The last usage of each key.  Keys are told apart as values: a number and the text that spells
it are two keys. -/
abbrev Ledger := Table Value Usage

inductive Event where
  | inquired (inquiry : Inquiry)
  /-- A formula begins to look up a key, whatever comes of it. -/
  | sought (kind : Formula.KeyedCall) (key : Value)
  /-- A formula is given the parameter that it has looked up. -/
  | resolved (key : Value) (usage : Usage)
  | variableRead (key value : String)
  | parameterRead (origin : Origin) (key : Value) (value : String) (date : Value)
  | employeeParameterRead (origin : Origin) (key : Value) (value : String) (employee date : Value)
  | groupSummed (code total : String)
  | countryTaxed (tax : CountryTax) (shown amount rate : String)
  | tiersApplied (base mode amount : String)
  deriving Repr

namespace Event

/-- The line that an event leaves in the trace. -/
def traceLine? : Event → Option String
  | inquired _ | sought .. | resolved .. => none
  | variableRead key value => some s!"VAR[{key}] = {value}"
  | parameterRead .collaborator key value date =>
    some s!"PARAM[{key.toText}, {date.toText}] = {value}"
  | parameterRead .static key value _ => some s!"PARAM[{key.toText}] = {value} (static)"
  | employeeParameterRead .collaborator key value employee date =>
    some s!"EMP_PARAM[{key.toText}, {employee.toText}, {date.toText}] = {value}"
  | employeeParameterRead .static key value employee _ =>
    some s!"EMP_PARAM[{key.toText}, {employee.toText}] = {value} (static)"
  | groupSummed code total => some s!"SUM_GROUP[{code}] = {total}"
  | countryTaxed tax shown amount rate =>
    some s!"{tax.functionName}({shown}) = {amount} (rate: {rate})"
  | tiersApplied base mode amount => some s!"TIER_CALC({base}, mode={mode}) = {amount}"

/-- The entry that an event leaves in the ledger. -/
def usage? : Event → Option (Value × Usage)
  | parameterRead _ key value date => some (key, ⟨value, date, none⟩)
  | employeeParameterRead _ key value employee date => some (key, ⟨value, date, some employee⟩)
  | _ => none

def inquiry? : Event → Option Inquiry
  | inquired inquiry => some inquiry
  | _ => none

end Event

def inquiriesOf (events : List Event) : List Inquiry := events.filterMap Event.inquiry?

namespace Usage

/-- Parameters are global or belong to an employee. -/
def scope (usage : Usage) : String := if usage.employee?.isSome then "EMPLOYEE" else "GLOBAL"

def toValue (usage : Usage) : Value :=
  .record ([("value", .text usage.value), ("date", usage.date), ("scope", .text usage.scope)] ++
    (usage.employee?.map ("employee_id", ·)).toList)

end Usage

def Ledger.toValue (ledger : Ledger) : Value :=
  .map (ledger.map fun (key, usage) ↦ (key, usage.toValue))

end PayFormula

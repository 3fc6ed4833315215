import PayFormula.Value.Shape

/-!
# Inquiries to Collaborators

Parameters, group totals and taxes are not looked up here: collaborators are asked for them.  An
inquiry says who is asked and what for.  A collaborator need not give the same answer whenever it is
asked: what it answers may depend on everything that was asked before.  A caller may leave any
collaborator out.
-/

namespace PayFormula

/-- The progressive taxes that formulas know by country. -/
inductive CountryTax where
  | chileanIncome
  | brazilianSocialSecurity
  | brazilianIncome
  deriving DecidableEq, Repr

namespace CountryTax

def functionName : CountryTax → String
  | chileanIncome => "CL_IMPUESTO_UNICO"
  | brazilianSocialSecurity => "BR_INSS_PROGRESSIVO"
  | brazilianIncome => "BR_IRRF_PROGRESSIVO"

/-- The name under which a collaborator is asked for the tax. -/
def methodName : CountryTax → String
  | chileanIncome => "chile_impuesto_unico"
  | brazilianSocialSecurity => "brazil_inss_progressivo"
  | brazilianIncome => "brazil_irrf_progressivo"

/-- The Chilean tax is counted in a unit whose value is a second amount. -/
def arity : CountryTax → Nat
  | chileanIncome => 2
  | _ => 1

def all : List CountryTax := [chileanIncome, brazilianSocialSecurity, brazilianIncome]

end CountryTax

inductive Inquiry where
  | parameter (key date : Value)
  | employeeParameter (key employee date : Value)
  | groupTotal (code concepts : Value)
  | tiers (base : Value) (table : List Value) (mode : String)
  | countryTax (tax : CountryTax) (amounts : List Value) (date : String)
  deriving Repr

namespace Inquiry

def name : Inquiry → String
  | parameter .. => "param_resolver"
  | employeeParameter .. => "emp_param_resolver"
  | groupTotal .. => "group_resolver"
  | tiers .. => "calculate"
  | countryTax tax _ _ => tax.methodName

def arguments : Inquiry → List Value
  | parameter key date => [key, date]
  | employeeParameter key employee date => [key, employee, date]
  | groupTotal code concepts => [code, concepts]
  | tiers base table mode => [base, .list table, .text mode]
  | countryTax _ amounts date => amounts ++ [.text date]

/-- The inquiry as a document: the name and the arguments. -/
def toValue (inquiry : Inquiry) : Value := .list (.text inquiry.name :: inquiry.arguments)

end Inquiry

/-- What answers inquiries, given those that were made before, to whomever they were made. -/
abbrev Collaborator := List Inquiry → Inquiry → Except Fault Value

/-- What a collaborator has become after some inquiries. -/
def Collaborator.after (past : List Inquiry) (collaborator : Collaborator) : Collaborator :=
  fun later inquiry ↦ collaborator (past ++ later) inquiry

structure Collaborators where
  parameters? : Option Collaborator := none
  employeeParameters? : Option Collaborator := none
  groups? : Option Collaborator := none
  taxes? : Option Collaborator := none

namespace Collaborators

def after (past : List Inquiry) (collaborators : Collaborators) : Collaborators where
  parameters? := collaborators.parameters?.map (.after past)
  employeeParameters? := collaborators.employeeParameters?.map (.after past)
  groups? := collaborators.groups?.map (.after past)
  taxes? := collaborators.taxes?.map (.after past)

/-- Every collaborator of `preferred`, and those of `others` that it leaves out. -/
def orElse (preferred others : Collaborators) : Collaborators where
  parameters? := preferred.parameters? <|> others.parameters?
  employeeParameters? := preferred.employeeParameters? <|> others.employeeParameters?
  groups? := preferred.groups? <|> others.groups?
  taxes? := preferred.taxes? <|> others.taxes?

end Collaborators

/-! ## Answers from a table -/

/-- A collaborator that answers from a table, always in the same way: the first row whose leading
arguments are those of the inquiry gives the answer, and a default stands in for a missing row.  It
may also refuse every inquiry or break down. -/
structure AnswerTable where
  rows : List (List Value × Value) := []
  otherwise : Value := .null
  breakdown? : Option String := none
  refusal? : Option (String × Option String) := none

namespace AnswerTable

/-- The arguments start with the given ones. -/
def startsWith (arguments leading : List Value) : Bool :=
  Value.list (arguments.take leading.length) == .list leading

def answer (table : AnswerTable) : Collaborator := fun _ inquiry ↦
  match table.breakdown?, table.refusal? with
  | some message, _ => .error (.collaboratorFailed message)
  | none, some (message, code?) => .error (.refused message code?)
  | none, none =>
    let row? := table.rows.find? fun (leading, _) ↦ startsWith inquiry.arguments leading
    .ok ((row?.map (·.2)).getD table.otherwise)

end AnswerTable

end PayFormula

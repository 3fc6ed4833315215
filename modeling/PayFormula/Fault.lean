import PayFormula.Formula.SyntaxFault
import PayFormula.Value.DataFault

/-!
# Faults

Everything that can stop the work on a formula.  Faults of the formula carry a code that callers
act on; the others come from data of the wrong shape and from collaborators that break down.  Each
cause is a constructor, and `message` alone decides how it is worded.
-/

namespace PayFormula

/-- The codes of the faults of a formula. -/
inductive FaultCode where
  | syntaxError
  | undefinedVariable
  | undefinedFunction
  | divisionByZero
  | parameterNotFound
  deriving DecidableEq, Repr

namespace FaultCode

def label : FaultCode → String
  | syntaxError => "SYNTAX_ERROR"
  | undefinedVariable => "UNDEFINED_VARIABLE"
  | undefinedFunction => "UNDEFINED_FUNCTION"
  | divisionByZero => "DIVISION_BY_ZERO"
  | parameterNotFound => "PARAM_NOT_FOUND"

end FaultCode

inductive Fault where
  -- the text of the formula
  | badSyntax (cause : SyntaxFault)
  | wrongArity (name expected : String) (count : Nat)
  | precisionTooLarge (name : String) (precision limit : Int)
  -- the tree
  | missingNode
  | unsupportedUnary (symbol : String)
  | unsupportedBinary (symbol : String)
  | unknownFunction (name : String)
  -- what the formula reads
  | undefinedVariable (key : String)
  | notAValue (key : String)
  | parameterNotFound (key : String) (date : Value)
  | noEmployee (key : String) (date : Value)
  | employeeParameterNotFound (key : String) (employee date : Value)
  | groupNotFound (code : String)
  | noTierCalculator (name : String)
  | invalidTiers
  | divisionByZero (left right : String)
  /-- A collaborator refuses, with a code of its own if it has one. -/
  | refused (message : String) (code? : Option String)
  -- data and collaborators
  | collaboratorFailed (message : String)
  | zeroDivisor
  | unknownSetting (name : String)
  | badData (cause : DataFault)
  deriving Repr

namespace Fault

/-- The code of a fault of the formula; other faults have none. -/
def code? : Fault → Option String
  | badSyntax _ | wrongArity .. | precisionTooLarge .. | missingNode | unsupportedUnary _
  | unsupportedBinary _ | groupNotFound _ | invalidTiers => some FaultCode.syntaxError.label
  | unknownFunction _ | noTierCalculator _ => some FaultCode.undefinedFunction.label
  | undefinedVariable _ | notAValue _ => some FaultCode.undefinedVariable.label
  | parameterNotFound .. | noEmployee .. | employeeParameterNotFound .. =>
    some FaultCode.parameterNotFound.label
  | divisionByZero .. => some FaultCode.divisionByZero.label
  | refused _ code? => some (code?.getD FaultCode.syntaxError.label)
  | _ => none

/-- The code under which a caller is told of a fault: unforeseen ones count as faults of syntax. -/
def reportedCode (fault : Fault) : String := fault.code?.getD FaultCode.syntaxError.label

def message : Fault → String
  | badSyntax cause => cause.message
  | wrongArity name expected count => s!"{name} expects {expected} arguments, got {count}"
  | precisionTooLarge name precision limit =>
    s!"{name} precision {precision} exceeds the maximum of {limit}"
  | missingNode => "Invalid AST node None"
  | unsupportedUnary symbol => s!"Unsupported unary operator {symbol}"
  | unsupportedBinary symbol => s!"Unsupported operator {symbol}"
  | unknownFunction name => s!"Unknown function: {name}"
  | undefinedVariable key => s!"Undefined variable: {key}"
  | notAValue key => s!"Variable {key} does not resolve to a value"
  | parameterNotFound key date => s!"Parameter not found: {key} for date {date.toText}"
  | noEmployee key date =>
    s!"Employee parameter not found: {key} (no employee in context), date {date.toText}"
  | employeeParameterNotFound key employee date =>
    s!"Employee parameter not found: {key} for employee {employee.toText}, date {date.toText}"
  | groupNotFound code => s!"Group not found: {code}"
  | noTierCalculator name => s!"{name} requires a tier calculator, none is configured"
  | invalidTiers => "TIER_CALC: Invalid tiers JSON"
  | divisionByZero left right => s!"Division by zero: {left} / {right}"
  | refused message _ => message
  | collaboratorFailed message => message
  | zeroDivisor => "Division by zero"
  | unknownSetting name => Text.quoted ("Unknown formula engine setting '" ++ name ++ "'")
  | badData cause => cause.message

end Fault

/-- Stop with a fault of data. -/
def badData {α : Type} (cause : DataFault) : Except Fault α := .error (.badData cause)

end PayFormula

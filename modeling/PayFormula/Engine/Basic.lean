import PayFormula.Engine.Source
import PayFormula.Evaluation.Evaluator
import PayFormula.Formula.Dependencies

/-!
# The Engine

An engine takes formulas through reading and evaluation and keeps three things that a caller may
look at between steps: the stage it has reached, the trace and the ledger of parameters used.  An
evaluation goes on writing into the trace and the ledger as earlier steps have left them.

A step answers with a report, and with the inquiries made and the lines logged on the way.
Evaluating and validating never fail as such: every fault becomes part of the report.
-/

namespace PayFormula

inductive Stage where
  | unstarted
  | tokenizing
  | parsing
  | evaluating
  | done
  | error
  deriving DecidableEq, Repr

namespace Stage

def label : Stage → String
  | unstarted => "unstarted"
  | tokenizing => "tokenizing"
  | parsing => "parsing"
  | evaluating => "evaluating"
  | done => "done"
  | error => "error"

end Stage

/-! ## Logging -/

inductive LogLevel where
  | debug
  | info
  | error
  deriving DecidableEq, Repr

namespace LogLevel

def label : LogLevel → String
  | debug => "DEBUG"
  | info => "INFO"
  | error => "ERROR"

end LogLevel

structure LogLine where
  level : LogLevel
  message : String
  deriving DecidableEq, Repr

/-! ## Reports -/

/-- What a caller learns of an evaluation. -/
structure EvaluationReport where
  source : Value
  outcome : Except Fault Value
  trace : List String
  ledger : Ledger

/-- The version that reports of successful evaluations carry. -/
def engineVersion : String := "1.1.0"

namespace EvaluationReport

def succeeded (report : EvaluationReport) : Bool := report.outcome.toBool

def toValue (report : EvaluationReport) : Value :=
  let result : List (String × Value) :=
    match report.outcome with
    | .ok value =>
      [("success", .bool true), ("value", value), ("engine_version", .text engineVersion)]
    | .error fault =>
      [("success", .bool false), ("error", .text fault.message),
       ("error_code", .text fault.reportedCode)]
  .record (result ++
    [("expression", report.source), ("trace", .list (report.trace.map .text)),
     ("params_used", report.ledger.toValue)])

end EvaluationReport

/-- What a caller learns of a validation: the tree, or why there is none. -/
structure ValidationReport where
  outcome : Except Fault Formula

namespace ValidationReport

def isValid (report : ValidationReport) : Bool := report.outcome.toBool

def toValue (report : ValidationReport) : Value :=
  match report.outcome with
  | .ok formula =>
    .record [("valid", .bool true), ("ast", formula.toValue),
      ("dependencies", (Dependencies.ofFormula formula).toValue)]
  | .error fault =>
    .record [("valid", .bool false), ("error", .text fault.message),
      ("error_code", .text fault.reportedCode)]

end ValidationReport

/-! ## Engines -/

structure Engine where
  stage : Stage := .unstarted
  trace : List String := []
  ledger : Ledger := []

/-- What one evaluation is given besides its context. -/
structure Options where
  scale : Value := .null
  parameters : Value := .null
  employeeParameters : Value := .null
  collaborators : Collaborators := {}

/-- A report with what was seen on the way to it. -/
structure Observed (α : Type) where
  report : α
  inquiries : List Inquiry := []
  logs : List LogLine := []

namespace Engine

/-- The journal of an evaluation that begins: nothing has happened in it yet. -/
def journal (engine : Engine) : Journal := { trace := engine.trace, ledger := engine.ledger }

/-- Read a formula.  The stage tells how far the reading came. -/
def parse (settings : Settings) (source : Value) (engine : Engine) :
    Engine × Except Fault Formula :=
  match Source.tokens source with
  | .error fault => ({ engine with stage := .tokenizing }, .error fault)
  | .ok tokens =>
    ({ engine with stage := .parsing },
      Source.formula settings.depthCap settings.isStrict tokens)

/-- The context and the sources that an evaluation is given. -/
def surroundings (today : Date) (settings : Settings) (context : Value) (options : Options) :
    Except Fault Surroundings := do
  let scale := if options.scale.isNull then settings.scale else options.scale
  let context ← Context.ofValue today context scale settings.precisionLimit
  let sources ← Sources.build options.collaborators options.parameters options.employeeParameters
  return { context, sources }

/-- The run of a formula's source: nothing happens before the formula is read. -/
def run (today : Date) (settings : Settings) (source context : Value) (options : Options) :
    Run Value := do
  let surroundings ← Run.ofExcept (surroundings today settings context options)
  let tokens ← Run.ofExcept (Source.tokens source)
  let formula ← Run.ofExcept (Source.formula settings.depthCap settings.isStrict tokens)
  formula.eval surroundings

/-- How a failed evaluation is logged: faults of the formula are everyday matters. -/
def evaluationLog (source : Value) (fault : Fault) : LogLine :=
  match fault.code? with
  | some code =>
    ⟨.debug, s!"Formula evaluation error ({code}): {fault.message} for formula: {source.toText}"⟩
  | none =>
    ⟨.error, s!"Unexpected error evaluating formula {source.literal}: {fault.message}"⟩

def evaluate (today : Date) (settings : Settings) (source context : Value) (options : Options)
    (engine : Engine) : Engine × Observed EvaluationReport :=
  let (outcome, journal) := (run today settings source context options).on engine.journal
  let (stage, logs) : Stage × List LogLine := match outcome with
    | .ok _ => (.done, [])
    | .error fault => (.error, [evaluationLog source fault])
  let { trace, ledger, .. } := journal
  ({ stage, trace, ledger },
    { report := { source, outcome, trace, ledger }, inquiries := journal.inquiries, logs })

/-- How a failed validation is logged: only what is no fault of the formula. -/
def validationLog (source : Value) (fault : Fault) : List LogLine :=
  match fault.code? with
  | some _ => []
  | none => [⟨.error, s!"Unexpected error validating formula {source.literal}: {fault.message}"⟩]

def validate (settings : Settings) (source : Value) (engine : Engine) :
    Engine × Observed ValidationReport :=
  let outcome := (engine.parse settings source).2
  let (stage, logs) : Stage × List LogLine := match outcome with
    | .ok _ => (.done, [])
    | .error fault => (.error, validationLog source fault)
  ({ engine with stage }, { report := { outcome }, logs })

end Engine

/-! ## One formula, and sets of formulas -/

/-- Evaluate on a fresh engine. -/
def evaluate (today : Date) (settings : Settings) (source context : Value) (options : Options) :
    Observed EvaluationReport :=
  (({} : Engine).evaluate today settings source context options).2

/-- Validate on a fresh engine. -/
def validate (settings : Settings) (source : Value) : Observed ValidationReport :=
  (({} : Engine).validate settings source).2

end PayFormula

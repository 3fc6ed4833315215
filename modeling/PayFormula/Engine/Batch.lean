import PayFormula.Engine.Basic

/-!
# Batches

One formula is evaluated for many contexts, each on an engine of its own.  All of them ask the same
collaborators, one context after another.  Failing contexts are logged under their employee, and a
summary closes the batch.
-/

namespace PayFormula

/-- What a batch has produced so far. -/
structure BatchProgress where
  reports : List EvaluationReport := []
  inquiries : List Inquiry := []
  logs : List LogLine := []

namespace BatchProgress

def append (earlier later : BatchProgress) : BatchProgress where
  reports := earlier.reports ++ later.reports
  inquiries := earlier.inquiries ++ later.inquiries
  logs := earlier.logs ++ later.logs

end BatchProgress

/-- The options of a batch: the collaborators come from the settings. -/
def batchOptions (settings : Settings) (parameters employeeParameters scale : Value) : Options where
  scale
  parameters
  employeeParameters
  collaborators := settings.collaborators

/-- How a failing context is logged.  Its employee has to be known. -/
def contextLog (context : Value) (fault : Fault) : Except Fault LogLine := do
  let entries ← context.mappingEntries "get"
  let employee := Value.lookup "employee_id" entries
  let shown := s!"({fault.reportedCode}): {fault.message}"
  return ⟨.error, s!"Formula error for employee {employee.toText} {shown}"⟩

/-- One context: its report, and the fault that ends the batch if its failure cannot be logged. -/
def evaluateContext (today : Date) (settings : Settings) (source : Value) (options : Options)
    (context : Value) : BatchProgress × Option Fault :=
  let observed := evaluate today settings source context options
  let progress : BatchProgress :=
    { reports := [observed.report], inquiries := observed.inquiries, logs := observed.logs }
  match observed.report.outcome with
  | .ok _ => (progress, none)
  | .error fault =>
    match contextLog context fault with
    | .ok line => (progress.append { logs := [line] }, none)
    | .error stop => (progress, some stop)

def evaluateContexts (today : Date) (settings : Settings) (source : Value) (options : Options) :
    List Value → BatchProgress × Option Fault
  | [] => ({}, none)
  | context :: rest =>
    match evaluateContext today settings source options context with
    | (progress, some fault) => (progress, some fault)
    | (progress, none) =>
      let collaborators := options.collaborators.after progress.inquiries
      let (later, stop?) :=
        evaluateContexts today settings source { options with collaborators } rest
      (progress.append later, stop?)

def batchSummary (source : Value) (reports : List EvaluationReport) : LogLine :=
  let failed := (reports.filter fun report ↦ !report.succeeded).length
  ⟨.info, s!"Evaluated {reports.length} contexts, {failed} errors for formula: {source.toText}"⟩

/-- The reports of a batch in the order of its contexts. -/
def evaluateBatch (today : Date) (settings : Settings) (source contexts : Value)
    (options : Options) : Observed (Except Fault (List EvaluationReport)) :=
  match contexts.members with
  | .error fault => { report := .error fault }
  | .ok contexts =>
    let (progress, stop?) := evaluateContexts today settings source options contexts
    match stop? with
    | some fault =>
      { report := .error fault, inquiries := progress.inquiries, logs := progress.logs }
    | none =>
      { report := .ok progress.reports
        inquiries := progress.inquiries
        logs := progress.logs ++ [batchSummary source progress.reports] }

end PayFormula

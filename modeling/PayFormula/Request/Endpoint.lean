import PayFormula.Engine.Batch
import PayFormula.Engine.FormulaSet
import PayFormula.Request.Form

/-!
# Endpoints

Three places take requests: one evaluates a formula, one validates a formula and one validates a
set.  A caller has to be known and has to post; a form with faults is answered with the complaints
about it.  Collaborators come from the settings only.
-/

namespace PayFormula

/-- What a caller sends; the method may be written in any case. -/
structure Request where
  path : String
  method : String := "POST"
  isAuthenticated : Bool := true
  body : Value := .null

/-- What a caller gets, with what was seen on the way. -/
structure Response where
  status : Nat
  data? : Option Value := none
  inquiries : List Inquiry := []
  logs : List LogLine := []

inductive Endpoint where
  | evaluate
  | validate
  | validateSet
  deriving DecidableEq, Repr

namespace Endpoint

def path : Endpoint → String
  | evaluate => "/formulas/evaluate/"
  | validate => "/formulas/validate/"
  | validateSet => "/formulas/validate-set/"

def all : List Endpoint := [evaluate, validate, validateSet]

def ofPath? (path : String) : Option Endpoint := all.find? (·.path == path)

/-! ## Answers -/

/-- An answer that only says why there is none. -/
def detail (status : Nat) (text : String) : Response where
  status
  data? := some (.record [("detail", .text text)])

def complain (complaint : Complaint) : Response where
  status := 400
  data? := some complaint.toValue

/-- An answer with its status repeated in it. -/
def success (data : Value) : Value := .record [("status", .int 200), ("data", data)]

/-- The fields that tell of a fault. -/
def failure (fault : Fault) : List (String × Value) :=
  [("status", .int 400), ("message", .text fault.message),
   ("error_code", .text fault.reportedCode)]

/-- How a refused formula is logged. -/
def rejectionLog (fault : Fault) : LogLine :=
  ⟨.info, s!"Formula rejected ({fault.reportedCode}): {fault.message}"⟩

/-! ## The three endpoints -/

def evaluateForm (today : Date) (settings : Settings) (form : EvaluationForm) : Response :=
  let options : Options :=
    { scale := form.scale
      parameters := form.parameters
      employeeParameters := form.employeeParameters
      collaborators := settings.collaborators }
  let observed := PayFormula.evaluate today settings form.source form.context options
  let data := observed.report.toValue
  match observed.report.outcome with
  | .ok _ =>
    { status := 200, data? := some (success data)
      inquiries := observed.inquiries, logs := observed.logs }
  | .error fault =>
    { status := 400, data? := some (.record (failure fault ++ [("data", data)]))
      inquiries := observed.inquiries, logs := observed.logs ++ [rejectionLog fault] }

def validateSource (settings : Settings) (source : Value) : Response :=
  let observed := PayFormula.validate settings source
  match observed.report.outcome with
  | .ok _ =>
    { status := 200, data? := some (success observed.report.toValue), logs := observed.logs }
  | .error fault =>
    { status := 400, data? := some (.record (failure fault)), logs := observed.logs }

def validateDefinitions (settings : Settings) (formulas : List Value) : Response :=
  let (report, logs) := validateFormulas settings formulas
  match report with
  | .ok report => { status := 200, data? := some (success report.toValue), logs }
  | .error fault => { status := 500, data? := some (.record (failure fault)), logs }

/-- The answer to a form that was posted by a known caller. -/
def post (today : Date) (settings : Settings) (body : Value) : Endpoint → Response
  | evaluate =>
    match EvaluationForm.ofValue body with
    | .ok form => evaluateForm today settings form
    | .error complaint => complain complaint
  | validate =>
    match validationForm body with
    | .ok source => validateSource settings source
    | .error complaint => complain complaint
  | validateSet =>
    match FormulaSetForm.ofValue body with
    | .ok formulas => validateDefinitions settings formulas
    | .error complaint => complain complaint

end Endpoint

/-- The answer to a request. -/
def respond (today : Date) (settings : Settings) (request : Request) : Response :=
  match Endpoint.ofPath? request.path with
  | none => { status := 404 }
  | some endpoint =>
    if !request.isAuthenticated then
      Endpoint.detail 403 "Authentication credentials were not provided."
    else if Text.upper request.method ≠ "POST" then
      Endpoint.detail 405 s!"Method \"{Text.upper request.method}\" not allowed."
    else endpoint.post today settings request.body

end PayFormula

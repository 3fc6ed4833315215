import PayFormula.Engine.Basic

/-!
# Sets of Formulas

The formulas of a set are validated one by one; the summary lists those that cannot be read, under
the codes that the set gives them.
-/

namespace PayFormula

structure FormulaSetReport where
  count : Nat := 0
  /-- The code of each formula that cannot be read, and why. -/
  failures : List (Value × Fault) := []

namespace FormulaSetReport

def isValid (report : FormulaSetReport) : Bool := report.failures.isEmpty

def failureValue (code : Value) (fault : Fault) : Value :=
  .record [("formula_code", code), ("error", .text fault.message),
    ("error_code", .text fault.reportedCode)]

def toValue (report : FormulaSetReport) : Value :=
  .record [("valid", .bool report.isValid), ("formula_count", .int report.count),
    ("errors", .list (report.failures.map fun (code, fault) ↦ failureValue code fault))]

end FormulaSetReport

/-- The entry of one formula in the list of failures, if it has one. -/
def formulaFailure? (code : Value) (report : ValidationReport) : Option (Value × Fault) :=
  match report.outcome with
  | .ok _ => none
  | .error fault => some (code, fault)

/-- The summary of a set.  An entry without a formula ends the work; the lines logged before it
remain. -/
def validateFormulas (settings : Settings) : List Value →
    Except Fault FormulaSetReport × List LogLine
  | [] => (.ok {}, [])
  | entry :: rest =>
    match entry.field "expression" with
    | .error fault => (.error fault, [])
    | .ok source =>
      let validated := validate settings source
      let code := match entry with
        | .map fields => Value.lookup "formula_code" fields
        | _ => .null
      let (later, logs) := validateFormulas settings rest
      let report := later.map fun report ↦
        { count := report.count + 1
          failures := (formulaFailure? code validated.report).toList ++ report.failures }
      (report, validated.logs ++ logs)

/-- The summary of a set that may be anything with members. -/
def validateFormulaSet (settings : Settings) (formulas : Value) :
    Except Fault FormulaSetReport × List LogLine :=
  match formulas.members with
  | .ok entries => validateFormulas settings entries
  | .error fault => (.error fault, [])

end PayFormula

import PayFormula.Date.Text
import PayFormula.Decimal.Scaled
import PayFormula.Text.Case
import PayFormula.Value.Shape

/-!
# The Context of an Evaluation

Everything that one evaluation may read: variables, which may be nested, concepts, groups, the
date, the employee, and the two limits of its arithmetic.  Names of variables and concepts are kept
in lower case; of two names that then agree, the later one counts.
-/

namespace PayFormula

/-- The most fraction digits that a rounding may ask for, unless told otherwise. -/
def defaultPrecisionLimit : Int := 50

structure Context where
  bindings : Value := .map []
  concepts : List (Value × Value) := []
  groups : List (Value × Value) := []
  date : String := ""
  employee? : Option Int := none
  scale : Int := defaultScale
  precisionLimit : Int := defaultPrecisionLimit

namespace Context

/-- The places that arithmetic keeps; a negative scale keeps none. -/
def places (context : Context) : Nat := context.scale.toNat

/-- The employee as a key, null when there is none. -/
def employee (context : Context) : Value :=
  match context.employee? with
  | some n => .int n
  | none => .null

/-- A name in lower case. -/
def lowerKey (key : Value) : Value := .text (Text.lower key.toText)

mutual

/-- A value whose names are in lower case at every level of mappings. -/
def lowerKeys : Value → Value
  | .map entries => .ofPairs (lowerEntries entries)
  | value => value

def lowerEntries : List (Value × Value) → List (Value × Value)
  | [] => []
  | (key, value) :: rest => (lowerKey key, lowerKeys value) :: lowerEntries rest

end

/-- The concepts of a context, their names in lower case. -/
def conceptsOf (value : Value) : Except Fault (List (Value × Value)) := do
  let entries ← value.orEmpty.mappingEntries "items"
  return Table.ofPairs (entries.map fun (key, item) ↦ (lowerKey key, item))

/-- The date of a context as text; `today` stands in for a missing one. -/
def dateText (today : Date) (value : Value) : String :=
  if value.isTruthy then value.toText else today.iso

/-- A number that may be null. -/
def count? (value : Value) : Except Fault (Option Int) :=
  if value.isNull then .ok none else value.count.map some

/-- The context that a caller describes. -/
def ofValue (today : Date) (described scale precisionLimit : Value) : Except Fault Context := do
  let entries ← described.orEmpty.mappingEntries "get"
  let concepts ← conceptsOf (Value.lookup "concepts" entries)
  let groups ← (Value.lookup "groups" entries).orEmpty.entriesOf
  let employee? ← count? (Value.lookup "employee_id" entries)
  let scale ← count? scale
  let precisionLimit ← count? precisionLimit
  return {
    bindings := lowerKeys (Value.lookup "variables" entries).orEmpty
    concepts
    groups
    date := dateText today (Value.lookup "date" entries)
    employee?
    scale := scale.getD defaultScale
    precisionLimit := precisionLimit.getD defaultPrecisionLimit }

/-! ## Variables -/

/-- The text of a value that a formula reads. -/
def formulaText : Value → String
  | .text s => s
  | .bool b => if b then "1" else "0"
  | value => value.normalize

/-- What stands at the end of a path through nested mappings. -/
def follow : Value → List String → Option Value
  | value, [] => some value
  | value, segment :: rest =>
    match value with
    | .map entries =>
      let next := Value.lookup (Text.lower segment) entries
      if next.isNull then none else follow next rest
    | _ => none

end Context

end PayFormula

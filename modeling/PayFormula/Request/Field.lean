import PayFormula.Date.Text
import PayFormula.Request.Complaint
import PayFormula.Value.Number
import PayFormula.Value.Shape

/-!
# Fields of a Request

The checks that single fields pass.  A field may be left out only where it is optional and null
only where that is allowed; what is there is checked by kind and taken over in one form.
-/

namespace PayFormula.Field

/-- The check of a field by name, with its value if it is there. -/
def check {α : Type} (isRequired : Bool) (kind : Value → Checked α) (name : String)
    (body : List (Value × Value)) : Checked (Option α) :=
  match Value.valueAt? name body with
  | none => if isRequired then .error (.of "This field is required.") else .ok none
  | some value => (kind value).map some

def required {α : Type} (kind : Value → Checked α) (name : String) (body : List (Value × Value)) :
    Checked (Option α) :=
  check true kind name body

def optional {α : Type} (kind : Value → Checked α) (name : String) (body : List (Value × Value)) :
    Checked (Option α) :=
  check false kind name body

/-- A kind that null does not belong to. -/
def present {α : Type} (kind : Value → Checked α) (value : Value) : Checked α :=
  if value.isNull then .error (.of "This field may not be null.") else kind value

/-! ## Texts -/

/-- The texts that a text field takes: numbers are written out. -/
def characters? : Value → Option String
  | .text s => some s
  | value@(.int _) | value@(.float _) => some value.toText
  | _ => none

def hasNull (s : String) : Bool := s.toList.contains '\x00'

/-- The messages about a text that is too long or holds a null. -/
def textFaults (limit? : Option Nat) (s : String) : List String :=
  let long := match limit? with
    | some limit =>
      if limit < s.length then [s!"Ensure this field has no more than {limit} characters."] else []
    | none => []
  long ++ if hasNull s then ["Null characters are not allowed."] else []

/-- A text that is not blank.  A trimmed one loses the blanks around it first. -/
def text (isTrimmed : Bool) (limit? : Option Nat) (value : Value) : Checked String :=
  let isEmpty := match value with
    | .text s => s.isEmpty
    | _ => false
  if isEmpty || (isTrimmed && (Text.trim value.toText).isEmpty) then
    .error (.of "This field may not be blank.")
  else
    value |> present fun value ↦
      match characters? value with
      | none => .error (.of "Not a valid string.")
      | some s =>
        let s := if isTrimmed then Text.trim s else s
        match textFaults limit? s with
        | [] => .ok s
        | faults => .error (.messages faults)

/-! ## Integers and dates -/

/-- A text without a fraction of zeros, and blanks, at its end. -/
def withoutZeroFraction (s : String) : String :=
  match (s.toList.reverse.dropWhile Text.isBlank).dropWhile (· == '0') with
  | '.' :: rest => String.ofList rest.reverse
  | _ => s

/-- The longest text that is read as an integer. -/
def integerTextLimit : Nat := 1000

def isTooLong : Value → Bool
  | .text s => integerTextLimit < s.length
  | _ => false

/-- An integer, also as a text or followed by a fraction of zeros. -/
def integer (value : Value) : Checked Int :=
  if isTooLong value then .error (.of "String value too large.")
  else
    match Value.integerText? (withoutZeroFraction value.toText) with
    | some n => .ok n
    | none => .error (.of "A valid integer is required.")

/-- An integer between two bounds. -/
def integerBetween (low high : Int) (value : Value) : Checked Int := do
  let n ← integer value
  if high < n then .error (.of s!"Ensure this value is less than or equal to {high}.")
  else if n < low then .error (.of s!"Ensure this value is greater than or equal to {low}.")
  else return n

def date (value : Value) : Checked Date :=
  let read := match value with
    | .text s => Date.ofText? s
    | _ => none
  match read with
  | some d => .ok d
  | none =>
    .error (.of "Date has wrong format. Use one of these formats instead: YYYY-MM-DD.")

/-! ## Mappings and lists -/

/-- Check every entry of a mapping; the keys become texts. -/
def entries (kind : Value → Checked Value) (pairs : List (Value × Value)) :
    Checked (List (Value × Value)) :=
  let checked := pairs.map fun (key, value) ↦ (key.toText, kind value)
  Complaint.settle (checked.filterMap fun (name, result) ↦ Complaint.part? name result)
    (checked.filterMap fun (name, result) ↦ result.toOption.map fun value ↦ (.text name, value))

/-- A mapping whose values are all of one kind. -/
def mapping (kind : Value → Checked Value) (value : Value) : Checked Value :=
  match value with
  | .map pairs => (entries kind pairs).map .map
  | value =>
    .error (.of s!"Expected a dictionary of items but got type \"{value.typeName}\".")

/-- A mapping with values of any kind. -/
def anyMapping (value : Value) : Checked Value := mapping .ok value

/-- A list whose members are all of one kind. -/
def listOf (kind : Value → Checked Value) (value : Value) : Checked Value :=
  match value with
  | .list items =>
    let checked := items.zipIdx.map fun (item, index) ↦ (toString index, kind item)
    Complaint.settle (checked.filterMap fun (name, result) ↦ Complaint.part? name result)
      (.list (checked.filterMap fun (_, result) ↦ result.toOption))
  | value => .error (.of s!"Expected a list of items but got type \"{value.typeName}\".")

end PayFormula.Field

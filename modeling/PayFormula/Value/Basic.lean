import PayFormula.Binary64.Shortest
import PayFormula.Date.Text
import PayFormula.Table
import PayFormula.Text.Quoted
import PayFormula.Value.Scientific

/-!
# Values

What a caller supplies and a collaborator answers: plain data of no fixed shape.  A value has a
text, which is how it enters a formula, and a literal, which is how it is shown inside a list or a
mapping.  Mappings keep the order of their keys.
-/

namespace PayFormula

inductive Value where
  | null
  | bool (b : Bool)
  | int (n : Int)
  | float (x : Binary64)
  | decimal (x : Scientific)
  | date (d : Date)
  | text (s : String)
  | list (items : List Value)
  | map (entries : List (Value × Value))
  deriving Repr, Inhabited

namespace Value

/-- The name of a value's type as messages use it. -/
def typeName : Value → String
  | null => "NoneType"
  | bool _ => "bool"
  | int _ => "int"
  | float _ => "float"
  | decimal _ => "decimal.Decimal"
  | date _ => "datetime.date"
  | text _ => "str"
  | list _ => "list"
  | map _ => "dict"

def isNull : Value → Bool
  | null => true
  | _ => false

/-- A value that counts as present: not null, not zero and not empty. -/
def isTruthy : Value → Bool
  | null => false
  | bool b => b
  | int n => n != 0
  | float x => !x.isZero
  | decimal x => !x.isZero
  | date _ => true
  | text s => !s.isEmpty
  | list items => !items.isEmpty
  | map entries => !entries.isEmpty

/-- A mapping with text keys. -/
def record (fields : List (String × Value)) : Value :=
  map (fields.map fun (key, value) ↦ (text key, value))

/-! ## Text -/

def boolText (b : Bool) : String := if b then "True" else "False"

def dateLiteral (d : Date) : String :=
  s!"datetime.date({d.year}, {d.month}, {d.day})"

mutual

/-- A value as it is shown inside another one. -/
def literal : Value → String
  | null => "None"
  | bool b => boolText b
  | int n => toString n
  | float x => x.text
  | decimal x => "Decimal('" ++ x.text ++ "')"
  | date d => dateLiteral d
  | text s => Text.quoted s
  | list items => "[" ++ ", ".intercalate (literals items) ++ "]"
  | map entries => "\x7b" ++ ", ".intercalate (entryLiterals entries) ++ "\x7d"

def literals : List Value → List String
  | [] => []
  | item :: rest => literal item :: literals rest

def entryLiterals : List (Value × Value) → List String
  | [] => []
  | (key, value) :: rest => (literal key ++ ": " ++ literal value) :: entryLiterals rest

end

/-- A value as text of its own. -/
def toText : Value → String
  | text s => s
  | decimal x => x.text
  | date d => d.iso
  | value => value.literal

end Value

end PayFormula

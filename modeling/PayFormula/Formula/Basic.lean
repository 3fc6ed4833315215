import PayFormula.Formula.Token
import PayFormula.Text.Case
import PayFormula.Value.Basic

/-!
# Formulas

A formula is a tree of literals, variables, calls and operators.  The reader of a text builds only
literals that are texts and operators that it knows, but a tree may also come from a caller who
stored it: its literals may be any values, an operator may be unknown and a place in the tree may be
empty; evaluation answers the last two with a fault.
-/

namespace PayFormula

inductive UnaryOperator where
  | negate
  | not
  | unknown (symbol : String)
  deriving DecidableEq, Repr, Inhabited

namespace UnaryOperator

def symbol : UnaryOperator → String
  | negate => "-"
  | not => "NOT"
  | unknown symbol => symbol

def ofSymbol (symbol : String) : UnaryOperator :=
  if symbol = "-" then negate else if symbol = "NOT" then not else unknown symbol

end UnaryOperator

inductive BinaryOperator where
  | or
  | and
  | less
  | greater
  | lessEqual
  | greaterEqual
  | equal
  | notEqual
  | plus
  | minus
  | times
  | divide
  | unknown (symbol : String)
  deriving DecidableEq, Repr, Inhabited

namespace BinaryOperator

/-- The operator of a token, `!` apart, which takes one operand only. -/
def ofOperator? : Operator → Option BinaryOperator
  | .or => some or
  | .and => some and
  | .less => some less
  | .greater => some greater
  | .lessEqual => some lessEqual
  | .greaterEqual => some greaterEqual
  | .equal => some equal
  | .notEqual => some notEqual
  | .plus => some plus
  | .minus => some minus
  | .times => some times
  | .divide => some divide
  | .bang => none

def symbol : BinaryOperator → String
  | or => "OR"
  | and => "AND"
  | less => "<"
  | greater => ">"
  | lessEqual => "<="
  | greaterEqual => ">="
  | equal => "=="
  | notEqual => "!="
  | plus => "+"
  | minus => "-"
  | times => "*"
  | divide => "/"
  | unknown symbol => symbol

/-- The operators that formulas are written with. -/
def known : List BinaryOperator :=
  [or, and, less, greater, lessEqual, greaterEqual, equal, notEqual, plus, minus, times, divide]

def ofSymbol (symbol : String) : BinaryOperator :=
  (known.find? (·.symbol == symbol)).getD (unknown symbol)

/-- How tightly an operator binds. -/
def level : BinaryOperator → Nat
  | or => 1
  | and => 2
  | less | greater | lessEqual | greaterEqual | equal | notEqual => 3
  | plus | minus => 4
  | times | divide => 5
  | unknown _ => 0

end BinaryOperator

inductive Formula where
  | number (value : Value)
  | text (value : Value)
  | truth (value : Bool)
  | variable (path : List String)
  | call (name : String) (arguments : List Formula)
  | unary (operator : UnaryOperator) (operand : Formula)
  | binary (operator : BinaryOperator) (left right : Formula)
  | missing
  deriving Repr, Inhabited

/-- The dotted path of a variable in lower case: the key under which it is looked up. -/
def variableKey (path : List String) : String := Text.lower (".".intercalate path)

namespace Formula

/-! ## Document form -/

/-- A mapping that says what type of node it stands for. -/
def node (type : String) (fields : List (String × Value)) : Value :=
  .record (("type", .text type) :: fields)

mutual

/-- The tree as a document of nested mappings. -/
def toValue : Formula → Value
  | number value => node "number" [("value", value)]
  | text value => node "string" [("value", value)]
  | truth value => node "boolean" [("value", .bool value)]
  | .variable path => node "variable" [("path", .list (path.map .text))]
  | call name arguments => node "call" [("name", .text name), ("args", .list (toValues arguments))]
  | unary operator operand =>
    node "unary" [("op", .text operator.symbol), ("operand", toValue operand)]
  | binary operator left right =>
    node "binary" [("op", .text operator.symbol), ("left", toValue left), ("right", toValue right)]
  | missing => .null

def toValues : List Formula → List Value
  | [] => []
  | formula :: rest => toValue formula :: toValues rest

end

end Formula

end PayFormula

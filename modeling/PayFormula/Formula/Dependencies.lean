import PayFormula.Formula.Basic

/-!
# Dependencies of a Formula

What a formula reads, so that a caller can supply it beforehand: the keys of its variables, and the
keys of the parameters, employee parameters and groups that its calls ask for.  A key that is not a
literal text is only known when the formula runs and is reported as dynamic.  Each list holds a key
once, in the order in which a reader of the formula meets it.
-/

namespace PayFormula

namespace Formula

/-- The direct parts of a node, from left to right. -/
def children : Formula → List Formula
  | call _ arguments => arguments
  | unary _ operand => [operand]
  | binary _ left right => [left, right]
  | _ => []

mutual

/-- The number of nodes of a tree. -/
def size : Formula → Nat
  | call _ arguments => sizeOfAll arguments + 1
  | unary _ operand => size operand + 1
  | binary _ left right => size left + size right + 1
  | _ => 1

def sizeOfAll : List Formula → Nat
  | [] => 0
  | formula :: rest => size formula + sizeOfAll rest

end

theorem sizeOfAll_append (first second : List Formula) :
    sizeOfAll (first ++ second) = sizeOfAll first + sizeOfAll second := by
  induction first with
  | nil => simp [sizeOfAll]
  | cons formula rest ih => simp [sizeOfAll, ih, Nat.add_assoc]

theorem sizeOfAll_children (formula : Formula) :
    sizeOfAll formula.children + 1 = formula.size := by
  cases formula <;> simp [children, size, sizeOfAll]

/-- The nodes of the trees that are still to be visited, each before its parts, and its parts
before the trees after it. -/
def walk : List Formula → List Formula
  | [] => []
  | formula :: pending => formula :: walk (formula.children ++ pending)
termination_by pending => sizeOfAll pending
decreasing_by
  rw [sizeOfAll_append]
  have := sizeOfAll_children formula
  simp only [sizeOfAll]
  omega

/-- Every node of a tree, parents before their parts and parts from left to right. -/
def nodes (formula : Formula) : List Formula := walk [formula]

/-- The calls whose first argument is a key. -/
inductive KeyedCall where
  | parameter
  | employeeParameter
  | group
  deriving DecidableEq, Repr

def KeyedCall.name : KeyedCall → String
  | parameter => "PARAM"
  | employeeParameter => "EMP_PARAM"
  | group => "SUM_GROUP"

/-- The report for a key that only a run can tell. -/
def dynamicKey : String := "dynamic"

def keyOf : Formula → String
  | text key => key.toText
  | _ => dynamicKey

/-- The key that a node of the given kind of call asks for. -/
def callKey? (kind : KeyedCall) : Formula → Option String
  | call name (key :: _) => if name = kind.name then some (keyOf key) else none
  | _ => none

def variableKey? : Formula → Option String
  | .variable path => some (variableKey path)
  | _ => none

end Formula

/-- The keys that a formula reads; `concepts` stays empty because concepts and variables share one
space of names. -/
structure Dependencies where
  variableKeys : List String
  parameters : List String
  employeeParameters : List String
  groups : List String
  concepts : List String
  deriving DecidableEq, Repr

namespace Dependencies

/-- Each member once, at its first place. -/
def distinct (keys : List String) : List String :=
  keys.foldl (fun found key ↦ if found.contains key then found else found ++ [key]) []

def ofFormula (formula : Formula) : Dependencies where
  variableKeys := distinct (formula.nodes.filterMap Formula.variableKey?)
  parameters := distinct (formula.nodes.filterMap (Formula.callKey? .parameter))
  employeeParameters := distinct (formula.nodes.filterMap (Formula.callKey? .employeeParameter))
  groups := distinct (formula.nodes.filterMap (Formula.callKey? .group))
  concepts := []

def toValue (d : Dependencies) : Value :=
  .record [
    ("variables", .list (d.variableKeys.map .text)),
    ("params", .list (d.parameters.map .text)),
    ("emp_params", .list (d.employeeParameters.map .text)),
    ("groups", .list (d.groups.map .text)),
    ("concepts", .list (d.concepts.map .text))]

end Dependencies

end PayFormula

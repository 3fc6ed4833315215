import PayFormula.Evaluation.Functions
import PayFormula.Formula.Basic

/-!
# Evaluation

The meaning of a formula is a run built from the runs of its parts.  Literals stand for themselves:
a number keeps the form in which it was written until an operation computes with it, and what an
operation or a variable gives is a text.  Arithmetic is cut at
the scale of the context, comparisons look at operands cut at the scale, and truth is being nonzero
there.  `AND` and `OR` leave their right side out when the left one settles the result.
-/

namespace PayFormula

/-- A truth value as a formula sees it. -/
def truthValue (b : Bool) : Value := .text (if b then "1" else "0")

namespace Surroundings

/-- The value of a variable: a concept under the whole path, or else what the path leads to. -/
def variableValue (s : Surroundings) (path : List String) : Run Value :=
  let key := variableKey path
  let concept := Value.lookup key s.context.concepts
  let found : Except Fault Value :=
    if !concept.isNull then .ok concept
    else
      match Context.follow s.context.bindings path with
      | none => .error (.undefinedVariable key)
      | some (.map _) | some (.list _) => .error (.notAValue key)
      | some value => .ok value
  do
    let value := Context.formulaText (← Run.ofExcept found)
    Run.emit (.variableRead key value)
    return .text value

/-! ## Operators -/

def unaryValue (s : Surroundings) (operator : UnaryOperator) (operand : Run Value) :
    Run Value := do
  let value ← operand
  match operator with
  | .negate => return amountValue (value.toDecimal.negAt s.places)
  | .not => return truthValue (!s.isTrue value)
  | .unknown symbol => Run.fail (.unsupportedUnary symbol)

/-- An operator on two values, those that may leave a side out apart. -/
def strictValue (s : Surroundings) (operator : BinaryOperator) (left right : Value) :
    Run Value :=
  let a := left.toDecimal
  let b := right.toDecimal
  let order := a.compareAt s.places b
  match operator with
  | .plus => return amountValue (a.addAt s.places b)
  | .minus => return amountValue (a.subAt s.places b)
  | .times => return amountValue (a.mulAt s.places b)
  | .divide =>
    match a.divAt? s.places b with
    | some quotient => return amountValue quotient
    | none => Run.fail (.divisionByZero left.toText right.toText)
  | .less => return truthValue (order == .lt)
  | .greater => return truthValue (order == .gt)
  | .lessEqual => return truthValue (order != .gt)
  | .greaterEqual => return truthValue (order != .lt)
  | .equal => return truthValue (order == .eq)
  | .notEqual => return truthValue (order != .eq)
  | .and => return truthValue (s.isTrue left && s.isTrue right)
  | .or => return truthValue (s.isTrue left || s.isTrue right)
  | .unknown symbol => Run.fail (.unsupportedBinary symbol)

def binaryValue (s : Surroundings) (operator : BinaryOperator) (left right : Run Value) :
    Run Value :=
  match operator with
  | .and => do
    if s.isTrue (← left) then return truthValue (s.isTrue (← right)) else return truthValue false
  | .or => do
    if s.isTrue (← left) then return truthValue true else return truthValue (s.isTrue (← right))
  | _ => do
    let left ← left
    let right ← right
    s.strictValue operator left right

end Surroundings

/-! ## Formulas -/

namespace Formula

mutual

def eval (s : Surroundings) : Formula → Run Value
  | number value | text value => return value
  | truth value => return truthValue value
  | .variable path => s.variableValue path
  | call name arguments => s.call name (evalEach s arguments)
  | unary operator operand => s.unaryValue operator (eval s operand)
  | binary operator left right => s.binaryValue operator (eval s left) (eval s right)
  | missing => Run.fail .missingNode

def evalEach (s : Surroundings) : List Formula → List (Run Value)
  | [] => []
  | formula :: rest => eval s formula :: evalEach s rest

end

end Formula

end PayFormula

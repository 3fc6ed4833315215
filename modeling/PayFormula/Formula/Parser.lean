import PayFormula.Formula.Basic
import PayFormula.Formula.DepthCap
import PayFormula.Formula.SyntaxFault

/-!
# From Tokens to a Formula

Operators bind by level, and operators of one level group to the left: after an operand, each
operator that binds tightly enough takes everything that binds more tightly still as its right
side.

A cap bounds the depth of the tree.  `room` is the number of levels that may still be opened; a
parenthesis, a unary operator, a call's argument and each operator of a chain open one.  The room
is handed down, never up, so what one part of a formula uses is free again for the next, and every
step of the recursion leaves less of it.
-/

namespace PayFormula

/-- What reads a part of a formula and leaves the tokens after it. -/
abbrev Reader (α : Type) := List Token → Except SyntaxFault (α × List Token)

/-! ## Single tokens -/

/-- The binary operator at the front.  The names `AND` and `OR` are operators here. -/
def operatorAhead? (tokens : List Token) : Option BinaryOperator :=
  match (headToken tokens).lexeme with
  | .operator operator => BinaryOperator.ofOperator? operator
  | .name "AND" => some .and
  | .name "OR" => some .or
  | _ => none

/-- The operator at the front, if it binds at least as tightly as `level`. -/
def chainOperator? (level : Nat) (tokens : List Token) : Option BinaryOperator :=
  (operatorAhead? tokens).filter (level ≤ ·.level)

/-- Step over the token that has to stand here. -/
def expect (wanted : Lexeme) (tokens : List Token) : Except SyntaxFault (List Token) :=
  if (headToken tokens).lexeme = wanted then .ok (tokens.drop 1)
  else .error (.expected wanted.kind (headToken tokens).kind)

/-! ## Names -/

/-- The segments of a dotted path after its first one. -/
def pathRest : Reader (List String)
  | ⟨.dot, _⟩ :: ⟨.name segment, _⟩ :: rest => do
    let (segments, rest) ← pathRest rest
    return (segment :: segments, rest)
  | ⟨.dot, _⟩ :: rest => .error (.expectedNameAfterDot (headToken rest).kind)
  | tokens => .ok ([], tokens)

/-- One or more parts with commas between them.  Each part takes a token, so `limit` parts are
enough when there are no more than `limit` tokens. -/
def separated (part : Reader Formula) : (limit : Nat) → Reader (List Formula)
  | 0, tokens => .ok ([], tokens)
  | limit + 1, tokens => do
    let (first, rest) ← part tokens
    if (headToken rest).lexeme = .comma then
      let (others, rest) ← separated part limit (rest.drop 1)
      return (first :: others, rest)
    else return ([first], rest)

/-- The arguments of a call, whose opening parenthesis is read already. -/
def callArguments (part : Reader Formula) : Reader (List Formula) := fun tokens ↦ do
  let (arguments, rest) ←
    if (headToken tokens).lexeme = .rightParen then .ok ([], tokens)
    else separated part tokens.length tokens
  return (arguments, ← expect .rightParen rest)

/-- What a name that is no keyword stands for: a path, a call or a variable. -/
def reference (part : Reader Formula) (name : String) : Reader Formula := fun tokens ↦
  match (headToken tokens).lexeme with
  | .dot => do
    let (segments, rest) ← pathRest tokens
    return (.variable (name :: segments), rest)
  | .leftParen => do
    let (arguments, rest) ← callArguments part (tokens.drop 1)
    return (.call name arguments, rest)
  | _ => .ok (.variable [name], tokens)

/-! ## Operands -/

/-- An operand with what is read inside it: `inner` reads a whole formula one level down and
`operand` the operand of a unary operator. -/
def primary (inner operand : Reader Formula) : Reader Formula := fun tokens ↦
  let rest := tokens.drop 1
  match (headToken tokens).lexeme with
  | .name "NOT" | .operator .bang => do
    let (formula, rest) ← operand rest
    return (.unary .not formula, rest)
  | .operator .minus => do
    let (formula, rest) ← operand rest
    return (.unary .negate formula, rest)
  | .leftParen => do
    let (formula, rest) ← inner rest
    return (formula, ← expect .rightParen rest)
  | .number digits => .ok (.number (.text digits), rest)
  | .text content => .ok (.text (.text content), rest)
  | .name "TRUE" => .ok (.truth true, rest)
  | .name "FALSE" => .ok (.truth false, rest)
  | .name name => reference inner name rest
  | _ => .error (.unexpectedToken (headToken tokens))

/-! ## Formulas -/

mutual

/-- The operand of a unary operator. -/
def unaryOperand (cap : DepthCap) : (room : Nat) → Reader Formula
  | 0, _ => .error (.nestedTooDeep cap.shown)
  | room + 1, tokens => primary (expression cap room 0) (unaryOperand cap room) tokens

/-- A formula whose operators bind at least as tightly as `level`. -/
def expression (cap : DepthCap) : (room level : Nat) → Reader Formula
  | 0, _, _ => .error (.nestedTooDeep cap.shown)
  | room + 1, level, tokens => do
    let (first, rest) ← primary (expression cap room 0) (unaryOperand cap room) tokens
    chain cap room level first rest

/-- The operators after a first operand, each with its right side, grouped to the left. -/
def chain (cap : DepthCap) : (room level : Nat) → Formula → Reader Formula
  | room, level, left, tokens =>
    match chainOperator? level tokens with
    | none => .ok (left, tokens)
    | some operator =>
      match room with
      | 0 => .error (.nestedTooDeep cap.shown)
      | room + 1 => do
        let (right, rest) ← expression cap room (operator.level + 1) (tokens.drop 1)
        chain cap room level (.binary operator left right) rest

end

/-- The formula that tokens spell.  A strict reading wants no token after it but the end. -/
def parse (cap : DepthCap) (strict : Bool) (tokens : List Token) : Except SyntaxFault Formula := do
  let (formula, rest) ← expression cap (cap.room tokens.length) 0 tokens
  if strict && (headToken rest).lexeme != .finish then .error (.trailingToken (headToken rest))
  else return formula

end PayFormula

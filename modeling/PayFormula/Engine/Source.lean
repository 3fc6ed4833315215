import PayFormula.Engine.Settings
import PayFormula.Formula.Lexer
import PayFormula.Formula.Parser
import PayFormula.Formula.Pieces

/-!
# The Source of a Formula

A formula reaches the engine as a value.  A text is read character by character and a list piece by
piece; whatever is null, zero or empty is read as the empty text, and other values hold nothing to
read.

The cap on the depth of a formula is a value as well.  Any number will do, and a double that is no
number caps nothing.
-/

namespace PayFormula

/-- The cap that a value stands for. -/
def DepthCap.ofValue (value : Value) : Except Fault DepthCap :=
  match value.rational?, value.infinity? with
  | some bound, _ => .ok ⟨some bound.floor.toNat, value.toText⟩
  | none, some isNegative => .ok ⟨if isNegative then some 0 else none, value.toText⟩
  | none, none =>
    match value with
    | .float _ => .ok ⟨none, value.toText⟩
    | .decimal _ => badData .noDecimalResult
    | value => badData (.unordered ">" "int" value.typeName)

namespace Source

inductive Tokens where
  | ofText (tokens : List Token)
  | ofPieces (tokens : List PieceToken)
  deriving Repr

/-- The fault of reading something that is neither text nor list. -/
def characterFault : Value → DataFault
  | .map _ => .missingKey (.int 0)
  | value => .notIndexable value.typeName "int"

def textTokens (s : String) : Except Fault Tokens :=
  match PayFormula.tokenize s with
  | .ok tokens => .ok (.ofText tokens)
  | .error cause => .error (.badSyntax cause)

def tokens (source : Value) : Except Fault Tokens :=
  match source with
  | .text s => textTokens s
  | .list pieces => (Pieces.tokenize pieces).map .ofPieces
  | value => if value.isTruthy then badData (characterFault value) else textTokens ""

/-- The formula that tokens spell under a cap. -/
def formula (cap : Value) (strict : Bool) (tokens : Tokens) : Except Fault Formula := do
  let cap ← DepthCap.ofValue cap
  let read := match tokens with
    | .ofText tokens => parse cap strict tokens
    | .ofPieces tokens => Pieces.parse cap strict tokens
  read.mapError .badSyntax

end Source

end PayFormula

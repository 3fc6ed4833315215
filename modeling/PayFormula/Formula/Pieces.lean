import PayFormula.Formula.Basic
import PayFormula.Formula.DepthCap
import PayFormula.Text.Blank
import PayFormula.Text.Letter
import PayFormula.Value.Shape

/-!
# Formulas in Pieces

A formula may also arrive as a list of pieces.  A piece is looked at where the reader of a text
looks at a character, but pieces are not joined: a run of digits stays a list, and neither names
nor operators can be made of pieces.  So what can be read from pieces is one number or one quoted
text.
-/

namespace PayFormula

inductive PieceLexeme where
  | number (digits : List Value)
  | text (content : String)
  | finish
  deriving Repr

/-- A lexeme and the number of pieces before it. -/
structure PieceToken where
  lexeme : PieceLexeme
  position : Nat
  deriving Repr

namespace PieceLexeme

def kind : PieceLexeme → TokenKind
  | number _ => .number
  | text _ => .text
  | finish => .finish

def value : PieceLexeme → Value
  | number digits => .list digits
  | text content => .text content
  | finish => .null

end PieceLexeme

namespace PieceToken

def describe (token : PieceToken) : String :=
  "Token(" ++ token.lexeme.kind.label ++ ", " ++ token.lexeme.value.literal ++ ")"

end PieceToken

namespace Pieces

open Text

/-! ## Single pieces -/

/-- The text of a piece of which `member` is asked. -/
def pieceText (member : String) : Value → Except Fault String
  | .text s => .ok s
  | value => badData (.noAttribute value.typeName member)

/-- A piece is of a class when all its characters are, and it has some. -/
def isAll (inClass : Char → Bool) (s : String) : Bool := !s.isEmpty && s.toList.all inClass

def isDigits (s : String) : Bool := isAll isDigitLike s

/-- A number starts with digits, or with a point that digits follow. -/
def startsNumber (s : String) (rest : List Value) : Except Fault Bool :=
  if isDigits s then .ok true
  else if s ≠ "." then .ok false
  else
    match rest with
    | next :: _ =>
      if next.isTruthy then (pieceText "isdigit" next).map isDigits else .ok false
    | [] => .ok false

/-- One quote, or both of them in order. -/
def isQuoteMark (s : String) : Bool := contains s "'\""

/-! ## Runs of pieces -/

/-- The digits and points at the front. -/
def numberRun : List Value → Except Fault (List Value)
  | [] => .ok []
  | piece :: rest =>
    if !piece.isTruthy then .ok []
    else do
      let s ← pieceText "isdigit" piece
      if isDigits s || s == "." then return piece :: (← numberRun rest) else return []

/-- Why the pieces of a name are no name, after the first one. -/
def nameFault : List Value → DataFault
  | [] => .noAttribute "list" "upper"
  | piece :: rest =>
    match piece with
    | .text s =>
      if isAll isWordChar s || s == "_" then nameFault rest else .noAttribute "list" "upper"
    | value =>
      if value.isTruthy then .noAttribute value.typeName "isalnum"
      else .noAttribute "list" "upper"

/-- The content of a quoted text up to its closing quote, and the number of pieces up to and with
that quote.  A backslash takes the next piece as it is; null ends everything. -/
def quotedRun? (quote : String) : List Value → Option (List Value × Nat)
  | [] => none
  | [piece] => if piece == .text quote then some ([], 1) else none
  | piece :: next :: rest =>
    if piece.isNull then none
    else if piece == .text quote then some ([], 1)
    else if piece == .text "\\" && !next.isNull then
      (quotedRun? quote rest).map fun (content, length) ↦ (next :: content, length + 2)
    else
      (quotedRun? quote (next :: rest)).map fun (content, length) ↦ (piece :: content, length + 1)

/-! ## Tokens -/

/-- The lexeme at the front of pieces that start with the text `s`, and its length. -/
def lexemeAt (position : Nat) (s : String) (rest : List Value) :
    Except Fault (PieceLexeme × Nat) := do
  if ← startsNumber s rest then
    let digits ← numberRun rest
    return (.number (.text s :: digits), digits.length + 1)
  else if isQuoteMark s then
    match quotedRun? s rest with
    | some (content, length) => return (.text (← Value.joined "" content), length + 1)
    | none => .error (.badSyntax (.unterminatedText position))
  else if isAll isLetter s || s == "_" then badData (nameFault rest)
  else badData (.unhashable "list")

/-- The tokens of pieces that start at `position`, after `skip` pieces that a token before them
covers.  An empty piece ends everything. -/
def tokensFrom (skip position : Nat) : List Value → Except Fault (List PieceToken)
  | [] => .ok [⟨.finish, position⟩]
  | piece :: rest =>
    match skip with
    | skip + 1 => tokensFrom skip (position + 1) rest
    | 0 =>
      if !piece.isTruthy then .ok [⟨.finish, position⟩]
      else do
        let s ← pieceText "isspace" piece
        if isAll isBlank s then tokensFrom 0 (position + 1) rest
        else
          let (lexeme, length) ← lexemeAt position s rest
          let tokens ← tokensFrom (length - 1) (position + 1) rest
          return ⟨lexeme, position⟩ :: tokens

def tokenize (pieces : List Value) : Except Fault (List PieceToken) := tokensFrom 0 0 pieces

/-! ## Reading -/

/-- The fault of a token after the literal. -/
def trailing : PieceToken → SyntaxFault
  | ⟨.text content, position⟩ => .trailingToken ⟨.text content, position⟩
  | ⟨lexeme, position⟩ => .trailingPieces lexeme.value.literal position

/-- The literal at the front. -/
def literal : List PieceToken → Except SyntaxFault Formula
  | ⟨.number digits, _⟩ :: _ => .ok (.number (.list digits))
  | ⟨.text content, _⟩ :: _ => .ok (.text (.text content))
  | ⟨.finish, position⟩ :: _ => .error (.unexpectedToken ⟨.finish, position⟩)
  | [] => .error (.unexpectedToken ⟨.finish, 0⟩)

/-- The formula that tokens spell.  Even a single literal opens a level. -/
def parse (cap : DepthCap) (strict : Bool) (tokens : List PieceToken) :
    Except SyntaxFault Formula := do
  if cap.levels? = some 0 then .error (.nestedTooDeep cap.shown)
  else
    let formula ← literal tokens
    match strict, tokens.drop 1 with
    | false, _ | true, [] | true, ⟨.finish, _⟩ :: _ => return formula
    | true, next :: _ => .error (trailing next)

end Pieces

end PayFormula

import PayFormula.Text.Quoted

/-!
# Tokens

The words of a formula.  A name is held in upper case, a text without its quotes and escapes, and
each operator in one form, whether it was written as a symbol or doubled: `&&` is the operator
`and`.  The names `AND`, `OR` and `NOT` stay names here; only the place where an operator is looked
for gives them another meaning.  Every list of tokens ends with `finish`.
-/

namespace PayFormula

/-- The operators that a token may hold. -/
inductive Operator where
  | or
  | and
  | less
  | greater
  | lessEqual
  | greaterEqual
  | equal
  | notEqual
  | plus
  | minus
  | times
  | divide
  | bang
  deriving DecidableEq, Repr

namespace Operator

def symbol : Operator → String
  | or => "OR"
  | and => "AND"
  | less => "<"
  | greater => ">"
  | lessEqual => "<="
  | greaterEqual => ">="
  | equal => "=="
  | notEqual => "!="
  | plus => "+"
  | minus => "-"
  | times => "*"
  | divide => "/"
  | bang => "!"

end Operator

inductive TokenKind where
  | number
  | text
  | name
  | operator
  | leftParen
  | rightParen
  | comma
  | dot
  | finish
  deriving DecidableEq, Repr

namespace TokenKind

/-- The kind as messages name it. -/
def label : TokenKind → String
  | number => "NUMBER"
  | text => "STRING"
  | name => "IDENTIFIER"
  | operator => "OPERATOR"
  | leftParen => "LPAREN"
  | rightParen => "RPAREN"
  | comma => "COMMA"
  | dot => "DOT"
  | finish => "EOF"

end TokenKind

inductive Lexeme where
  | number (digits : String)
  | text (content : String)
  | name (upper : String)
  | operator (op : Operator)
  | leftParen
  | rightParen
  | comma
  | dot
  | finish
  deriving DecidableEq, Repr

namespace Lexeme

def kind : Lexeme → TokenKind
  | number _ => .number
  | text _ => .text
  | name _ => .name
  | operator _ => .operator
  | leftParen => .leftParen
  | rightParen => .rightParen
  | comma => .comma
  | dot => .dot
  | finish => .finish

/-- The text that a token stands for; the end stands for none. -/
def value? : Lexeme → Option String
  | number digits => some digits
  | text content => some content
  | name upper => some upper
  | operator op => some op.symbol
  | leftParen => some "("
  | rightParen => some ")"
  | comma => some ","
  | dot => some "."
  | finish => none

/-- The value as messages show it. -/
def valueLiteral (lexeme : Lexeme) : String :=
  match lexeme.value? with
  | some value => Text.quoted value
  | none => "None"

end Lexeme

/-- A lexeme and the number of characters before it. -/
structure Token where
  lexeme : Lexeme
  position : Nat
  deriving DecidableEq, Repr

namespace Token

def kind (token : Token) : TokenKind := token.lexeme.kind

def describe (token : Token) : String :=
  "Token(" ++ token.kind.label ++ ", " ++ token.lexeme.valueLiteral ++ ")"

end Token

/-- The first token of a list; a list that has run out is at its end. -/
def headToken : List Token → Token
  | [] => ⟨.finish, 0⟩
  | token :: _ => token

end PayFormula

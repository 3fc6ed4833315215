import PayFormula.Formula.SyntaxFault
import PayFormula.Text.Blank
import PayFormula.Text.Case
import PayFormula.Text.Letter

/-!
# From Text to Tokens

Tokens are found from left to right, each as long as its class allows: a run of digits and points,
a run of word characters, a quoted text up to its closing quote, a doubled operator before a single
one.  Blanks separate tokens and are dropped.

The text is walked one character at a time.  Where a token starts, its length is known at once, and
the characters it covers are passed over.
-/

namespace PayFormula

open Text

/-! ## Classes of characters -/

def isNumberChar (c : Char) : Bool := isDigitLike c || c == '.'

def isNameStart (c : Char) : Bool := isLetter c || c == '_'

def isNameChar (c : Char) : Bool := isWordChar c || c == '_'

def isQuote (c : Char) : Bool := c == '\'' || c == '"'

/-- A number starts with a digit, or with a point that a digit follows. -/
def startsNumber (c : Char) (rest : List Char) : Bool :=
  isDigitLike c || (c == '.' && rest.head?.any isDigitLike)

/-! ## Quoted text -/

/-- The content of a quoted text up to its closing quote, and the number of characters up to and
with that quote.  A backslash takes the next character as it is, whatever it is; the last character
of a text has no next one. -/
def quotedContent? (quote : Char) : List Char → Option (List Char × Nat)
  | [] => none
  | [c] => if c = quote then some ([], 1) else none
  | c :: d :: rest =>
    if c = quote then some ([], 1)
    else if c = '\\' then
      (quotedContent? quote rest).map fun (content, length) ↦ (d :: content, length + 2)
    else (quotedContent? quote (d :: rest)).map fun (content, length) ↦ (c :: content, length + 1)

/-! ## Operators and punctuation -/

def doubledOperator? : Char → Char → Option Operator
  | '<', '=' => some .lessEqual
  | '>', '=' => some .greaterEqual
  | '=', '=' => some .equal
  | '!', '=' => some .notEqual
  | '&', '&' => some .and
  | '|', '|' => some .or
  | _, _ => none

def singleLexeme? : Char → Option Lexeme
  | '+' => some (.operator .plus)
  | '-' => some (.operator .minus)
  | '*' => some (.operator .times)
  | '/' => some (.operator .divide)
  | '<' => some (.operator .less)
  | '>' => some (.operator .greater)
  | '!' => some (.operator .bang)
  | '(' => some .leftParen
  | ')' => some .rightParen
  | ',' => some .comma
  | '.' => some .dot
  | _ => none

/-! ## Tokens -/

/-- The lexeme at the front of a text that starts with `c`, and its length. -/
def lexemeAt (position : Nat) (c : Char) (rest : List Char) : Except SyntaxFault (Lexeme × Nat) :=
  if startsNumber c rest then
    let run := c :: rest.takeWhile isNumberChar
    .ok (.number (String.ofList run), run.length)
  else if isQuote c then
    match quotedContent? c rest with
    | some (content, length) => .ok (.text (String.ofList content), length + 1)
    | none => .error (.unterminatedText position)
  else if isNameStart c then
    let run := c :: rest.takeWhile isNameChar
    .ok (.name (upper (String.ofList run)), run.length)
  else
    match rest.head?.bind (doubledOperator? c) with
    | some operator => .ok (.operator operator, 2)
    | none =>
      match singleLexeme? c with
      | some lexeme => .ok (lexeme, 1)
      | none => .error (.unexpectedCharacter c position)

/-- The tokens of a text that starts at `position`, after `skip` characters that a token before it
covers. -/
def tokensFrom (skip position : Nat) : List Char → Except SyntaxFault (List Token)
  | [] => .ok [⟨.finish, position⟩]
  | c :: rest =>
    match skip with
    | skip + 1 => tokensFrom skip (position + 1) rest
    | 0 =>
      if isBlank c then tokensFrom 0 (position + 1) rest
      else do
        let (lexeme, length) ← lexemeAt position c rest
        let tokens ← tokensFrom (length - 1) (position + 1) rest
        return ⟨lexeme, position⟩ :: tokens

def tokenize (s : String) : Except SyntaxFault (List Token) := tokensFrom 0 0 s.toList

end PayFormula

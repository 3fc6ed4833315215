import PayFormula.Formula.Token

/-!
# Faults of Syntax

What can be wrong with the text of a formula, and how each cause is worded.
-/

namespace PayFormula

inductive SyntaxFault where
  | unterminatedText (position : Nat)
  | unexpectedCharacter (character : Char) (position : Nat)
  /-- More levels are open than the bound, which is `shown`, allows. -/
  | nestedTooDeep (shown : String)
  | expected (wanted found : TokenKind)
  | expectedNameAfterDot (found : TokenKind)
  | unexpectedToken (token : Token)
  | trailingToken (token : Token)
  /-- A number that came in pieces follows a complete formula. -/
  | trailingPieces (literal : String) (position : Nat)
  deriving DecidableEq, Repr

namespace SyntaxFault

def message : SyntaxFault → String
  | unterminatedText position => s!"Unterminated string literal at position {position}"
  | unexpectedCharacter character position =>
    "Unexpected character: " ++ Text.quoted character.toString ++ s!" at position {position}"
  | nestedTooDeep shown => s!"Expression nested deeper than {shown} levels"
  | expected wanted found => s!"Expected {wanted.label}, got {found.label}"
  | expectedNameAfterDot found => s!"Expected IDENTIFIER after dot, got {found.label}"
  | unexpectedToken ⟨lexeme, position⟩ =>
    s!"Unexpected token: {lexeme.kind.label} {lexeme.valueLiteral} at position {position}"
  | trailingToken ⟨lexeme, position⟩ =>
    s!"Unexpected {lexeme.kind.label} {lexeme.valueLiteral} at position {position} " ++
      "after complete expression"
  | trailingPieces literal position =>
    s!"Unexpected NUMBER {literal} at position {position} after complete expression"

end SyntaxFault

end PayFormula

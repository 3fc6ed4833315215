import Mathlib
import PayFormula.Proofs.Formula.Lookahead

/-!
# Symbols and Names of Operators

Conjunction, disjunction and negation may be written as symbols or as names.  A symbol is an operator
token and a name is a token like that of any variable, so the two are read on different ways; but
wherever a formula has the symbol, the name stands where an operator is looked for and is the same
operator.  The other way round it need not be: where an operand is looked for, a name may be that of
a variable.
-/

namespace PayFormula

/-- The name that an operator may be written with; other lexemes are written in one way only. -/
def Lexeme.named : Lexeme → Lexeme
  | operator .and => name "AND"
  | operator .or => name "OR"
  | operator .bang => name "NOT"
  | lexeme => lexeme

theorem Lexeme.respelled_named (lexeme : Lexeme) : lexeme.Respelled lexeme.named := by
  unfold named
  split
  · exact .and
  · exact .or
  · exact .not
  · exact .refl _

/-- The tokens, with names for the operators among them that stand at the chosen places. -/
def respell (chosen : ℕ → Bool) (tokens : List Token) : List Token :=
  tokens.mapIdx fun place token ↦
    if chosen place then { token with lexeme := token.lexeme.named } else token

theorem respells_respell (chosen : ℕ → Bool) (tokens : List Token) :
    List.Forall₂ Token.Respells tokens (respell chosen tokens) := by
  induction tokens generalizing chosen with
  | nil => exact .nil
  | cons token rest ih =>
    rw [respell, List.mapIdx_cons]
    refine .cons ?_ (ih fun place ↦ chosen (place + 1))
    split
    · exact token.lexeme.respelled_named
    · exact .refl _

/-- Whichever of its symbols are replaced by names, a list of tokens that is read under a cap is read
under the same cap and spells the same formula. -/
theorem symbols_read_as_names {cap : DepthCap} {strict : Bool} {tokens : List Token}
    {formula : Formula} (h : parse cap strict tokens = .ok formula) (chosen : ℕ → Bool) :
    parse cap strict (respell chosen tokens) = .ok formula :=
  parse_respelled h (respells_respell chosen tokens)

/-- `! not x && y || and . not`, with names for the first and the last of the symbols.  The names that
were there before stay what they were: an operator and a path. -/
theorem symbols_read_as_names_path :
    let tokens : List Token :=
      [⟨.operator .bang, 0⟩, ⟨.name "NOT", 2⟩, ⟨.name "X", 6⟩, ⟨.operator .and, 8⟩,
        ⟨.name "Y", 11⟩, ⟨.operator .or, 13⟩, ⟨.name "AND", 16⟩, ⟨.dot, 20⟩, ⟨.name "NOT", 22⟩,
        ⟨.finish, 25⟩]
    let formula : Formula :=
      .binary .or
        (.binary .and (.unary .not (.unary .not (.variable ["X"]))) (.variable ["Y"]))
        (.variable ["AND", "NOT"])
    let respelled : List Token :=
      [⟨.name "NOT", 0⟩, ⟨.name "NOT", 2⟩, ⟨.name "X", 6⟩, ⟨.operator .and, 8⟩,
        ⟨.name "Y", 11⟩, ⟨.name "OR", 13⟩, ⟨.name "AND", 16⟩, ⟨.dot, 20⟩, ⟨.name "NOT", 22⟩,
        ⟨.finish, 25⟩]
    parse (.ofInt 4) true tokens = .ok formula ∧
      respell (fun place ↦ place != 3) tokens = respelled ∧
      parse (.ofInt 4) true respelled = .ok formula := by
  intro tokens formula respelled
  have hread : parse (.ofInt 4) true tokens = .ok formula := rfl
  have hrespelled : respell (fun place ↦ place != 3) tokens = respelled := rfl
  exact ⟨hread, hrespelled, hrespelled ▸ symbols_read_as_names hread fun place ↦ place != 3⟩

/-- A name alone is a variable, and a symbol alone is nothing. -/
example :
    parse (.ofInt 1) true [⟨.name "AND", 0⟩, ⟨.finish, 3⟩] = .ok (.variable ["AND"]) ∧
      parse (.ofInt 1) true [⟨.operator .and, 0⟩, ⟨.finish, 3⟩] =
        .error (.unexpectedToken ⟨.operator .and, 0⟩) :=
  ⟨rfl, rfl⟩

end PayFormula

import Mathlib
import PayFormula.Formula.Basic

/-!
# The Grammar of Formulas

Which formula a list of lexemes spells, said without any way to read it.  The grammar has one
stratum for each degree in which operators bind, and a chain of operators of one stratum groups to
the left.  The names `AND` and `OR` spell operators between two operands and are ordinary names
everywhere else; only `NOT`, `TRUE` and `FALSE` are reserved.
-/

namespace PayFormula

/-! ## Strata -/

/-- The strata of the grammar, the loosest first. -/
inductive Stratum where
  | disjunction
  | conjunction
  | comparison
  | additive
  | multiplicative
  | primary

namespace Stratum

/-- The operators of the chains of a stratum. -/
def operators : Stratum → List BinaryOperator
  | disjunction => [.or]
  | conjunction => [.and]
  | comparison => [.less, .greater, .lessEqual, .greaterEqual, .equal, .notEqual]
  | additive => [.plus, .minus]
  | multiplicative => [.times, .divide]
  | primary => []

/-- The stratum to which the operands of a chain belong. -/
def tighter : Stratum → Stratum
  | disjunction => conjunction
  | conjunction => comparison
  | comparison => additive
  | additive => multiplicative
  | multiplicative | primary => primary

end Stratum

/-- The lexemes that spell an operator between two operands. -/
def BinaryOperator.spellings : BinaryOperator → List Lexeme
  | or => [.operator .or, .name "OR"]
  | and => [.operator .and, .name "AND"]
  | less => [.operator .less]
  | greater => [.operator .greater]
  | lessEqual => [.operator .lessEqual]
  | greaterEqual => [.operator .greaterEqual]
  | equal => [.operator .equal]
  | notEqual => [.operator .notEqual]
  | plus => [.operator .plus]
  | minus => [.operator .minus]
  | times => [.operator .times]
  | divide => [.operator .divide]
  | unknown _ => []

/-- The lexemes that spell the unary `NOT`. -/
def notSpellings : List Lexeme := [.name "NOT", .operator .bang]

/-- The names that no variable, path or call begins with. -/
def reservedNames : List String := ["NOT", "TRUE", "FALSE"]

/-- The lexemes of the segments of a path after its first one. -/
def dotted (segments : List String) : List Lexeme :=
  segments.flatMap fun segment ↦ [.dot, .name segment]

/-! ## Derivations -/

/-- The lexemes spell the formula as a member of the stratum. -/
inductive Derives : Stratum → List Lexeme → Formula → Prop where
  | operand {s : Stratum} {lexemes : List Lexeme} {formula : Formula} :
    Derives s.tighter lexemes formula → Derives s lexemes formula
  | chain {s : Stratum} {operator : BinaryOperator} {lexeme : Lexeme} {before after : List Lexeme}
    {left right : Formula} (hoperator : operator ∈ s.operators)
    (hspelling : lexeme ∈ operator.spellings) :
    Derives s before left → Derives s.tighter after right →
    Derives s (before ++ lexeme :: after) (.binary operator left right)
  | not {lexeme : Lexeme} {lexemes : List Lexeme} {formula : Formula}
    (hspelling : lexeme ∈ notSpellings) :
    Derives .primary lexemes formula →
    Derives .primary (lexeme :: lexemes) (.unary .not formula)
  | negate {lexemes : List Lexeme} {formula : Formula} :
    Derives .primary lexemes formula →
    Derives .primary (.operator .minus :: lexemes) (.unary .negate formula)
  | parentheses {lexemes : List Lexeme} {formula : Formula} :
    Derives .disjunction lexemes formula →
    Derives .primary (.leftParen :: (lexemes ++ [.rightParen])) formula
  | number (digits : String) : Derives .primary [.number digits] (.number (.text digits))
  | text (content : String) : Derives .primary [.text content] (.text (.text content))
  | truth : Derives .primary [.name "TRUE"] (.truth true)
  | falsity : Derives .primary [.name "FALSE"] (.truth false)
  | bare {name : String} (hname : name ∉ reservedNames) :
    Derives .primary [.name name] (.variable [name])
  | path {name : String} {segments : List String} (hname : name ∉ reservedNames)
    (hsegments : segments ≠ []) :
    Derives .primary (.name name :: dotted segments) (.variable (name :: segments))
  | call {name : String} {pieces : List (List Lexeme × Formula)} (hname : name ∉ reservedNames) :
    (∀ piece ∈ pieces, Derives .disjunction piece.1 piece.2) →
    Derives .primary
      (.name name :: .leftParen :: ([.comma].intercalate (pieces.map (·.1)) ++ [.rightParen]))
      (.call name (pieces.map (·.2)))

theorem notMem_intercalate {x : Lexeme} {separator : List Lexeme} {parts : List (List Lexeme)}
    (hseparator : x ∉ separator) (hparts : ∀ part ∈ parts, x ∉ part) :
    x ∉ separator.intercalate parts := by
  induction parts with
  | nil => simp
  | cons part rest ih =>
    have hpart := hparts part List.mem_cons_self
    have hrest := ih fun other hother ↦ hparts other (List.mem_cons_of_mem part hother)
    rcases eq_or_ne rest [] with rfl | hne
    · rwa [List.intercalate_singleton]
    · rw [List.intercalate_cons_of_ne_nil hne]
      simp [hpart, hseparator, hrest]

namespace Derives

variable {s : Stratum} {lexemes : List Lexeme} {formula : Formula}

theorem ne_nil (h : Derives s lexemes formula) : lexemes ≠ [] := by
  induction h with
  | operand _ ih => exact ih
  | chain => simp
  | _ => exact List.cons_ne_nil _ _

theorem head?_ne_rightParen (h : Derives s lexemes formula) :
    lexemes.head? ≠ some .rightParen := by
  induction h with
  | operand _ ih => exact ih
  | chain _ _ hleft _ ih _ => rwa [List.head?_append_of_ne_nil _ hleft.ne_nil]
  | @not lexeme _ _ hspelling =>
    rintro hhead
    obtain rfl := Option.some.inj hhead
    simp [notSpellings] at hspelling
  | _ => simp

/-- No end stands in the midst of a formula. -/
theorem finish_notMem (h : Derives s lexemes formula) : .finish ∉ lexemes := by
  induction h with
  | operand _ ih => exact ih
  | @chain _ operator lexeme _ _ _ _ _ hspelling _ _ ihleft ihright =>
    have hlexeme : .finish ≠ lexeme := by
      rintro rfl
      cases operator <;> simp [BinaryOperator.spellings] at hspelling
    simp [ihleft, ihright, hlexeme]
  | @not lexeme _ _ hspelling _ ih =>
    have hlexeme : .finish ≠ lexeme := by
      rintro rfl
      simp [notSpellings] at hspelling
    simp [ih, hlexeme]
  | negate _ ih | parentheses _ ih => simp [ih]
  | number | text | truth | falsity | bare => simp
  | path => simp [dotted]
  | @call _ pieces _ _ ih =>
    have hpieces : .finish ∉ [Lexeme.comma].intercalate (pieces.map (·.1)) :=
      notMem_intercalate (by simp) fun lexemes hlexemes ↦ by
        obtain ⟨piece, hpiece, rfl⟩ := List.mem_map.1 hlexemes
        exact ih piece hpiece
    simp [hpieces]

end Derives

end PayFormula

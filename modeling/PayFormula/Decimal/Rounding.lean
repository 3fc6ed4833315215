import PayFormula.Decimal.Text
import PayFormula.Text.Blank
import PayFormula.Text.Case

/-!
# Rounding

A number is rounded to a grid of `places` fraction digits.  Its magnitude is split into whole
steps of the grid and a rest; the mode decides from the rest, the last step and the sign whether
one step is added, and the sign is put back.
-/

namespace PayFormula

inductive RoundingMode where
  | halfUp
  | halfDown
  | bankers
  | floor
  | ceil
  | truncate
  deriving DecidableEq, Repr, Inhabited

namespace RoundingMode

def name : RoundingMode → String
  | halfUp => "HALF_UP"
  | halfDown => "HALF_DOWN"
  | bankers => "BANKERS"
  | floor => "FLOOR"
  | ceil => "CEIL"
  | truncate => "TRUNCATE"

def all : List RoundingMode := [halfUp, halfDown, bankers, floor, ceil, truncate]

/-- The mode that a text names, in any case and between blanks; other texts mean `halfUp`. -/
def ofText (s : String) : RoundingMode :=
  (all.find? fun mode ↦ mode.name == Text.upper (Text.trim s)).getD halfUp

/-- Whether a magnitude of `steps` whole steps and `rest / unit` of another goes one step up. -/
def bumps (mode : RoundingMode) (negative : Bool) (steps rest unit : Nat) : Bool :=
  match mode with
  | halfUp => decide (unit ≤ 2 * rest)
  | halfDown => decide (unit < 2 * rest)
  | bankers => decide (unit < 2 * rest) || (2 * rest == unit && steps % 2 == 1)
  | floor => decide (0 < rest) && negative
  | ceil => decide (0 < rest) && !negative
  | truncate => false

end RoundingMode

namespace Decimal

/-- The multiple of `10 ^ -places` that the mode chooses for `d`. -/
def round (mode : RoundingMode) (places : Nat) (d : Decimal) : Decimal :=
  let unit := tenTo d.places
  let scaled := d.coefficient.natAbs * tenTo places
  let steps := scaled / unit
  let magnitude := if mode.bumps d.isNegative steps (scaled % unit) unit then steps + 1 else steps
  ⟨if d.isNegative then -(magnitude : Int) else magnitude, places⟩

end Decimal

end PayFormula

import PayFormula.Fault
import PayFormula.Value.Equality

/-!
# Numbers of Arguments

How many arguments a call takes.  The functions of formulas have numbers as bounds.  Callers who
check calls of their own may give bounds of any type: these are compared as numbers, and messages
show them as they were given.
-/

namespace PayFormula

/-- Without a greatest number there is no upper limit. -/
structure Arity where
  least : Nat
  greatest? : Option Nat
  deriving DecidableEq, Repr

namespace Arity

/-- Bounds in words.  Null stands for no upper limit. -/
def describe (least greatest : Value) : String :=
  if greatest.isNull then s!"at least {least.toText}"
  else if least.same greatest then least.toText
  else s!"{least.toText}-{greatest.toText}"

/-- The fault of a call with too many or too few arguments. -/
def fault (name : String) (least greatest : Value) (count : Nat) : Fault :=
  .wrongArity name (describe least greatest) count

/-- The fault of a call that has not as many arguments as its function takes. -/
def callFault (arity : Arity) (name : String) (count : Nat) : Fault :=
  fault name (.int arity.least) ((arity.greatest?.map fun n ↦ .int n).getD .null) count

/-- How a number of arguments compares with a bound, if the bound is a number. -/
def side (relation : String) (count : Nat) (bound : Value) : Except Fault Ordering :=
  match bound with
  | .int n => .ok (compare (count : Int) n)
  | .bool b => .ok (compare count b.toNat)
  | bound => badData (.unordered relation "int" bound.typeName)

/-- The check that a call has as many arguments as bounds allow.  The upper one is not looked at
when the lower one already fails. -/
def check (name : String) (least greatest : Value) (count : Nat) : Except Fault Unit := do
  if (← side "<" count least) = .lt then .error (fault name least greatest count)
  else if greatest.isNull then .ok ()
  else if (← side ">" count greatest) = .gt then .error (fault name least greatest count)
  else .ok ()

end Arity

end PayFormula

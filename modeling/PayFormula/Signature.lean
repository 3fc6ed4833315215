import PayFormula.Fault
import PayFormula.Value.Basic

/-!
# Signatures

What an operation is called with, for callers who name an operation and its arguments at run time.
Arguments are given by position or by name; those that may be left out have a default.  Arguments
that do not fit are a fault, which shows the operation's name.
-/

namespace PayFormula

inductive Parameters where
  | listed (required : List String) (optional : List (String × Value))
  /-- Any number of arguments, none of which has a name. -/
  | anyNumber
  deriving Repr

structure Signature where
  name : String
  parameters : Parameters
  /-- What an operation belongs to counts as an argument when there are too many of them. -/
  owners : Nat := 0
  deriving Repr

namespace Signature

/-- The value that is given under a name. -/
def named? (name : String) (named : List (String × Value)) : Option Value :=
  named.lookup name

/-- A name has to be a parameter that no position has filled yet. -/
def checkName (signature : Signature) (names : List String) (given : Nat) (name : String) :
    Except Fault Unit :=
  match names.idxOf? name with
  | none => badData (.unknownArgument signature.name name)
  | some index =>
    if index < given then badData (.repeatedArgument signature.name name) else .ok ()

/-- The values of parameters: by position, by name, or by default. -/
def valuesOf (names : List String) (optional : List (String × Value)) (given : List Value)
    (named : List (String × Value)) : List Value :=
  names.zipIdx.map fun (name, index) ↦
    given[index]?.getD (((named? name named).orElse fun _ ↦ named? name optional).getD .null)

/-- The fault of more arguments than parameters. -/
def surplus (signature : Signature) (least most given : Nat) : DataFault :=
  .tooManyArguments signature.name (least + signature.owners) (most + signature.owners)
    (given + signature.owners)

/-- One value for each parameter, or all arguments where any number is taken. -/
def arguments (signature : Signature) (given : List Value) (named : List (String × Value)) :
    Except Fault (List Value) := do
  match signature.parameters with
  | .anyNumber =>
    named.forM fun (name, _) ↦ signature.checkName [] 0 name
    return given
  | .listed required optional =>
    let names := required ++ optional.map (·.1)
    named.forM fun (name, _) ↦ signature.checkName names given.length name
    if names.length < given.length then
      badData (signature.surplus required.length names.length given.length)
    match (required.drop given.length).filter fun name ↦ (named? name named).isNone with
    | [] => return valuesOf names optional given named
    | missing => badData (.missingArguments signature.name missing)

/-- The value of the parameter at a place. -/
def argument (values : List Value) (index : Nat) : Value := values[index]?.getD .null

end Signature

end PayFormula

import PayFormula.Evaluation.Inquiry

/-!
# Settings

An installation may override the limits of the engine and name collaborators that every batch and
every request uses.  A setting that is not overridden has its default value, and a name that is no
setting is a fault.
-/

namespace PayFormula

structure Settings where
  overrides : List (Value × Value) := []
  collaborators : Collaborators := {}

namespace Settings

def defaults : List (String × Value) :=
  [("SCALE", .int 10), ("MAX_DEPTH", .int 128), ("MAX_PRECISION", .int 50),
   ("STRICT_TRAILING_TOKENS", .bool true), ("PARAM_RESOLVER", .null),
   ("EMP_PARAM_RESOLVER", .null), ("GROUP_RESOLVER", .null), ("TIER_CALCULATOR", .null)]

def value (settings : Settings) (name : String) : Except Fault Value :=
  match defaults.lookup name with
  | some default => .ok ((Value.valueAt? name settings.overrides).getD default)
  | none => .error (.unknownSetting name)

/-- A setting by a name of any type; only a text can be the name of one. -/
def valueNamed (settings : Settings) (name : Value) : Except Fault Value := do
  name.checkKey
  match name with
  | .text s => settings.value s
  | name => .error (.unknownSetting name.toText)

/-- A setting of the engine's own. -/
def own (settings : Settings) (name : String) : Value :=
  (settings.value name).toOption.getD .null

def scale (settings : Settings) : Value := settings.own "SCALE"

def precisionLimit (settings : Settings) : Value := settings.own "MAX_PRECISION"

/-- Tokens after a complete formula are a fault. -/
def isStrict (settings : Settings) : Bool := (settings.own "STRICT_TRAILING_TOKENS").isTruthy

/-- The cap on the depth of a formula. -/
def depthCap (settings : Settings) : Value := settings.own "MAX_DEPTH"

end Settings

end PayFormula

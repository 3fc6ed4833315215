import PayFormula.Amount.Display
import PayFormula.Signature

/-!
# Operations by Name

The arithmetic for callers who name an operation and its arguments at run time.  Arguments that do
not fit the signature of an operation are a fault before anything is computed.
-/

namespace PayFormula.Amount

open Signature (argument)

/-- An operation is found by its name; its signature may show a longer one. -/
structure Operation where
  name : String
  signature : Signature
  /-- The operation on one value for each parameter. -/
  run : List Value → Except Fault Value

namespace Operation

def apply (operation : Operation) (given : List Value) (named : List (String × Value)) :
    Except Fault Value := do
  operation.run (← operation.signature.arguments given named)

/-! ## Kinds of operation -/

def optionalText : Option String → Value
  | some s => .text s
  | none => .null

/-- The signature of an operation with these parameters. -/
def takes (name : String) (required : List String) (optional : List (String × Value)) :
    Signature :=
  ⟨name, .listed required optional, 0⟩

/-- An operation on one operand at a scale. -/
def onOne {α : Type} (wrap : α → Value) (name operand : String)
    (run : Value → Value → Except Fault α) : Operation where
  name
  signature := takes name [operand] [("scale", .null)]
  run values := (run (argument values 0) (argument values 1)).map wrap

/-- An operation on two operands at a scale. -/
def onTwo {α : Type} (wrap : α → Value) (name first second : String)
    (run : Value → Value → Value → Except Fault α) : Operation where
  name
  signature := takes name [first, second] [("scale", .null)]
  run values := (run (argument values 0) (argument values 1) (argument values 2)).map wrap

/-- An operation on three operands at a scale. -/
def onThree (name first second third : String)
    (run : Value → Value → Value → Value → Except Fault String) : Operation where
  name
  signature := takes name [first, second, third] [("scale", .null)]
  run values :=
    (run (argument values 0) (argument values 1) (argument values 2) (argument values 3)).map .text

/-- An operation on however many operands there are. -/
def onAll (name : String) (run : List Value → String) : Operation where
  name
  signature := ⟨name, .anyNumber, 0⟩
  run values := .ok (.text (run values))

/-- A test of how two operands compare at a scale. -/
def comparing (name : String) (holds : Ordering → Bool) : Operation :=
  onTwo .bool name "a" "b" fun a b scale ↦ (compare a b scale).map holds

/-- A test of how an operand compares with zero at a scale. -/
def comparingZero (name : String) (holds : Ordering → Bool) : Operation :=
  onOne .bool name "number" fun number scale ↦ (compare number (.int 0) scale).map holds

/-- Rounding to whole numbers, unless a precision is given. -/
def rounding (name : String) (mode : RoundingMode) : Operation where
  name
  signature := takes name ["number"] [("precision", .int 0)]
  run values := (roundBy mode (argument values 0) (argument values 1)).map .text

/-! ## The operations -/

/-- The fraction digits that money has unless told otherwise. -/
def defaultPrecision : Value := .int 2

def defaultMode : Value := .text RoundingMode.halfUp.name

def normalize : Operation where
  name := "normalize"
  signature := takes "normalize" ["value"] []
  run values := .ok (.text (argument values 0).normalize)

def divide : Operation where
  name := "div"
  signature := takes "div" ["a", "b"] [("scale", .null), ("throw_on_zero", .bool false)]
  run values :=
    let a := argument values 0
    let b := argument values 1
    let scale := argument values 2
    if (argument values 3).isTruthy then (divOrFail a b scale).map .text
    else (div a b scale).map optionalText

def roundValue : Operation where
  name := "round_value"
  signature :=
    takes "round_value" ["number"] [("precision", defaultPrecision), ("mode", defaultMode)]
  run values := (round (argument values 0) (argument values 1) (argument values 2)).map .text

def allocating : Operation where
  name := "allocate"
  signature :=
    takes "allocate" ["amount", "weights"] [("precision", defaultPrecision), ("mode", defaultMode)]
  run values :=
    allocate (argument values 0) (argument values 1) (argument values 2) (argument values 3)

def formatNumber : Operation where
  name := "format_number"
  signature := takes "format_number" ["number"]
    [("decimals", defaultPrecision), ("decimal_sep", .text "."), ("thousand_sep", .text ",")]
  run values :=
    (format (argument values 0) (argument values 1) (argument values 2)
      (argument values 3)).map .text

def parseNumber : Operation where
  name := "parse_number"
  signature := takes "parse_number" ["formatted"]
    [("decimal_sep", .text "."), ("thousand_sep", .text ",")]
  run values := (parse (argument values 0) (argument values 1) (argument values 2)).map .text

/-- The name of the mode that a value stands for. -/
def parseMode : Operation where
  name := "parse_mode"
  signature := ⟨"RoundingMode.parse", .listed ["mode"] [], 1⟩
  run values := .ok (.text (RoundingMode.ofText (argument values 0).toText).name)

def orderNumber : Ordering → Value
  | .lt => .int (-1)
  | .eq => .int 0
  | .gt => .int 1

def all : List Operation :=
  [normalize, onTwo .text "add" "a" "b" add, onTwo .text "sub" "a" "b" sub,
   onTwo .text "mul" "a" "b" mul, divide, onTwo optionalText "mod" "a" "b" mod,
   onTwo optionalText "power" "base" "exponent" power, onOne optionalText "sqrt" "number" sqrt,
   onOne .text "absolute" "number" absolute, onOne .text "negate" "number" negate,
   onTwo orderNumber "comp" "a" "b" compare,
   comparingZero "is_zero" (· == .eq), comparingZero "is_positive" (· == .gt),
   comparingZero "is_negative" (· == .lt),
   comparing "gt" (· == .gt), comparing "gte" (· != .lt), comparing "lt" (· == .lt),
   comparing "lte" (· != .gt), comparing "eq" (· == .eq),
   onAll "minimum" minimum, onAll "maximum" maximum, onThree "clamp" "value" "low" "high" clamp,
   roundValue, rounding "truncate" .truncate, rounding "floor" .floor, rounding "ceil" .ceil,
   onTwo .text "percent" "value" "rate" percent,
   onTwo optionalText "percent_change" "old_value" "new_value" percentChange,
   onTwo .text "apply_discount" "value" "factor" applyDiscount,
   onTwo .text "discount_amount" "value" "factor" discountAmount,
   onTwo .text "tax_from_net" "net" "tax_rate" taxFromNet,
   onTwo optionalText "net_from_gross" "gross" "tax_rate" netFromGross,
   onTwo .text "gross_from_net" "net" "tax_rate" grossFromNet,
   onOne .text "sum_values" "values" sum, onOne optionalText "avg_values" "values" average,
   onThree "prorate_days" "amount" "worked_days" "total_days" prorateDays,
   onThree "prorate_hours" "amount" "worked_hours" "total_hours" prorateHours,
   allocating, formatNumber, parseNumber, parseMode]

def ofName? (name : String) : Option Operation := all.find? (·.name == name)

end Operation

end PayFormula.Amount

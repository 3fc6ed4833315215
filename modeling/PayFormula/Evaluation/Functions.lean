import PayFormula.Decimal.Rounding
import PayFormula.Evaluation.Arity
import PayFormula.Evaluation.Context
import PayFormula.Evaluation.Resolution
import PayFormula.Json.Reader

/-!
# Functions of Formulas

The functions that a formula may call, each with the number of arguments it takes.  A function is
given its arguments as runs and decides which of them take place: most use all of them in order,
`IF` and `COALESCE` only those that they need.
-/

namespace PayFormula

/-- What a formula runs against. -/
structure Surroundings where
  context : Context := {}
  sources : Sources := {}

inductive Builtin where
  | min
  | max
  | abs
  | floor
  | ceil
  | truncate
  | round
  | choice
  | coalesce
  | parameter
  | employeeParameter
  | sumGroup
  | countryTax (tax : CountryTax)
  | tiers
  deriving DecidableEq, Repr

namespace Builtin

/-- The names of the functions, those of the country taxes apart. -/
def table : List (String × Builtin) :=
  [("MIN", min), ("MAX", max), ("ABS", abs), ("FLOOR", floor), ("CEIL", ceil),
   ("TRUNCATE", truncate), ("ROUND", round), ("IF", choice), ("IIF", choice),
   ("COALESCE", coalesce), ("PARAM", parameter), ("EMP_PARAM", employeeParameter),
   ("SUM_GROUP", sumGroup), ("TIER_CALC", tiers)]

def ofName? (name : String) : Option Builtin :=
  (table.lookup name).orElse fun _ ↦
    (CountryTax.all.find? (·.functionName == name)).map countryTax

def arity : Builtin → Arity
  | min | max | coalesce => ⟨0, none⟩
  | abs | floor | ceil | sumGroup => ⟨1, some 1⟩
  | truncate | parameter => ⟨1, some 2⟩
  | round | employeeParameter => ⟨1, some 3⟩
  | choice => ⟨3, some 3⟩
  | countryTax tax => ⟨tax.arity, some tax.arity⟩
  | tiers => ⟨2, some 3⟩

end Builtin

namespace Surroundings

def places (s : Surroundings) : Nat := s.context.places

/-- A value counts as true unless it is zero at the scale. -/
def isTrue (s : Surroundings) (value : Value) : Bool :=
  !value.toDecimal.isZeroAt s.places

/-- The whole part of a value. -/
def wholeNumber (value : Value) : Int := value.toDecimal.toInt

/-! ## Arguments -/

/-- All runs, in order. -/
def inOrder : List (Run Value) → Run (List Value)
  | [] => return []
  | run :: rest => do
    let value ← run
    let values ← inOrder rest
    return value :: values

/-- Neither null nor the empty text. -/
def isFilled : Value → Bool
  | .null => false
  | .text s => !s.isEmpty
  | _ => true

/-- The first value that is filled; the runs after it do not take place. -/
def firstFilled : List (Run Value) → Run Value
  | [] => return .text "0"
  | run :: rest => do
    let value ← run
    if isFilled value then return value else firstFilled rest

/-! ## Rounding -/

/-- A precision that is not above the limit; a negative one counts as zero. -/
def checkPrecision (s : Surroundings) (name : String) (value : Value) : Run Nat :=
  let precision := wholeNumber value
  if s.context.precisionLimit < precision then
    Run.fail (.precisionTooLarge name precision s.context.precisionLimit)
  else return precision.toNat

/-- The precision of a rounding unless one is given.  The limit applies to it as well. -/
def defaultPrecision : Value := .int 2

/-- The precision of a cut unless one is given.  The limit applies to it as well. -/
def defaultCutPrecision : Value := .int 0

def rounded (mode : RoundingMode) (places : Nat) (value : Value) : Value :=
  .text (value.toDecimal.round mode places).fixed

/-! ## Keys -/

def parameterValue (s : Surroundings) (key date : Value) : Run Value := do
  Run.emit (.sought .parameter key)
  let value ← s.sources.parameter key date
  Run.emit (.resolved key ⟨value, date, none⟩)
  return .text value

def employeeParameterValue (s : Surroundings) (key employee date : Value) : Run Value := do
  Run.emit (.sought .employeeParameter key)
  let value ← s.sources.employeeParameter key employee date
  Run.emit (.resolved key ⟨value, date, some employee⟩)
  return .text value

def groupValue (s : Surroundings) (code : Value) : Run Value := do
  Run.emit (.sought .group code)
  return .text (← s.sources.groupSum code (.map s.context.concepts) (.map s.context.groups)
    (.int s.context.scale))

/-! ## Taxes -/

/-- The collaborator for taxes, which a function that is called by `name` cannot do without. -/
def taxCollaborator (s : Surroundings) (name : String) : Run Collaborator :=
  match s.sources.collaborators.taxes? with
  | some collaborator => return collaborator
  | none => Run.fail (.noTierCalculator name)

/-- The amounts of a country tax as the trace shows them. -/
def shownAmounts : CountryTax → List Value → Except Fault String
  | .chileanIncome, [base, unit] => .ok s!"{base.toText}, UTM={unit.toText}"
  | _, amounts => Value.joined ", " amounts

def countryTaxed (s : Surroundings) (tax : CountryTax) (arguments : List (Run Value)) :
    Run Value := do
  let collaborator ← s.taxCollaborator tax.functionName
  let amounts ← inOrder arguments
  let result ← Run.inquire collaborator (.countryTax tax amounts s.context.date)
  let amount := (← Run.ofExcept (result.field "amount")).toText
  let shown ← Run.ofExcept (shownAmounts tax amounts)
  let rate := (← Run.ofExcept (result.field "effective_rate")).toText
  Run.emit (.countryTaxed tax shown amount rate)
  return .text amount

/-- The tiers in a text: an array, or the values of an object in their order. -/
def tiersOf? : Value → Option (List Value)
  | .text s =>
    match Json.read? s with
    | some (.list tiers) => some tiers
    | some (.map entries) => some (entries.map (·.2))
    | _ => none
  | _ => none

/-- The mode of tiers unless one is given. -/
def marginalMode : String := "MARGINAL"

/-- The mode that a text names. -/
def tierMode : Value → Except Fault String
  | .text s => .ok (Text.upper s)
  | value => badData (.noAttribute value.typeName "upper")

def tiersApplied (s : Surroundings) (base tiers : Run Value) (mode? : Option (Run Value)) :
    Run Value := do
  let collaborator ← s.taxCollaborator "TIER_CALC"
  let base ← base
  let tiers ← tiers
  let mode ← match mode? with
    | some mode => do
      let mode ← mode
      Run.ofExcept (tierMode mode)
    | none => Run.pure marginalMode
  match tiersOf? tiers with
  | none => Run.fail .invalidTiers
  | some tiers =>
    let result ← Run.inquire collaborator (.tiers base tiers mode)
    let amount := (← Run.ofExcept (result.field "amount")).toText
    Run.emit (.tiersApplied base.toText mode amount)
    return .text amount

/-! ## Calls -/

/-- An amount as a value. -/
def amountValue (amount : Decimal) : Value := .text amount.plain

/-- A function applied to as many arguments as it takes. -/
def applied? (s : Surroundings) : Builtin → List (Run Value) → Option (Run Value)
  | .min, arguments => some do
    match (← inOrder arguments).filterMap Value.toDecimal? with
    | [] => return .text "0"
    | first :: rest => return amountValue (Decimal.least first rest)
  | .max, arguments => some do
    match (← inOrder arguments).filterMap Value.toDecimal? with
    | [] => return .text "0"
    | first :: rest => return amountValue (Decimal.greatest first rest)
  | .abs, [value] => some do return amountValue ((← value).toDecimal.absAt s.places)
  | .floor, [value] => some do return rounded .floor 0 (← value)
  | .ceil, [value] => some do return rounded .ceil 0 (← value)
  | .truncate, [value] => some do
    let value ← value
    let places ← s.checkPrecision "TRUNCATE" defaultCutPrecision
    return rounded .truncate places value
  | .truncate, [value, precision] => some do
    let value ← value
    let places ← s.checkPrecision "TRUNCATE" (← precision)
    return rounded .truncate places value
  | .round, [value] => some do
    let value ← value
    let places ← s.checkPrecision "ROUND" defaultPrecision
    return rounded .halfUp places value
  | .round, [value, precision] => some do
    let value ← value
    let places ← s.checkPrecision "ROUND" (← precision)
    return rounded .halfUp places value
  | .round, [value, precision, mode] => some do
    let value ← value
    let precision ← precision
    let mode ← mode
    let places ← s.checkPrecision "ROUND" precision
    return rounded (.ofText mode.toText) places value
  | .choice, [condition, positive, negative] => some do
    if s.isTrue (← condition) then positive else negative
  | .coalesce, arguments => some (firstFilled arguments)
  | .parameter, [key] => some do s.parameterValue (← key) (.text s.context.date)
  | .parameter, [key, date] => some do
    let key ← key
    s.parameterValue key (← date)
  | .employeeParameter, [key] => some do
    s.employeeParameterValue (← key) s.context.employee (.text s.context.date)
  | .employeeParameter, [key, employee] => some do
    let key ← key
    let employee := Value.int (wholeNumber (← employee))
    s.employeeParameterValue key employee (.text s.context.date)
  | .employeeParameter, [key, employee, date] => some do
    let key ← key
    let employee := Value.int (wholeNumber (← employee))
    s.employeeParameterValue key employee (← date)
  | .sumGroup, [code] => some do s.groupValue (← code)
  | .countryTax tax, arguments =>
    if arguments.length = tax.arity then some (s.countryTaxed tax arguments) else none
  | .tiers, [base, tiers] => some (s.tiersApplied base tiers none)
  | .tiers, [base, tiers, mode] => some (s.tiersApplied base tiers (some mode))
  | _, _ => none

/-- A call by name. -/
def call (s : Surroundings) (name : String) (arguments : List (Run Value)) : Run Value :=
  match Builtin.ofName? name with
  | none => Run.fail (.unknownFunction name)
  | some builtin =>
    match s.applied? builtin arguments with
    | some run => run
    | none => Run.fail (builtin.arity.callFault name arguments.length)

end Surroundings

end PayFormula

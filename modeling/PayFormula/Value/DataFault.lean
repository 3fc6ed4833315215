import PayFormula.Value.Number

/-!
# Faults of Data

Callers hand over values of any shape.  Work that needs a number, a text, a sequence or a mapping
and finds something else stops with one of these faults.  Types are named as `Value.typeName` names
them.
-/

namespace PayFormula

inductive DataFault where
  -- numbers
  | notACount (cause : CountFault)
  /-- Two values of types without a common order were compared, `left` with `right`. -/
  | unordered (relation left right : String)
  /-- An operator that is not defined on values of two types. -/
  | notDefined (operator left right : String)
  | notAnInteger (typeName : String)
  | notADecimal (typeName : String)
  /-- A step on decimal numbers that has no result, such as a comparison with no number at all. -/
  | noDecimalResult
  | decimalTooLarge
  -- texts
  | notAText (typeName : String)
  /-- A member of a sequence that is joined to a text is none. -/
  | notAMember (index : Nat) (typeName : String)
  /-- Something else than a text was looked for in a text. -/
  | notAPart (typeName : String)
  -- sequences and mappings
  | notIterable (typeName : String)
  | notAContainer (typeName : String)
  | noLength (typeName : String)
  | notIndexable (typeName keyType : String)
  | outOfRange (typeName : String)
  | missingKey (key : Value)
  | unhashable (typeName : String)
  /-- A decimal that signals whenever it is used is the key of a mapping. -/
  | signallingKey
  | noAttribute (typeName member : String)
  | pairNotASequence (index : Nat)
  | pairOfWrongLength (index length : Nat)
  -- arguments of an operation
  | missingArguments (operation : String) (names : List String)
  | tooManyArguments (operation : String) (least most given : Nat)
  | unknownArgument (operation name : String)
  | repeatedArgument (operation name : String)
  deriving Repr

namespace DataFault

def quote (name : String) : String := "'" ++ name ++ "'"

/-- Two types that do not go together under an operator; only a list says what would. -/
def operatorMessage (operator : String) : String → String → String
  | "list", right => "can only concatenate list (not \"" ++ right ++ "\") to list"
  | left, right =>
    s!"unsupported operand type(s) for {operator}: {quote left} and {quote right}"

/-- Taking a member of what has none under such a key. -/
def indexMessage (keyType : String) : String → String
  | "list" => s!"list indices must be integers or slices, not {keyType}"
  | "str" => s!"string indices must be integers, not {quote keyType}"
  | typeName => quote typeName ++ " object is not subscriptable"

/-- The short name of a type that has positions. -/
def sequenceName : String → String
  | "str" => "string"
  | typeName => typeName

/-- The name of a type where a text is wanted: null is told by its literal. -/
def wantedTextName : String → String
  | "NoneType" => "None"
  | typeName => typeName

/-- Names in an enumeration of any length. -/
def enumeration : List String → String
  | [] => ""
  | [name] => quote name
  | [first, second] => s!"{quote first} and {quote second}"
  | [first, second, third] =>
    s!"{quote first}, {quote second}, and {quote third}"
  | name :: rest => s!"{quote name}, {enumeration rest}"

/-- How many arguments an operation takes. -/
def takenArguments (least most : Nat) : String :=
  if least = most then s!"{most} positional argument" ++ (if most = 1 then "" else "s")
  else s!"from {least} to {most} positional arguments"

def missingMessage (operation : String) (names : List String) : String :=
  let noun := if names.length = 1 then "argument" else "arguments"
  s!"{operation}() missing {names.length} required positional {noun}: {enumeration names}"

def message : DataFault → String
  | notACount cause => cause.message
  | unordered relation left right =>
    s!"'{relation}' not supported between instances of {quote left} and {quote right}"
  | notDefined operator left right => operatorMessage operator left right
  | notAnInteger typeName =>
    quote typeName ++ " object cannot be interpreted as an integer"
  | notADecimal typeName => s!"conversion from {typeName} to Decimal is not supported"
  | noDecimalResult => "[<class 'decimal.InvalidOperation'>]"
  | decimalTooLarge => "[<class 'decimal.Overflow'>]"
  | notAText typeName => s!"replace() argument 1 must be str, not {wantedTextName typeName}"
  | notAMember index typeName =>
    s!"sequence item {index}: expected str instance, {typeName} found"
  | notAPart typeName => s!"'in <string>' requires string as left operand, not {typeName}"
  | notIterable typeName => quote typeName ++ " object is not iterable"
  | notAContainer typeName => s!"argument of type {quote typeName} is not iterable"
  | noLength typeName => s!"object of type {quote typeName} has no len()"
  | notIndexable typeName keyType => indexMessage keyType typeName
  | outOfRange typeName => s!"{sequenceName typeName} index out of range"
  | missingKey key => key.literal
  | unhashable typeName => s!"unhashable type: {quote typeName}"
  | signallingKey => "Cannot hash a signaling NaN value"
  | noAttribute typeName member => quote typeName ++ s!" object has no attribute '{member}'"
  | pairNotASequence index =>
    s!"cannot convert dictionary update sequence element #{index} to a sequence"
  | pairOfWrongLength index length =>
    s!"dictionary update sequence element #{index} has length {length}; 2 is required"
  | missingArguments operation names => missingMessage operation names
  | tooManyArguments operation least most given =>
    s!"{operation}() takes {takenArguments least most} but {given} " ++
      (if given = 1 then "was given" else "were given")
  | unknownArgument operation name =>
    s!"{operation}() got an unexpected keyword argument {quote name}"
  | repeatedArgument operation name =>
    s!"{operation}() got multiple values for argument {quote name}"

end DataFault

end PayFormula

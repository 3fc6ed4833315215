import PayFormula.Value.Basic

/-!
# Values as Numbers

A value is read as an amount without complaint: null and the empty text are zero, truth values are
one and zero, a double is the number that its shortest text spells, other numbers are themselves,
and every other value is read from its text.  A count, such as a number of places, is read
strictly: the number is cut toward zero, and a text must spell an integer.
-/

namespace PayFormula

namespace Value

/-- The amount that a value is worth. -/
def toDecimal : Value → Decimal
  | null => 0
  | bool b => if b then 1 else 0
  | int n => .ofInt n
  | float x => ((Scientific.ofText? x.text).map Scientific.toDecimal).getD 0
  | decimal x => x.toDecimal
  | text s => .ofText s
  | value => .ofText value.toText

/-- The amount of a value that is present. -/
def toDecimal? (value : Value) : Option Decimal :=
  if value.isNull then none else some value.toDecimal

/-- A value written as a plain amount. -/
def normalize (value : Value) : String := value.toDecimal.plain

end Value

/-- Why a value is not a count. -/
inductive CountFault where
  | notAnInteger (literal : String)
  | infiniteFloat
  | floatNotANumber
  | infiniteDecimal
  | decimalNotANumber
  | wrongType (name : String)
  deriving DecidableEq, Repr

namespace CountFault

/-- The characters of a faulty text that a message shows at most. -/
def shownLiteral : Nat := 200

def message : CountFault → String
  | notAnInteger literal =>
    "invalid literal for int() with base 10: " ++
      String.ofList (literal.toList.take shownLiteral)
  | infiniteFloat => "cannot convert float infinity to integer"
  | floatNotANumber => "cannot convert float NaN to integer"
  | infiniteDecimal => "cannot convert Infinity to integer"
  | decimalNotANumber => "cannot convert NaN to integer"
  | wrongType name =>
    "int() argument must be a string, a bytes-like object or a real number, not '" ++ name ++ "'"

/-- An infinite number is out of range; the other faults are faults of form. -/
def isOutOfRange : CountFault → Bool
  | infiniteFloat | infiniteDecimal => true
  | _ => false

end CountFault

namespace Value

/-! ## Counts -/

/-- A blank that may surround the text of a count; the information separators may not. -/
def isMargin (c : Char) : Bool :=
  if c.toNat < 0x80 then c == ' ' || ('\t' ≤ c && c ≤ '\r') else Text.isBlank c

def withoutMargins (cs : List Char) : List Char :=
  ((cs.dropWhile isMargin).reverse.dropWhile isMargin).reverse

/-- Digits in which single underscores may stand between two digits. -/
def groupedDigits? : List Char → Option (List Char)
  | [] => none
  | [c] => if Text.isDigit c then some [c] else none
  | c :: '_' :: cs => if Text.isDigit c then (groupedDigits? cs).map (c :: ·) else none
  | c :: cs => if Text.isDigit c then (groupedDigits? cs).map (c :: ·) else none

def integerText? (s : String) : Option Int :=
  let (negative, body) := Scientific.splitSign (withoutMargins s.toList)
  (groupedDigits? body).map fun digits ↦
    let n : Int := Decimal.digitsValue digits
    if negative then -n else n

def toCount : Value → Except CountFault Int
  | bool b => .ok (if b then 1 else 0)
  | int n => .ok n
  | float .nan => .error .floatNotANumber
  | float x => match x.toInt? with
    | some n => .ok n
    | none => .error .infiniteFloat
  | decimal (.nan ..) => .error .decimalNotANumber
  | decimal (.infinite _) => .error .infiniteDecimal
  | decimal x => .ok x.toDecimal.toInt
  | text s => match integerText? s with
    | some n => .ok n
    | none => .error (.notAnInteger (Text.quoted s))
  | value => .error (.wrongType value.typeName)

end Value

end PayFormula

import PayFormula.Binary64.Basic

/-!
# The Shortest Decimal of a Double

A finite double is written with the fewest significant digits that read back as the same double,
and among those with the ones nearest to it.  For each number of digits the two neighbours of the
double on that decimal grid are tried: if any point of a grid reads back, one of them does.

The text is positional from `0.0001` up to sixteen whole digits and always shows a fraction; other
numbers take an exponent of at least two digits.
-/

namespace PayFormula.Binary64

/-- The exponent of the largest power of ten that is not above a positive fraction. -/
def decimalMagnitude (numerator denominator : Nat) : Int :=
  let guess : Int :=
    ((Nat.toDigits 10 numerator).length : Int) - (Nat.toDigits 10 denominator).length
  if numerator * tenTo (-guess).toNat < denominator * tenTo guess.toNat then guess - 1 else guess

/-- The numbers that read as a given double lie between these two, over one denominator; the ends
belong to them when the mantissa is even. -/
structure Interval where
  low : Nat
  value : Nat
  high : Nat
  denominator : Nat
  closed : Bool

/-- The interval of a positive double.  Below a power of two the doubles lie twice as close. -/
def interval (mantissa : Nat) (exponent : Int) : Interval :=
  let below := if mantissa = fullMantissa && leastExponent < exponent then 1 else 2
  let (scale, denominator) := magnitudeFraction 1 (exponent - 2)
  { low := (4 * mantissa - below) * scale
    value := 4 * mantissa * scale
    high := (4 * mantissa + 2) * scale
    denominator
    closed := mantissa % 2 == 0 }

namespace Interval

/-- The interval holds `digits * 10 ^ power`. -/
def holds (i : Interval) (digits : Nat) (power : Int) : Bool :=
  let point := digits * tenTo power.toNat * i.denominator
  let scale := tenTo (-power).toNat
  if i.closed then i.low * scale ≤ point && point ≤ i.high * scale
  else i.low * scale < point && point < i.high * scale

/-- The neighbours of the value among the multiples of `10 ^ power`, the nearer one first, and of
two equally near ones the even one. -/
def neighbours (i : Interval) (power : Int) : List Nat :=
  let numerator := i.value * tenTo (-power).toNat
  let denominator := i.denominator * tenTo power.toNat
  let below := numerator / denominator
  let rest := numerator % denominator
  if 2 * rest < denominator || (2 * rest = denominator && below % 2 = 0) then [below, below + 1]
  else [below + 1, below]

/-- The shortest digits within the interval, as an integer and a power of ten. -/
def shortest (i : Interval) : Nat × Int :=
  let magnitude := decimalMagnitude i.value i.denominator
  let found := (List.range 17).findSome? fun (extra : Nat) ↦
    let power := magnitude - (extra : Int)
    ((i.neighbours power).find? (i.holds · power)).map (·, power)
  found.getD (i.value / i.denominator, 0)

end Interval

/-- The digits and the power of ten of a positive double. -/
def shortestDigits (mantissa : Nat) (exponent : Int) : Nat × Int :=
  (interval mantissa exponent).shortest

/-! ## Text -/

/-- Significant digits without zeros at their end, and the place of the point after the first
`point` of them. -/
def layoutDigits (digits : Nat) (power : Int) : List Char × Int :=
  let all := Nat.toDigits 10 digits
  let kept := (all.reverse.dropWhile (· == '0')).reverse
  (kept, all.length + power)

/-- A signed exponent of at least two digits. -/
def exponentChars (n : Int) : List Char :=
  (if n < 0 then '-' else '+') :: List.leftpad 2 '0' (Nat.toDigits 10 n.natAbs)

/-- Digits with the point after the first `point` of them. -/
def pointedChars (digits : List Char) (point : Int) : List Char :=
  if point ≤ -4 || 16 < point then
    let fraction := if digits.length ≤ 1 then [] else '.' :: digits.drop 1
    digits.take 1 ++ fraction ++ 'e' :: exponentChars (point - 1)
  else if point ≤ 0 then '0' :: '.' :: List.replicate (-point).toNat '0' ++ digits
  else
    let whole := digits.take point.toNat
    let fraction := digits.drop point.toNat
    whole ++ List.replicate (point.toNat - whole.length) '0' ++
      '.' :: (if fraction.isEmpty then ['0'] else fraction)

def toChars : Binary64 → List Char
  | nan => ['n', 'a', 'n']
  | infinite negative => (if negative then ['-'] else []) ++ ['i', 'n', 'f']
  | finite negative mantissa exponent =>
    let body :=
      if mantissa = 0 then ['0', '.', '0']
      else
        let (digits, power) := shortestDigits mantissa exponent
        let (kept, point) := layoutDigits digits power
        pointedChars kept point
    (if negative then ['-'] else []) ++ body

def text (x : Binary64) : String := String.ofList x.toChars

end PayFormula.Binary64

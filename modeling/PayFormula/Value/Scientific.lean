import PayFormula.Binary64.Nearest
import PayFormula.Decimal.Text
import PayFormula.Text.Blank
import PayFormula.Text.Case

/-!
# Numbers in Scientific Form

A decimal number as a caller may hand it over: sign, digits and power of ten are kept apart, so a
negative zero, zeros at the end and a positive power stay visible when the number is written back.
Infinities and the values that stand for no number at all belong to the type as well.
-/

namespace PayFormula

inductive Scientific where
  | finite (negative : Bool) (digits : Nat) (power : Int)
  | infinite (negative : Bool)
  | nan (negative signalling : Bool) (payload : Nat)
  deriving DecidableEq, Repr, Inhabited

namespace Scientific

/-- The amount that a finite number is worth; the others are worth nothing, and so is a zero with
any power. -/
def toDecimal : Scientific → Decimal
  | finite _ 0 _ => 0
  | finite negative digits power =>
    let coefficient : Int := if negative then -(digits : Int) else digits
    ⟨coefficient * tenTo power.toNat, (-power).toNat⟩
  | _ => 0

/-- The double that stands for the same number, or the nearest one. -/
def toBinary64 : Scientific → Binary64
  | finite negative digits power => .ofDecimal negative digits power
  | infinite negative => .infinite negative
  | nan .. => .nan

def isZero : Scientific → Bool
  | finite _ 0 _ => true
  | _ => false

/-! ## Writing -/

/-- The digits with the point after the first `point` of them. -/
def pointedChars (digits : List Char) (point : Int) : List Char :=
  if point ≤ 0 then '0' :: '.' :: List.replicate (-point).toNat '0' ++ digits
  else if (digits.length : Int) ≤ point then
    digits ++ List.replicate (point.toNat - digits.length) '0'
  else digits.take point.toNat ++ '.' :: digits.drop point.toNat

/-- Positional while the power is not positive and at most five zeros follow the point; otherwise
one digit stands before the point and a signed exponent follows. -/
def finiteChars (digits : Nat) (power : Int) : List Char :=
  let written := Nat.toDigits 10 digits
  let point := power + written.length
  if power ≤ 0 && -6 < point then pointedChars written point
  else
    let exponent := point - 1
    pointedChars written 1 ++ 'E' :: (if exponent < 0 then '-' else '+') ::
      Nat.toDigits 10 exponent.natAbs

def toChars : Scientific → List Char
  | finite negative digits power => sign negative ++ finiteChars digits power
  | infinite negative => sign negative ++ "Infinity".toList
  | nan negative signalling payload =>
    sign negative ++ (if signalling then ['s'] else []) ++ "NaN".toList ++
      if payload = 0 then [] else Nat.toDigits 10 payload
where
  sign (negative : Bool) : List Char := if negative then ['-'] else []

def text (x : Scientific) : String := String.ofList x.toChars

/-! ## Reading -/

/-- A sign and what follows it. -/
def splitSign : List Char → Bool × List Char
  | '-' :: cs => (true, cs)
  | '+' :: cs => (false, cs)
  | cs => (false, cs)

/-- A signed exponent after its mark, or nothing at all. -/
def exponent? : List Char → Option Int
  | [] => some 0
  | 'e' :: cs =>
    let (negative, digits) := splitSign cs
    if digits.isEmpty || !digits.all Text.isDigit then none
    else
      let n : Int := Decimal.digitsValue digits
      some (if negative then -n else n)
  | _ => none

def ofFiniteChars? (negative : Bool) (cs : List Char) : Option Scientific := do
  let d ← Decimal.ofUnsigned? (cs.takeWhile (· != 'e'))
  let power ← exponent? (cs.dropWhile (· != 'e'))
  some (finite negative d.coefficient.natAbs (power - d.places))

/-- The payload of a value that stands for no number. -/
def ofNanChars? (negative signalling : Bool) (payload : List Char) : Option Scientific :=
  if payload.all Text.isDigit then some (nan negative signalling (Decimal.digitsValue payload))
  else none

def ofText? (s : String) : Option Scientific :=
  let (negative, body) :=
    splitSign ((Text.lower (Text.trim s)).toList.filter (· != '_'))
  match body with
  | 'n' :: 'a' :: 'n' :: payload => ofNanChars? negative false payload
  | 's' :: 'n' :: 'a' :: 'n' :: payload => ofNanChars? negative true payload
  | _ =>
    if body == "inf".toList || body == "infinity".toList then some (infinite negative)
    else ofFiniteChars? negative body

end Scientific

end PayFormula

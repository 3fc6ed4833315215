import PayFormula.Value.Basic

/-!
# Equality of Values

Two values are the same when they are the same number, whatever the types they are held in, or the
same data otherwise.  Truth values count as the numbers one and zero.  What is not a number is
never the same as anything, itself included.
-/

namespace PayFormula.Value

/-- The exact worth of a finite number. -/
def rational? : Value → Option Rat
  | bool b => some (if b then 1 else 0)
  | int n => some n
  | float (.finite negative mantissa exponent) =>
    let (numerator, denominator) := Binary64.magnitudeFraction mantissa exponent
    let size : Rat := (numerator : Rat) / (denominator : Rat)
    some (if negative then -size else size)
  | decimal x@(.finite ..) => some x.toDecimal.toRat
  | _ => none

/-- The sign of an infinite number. -/
def infinity? : Value → Option Bool
  | float (.infinite negative) => some negative
  | decimal (.infinite negative) => some negative
  | _ => none

/-- The same number in any two types. -/
def sameNumber (a b : Value) : Bool :=
  match a.rational?, b.rational? with
  | some x, some y => x == y
  | none, none => match a.infinity?, b.infinity? with
    | some x, some y => x == y
    | _, _ => false
  | _, _ => false

mutual

def same : Value → Value → Bool
  | null, null => true
  | date a, date b => a == b
  | text a, text b => a == b
  | list as, list bs => sameItems as bs
  | map as, map bs => as.length == bs.length && within as bs
  | a, b => a.sameNumber b

def sameItems : List Value → List Value → Bool
  | [], [] => true
  | a :: as, b :: bs => same a b && sameItems as bs
  | _, _ => false

/-- Every entry of the first mapping is in the second one. -/
def within : List (Value × Value) → List (Value × Value) → Bool
  | [], _ => true
  | (key, value) :: rest, entries =>
    entries.any (fun entry ↦ same key entry.1 && same value entry.2) && within rest entries

end

instance : BEq Value := ⟨same⟩

/-- The mapping that pairs build when they are put one after another. -/
def ofPairs (pairs : List (Value × Value)) : Value := map (Table.ofPairs pairs)

/-- The value of a text key, when the mapping has one. -/
def valueAt? (key : String) (entries : List (Value × Value)) : Option Value :=
  Table.get? (text key) entries

end PayFormula.Value

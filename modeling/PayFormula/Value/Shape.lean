import PayFormula.Fault
import PayFormula.Text.Replace
import PayFormula.Value.Equality

/-!
# The Shape of Values

Data from callers is taken as a number, a text, a mapping or a sequence where the work needs one;
data of another shape is a fault.
-/

namespace PayFormula.Value

/-! ## Numbers -/

/-- A count with its fault. -/
def count (value : Value) : Except Fault Int :=
  match value.toCount with
  | .ok n => .ok n
  | .error cause => badData (.notACount cause)

/-- The side of zero on which a signed magnitude lies. -/
def signedSide (negative isZero : Bool) : Ordering :=
  if isZero then .eq else if negative then .lt else .gt

/-- The side of zero on which a number lies.  A double that is no number lies on none; a decimal
that is none cannot be compared, and other values are no numbers: that is the fault `otherwise`. -/
def sideOfZero (otherwise : DataFault) : Value → Except Fault (Option Ordering)
  | bool b => .ok (some (if b then .gt else .eq))
  | int n => .ok (some (compare n 0))
  | float .nan => .ok none
  | float (.infinite negative) => .ok (some (signedSide negative false))
  | float (.finite negative mantissa _) => .ok (some (signedSide negative (mantissa == 0)))
  | decimal (.nan ..) => badData .noDecimalResult
  | decimal (.infinite negative) => .ok (some (signedSide negative false))
  | decimal (.finite negative digits _) => .ok (some (signedSide negative (digits == 0)))
  | _ => badData otherwise

/-! ## Sequences -/

/-- The members of a value that is walked through: the items of a list, the characters of a text,
the keys of a mapping. -/
def members : Value → Except Fault (List Value)
  | list items => .ok items
  | text s => .ok (s.toList.map fun c ↦ text c.toString)
  | map entries => .ok (entries.map (·.1))
  | value => badData (.notIterable value.typeName)

/-- The texts of a sequence, the first of which stands at `index`. -/
def textsFrom (index : Nat) : List Value → Except Fault (List String)
  | [] => .ok []
  | text s :: rest => do return s :: (← textsFrom (index + 1) rest)
  | value :: _ => badData (.notAMember index value.typeName)

/-- Texts joined to one. -/
def joined (mark : String) (values : List Value) : Except Fault String :=
  (textsFrom 0 values).map mark.intercalate

/-- The member at a position; a negative one counts from the end. -/
def memberAt (typeName : String) (items : List Value) (position : Int) : Except Fault Value :=
  let index := if position < 0 then position + items.length else position
  match (if index < 0 then none else items[index.toNat]?) with
  | some item => .ok item
  | none => badData (.outOfRange typeName)

/-! ## Mappings -/

/-- A key of a mapping is plain data, and no signalling number. -/
def checkKey : Value → Except Fault Unit
  | value@(list _) | value@(map _) => badData (.unhashable value.typeName)
  | decimal (.nan _ true _) => badData .signallingKey
  | _ => .ok ()

/-- One member of a sequence of pairs, at the given place. -/
def pairAt (index : Nat) (value : Value) : Except Fault (Value × Value) := do
  match value.members with
  | .error _ => badData (.pairNotASequence index)
  | .ok [key, item] =>
    checkKey key
    return (key, item)
  | .ok items => badData (.pairOfWrongLength index items.length)

def pairsFrom (index : Nat) : List Value → Except Fault (List (Value × Value))
  | [] => .ok []
  | value :: rest => do
    let pair ← pairAt index value
    return pair :: (← pairsFrom (index + 1) rest)

/-- The entries of a mapping, or of what spells one as a sequence of pairs. -/
def entriesOf : Value → Except Fault (List (Value × Value))
  | map entries => .ok entries
  | value => do
    let pairs ← pairsFrom 0 (← value.members)
    return Table.ofPairs pairs

/-- The entries of a mapping and nothing else; `member` is what is asked of it. -/
def mappingEntries (member : String) : Value → Except Fault (List (Value × Value))
  | map entries => .ok entries
  | value => badData (.noAttribute value.typeName member)

/-- An absent value counts as an empty mapping. -/
def orEmpty (value : Value) : Value := if value.isTruthy then value else map []

/-- The value under a text key, null when there is none. -/
def lookup (key : String) (entries : List (Value × Value)) : Value :=
  (valueAt? key entries).getD null

/-! ## Looking inside -/

/-- Whether a container has a member, or a mapping a key, or a text a part. -/
def holds (container key : Value) : Except Fault Bool :=
  match container with
  | list items => .ok (items.any (· == key))
  | map entries => do
    checkKey key
    return (Table.get? key entries).isSome
  | text s =>
    match key with
    | text part => .ok (Text.contains part s)
    | key => badData (.notAPart key.typeName)
  | value => badData (.notAContainer value.typeName)

/-- The value under a key or at a position, which has to be there. -/
def entryAt (container key : Value) : Except Fault Value :=
  match container with
  | map entries => do
    checkKey key
    match Table.get? key entries with
    | some value => return value
    | none => badData (.missingKey key)
  | list items =>
    match key with
    | int n => memberAt "list" items n
    | bool b => memberAt "list" items (if b then 1 else 0)
    | key => badData (.notIndexable "list" key.typeName)
  | text s =>
    let items := s.toList.map fun c ↦ text c.toString
    match key with
    | int n => memberAt "str" items n
    | bool b => memberAt "str" items (if b then 1 else 0)
    | key => badData (.notIndexable "str" key.typeName)
  | value => badData (.notIndexable value.typeName key.typeName)

/-- The value under a text key. -/
def field (key : String) (value : Value) : Except Fault Value := value.entryAt (text key)

end PayFormula.Value

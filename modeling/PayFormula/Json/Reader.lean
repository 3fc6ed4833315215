import PayFormula.Value.Equality

/-!
# Reading Data Interchange Text

A table of tiers reaches a formula as text in the usual interchange notation: objects, arrays,
quoted texts, numbers and the words `true`, `false` and `null`.  Besides these the words `NaN`,
`Infinity` and `-Infinity` are numbers.  A number with a fraction or an exponent is a double and any
other an integer; a repeated key keeps its first place and takes its last value; only the space,
the tab and the two line ends are blanks; and nothing but blanks may follow the value.

Every level and every member takes characters of its own, so the length of a text bounds the steps
that reading it takes.
-/

namespace PayFormula.Json

/-- What reads a part of a text and leaves the characters after it. -/
abbrev Reader (α : Type) := List Char → Option (α × List Char)

def isBlank (c : Char) : Bool := c == ' ' || c == '\t' || c == '\n' || c == '\r'

def skipBlanks (cs : List Char) : List Char := cs.dropWhile isBlank

/-! ## Numbers -/

/-- A nonempty run of digits. -/
def digits : Reader (List Char) := fun cs ↦
  let run := cs.takeWhile Char.isDigit
  if run.isEmpty then none else some (run, cs.dropWhile Char.isDigit)

/-- Whole digits: a zero stands alone. -/
def wholeDigits : Reader (List Char)
  | '0' :: rest => some (['0'], rest)
  | cs => digits cs

/-- The digits of a fraction, none when no fraction follows. -/
def fractionDigits : List Char → List Char × List Char
  | '.' :: rest => (digits rest).getD ([], '.' :: rest)
  | cs => ([], cs)

/-- An exponent, when one follows. -/
def exponentPart (cs : List Char) : Option Int × List Char :=
  match cs with
  | 'e' :: rest | 'E' :: rest =>
    let (negative, unsigned) := Scientific.splitSign rest
    match digits unsigned with
    | some (run, after) =>
      let n : Int := Decimal.digitsValue run
      (some (if negative then -n else n), after)
    | none => (none, cs)
  | cs => (none, cs)

/-- A number without its sign. -/
def unsignedNumber (negative : Bool) : Reader Value := fun cs ↦ do
  let (whole, rest) ← wholeDigits cs
  let (fraction, rest) := fractionDigits rest
  let (exponent?, rest) := exponentPart rest
  let n := Decimal.digitsValue (whole ++ fraction)
  if fraction.isEmpty && exponent?.isNone then
    some (.int (if negative then -(n : Int) else n), rest)
  else
    some (.float (.ofDecimal negative n (exponent?.getD 0 - fraction.length)), rest)

/-! ## Quoted text -/

def hexValue? (c : Char) : Option Nat :=
  if c.isDigit then some (c.toNat - '0'.toNat)
  else if 'a' ≤ c && c ≤ 'f' then some (c.toNat - 'a'.toNat + 10)
  else if 'A' ≤ c && c ≤ 'F' then some (c.toNat - 'A'.toNat + 10)
  else none

/-- Four hexadecimal digits. -/
def hexUnit? : List Char → Option Nat
  | [a, b, c, d] => do
    return ((← hexValue? a) * 16 + (← hexValue? b)) * 256 + (← hexValue? c) * 16 + (← hexValue? d)
  | _ => none

def isHighSurrogate (unit : Nat) : Bool := 0xD800 ≤ unit && unit ≤ 0xDBFF

def isLowSurrogate (unit : Nat) : Bool := 0xDC00 ≤ unit && unit ≤ 0xDFFF

/-- The unit of an escape right at the front, with its mark. -/
def escapedUnit? (cs : List Char) : Option Nat :=
  match cs with
  | '\\' :: 'u' :: rest => hexUnit? (rest.take 4)
  | _ => none

/-- The character of an escaped unit and the number of characters that it takes after the mark: a
pair of surrogates is one character, and a surrogate alone stands for no character. -/
def unitChar? (cs : List Char) : Option (Char × Nat) := do
  let unit ← hexUnit? (cs.take 4)
  if isHighSurrogate unit then
    match escapedUnit? (cs.drop 4) with
    | some low =>
      if isLowSurrogate low then
        return (Char.ofNat (0x10000 + (unit - 0xD800) * 0x400 + (low - 0xDC00)), 10)
      else return ('\uFFFD', 4)
    | none => return ('\uFFFD', 4)
  else if isLowSurrogate unit then return ('\uFFFD', 4)
  else return (Char.ofNat unit, 4)

def simpleEscape? : Char → Option Char
  | '"' => some '"'
  | '\\' => some '\\'
  | '/' => some '/'
  | 'b' => some '\x08'
  | 'f' => some '\x0c'
  | 'n' => some '\n'
  | 'r' => some '\r'
  | 't' => some '\t'
  | _ => none

/-- The content of a quoted text after `skip` characters of an escape, up to its closing quote.
Control characters have to be escaped. -/
def quotedContent (skip : Nat) : Reader (List Char)
  | [] => none
  | c :: rest =>
    match skip with
    | skip + 1 => quotedContent skip rest
    | 0 =>
      if c = '"' then some ([], rest)
      else if c = '\\' then
        match rest with
        | [] => none
        | 'u' :: after => do
          let (character, length) ← unitChar? after
          let (content, rest) ← quotedContent (length + 1) rest
          return (character :: content, rest)
        | mark :: _ => do
          let character ← simpleEscape? mark
          let (content, rest) ← quotedContent 1 rest
          return (character :: content, rest)
      else if c.toNat < 0x20 then none
      else do
        let (content, rest) ← quotedContent 0 rest
        return (c :: content, rest)

/-! ## Values -/

/-- Step over a word. -/
def word? (word : String) (cs : List Char) : Option (List Char) :=
  if word.toList.isPrefixOf cs then some (cs.drop word.length) else none

/-- The words that stand for values. -/
def words : List (String × Value) :=
  [("null", .null), ("true", .bool true), ("false", .bool false), ("NaN", .float .nan),
   ("Infinity", .float (.infinite false)), ("-Infinity", .float (.infinite true))]

/-- A word, a quoted text or a number. -/
def scalar : Reader Value := fun cs ↦
  match words.findSome? fun (word, value) ↦ (word? word cs).map (value, ·) with
  | some found => some found
  | none =>
    match cs with
    | '"' :: rest => (quotedContent 0 rest).map fun (content, rest) ↦
        (.text (String.ofList content), rest)
    | '-' :: rest => unsignedNumber true rest
    | cs => unsignedNumber false cs

mutual

/-- A value that is read in at most `steps` steps. -/
def value : (steps : Nat) → Reader Value
  | 0, _ => none
  | steps + 1, cs =>
    match cs with
    | '[' :: rest =>
      match skipBlanks rest with
      | ']' :: rest => some (.list [], rest)
      | rest => do
        let (items, rest) ← arrayItems steps rest
        return (.list items, rest)
    | '\x7b' :: rest =>
      match skipBlanks rest with
      | '\x7d' :: rest => some (.map [], rest)
      | rest => do
        let (members, rest) ← objectMembers steps rest
        return (.ofPairs members, rest)
    | cs => scalar cs

/-- One or more values up to the end of an array. -/
def arrayItems : (steps : Nat) → Reader (List Value)
  | 0, _ => none
  | steps + 1, cs => do
    let (item, rest) ← value steps cs
    match skipBlanks rest with
    | ']' :: rest => return ([item], rest)
    | ',' :: rest => do
      let (items, rest) ← arrayItems steps (skipBlanks rest)
      return (item :: items, rest)
    | _ => none

/-- One or more members up to the end of an object. -/
def objectMembers : (steps : Nat) → Reader (List (Value × Value))
  | 0, _ => none
  | steps + 1, cs => do
    let '"' :: rest := cs | none
    let (key, rest) ← quotedContent 0 rest
    let ':' :: rest := skipBlanks rest | none
    let (item, rest) ← value steps (skipBlanks rest)
    let member := (Value.text (String.ofList key), item)
    match skipBlanks rest with
    | '\x7d' :: rest => return ([member], rest)
    | ',' :: rest => do
      let (members, rest) ← objectMembers steps (skipBlanks rest)
      return (member :: members, rest)
    | _ => none

end

/-- The value that a text spells. -/
def read? (s : String) : Option Value := do
  let cs := skipBlanks s.toList
  let (found, rest) ← value (cs.length + 1) cs
  if (skipBlanks rest).isEmpty then some found else none

end PayFormula.Json

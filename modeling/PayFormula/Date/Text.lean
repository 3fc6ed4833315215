import PayFormula.Date.Basic
import PayFormula.Text.Digit

/-!
# Date Text

Dates are written as year, month and day with hyphens.  Reading also takes the forms without
hyphens, the forms with a week number, and, in digits of any script, months and days of one digit.
-/

namespace PayFormula.Date

open Text

def padded (width n : Nat) : String :=
  String.ofList (List.leftpad width '0' (Nat.toDigits 10 n))

def iso (d : Date) : String :=
  padded 4 d.year ++ "-" ++ padded 2 d.month ++ "-" ++ padded 2 d.day

/-! ## Reading -/

/-- The value of `width` leading ASCII digits, and what follows them. -/
def digits? (width : Nat) (cs : List Char) : Option (Nat × List Char) :=
  let digits := cs.take width
  if digits.length = width && digits.all Char.isDigit then
    some (digits.foldl (fun n c ↦ 10 * n + (c.toNat - '0'.toNat)) 0, cs.drop width)
  else none

/-- Step over a hyphen where the form has hyphens. -/
def hyphen? (hyphenated : Bool) : List Char → Option (List Char)
  | '-' :: cs => if hyphenated then some cs else none
  | cs => if hyphenated then none else some cs

def ofWeekForm? (year : Nat) (hyphenated : Bool) (cs : List Char) : Option Date := do
  let (week, cs) ← digits? 2 cs
  match cs with
  | [] => ofWeek? year week 1
  | cs => do
    let cs ← hyphen? hyphenated cs
    let (weekday, _) ← digits? 1 cs
    ofWeek? year week weekday

/-- The basic and extended calendar and week forms, seven, eight or ten bytes long.  What follows
a date within these lengths is passed over. -/
def ofIsoChars? (cs : List Char) : Option Date := do
  if !([7, 8, 10].contains (String.ofList cs).utf8ByteSize) then none
  let (year, rest) ← digits? 4 cs
  let (hyphenated, rest) := match rest with
    | '-' :: rest => (true, rest)
    | rest => (false, rest)
  match rest with
  | 'W' :: rest => ofWeekForm? year hyphenated rest
  | rest => do
    let (month, rest) ← digits? 2 rest
    let rest ← hyphen? hyphenated rest
    let (day, _) ← digits? 2 rest
    ofNumbers? year month day

/-- One or two digits, and what follows them. -/
def shortNumber (cs : List Char) : Option (Nat × List Char) :=
  match cs.map digitValue? with
  | some a :: some b :: _ => some (10 * a + b, cs.drop 2)
  | some a :: _ => some (a, cs.drop 1)
  | _ => none

/-- Year, month and day in digits of any script, with or without zeros in front. -/
def ofLooseChars? (cs : List Char) : Option Date := do
  let year ← (cs.take 4).mapM digitValue?
  if year.length ≠ 4 then none
  let '-' :: rest := cs.drop 4 | none
  let (month, rest) ← shortNumber rest
  let '-' :: rest := rest | none
  let (day, rest) ← shortNumber rest
  if rest.isEmpty || rest == ['\n'] then
    ofNumbers? (year.foldl (fun n d ↦ 10 * n + d) 0) month day
  else none

def ofText? (s : String) : Option Date :=
  (ofIsoChars? s.toList).orElse fun _ ↦ ofLooseChars? s.toList

end PayFormula.Date

/-!
# Calendar Dates

Days of the Gregorian calendar, carried back and forward over the years 1 to 9999.
-/

namespace PayFormula

structure Date where
  year : Nat
  month : Nat
  day : Nat
  deriving DecidableEq, Repr, Inhabited

namespace Date

def isLeapYear (year : Nat) : Bool :=
  year % 4 == 0 && (year % 100 != 0 || year % 400 == 0)

def daysInMonth (year : Nat) : Nat → Nat
  | 2 => if isLeapYear year then 29 else 28
  | 4 | 6 | 9 | 11 => 30
  | _ => 31

/-- A day that the calendar has. -/
def isValid (d : Date) : Bool :=
  1 ≤ d.year && d.year ≤ 9999 && 1 ≤ d.month && d.month ≤ 12 &&
    1 ≤ d.day && d.day ≤ daysInMonth d.year d.month

def ofNumbers? (year month day : Nat) : Option Date :=
  let d : Date := ⟨year, month, day⟩
  if d.isValid then some d else none

/-! ## Counting days -/

/-- The days before the first day of a year, counted from the first day of the year 1. -/
def daysBeforeYear (year : Nat) : Nat :=
  let past := year - 1
  past * 365 + past / 4 - past / 100 + past / 400

/-- The date `offset` days after the first day of a month. -/
def ofOffset? : (months : List Nat) → (year offset : Nat) → Option Date
  | [], _, _ => none
  | month :: rest, year, offset =>
    let size := daysInMonth year month
    if offset < size then ofNumbers? year month (offset + 1)
    else ofOffset? rest year (offset - size)

/-- The date of a day counted from the first day of a year, which may lie in a neighbouring
year. -/
def ofYearOffset? (year : Nat) (offset : Int) : Option Date :=
  let months := [1, 2, 3, 4, 5, 6, 7, 8, 9, 10, 11, 12]
  let size := if isLeapYear year then 366 else 365
  if offset < 0 then
    ofOffset? months (year - 1) ((if isLeapYear (year - 1) then 366 else 365) + offset).toNat
  else if (size : Int) ≤ offset then ofOffset? months (year + 1) (offset - size).toNat
  else ofOffset? months year offset.toNat

/-- Monday is 0. -/
def firstWeekday (year : Nat) : Nat := daysBeforeYear year % 7

/-- The date of a weekday of a numbered week.  The first week of a year is the one that holds its
first Thursday; a year has a week 53 when it starts on a Thursday, or on a Wednesday as a leap
year. -/
def ofWeek? (year week weekday : Nat) : Option Date :=
  let first := firstWeekday year
  let hasLongYear := first == 3 || (first == 2 && isLeapYear year)
  if year = 0 || week = 0 || 53 < week || (week = 53 && !hasLongYear) || weekday = 0 ||
      7 < weekday then none
  else
    let monday : Int := if first ≤ 3 then -(first : Int) else 7 - first
    ofYearOffset? year (monday + 7 * (week - 1) + (weekday - 1))

end Date

end PayFormula

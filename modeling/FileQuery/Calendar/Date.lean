/-!
Dates of the Gregorian calendar, extended backwards to the first of January of year 1, and their
ordinals: the number of days from the last day before that year.
-/

namespace FileQuery.Calendar

structure Date where
  year : Nat
  month : Nat
  day : Nat
deriving DecidableEq, Repr

def isLeap (year : Nat) : Bool :=
  year % 4 == 0 && (year % 100 != 0 || year % 400 == 0)

/-- Number of days in a month; none in a month that does not exist. -/
def daysInMonth (year : Nat) : Nat → Nat
  | 1 => 31
  | 2 => if isLeap year then 29 else 28
  | 3 => 31
  | 4 => 30
  | 5 => 31
  | 6 => 30
  | 7 => 31
  | 8 => 31
  | 9 => 30
  | 10 => 31
  | 11 => 30
  | 12 => 31
  | _ => 0

def daysBeforeYear (year : Nat) : Nat :=
  let y := year - 1
  y * 365 + y / 4 - y / 100 + y / 400

def daysBeforeMonth (year : Nat) : Nat → Nat
  | 0 => 0
  | month + 1 => daysBeforeMonth year month + daysInMonth year month

/-- The first and the last year with dates. -/
def firstYear : Nat := 1

@[inherit_doc firstYear] def lastYear : Nat := 9999

namespace Date

def isValid (d : Date) : Bool :=
  firstYear ≤ d.year && d.year ≤ lastYear && 1 ≤ d.month && d.month ≤ 12 && 1 ≤ d.day &&
    d.day ≤ daysInMonth d.year d.month

/-- The ordinal of a date; the first of January of year 1 has ordinal 1. -/
def ordinal (d : Date) : Nat :=
  daysBeforeYear d.year + daysBeforeMonth d.year d.month + d.day

/-- Finds the month and the day of the month of the given day of a year, counted from 0. -/
def ofDayOfYear (year : Nat) (month dayOfYear : Nat) : Nat → Date
  | 0 => ⟨year, month, dayOfYear + 1⟩
  | months + 1 =>
    if dayOfYear < daysInMonth year month then ⟨year, month, dayOfYear + 1⟩
    else ofDayOfYear year (month + 1) (dayOfYear - daysInMonth year month) months

def ofOrdinal (ordinal : Nat) : Date :=
  let n := ordinal - 1
  let centuries4 := n / 146097
  let n := n % 146097
  let centuries := min (n / 36524) 3
  let n := n - centuries * 36524
  let years4 := n / 1461
  let n := n % 1461
  let years := min (n / 365) 3
  let year := centuries4 * 400 + centuries * 100 + years4 * 4 + years + 1
  ofDayOfYear year 1 (n - years * 365) 11

/-- Day of the week, Monday 0. -/
def weekday (d : Date) : Nat := (d.ordinal + 6) % 7

end Date

def padded (width n : Nat) : String :=
  let digits := (toString n).toList
  String.ofList (List.replicate (width - digits.length) '0' ++ digits)

def Date.iso (d : Date) : String :=
  padded 4 d.year ++ "-" ++ padded 2 d.month ++ "-" ++ padded 2 d.day

/-- The ordinal of the Monday that starts the first week of a year: the week with its first
Thursday. -/
def firstMonday (year : Nat) : Nat :=
  let first := (Date.mk year 1 1).ordinal
  let weekday := (Date.mk year 1 1).weekday
  if weekday ≤ 3 then first - weekday else first + 7 - weekday

/-- Whether a year has 53 weeks: it starts on a Thursday, or it is a leap year that starts on a
Wednesday. -/
def hasLongWeekYear (year : Nat) : Bool :=
  let weekday := (Date.mk year 1 1).weekday
  weekday == 3 || (weekday == 2 && isLeap year)

/-- The date of a day of a numbered week, if both exist. -/
def Date.ofWeek? (year week day : Nat) : Option Date :=
  let weekExists := 1 ≤ week && (week ≤ 52 || (week == 53 && hasLongWeekYear year))
  if firstYear ≤ year && year ≤ lastYear && weekExists && 1 ≤ day && day ≤ 7 then
    let d := Date.ofOrdinal (firstMonday year + (week - 1) * 7 + (day - 1))
    if d.isValid then some d else none
  else none

end FileQuery.Calendar

/-!
# The calendar

Days of the proleptic Gregorian calendar, counted from the first of January 1970, and the years
that an instant may lie in. Years are counted with March first, so that the leap day is the last
day of its year, and in eras of four hundred years, after which the calendar repeats.
-/

namespace Enrollment.Calendar

/-- A date by year, month and day of the month. -/
structure Date where
  /-- The year; the year before the first is 0. -/
  year : Int
  month : Nat
  day : Nat
  deriving DecidableEq, Repr

def isLeap (year : Int) : Bool :=
  year % 4 == 0 && (year % 100 != 0 || year % 400 == 0)

def monthLength (year : Int) (month : Nat) : Nat :=
  match month with
  | 2 => if isLeap year then 29 else 28
  | 4 | 6 | 9 | 11 => 30
  | _ => 31

def Date.isValid (d : Date) : Bool :=
  1 ≤ d.month && d.month ≤ 12 && 1 ≤ d.day && d.day ≤ monthLength d.year d.month

/-- Days from the first of January 1970 to a date. -/
def dayNumber (d : Date) : Int :=
  let year := if d.month ≤ 2 then d.year - 1 else d.year
  let era := year / 400
  let yearOfEra := year % 400
  let monthFromMarch : Int := ((d.month + 9) % 12 : Nat)
  let dayOfYear := (153 * monthFromMarch + 2) / 5 + d.day - 1
  let dayOfEra := yearOfEra * 365 + yearOfEra / 4 - yearOfEra / 100 + dayOfYear
  era * 146097 + dayOfEra - 719468

/-- The date that lies a number of days after the first of January 1970. -/
def dateOf (day : Int) : Date :=
  let day := day + 719468
  let era := day / 146097
  let dayOfEra := day % 146097
  let yearOfEra :=
    (dayOfEra - dayOfEra / 1460 + dayOfEra / 36524 - dayOfEra / 146096) / 365
  let dayOfYear := dayOfEra - (365 * yearOfEra + yearOfEra / 4 - yearOfEra / 100)
  let monthFromMarch := (5 * dayOfYear + 2) / 153
  let dayOfMonth := dayOfYear - (153 * monthFromMarch + 2) / 5 + 1
  let month := if monthFromMarch < 10 then monthFromMarch + 3 else monthFromMarch - 9
  let year := yearOfEra + era * 400
  ⟨if month ≤ 2 then year + 1 else year, month.toNat, dayOfMonth.toNat⟩

/-- The first year an instant may lie in. -/
def firstYear : Int := -262143

/-- The last year an instant may lie in. -/
def lastYear : Int := 262142

/-- The first day an instant may lie on. -/
def firstDay : Int := -96465292

/-- The last day an instant may lie on. -/
def lastDay : Int := 95026236

end Enrollment.Calendar

/-!
# Dates

The Gregorian calendar, extended to all years. A date has a day number, counted
from 0 on 1 January of year 1, and a month number, counted from 0 in January of
year 0. `Date.ofDayNumber` reads a day number back by taking out periods of 400,
100, 4 and 1 years.
-/

namespace TimeWindow

/-- A date; the fields of a real date are within the bounds of the calendar. -/
structure Date where
  year : Int
  month : Int
  day : Int
  deriving DecidableEq, Repr

namespace Calendar

def isLeap (year : Int) : Bool :=
  year % 4 = 0 && (year % 100 ≠ 0 || year % 400 = 0)

def monthLength (year month : Int) : Int :=
  if month = 2 then (if isLeap year then 29 else 28)
  else if month = 4 ∨ month = 6 ∨ month = 9 ∨ month = 11 then 30
  else 31

def yearStart (year : Int) : Int :=
  let past := year - 1
  365 * past + past / 4 - past / 100 + past / 400

/-- Days of the year before a month: the months of 30 and 31 days follow a
straight line, which February breaks. -/
def daysBefore (year month : Int) : Int :=
  (367 * month - 362) / 12 +
    (if month ≤ 2 then 0 else if isLeap year then -1 else -2)

def yearOf (n : Int) : Int :=
  let fourCenturies := n / 146097
  let r := n % 146097
  let centuries := r / 36524
  let r := r % 36524
  let fourYears := r / 1461
  let r := r % 1461
  let years := r / 365
  400 * fourCenturies + 100 * centuries + 4 * fourYears + years +
    (if centuries = 4 ∨ years = 4 then 0 else 1)

/-- The month in which the day of a year falls, both counted from zero and
one. -/
def monthOf (year dayOfYear : Int) : Int :=
  let afterFebruary := if isLeap year then 60 else 59
  let bent := if dayOfYear < afterFebruary then dayOfYear
    else if isLeap year then dayOfYear + 1 else dayOfYear + 2
  (12 * bent + 373) / 367

end Calendar

namespace Date

open Calendar

def dayNumber (d : Date) : Int :=
  yearStart d.year + daysBefore d.year d.month + d.day - 1

def ofDayNumber (n : Int) : Date :=
  let year := yearOf n
  let dayOfYear := n - yearStart year
  let month := monthOf year dayOfYear
  { year, month, day := dayOfYear - daysBefore year month + 1 }

def monthNumber (d : Date) : Int := 12 * d.year + d.month - 1

def isReal (d : Date) : Bool :=
  1 ≤ d.year && d.year ≤ 9999 && 1 ≤ d.month && d.month ≤ 12 && 1 ≤ d.day &&
    d.day ≤ monthLength d.year d.month

/-- The date some months later: the same day, or the last one of the month when
that is shorter. -/
def addMonths (d : Date) (n : Int) : Date :=
  let months := d.monthNumber + n
  let year := months / 12
  let month := months % 12 + 1
  { year, month, day := min d.day (monthLength year month) }

def monthStart (d : Date) : Date := { d with day := 1 }

def quarterStart (d : Date) : Date :=
  { d with month := (d.month - 1) / 3 * 3 + 1, day := 1 }

def yearFirst (d : Date) : Date := { d with month := 1, day := 1 }

def weekday (d : Date) : Int := d.dayNumber % 7

end Date

end TimeWindow

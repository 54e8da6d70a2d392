import TimeWindow.Calendar.Unit
import TimeWindow.Instant

/-!
# Shifting and rounding instants

Hours, minutes and seconds pass on the time line; days and longer units pass on
the calendar of a zone. Rounding goes to the beginning of a unit on the zone's
wall clock, or to the last millisecond before the next one begins; fiscal years
and quarters begin with a month of choice.
-/

namespace TimeWindow.DateMath

def shift (i : Instant) (amount : Int) (unit : CalendarUnit) (z : Zone) :
    Except Fault Instant :=
  match unit.length? with
  | some length => do
    let utc ← i.toUtc
    let moved ← (utc.add (amount * length)).checked
    z.ofUtc moved
  | none => do
    let here ← i.toZone z
    let moved ← here.wall.addUnits amount unit
    z.localize moved

def startOf (i : Instant) (unit : CalendarUnit) (z : Zone)
    (weekStart : Option WeekStart) : Except Fault Instant := do
  let here ← i.toZone z
  match weekStart with
  | some day =>
    let start ← (here.wall.startOf day unit).checked
    z.localize start
  | none =>
    if unit = .week then .error .unknownWeekStart
    else z.localize (here.wall.startOf .sunday unit)

def lastMoment : Int := 1000

def endOf (i : Instant) (unit : CalendarUnit) (z : Zone)
    (weekStart : Option WeekStart) : Except Fault Instant := do
  let start ← startOf i unit z weekStart
  let next ← shift start 1 unit z
  let utc ← next.toUtc
  let last ← (utc.add (-lastMoment)).checked
  z.ofUtc last

def fiscalMonths? : CalendarUnit → Option Int
  | .year => some 12
  | .quarter => some 3
  | _ => none

/-- The first day of the month in which the fiscal unit of `months` months
began. -/
def fiscalStart (firstMonth : Int) (i : Instant) (months : Int) (z : Zone) :
    Except Fault Instant := do
  let here ← i.toZone z
  let back := (here.wall.date.month - 1 - firstMonth + months) % months
  let moved ← shift i (-back) .month z
  startOf moved .month z (some .sunday)

/-- Rounds to the beginning or the end of a fiscal year or quarter; other units
have no fiscal form and change nothing. -/
def roundToFiscal (firstMonth : Int) (i : Instant) (unit : CalendarUnit)
    (roundUp : Bool) (z : Zone) :
    Except Fault Instant :=
  match fiscalMonths? unit with
  | none => .ok i
  | some months => do
    let start ← fiscalStart firstMonth i months z
    if roundUp then
      let lastMonth ← shift start (months - 1) .month z
      endOf lastMonth .month z (some .sunday)
    else return start

end TimeWindow.DateMath

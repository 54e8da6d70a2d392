import TimeWindow.Calendar.Date
import TimeWindow.Fault

/-!
# Wall time

What a clock on the wall and a calendar beside it show, to the microsecond:
microseconds since midnight of 1 January of year 1. Arithmetic is unbounded;
`Wall.checked` refuses what lies outside the years 1 to 9999.
-/

namespace TimeWindow

structure Wall where
  ticks : Int
  deriving DecidableEq, Repr

namespace Calendar

def second : Int := 1000000
def minute : Int := 60 * second
def hour : Int := 60 * minute
def day : Int := 24 * hour

def ending : Int := 3652059 * day

end Calendar

structure ClockTime where
  hour : Int
  minute : Int
  second : Int
  microsecond : Int
  deriving DecidableEq, Repr

namespace ClockTime

def midnight : ClockTime := ⟨0, 0, 0, 0⟩

def isReal (c : ClockTime) : Bool :=
  0 ≤ c.hour && c.hour < 24 && 0 ≤ c.minute && c.minute < 60 && 0 ≤ c.second &&
    c.second < 60
    && 0 ≤ c.microsecond && c.microsecond < 1000000

def ticks (c : ClockTime) : Int :=
  c.hour * Calendar.hour + c.minute * Calendar.minute +
    c.second * Calendar.second + c.microsecond

def ofTicks (t : Int) : ClockTime where
  hour := t / Calendar.hour
  minute := t % Calendar.hour / Calendar.minute
  second := t % Calendar.minute / Calendar.second
  microsecond := t % Calendar.second

end ClockTime

namespace Wall

def inRange (w : Wall) : Bool := 0 ≤ w.ticks && w.ticks < Calendar.ending

def checked (w : Wall) : Except Fault Wall :=
  if w.inRange then .ok w else .error .beyondCalendar

def add (w : Wall) (ticks : Int) : Wall := ⟨w.ticks + ticks⟩

def dayNumber (w : Wall) : Int := w.ticks / Calendar.day

def date (w : Wall) : Date := .ofDayNumber w.dayNumber

def sinceMidnight (w : Wall) : Int := w.ticks % Calendar.day

def time (w : Wall) : ClockTime := .ofTicks w.sinceMidnight

def onDate (d : Date) (sinceMidnight : Int) : Wall :=
  ⟨d.dayNumber * Calendar.day + sinceMidnight⟩

/-- The reading with the given fields, if they are all within their bounds. -/
def of? (d : Date) (c : ClockTime) : Option Wall :=
  if d.isReal && c.isReal then some (onDate d c.ticks) else none

def floorTo (w : Wall) (length : Int) : Wall := ⟨w.ticks - w.ticks % length⟩

def weekday (w : Wall) : Int := w.dayNumber % 7

theorem checked_eq_ok {w v : Wall} :
    w.checked = .ok v ↔ v = w ∧ w.inRange = true := by
  unfold checked
  split
  · constructor
    · intro h; injection h with h; exact ⟨h.symm, ‹_›⟩
    · rintro ⟨rfl, _⟩; rfl
  · constructor
    · intro h; cases h
    · rintro ⟨_, h⟩; contradiction

end Wall

end TimeWindow

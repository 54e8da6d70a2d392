import TimeWindow.Calendar.Wall

/-!
# Calendar units

The units of date math. Every unit cuts the wall time into stretches, and
`Wall.startOf` finds the beginning of the one a reading lies in.
-/

namespace TimeWindow

inductive CalendarUnit where
  | year
  | quarter
  | month
  | week
  | day
  | hour
  | minute
  | second
  deriving DecidableEq, Repr

namespace CalendarUnit

def letter : CalendarUnit → Char
  | year => 'y'
  | quarter => 'Q'
  | month => 'M'
  | week => 'w'
  | day => 'd'
  | hour => 'h'
  | minute => 'm'
  | second => 's'

def all : List CalendarUnit :=
  [year, month, week, day, hour, minute, second, quarter]

def ofLetter? (c : Char) : Option CalendarUnit :=
  all.find? fun u => u.letter = c

/-- The unit that a text names; any text that names none counts as the day. -/
def ofText (s : String) : CalendarUnit :=
  match s.toList with
  | [c] => (ofLetter? c).getD day
  | _ => day

/-- Microseconds in a unit whose length never changes: hours, minutes and
seconds pass on the time line, and all other units on the calendar. -/
def length? : CalendarUnit → Option Int
  | hour => some Calendar.hour
  | minute => some Calendar.minute
  | second => some Calendar.second
  | _ => none

theorem ofLetter?_letter (u : CalendarUnit) : ofLetter? u.letter = some u :=
  by cases u <;> decide

end CalendarUnit

inductive WeekStart where
  | monday
  | saturday
  | sunday
  deriving DecidableEq, Repr

namespace WeekStart

def name : WeekStart → String
  | monday => "monday"
  | saturday => "saturday"
  | sunday => "sunday"

def ofName? (s : String) : Option WeekStart :=
  [monday, saturday, sunday].find? fun w => w.name = s

def weekday : WeekStart → Int
  | monday => 0
  | saturday => 5
  | sunday => 6

theorem ofName?_name (w : WeekStart) : ofName? w.name = some w :=
  by cases w <;> decide

end WeekStart

namespace Wall

/-- The beginning of the unit in which a reading lies; a week may begin before
the calendar does. -/
def startOf (w : Wall) (weekStart : WeekStart) : CalendarUnit → Wall
  | .second => w.floorTo Calendar.second
  | .minute => w.floorTo Calendar.minute
  | .hour => w.floorTo Calendar.hour
  | .day => w.floorTo Calendar.day
  | .week =>
    (w.floorTo Calendar.day).add
      (-((w.weekday - weekStart.weekday) % 7 * Calendar.day))
  | .month => onDate w.date.monthStart 0
  | .quarter => onDate w.date.quarterStart 0
  | .year => onDate w.date.yearFirst 0

def widestYear : Int := 2147483647

/-- The reading some months later, at the same time of day and on the same day
of the month as far as there is one. -/
def addMonths (w : Wall) (months : Int) : Except Fault Wall :=
  let date := w.date.addMonths months
  if date.year < -widestYear - 1 || widestYear < date.year then
    .error .beyondCalendar
  else if date.year < 1 || 9999 < date.year then .error .fieldOutOfRange
  else .ok (onDate date w.sinceMidnight)

def addUnits (w : Wall) (amount : Int) : CalendarUnit → Except Fault Wall
  | .year => w.addMonths (12 * amount)
  | .quarter => w.addMonths (3 * amount)
  | .month => w.addMonths amount
  | .week => (w.add (7 * amount * Calendar.day)).checked
  | .day => (w.add (amount * Calendar.day)).checked
  | .hour => (w.add (amount * Calendar.hour)).checked
  | .minute => (w.add (amount * Calendar.minute)).checked
  | .second => (w.add (amount * Calendar.second)).checked

end Wall

end TimeWindow

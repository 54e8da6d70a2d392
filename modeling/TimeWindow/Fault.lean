import TimeWindow.Issue

/-!
# Faults

Every way in which an operation can fail, by its cause. `Fault.label` is the
name under which a fault is reported to callers, and `Fault.message` the text of
those that have one.
-/

namespace TimeWindow

inductive Resolution where
  | absent
  | number (n : Number)
  | flag (b : Bool)
  deriving DecidableEq

def Resolution.text : Resolution → String
  | .absent => "None"
  | .number n => n.text
  | .flag b => if b then "True" else "False"

inductive Fault where
  /-- A date, a duration or a conversion leaves the years 1 to 9999. -/
  | beyondCalendar
  /-- A number is too large to be a double or a clock reading. -/
  | numberTooLarge
  /-- A moment lies beyond the reach of the host's clock. -/
  | beyondHostClock
  /-- A calendar field lies outside its range. -/
  | fieldOutOfRange
  /-- An offset from UTC is a day or more. -/
  | offsetTooWide
  /-- A text or a double does not denote the number that is needed. -/
  | notANumber
  /-- A decimal has more digits than exact decimal arithmetic keeps. -/
  | tooPrecise
  /-- An integer has more digits than are written in texts. -/
  | tooManyDigits
  /-- A moment with an offset meets one without, or an instant is missing. -/
  | incomparable
  /-- The first day of the week is none of the known ones. -/
  | unknownWeekStart
  /-- A date-math engine is asked for with an unknown first day of the week. -/
  | weekStartNotOffered
  | unknownZone (name : String)
  | invalidInterval (units : List String)
  | invalidResolution (resolution : Resolution)
  | rangeRefused (text : String)
  | invalidSettings (issues : List Issue)
  /-- An answer holds a number beyond the finite doubles, which is not
  written. -/
  | unwritableNumber
  /-- A value that is to be sent back holds a number that is not finite. -/
  | infiniteEcho
  /-- A text that is to be sent holds half a surrogate pair. -/
  | unpairedSurrogate
  | unknownErrorCode
  /-- A field of an event has a name that the report needs for itself. -/
  | nameTaken
  deriving DecidableEq

namespace Fault

/-- The names of the known first days of the week, in the order in which they
are listed to callers. -/
def offeredWeekStarts : List String := ["monday", "saturday", "sunday"]

def quotedList (names : List String) : String :=
  "[" ++ ", ".intercalate (names.map fun n => "\x27" ++ n ++ "\x27") ++ "]"

def label : Fault → String
  | beyondCalendar => "OverflowError"
  | numberTooLarge => "OverflowError"
  | beyondHostClock => "OSError"
  | fieldOutOfRange => "ValueError"
  | offsetTooWide => "ValueError"
  | notANumber => "ValueError"
  | tooPrecise => "InvalidOperation"
  | tooManyDigits => "ValueError"
  | incomparable => "TypeError"
  | unknownWeekStart => "KeyError"
  | weekStartNotOffered => "ValueError"
  | unknownZone _ => "UnknownTimeZoneError"
  | invalidInterval _ => "InvalidIntervalError"
  | invalidResolution _ => "InvalidResolutionError"
  | rangeRefused _ => "TimeRangeError"
  | invalidSettings _ => "ValidationError"
  | unwritableNumber => "ValidationError"
  | infiniteEcho => "ValueError"
  | unpairedSurrogate => "UnicodeEncodeError"
  | unknownErrorCode => "ValueError"
  | nameTaken => "TypeError"

def message? : Fault → Option String
  | weekStartNotOffered =>
    some ("week_start must be one of " ++ quotedList offeredWeekStarts)
  | unknownZone name => some name
  | invalidInterval units =>
    some ("Invalid interval string, has to be either unit-less or end with " ++
      "one of the following units: \x22" ++ ", ".intercalate units ++ "\x22")
  | invalidResolution resolution =>
    some ("Resolution must be a positive number, got " ++ resolution.text)
  | rangeRefused text => some text
  | _ => none

def isRangeFault : Fault → Bool
  | invalidInterval _ => true
  | invalidResolution _ => true
  | rangeRefused _ => true
  | _ => false

end Fault

end TimeWindow

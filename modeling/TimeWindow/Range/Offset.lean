import TimeWindow.Calendar.Unit
import TimeWindow.Number.Numeral
import TimeWindow.Text.Search

/-!
# Offsets from now

The beginning of an expression as people read it: `now`, a sign, a whole number
and the letter of a unit. What follows the letter does not matter here.
-/

namespace TimeWindow

open Text

structure Offset where
  ahead : Bool
  amount : Nat
  unit : CalendarUnit
  deriving DecidableEq, Repr

namespace Offset

def word? : CalendarUnit → Option String
  | .second => some "second"
  | .minute => some "minute"
  | .hour => some "hour"
  | .day => some "day"
  | .week => some "week"
  | .month => some "month"
  | .quarter => none
  | .year => some "year"

def unitOf? (c : Char) : Option CalendarUnit :=
  (CalendarUnit.ofLetter? c).filter fun u => (word? u).isSome

def split? (cs : List Char) : Option (Bool × List Char × CalendarUnit) :=
  match after? "now".toList cs with
  | some (sign :: rest) =>
    if sign = '+' || sign = '-' then
      let digits := rest.takeWhile isAsciiDigit
      match rest.drop digits.length with
      | letter :: _ =>
        if digits = [] then none else (unitOf? letter).map fun unit =>
          (sign = '+', digits, unit)
      | [] => none
    else none
  | _ => none

def isTooLong (cs : List Char) : Bool :=
  match after? "now".toList cs with
  | some (sign :: rest) =>
    (sign = '+' || sign = '-') &&
      Numeral.maxDigits < (rest.takeWhile isAsciiDigit).length
  | _ => false

def read (s : String) : Except Fault (Option Offset) :=
  if isTooLong s.toList then .error .notANumber
  else .ok ((split? s.toList).map fun (ahead, digits, unit) =>
    ⟨ahead, digitsValue digits, unit⟩)

end Offset

end TimeWindow

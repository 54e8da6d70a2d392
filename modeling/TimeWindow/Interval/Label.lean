import TimeWindow.Interval.Duration

/-!
# Labels of steps and spans

A step is labelled by its largest unit alone, such as `1h` or `250ms`. A span is
told in hours, minutes and seconds, rounded to whole seconds.
-/

namespace TimeWindow.Interval

def labelUnits : List (Int × Char) :=
  [(31536000, 'y'), (86400, 'd'), (3600, 'h'), (60, 'm')]

/-- The first unit of which a length in seconds holds any, and how many of
it. -/
def largest? (p : Precision) (seconds : Rat) :
    List (Int × Char) → Rat → Option (Int × String)
  | [], rest =>
    if rest.floor ≠ 0 then some (rest.floor, "s")
    else
      let milliseconds := (p.round (p.round seconds * 1000)).floor
      if milliseconds ≠ 0 then some (milliseconds, "ms") else none
  | (length, letter) :: units, rest =>
    let count := (p.round (rest / length)).floor
    if count ≠ 0 then some (count, String.ofList [letter])
    else largest? p seconds units (p.remainder rest length)

def written (n : Int) : Except Fault String :=
  if Numeral.maxDigits < (Nat.toDigits 10 n.natAbs).length then
    .error .tooManyDigits
  else .ok (toString n)

def label (p : Precision) (seconds : Rat) : Except Fault String := do
  let _ ← p.hold (seconds / 31536000)
  match largest? p seconds labelUnits seconds with
  | some (count, unit) => return (← written count) ++ unit
  | none => return "less than a millisecond"

/-- The parts of a span in whole seconds: hours, and minutes and seconds below
sixty. -/
def spanParts (p : Precision) (seconds : Int) :
    Except Fault (Int × Int × Int) := do
  let minutes ← p.hold ((seconds : Rat) / 60)
  let hours := (p.round (minutes / 60)).floor
  return (hours, minutes.floor - hours * 60, seconds % 60)

def part (n : Int) (unit : String) : List String :=
  if n = 0 then [] else [toString n ++ unit]

def spanText (p : Precision) (milliseconds : Rat) : Except Fault String := do
  let seconds := (p.round ((← p.hold (milliseconds / 1000)) + 1 / 2)).floor
  let (hours, minutes, seconds) ← spanParts p seconds
  match part hours "h" ++ part minutes "min" ++ part seconds "sec" with
  | [] => return "less than 1sec"
  | parts => return " ".intercalate parts

/-- The value of a number for a calculation that ends in whole numbers, which no
infinity does. -/
def valueOf (n : Number) : Except Fault Rat :=
  match n.value? with
  | some q => .ok q
  | none =>
    if n = .real .nan then .error .notANumber else .error .numberTooLarge

end TimeWindow.Interval

import TimeWindow.Interval.Label
import TimeWindow.Interval.Ladder
import TimeWindow.Instant

/-!
# Query steps

The step between the data points of a range: the span divided by the number of
points that are wanted, snapped to the ladder, and never below a lower limit.
-/

namespace TimeWindow

structure QueryStep where
  milliseconds : Rat
  label : String
  deriving DecidableEq

/-- The distance from the first moment to the second in microseconds. Moments
with an offset and moments without one have none. -/
def Moment.ticksTo : Moment → Moment → Except Fault Int
  | .plain a, .plain b => .ok (b.ticks - a.ticks)
  | .fixed a, .fixed b => .ok (b.utcTicks - a.utcTicks)
  | _, _ => .error .incomparable

namespace Interval

def snapNumber (n : Number) : Int :=
  match n with
  | .int n => snap n
  | .real (.finite q) => snap q
  | .real .negativeZero => snap 0
  | .real (.infinite negative) => if negative then shortestStep else longestStep
  | .real .nan => longestStep

def points (r : Resolution) : Except Fault Number :=
  match r with
  | .absent => .error (.invalidResolution r)
  | .flag b => if b then .ok (.int 1) else .error (.invalidResolution r)
  | .number n =>
    match n with
    | .int i => if i ≤ 0 then .error (.invalidResolution r) else .ok n
    | .real (.finite q) =>
      if q ≤ 0 then .error (.invalidResolution r) else .ok n
    | .real .negativeZero => .error (.invalidResolution r)
    | .real (.infinite negative) =>
      if negative then .error (.invalidResolution r) else .ok n
    | .real .nan => .ok n

/-- The lower limit in milliseconds, which is the shortest step when none is
given. -/
def lowLimit (p : Precision) (limit : Option String) : Except Fault Rat :=
  match limit with
  | none => .ok shortestStep
  | some text =>
    if text = "" then .ok shortestStep else do
      (← Duration.read text).milliseconds p

def spanMilliseconds (p : Precision) (ticks : Int) : Rat :=
  p.round (p.round (ticks / 1000000) * 1000)

def snapShare (p : Precision) (span : Rat) (points : Number) :
    Except Fault Int :=
  match points.value? with
  | some n => do
    let share := p.round (span / (← p.hold n))
    if p.holds share then return snap share
    else return if share < 0 then shortestStep else longestStep
  | none => .ok (if points = .real .nan then longestStep else snap 0)

def calculate (p : Precision) (start stop : Option Moment) (r : Resolution)
    (limit : Option String) :
    Except Fault QueryStep := do
  let points ← points r
  let limit ← lowLimit p limit
  let ticks ←
    match start, stop with
    | some a, some b => a.ticksTo b
    | _, _ => .error .incomparable
  let snapped ← snapShare p (spanMilliseconds p ticks) points
  let milliseconds := if (snapped : Rat) < limit then limit else snapped
  let seconds ← p.hold (milliseconds / 1000)
  return { milliseconds, label := ← label p seconds }

end Interval

end TimeWindow

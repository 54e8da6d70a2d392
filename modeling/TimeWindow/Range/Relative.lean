import TimeWindow.Interval.QueryStep
import TimeWindow.Range.Resolve

/-!
# Ranges as distances from now

A range can be kept as two lengths of time, in seconds before a reference
instant. An end at distance zero is the reference itself.
-/

namespace TimeWindow

open DateMath

namespace TimeRange

/-- The reference instant as it stands: the one that is given, or else what the
clock shows. -/
def referenceMoment (p : Present) : Moment :=
  p.now.getD (.fixed (.ofUtc p.clock))

def distance (reference : Moment) (m : Option Moment) : Except Fault Double :=
  match m with
  | none => .error .incomparable
  | some m => do return Epoch.inSeconds (← m.ticksTo reference)

def toRelative (p : Present) (r : TimeRange) :
    Except Fault (Double × Double) := do
  let start ← distance (referenceMoment p) r.start
  let stop ← distance (referenceMoment p) r.stop
  return (start, stop)

end TimeRange

def Moment.back (m : Moment) (ticks : Int) : Except Fault Moment :=
  match m with
  | .plain w => do return .plain (← (w.add (-ticks)).checked)
  | .fixed i => do return .fixed (← i.addWall (-ticks))

namespace TimeRange

def atDistance (reference : Moment) (seconds : Option Number) :
    Except Fault Moment :=
  match seconds with
  | none => .error .incomparable
  | some n => do reference.back (← Epoch.microseconds n)

def ofRelative (p : Present) (start stop : Option Number) :
    Except Fault TimeRange := do
  let reference := referenceMoment p
  let a ← atDistance reference start
  let b ← if (stop.map Number.isZero).getD false then pure reference
      else atDistance reference stop
  return .ofMoments (some a) (some b)

end TimeRange

end TimeWindow

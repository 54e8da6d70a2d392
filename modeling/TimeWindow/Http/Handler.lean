import TimeWindow.Http.Body
import TimeWindow.Http.View
import TimeWindow.Interval.QueryStep
import TimeWindow.Service.Session

/-!
# Handling requests

What each operation on ranges and durations does with a body that was accepted.
A request that cannot be served is refused with a reason; any other fault breaks
the handling off.
-/

namespace TimeWindow.Http

open DateMath

inductive Rejection where
  | refused (r : Refusal)
  | failed (f : Fault)

namespace Handler

def settled {α : Type} (e : Except Fault α) : Except Rejection α :=
  e.mapError .failed

def inZone {α : Type} (timeZone : Option String) (e : Except Fault α) :
    Except Rejection α :=
  e.mapError fun f =>
    match f with
    | .unknownZone _ => .refused (.unknownZone timeZone)
    | f => .failed f

def inField {α : Type} (field : String) (e : Except Fault α) :
    Except Rejection α :=
  e.mapError fun f => if f.isRangeFault then .refused (.ofFault f (some field))
    else .failed f

/-- What is present to a request: its own reference instant, or else the clock,
which is read once. -/
def presentOf (here : Present) (now : Option Moment) : Present :=
  { here with now := some (now.getD (.fixed (.ofUtc here.clock))) }

def unresolved (field : String) : Refusal :=
  ⟨.invalidTimeRange, "Both sides of the range must resolve to an instant.",
    some field⟩

def requireInstants (r : TimeRange) : Except Rejection Unit :=
  if r.start.isNone then .error (.refused (unresolved "from"))
  else if r.stop.isNone then .error (.refused (unresolved "to"))
  else .ok ()

def sendable (q : Rat) : Except Rejection Double :=
  if Binary64.isFinite (Binary64.nearest q) then .ok (.ofRat q)
    else .error (.failed .unwritableNumber)

def resolve (e : Engine) (here : Present) (b : ResolveBody) :
    Except Rejection ResolvedRange := do
  let present := presentOf here b.now
  let range ← inZone b.timeZone
    (b.range.resolve e { timeZone := b.timeZone, fiscalStart := b.fiscalStart }
      present)
  let display ← settled (b.range.describe e b.timeZone present)
  let abbreviation ← settled (range.abbreviation e b.timeZone present)
  return {
    range, display := some display, isRelative := b.range.isRelative,
    isFiscal := range.isFiscal, abbreviation := some abbreviation }

def describe (e : Engine) (here : Present) (b : RangeBody) :
    Except Rejection String :=
  inZone b.timeZone (b.range.describe e b.timeZone (presentOf here b.now))

def resolutionOf (standard : Int) (b : IntervalBody) : Int :=
  b.resolution.getD standard

def interval (e : Engine) (standardResolution : Int) (here : Present)
    (b : IntervalBody) :
    Except Rejection SizedStep := do
  let range ← inZone b.timeZone
      (b.range.resolve e { timeZone := b.timeZone } (presentOf here b.now))
  requireInstants range
  let resolution := resolutionOf standardResolution b
  let step ← inField "min_interval"
    (Interval.calculate .double range.start range.stop
      (.number (.int resolution)) b.minInterval)
  return {
    milliseconds := ← sendable step.milliseconds, label := step.label,
    resolution }

def toRelative (e : Engine) (here : Present) (b : RangeBody) :
    Except Rejection (Double × Double) := do
  let present := presentOf here b.now
  let range ← inZone b.timeZone
      (b.range.resolve e { timeZone := b.timeZone } present)
  requireInstants range
  settled (range.toRelative present)

def toAbsolute (here : Present) (b : DistanceBody) :
    Except Rejection ResolvedRange := do
  let range ← settled (TimeRange.ofRelative { here with now := b.now }
      (some (.real b.start)) (some (.real b.stop)))
  return { range }

def interpret (text : String) : Except Rejection ReadDuration := do
  let duration ← inField "value" (Duration.read text)
  let seconds ← inField "value" (duration.seconds .double)
  let milliseconds ← inField "value" (duration.milliseconds .double)
  return {
    text, duration, seconds := ← sendable seconds,
    milliseconds := ← sendable milliseconds }

end Handler

end TimeWindow.Http

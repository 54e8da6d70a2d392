import TimeWindow.DateMath.Shift
import TimeWindow.DateMath.Step

/-!
# Evaluating date math

The steps of an expression are taken from left to right. A text that does not
consist of whole steps has no value, but the steps before the fault are still
taken, and one that fails decides the outcome.
-/

namespace TimeWindow.DateMath

/-- What the steps depend on besides the instant: whether roundings go up, the
first month of the fiscal year counted from zero, the zone of the calendar, and
the first day of the week if it is a known one. -/
structure Rules where
  roundUp : Bool := false
  fiscalStart : Int := 0
  zone : Zone := Zone.utc
  weekStart : Option WeekStart := some .sunday

def Step.apply (rules : Rules) (i : Instant) : Step → Except Fault Instant
  | .round true unit =>
    roundToFiscal rules.fiscalStart i unit rules.roundUp rules.zone
  | .round false unit =>
    if rules.roundUp then endOf i unit rules.zone rules.weekStart
      else startOf i unit rules.zone rules.weekStart
  | .shift amount unit => DateMath.shift i amount unit rules.zone

def evaluate (rules : Rules) (math : List Char) (i : Instant) :
    Except Fault (Option Instant) := do
  let (steps, complete) := Step.read math
  let result ← steps.foldlM (fun i step => step.apply rules i) i
  return if complete then some result else none

/-- The steps of a text taken from a moment. A plain wall time stays one until a
step touches it. -/
def evaluateMoment (rules : Rules) (math : List Char) :
    Moment → Except Fault (Option Moment)
  | .fixed i => do return (← evaluate rules math i).map .fixed
  | .plain w => do
    let (steps, complete) := Step.read math
    match steps.dropWhile Step.isIdle with
    | [] => return if complete then some (.plain w) else none
    | rest =>
      let i ← (Moment.plain w).onHost
      let result ← rest.foldlM (fun i step => step.apply rules i) i
      return if complete then some (.fixed result) else none

end TimeWindow.DateMath

import TimeWindow.DateMath.Evaluation
import TimeWindow.Reading.FreeForm
import TimeWindow.Reading.Iso

/-!
# Date-math expressions

An expression is `now` followed by math, or a standard date-time followed by
`||` and math, or a standard date-time alone. `parse` gives its instant, or none
for what is no expression.
-/

namespace TimeWindow.DateMath

open Text

/-- The year around which years of two digits are placed, unless another one is
told. -/
def standardPivot : Int := 2024

/-- The clock at which an operation takes place, the reference instant that its
caller gives, and the year around which years of two digits are placed: the one
in which the process was started. -/
structure Present where
  clock : Wall
  now : Option Moment := none
  pivotYear : Int := standardPivot

/-- What stands for a point in time: a text, a moment or a number. The other
values stand for none. -/
inductive Source where
  | text (s : String)
  | moment (m : Moment)
  | number (n : Number)
  | flag (b : Bool)
  | collection
  | absent
  deriving DecidableEq

/-- The reference instant: the one that is given, or else what the clock
shows. -/
def Present.reference (p : Present) (z : Zone) : Except Fault Instant :=
  (p.now.getD (.fixed (.ofUtc p.clock))).toZone z

def nowWord : List Char := "now".toList

def anchorMark : List Char := "||".toList

def isMathText (s : String) : Bool :=
  beginsWith nowWord s.toList || mentions anchorMark s.toList

def Source.isMath : Source → Bool
  | .text s => isMathText s
  | _ => false

/-- The instant of a standard date-time, read in the zone when it has no
offset. -/
def parseIso (s : String) (z : Zone) : Except Fault (Option Instant) :=
  match Iso.read? s with
  | none => .ok none
  | some m => do return some (← m.toZone z)

/-- The instant of a free-form date-time, whose missing fields come from the
date on the clock. -/
def parseAbsolute (clock : Wall) (s : String) (z : Zone)
    (pivotYear : Int := standardPivot) :
    Except Fault (Option Instant) := do
  match ← FreeForm.read s ⟨clock.date, pivotYear⟩ with
  | none => return none
  | some m => return some (← m.toZone z)

def anchor (rules : Rules) (p : Present) (cs : List Char) :
    Except Fault (Option Instant × List Char) :=
  match after? nowWord cs with
  | some math => do return (some (← p.reference rules.zone), math)
  | none => do
    let (written, math) := (cutAt? anchorMark cs).getD (cs, [])
    return (← parseIso (String.ofList written) rules.zone, math)

def parseText (rules : Rules) (p : Present) (s : String) :
    Except Fault (Option Instant) := do
  match ← anchor rules p s.toList with
  | (none, _) => return none
  | (some i, math) => evaluate rules math i

/-- The instant of a value: a moment is expressed in the zone, a text is an
expression, and nothing else has one. -/
def parse (rules : Rules) (p : Present) : Source → Except Fault (Option Instant)
  | .moment m => do return some (← m.toZone rules.zone)
  | .text s => parseText rules p s
  | _ => .ok none

end TimeWindow.DateMath

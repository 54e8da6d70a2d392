import TimeWindow.Zone.Basic
import TimeWindow.Calendar.Timestamp

/-!
# Instants

A wall time together with what ties it to UTC. `Instant.toZone` expresses an
instant in a zone, and `Zone.localize` reads a wall time in a zone: a time that
the zone skips keeps the offset from before the gap, and of two instants that
show one time the one without daylight saving counts.
-/

namespace TimeWindow

/-- What ties a wall time to UTC: a bare offset in seconds, or a period of a
zone. -/
inductive Setting where
  | offset (seconds : Int)
  | period (zone : Zone.Kind) (p : Period)
  deriving DecidableEq, Repr

namespace Setting

def seconds : Setting → Int
  | .offset s => s
  | .period _ p => p.offset

def abbreviation : Setting → String
  | .offset s => if s = 0 then "UTC" else "UTC" ++ Timestamp.offset s
  | .period _ p => p.abbreviation

end Setting

structure Instant where
  wall : Wall
  setting : Setting
  deriving DecidableEq, Repr

namespace Instant

def utcTicks (i : Instant) : Int :=
  i.wall.ticks - i.setting.seconds * Calendar.second

def ofUtc (w : Wall) : Instant := ⟨w, .offset 0⟩

/-- The reading in UTC. An offset of a day or more ties a wall time to
nothing. -/
def toUtc (i : Instant) : Except Fault Wall :=
  if i.setting.seconds.natAbs < 86400 then Wall.checked ⟨i.utcTicks⟩
    else .error .offsetTooWide

def addWall (i : Instant) (ticks : Int) : Except Fault Instant := do
  return { i with wall := ← (i.wall.add ticks).checked }

end Instant

namespace Zone

def ofUtc (z : Zone) (utc : Wall) : Except Fault Instant := do
  let p := z.periodAt utc
  return ⟨← (utc.add (p.offset * Calendar.second)).checked, .period z.kind p⟩

end Zone

namespace Instant

/-- The same instant expressed in a zone. One that carries the zone's first
period stays as it is. -/
def toZone (i : Instant) (z : Zone) : Except Fault Instant :=
  if i.setting = .period z.kind z.base then .ok i else i.toUtc >>= z.ofUtc

end Instant

namespace Zone

/-- The instant that shows a wall time under the period in force around
`nearby`, if there is one. -/
def candidate? (z : Zone) (w nearby : Wall) : Option Instant :=
  let p := z.periodAt nearby
  let utc := w.add (-(p.offset * Calendar.second))
  let q := z.periodAt utc
  if q.offset = p.offset then some ⟨w, .period z.kind q⟩ else none

/-- The instants that show a wall time, found from the periods a day before and
a day after it. -/
def candidates (z : Zone) (w : Wall) : Except Fault (List Instant) := do
  let before ← (w.add (-Calendar.day)).checked
  let after ← (w.add Calendar.day).checked
  match z.candidate? w before, z.candidate? w after with
  | none, none => return []
  | some i, none => return [i]
  | none, some i => return [i]
  | some i, some j =>
    return if i.setting.seconds = j.setting.seconds then [i] else [i, j]

/-- Of two instants that show one wall time, the one without daylight saving, or
else the later one. -/
def choose (i j : Instant) : Instant :=
  match i.setting, j.setting with
  | .period _ p, .period _ q =>
    if p.saving = 0 ∧ q.saving ≠ 0 then i
    else if p.saving ≠ 0 ∧ q.saving = 0 then j
    else if i.utcTicks < j.utcTicks then j else i
  | _, _ => i

def stepBack : Int := 6 * Calendar.hour

def localizeFrom (z : Zone) : Nat → Wall → Except Fault Instant
  | 0, _ => .error .beyondCalendar
  | fuel + 1, w => do
    match ← z.candidates w with
    | [i] => return i
    | [i, j] => return choose i j
    | _ =>
      let earlier ← z.localizeFrom fuel (← (w.add (-stepBack)).checked)
      earlier.addWall stepBack

/-- Reads a wall time in the zone. Going back ends at the beginning of the
calendar at the latest. -/
def localize (z : Zone) (w : Wall) : Except Fault Instant :=
  if z.isConstant then .ok ⟨w, .period z.kind z.base⟩
  else z.localizeFrom ((w.ticks / stepBack).toNat + 1) w

end Zone

inductive Moment where
  | plain (w : Wall)
  | fixed (i : Instant)
  deriving DecidableEq, Repr

namespace Moment

def toZone (m : Moment) (z : Zone) : Except Fault Instant :=
  match m with
  | .plain w => z.localize w
  | .fixed i => i.toZone z

/-- The moment as an instant; a plain wall time is one of the host's, whose
clock does not reach back to the first day of the calendar. -/
def onHost (m : Moment) : Except Fault Instant :=
  match m with
  | .plain w =>
    if w.ticks < Calendar.day then .error .fieldOutOfRange
      else .ok ⟨w, .period .host Zone.host.base⟩
  | .fixed i => .ok i

def wall : Moment → Wall
  | .plain w => w
  | .fixed i => i.wall

def text (between : String) : Moment → String
  | .plain w => Timestamp.wall between w
  | .fixed i =>
    Timestamp.wall between i.wall ++ Timestamp.offset i.setting.seconds

end Moment

def Instant.text (i : Instant) : String := (Moment.fixed i).text "T"

end TimeWindow

import TimeWindow.DateMath.Epoch
import TimeWindow.DateMath.Expression
import TimeWindow.Format.Elapsed
import TimeWindow.Format.Pattern
import TimeWindow.Zone.Catalog

/-!
# The date-math engine

An engine has a default zone, a fiscal calendar and a first day of the week, and
knows zones by name. It resolves expressions and instants, and shows instants as
text. Each call may name another zone or another fiscal calendar.
-/

namespace TimeWindow

open DateMath

structure Engine where
  timeZone : Option String := none
  fiscalStart : Int := 0
  weekStart : WeekStart := .sunday
  zones : Zone.Catalog := .standard
  deriving DecidableEq

namespace Engine

/-- What a call says about its calendar: a zone and a fiscal start of its own,
and whether roundings go up. -/
structure Call where
  roundUp : Bool := false
  timeZone : Option String := none
  fiscalStart : Option Int := none

def make (timeZone : Option String) (fiscalStart : Int) (weekStart : String)
    (zones : Zone.Catalog := .standard) :
    Except Fault Engine :=
  match WeekStart.ofName? weekStart with
  | some weekStart => .ok { timeZone, fiscalStart, weekStart, zones }
  | none => .error .weekStartNotOffered

def zone (e : Engine) (timeZone : Option String) : Except Fault Zone :=
  Zone.resolve (timeZone.or e.timeZone) e.zones

def rules (e : Engine) (call : Call) : Except Fault Rules := do
  return {
    roundUp := call.roundUp, fiscalStart := call.fiscalStart.getD e.fiscalStart,
    zone := ← e.zone call.timeZone, weekStart := some e.weekStart }

def parse (e : Engine) (call : Call) (p : Present) (s : Source) :
    Except Fault (Option Instant) := do
  DateMath.parse (← e.rules call) p s

def isValid (e : Engine) (p : Present) (s : Source) : Except Fault Bool := do
  return (← e.parse {} p s).isSome

def mentionsNow (s : String) : Bool := Text.mentions nowWord s.toList

/-- The instant of one side of a range. A text that speaks of now falls back to
the reference instant, and any other text is a free-form date-time; numbers are
milliseconds since 1970. -/
def parseInstant (e : Engine) (call : Call) (p : Present) (s : Source) :
    Except Fault (Option Instant) := do
  let rules ← e.rules call
  match s with
  | .moment m => return some (← m.toZone rules.zone)
  | .number n => return some (← (← Epoch.instant n).toZone rules.zone)
  | .text t =>
    if mentionsNow t then
      match ← DateMath.parse rules p s with
      | some i => return some i
      | none => return some (← p.reference rules.zone)
    else parseAbsolute p.clock t rules.zone p.pivotYear
  | _ => return none

def format (e : Engine) (m : Moment) (timeZone : Option String)
    (pattern : String := Pattern.standard) :
    Except Fault String := do
  return Pattern.render pattern (← m.toZone (← e.zone timeZone))

def timeAgo (e : Engine) (m : Moment) (timeZone : Option String) (p : Present) :
    Except Fault String := do
  let zone ← e.zone timeZone
  let moment ← (← m.toZone zone).toUtc
  let seenFrom ← (← p.reference zone).toUtc
  return Elapsed.text moment seenFrom

def abbreviation (e : Engine) (m : Moment) (timeZone : Option String) :
    Except Fault String := do
  return (← m.toZone (← e.zone timeZone)).setting.abbreviation

end Engine

end TimeWindow

import TimeWindow.Range.Description

/-!
# Resolving and describing ranges

Both sides of a raw range are resolved, the first rounding down and the second
up. The raw pair is kept when a side is an expression, so that the range can be
resolved again at a later now. `RawRange.describe` gives the label of a range:
that of a preset, formatted moments, or that of its expression.
-/

namespace TimeWindow

open DateMath

namespace RawRange

/-- What a call says about resolving a range: a zone and a fiscal start of its
own. -/
structure Call where
  timeZone : Option String := none
  fiscalStart : Option Int := none

def Call.side (c : Call) (roundUp : Bool) : Engine.Call :=
  { roundUp, timeZone := c.timeZone, fiscalStart := c.fiscalStart }

def resolve (e : Engine) (c : Call) (p : Present) (r : RawRange) :
    Except Fault TimeRange := do
  let start ← e.parseInstant (c.side false) p r.start
  let stop ← e.parseInstant (c.side true) p r.stop
  let start := start.map Moment.fixed
  let stop := stop.map Moment.fixed
  return if r.start.isMath || r.stop.isMath then ⟨start, stop, r⟩
    else .ofMoments start stop

def describeOther (e : Engine) (timeZone : Option String) (p : Present)
    (r : RawRange) : Except Fault String := do
  match r.start, r.stop with
  | .moment a, .moment b =>
    let a ← e.format a timeZone
    let b ← e.format b timeZone
    return a ++ " to " ++ b
  | .moment a, s =>
    match ← e.parse { roundUp := true, timeZone := some "utc" } p s with
    | none => return ""
    | some i =>
      let a ← e.format a timeZone
      let ago ← e.timeAgo (.fixed i) timeZone p
      return a ++ " to " ++ ago
  | s, .moment b =>
    match ← e.parse { roundUp := false, timeZone := some "utc" } p s with
    | none => return ""
    | some i =>
      let ago ← e.timeAgo (.fixed i) timeZone p
      let b ← e.format b timeZone
      return ago ++ " to " ++ b
  | s, t =>
    if t.shown = "now" then return (← Description.ofText s.shown).display
      else return r.key

def describe (e : Engine) (timeZone : Option String) (p : Present)
    (r : RawRange) : Except Fault String :=
  match Preset.find? r with
  | some preset => .ok preset.display
  | none => r.describeOther e timeZone p

def sideIsRelative : Source → Bool
  | .text s => Engine.mentionsNow s
  | _ => false

def isRelative (r : RawRange) : Bool :=
  sideIsRelative r.start || sideIsRelative r.stop

def sideIsFiscal : Source → Bool
  | .text s => s.toList.head? ≠ some 'f' && s.toList.contains 'f'
  | _ => false

end RawRange

namespace TimeRange

def isFiscal (r : TimeRange) : Bool :=
  RawRange.sideIsFiscal r.raw.start || RawRange.sideIsFiscal r.raw.stop

def abbreviation (e : Engine) (timeZone : Option String) (p : Present)
    (r : TimeRange) : Except Fault String := do
  match r.start with
  | some m => e.abbreviation m timeZone
  | none =>
    match ← e.parse { roundUp := true } p r.raw.start with
    | none => return ""
    | some i => e.abbreviation (.fixed i) timeZone

end TimeRange

end TimeWindow

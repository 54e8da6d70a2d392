import TimeWindow.Interval.Duration
import TimeWindow.Range.Relative
import TimeWindow.Service.Refusal

/-!
# Results as JSON

What the operations find out, and how it is written down for callers. A moment
is written with its offset, which is `Z` for UTC; in a raw range it is written
as the range was entered.
-/

namespace TimeWindow.Http

open DateMath

/-- An offset in seconds: `Z` for none, and else hours with a sign and minutes.
Offsets below an hour are written with a plus sign. -/
def offsetText (seconds : Int) : String :=
  if seconds = 0 then "Z"
  else
    let minutes := Int.tdiv seconds 60
    (if minutes ≤ -60 then "-" else "+") ++
      Timestamp.padded 2 (minutes.natAbs / 60 : Nat) ++ ":"
      ++ Timestamp.padded 2 (minutes.natAbs % 60 : Nat)

def momentText : Moment → String
  | .plain w => Timestamp.wall "T" w
  | .fixed i => Timestamp.wall "T" i.wall ++ offsetText i.setting.seconds

def momentJson (m : Option Moment) : Json :=
  m.elim .null fun m => .str (momentText m)

def sourceJson : Source → Json
  | .text s => .str s
  | .moment m => .str (m.text "T")
  | .number n => .num n
  | .flag b => .bool b
  | .collection => .arr []
  | .absent => .null

def rawJson (r : RawRange) : Json :=
  .obj [("from", sourceJson r.start), ("to", sourceJson r.stop)]

def doubleJson (d : Double) : Json := .num (.real d)

structure ResolvedRange where
  range : TimeRange
  display : Option String := none
  isRelative : Bool := false
  isFiscal : Bool := false
  abbreviation : Option String := none

def ResolvedRange.json (r : ResolvedRange) : Json :=
  .obj [("from", momentJson r.range.start), ("to", momentJson r.range.stop),
    ("raw", rawJson r.range.raw), ("display", .ofString? r.display),
    ("is_relative", .bool r.isRelative), ("is_fiscal", .bool r.isFiscal),
    ("time_zone_abbreviation", .ofString? r.abbreviation)]

def sectionJson (s : Option Section) : Json :=
  s.elim .null fun s => .num (.int s.number)

def descriptionJson (d : Description) : Json :=
  .obj [("from", .str d.start), ("to", .str d.stop),
    ("display", .str d.display), ("section", sectionJson d.group), ("invalid", .bool d.isInvalid)]

def presetJson (p : Preset) : Json :=
  .obj [("from", .str p.start), ("to", .str p.stop),
    ("display", .str p.display), ("section", sectionJson p.group)]

structure SizedStep where
  milliseconds : Double
  label : String
  resolution : Int

def SizedStep.json (s : SizedStep) : Json :=
  .obj [("interval_ms", doubleJson s.milliseconds), ("interval", .str s.label),
    ("resolution", .num (.int s.resolution))]

structure ReadDuration where
  text : String
  duration : Duration
  seconds : Double
  milliseconds : Double

def ReadDuration.json (r : ReadDuration) : Json :=
  .obj [("value", .str r.text),
    ("sec", doubleJson (.ofRat (r.duration.scale.seconds .double))),
    ("type", .str r.duration.scale.symbol),
    ("count", .num (.int r.duration.count)),
    ("seconds", doubleJson r.seconds), ("ms", doubleJson r.milliseconds)]

def distancesJson (start stop : Double) : Json :=
  .obj [("from", doubleJson start), ("to", doubleJson stop)]

end TimeWindow.Http

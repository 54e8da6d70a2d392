import TimeWindow.DateMath.Engine

/-!
# Ranges

A raw range is what a caller enters: two sides, each an expression or a moment.
A time range is what it resolves to, and keeps a raw pair beside it, from which
it can be resolved again later.
-/

namespace TimeWindow

open DateMath

def DateMath.Source.shown : Source → String
  | .text s => s
  | .moment m => m.text " "
  | .number n => n.text
  | .flag b => if b then "True" else "False"
  | .collection => "[]"
  | .absent => "None"

structure RawRange where
  start : Source
  stop : Source
  deriving DecidableEq

namespace RawRange

def key (r : RawRange) : String := r.start.shown ++ " to " ++ r.stop.shown

end RawRange

/-- A resolved range; a side that could not be resolved is missing. -/
structure TimeRange where
  start : Option Moment
  stop : Option Moment
  raw : RawRange
  deriving DecidableEq

namespace TimeRange

def side (m : Option Moment) : Source := m.elim .absent .moment

def ofMoments (start stop : Option Moment) : TimeRange :=
  ⟨start, stop, ⟨side start, side stop⟩⟩

end TimeRange

end TimeWindow

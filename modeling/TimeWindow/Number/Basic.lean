import TimeWindow.Number.Double

/-!
# Numbers

What callers send and what durations are counted in: an exact integer of any
size, or a double.
-/

namespace TimeWindow

inductive Number where
  | int (n : Int)
  | real (d : Double)
  deriving DecidableEq

namespace Number

def value? : Number → Option Rat
  | .int n => some n
  | .real d => d.value?

/-- The number as a double; `none` for an integer beyond the finite doubles. -/
def toDouble? : Number → Option Double
  | .int n =>
    let rounded := Binary64.nearest n
    if Binary64.isFinite rounded then some (.finite rounded) else none
  | .real d => some d

def isZero : Number → Bool
  | .int n => n = 0
  | .real d => d.isZero

/-- The number as text: an integer in full, a double by its shortest decimal. -/
def text : Number → String
  | .int n => toString n
  | .real d => d.text

end Number

end TimeWindow

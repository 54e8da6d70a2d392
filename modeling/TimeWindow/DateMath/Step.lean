import TimeWindow.Calendar.Unit
import TimeWindow.Text.Blank
import TimeWindow.Text.Digit

/-!
# Steps of date math

The math of an expression is a row of steps: `/` and a unit rounds, `+` or `-`
with an amount and a unit shifts, and an `f` before a unit makes a rounding
fiscal. `Step.read` reads as many steps as a text begins with and says whether
that was all of it.
-/

namespace TimeWindow.DateMath

open Text

inductive Step where
  | round (fiscal : Bool) (unit : CalendarUnit)
  | shift (amount : Int) (unit : CalendarUnit)
  deriving DecidableEq, Repr

inductive Operation where
  | rounding
  | adding
  | subtracting
  deriving DecidableEq, Repr

namespace Operation

def ofSign? (c : Char) : Option Operation :=
  if c = '/' then some rounding
  else if c = '+' then some adding
  else if c = '-' then some subtracting
  else none

/-- The step that an operation makes of an amount and a unit; fiscal shifts are
plain shifts. -/
def step (amount : Nat) (fiscal : Bool) (unit : CalendarUnit) : Operation → Step
  | rounding => .round fiscal unit
  | adding => .shift amount unit
  | subtracting => .shift (-(amount : Int)) unit

/-- Whether the operation takes the amount: a rounding takes no other than
one. -/
def takes (amount : Nat) : Operation → Bool
  | rounding => amount = 1
  | _ => true

end Operation

/-- How far a step has been read: not begun, up to its amount, or past its
fiscal mark. -/
inductive Phase where
  | ready
  | counting (op : Operation) (amount : Option Nat)
  | fiscal (op : Operation) (amount : Nat)
  deriving DecidableEq, Repr

namespace Step

def digitLimit : Nat := 10

/-- Reads steps from place `i` of the text on, and says whether the text ends
with a whole step. -/
def readFrom (phase : Phase) (i : Nat) : List Char → List Step × Bool
  | [] => ([], phase = .ready)
  | c :: cs =>
    match phase with
    | .ready =>
      match Operation.ofSign? c with
      | some op => readFrom (.counting op none) (i + 1) cs
      | none => ([], false)
    | .counting op amount =>
      match asciiDigit? c with
      | some d =>
        if i < digitLimit then
          readFrom (.counting op (some (amount.getD 0 * 10 + d))) (i + 1) cs
        else ([], false)
      | none =>
        if op.takes (amount.getD 1) then
          if c = 'f' then readFrom (.fiscal op (amount.getD 1)) (i + 1) cs
          else
            match CalendarUnit.ofLetter? c with
            | some unit =>
              let (steps, complete) := readFrom .ready (i + 1) cs
              (op.step (amount.getD 1) false unit :: steps, complete)
            | none => ([], false)
        else ([], false)
    | .fiscal op amount =>
      match CalendarUnit.ofLetter? c with
      | some unit =>
        let (steps, complete) := readFrom .ready (i + 1) cs
        (op.step amount true unit :: steps, complete)
      | none => ([], false)

def read (math : List Char) : List Step × Bool :=
  readFrom .ready 0 (math.filter fun c => !isBlank c)

/-- Whether the step leaves every moment as it is: a fiscal rounding to a unit
without a fiscal form. -/
def isIdle : Step → Bool
  | .round true .year => false
  | .round true .quarter => false
  | .round fiscal _ => fiscal
  | .shift _ _ => false

end Step

end TimeWindow.DateMath

import TimeWindow.Number.Numeral
import TimeWindow.Number.Precision
import TimeWindow.Text.Search

/-!
# Durations

A duration is a count of units of fixed length; a month has 30 days here and a
year 365. It is written as a number with a unit behind it, or as a bare number
of seconds, and `Duration.read` finds it in a text.
-/

namespace TimeWindow

open Text

namespace Duration

inductive Scale where
  | year
  | month
  | week
  | day
  | hour
  | minute
  | second
  | millisecond
  deriving DecidableEq, Repr

namespace Scale

def symbol : Scale → String
  | year => "y"
  | month => "M"
  | week => "w"
  | day => "d"
  | hour => "h"
  | minute => "m"
  | second => "s"
  | millisecond => "ms"

def all : List Scale :=
  [year, month, week, day, hour, minute, second, millisecond]

def milliseconds : Scale → Int
  | year => 31536000000
  | month => 2592000000
  | week => 604800000
  | day => 86400000
  | hour => 3600000
  | minute => 60000
  | second => 1000
  | millisecond => 1

/-- The unit that a text begins with; milliseconds are not mistaken for
minutes. -/
def leading? (cs : List Char) : Option Scale :=
  if beginsWith millisecond.symbol.toList cs then some millisecond
  else all.find? fun s => beginsWith s.symbol.toList cs

def seconds (p : Precision) (s : Scale) : Rat := p.round (s.milliseconds / 1000)

end Scale

end Duration

structure Duration where
  scale : Duration.Scale
  count : Int
  deriving DecidableEq, Repr

namespace Duration

def refusal : Fault := .invalidInterval (Scale.all.map Scale.symbol)

/-- An integer from its sign and digits, unless it has more of them than are
ever read. -/
def signedCount (negative : Bool) (digits : List Nat) : Except Fault Int :=
  if Numeral.maxDigits < digits.length then .error .notANumber
  else .ok (if negative then -(Numeral.ofDigits digits : Int)
    else Numeral.ofDigits digits)

/-- A text that is nothing but one decimal, up to white space around it: the
decimal, and whether all of that white space may stand around a number. -/
def bareNumber? (cs : List Char) : Option (Numeral × Bool) :=
  let front := cs.takeWhile isBlank
  match Numeral.read? (cs.drop front.length) with
  | none => none
  | some (n, rest) =>
    if rest.all isBlank then
      some (n, (front ++ rest).all fun c => !isInformationSeparator c) else none

/-- A number with a unit at the beginning of the text: whether it is negative,
its digits before the point, and the unit. -/
def measureHere? (cs : List Char) : Option (Bool × List Nat × Scale) :=
  let (negative, unsigned) :=
    match cs with
    | '-' :: rest => (true, rest)
    | _ => (false, cs)
  match Numeral.digitRun unsigned with
  | ([], _) => none
  | (digits, rest) =>
    let behindFraction :=
      match rest with
      | '.' :: more =>
        match Numeral.digitRun more with
        | ([], _) => rest
        | (_, after) => after
      | _ => rest
    (Scale.leading? behindFraction).map fun s => (negative, digits, s)

def measure? : List Char → Option (Bool × List Nat × Scale)
  | [] => none
  | c :: cs => (measureHere? (c :: cs)).or (measure? cs)

/-- The duration that a text holds: a bare number other than zero counts
seconds, by its whole part; else the first number with a unit counts that. -/
def read (text : String) : Except Fault Duration := do
  let cs := text.toList
  match bareNumber? cs with
  | some (n, readable) =>
    if !readable then .error .notANumber
    else if n.toDouble.isZero then .error refusal
    else return ⟨.second, ← signedCount n.negative n.whole⟩
  | none =>
    match measure? cs with
    | some (negative, digits, scale) =>
      return ⟨scale, ← signedCount negative digits⟩
    | none => .error refusal

/-- The length in seconds. Only milliseconds are not whole numbers of them and
take part in rounding. -/
def seconds (p : Precision) (d : Duration) : Except Fault Rat :=
  match d.scale with
  | .millisecond => do return p.round (d.scale.seconds p * (← p.hold d.count))
  | s => .ok (s.milliseconds / 1000 * d.count : Int)

def milliseconds (p : Precision) (d : Duration) : Except Fault Rat :=
  match d.scale with
  | .millisecond => p.hold d.count
  | s => .ok (s.milliseconds * d.count : Int)

end Duration

end TimeWindow

import TimeWindow.Range.Offset
import TimeWindow.Range.Preset

/-!
# Labels for expressions

A short expression such as `5m`, `+1h` or `now/d` stands for a range with now on
one side. Its label is that of a preset if there is one, and else says how long
the range reaches back or ahead.
-/

namespace TimeWindow

open Text DateMath

/-- The range that an expression stands for: with a label, or only as a pair of
sides. -/
inductive Description where
  | described (start stop display : String) (group : Option Section)
  | unparseable (start stop : String)
  deriving DecidableEq, Repr

namespace Description

def start : Description → String
  | described start _ _ _ => start
  | unparseable start _ => start

def stop : Description → String
  | described _ stop _ _ => stop
  | unparseable _ stop => stop

def display : Description → String
  | described _ _ display _ => display
  | unparseable start stop => start ++ " to " ++ stop

def group : Description → Option Section
  | described _ _ _ group => group
  | unparseable _ _ => none

def isInvalid : Description → Bool
  | described .. => false
  | unparseable .. => true

def looksAhead (s : String) : Bool := beginsWith ['+'] s.toList

/-- The expression with `now` in front, unless it speaks of now already; without
a sign it looks back. -/
def anchored (s : String) : String :=
  if Engine.mentionsNow s then s
    else (if looksAhead s then "now" else "now-") ++ s

def sides (s : String) : String × String :=
  if looksAhead s then ("now", anchored s) else (anchored s, "now")

def offsetText (ahead : Bool) (o : Offset) : String :=
  (if ahead then "Next " else "Last ") ++ toString o.amount ++ " " ++
    (Offset.word? o.unit).getD ""
    ++ (if 1 < o.amount then "s" else "")

def groupOf (u : CalendarUnit) : Section :=
  if u.length?.isSome then .shorter else .longer

def ofText (s : String) : Except Fault Description := do
  let (start, stop) := sides s
  match Preset.find? ⟨.text start, .text stop⟩ with
  | some p => return described p.start p.stop p.display p.group
  | none =>
    match ← Offset.read (anchored s) with
    | some o =>
      return described start stop (offsetText (looksAhead s) o)
        (some (groupOf o.unit))
    | none => return unparseable start stop

/-- Whether a text can stand for a length of time; variables, which are filled
in later, are taken on trust. -/
def isValidSpan (s : String) : Except Fault Bool := do
  if beginsWith ['$'] s.toList || beginsWith ['+', '$'] s.toList then return true
  return !(← ofText s).isInvalid

end Description

end TimeWindow

import TimeWindow.Calendar.Timestamp
import TimeWindow.Text.Case

/-!
# The log

Events are written from a threshold upwards, as JSON lines or for reading on a
console. `Log.line?` says which line an event leaves, if the names of its fields
are free.
-/

namespace TimeWindow

open Text

inductive Severity where
  | unset
  | debug
  | info
  | warning
  | error
  | critical
  deriving DecidableEq, Repr

namespace Severity

def rank : Severity → Nat
  | unset => 0
  | debug => 10
  | info => 20
  | warning => 30
  | error => 40
  | critical => 50

def thresholds : List (String × Severity) := [
  ("CRITICAL", critical), ("FATAL", critical), ("ERROR", error),
    ("WARN", warning), ("WARNING", warning),
  ("INFO", info), ("DEBUG", debug), ("NOTSET", unset)]

/-- The threshold with a name, in any case; every other name means the usual
one. -/
def ofThreshold (name : String) : Severity :=
  (thresholds.lookup (upper name)).getD info

def reports : List (String × Severity) := [
  ("debug", debug), ("info", info), ("msg", info), ("warning", warning),
    ("warn", warning), ("error", error),
  ("exception", error), ("critical", critical), ("fatal", critical),
  ("notset", unset)]

def written : Severity → String
  | unset => "notset"
  | debug => "debug"
  | info => "info"
  | warning => "warning"
  | error => "error"
  | critical => "critical"

end Severity

structure Event where
  severity : Severity
  text : String
  fields : List (String × Json) := []

structure Log where
  threshold : Severity
  asJson : Bool

namespace Log

/-- A log with a named threshold; its lines are JSON only when that is asked
for. -/
def make (threshold : String) (asJson : Option Bool) : Log :=
  ⟨.ofThreshold threshold, asJson.getD false⟩

def admits (l : Log) (e : Event) : Bool := l.threshold.rank ≤ e.severity.rank

/-- The names of fields that ask for more to be told about the running program,
of which there is nothing to tell. -/
def requestNames : List String := ["exc_info", "stack_info"]

/-- The members of an event's line. What the log itself says of an event wins
over the event's own fields. -/
def members (clock : Wall) (logger : String) (e : Event) :
    List (String × Json) :=
  let fields := e.fields.filter fun (name, _) => !requestNames.contains name
  let stamp := Timestamp.wall "T" clock ++ "Z"
  Json.insert "timestamp" (.str stamp)
    (Json.insert "level" (.str e.severity.written)
      (Json.insert "logger" (.str logger)
        (Json.insert "event" (.str e.text) fields)))

/-- The names that a report has for itself and its text; a report that is
written is handed on under a third one. -/
def takenNames : List String := ["self", "event"]
def handingName : String := "method_name"

def clashes (l : Log) (e : Event) : Bool :=
  e.fields.any fun (name, _) => takenNames.contains name ||
    (l.admits e && name = handingName)

def line? (l : Log) (clock : Wall) (logger : String) (e : Event) :
    Except Fault (Option Json) :=
  if l.clashes e then .error .nameTaken
  else .ok (if l.admits e then some (.obj (members clock logger e)) else none)

def lines (l : Log) (clock : Wall) (logger : String) (events : List Event) :
    Except Fault (List Json) := do
  return (← events.mapM (l.line? clock logger)).filterMap id

end Log

end TimeWindow

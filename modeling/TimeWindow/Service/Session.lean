import TimeWindow.Range.Relative
import TimeWindow.Service.Settings

/-!
# Sessions

What lasts from one operation to the next: the clock, what the process was
started with, the variables, and the settings and the engine that were built
from them. Both are built on first use and kept until they are cleared; a
failing build leaves everything as it was.
-/

namespace TimeWindow

/-- An engine with the number of its making, by which two uses of one engine can
be told from two engines alike. -/
structure BuiltEngine where
  serial : Nat
  engine : Engine
  deriving DecidableEq

/-- A time of service: the clock, the zones that have names, the year in which
the process was started, the variables, and what has been built so far. -/
structure Session where
  clock : Wall
  zones : Zone.Catalog := .standard
  pivotYear : Int := DateMath.standardPivot
  environment : Environment := []
  settings : Option Settings := none
  engine : Option BuiltEngine := none
  built : Nat := 0

def Session.here (s : Session) : DateMath.Present :=
  { clock := s.clock, pivotYear := s.pivotYear }

/-- An operation on the session that may fail; what it has changed stays
changed. -/
abbrev Action := ExceptT Fault (StateM Session)

namespace Session

def pureResult {α : Type} (e : Except Fault α) : Action α := ExceptT.mk (pure e)

def getSettings : Action Settings := do
  let here ← get
  match here.settings with
  | some settings => return settings
  | none =>
    let settings ← pureResult (Settings.read here.environment [])
    modify fun s => { s with settings := some settings }
    return settings

/-- The engine with its number, built from the settings if there is none yet. -/
def getBuiltEngine : Action BuiltEngine := do
  let here ← get
  match here.engine with
  | some e => return e
  | none =>
    let settings ← getSettings
    let e : BuiltEngine :=
      ⟨here.built, ← pureResult (settings.engine here.zones)⟩
    modify fun s => { s with engine := some e, built := s.built + 1 }
    return e

def getEngine : Action Engine := do return (← getBuiltEngine).engine

def clearSettings : Action Unit := modify fun s => { s with settings := none }

def clearEngine : Action Unit := modify fun s => { s with engine := none }

def setVariable (name value : String) : Action Unit :=
  modify fun s => { s with environment := put s.environment }
where
  put : Environment → Environment
    | [] => [(name, value)]
    | (n, v) :: rest =>
      if n = name then (name, value) :: rest else (n, v) :: put rest

def unsetVariable (name : String) : Action Unit :=
  modify fun s =>
    { s with environment := s.environment.filter fun (n, _) => n ≠ name }

def setClock (clock : Wall) : Action Unit := modify fun s => { s with clock }

def present (now : Option Moment) : Action DateMath.Present := do
  return { (← get).here with now }

def describeRange (engine : Action Engine) (timeZone : Option String)
    (now : Option Moment) (r : RawRange) :
    Action String := do
  match Preset.find? r with
  | some preset => return preset.display
  | none =>
    let e ← engine
    pureResult (r.describe e timeZone (← present now))

end Session

end TimeWindow

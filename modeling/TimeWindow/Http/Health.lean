import TimeWindow.Http.View
import TimeWindow.Service.Session
import TimeWindow.Text.Printable

/-!
# Health

Whether the service is able to work. The engine of the session is probed with an
expression; a fault on the way makes the service unhealthy but never fails the
check itself.
-/

namespace TimeWindow.Http

open DateMath

inductive Health where
  | healthy (e : Engine)
  | unhealthy (reason : String)

namespace Health

def probeText : String := "now-1h/h"

def reasonOf : Fault → String
  | .unknownZone name => Text.quoted name
  | f => f.message?.getD f.label

def outcome {α : Type} (a : Action α) : Action (Except Fault α) :=
  ExceptT.lift a.run

def probe : Action Health := do
  let p ← outcome do
    let e ← Session.getEngine
    let found ← Session.pureResult
        (e.parse {} (← Session.present none) (.text probeText))
    return (e, found.isSome)
  match p with
  | .ok (e, true) => return healthy e
  | .ok (_, false) => return unhealthy ("could not resolve " ++ probeText)
  | .error f => return unhealthy (reasonOf f)

def statusText : Health → String
  | healthy _ => "healthy"
  | unhealthy _ => "unhealthy"

def json : Health → Json
  | healthy e =>
    .obj [("status", .str "healthy"),
      ("details", .obj [("time_zone", .ofString? e.timeZone),
        ("fiscal_year_start_month", .num (.int e.fiscalStart)),
        ("week_start", .str e.weekStart.name)])]
  | unhealthy reason =>
    .obj [("status", .str "unhealthy"), ("error", .str reason)]

def configurationJson (s : Settings) : Json :=
  .obj [("status", .str "healthy"),
    ("details", .obj [("environment", .str s.environment),
      ("default_resolution", .num (.int s.defaultResolution))])]

def overall : Health → String
  | healthy _ => "healthy"
  | unhealthy _ => "degraded"

def uptime (startedAt : Option Wall) (clock : Wall) : Double :=
  match startedAt with
  | some start => Epoch.inSeconds (clock.ticks - start.ticks)
  | none => .finite 0

def version : String := "1.0.0"

def clockMoment (clock : Wall) : Moment := .fixed (.ofUtc clock)

def report (s : Settings) (startedAt : Option Wall) : Action Json := do
  let health ← probe
  let clock := (← get).clock
  return .obj [("status", .str health.overall), ("version", .str version),
    ("timestamp", .str (momentText (clockMoment clock))),
    ("services", .obj [("date_math", health.json),
      ("configuration", configurationJson s)]),
    ("uptime", doubleJson (uptime startedAt clock))]

def liveness : Action Json := do
  return .obj [("status", .str "alive"),
    ("timestamp", .str ((clockMoment (← get).clock).text "T"))]

def readiness (startedAt : Option Wall) : Action Json := do
  match ← probe with
  | healthy _ =>
    return .obj [("status", .str "ready"),
      ("timestamp", .str ((clockMoment (← get).clock).text "T")),
      ("started", .bool startedAt.isSome)]
  | unhealthy reason =>
    return .obj [("status", .str "not_ready"), ("reason", .str reason)]

end Health

end TimeWindow.Http

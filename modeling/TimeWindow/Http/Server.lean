import TimeWindow.Http.Handler
import TimeWindow.Http.Health
import TimeWindow.Http.Preflight
import TimeWindow.Http.Route
import TimeWindow.Http.Tally

/-!
# The server

A server answers requests one after the other. `Server.answer` gives the reply
to a request and the server as it is afterwards: what the request has built in
the session stays, and the tally has grown. `Server.serve` also follows
redirections.
-/

namespace TimeWindow.Http

structure Request where
  method : String := "GET"
  target : String
  query : List (String × String) := []
  payload : Payload := .none
  headers : Headers := []

def Request.redirect (r : Request) (path : List Char) : Request :=
  { r with target := String.ofList (path ++
    (r.target.toList.takeWhile (· ≠ '#')).dropWhile (· ≠ '?')) }

/-- What is sent back: a status with content, what was found wrong with a
request, the tally, or another path. -/
inductive Reply where
  | content (status : Nat) (body : Json)
  | issues (found : List Finding)
  | tally (t : Tally)
  | redirection (path : List Char)

namespace Reply

def status : Reply → Nat
  | content status _ => status
  | issues _ => 422
  | tally _ => 200
  | redirection _ => 307

def detail (status : Nat) (text : String) : Reply :=
  .content status (.obj [("detail", .str text)])

def values : Reply → List Json
  | content _ body => [body]
  | issues found => found.map (·.value)
  | _ => []

def send (r : Reply) : Action Reply :=
  if r.values.any (·.hasInfinite) then throw .infiniteEcho
  else if r.values.any (·.hasHalf) then throw .unpairedSurrogate
  else return r

def refusal (r : Refusal) : Reply :=
  .content Refusal.status (.obj [("detail", r.body)])

def plainText (status : Nat) (text : String) : Reply :=
  .content status (.str text)

def ofResult (e : Except Rejection Json) : Action Reply :=
  match e with
  | .ok body => return .content 200 body
  | .error (.refused r) => return refusal r
  | .error (.failed f) => throw f

def ofChecked {α : Type} (c : Checked α) (handle : α → Action Reply) :
    Action Reply :=
  match c with
  | .ok a => handle a
  | .error found => return .issues found

end Reply

/-- The words that the runtime finds for a fault: what it is, if there is
anything to say, and where it came up. -/
structure Wording where
  message? : Request → Fault → Option String := fun _ _ => none
  traceback : Request → Fault → String := fun _ _ => ""

structure Server where
  session : Session
  settings : Settings
  startedAt : Option Wall := none
  tally : Tally := {}
  wording : Wording := {}
  contents : Document → Json := fun _ => .null

namespace Server

def internalText : String := "Internal server error:"

def internalMessage (s : Server) (r : Request) (f : Fault) : String :=
  match s.wording.message? r f with
  | some text => internalText ++ " " ++ text
  | none => internalText

/-- What is sent when handling breaks off: where the fault came up when faults
are searched for, nothing about it in production, and else its kind and what the
runtime says of it. -/
def failure (s : Server) (r : Request) (f : Fault) : Reply :=
  if s.settings.debug then .plainText 500 (s.wording.traceback r f)
  else
    let body :=
      if s.settings.isProduction then ErrorCode.internalError.body "" .null
      else ErrorCode.internalError.body (s.internalMessage r f)
        (.obj [("type", .str f.label)])
    .content 500 (.obj [("detail", body)])

/-- Handles the value of a payload; one that is no JSON is turned down before
anything else happens. -/
def withPayload (p : Payload) (handle : Json → Action Reply) : Action Reply :=
  match p.read with
  | .ok v => handle v
  | .error (.malformed position) =>
    return .issues
      [⟨{ location := Body.place ++ [.index position], rule := .jsonInvalid },
      .obj []⟩]
  | .error .tooLarge => return .detail 400 "There was an error parsing the body"

/-- Handles a body with the engine of the session, which is built before the
body is looked at. -/
def withEngine {α : Type} (p : Payload) (read : Json → Checked α)
    (handle : Engine → DateMath.Present → α → Except Rejection Json) :
    Action Reply :=
  withPayload p fun v => do
    let e ← Session.getEngine
    Reply.ofChecked (read v) fun body => do
      Reply.ofResult (handle e (← get).here body)

def overview (s : Settings) : Json :=
  .obj [("message", .str s.appName), ("version", .str Health.version),
    ("description",
      .str "Time range resolution, description and query interval service"),
    ("docs_url", .str (if s.isProduction
      then "Contact admin for API documentation" else "/docs")),
    ("health_check", .str "/health"), ("metrics", .str "/metrics")]

def perform (s : Server) (target : Target) (p : Payload) :
    Operation → Action Reply
  | .document d => return .content 200 (s.contents d)
  | .health => return .content 200 (← Health.report s.settings s.startedAt)
  | .liveness => return .content 200 (← Health.liveness)
  | .readiness => return .content 200 (← Health.readiness s.startedAt)
  | .resolve =>
    withEngine p ResolveBody.read fun e here b =>
      (Handler.resolve e here b).map (·.json)
  | .describe => withEngine p RangeBody.read fun e here b =>
      (Handler.describe e here b).map fun display =>
        .obj [("display", .str display)]
  | .describeText =>
    Reply.ofChecked (queryText (target.value? "expr") "expr") fun expr =>
      Reply.ofResult
        ((Handler.settled (Description.ofText expr)).map descriptionJson)
  | .validate =>
    Reply.ofChecked (queryText (target.value? "value") "value") fun value =>
      Reply.ofResult
        ((Handler.settled (Description.isValidSpan value)).map fun valid =>
          .obj [("value", .str value), ("valid", .bool valid)])
  | .options =>
    return .content 200
      (.obj [("options", .arr (Preset.offered.map presetJson))])
  | .interval => withEngine p IntervalBody.read fun e here b =>
      (Handler.interval e s.settings.defaultResolution here b).map (·.json)
  | .toRelative => withEngine p RangeBody.read fun e here b =>
      (Handler.toRelative e here b).map fun (start, stop) =>
        distancesJson start stop
  | .toAbsolute => withPayload p fun v =>
      Reply.ofChecked (DistanceBody.read v) fun b => do
        Reply.ofResult ((Handler.toAbsolute (← get).here b).map (·.json))
  | .interpret duration =>
    Reply.ofResult ((Handler.interpret duration).map (·.json))
  | .metrics => return .tally s.tally
  | .root => return .content 200 (overview s.settings)

def follow (s : Server) (target : Target) (p : Payload) : Route → Action Reply
  | .operation op => do (← s.perform target p op).send
  | .wrongMethod => return .detail 405 "Method Not Allowed"
  | .redirected => return .redirection (Route.otherForm target.path)
  | .nowhere => return .detail 404 "Not Found"

def route (s : Server) (r : Request) : Route :=
  Route.find (!s.settings.isProduction) (Text.upper r.method)
    (Target.read r.target r.query).path

/-- Handles a request: a preflight request is answered at once, any other one
goes its way. -/
def handle (s : Server) (r : Request) : Action Reply :=
  match Preflight.answer? s.settings (Text.upper r.method) r.headers with
  | some (status, text) => return .plainText status text
  | none => s.follow (Target.read r.target r.query) r.payload (s.route r)

def labelOf (r : Request) (reply : Reply) : Label :=
  ⟨Text.upper r.method, (Target.read r.target r.query).label,
    toString reply.status⟩

/-- Answers a request. A request whose handling breaks off is timed but not
counted. -/
def answer (s : Server) (r : Request) : Reply × Server :=
  let (outcome, session) := (s.handle r).run.run s.session
  let tally := s.tally.time
  match outcome with
  | .ok reply =>
    (reply, { s with session, tally := tally.record (labelOf r reply) })
  | .error f => (s.failure r f, { s with session, tally })

def maxRedirections : Nat := 20

/-- Answers a request, and then the one that takes its place as long as the
answer is a redirection. -/
def serveWithin : Nat → Server → Request → Reply × Server
  | 0, s, r => s.answer r
  | n + 1, s, r =>
    match s.answer r with
    | (.redirection path, s) => serveWithin n s (r.redirect path)
    | answered => answered

def serve (s : Server) (r : Request) : Reply × Server :=
  serveWithin maxRedirections s r

def setClock (s : Server) (clock : Wall) : Server :=
  { s with session := { s.session with clock } }

end Server

end TimeWindow.Http

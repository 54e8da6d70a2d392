import TimeWindow.Http.Target
import TimeWindow.Text.Case

/-!
# Routes

Which operation a method and a path ask for. A path that belongs to an operation
only with its last slash dropped or with one added is redirected.
-/

namespace TimeWindow.Http

open Text

/-- What tells about the service itself: its schema, and pages that show it. -/
inductive Document where
  | schema
  | console
  | signIn
  | reference
  deriving DecidableEq, Repr

inductive Operation where
  | document (d : Document)
  | health
  | liveness
  | readiness
  | resolve
  | describe
  | describeText
  | validate
  | options
  | interval
  | toRelative
  | toAbsolute
  | interpret (duration : String)
  | metrics
  | root
  deriving DecidableEq, Repr

namespace Operation

def paths : List (String × Operation) := [
  ("/openapi.json", document .schema), ("/docs", document .console),
    ("/docs/oauth2-redirect", document .signIn),
  ("/redoc", document .reference),
  ("/health", health), ("/health/", health), ("/health/liveness", liveness),
  ("/health/readiness", readiness),
  ("/api/v1/ranges/resolve", resolve), ("/api/v1/ranges/describe", describe),
  ("/api/v1/ranges/describe-text", describeText),
  ("/api/v1/ranges/validate", validate),
  ("/api/v1/ranges/options", options), ("/api/v1/ranges/interval", interval),
  ("/api/v1/ranges/to-relative", toRelative),
  ("/api/v1/ranges/to-absolute", toAbsolute),
  ("/metrics", metrics), ("/", root)]

/-- What stands before a duration in the path of the operation that interprets
it. -/
def durationFront : List Char := "/api/v1/intervals/".toList

def durationOf? (path : List Char) : Option String :=
  match after? durationFront path with
  | some rest =>
    if rest = [] || rest.contains '/' then none else some (String.ofList rest)
  | none => none

/-- The operation of a path. One line break behind a fixed path does not
matter. -/
def ofPath? (path : List Char) : Option Operation :=
  match paths.find? fun (p, _) =>
    path = p.toList || path = p.toList ++ ['\n'] with
  | some (_, op) => some op
  | none => (durationOf? path).map interpret

def methods : Operation → List String
  | document _ => ["GET", "HEAD"]
  | resolve => ["POST"]
  | describe => ["POST"]
  | interval => ["POST"]
  | toRelative => ["POST"]
  | toAbsolute => ["POST"]
  | _ => ["GET"]

/-- Whether an operation is there at all; the pages are only where the service
is documented. -/
def isOffered (documented : Bool) : Operation → Bool
  | document .schema => true
  | document _ => documented
  | _ => true

def offered? (documented : Bool) (path : List Char) : Option Operation :=
  (ofPath? path).filter (isOffered documented)

end Operation

inductive Route where
  | operation (op : Operation)
  | wrongMethod
  | redirected
  | nowhere
  deriving DecidableEq, Repr

namespace Route

def otherForm (path : List Char) : List Char :=
  if path.getLast? = some '/' then (path.reverse.dropWhile (· = '/')).reverse
    else path ++ ['/']

def find (documented : Bool) (method : String) (path : List Char) : Route :=
  match Operation.offered? documented path with
  | some op =>
    if op.methods.contains method then .operation op else .wrongMethod
  | none =>
    if path ≠ ['/'] && (Operation.offered? documented (otherForm path)).isSome
      then .redirected else .nowhere

end Route

end TimeWindow.Http

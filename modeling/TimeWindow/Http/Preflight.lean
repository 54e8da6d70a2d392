import TimeWindow.Service.Settings

/-!
# Preflight requests

Before a page of another origin sends a request, its browser asks whether it
may: by the method `OPTIONS`, with headers that name the origin and the method
of the request. `Preflight.answer?` answers this in place of any operation.
-/

namespace TimeWindow.Http

abbrev Headers := List (String × String)

def Headers.value? (h : Headers) (name : String) : Option String :=
  (h.find? fun (own, _) => Text.lower own = name).map (·.2)

namespace Preflight

def allowedMethods : List String :=
  ["DELETE", "GET", "HEAD", "OPTIONS", "PATCH", "POST", "PUT"]

/-- Whether pages of an origin may call the service; a star stands for all
origins. -/
def admits (s : Settings) (origin : String) : Bool :=
  s.allowedOrigins.any fun allowed =>
    match allowed with
    | .str name => name = "*" || name = origin
    | _ => false

def failures (s : Settings) (origin method : String) : List String :=
  (if admits s origin then [] else ["origin"]) ++
    if allowedMethods.contains method then [] else ["method"]

def answer? (s : Settings) (method : String) (h : Headers) :
    Option (Nat × String) :=
  match h.value? "origin", h.value? "access-control-request-method" with
  | some origin, some asked =>
    if method = "OPTIONS" then
      match failures s origin asked with
      | [] => some (200, "OK")
      | failures => some (400, "Disallowed CORS " ++ ", ".intercalate failures)
    else none
  | _, _ => none

end Preflight

end TimeWindow.Http

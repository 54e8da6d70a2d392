import TimeWindow.DateMath.Engine
import TimeWindow.Json.Reader
import TimeWindow.Service.Field

/-!
# Settings

The configuration of the service, read from variables and from values that are
given directly. `Settings.read` either gives settings in which every value is
within its bounds, or every issue in the order of the fields.
-/

namespace TimeWindow

open Text

/-- A list of variables, the oldest first. Their names are compared without
regard to case. -/
abbrev Environment := List (String × String)

structure Settings where
  appName : String
  environment : String
  debug : Bool
  logLevel : String
  jsonLogs : Option Bool
  host : String
  port : Int
  allowedOriginsText : String
  defaultTimeZone : String
  fiscalStart : Int
  weekStart : WeekStart
  defaultResolution : Int

namespace Settings

/-- The value of a variable; of several spellings of its name the latest
counts. -/
def valueOf? (env : Environment) (name : String) : Option String :=
  (env.reverse.find? fun (n, _) => lower n = name).map (·.2)

def variableValue (s : String) : Json := if s = "null" then .null else .str s

/-- The names under which a field can be given, the preferred one first. -/
structure Names where
  field : String
  second : Option String := none

/-- The value of a field and the name under which it was found. Directly given
values win over variables, and of two names the second wins. -/
def find? (env : Environment) (given : List (String × Json)) (n : Names) :
    Option (String × Json) :=
  let named (name : String) : Option (String × Json) :=
    match given.lookup name with
    | some v => some (name, v)
    | none => none
  let stored (name : String) : Option (String × Json) :=
    (valueOf? env (lower name)).map fun s => (name, variableValue s)
  match n.second with
  | none => (named n.field).or (stored n.field)
  | some second =>
    match named second with
    | some found => some found
    | none =>
      match stored second with
      | some found => some found
      | none => (named n.field).or (stored n.field)

def field {α : Type} (env : Environment) (given : List (String × Json))
    (n : Names) (standard : α) (read : Json → Except Issue α) :
    Except Issue α :=
  match find? env given n with
  | none => .ok standard
  | some (name, v) =>
    match read v with
    | .ok a => .ok a
    | .error i => .error (i.within [.name name])

def plain {α : Type} (read : Json → Except Issue.Rule α) (v : Json) :
    Except Issue α :=
  (read v).mapError fun rule => { location := [], rule }

def checked {α β : Type} (read : Json → Except Issue.Rule α)
    (check : α → Option β) (text : String) (v : Json) :
    Except Issue β := do
  match check (← plain read v) with
  | some b => return b
  | none => .error (.ofText [] text)

def logLevels : List String := ["DEBUG", "INFO", "WARNING", "ERROR", "CRITICAL"]

def weekStarts : List String := ["sunday", "monday", "saturday"]

def logLevel? (s : String) : Option String :=
  let s := upper s; if logLevels.contains s then some s else none

def fiscalStart? (n : Int) : Option Int :=
  if 0 ≤ n ∧ n ≤ 11 then some n else none

def weekStart? (s : String) : Option WeekStart := WeekStart.ofName? (lower s)

def resolution? (n : Int) : Option Int := if 0 < n then some n else none

def standardOrigins : String :=
  "[\x22http://localhost:3000\x22,\x22http://127.0.0.1:3000\x22]"

def secondOriginsName : String := "ALLOWED_ORIGINS"

def originsNames : Names :=
  { field := "allowed_origins_str", second := some secondOriginsName }

def fieldNames : List String :=
  ["app_name", "environment", "debug", "log_level", "json_logs", "host",
    "port", originsNames.field, secondOriginsName, "default_timezone",
    "fiscal_year_start_month", "week_start", "default_resolution"]

/-- The names with a value that no field takes. The first name of the origins is
one of them when their second name has a value too; it comes first when a
variable brings it, and variables bring only one of the two. -/
def leftOver (env : Environment) (given : List (String × Json)) : List Issue :=
  let isStored (name : String) := (valueOf? env (lower name)).isSome
  let storesSecond := isStored secondOriginsName
  let usesSecond := storesSecond || (given.lookup secondOriginsName).isSome
  let storesUnused := usesSecond && !storesSecond && isStored originsNames.field
  let unused := given.filter fun (name, _) =>
    !fieldNames.contains name ||
      (name = originsNames.field && usesSecond && !storesUnused)
  ((if storesUnused then [originsNames.field] else []) ++ unused.map (·.1)).map
    fun name =>
    { location := [.name name], rule := .extraForbidden }

def issueOf {α : Type} : Except Issue α → List Issue
  | .ok _ => []
  | .error i => [i]

def read (env : Environment) (given : List (String × Json)) :
    Except Fault Settings :=
  let text (name standard : String) :=
    field env given ⟨name, none⟩ standard (plain Field.string)
  let appName := text "app_name" "rangekit Time Range Service"
  let environment := text "environment" "development"
  let debug := field env given ⟨"debug", none⟩ false (plain Field.truth)
  let logLevel := field env given ⟨"log_level", none⟩ "INFO"
    (checked Field.string logLevel?
      ("Log level must be one of " ++ Fault.quotedList logLevels))
  let jsonLogs :=
    field env given ⟨"json_logs", none⟩ none (plain (Field.optional Field.truth))
  let host := text "host" "0.0.0.0"
  let port := field env given ⟨"port", none⟩ 8000 (plain Field.integer)
  let origins :=
    field env given originsNames standardOrigins (plain Field.string)
  let timeZone := text "default_timezone" "utc"
  let fiscalStart := field env given ⟨"fiscal_year_start_month", none⟩ 0
    (checked Field.integer fiscalStart?
      "Fiscal year start month must be between 0 (January) and 11 (December)")
  let weekStart := field env given ⟨"week_start", none⟩ .sunday
    (checked Field.string weekStart?
      ("Week start must be one of " ++ Fault.quotedList weekStarts))
  let resolution := field env given ⟨"default_resolution", none⟩ 1000
    (checked Field.integer resolution? "Default resolution must be positive")
  match appName, environment, debug, logLevel, jsonLogs, host, port, origins,
    timeZone, fiscalStart, weekStart, resolution, leftOver env given with
  | .ok appName, .ok environment, .ok debug, .ok logLevel, .ok jsonLogs,
    .ok host, .ok port, .ok allowedOriginsText, .ok defaultTimeZone,
    .ok fiscalStart, .ok weekStart, .ok defaultResolution, [] =>
    .ok {
      appName, environment, debug, logLevel, jsonLogs, host, port,
      allowedOriginsText, defaultTimeZone, fiscalStart, weekStart,
      defaultResolution }
  | _, _, _, _, _, _, _, _, _, _, _, _, extra =>
    .error (.invalidSettings (issueOf appName ++ issueOf environment ++
      issueOf debug ++ issueOf logLevel ++ issueOf jsonLogs ++
      issueOf host ++ issueOf port ++ issueOf origins ++ issueOf timeZone ++
      issueOf fiscalStart ++ issueOf weekStart ++ issueOf resolution ++ extra))

def originsByComma (cs : List Char) : List String :=
  ((splitAt ',' cs).map trim).filterMap fun entry => if entry = [] then none
    else some (String.ofList entry)

def plainOrigins (cs : List Char) : List Json :=
  if cs.contains ',' then (originsByComma cs).map .str
  else if cs ≠ [] then [.str (String.ofList cs)]
  else [.str "http://localhost:3000", .str "http://127.0.0.1:3000"]

/-- The origins that may call the service: a list in brackets, a list with
commas, or a single one. -/
def originsOf (text : String) : List Json :=
  let cs := trim text.toList
  if cs.head? = some '[' && cs.getLast? = some ']' then
    match Json.read (String.ofList cs) with
    | .ok (.arr items) => items
    | _ => plainOrigins cs
  else plainOrigins cs

def allowedOrigins (s : Settings) : List Json := originsOf s.allowedOriginsText

def isProduction (s : Settings) : Bool := lower s.environment = "production"

def isDevelopment (s : Settings) : Bool := lower s.environment = "development"

/-- Whether log lines are written as JSON: as told, or else in production. -/
def useJsonLogs (s : Settings) : Bool := s.jsonLogs.getD s.isProduction

def engine (s : Settings) (zones : Zone.Catalog) : Except Fault Engine :=
  Engine.make (some s.defaultTimeZone) s.fiscalStart s.weekStart.name zones

end Settings

end TimeWindow

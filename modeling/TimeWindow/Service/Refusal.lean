import TimeWindow.Fault

/-!
# Refusals

What a caller is told when a request cannot be served: a code, a text and the
field at fault. `ErrorCode.body` writes it down, and `Refusal.ofFault` turns a
fault of the range engine into a refusal.
-/

namespace TimeWindow

inductive ErrorCode where
  | internalError
  | validationError
  | invalidInterval
  | invalidResolution
  | invalidTimeRange
  | unknownTimeZone
  deriving DecidableEq, Repr

namespace ErrorCode

def name : ErrorCode → String
  | internalError => "INTERNAL_ERROR"
  | validationError => "VALIDATION_ERROR"
  | invalidInterval => "INVALID_INTERVAL"
  | invalidResolution => "INVALID_RESOLUTION"
  | invalidTimeRange => "INVALID_TIME_RANGE"
  | unknownTimeZone => "UNKNOWN_TIMEZONE"

def standardText : ErrorCode → String
  | internalError => "An unexpected error occurred. Please try again later."
  | validationError =>
    "The request contains invalid data. Please check your input."
  | invalidInterval => "The interval could not be parsed."
  | invalidResolution => "Resolution must be a positive number of data points."
  | invalidTimeRange => "The time range could not be resolved."
  | unknownTimeZone => "The time zone is not recognized."

def all : List ErrorCode :=
  [internalError, validationError, invalidInterval, invalidResolution,
    invalidTimeRange, unknownTimeZone]

def ofName (name : String) : Except Fault ErrorCode :=
  match all.find? fun c => c.name = name with
  | some c => .ok c
  | none => .error .unknownErrorCode

/-- The body of an error. An empty text gives way to the standard one, and empty
details are left out. -/
def body (code : ErrorCode) (text : String) (details : Json) : Json :=
  let text := if text = "" then code.standardText else text
  .obj [("error", .obj ([("code", .str code.name), ("message", .str text)]
    ++ if details.isFilled then [("details", details)] else []))]

theorem ofName_name (c : ErrorCode) : ofName c.name = .ok c :=
  by cases c <;> rfl

end ErrorCode

structure Refusal where
  code : ErrorCode
  text : String
  field : Option String := none
  deriving DecidableEq, Repr

namespace Refusal

def status : Nat := 400

def details (r : Refusal) : Json :=
  match r.field with
  | none => .null
  | some name => if name = "" then .null else .obj [("field", .str name)]

def body (r : Refusal) : Json := r.code.body r.text r.details

def codeOf : Fault → ErrorCode
  | .invalidInterval _ => .invalidInterval
  | .invalidResolution _ => .invalidResolution
  | _ => .invalidTimeRange

def ofFault (f : Fault) (field : Option String) : Refusal :=
  ⟨codeOf f, f.message?.getD "", field⟩

def unknownZone (name : Option String) : Refusal :=
  ⟨.unknownTimeZone, "Unknown time zone \x27" ++ name.getD "None" ++ "\x27.",
    some "time_zone"⟩

end Refusal

end TimeWindow

import TimeWindow.Http.Checked
import TimeWindow.Json.Reader
import TimeWindow.Range.Basic

/-!
# Request bodies

The bodies of the operations on ranges, and how they are read from JSON. A body
is accepted when all of its fields are, and otherwise all of their issues are
told, in the order of the fields and each with the value at fault.
-/

namespace TimeWindow.Http

open Text DateMath

/-- What a request carries: nothing, a value, or a text that should write
one. -/
inductive Payload where
  | none
  | value (v : Json)
  | text (s : String)

inductive Payload.Obstacle where
  /-- The text is no JSON from a position on. -/
  | malformed (position : Nat)
  /-- The text holds a number with too many digits, or is nested too deeply. -/
  | tooLarge
  deriving DecidableEq, Repr

def withoutMark (s : String) : String :=
  match s.toList with
  | '\uFEFF' :: rest => String.ofList rest
  | _ => s

def Payload.read : Payload → Except Payload.Obstacle Json
  | .none => .ok .null
  | .value v => .ok v
  | .text s =>
    if s = "" then .ok .null
    else
      match Json.read (withoutMark s) with
      | .ok v => .ok v
      | .error (.malformed position) => .error (.malformed position)
      | .error .tooLong => .error .tooLarge
      | .error .tooDeep => .error .tooLarge

namespace Body

def place : List Issue.Place := [.name "body"]

def members : Json → Checked (List (String × Json))
  | .obj members => .ok members
  | .null => .refuse place .null .missing
  | v => .refuse place v .modelAttributesType

def find? (members : List (String × Json)) :
    List String → Option (String × Json)
  | [] => none
  | name :: names =>
    match members.lookup name with
    | some v => some (name, v)
    | none => find? members names

/-- A field that must be there, under one of its names. One that is missing is
an issue of the whole body. -/
def required {α : Type} (members : List (String × Json)) (name : String)
    (others : List String) (read : List Issue.Place → Json → Checked α) :
    Checked α :=
  match find? members (name :: others) with
  | some (found, v) => read (place ++ [.name found]) v
  | none => .refuse (place ++ [.name name]) (.obj members) .missing

def optional {α : Type} (members : List (String × Json)) (name : String)
    (read : Json → Except Issue.Rule α) :
    Checked (Option α) :=
  match members.lookup name with
  | none => .ok none
  | some v => .read (place ++ [.name name]) v (Field.optional read)

def startNames : List String := ["from_"]

def blankSide : String := "Range side cannot be empty or whitespace only"

/-- One side of a range: a moment if it can be read as one, and else a text
without the white space around it. -/
def side (location : List Issue.Place) (v : Json) : Checked Source :=
  match Field.moment v with
  | .ok m => .ok (.moment m)
  | .error rule =>
    match Field.string v with
    | .ok s =>
      let trimmed := String.ofList (trim s.toList)
      if trimmed = "" then .error [⟨.ofText location blankSide, v⟩]
        else .ok (.text trimmed)
    | .error textRule =>
      .error [⟨{ location := location ++ [.name "datetime"], rule }, v⟩,
              ⟨{ location := location ++ [.name "str"], rule := textRule }, v⟩]

def integerWithin (low high : Int) (v : Json) : Except Issue.Rule Int := do
  let n ← Field.integer v
  if n < low then .error .greaterThanEqual else if high < n then
    .error .lessThanEqual else return n

def positiveInteger (v : Json) : Except Issue.Rule Int := do
  let n ← Field.integer v
  if 0 < n then return n else .error .greaterThan

def double (location : List Issue.Place) (v : Json) : Checked Double :=
  .read location v Field.double

end Body

open Body

def Body.sides (members : List (String × Json)) : Checked RawRange :=
  Checked.part (.part (.ok RawRange.mk) (required members "from" startNames side))
    (required members "to" [] side)

structure RangeBody where
  range : RawRange
  timeZone : Option String
  now : Option Moment

def RangeBody.read (v : Json) : Checked RangeBody := do
  let members ← members v
  .part (.part (.part (.ok RangeBody.mk) (sides members))
    (optional members "time_zone" Field.string))
    (optional members "now" Field.moment)

structure ResolveBody where
  range : RawRange
  timeZone : Option String
  fiscalStart : Option Int
  now : Option Moment

def ResolveBody.read (v : Json) : Checked ResolveBody := do
  let members ← members v
  .part (.part (.part (.part (.ok ResolveBody.mk) (sides members))
    (optional members "time_zone" Field.string))
    (optional members "fiscal_year_start_month" (integerWithin 0 11)))
    (optional members "now" Field.moment)

/-- A range with the number of its data points and the least step between
them. -/
structure IntervalBody where
  range : RawRange
  resolution : Option Int
  minInterval : Option String
  timeZone : Option String
  now : Option Moment

def IntervalBody.read (v : Json) : Checked IntervalBody := do
  let members ← members v
  .part (.part (.part (.part (.part (.ok IntervalBody.mk) (sides members))
    (optional members "resolution" positiveInteger)) (optional members
      "min_interval" Field.string))
    (optional members "time_zone" Field.string)) (optional members "now"
      Field.moment)

structure DistanceBody where
  start : Double
  stop : Double
  now : Option Moment

def DistanceBody.read (v : Json) : Checked DistanceBody := do
  let members ← members v
  .part (.part
    (.part (.ok DistanceBody.mk) (required members "from" startNames double))
    (required members "to" [] double)) (optional members "now" Field.moment)

/-- The value of a query's name, which must be there and must not be empty. -/
def queryText (value : Option String) (name : String) : Checked String :=
  let location : List Issue.Place := [.name "query", .name name]
  match value with
  | none => .refuse location .null .missing
  | some s =>
    if s = "" then .refuse location (.str s) .stringTooShort else .ok s

end TimeWindow.Http

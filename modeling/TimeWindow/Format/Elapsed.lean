import TimeWindow.Calendar.Wall

/-!
# Elapsed time in words

How far apart two moments are, told roughly: seconds, minutes and hours within a
day, then days and months, a year with what is left of it, and whole years. A
year counts 365 days here and a month thirty and a half.
-/

namespace TimeWindow.Elapsed

def withCommas (n : Nat) : String :=
  String.ofList (group (toString n).toList.reverse).reverse
where
  group : List Char → List Char
    | a :: b :: c :: d :: rest => a :: b :: c :: ',' :: group (d :: rest)
    | cs => cs

def withinDay? (seconds : Nat) : Option String :=
  if seconds = 0 then none
  else if seconds = 1 then some "a second"
  else if seconds < 60 then some (toString seconds ++ " seconds")
  else if seconds < 120 then some "a minute"
  else if seconds < 3600 then some (toString (seconds / 60) ++ " minutes")
  else if seconds < 7200 then some "an hour"
  else some (toString (seconds / 3600) ++ " hours")

def withinYear (days : Nat) : String :=
  let months := 2 * days / 61
  if days = 1 then "a day"
  else if months = 0 then toString days ++ " days"
  else if months = 1 then "a month"
  else toString months ++ " months"

def beyondYear (days : Nat) : String :=
  let months := 2 * days / 61
  if months = 0 then
    if days = 0 then "a year"
    else if days = 1 then "1 year, 1 day"
    else "1 year, " ++ toString days ++ " days"
  else if months = 1 then "1 year, 1 month"
  else "1 year, " ++ toString months ++ " months"

/-- A span of whole days and seconds; there is nothing to say below one
second. -/
def span? (days seconds : Nat) : Option String :=
  let years := days / 365
  if years = 0 then
    (if days = 0 then withinDay? seconds else some (withinYear days))
  else if years = 1 then some (beyondYear (days % 365))
  else some (withCommas years ++ " years")

def text (moment seenFrom : Wall) : String :=
  let apart := (seenFrom.ticks - moment.ticks).natAbs
  let day := Calendar.day.toNat
  match span? (apart / day) (apart % day / Calendar.second.toNat) with
  | none => "now"
  | some span =>
    span ++ (if seenFrom.ticks < moment.ticks then " from now" else " ago")

end TimeWindow.Elapsed

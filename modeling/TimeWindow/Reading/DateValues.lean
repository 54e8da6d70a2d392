import TimeWindow.Calendar.Date
import TimeWindow.Reading.Token

/-!
# Which number is the year

A free-form date gives up to three values in any order. Some say what they are:
a month by its name, and a year by having more than two digits.
`DateValues.resolve?` gives the others their meaning by place and size, the
month before the day where nothing speaks against it.
-/

namespace TimeWindow.FreeForm

/-- The date values in the order in which they were found, and the places of
those that are known to be the year and the month. `century` says that some year
was written in full. -/
structure DateValues where
  values : List Int := []
  yearPlace : Option Nat := none
  monthPlace : Option Nat := none
  century : Bool := false

structure PartialDate where
  year : Option Int := none
  month : Option Int := none
  day : Option Int := none

namespace DateValues

def addYear? (d : DateValues) (n : Int) : Option DateValues :=
  if d.yearPlace.isSome then none
  else some { d with
    values := d.values ++ [n], yearPlace := some d.values.length }

def addMonth? (d : DateValues) (n : Int) : Option DateValues :=
  if d.monthPlace.isSome then none
  else some { d with
    values := d.values ++ [n], monthPlace := some d.values.length }

def addText? (d : DateValues) (token : String) (isYear : Bool) :
    Option DateValues := do
  let n ← Numeral.integer? token.toList
  if isDigits token && 2 < token.length then
    ({ d with century := true }).addYear? n
  else if isYear then d.addYear? n
  else return { d with values := d.values ++ [n] }

def addNumber? (d : DateValues) (q : Rat) : Option DateValues :=
  if 100 < q then ({ d with century := true }).addYear? q.floor
  else some { d with values := d.values ++ [q.floor] }

def couldBeDay (d : DateValues) (q : Rat) : Bool :=
  let last : Int :=
    match d.monthPlace.bind (d.values[·]?) with
    | none => 31
    | some month =>
      Calendar.monthLength ((d.yearPlace.bind (d.values[·]?)).getD 2000) month
  1 ≤ q && q ≤ last

/-- The values by what is known of them: each is labelled, or all but one of
three. -/
def resolveLabelled (d : DateValues) : PartialDate :=
  let rest := (List.range d.values.length).filter fun i =>
    some i ≠ d.yearPlace && some i ≠ d.monthPlace
  { year := d.yearPlace.bind (d.values[·]?)
    month := d.monthPlace.bind (d.values[·]?)
    day := rest.head?.bind (d.values[·]?) }

def resolveOne (n : Int) : PartialDate :=
  if 31 < n then { year := some n } else { day := some n }

def resolveBesideMonth (month other : Int) : PartialDate :=
  { resolveOne other with month := some month }

def resolveTwo (a b : Int) : PartialDate :=
  if 31 < a then { year := some a, month := some b }
  else if 31 < b then { year := some b, month := some a }
  else { month := some a, day := some b }

def resolveThree (d : DateValues) (a b c : Int) : PartialDate :=
  let of (year month day : Int) : PartialDate :=
    ⟨some year, some month, some day⟩
  match d.monthPlace with
  | some 0 => if 31 < b then of b a c else of c a b
  | some 1 => if 31 < a then of a b c else of c b a
  | some _ => if 31 < b then of b c a else of a c b
  | none =>
    if 31 < a || d.yearPlace = some 0 then of a b c
    else if 12 < a then of c b a
    else of c a b

/-- The fields that the values stand for; more than three values have no
reading. -/
def resolve? (d : DateValues) : Option PartialDate :=
  let labels := (if d.yearPlace.isSome then 1 else 0) +
    (if d.monthPlace.isSome then 1 else 0)
  if (d.values.length = labels && 0 < labels) ||
    (d.values.length = 3 && labels = 2) then some d.resolveLabelled
  else
    match d.values, d.monthPlace with
    | [], _ => some {}
    | [a], _ => some (resolveOne a)
    | [a, b], some 0 => some (resolveBesideMonth a b)
    | [a, b], some _ => some (resolveBesideMonth b a)
    | [a, b], none => some (resolveTwo a b)
    | [a, b, c], _ => some (d.resolveThree a b c)
    | _, _ => none

end DateValues

/-- The year that a number of at most two digits means: the one within fifty
years of the pivot. -/
def fullYear (pivotYear year : Int) (century : Bool) : Int :=
  if year < 100 && !century then
    let guess := year + pivotYear / 100 * 100
    if pivotYear + 50 ≤ guess then guess - 100
    else if guess < pivotYear - 50 then guess + 100
    else guess
  else year

end TimeWindow.FreeForm

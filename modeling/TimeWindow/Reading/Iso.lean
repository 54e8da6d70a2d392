import TimeWindow.Instant
import TimeWindow.Number.Numeral

/-!
# Standard date-times

Reads the forms of the international standard: calendar dates, week dates and
ordinal dates, then any one character, a time of day with a fraction, and an
offset. `Iso.read?` reads the whole text or nothing.
-/

namespace TimeWindow.Iso

open Text

/-- A date of the calendar forms `YYYY`, `YYYY-MM`, `YYYY-MM-DD` and `YYYYMMDD`,
and the rest. Its fields are not yet held against the calendar. -/
def calendarDate? (cs : List Char) : Option (Date × List Char) := do
  if cs.length < 4 then none
  let year ← Numeral.integer? (cs.take 4)
  let rest := cs.drop 4
  if rest = [] then return (⟨year, 1, 1⟩, [])
  let dashed := rest.head? = some '-'
  let rest := if dashed then rest.drop 1 else rest
  if rest.length < 2 then none
  let month ← Numeral.integer? (rest.take 2)
  let rest := rest.drop 2
  if rest = [] then
    if dashed then return (⟨year, month, 1⟩, []) else none
  else
    let rest ← if dashed then Timestamp.skip? '-' rest else some rest
    if rest.length < 2 then none
    let day ← Numeral.integer? (rest.take 2)
    return (⟨year, month, day⟩, rest.drop 2)

/-- The day number of a day of a week of a year; week 1 is the one that holds 4
January. -/
def weekDay? (year week day : Int) : Option Int :=
  if 1 ≤ year && year ≤ 9999 && 0 < week && week < 54 && 0 < day && day < 8 then
    let anchor := Date.dayNumber ⟨year, 1, 4⟩
    let number := anchor - anchor % 7 + (week - 1) * 7 + (day - 1)
    if (Wall.mk (number * Calendar.day)).inRange then some number else none
  else none

def ordinalDay? (year day : Int) : Option Int :=
  if 1 ≤ year && year ≤ 9999 && 1 ≤ day &&
    day ≤ (if Calendar.isLeap year then 366 else 365) then
    some (Calendar.yearStart year + day - 1)
  else none

/-- A date of the forms `YYYY-Www-D` and `YYYY-DDD`, with dashes or without, and
the rest. -/
def otherDate? (cs : List Char) : Option (Date × List Char) := do
  if cs.length < 4 then none
  let year ← Numeral.integer? (cs.take 4)
  let rest := cs.drop 4
  let dashed := rest.head? = some '-'
  let rest := if dashed then rest.drop 1 else rest
  match rest with
  | 'W' :: rest =>
    let week ← Numeral.integer? (rest.take 2)
    let rest := rest.drop 2
    if rest = [] then
      return (Date.ofDayNumber (← weekDay? year week 1), [])
    else
      if (rest.head? = some '-') ≠ dashed then none
      let rest := if dashed then rest.drop 1 else rest
      let day ← Numeral.integer? (rest.take 1)
      return (Date.ofDayNumber (← weekDay? year week day), rest.drop 1)
  | _ =>
    if rest.length < 3 then none
    let day ← Numeral.integer? (rest.take 3)
    return (Date.ofDayNumber (← ordinalDay? year day), rest.drop 3)

/-- A date at the beginning of the text: a calendar date if it can be read as
one. -/
def date? (cs : List Char) : Option (Date × List Char) :=
  (calendarDate? cs).or (otherDate? cs)

/-- An offset in seconds, from the whole text: `Z`, hours, or hours and
minutes. -/
def offset? (cs : List Char) : Option Int :=
  match cs with
  | ['Z'] => some 0
  | ['z'] => some 0
  | sign :: rest => do
    if rest.length ≠ 2 && rest.length ≠ 4 && rest.length ≠ 5 then none
    let signed ← if sign = '-' then some (-1 : Int) else if sign = '+' then
        some 1 else none
    let hours ← Numeral.integer? (rest.take 2)
    let after := rest.drop 2
    let minutes ←
      if after = [] then some 0
      else Numeral.integer? (if after.head? = some ':' then after.drop 1
        else after)
    if 59 < minutes || 23 < hours then none
    return signed * (hours * 3600 + minutes * 60)
  | [] => none

def beginsOffset (c : Char) : Bool := c = '-' || c = '+' || c = 'Z' || c = 'z'

structure TimeOfDay where
  hour : Int := 0
  minute : Int := 0
  second : Int := 0
  microsecond : Int := 0
  offset : Option Int := none
  deriving DecidableEq, Repr

/-- A fraction of a second behind a point or a comma, cut off behind the sixth
digit. -/
def fraction? (cs : List Char) : Option (Int × List Char) :=
  match cs with
  | '.' :: rest => Timestamp.fraction? rest
  | ',' :: rest => Timestamp.fraction? rest
  | _ => none

def withOffset? (t : TimeOfDay) (cs : List Char) : Option TimeOfDay :=
  match cs with
  | [] => some t
  | c :: _ =>
    if beginsOffset c then (offset? cs).map fun o => { t with offset := some o }
      else none

def afterSeconds? (t : TimeOfDay) (cs : List Char) : Option TimeOfDay :=
  match fraction? cs with
  | some (microsecond, rest) => withOffset? { t with microsecond } rest
  | none => withOffset? t cs

/-- What may follow the minutes: seconds with a colon in front if the minutes
had one, or an offset. -/
def afterMinutes? (colons : Bool) (t : TimeOfDay) (cs : List Char) :
    Option TimeOfDay :=
  match cs with
  | [] => some t
  | c :: rest =>
    if beginsOffset c then withOffset? t cs
    else do
      let cs ← if colons then (if c = ':' then some rest else none) else some cs
      let second ← Numeral.integer? (cs.take 2)
      afterSeconds? { t with second } (cs.drop 2)

/-- What may follow the hours: minutes with a colon in front or without, or an
offset. -/
def afterHours? (t : TimeOfDay) (cs : List Char) : Option TimeOfDay :=
  match cs with
  | [] => some t
  | c :: rest =>
    if beginsOffset c then withOffset? t cs
    else do
      let colons := c = ':'
      let cs := if colons then rest else cs
      let minute ← Numeral.integer? (cs.take 2)
      afterMinutes? colons { t with minute } (cs.drop 2)

def timeOfDay? (cs : List Char) : Option TimeOfDay := do
  if cs.length < 2 then none
  let t ←
    if (cs.head?.map beginsOffset).getD false then withOffset? {} cs
    else do
      let hour ← Numeral.integer? (cs.take 2)
      afterHours? { hour } (cs.drop 2)
  if t.hour = 24 && (t.minute ≠ 0 || t.second ≠ 0 || t.microsecond ≠ 0) then none
  return t

/-- The moment with the given fields; the hour 24 is midnight of the next
day. -/
def moment? (date : Date) (t : TimeOfDay) : Option Moment := do
  let hour := if t.hour = 24 then 0 else t.hour
  let wall ← Wall.of? date ⟨hour, t.minute, t.second, t.microsecond⟩
  let wall := if t.hour = 24 then wall.add Calendar.day else wall
  if !wall.inRange then none
  return match t.offset with
    | none => .plain wall
    | some seconds => .fixed ⟨wall, .offset seconds⟩

def read? (s : String) : Option Moment := do
  let cs := s.toList
  if cs.any fun c => 0x80 ≤ c.toNat then none
  let (date, rest) ← date? cs
  match rest with
  | [] => moment? date {}
  | _ :: rest => moment? date (← timeOfDay? rest)

end TimeWindow.Iso

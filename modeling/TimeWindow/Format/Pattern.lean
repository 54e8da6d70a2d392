import TimeWindow.Instant
import TimeWindow.Text.Case

/-!
# Date-time patterns

A pattern is text with directives: `%`, then flags, a width, a modifier, and a
letter that names a field. The flags choose the padding (`_` blanks, `0` zeros,
`-` none) and the case (`^` capitals, `#` the other case). Offset, abbreviation
and microseconds, when written without any of these, are filled in first.
`Pattern.render` gives the text of an instant.
-/

namespace TimeWindow.Pattern

structure Directive where
  padding : Option Char := none
  capitals : Bool := false
  otherCase : Bool := false
  width : Nat := 0
  modifier : Option Char := none

/-- What patterns show: a clock reading, its offset in seconds and abbreviation,
and whether it is saving daylight. -/
structure Shown where
  wall : Wall
  offset : Int
  abbreviation : String
  saving : Bool

namespace Shown

def ofInstant (i : Instant) : Shown where
  wall := i.wall
  offset := i.setting.seconds
  abbreviation := i.setting.abbreviation
  saving :=
    match i.setting with
    | .offset _ => false
    | .period _ p => p.saving ≠ 0

def date (s : Shown) : Date := s.wall.date

def dayOfYear (s : Shown) : Int :=
  s.wall.dayNumber - Calendar.yearStart s.date.year

def sinceSunday (s : Shown) : Int := (s.wall.weekday + 1) % 7

def thursday (s : Shown) : Int := s.wall.dayNumber - s.wall.weekday + 3

def weekYear (s : Shown) : Int := Calendar.yearOf s.thursday

def week (s : Shown) : Int :=
  (s.thursday - Calendar.yearStart s.weekYear) / 7 + 1

def faceHour (s : Shown) : Int :=
  if s.wall.time.hour % 12 = 0 then 12 else s.wall.time.hour % 12

def epochSeconds (s : Shown) : Int :=
  s.wall.ticks / Calendar.second - 719162 * 86400 - (if s.saving then 3600 else 0)

end Shown

def weekdayNames : List String :=
  ["Monday", "Tuesday", "Wednesday", "Thursday", "Friday", "Saturday", "Sunday"]

def monthNames : List String :=
  ["January", "February", "March", "April", "May", "June", "July", "August",
    "September", "October", "November", "December"]

def weekdayName (s : Shown) : String :=
  (weekdayNames[s.wall.weekday.toNat]?).getD ""

def monthName (s : Shown) : String :=
  (monthNames[(s.date.month - 1).toNat]?).getD ""

def abbreviated (name : String) : String := String.ofList (name.toList.take 3)

/-- An offset without a colon: hours and minutes, and seconds when there are
any. -/
def offsetText (seconds : Int) : String :=
  let n : Int := seconds.natAbs
  (if seconds < 0 then "-" else "+") ++ Timestamp.padded 2 (n / 3600) ++
    Timestamp.padded 2 (n % 3600 / 60)
    ++ (if n % 60 = 0 then "" else Timestamp.padded 2 (n % 60))

def fillIn (s : Shown) : List Char → List Char
  | '%' :: c :: rest =>
    if c = 'z' then (offsetText s.offset).toList ++ fillIn s rest
    else if c = 'Z' then
      s.abbreviation.toList.flatMap
        (fun c => if c = '%' then ['%', '%'] else [c]) ++ fillIn s rest
    else if c = 'f' then
      (Timestamp.padded 6 s.wall.time.microsecond).toList ++ fillIn s rest
    else '%' :: c :: fillIn s rest
  | c :: rest => c :: fillIn s rest
  | [] => []

/-! ## Directives -/

def aligned (d : Directive) (text : List Char) : List Char :=
  List.replicate (d.width - text.length) (if d.padding = some '0' then '0'
    else ' ') ++ text

def cased (capitals lowered : Bool) (text : List Char) : List Char :=
  if lowered then text.map Text.lowerChar else if capitals then
    text.map Text.upperChar else text

def words (d : Directive) (text : String) : List Char :=
  aligned d (cased (d.capitals || d.otherCase) false text.toList)

/-- A number of at least `digits` digits; a width asks for more of them. -/
def number (d : Directive) (digits : Nat) (n : Int) : List Char :=
  let text := (toString n.natAbs).toList
  let least := max digits d.width
  let padded :=
    match d.padding with
    | some '-' => text
    | some '_' => List.replicate (least - text.length) ' ' ++ text
    | _ => List.replicate (least - text.length) '0' ++ text
  aligned d padded

def blankNumber (d : Directive) (digits : Nat) (n : Int) : List Char :=
  number { d with padding := d.padding.or (some '_') } digits n

def plain : Directive := {}

def clockText (s : Shown) : List Char :=
  number plain 2 s.wall.time.hour ++
    ':' :: number plain 2 s.wall.time.minute ++ ':' ::
    number plain 2 s.wall.time.second

def dateText (s : Shown) : List Char :=
  number plain 2 s.date.month ++ '/' :: number plain 2 s.date.day ++
    '/' :: number plain 2 (s.date.year % 100)

def halfName (s : Shown) : String :=
  if s.wall.time.hour < 12 then "AM" else "PM"

def composed (d : Directive) (text : List Char) : List Char :=
  aligned d (cased d.capitals false text)

/-- The letters before which the modifier `E` may stand, and those before which
`O` may. -/
def admits (modifier : Option Char) (letter : Char) : Bool :=
  match modifier with
  | none => true
  | some m =>
    if m = 'E' then "cCnprstuxyzPRTXYZ%".toList.contains letter
    else "bdeghjklmnprstuwyzBCGHIMPRSTUVWZ%".toList.contains letter

def field? (s : Shown) (d : Directive) (letter : Char) : Option (List Char) :=
  let t := s.wall.time
  if !admits d.modifier letter then none
  else match letter with
  | 'a' => some (words d (abbreviated (weekdayName s)))
  | 'A' => some (words d (weekdayName s))
  | 'b' => some (words d (abbreviated (monthName s)))
  | 'h' => some (words d (abbreviated (monthName s)))
  | 'B' => some (words d (monthName s))
  | 'p' => some (aligned d (cased d.capitals d.otherCase (halfName s).toList))
  | 'P' => some (aligned d (cased false true (halfName s).toList))
  | 'Y' => some (number d 1 s.date.year)
  | 'C' => some (number d 1 (s.date.year / 100))
  | 'y' => some (number d 2 (s.date.year % 100))
  | 'G' => some (number d 1 s.weekYear)
  | 'g' => some (number d 2 (s.weekYear % 100))
  | 'V' => some (number d 2 s.week)
  | 'U' => some (number d 2 ((s.dayOfYear - s.sinceSunday + 7) / 7))
  | 'W' => some (number d 2 ((s.dayOfYear - s.wall.weekday + 7) / 7))
  | 'm' => some (number d 2 s.date.month)
  | 'd' => some (number d 2 s.date.day)
  | 'e' => some (blankNumber d 2 s.date.day)
  | 'j' => some (number d 3 (s.dayOfYear + 1))
  | 'u' => some (number d 1 (s.wall.weekday + 1))
  | 'w' => some (number d 1 s.sinceSunday)
  | 'H' => some (number d 2 t.hour)
  | 'k' => some (blankNumber d 2 t.hour)
  | 'I' => some (number d 2 s.faceHour)
  | 'l' => some (blankNumber d 2 s.faceHour)
  | 'M' => some (number d 2 t.minute)
  | 'S' => some (number d 2 t.second)
  | 's' => some (aligned d (toString s.epochSeconds).toList)
  | 'z' => some (aligned d ['+'] ++ number d 4 0)
  | 'Z' =>
    some (composed (if d.padding = some '-' then { d with width := 0 } else d)
      "UTC".toList)
  | 'D' => some (composed d (dateText s))
  | 'x' => some (composed d (dateText s))
  | 'F' =>
    some (composed d (number plain 1 s.date.year ++
      '-' :: number plain 2 s.date.month ++ '-' :: number plain 2 s.date.day))
  | 'T' => some (composed d (clockText s))
  | 'X' => some (composed d (clockText s))
  | 'R' =>
    some (composed d (number plain 2 t.hour ++ ':' :: number plain 2 t.minute))
  | 'r' =>
    some (composed d (number plain 2 s.faceHour ++ ':' :: number plain 2
      t.minute ++ ':' :: number plain 2 t.second ++ ' ' :: (halfName s).toList))
  | 'c' =>
    some (composed d ((abbreviated (weekdayName s)).toList ++
      ' ' :: (abbreviated (monthName s)).toList ++ ' ' :: blankNumber plain 2
      s.date.day ++ ' ' :: clockText s ++ ' ' :: number plain 1 s.date.year))
  | 'n' => some (aligned d ['\n'])
  | 't' => some (aligned d ['\t'])
  | '%' => some (aligned d ['%'])
  | _ => none

inductive Stage where
  | flags
  | width
  | letter

/-- A directive that has been read up to some point, and its text so far, the
last character first. -/
structure Pending where
  directive : Directive := {}
  stage : Stage := .flags
  reversed : List Char := ['%']

def Pending.asText (p : Pending) : List Char :=
  aligned p.directive (cased p.directive.capitals false p.reversed.reverse)

def flag? (d : Directive) (c : Char) : Option Directive :=
  if c = '_' || c = '-' || c = '0' then some { d with padding := some c }
  else if c = '^' then some { d with capitals := true }
  else if c = '#' then some { d with otherCase := true }
  else none

/-- The pending directive with one more character, or the text that it ends
with. -/
def Pending.step (s : Shown) (widest : Nat) (p : Pending) (c : Char) :
    Pending ⊕ List Char :=
  let d := p.directive
  let grown := c :: p.reversed
  let close : List Char :=
    match field? s d c with
    | some text => text
    | none =>
      let d := if c = 'b' || c = 'h' || c = 'B' then
        { d with capitals := d.capitals || d.otherCase } else d
      Pending.asText { p with directive := d, reversed := grown }
  let modify : Pending ⊕ List Char :=
    if c = 'E' || c = 'O' then .inl {
      directive := { d with modifier := some c }, stage := .letter,
      reversed := grown }
    else .inr close
  let measure : Pending ⊕ List Char :=
    if '0' ≤ c && c ≤ '9' then
      .inl { directive := { d with width := min widest (d.width * 10 +
        (c.toNat - 0x30)) }, stage := .width,
             reversed := grown }
    else modify
  match p.stage with
  | .flags =>
    match flag? d c with
    | some d => .inl { directive := d, stage := .flags, reversed := grown }
    | none => measure
  | .width => measure
  | .letter => .inr close

def renderFrom (s : Shown) (widest : Nat) (pending : Option Pending) :
    List Char → List Char
  | [] => (pending.map Pending.asText).getD []
  | c :: cs =>
    match pending with
    | none =>
      if c = '%' then renderFrom s widest (some {}) cs
        else c :: renderFrom s widest none cs
    | some p =>
      match p.step s widest c with
      | .inl p => renderFrom s widest (some p) cs
      | .inr text => text ++ renderFrom s widest none cs

/-- How long a rendered text may get: the first power of two from 1024 on that
is 256 times as long as the pattern. -/
def roomFor (length : Nat) : Nat → Nat → Nat
  | 0, room => room
  | fuel + 1, room =>
    if 256 * length ≤ room then room else roomFor length fuel (2 * room)

/-- The text of an instant under a pattern, which ends at a null character. A
text that is too long for the pattern comes out empty. -/
def render (pattern : String) (i : Instant) : String :=
  let s := Shown.ofInstant i
  let filled := fillIn s (pattern.toList.takeWhile (· ≠ '\x00'))
  let room := roomFor filled.length filled.length 1024
  let text := renderFrom s room none filled
  if text.length < room then String.ofList text else ""

def standard : String := "%Y-%m-%d %H:%M:%S"

end TimeWindow.Pattern

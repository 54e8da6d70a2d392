import TimeWindow.Instant
import TimeWindow.Number.Shortest
import TimeWindow.Reading.DateValues
import TimeWindow.Text.Search

/-!
# Free-form date-times

Reads dates and times as people write them. The tokens are taken from left to
right, each with as many of its neighbours as belong to it, and what they say is
collected in `Findings`; fields that are not mentioned come from a default date,
and years of two digits are placed around a pivot. `FreeForm.read` gives no
moment for a text that does not make sense as a whole.
-/

namespace TimeWindow.FreeForm

/-- Why a text is given up: it makes no sense, or a number in it is beyond exact
decimal arithmetic. -/
inductive Failure where
  | unreadable
  | tooPrecise
  deriving DecidableEq, Repr

structure Findings where
  dates : DateValues := {}
  weekday : Option Nat := none
  hour : Option Int := none
  minute : Option Int := none
  second : Option Int := none
  microsecond : Option Int := none
  zoneName : Option String := none
  offset : Option Int := none

/-- A step of reading: the findings so far to new ones, and how many of the
following tokens it has used up. -/
abbrev Reading := Except Failure (Findings × Nat)

def need {α : Type} : Option α → Except Failure α
  | some a => .ok a
  | none => .error .unreadable

def integer (cs : List Char) : Except Failure Int := need (Numeral.integer? cs)

/-! ## Decimal arithmetic with 28 digits -/

def precision : Int := 28

def keepDigits (q : Rat) : Rat :=
  if q ≤ 0 then q
  else
    let unit := (10 : Rat) ^ (Binary64.decimalExponent q - precision + 1)
    (Binary64.roundHalfEven (q / unit) : Rat) * unit

def valueOf (n : Numeral) : Rat :=
  (Numeral.ofDigits (n.whole ++ n.fraction) : Rat) / (10 : Rat) ^ n.fraction.length

/-- The part behind the point; there is none of a number whose whole part has
more digits than are kept. -/
def partBehindPoint (q : Rat) : Except Failure Rat :=
  if (10 : Rat) ^ precision ≤ q then .error .tooPrecise
    else .ok (keepDigits (q - q.floor))

/-- A part of a unit in the next smaller one, of which it has sixty; nothing
when the part is zero. -/
def sixtieths (part : Rat) : Option Int :=
  if part = 0 then none else some (keepDigits (60 * part)).floor

/-! ## Times of day -/

def minutesAndSeconds (q : Rat) : Except Failure (Int × Option Int) := do
  return (q.floor, sixtieths (← partBehindPoint q))

def secondsAndMicroseconds (cs : List Char) : Except Failure (Int × Int) :=
  match Text.splitAt '.' cs with
  | [whole] => do return (← integer whole, 0)
  | [whole, part] => do
    return (← integer whole,
      ← integer ((part ++ List.replicate (6 - part.length) '0').take 6))
  | _ => .error .unreadable

/-- An hour of one half of the day: in the afternoon hours below twelve go on
behind noon, and before noon twelve is midnight. -/
def inHalf (hour : Int) (half : Nat) : Int :=
  if hour < 12 && half = 1 then hour + 12 else if hour = 12 && half = 0 then 0
    else hour

/-- A number in a unit of the time of day; units beyond seconds say nothing. -/
def setTimeUnit (f : Findings) (token : String) (q : Rat) (unit : Nat) :
    Except Failure Findings :=
  match unit with
  | 0 => do
    let part ← partBehindPoint q
    let f := { f with hour := some q.floor }
    return match sixtieths part with
      | none => f
      | some minute => { f with minute := some minute }
  | 1 => do
    let (minute, second) ← minutesAndSeconds q
    return { f with minute := some minute, second }
  | 2 => do
    let (second, microsecond) ← secondsAndMicroseconds token.toList
    return { f with second := some second, microsecond := some microsecond }
  | _ => .ok f

/-- The unit that a number between tokens belongs to, and how many of the
following tokens say so: a unit behind the number, or the one below a unit in
front of it. -/
def unitAround? (before after : List String) : Option (Nat × Nat) :=
  let behind :=
    match after with
    | next :: rest =>
      match timeUnit? next with
      | some unit => some (unit, 1)
      | none =>
        match next, rest with
        | " ", second :: _ => (timeUnit? second).map fun unit => (unit, 2)
        | _, _ => none
    | [] => none
  let inFront :=
    match before with
    | previous :: rest =>
      match timeUnit? previous with
      | some unit => some (unit + 1, 0)
      | none =>
        match previous, rest, after with
        | " ", second :: _, [] =>
          (timeUnit? second).map fun unit => (unit + 1, 0)
        | _, _, _ => none
    | [] => none
  behind.or inFront

/-! ## Numbers -/

/-- A number of six digits, or with six digits before the point: a date if there
is none yet, else a time. -/
def readSix (f : Findings) (cs : List Char) : Reading :=
  if f.dates.values = [] && !cs.contains '.' then do
    let add (d : DateValues) (piece : List Char) :=
      need (d.addText? (String.ofList piece) false)
    let dates ← add (← add (← add f.dates (cs.take 2)) ((cs.drop 2).take 2))
        (cs.drop 4)
    return ({ f with dates }, 0)
  else do
    let hour ← integer (cs.take 2)
    let minute ← integer ((cs.drop 2).take 2)
    let (second, microsecond) ← secondsAndMicroseconds (cs.drop 4)
    let f := { f with hour := some hour, minute := some minute }
    return ({ f with second := some second, microsecond := some microsecond }, 0)

def readLong (f : Findings) (cs : List Char) : Reading := do
  let dates ← need (f.dates.addText? (String.ofList (cs.take 4)) true)
  let dates ← need (dates.addText? (String.ofList ((cs.drop 4).take 2)) false)
  let dates ← need (dates.addText? (String.ofList ((cs.drop 6).take 2)) false)
  let f := { f with dates }
  if cs.length ≤ 8 then return (f, 0)
  let hour ← integer ((cs.drop 8).take 2)
  let minute ← integer ((cs.drop 10).take 2)
  let f := { f with hour := some hour, minute := some minute }
  if cs.length ≤ 12 then return (f, 0)
  let second ← integer (cs.drop 12)
  return ({ f with second := some second }, 0)

def readClock (f : Findings) (q : Rat) (minutes : String)
    (after : List String) : Reading := do
  let numeral ← need (numeral? minutes)
  let (minute, second) ← minutesAndSeconds (valueOf numeral)
  let f := { f with hour := some q.floor, minute := some minute, second }
  match after with
  | ":" :: seconds :: _ =>
    let (second, microsecond) ← secondsAndMicroseconds seconds.toList
    return ({ f with second := some second, microsecond := some microsecond }, 4)
  | _ => return (f, 2)

/-- A date value, a separator, and up to two more values with the same separator
between them. -/
def readSeparated (f : Findings) (token sep : String) (after : List String) :
    Reading := do
  let dates ← need (f.dates.addText? token false)
  match after with
  | [] => return ({ f with dates }, 1)
  | second :: rest =>
    if isFiller second then return ({ f with dates }, 1)
    let dates ←
      if isDigits second then need (dates.addText? second false)
      else need ((month? second).bind fun m => dates.addMonth? m)
    match rest with
    | [] => return ({ f with dates }, 2)
    | mark :: rest =>
      if mark ≠ sep then return ({ f with dates }, 2)
      let third ← need rest.head?
      let dates ←
        match month? third with
        | some m => need (dates.addMonth? m)
        | none => need (dates.addText? third false)
      return ({ f with dates }, 4)

/-- A number token between the tokens before it, the nearest first, and those
after it. -/
def readNumber (f : Findings) (before : List String) (token : String)
    (numeral : Numeral) (after : List String) :
    Reading :=
  let q := valueOf numeral
  let cs := token.toList
  let dateIsComplete := f.dates.values.length = 3
  let standsAlone :=
    match after with
    | [] => true
    | next :: _ => next ≠ ":" && (timeUnit? next).isNone
  if dateIsComplete && (cs.length = 2 || cs.length = 4) && f.hour.isNone &&
    standsAlone then do
    let hour ← integer (cs.take 2)
    let f := { f with hour := some hour }
    if cs.length = 4 then
      let minute ← integer (cs.drop 2)
      return ({ f with minute := some minute }, 0)
    else return (f, 0)
  else if cs.length = 6 || (6 < cs.length && cs.idxOf '.' = 6) then readSix f cs
  else if cs.length = 8 || cs.length = 12 || cs.length = 14 then readLong f cs
  else
    match unitAround? before after with
    | some (unit, used) => do return (← setTimeUnit f token q unit, used)
    | none =>
      match after with
      | [] => do return ({ f with dates := ← need (f.dates.addNumber? q) }, 1)
      | next :: rest =>
        match next, rest with
        | ":", minutes :: rest => readClock f q minutes rest
        | _, _ =>
          if next = "-" || next = "/" || next = "." then
            readSeparated f token next rest
          else if isFiller next then
            match rest.head?.bind half? with
            | some half =>
              .ok ({ f with hour := some (inHalf q.floor half) }, 2)
            | none =>
              do return ({ f with dates := ← need (f.dates.addNumber? q) }, 1)
          else
            match half? next with
            | some half =>
              if q < 24 then
                .ok ({ f with hour := some (inHalf q.floor half) }, 1)
              else readDay f q
            | none => readDay f q
where
  readDay (f : Findings) (q : Rat) : Reading :=
    if f.dates.couldBeDay q then do
      return ({ f with dates := ← need (f.dates.addNumber? q) }, 0)
    else .error .unreadable

/-! ## Words and signs -/

/-- A month's name, with date values joined to it or a year behind "of". -/
def readMonth (pivotYear : Int) (f : Findings) (month : Nat)
    (after : List String) : Reading := do
  let dates ← need (f.dates.addMonth? month)
  match after with
  | sep :: rest =>
    if sep = "-" || sep = "/" then
      let dates ← need (dates.addText? (← need rest.head?) false)
      match rest.drop 1 with
      | mark :: rest =>
        if mark = sep then
          let dates ← need (dates.addText? (← need rest.head?) false)
          return ({ f with dates }, 4)
        else return ({ f with dates }, 2)
      | [] => return ({ f with dates }, 2)
    else
      match sep, rest with
      | " ", word :: " " :: year :: _ =>
        if isPertaining word then
          if isDigits year then
            let n ← integer year.toList
            let dates ← need
                (dates.addText? (toString (fullYear pivotYear n false)) true)
            return ({ f with dates }, 4)
          else return ({ f with dates }, 4)
        else return ({ f with dates }, 0)
      | _, _ => return ({ f with dates }, 0)
  | [] => return ({ f with dates }, 0)

/-- The offset that a sign and the tokens behind it write, and how many of these
belong to it. -/
def readOffset (f : Findings) (sign : String) (after : List String) :
    Reading := do
  let digits ← need after.head?
  let cs := digits.toList
  let (hours, minutes, used) ←
    if cs.length = 4 then do
      let hours ← integer (cs.take 2)
      let minutes ← integer (cs.drop 2)
      pure (hours, minutes, 1)
    else
      match after.drop 1 with
      | ":" :: rest => do
        let hours ← integer cs
        let minutes ← integer (← need rest.head?).toList
        pure (hours, minutes, 3)
      | _ =>
        if cs.length ≤ 2 then do
          let hours ← integer (cs.take 2)
          pure (hours, 0, 1)
        else .error .unreadable
  let total := hours * 3600 + minutes * 60
  let f := { f with offset := some (if sign = "+" then total else -total) }
  match after.drop used with
  | filler :: "(" :: name :: ")" :: _ =>
    if isFiller filler && 3 ≤ name.length && f.zoneName.isNone &&
      isZoneName name then
      return ({ f with zoneName := some name }, used + 4)
    else return (f, used)
  | _ => return (f, used)

/-- What a zone's name says. A sign behind it counts the other way round, as the
distance from that zone to UTC. -/
def noteZone (f : Findings) (name : String) (signFollows : Bool) : Findings :=
  if signFollows then
    { f with
      zoneName := if namesUtc name then none else some name, offset := none }
  else { f with
    zoneName := some name, offset := if name = "z" then some 0 else none }

def isSign (token : String) : Bool := token = "+" || token = "-"

def flip (sign : String) : String := if sign = "+" then "-" else "+"

/-- Reads the tokens from the first of `after` on; `fuel` bounds their
number. -/
def readTokens (pivotYear : Int) :
    Nat → Findings → List String → List String → Except Failure Findings
  | 0, f, _, _ => .ok f
  | _ + 1, f, _, [] => .ok f
  | fuel + 1, f, before, token :: after =>
    let goOn (f : Findings) (after : List String) (used : Nat) :=
      readTokens pivotYear fuel f ((after.take used).reverse ++ token :: before)
        (after.drop used)
    let readOn (r : Reading) : Except Failure Findings := do
      let (f, used) ← r
      goOn f after used
    match numeral? token with
    | some numeral => readOn (readNumber f before token numeral after)
    | none =>
      if isNumberWord token then .error .unreadable
      else match weekday? token, month? token, half? token with
      | some weekday, _, _ => goOn { f with weekday := some weekday } after 0
      | none, some month, _ => readOn (readMonth pivotYear f month after)
      | none, none, some half =>
        match f.hour with
        | some hour =>
          if 0 ≤ hour && hour ≤ 12 then
            goOn { f with hour := some (inHalf hour half) } after 0
          else .error .unreadable
        | none => .error .unreadable
      | none, none, none =>
        if f.hour.isSome && f.zoneName.isNone && f.offset.isNone &&
          isZoneName token then
          match after with
          | next :: rest =>
            if isSign next then
              goOn (noteZone f token true) (flip next :: rest) 0
            else goOn (noteZone f token false) after 0
          | [] => goOn (noteZone f token false) after 0
        else if f.hour.isSome && isSign token then
          readOn (readOffset f token after)
        else if isFiller token then goOn f after 0
        else .error .unreadable

/-! ## The moment -/

/-- What a text is read with: a date for the fields that it does not mention,
and the year around which years of two digits are placed. -/
structure Defaults where
  date : Date
  pivotYear : Int

/-- The offset that the findings give; names of universal time mean zero. -/
def Findings.offset? (f : Findings) : Option Int :=
  if (f.zoneName.map namesUtc).getD false then some 0 else f.offset

def widestOffset : Int := 1000000000

/-- The moment that the findings describe, with the missing fields from a
default date at midnight. -/
def moment? (f : Findings) (d : Defaults) : Option Moment := do
  let date ← f.dates.resolve?
  if date.year.isNone && date.month.isNone && date.day.isNone &&
    f.weekday.isNone && f.hour.isNone
    && f.minute.isNone && f.second.isNone && f.microsecond.isNone then none
  let year := (date.year.map fun y =>
    fullYear d.pivotYear y f.dates.century).getD d.date.year
  let month := date.month.getD d.date.month
  let day := date.day.getD (min d.date.day (Calendar.monthLength year month))
  let wall ← Wall.of? ⟨year, month, day⟩
    ⟨f.hour.getD 0, f.minute.getD 0, f.second.getD 0, f.microsecond.getD 0⟩
  let forward : Int :=
    match f.weekday, date.day with
    | some weekday, none => (weekday - wall.weekday) % 7
    | _, _ => 0
  let wall := wall.add (forward * Calendar.day)
  if !wall.inRange then none
  match f.offset? with
  | none => return .plain wall
  | some seconds =>
    if seconds / 86400 < -(widestOffset - 1) ||
      widestOffset ≤ seconds / 86400 then none
    else return .fixed ⟨wall, .offset seconds⟩

def read (text : String) (d : Defaults) : Except Fault (Option Moment) :=
  let tokens := tokens text.toList
  match readTokens d.pivotYear tokens.length {} [] tokens with
  | .ok f => .ok (moment? f d)
  | .error .unreadable => .ok none
  | .error .tooPrecise => .error .tooPrecise

end TimeWindow.FreeForm

import TimeWindow.Instant
import TimeWindow.DateMath.Epoch
import TimeWindow.Issue
import TimeWindow.Number.Numeral
import TimeWindow.Text.Case
import TimeWindow.Text.Search

/-!
# Field values

How a value from a request or a configuration becomes the value of a field with
a type. Texts and numbers are taken for one another as far as nothing is lost;
where that fails, the broken rule is named.
-/

namespace TimeWindow.Field

open Text

def string : Json → Except Issue.Rule String
  | .str s => .ok s
  | _ => .error .stringType

/-- What a text is read as when it stands for another kind of value. One with
half a surrogate pair is not looked at. -/
def ofText {α : Type} (read : String → Except Issue.Rule α) (s : String) :
    Except Issue.Rule α :=
  if hasHalf s then .error .stringUnicode else read s

/-! ## Integers -/

/-- What follows the zeros at the front of a numeral, of which `last` is the one
before the text. Underscores among the zeros go with them. The last character
stays when a point or nothing at all comes next. -/
def dropZeros (last : Char) : List Char → Option (List Char)
  | [] => some [last]
  | c :: cs =>
    if c = '0' || c = '_' then dropZeros c cs
    else if c = '.' then some (last :: c :: cs)
    else if isAsciiDigit c || c = '-' then some (c :: cs)
    else none

def clearZeros : List Char → Option (List Char)
  | '0' :: cs => dropZeros '0' cs
  | c :: cs => if isAsciiDigit c || c = '-' then some (c :: cs) else none
  | [] => none

def clearFront : List Char → Option (List Char)
  | '+' :: cs => if cs.head? = some '-' then none else clearZeros cs
  | '-' :: cs => (clearZeros cs).map ('-' :: ·)
  | cs => clearZeros cs

def dropEmptyFraction (cs : List Char) : List Char :=
  let whole := cs.takeWhile (· ≠ '.')
  match cs.drop whole.length with
  | '.' :: rest => if rest ≠ [] && rest.all (· = '0') then whole else cs
  | _ => cs

def dropUnderscores (cs : List Char) : List Char :=
  if cs.head? = some '_' || cs.getLast? = some '_' ||
    mentions ['_', '_'] cs then cs else cs.filter (· ≠ '_')

/-- Digits with an optional minus, without a zero in front. When sign and digits
go on for too long, the size is what is wrong, whatever follows them. -/
def plainInteger (cs : List Char) : Except Issue.Rule Int :=
  let (negative, unsigned) :=
    match cs with
    | '-' :: rest => (true, rest)
    | _ => (false, cs)
  let digits := unsigned.takeWhile isAsciiDigit
  if digits = [] || (digits.head? = some '0' && 1 < digits.length) then
    .error .integerParsing
  else if Numeral.maxDigits < digits.length + (if negative then 1 else 0) then
    .error .integerParsingSize
  else if digits.length < unsigned.length then .error .integerParsing
  else
    let n : Int := digitsValue digits
    .ok (if negative then -n else n)

def integerText (s : String) : Except Issue.Rule Int :=
  match clearFront (trimBy isUnicodeBlank s.toList) with
  | none => .error .integerParsing
  | some cs => plainInteger (dropUnderscores (dropEmptyFraction cs))

def integerLimit : Rat := 9223372036854775808

def integerDouble (d : Double) : Except Issue.Rule Int :=
  match d.value? with
  | none => .error .finiteNumber
  | some q =>
    if q.den ≠ 1 then .error .integerFromDouble
    else if -integerLimit < q && q < integerLimit then .ok q.num
    else .error .integerParsingSize

def integer : Json → Except Issue.Rule Int
  | .num (.int n) => .ok n
  | .num (.real d) => integerDouble d
  | .str s => ofText integerText s
  | .bool b => .ok (if b then 1 else 0)
  | _ => .error .integerType

/-! ## Truth values -/

def truthText (s : String) : Except Issue.Rule Bool :=
  let s := lower s
  if ["1", "on", "t", "true", "y", "yes"].contains s then .ok true
  else if ["0", "off", "f", "false", "n", "no"].contains s then .ok false
  else .error .boolParsing

def truthInteger (n : Int) : Except Issue.Rule Bool :=
  if n = 1 then .ok true else if n = 0 then .ok false else .error .boolParsing

/-- A truth value, also as a word or as one or zero. A number beyond 64 bits is
not taken for one at all. -/
def truth : Json → Except Issue.Rule Bool
  | .bool b => .ok b
  | .str s => ofText truthText s
  | .num (.int n) =>
    if -integerLimit ≤ n && n < integerLimit then truthInteger n
      else .error .boolType
  | .num (.real d) =>
    match integerDouble d with
    | .ok n => truthInteger n
    | .error _ => .error .boolType
  | _ => .error .boolType

/-! ## Doubles -/

def infiniteText? (s : String) : Option Double :=
  let (negative, rest) := Numeral.sign (lower s).toList
  let word := String.ofList rest
  if word = "inf" || word = "infinity" then some (.infinite negative)
  else if word = "nan" then some .nan
  else none

def doubleText? (cs : List Char) : Option Double :=
  if cs.any fun c => 0x80 ≤ c.toNat then none
  else
    match Numeral.read? cs with
    | some (n, []) => some n.toDouble
    | _ => infiniteText? (String.ofList cs)

/-- A double written as a text. Underscores are dropped from a text without
white space around it. -/
def doubleText (s : String) : Except Issue.Rule Double :=
  match (doubleText? (trimBy isUnicodeBlank s.toList)).or
    (doubleText? (dropUnderscores s.toList)) with
  | some d => .ok d
  | none => .error .doubleParsing

def double : Json → Except Issue.Rule Double
  | .num n =>
    match n.toDouble? with
    | some d => .ok d
    | none => .error .doubleType
  | .str s => ofText doubleText s
  | .bool b => .ok (.finite (if b then 1 else 0))
  | _ => .error .doubleType

/-! ## Moments -/

def watershed : Int := 20000000000

/-- The first second of the year 0 and the last one of the year 9999, counted
from 1970: what a count can stand for. -/
def firstSecond : Int := -62167219200
def lastSecond : Int := 253402300799

/-- What a clock in UTC shows some seconds, or milliseconds, and microseconds
after 1970. The year may be 0. -/
def counted? (count microseconds : Int) : Option Wall :=
  let ticks := (if (count.natAbs : Int) ≤ watershed then count * 1000000
    else count * 1000) + microseconds
  let seconds := ticks / 1000000
  if firstSecond ≤ seconds && seconds ≤ lastSecond then
    some ⟨ticks + Epoch.start * Calendar.second⟩ else none

/-- What a finite double counts: its floor, and the size of its fraction in
microseconds. -/
def countedDouble? (q : Rat) : Option Wall :=
  let fraction := q - Binary64.truncate q
  counted? q.floor (Binary64.roundHalfAway
    (Binary64.nearest (Binary64.magnitude fraction * 1000000)))

def countedNumber? : Number → Option Wall
  | .int n => counted? n 0
  | .real d => d.value?.bind countedDouble?

/-- How many digits behind a point are divided by powers of ten that are
doubles; the digits after them add nothing. -/
def weightyDigits : Nat := 308

open Binary64 in
/-- Digits around a point as a double. Each digit behind the point is divided by
its power of ten and added, and every step is rounded. -/
def pointedValue (whole fraction : List Char) : Rat :=
  ((fraction.take weightyDigits).foldl
    (fun (sum, unit) c => (nearest
      (sum + nearest ((digitsValue [c] : Rat) / unit)), nearest (unit * 10)))
    (nearest (digitsValue whole), 10)).1

open Binary64 in
/-- What a written number with a point counts. Milliseconds become seconds
before the fraction is split off. -/
def countedPointed? (q : Rat) : Option Wall :=
  let seconds := if magnitude q ≤ watershed then q else nearest (q / 1000)
  counted? seconds.floor
    (roundHalfAway (nearest (nearest (seconds - seconds.floor) * 1000000)))

/-- What a number in digits counts, with a sign or without one, and with a point
or without one. -/
def countedText? (cs : List Char) : Option Wall :=
  let (negative, unsigned) := Numeral.sign cs
  let whole := unsigned.takeWhile isAsciiDigit
  if whole = [] then none
  else
    match unsigned.drop whole.length with
    | [] =>
      let n : Int := digitsValue whole; counted? (if negative then -n else n) 0
    | '.' :: fraction =>
      if fraction.all isAsciiDigit then
        let q := pointedValue whole fraction
        countedPointed? (if negative then -q else q)
      else none
    | _ => none

def countedMoment (w : Wall) : Except Issue.Rule Moment :=
  if w.inRange then .ok (.fixed (.ofUtc w)) else .error .dateTimeParsing

/-- The seconds of a time with a fraction behind a point or a comma, of which
six digits count. -/
def secondsPart? (cs : List Char) : Option (Int × Int × List Char) := do
  let (second, cs) ← Timestamp.digits? 2 cs
  match cs with
  | '.' :: rest =>
    let (micro, rest) ← Timestamp.fraction? rest
    return (second, micro, rest)
  | ',' :: rest =>
    let (micro, rest) ← Timestamp.fraction? rest
    return (second, micro, rest)
  | _ => return (second, 0, cs)

def timePart? (cs : List Char) : Option (ClockTime × List Char) := do
  let (hour, cs) ← Timestamp.digits? 2 cs
  let (minute, cs) ← Timestamp.digits? 2 (← Timestamp.skip? ':' cs)
  match cs with
  | ':' :: rest => do
    let (second, microsecond, cs) ← secondsPart? rest
    return (⟨hour, minute, second, microsecond⟩, cs)
  | _ => return (⟨hour, minute, 0, 0⟩, cs)

def offsetPart? (cs : List Char) : Option (Option Int) :=
  match cs with
  | [] => some none
  | ['Z'] => some (some 0)
  | ['z'] => some (some 0)
  | sign :: cs =>
    if sign = '+' || sign = '-' || sign = '\u2212' then do
      let (hours, cs) ← Timestamp.digits? 2 cs
      let cs := if cs.head? = some ':' then cs.drop 1 else cs
      let (minutes, cs) ← Timestamp.digits? 2 cs
      if cs ≠ [] || 59 < minutes || 24 ≤ hours then none
      let seconds := hours * 3600 + minutes * 60
      return some (if sign = '+' then seconds else -seconds)
    else none

def isNearDate (d : Date) : Bool :=
  0 ≤ d.year && 1 ≤ d.month && d.month ≤ 12 && 1 ≤ d.day &&
    d.day ≤ Calendar.monthLength d.year d.month

/-- What a text says as a date and a time: its fields, which may lie in the year
0, and its offset. -/
def writtenMoment? (cs : List Char) :
    Option (Date × ClockTime × Option Int) := do
  let (date, cs) ← Timestamp.readDate? cs
  match cs with
  | sep :: cs =>
    if !(sep = 'T' || sep = 't' || sep = ' ' || sep = '_') then none
    let (time, cs) ← timePart? cs
    if !isNearDate date || !time.isReal then none
    return (date, time, ← offsetPart? cs)
  | [] => none

/-- A moment written as a text: date and time, a count since 1970, or a date
alone, which means its midnight. -/
def momentText (s : String) : Except Issue.Rule Moment :=
  let cs := s.toList
  match writtenMoment? cs with
  | some (date, time, offset) =>
    match Wall.of? date time, offset with
    | some w, none => .ok (.plain w)
    | some w, some seconds => .ok (.fixed ⟨w, .offset seconds⟩)
    | none, _ => .error .dateTimeParsing
  | none =>
    match countedText? cs with
    | some w => countedMoment w
    | none =>
      match Timestamp.readDate? cs with
      | some (date, []) =>
        if isNearDate date then
          match Wall.of? date .midnight with
          | some w => .ok (.plain w)
          | none => .error .dateTimeParsing
        else .error .dateTimeFromDateParsing
      | _ => .error .dateTimeFromDateParsing

def moment : Json → Except Issue.Rule Moment
  | .str s => ofText momentText s
  | .num n =>
    if n.toDouble?.isNone then .error .dateTimeType
    else
      match countedNumber? n with
      | some w => countedMoment w
      | none => .error .dateTimeParsing
  | _ => .error .dateTimeType

/-! ## Optional values -/

def optional {α : Type} (read : Json → Except Issue.Rule α) :
    Json → Except Issue.Rule (Option α)
  | .null => .ok none
  | v => do return some (← read v)

end TimeWindow.Field

import TimeWindow.Calendar.Wall
import TimeWindow.Text.Digit

/-!
# The written form of a clock reading

`YYYY-MM-DDTHH:MM:SS`, with six more digits when the seconds are not whole, and
an offset from UTC as `+HH:MM`. `Timestamp.read?` reads what `Timestamp.wall`
and `Timestamp.offset` write.
-/

namespace TimeWindow.Timestamp

open Text

def padded (width : Nat) (n : Int) : String :=
  let digits := toString n.natAbs
  String.ofList (List.replicate (width - digits.length) '0') ++ digits

def date (d : Date) : String :=
  padded 4 d.year ++ "-" ++ padded 2 d.month ++ "-" ++ padded 2 d.day

def time (c : ClockTime) : String :=
  padded 2 c.hour ++ ":" ++ padded 2 c.minute ++ ":" ++ padded 2 c.second
    ++ (if c.microsecond = 0 then "" else "." ++ padded 6 c.microsecond)

def wall (between : String) (w : Wall) : String :=
  date w.date ++ between ++ time w.time

/-- An offset from UTC in seconds; its own seconds appear only when they are not
zero. -/
def offset (seconds : Int) : String :=
  let n : Int := seconds.natAbs
  (if seconds < 0 then "-" else "+") ++ padded 2 (n / 3600) ++ ":" ++
    padded 2 (n % 3600 / 60)
    ++ (if n % 60 = 0 then "" else ":" ++ padded 2 (n % 60))

def digits? (count : Nat) (cs : List Char) : Option (Int × List Char) :=
  let run := cs.take count
  if run.length = count && run.all isAsciiDigit then
    some (digitsValue run, cs.drop count) else none

def skip? (c : Char) : List Char → Option (List Char)
  | [] => none
  | d :: rest => if c = d then some rest else none

def fraction? (cs : List Char) : Option (Int × List Char) :=
  let run := cs.takeWhile isAsciiDigit
  if run = [] then none
  else
    let kept := (run ++ List.replicate 6 '0').take 6
    some (digitsValue kept, cs.drop run.length)

def readDate? (cs : List Char) : Option (Date × List Char) := do
  let (year, cs) ← digits? 4 cs
  let (month, cs) ← digits? 2 (← skip? '-' cs)
  let (day, cs) ← digits? 2 (← skip? '-' cs)
  return (⟨year, month, day⟩, cs)

def readTime? (cs : List Char) : Option (ClockTime × List Char) := do
  let (hour, cs) ← digits? 2 cs
  let (minute, cs) ← digits? 2 (← skip? ':' cs)
  match skip? ':' cs with
  | none => return (⟨hour, minute, 0, 0⟩, cs)
  | some cs =>
    let (second, cs) ← digits? 2 cs
    match skip? '.' cs with
    | none => return (⟨hour, minute, second, 0⟩, cs)
    | some cs =>
      let (microsecond, cs) ← fraction? cs
      return (⟨hour, minute, second, microsecond⟩, cs)

/-- An offset in seconds, `none` for a reading without one; `Z` stands for
zero. -/
def readOffset? (cs : List Char) : Option (Option Int) :=
  match cs with
  | [] => some none
  | ['Z'] => some (some 0)
  | c :: cs =>
    if c = '+' || c = '-' then do
      let (hours, cs) ← digits? 2 cs
      let (minutes, cs) ← digits? 2 (← skip? ':' cs)
      let seconds ←
        match skip? ':' cs with
        | none => if cs = [] then some 0 else none
        | some cs =>
          (digits? 2 cs).bind fun (s, cs) => if cs = [] then some s else none
      let total := hours * 3600 + minutes * 60 + seconds
      return some (if c = '-' then -total else total)
    else none

def read? (s : String) : Option (Wall × Option Int) := do
  let (date, cs) ← readDate? s.toList
  match cs with
  | [] => return (← Wall.of? date .midnight, none)
  | _ :: cs =>
    let (time, cs) ← readTime? cs
    return (← Wall.of? date time, ← readOffset? cs)

end TimeWindow.Timestamp

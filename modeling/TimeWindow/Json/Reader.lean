import TimeWindow.Json.Basic
import TimeWindow.Number.Numeral
import TimeWindow.Text.Surrogate

/-!
# Reading JSON

A reader for JSON texts that says where a malformed text goes wrong, counted in
characters from its start. Beyond the standard it takes the number names `NaN`,
`Infinity` and `-Infinity`. Integers are exact, numbers with a point or an
exponent are doubles, and half a surrogate pair is kept by its own character.
Values nested too deeply are not read.
-/

namespace TimeWindow.Json

open Text

inductive ReadError where
  /-- The text departs from the grammar at a position. -/
  | malformed (position : Nat)
  /-- An integer has more digits than are ever read. -/
  | tooLong
  /-- Arrays and objects are nested beyond the depth to which they are read. -/
  | tooDeep
  deriving DecidableEq, Repr

/-- What is left of the text, and the position of its first character. -/
structure Cursor where
  position : Nat
  rest : List Char

namespace Cursor

def next (c : Cursor) (rest : List Char) : Cursor := ⟨c.position + 1, rest⟩

def skip (c : Cursor) (n : Nat) : Cursor := ⟨c.position + n, c.rest.drop n⟩

end Cursor

def isSpace (c : Char) : Bool := c = ' ' || c = '\t' || c = '\n' || c = '\r'

def skipSpaces (c : Cursor) : Cursor := c.skip (c.rest.takeWhile isSpace).length

def hexUnit? : List Char → Option (Nat × List Char)
  | a :: b :: c :: d :: rest => do
    let a ← hexValue? a
    let b ← hexValue? b
    let c ← hexValue? c
    let d ← hexValue? d
    return (((a * 16 + b) * 16 + c) * 16 + d, rest)
  | _ => none

def lowSurrogate? : List Char → Option (Nat × List Char)
  | '\\' :: 'u' :: rest =>
    match hexUnit? rest with
    | some (unit, after) =>
      if 0xDC00 ≤ unit && unit < 0xE000 then some (unit, after) else none
    | none => none
  | _ => none

def simpleEscape? (c : Char) : Option Char :=
  if c = '\x22' || c = '\\' || c = '/' then some c
  else if c = 'b' then some '\x08'
  else if c = 'f' then some '\x0c'
  else if c = 'n' then some '\n'
  else if c = 'r' then some '\r'
  else if c = 't' then some '\t'
  else none

def readString (start : Nat) :
    Nat → Nat → List Char → List Char → Except ReadError (String × Cursor)
  | 0, _, _, _ => .error (.malformed start)
  | _ + 1, _, [], _ => .error (.malformed start)
  | fuel + 1, position, c :: cs, read =>
    if c = '\x22' then .ok (String.ofList read.reverse, ⟨position + 1, cs⟩)
    else if c = '\\' then
      match cs with
      | [] => .error (.malformed start)
      | 'u' :: digits =>
        match hexUnit? digits with
        | none => .error (.malformed (position + 1))
        | some (_, []) => .error (.malformed (position + 1))
        | some (unit, after) =>
          match (if 0xD800 ≤ unit && unit < 0xDC00 then lowSurrogate? after
            else none) with
          | some (low, after) =>
            let code := 0x10000 + (unit - 0xD800) * 0x400 + (low - 0xDC00)
            readString start fuel (position + 12) after (Char.ofNat code :: read)
          | none =>
            let shown := if isHalf unit then ofHalf unit else Char.ofNat unit
            readString start fuel (position + 6) after (shown :: read)
      | e :: after =>
        match simpleEscape? e with
        | some shown =>
          readString start fuel (position + 2) after (shown :: read)
        | none => .error (.malformed position)
    else if c.toNat < 0x20 then .error (.malformed position)
    else readString start fuel (position + 1) cs (c :: read)

def asciiDigits (cs : List Char) : List Char := cs.takeWhile isAsciiDigit

/-- The characters of the whole part of a number: a zero, or digits that do not
begin with one. -/
def wholePart (cs : List Char) : List Char :=
  match cs with
  | '0' :: _ => ['0']
  | _ => asciiDigits cs

def fractionPart (cs : List Char) : List Char :=
  match cs with
  | '.' :: after =>
    let digits := asciiDigits after; if digits = [] then [] else '.' :: digits
  | _ => []

def exponentPart (cs : List Char) : List Char :=
  match cs with
  | e :: after =>
    if e = 'e' || e = 'E' then
      let (sign, after) :=
        match after with
        | '+' :: more => (['+'], more)
        | '-' :: more => (['-'], more)
        | _ => ([], after)
      let digits := asciiDigits after
      if digits = [] then [] else e :: sign ++ digits
    else []
  | [] => []

def readNumber (c : Cursor) : Except ReadError (Json × Cursor) :=
  let (sign, unsigned) :=
    match c.rest with
    | '-' :: rest => (['-'], rest)
    | _ => ([], c.rest)
  let whole := wholePart unsigned
  if whole = [] then .error (.malformed c.position)
  else
    let fraction := fractionPart (unsigned.drop whole.length)
    let exponent := exponentPart (unsigned.drop (whole.length + fraction.length))
    let written := sign ++ whole ++ fraction ++ exponent
    let after := c.skip written.length
    if fraction = [] && exponent = [] then
      if Numeral.maxDigits < whole.length then .error .tooLong
      else
        let value : Int := digitsValue whole
        .ok (.num (.int (if sign = [] then value else -value)), after)
    else
      match Numeral.read? written with
      | some (numeral, _) => .ok (.num (.real numeral.toDouble), after)
      | none => .error (.malformed c.position)

def names : List (String × Json) := [
  ("null", .null), ("true", .bool true), ("false", .bool false),
  ("NaN", .num (.real .nan)), ("Infinity", .num (.real (.infinite false))),
  ("-Infinity", .num (.real (.infinite true)))]

def readName? (c : Cursor) : Option (Json × Cursor) :=
  (names.find? fun (name, _) => beginsWith name.toList c.rest).map
    fun (name, value) => (value, c.skip name.length)
where
  beginsWith (word cs : List Char) : Bool := cs.take word.length = word

def maxDepth : Nat := 960

mutual

/-- A value at the cursor; `fuel` bounds the number of parts, and `room` the
depth to which they may be nested. -/
def readValue : Nat → Nat → Cursor → Except ReadError (Json × Cursor)
  | 0, _, c => .error (.malformed c.position)
  | fuel + 1, room, c =>
    match c.rest with
    | '\x22' :: rest => do
      let (s, after) ← readString c.position (rest.length + 1)
          (c.position + 1) rest []
      return (.str s, after)
    | '{' :: rest =>
      if room = 0 then .error .tooDeep
      else
        let c := skipSpaces (c.next rest)
        match c.rest with
        | '}' :: rest => .ok (.obj [], c.next rest)
        | _ => readMembers fuel (room - 1) c []
    | '[' :: rest =>
      if room = 0 then .error .tooDeep
      else
        let c := skipSpaces (c.next rest)
        match c.rest with
        | ']' :: rest => .ok (.arr [], c.next rest)
        | _ => readItems fuel (room - 1) c []
    | _ =>
      match readName? c with
      | some found => .ok found
      | none => readNumber c

def readMembers :
    Nat → Nat → Cursor → List (String × Json) → Except ReadError (Json × Cursor)
  | 0, _, c, _ => .error (.malformed c.position)
  | fuel + 1, room, c, read =>
    match c.rest with
    | '\x22' :: rest => do
      let (name, c) ← readString c.position (rest.length + 1)
          (c.position + 1) rest []
      let c := skipSpaces c
      match c.rest with
      | ':' :: rest =>
        let (value, c) ← readValue fuel room (skipSpaces (c.next rest))
        let read := insert name value read
        let c := skipSpaces c
        match c.rest with
        | '}' :: rest => .ok (.obj read, c.next rest)
        | ',' :: rest => readMembers fuel room (skipSpaces (c.next rest)) read
        | _ => .error (.malformed c.position)
      | _ => .error (.malformed c.position)
    | _ => .error (.malformed c.position)

/-- The items of an array from the cursor on, after those already read, the last
one first. -/
def readItems :
    Nat → Nat → Cursor → List Json → Except ReadError (Json × Cursor)
  | 0, _, c, _ => .error (.malformed c.position)
  | fuel + 1, room, c, read => do
    let (value, c) ← readValue fuel room c
    let c := skipSpaces c
    match c.rest with
    | ']' :: rest => .ok (.arr (value :: read).reverse, c.next rest)
    | ',' :: rest =>
      readItems fuel room (skipSpaces (c.next rest)) (value :: read)
    | _ => .error (.malformed c.position)

end

def read (text : String) : Except ReadError Json := do
  let cs := text.toList
  let (value, c) ← readValue (2 * cs.length + 2) maxDepth (skipSpaces ⟨0, cs⟩)
  let c := skipSpaces c
  if c.rest = [] then return value else .error (.malformed c.position)

end TimeWindow.Json

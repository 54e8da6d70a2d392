import TimeWindow.Text.Blank
import TimeWindow.Text.Case
import TimeWindow.Text.Letter
import TimeWindow.Number.Numeral

/-!
# Words and numbers of a free-form date

A free-form date is read as a row of tokens: runs of letters, runs of digits,
single white space, and single other characters. A run may go on over points,
and a number over one comma; such a run is taken apart again when it mixes
letters with digits, has several points, or ends in one.
-/

namespace TimeWindow.FreeForm

open Text

inductive Shape where
  | word
  | dottedWord
  | number
  | dottedNumber
  deriving DecidableEq, Repr

namespace Shape

def isWord : Shape → Bool
  | word => true
  | dottedWord => true
  | _ => false

/-- The shape of a run, given with its last character first, when it goes on
with a character. -/
def extend? (shape : Shape) (run : List Char) (c : Char) : Option Shape :=
  let behindPoint := run.head? = some '.'
  match shape with
  | word =>
    if isLetter c then some word else if c = '.' then some dottedWord else none
  | number =>
    if isDigitLike c then some number
    else if c = '.' || (c = ',' && 2 ≤ run.length) then some dottedNumber
    else none
  | dottedWord =>
    if c = '.' || isLetter c then some dottedWord
    else if isDigitLike c && behindPoint then some dottedNumber
    else none
  | dottedNumber =>
    if c = '.' || isDigitLike c then some dottedNumber
    else if isLetter c && behindPoint then some dottedWord
    else none

end Shape

/-- A run of characters, last one first; `letters` says whether it went on, or
ended, as a word. -/
structure Run where
  shape : Shape
  letters : Bool
  reversed : List Char

def Run.grow (r : Run) : List Char → Run × List Char
  | [] => (r, [])
  | c :: cs =>
    let letters := r.letters || r.shape.isWord
    match r.shape.extend? r.reversed c with
    | some shape => Run.grow { shape, letters, reversed := c :: r.reversed } cs
    | none => ({ r with letters }, c :: cs)

def pieces : List Char → List (List Char)
  | [] => [[]]
  | c :: cs =>
    if c = '.' || c = ',' then [] :: [c] :: pieces cs
    else
      match pieces cs with
      | [] => [[c]]
      | piece :: rest => (c :: piece) :: rest

def Run.isLoose (r : Run) : Bool :=
  (r.shape = .dottedWord || r.shape = .dottedNumber)
    && (r.letters || 1 < r.reversed.count '.' || r.reversed.head? = some '.' ||
      r.reversed.head? = some ',')

def Run.tokens (r : Run) : List (List Char) :=
  let run := r.reversed.reverse
  if r.isLoose then
    match pieces run with
    | [] => []
    | first :: rest => first :: rest.filter fun piece => !piece.isEmpty
  else if r.shape = .dottedNumber && !run.contains '.' then
    [run.map fun c => if c = ',' then '.' else c]
  else [run]

def tokensFrom : Nat → List Char → List (List Char)
  | 0, _ => []
  | _ + 1, [] => []
  | fuel + 1, c :: cs =>
    if isLetter c then
      let (run, rest) := Run.grow ⟨.word, false, [c]⟩ cs
      run.tokens ++ tokensFrom fuel rest
    else if isDigitLike c then
      let (run, rest) := Run.grow ⟨.number, false, [c]⟩ cs
      run.tokens ++ tokensFrom fuel rest
    else [if isBlank c then ' ' else c] :: tokensFrom fuel cs

def tokens (cs : List Char) : List String :=
  let cs := cs.filter (· ≠ '\x00')
  (tokensFrom cs.length cs).map String.ofList

def numeral? (token : String) : Option Numeral :=
  match Numeral.read? token.toList with
  | some (n, []) => some n
  | _ => none

def isNumberWord (token : String) : Bool :=
  ["inf", "infinity", "nan"].contains (lower token)

def isDigits (token : String) : Bool :=
  token ≠ "" && token.toList.all isDigitLike

def placeOf? (table : List (List String)) (token : String) : Option Nat :=
  table.findIdx? fun names => names.contains (lower token)

def weekday? (token : String) : Option Nat :=
  placeOf? [["mon", "monday"], ["tue", "tuesday"], ["wed", "wednesday"],
    ["thu", "thursday"], ["fri", "friday"], ["sat", "saturday"],
    ["sun", "sunday"]] token

def month? (token : String) : Option Nat :=
  (placeOf? [["jan", "january"], ["feb", "february"], ["mar", "march"],
    ["apr", "april"], ["may"], ["jun", "june"], ["jul", "july"],
    ["aug", "august"], ["sep", "sept", "september"], ["oct", "october"],
    ["nov", "november"], ["dec", "december"]] token).map (· + 1)

/-- The unit of time of day that a word names: hours, minutes and seconds,
counted from zero. -/
def timeUnit? (token : String) : Option Nat :=
  placeOf? [["h", "hour", "hours"], ["m", "minute", "minutes"],
    ["s", "second", "seconds"]] token

/-- The half of the day that a word names: 0 before noon and 1 after it. -/
def half? (token : String) : Option Nat :=
  placeOf? [["am", "a"], ["pm", "p"]] token

def isFiller (token : String) : Bool :=
  [" ", ".", ",", ";", "-", "/", "\x27", "at", "on", "and", "ad", "m", "t",
    "of", "st", "nd", "rd", "th"].contains
    (lower token)

def isPertaining (token : String) : Bool := lower token = "of"

def namesUtc (token : String) : Bool :=
  ["utc", "gmt", "z"].contains (lower token)

/-- Whether a token can be a zone's abbreviation: up to five capitals, or a name
of universal time. -/
def isZoneName (token : String) : Bool :=
  let cs := token.toList
  cs.length ≤ 5 && (cs.all (fun c => 'A' ≤ c && c ≤ 'Z') ||
    ["UTC", "GMT", "Z", "z"].contains token)

end TimeWindow.FreeForm

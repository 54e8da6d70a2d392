import TimeWindow.Number.Basic
import TimeWindow.Text.Blank
import TimeWindow.Text.Digit

/-!
# Numerals

How numbers are written: an integer with an optional sign, or a decimal with an
optional fraction and exponent, in the digits of any script. `Numeral.toDouble`
is the double nearest to what is written, however long or extreme.
-/

namespace TimeWindow

/-- A decimal as written: sign, digits before and after the point, and the power
of ten. -/
structure Numeral where
  negative : Bool
  whole : List Nat
  fraction : List Nat
  exponent : Int
  deriving DecidableEq, Repr

namespace Numeral

open Text

/-- The longest integer text that is read; longer runs of digits are refused. -/
def maxDigits : Nat := 4300

def ofDigits (digits : List Nat) : Nat := digits.foldl (fun n d => n * 10 + d) 0

def digitRun : List Char → List Nat × List Char
  | [] => ([], [])
  | c :: cs =>
    match decimalValue? c with
    | some d => let (digits, rest) := digitRun cs; (d :: digits, rest)
    | none => ([], c :: cs)

def sign : List Char → Bool × List Char
  | '-' :: cs => (true, cs)
  | '+' :: cs => (false, cs)
  | cs => (false, cs)

/-- The exponent part, when the text begins with a whole one; otherwise nothing
is read. -/
def exponentPart (cs : List Char) : Int × List Char :=
  match cs with
  | c :: rest =>
    if c = 'e' || c = 'E' then
      let (negative, afterSign) := sign rest
      match digitRun afterSign with
      | ([], _) => (0, cs)
      | (digits, rest) =>
        ((if negative then -(ofDigits digits : Int) else ofDigits digits), rest)
    else (0, cs)
  | [] => (0, cs)

/-- The decimal that the text begins with: digits on at least one side of the
point. -/
def read? (cs : List Char) : Option (Numeral × List Char) :=
  let (negative, unsigned) := sign cs
  let (whole, rest) := digitRun unsigned
  let (fraction, rest) :=
    match rest with
    | '.' :: after => digitRun after
    | _ => ([], rest)
  if whole = [] && fraction = [] then none
  else
    let (exponent, rest) := exponentPart rest
    some ({ negative, whole, fraction, exponent }, rest)

def significant (n : Numeral) : List Nat :=
  (n.whole ++ n.fraction).dropWhile (· = 0)

/-- Beyond this power of ten either way every decimal is infinite or zero as a
double. -/
def extremePower : Int := 400

def toDouble (n : Numeral) : Double :=
  let digits := n.significant
  let scale := n.exponent - n.fraction.length
  let size : Int := digits.length + scale
  let unsigned : Double :=
    if digits = [] || size < -extremePower then .finite 0
    else if extremePower < size then .infinite false
    else .ofRat (ofDigits digits * (10 : Rat) ^ scale)
  if n.negative then unsigned.neg else unsigned

def groupedDigits? : List Char → Option (List Nat)
  | [] => none
  | [c] => (decimalValue? c).map ([·])
  | c :: '_' :: cs => do
    let d ← decimalValue? c
    let digits ← groupedDigits? cs
    return d :: digits
  | c :: cs => do
    let d ← decimalValue? c
    let digits ← groupedDigits? cs
    return d :: digits

/-- An integer that takes up the whole text: an optional sign and grouped
digits, with white space around them. -/
def integer? (cs : List Char) : Option Int := do
  let (negative, unsigned) := sign (trimBy isUnicodeBlank cs)
  let digits ← groupedDigits? unsigned
  if maxDigits < digits.length then none
  else return if negative then -(ofDigits digits : Int) else ofDigits digits

end Numeral

end TimeWindow

import TimeWindow.Number.Shortest

/-!
# Doubles

A double is an exact rational on the binary64 grid or one of the values beside
it. The text of a double is its shortest decimal, positional from `10 ^ -4` up
to below `10 ^ 16`.
-/

namespace TimeWindow

/-- A binary64 number. `finite` holds its exact value; zero has a second form
with a minus sign. -/
inductive Double where
  | finite (value : Rat)
  | negativeZero
  | infinite (negative : Bool)
  | nan
  deriving DecidableEq

namespace Double

open Binary64 in
def ofRat (q : Rat) : Double :=
  let rounded := nearest q
  if isFinite rounded then .finite rounded else .infinite (q < 0)

def value? : Double → Option Rat
  | .finite q => some q
  | .negativeZero => some 0
  | .infinite _ => none
  | .nan => none

def neg : Double → Double
  | .finite q => if q = 0 then .negativeZero else .finite (-q)
  | .negativeZero => .finite 0
  | .infinite negative => .infinite (!negative)
  | .nan => .nan

def isZero (d : Double) : Bool := d.value? = some 0

def digitText (digits : List Nat) : String :=
  String.ofList (digits.map fun d => Char.ofNat (0x30 + d))

/-- How many digits stand before the point when a decimal is written
positionally. -/
def positionalLimit : Int := 16

def exponentText (e : Int) : String :=
  let digits := toString e.natAbs
  (if e < 0 then "-" else "+") ++
    (if digits.length < 2 then "0" else "") ++ digits

/-- A positive decimal as text: positional for exponents from -4 to 15, with at
least one digit after the point, and with an exponent otherwise. -/
def decimalText (d : Binary64.Decimal) : String :=
  if -4 ≤ d.exponent && d.exponent < positionalLimit then
    if d.exponent < 0 then
      "0." ++ digitText (List.replicate (-d.exponent - 1).toNat 0) ++
        digitText d.digits
    else
      let whole := (d.exponent + 1).toNat
      let front :=
        d.digits.take whole ++ List.replicate (whole - d.digits.length) 0
      let back := d.digits.drop whole
      digitText front ++ "." ++ (if back = [] then "0" else digitText back)
  else
    let front := d.digits.take 1
    let back := d.digits.drop 1
    digitText front ++ (if back = [] then "" else "." ++ digitText back) ++
      "e" ++ exponentText d.exponent

def text : Double → String
  | .finite q =>
    if q = 0 then "0.0"
    else if q < 0 then "-" ++ decimalText (Binary64.shortest (-q))
    else decimalText (Binary64.shortest q)
  | .negativeZero => "-0.0"
  | .infinite negative => if negative then "-inf" else "inf"
  | .nan => "nan"

end Double

end TimeWindow

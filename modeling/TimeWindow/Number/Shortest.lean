import TimeWindow.Number.Binary64

/-!
# Shortest decimal digits

The fewest decimal digits that name a double among all doubles, and of those the
nearest to it. `Decimal` holds the result: the digits and the power of ten of
the first one.
-/

namespace TimeWindow.Binary64

/-- A positive decimal: `digits` scaled so that the first one counts `10 ^
exponent`. -/
structure Decimal where
  digits : List Nat
  exponent : Int
  deriving DecidableEq, Repr

def decimalDigits (n : Nat) : List Nat :=
  (Nat.toDigits 10 n).map fun c => c.toNat - 0x30

/-- The exponent of the greatest power of ten that is not above a positive
rational. -/
def decimalExponent (q : Rat) : Int :=
  let guess : Int := binaryExponent q * 30103 / 100000
  if q < (10 : Rat) ^ guess then guess - 1
  else if (10 : Rat) ^ (guess + 1) ≤ q then guess + 1
  else guess

/-- The rationals that round to a positive double, as bounds and whether these
belong to them. -/
structure Interval where
  low : Rat
  high : Rat
  closed : Bool

def Interval.holds (i : Interval) (q : Rat) : Bool :=
  if i.closed then i.low ≤ q && q ≤ i.high else i.low < q && q < i.high

/-- The first of the places between a power of two and the next one, counted in
steps. -/
def firstPlace : Int := 4503599627370496

/-- The rationals that round to the positive double `q`: half a step up, and
half a step down, where the step below a power of two is half as wide. Ties go
to an even last digit, so the bounds belong to `q` exactly when its own is
even. -/
def roundingInterval (q : Rat) : Interval :=
  let step := spacing q
  let place := (q / step).floor
  let below := if place = firstPlace && step ≠ (2 : Rat) ^ (-1074 : Int) then
    step / 4 else step / 2
  { low := q - below, high := q + step / 2, closed := place % 2 = 0 }

/-- The nearest of the decimals with `count` digits that lie in the interval, as
a multiple of the last place. -/
def candidate? (q : Rat) (i : Interval) (unit : Rat) : Option Int :=
  let below := (q / unit).floor
  let above := below + 1
  match i.holds (below * unit), i.holds (above * unit) with
  | false, false => none
  | true, false => some below
  | false, true => some above
  | true, true =>
    let toBelow := q - below * unit
    let toAbove := above * unit - q
    if toBelow < toAbove then some below
    else if toAbove < toBelow then some above
    else if below % 2 = 0 then some below else some above

def shortestFrom (q : Rat) (i : Interval) (exponent : Int) : Nat → Nat → Decimal
  | 0, count =>
    let unit := (10 : Rat) ^ (exponent - count + 1)
    ofPlaces (roundHalfEven (q / unit)).natAbs count exponent
  | fuel + 1, count =>
    match candidate? q i ((10 : Rat) ^ (exponent - count + 1)) with
    | some places => ofPlaces places.natAbs count exponent
    | none => shortestFrom q i exponent fuel (count + 1)
where
  /-- A carry into a new first digit raises the exponent; zeros at the end are
  dropped. -/
  ofPlaces (places count : Nat) (exponent : Int) : Decimal :=
    let digits := decimalDigits places
    let exponent := exponent + ((digits.length : Int) - count)
    { digits := (digits.reverse.dropWhile (· = 0)).reverse, exponent }

/-- The shortest decimal that names a positive double; 17 digits always
suffice. -/
def shortest (q : Rat) : Decimal :=
  shortestFrom q (roundingInterval q) (decimalExponent q) 16 1

end TimeWindow.Binary64

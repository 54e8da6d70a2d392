/-!
# The binary64 grid

Rounding of exact rationals to the numbers a double can hold: 53 significant
binary digits, and no finer than `2 ^ -1074`. Arithmetic on doubles is exact
arithmetic on `Rat` followed by `nearest`; `limit` is where the finite doubles
end. The grid is never left on the upper side here: callers ask `isFinite`.
-/

namespace TimeWindow.Binary64

def roundHalfEven (q : Rat) : Int :=
  let low := q.floor
  let rest := q - low
  if rest < 1 / 2 then low
  else if 1 / 2 < rest then low + 1
  else if low % 2 = 0 then low else low + 1

def roundHalfAway (q : Rat) : Int :=
  if q < 0 then -((-q + 1 / 2).floor) else (q + 1 / 2).floor

def truncate (q : Rat) : Int := if q < 0 then -((-q).floor) else q.floor

def magnitude (q : Rat) : Rat := if q < 0 then -q else q

/-- The exponent of the greatest power of two that is not above a positive
rational. -/
def binaryExponent (q : Rat) : Int :=
  let guess : Int := (q.num.natAbs.log2 : Int) - (q.den.log2 : Int)
  if (2 : Rat) ^ guess ≤ q then guess else guess - 1

/-- The distance between the doubles around a rational that is not zero. -/
def spacing (q : Rat) : Rat :=
  (2 : Rat) ^ max (binaryExponent (magnitude q) - 52) (-1074)

/-- The nearest point of the grid; of two points equally near, the one with an
even last digit. -/
def nearest (q : Rat) : Rat :=
  if q = 0 then 0 else (roundHalfEven (q / spacing q) : Rat) * spacing q

def limit : Rat := (2 : Rat) ^ (1024 : Int)

def isFinite (q : Rat) : Bool := magnitude q < limit

theorem nearest_zero : nearest 0 = 0 := by simp [nearest]

end TimeWindow.Binary64

import TimeWindow.Instant
import TimeWindow.Number.Basic

/-!
# Moments as numbers

Counts of seconds and milliseconds. A count is split into whole seconds and a
fraction, and the fraction is rounded to the nearest microsecond, a half to the
even one. `Epoch.instant` reads milliseconds since 1970, and
`Epoch.microseconds` a length of time in seconds.
-/

namespace TimeWindow.Epoch

open Binary64

def start : Int := 719162 * 86400

def ofSeconds (q : Rat) : Int :=
  truncate q * Calendar.second +
    roundHalfEven (nearest ((q - truncate q) * 1000000))

def microseconds : Number → Except Fault Int
  | .int n => .ok (n * Calendar.second)
  | .real d =>
    match d with
    | .nan => .error .notANumber
    | .infinite _ => .error .beyondCalendar
    | .negativeZero => .ok 0
    | .finite q => .ok (ofSeconds q)

/-- The last second that the host's clock can show, and the first one, counted
from 1970. -/
def hostLast : Int := 67768036191676799
def hostFirst : Int := -67768040609740800

def clockLimit : Int := 9223372036854775808

def ofMicroseconds (t : Int) : Except Fault Instant :=
  let seconds := t / Calendar.second
  if seconds < -clockLimit || clockLimit ≤ seconds then .error .numberTooLarge
  else if seconds < hostFirst || hostLast < seconds then .error .beyondHostClock
  else
    let wall : Wall := ⟨t + start * Calendar.second⟩
    if wall.inRange then .ok (.ofUtc wall) else .error .fieldOutOfRange

def instant (n : Number) : Except Fault Instant :=
  match n with
  | .int n =>
    let seconds := nearest ((n : Rat) / 1000)
    if isFinite seconds then ofMicroseconds (ofSeconds seconds)
      else .error .numberTooLarge
  | .real .nan => .error .notANumber
  | .real (.infinite _) => .error .numberTooLarge
  | .real .negativeZero => ofMicroseconds 0
  | .real (.finite q) => ofMicroseconds (ofSeconds (nearest (q / 1000)))

def inSeconds (ticks : Int) : Double := .ofRat ((ticks : Rat) / 1000000)

end TimeWindow.Epoch

/-!
# The ladder of steps

Query steps are snapped to lengths that people like to see. The ladder lists,
for lengths below each bound, the step in milliseconds; from the last bound on
the step is a year.
-/

namespace TimeWindow.Interval

def ladder : List (Int × Int) := [
  (10, 1), (15, 10), (35, 20), (75, 50), (150, 100), (350, 200), (750, 500),
    (1500, 1000), (3500, 2000), (7500, 5000),
  (15000, 10000), (17500, 15000), (25000, 20000), (45000, 30000),
  (90000, 60000), (210000, 120000), (450000, 300000),
  (750000, 600000), (1050000, 900000), (1500000, 1200000), (2700000, 1800000),
  (5400000, 3600000),
  (9000000, 7200000), (16200000, 10800000), (32400000, 21600000),
  (86400000, 43200000), (604800000, 86400000),
  (1814400000, 604800000), (3628800000, 2592000000)]

def longestStep : Int := 31536000000

def shortestStep : Int := 1

/-- The step of the first rung whose bound lies above a length in
milliseconds. -/
def snapOn (length : Rat) : List (Int × Int) → Int
  | [] => longestStep
  | (bound, step) :: rest => if length < bound then step else snapOn length rest

def snap (length : Rat) : Int := snapOn length ladder

end TimeWindow.Interval

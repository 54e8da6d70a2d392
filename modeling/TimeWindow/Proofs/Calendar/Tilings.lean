import TimeWindow.DateMath.Shift
import TimeWindow.Proofs.Calendar.Units

/-!
# Tilings of wall time

Every rounding goes to the edges of periods that follow one another without a
gap: the units of one kind, or fiscal years or quarters.  A `Tiling` numbers
such periods, and all that order and adjacency of rounded readings need is said
of tilings in general.
-/

namespace TimeWindow.Proofs.Calendar.Tilings

open TimeWindow.Calendar TimeWindow.DateMath Calendar.Days Calendar.Units

/-- Consecutive periods of wall time, each beginning with a whole second: which
one a reading lies in, and with which reading one begins. -/
structure Tiling where
  index : Wall → Int
  start : Int → Wall
  index_eq_iff : ∀ w k,
    index w = k ↔ (start k).ticks ≤ w.ticks ∧ w.ticks < (start (k + 1)).ticks
  start_mod_second : ∀ k, (start k).ticks % second = 0

namespace Tiling

def ofUnit (weekStart : WeekStart) (unit : CalendarUnit) : Tiling where
  index w := unitIndex weekStart w unit
  start k := unitStart weekStart k unit
  index_eq_iff _ _ := unitIndex_eq_iff
  start_mod_second k := unitStart_mod_second weekStart k unit

/-- Runs of equally many months, one of which begins with the month numbered
`first`. -/
def ofMonths (first months : Int) (hpos : 0 < months) : Tiling where
  index w := (w.date.monthNumber - first) / months
  start k := ⟨monthStart (months * k + first) * day⟩
  index_eq_iff _ _ := monthRun_eq_iff hpos
  start_mod_second k := by
    unfold day hour minute second
    dsimp only
    omega

variable (T : Tiling)

theorem start_index_le (w : Wall) : (T.start (T.index w)).ticks ≤ w.ticks :=
  ((T.index_eq_iff w _).1 rfl).1

theorem lt_start_index_succ (w : Wall) :
    w.ticks < (T.start (T.index w + 1)).ticks :=
  ((T.index_eq_iff w _).1 rfl).2

/-- A reading rounded: to the beginning of its period, or to the last
millisecond before the next one begins. -/
def round (roundUp : Bool) (w : Wall) : Wall :=
  if roundUp then (T.start (T.index w + 1)).add (-lastMoment)
    else T.start (T.index w)

@[simp] theorem round_down (w : Wall) : T.round false w = T.start (T.index w) :=
  rfl

@[simp] theorem round_up (w : Wall) :
    T.round true w = (T.start (T.index w + 1)).add (-lastMoment) := rfl

/-- Rounding down and rounding up keep two readings in order, though rounding up
may lead back by less than a millisecond: periods begin with whole seconds. -/
theorem round_le_round {w v : Wall} (h : w.ticks ≤ v.ticks) :
    (T.round false w).ticks ≤ (T.round true v).ticks := by
  have hlow := T.start_index_le w
  have hhigh := T.lt_start_index_succ v
  have hlt : (T.start (T.index w)).ticks < (T.start (T.index v + 1)).ticks :=
    hlow.trans_lt (h.trans_lt hhigh)
  have hwhole := T.start_mod_second (T.index w)
  have hwhole' := T.start_mod_second (T.index v + 1)
  simp only [round_down, round_up, Wall.add]
  unfold second at hwhole hwhole'
  unfold lastMoment
  omega

/-- Where the period of `w` follows that of `v`, the end of the one is a
millisecond before the beginning of the other. -/
theorem round_abuts {v w : Wall} (h : T.index w = T.index v + 1) :
    (T.round true v).ticks + lastMoment = (T.round false w).ticks := by
  simp only [round_down, round_up, h, Wall.add]
  omega

end Tiling

/-- The periods to which a rounding goes; a fiscal rounding to a unit without a
fiscal form goes nowhere. -/
def tiling? (firstMonth : Int) (weekStart : WeekStart) :
    Bool → CalendarUnit → Option Tiling
  | false, unit => some (.ofUnit weekStart unit)
  | true, .year => some (.ofMonths firstMonth 12 (by decide))
  | true, .quarter => some (.ofMonths firstMonth 3 (by decide))
  | true, _ => none

theorem index_addUnits {firstMonth n : Int} {weekStart : WeekStart}
    {fiscal : Bool} {unit : CalendarUnit} {T : Tiling} {w v : Wall}
    (hT : tiling? firstMonth weekStart fiscal unit = some T)
    (h : w.addUnits n unit = .ok v) :
    T.index v = T.index w + n := by
  cases fiscal with
  | false =>
    cases hT
    exact unitIndex_addUnits h
  | true =>
    cases unit with
    | year =>
      cases hT
      have hmonths := monthNumber_addMonths h
      change (v.date.monthNumber - firstMonth) / 12 =
        (w.date.monthNumber - firstMonth) / 12 + n
      omega
    | quarter =>
      cases hT
      have hmonths := monthNumber_addMonths h
      change (v.date.monthNumber - firstMonth) / 3 =
        (w.date.monthNumber - firstMonth) / 3 + n
      omega
    | _ => cases hT

end TimeWindow.Proofs.Calendar.Tilings

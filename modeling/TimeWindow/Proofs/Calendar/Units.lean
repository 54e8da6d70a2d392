import TimeWindow.Calendar.Unit
import TimeWindow.Proofs.Calendar.Days

/-!
# Units as stretches of wall time

The units of one kind are numbered, and each begins where the one before it
ends. `unitIndex` says in which one a reading lies and `unitStart` where one
begins; the two determine each other (`unitIndex_eq_iff`).  `Wall.startOf` then
finds the beginning of the reading's unit, and a shift by whole units leads from
one beginning to another.
-/

namespace TimeWindow.Proofs.Calendar.Units

open TimeWindow.Calendar Days

/-- The number of the unit in which a reading lies. -/
def unitIndex (weekStart : WeekStart) (w : Wall) : CalendarUnit → Int
  | .second => w.ticks / second
  | .minute => w.ticks / minute
  | .hour => w.ticks / hour
  | .day => w.dayNumber
  | .week => (w.dayNumber - weekStart.weekday) / 7
  | .month => w.date.monthNumber
  | .quarter => w.date.monthNumber / 3
  | .year => w.date.year

/-- The reading with which a unit begins, by its number. -/
def unitStart (weekStart : WeekStart) (k : Int) : CalendarUnit → Wall
  | .second => ⟨k * second⟩
  | .minute => ⟨k * minute⟩
  | .hour => ⟨k * hour⟩
  | .day => ⟨k * day⟩
  | .week => ⟨(7 * k + weekStart.weekday) * day⟩
  | .month => ⟨monthStart k * day⟩
  | .quarter => ⟨monthStart (3 * k) * day⟩
  | .year => ⟨yearStart k * day⟩

/-! ## Days and dates of a reading -/

theorem dayNumber_eq_iff {w : Wall} {n : Int} :
    w.dayNumber = n ↔ n * day ≤ w.ticks ∧ w.ticks < (n + 1) * day := by
  unfold Wall.dayNumber day hour minute second
  omega

theorem le_dayNumber_iff {w : Wall} {n : Int} :
    n ≤ w.dayNumber ↔ n * day ≤ w.ticks := by
  unfold Wall.dayNumber day hour minute second
  omega

theorem dayNumber_lt_iff {w : Wall} {n : Int} :
    w.dayNumber < n ↔ w.ticks < n * day := by
  unfold Wall.dayNumber day hour minute second
  omega

@[simp] theorem date_proper (w : Wall) : Proper w.date := proper_ofDayNumber _

@[simp] theorem dayNumber_date (w : Wall) : w.date.dayNumber = w.dayNumber :=
  dayNumber_ofDayNumber _

theorem date_eq_of_dayNumber {w : Wall} {d : Date} (hd : Proper d)
    (h : w.dayNumber = d.dayNumber) :
    w.date = d := by
  rw [Wall.date, h, ofDayNumber_dayNumber hd]

theorem year_eq_iff {w : Wall} {year : Int} :
    w.date.year = year ↔ yearStart year ≤ w.dayNumber ∧
    w.dayNumber < yearStart (year + 1) :=
  yearOf_eq_iff

theorem monthNumber_date_eq_iff {w : Wall} {k : Int} :
    w.date.monthNumber = k ↔ monthStart k ≤ w.dayNumber ∧
    w.dayNumber < monthStart (k + 1) := by
  rw [monthNumber_eq_iff (date_proper w), dayNumber_date]

theorem le_monthNumber_iff {w : Wall} {k : Int} :
    k ≤ w.date.monthNumber ↔ monthStart k * day ≤ w.ticks := by
  obtain ⟨hle, hlt⟩ := monthNumber_date_eq_iff.1 (rfl : w.date.monthNumber = _)
  rw [← le_dayNumber_iff]
  constructor
  · intro hk
    exact (monthStart_le_iff.2 hk).trans hle
  · intro hk
    have hnext : k < w.date.monthNumber + 1 :=
      monthStart_lt_iff.1 (hk.trans_lt hlt)
    omega

theorem monthNumber_lt_iff {w : Wall} {k : Int} :
    w.date.monthNumber < k ↔ w.ticks < monthStart k * day := by
  rw [← Int.not_le, le_monthNumber_iff, Int.not_le]

theorem monthNumber_monthStart (k : Int) :
    (Wall.mk (monthStart k * day)).date.monthNumber = k := by
  have hlow : k ≤ (Wall.mk (monthStart k * day)).date.monthNumber :=
    le_monthNumber_iff.2 (le_refl _)
  have hhigh : (Wall.mk (monthStart k * day)).date.monthNumber < k + 1 := by
    have hlt : monthStart k < monthStart (k + 1) :=
      monthStart_lt_iff.2 (Int.lt_succ k)
    rw [monthNumber_lt_iff]
    unfold day hour minute second
    dsimp only
    omega
  omega

theorem monthRun_eq_iff {w : Wall} {first months k : Int} (hpos : 0 < months) :
    (w.date.monthNumber - first) / months = k ↔
      monthStart (months * k + first) * day ≤ w.ticks ∧
        w.ticks < monthStart (months * (k + 1) + first) * day := by
  rw [← le_monthNumber_iff, ← monthNumber_lt_iff, Int.ediv_eq_iff_of_pos hpos,
    mul_comm k, mul_add, mul_one]
  constructor
  · rintro ⟨hle, hlt⟩
    exact ⟨by omega, by omega⟩
  · rintro ⟨hle, hlt⟩
    exact ⟨by omega, by omega⟩

/-! ## Numbers and beginnings -/

theorem unitIndex_eq_iff {weekStart : WeekStart} {unit : CalendarUnit}
    {w : Wall} {k : Int} :
    unitIndex weekStart w unit = k ↔
      (unitStart weekStart k unit).ticks ≤ w.ticks ∧
        w.ticks < (unitStart weekStart (k + 1) unit).ticks := by
  cases unit with
  | year =>
    simp only [unitIndex, unitStart]
    rw [year_eq_iff, le_dayNumber_iff, dayNumber_lt_iff]
  | month =>
    simp only [unitIndex, unitStart]
    rw [monthNumber_date_eq_iff, le_dayNumber_iff, dayNumber_lt_iff]
  | quarter =>
    have hrun := @monthRun_eq_iff w 0 3 k (by decide)
    simp only [sub_zero, add_zero] at hrun
    exact hrun
  | week =>
    simp only [unitIndex, unitStart]
    rw [← le_dayNumber_iff, ← dayNumber_lt_iff]
    omega
  | day => exact dayNumber_eq_iff
  | hour =>
    simp only [unitIndex, unitStart, hour, minute, second]
    omega
  | minute =>
    simp only [unitIndex, unitStart, minute, second]
    omega
  | second =>
    simp only [unitIndex, unitStart, second]
    omega

theorem unitStart_le (weekStart : WeekStart) (unit : CalendarUnit) (w : Wall) :
    (unitStart weekStart (unitIndex weekStart w unit) unit).ticks ≤ w.ticks :=
  (unitIndex_eq_iff.1 rfl).1

theorem lt_unitStart_succ (weekStart : WeekStart) (unit : CalendarUnit)
    (w : Wall) :
    w.ticks < (unitStart weekStart (unitIndex weekStart w unit + 1) unit).ticks :=
  (unitIndex_eq_iff.1 rfl).2

theorem unitStart_mod_second (weekStart : WeekStart) (k : Int)
    (unit : CalendarUnit) :
    (unitStart weekStart k unit).ticks % second = 0 := by
  cases unit <;> simp only [unitStart, day, hour, minute, second] <;> omega

/-! ## Finding the beginning -/

theorem floorTo_eq (w : Wall) (length : Int) :
    w.floorTo length = ⟨w.ticks / length * length⟩ := by
  have := Int.mul_ediv_add_emod w.ticks length
  unfold Wall.floorTo
  rw [Int.mul_comm]
  congr 1
  omega

theorem onDate_first {d : Date} (hd : Proper d) (hfirst : d.day = 1) :
    Wall.onDate d 0 = ⟨monthStart d.monthNumber * day⟩ := by
  unfold Wall.onDate
  rw [dayNumber_eq hd, hfirst, add_sub_cancel_right, add_zero]

theorem startOf_eq (weekStart : WeekStart) (unit : CalendarUnit) (w : Wall) :
    w.startOf weekStart unit =
      unitStart weekStart (unitIndex weekStart w unit) unit := by
  obtain ⟨h₁, h₁₂, -, -⟩ := date_proper w
  cases unit with
  | month => exact onDate_first (proper_first h₁ h₁₂) rfl
  | quarter =>
    have hproper : Proper w.date.quarterStart :=
      proper_first (by omega) (by omega)
    have hnumber :
        w.date.quarterStart.monthNumber = 3 * (w.date.monthNumber / 3) := by
      change 12 * w.date.year + ((w.date.month - 1) / 3 * 3 + 1) - 1 =
        3 * ((12 * w.date.year + w.date.month - 1) / 3)
      omega
    change Wall.onDate w.date.quarterStart 0 =
      ⟨monthStart (3 * (w.date.monthNumber / 3)) * day⟩
    rw [onDate_first hproper rfl, hnumber]
  | year =>
    have hproper : Proper w.date.yearFirst :=
      proper_first (by decide) (by decide)
    have hnumber : w.date.yearFirst.monthNumber = 12 * w.date.year := by
      change 12 * w.date.year + 1 - 1 = 12 * w.date.year
      omega
    change Wall.onDate w.date.yearFirst 0 = ⟨yearStart w.date.year * day⟩
    rw [onDate_first hproper rfl, hnumber, monthStart_january]
  | week =>
    simp only [Wall.startOf, unitStart, unitIndex, floorTo_eq, Wall.add,
      Wall.weekday, Wall.dayNumber]
    congr 1
    unfold day hour minute second
    omega
  | _ => exact floorTo_eq w _

/-! ## From one beginning to another -/

theorem checked_ok {w v : Wall} (h : w.checked = .ok v) : v = w :=
  (Wall.checked_eq_ok.1 h).1

theorem addMonths_eq_ok {w v : Wall} {n : Int} (h : w.addMonths n = .ok v) :
    v = .onDate (w.date.addMonths n) w.sinceMidnight := by
  unfold Wall.addMonths at h
  dsimp only at h
  split at h
  · cases h
  · split at h
    · cases h
    · injection h with h
      exact h.symm

/-- Months lead from a place in one month to the same place in another, as long
as every month reaches that far. -/
theorem addMonths_monthStart {k n r : Int} {v : Wall} (hr : 0 ≤ r)
    (hshort : r < 28 * day)
    (h : (Wall.mk (monthStart k * day + r)).addMonths n = .ok v) :
    v = ⟨monthStart (k + n) * day + r⟩ := by
  have hday : 0 ≤ r / day ∧ r / day < 28 := by
    unfold day hour minute second at hshort ⊢
    omega
  have hnumber :
      (Wall.mk (monthStart k * day + r)).dayNumber = monthStart k + r / day := by
    unfold Wall.dayNumber day hour minute second
    dsimp only
    omega
  have hmidnight :
      (Wall.mk (monthStart k * day + r)).sinceMidnight = r % day := by
    unfold Wall.sinceMidnight day hour minute second
    dsimp only
    omega
  have hdate :
      (Wall.mk (monthStart k * day + r)).date =
        ⟨k / 12, k % 12 + 1, r / day + 1⟩ := by
    have hlength := (monthLength_bounds (k / 12) (k % 12 + 1)).1
    apply date_eq_of_dayNumber
    · exact ⟨by dsimp only; omega, by dsimp only; omega, by dsimp only; omega,
        by dsimp only; omega⟩
    · rw [hnumber]
      unfold monthStart Date.dayNumber
      dsimp only
      omega
  rw [addMonths_eq_ok h, hdate, hmidnight]
  have hmonth :
      (Date.mk (k / 12) (k % 12 + 1) (r / day + 1)).monthNumber + n = k + n := by
    unfold Date.monthNumber
    dsimp only
    omega
  have hlength := (monthLength_bounds ((k + n) / 12) ((k + n) % 12 + 1)).1
  unfold Wall.onDate Date.addMonths Date.dayNumber
  simp only [hmonth]
  rw [min_eq_left (by omega)]
  change Wall.mk ((monthStart (k + n) + (r / day + 1) - 1) * day + r % day) = _
  congr 1
  unfold day hour minute second
  omega

/-- Units lead from a place in one unit to the same place in another, as long as
every month reaches that far. -/
theorem addUnits_unitStart {weekStart : WeekStart} {unit : CalendarUnit}
    {k n r : Int} {v : Wall} (hr : 0 ≤ r) (hshort : r < 28 * day)
    (h : (Wall.mk ((unitStart weekStart k unit).ticks + r)).addUnits n unit =
      .ok v) :
    v = ⟨(unitStart weekStart (k + n) unit).ticks + r⟩ := by
  cases unit with
  | month => exact addMonths_monthStart hr hshort h
  | quarter =>
    rw [addMonths_monthStart hr hshort h, unitStart, mul_add]
  | year =>
    simp only [unitStart, ← monthStart_january, Wall.addUnits] at h ⊢
    rw [addMonths_monthStart hr hshort h, mul_add]
  | _ =>
    rw [checked_ok h]
    simp only [Wall.add, unitStart]
    congr 1
    ring

theorem monthNumber_date_addMonths (d : Date) (n : Int) :
    (d.addMonths n).monthNumber = d.monthNumber + n := by
  change 12 * ((d.monthNumber + n) / 12) + ((d.monthNumber + n) % 12 + 1) - 1 =
    d.monthNumber + n
  omega

theorem proper_addMonths {d : Date} (hd : Proper d) (n : Int) :
    Proper (d.addMonths n) := by
  obtain ⟨-, -, hfirst, -⟩ := hd
  have hlength := (monthLength_bounds ((d.monthNumber + n) / 12)
    ((d.monthNumber + n) % 12 + 1)).1
  change 1 ≤ (d.monthNumber + n) % 12 + 1 ∧ (d.monthNumber + n) % 12 + 1 ≤ 12 ∧
    1 ≤ min d.day _ ∧ min d.day _ ≤ _
  exact ⟨by omega, by omega, le_min hfirst (by omega), min_le_right _ _⟩

theorem sinceMidnight_bounds (w : Wall) :
    0 ≤ w.sinceMidnight ∧ w.sinceMidnight < day := by
  unfold Wall.sinceMidnight day hour minute second
  omega

theorem date_onDate {d : Date} (hd : Proper d) {t : Int}
    (ht : 0 ≤ t ∧ t < day) : (Wall.onDate d t).date = d := by
  apply date_eq_of_dayNumber hd
  rw [dayNumber_eq_iff]
  unfold Wall.onDate
  rw [add_mul]
  dsimp only
  omega

theorem monthNumber_addMonths {w v : Wall} {n : Int}
    (h : w.addMonths n = .ok v) :
    v.date.monthNumber = w.date.monthNumber + n := by
  have hproper := proper_addMonths (date_proper w) n
  rw [addMonths_eq_ok h, date_onDate hproper (sinceMidnight_bounds w),
    monthNumber_date_addMonths]

theorem unitIndex_addUnits {weekStart : WeekStart} {unit : CalendarUnit}
    {n : Int} {w v : Wall} (h : w.addUnits n unit = .ok v) :
    unitIndex weekStart v unit = unitIndex weekStart w unit + n := by
  cases unit with
  | year =>
    have hmonths := monthNumber_addMonths h
    have hyear := (monthNumber_div_mod (date_proper v)).1
    have hyear' := (monthNumber_div_mod (date_proper w)).1
    simp only [unitIndex]
    omega
  | quarter =>
    have hmonths := monthNumber_addMonths h
    simp only [unitIndex]
    omega
  | month => exact monthNumber_addMonths h
  | _ =>
    rw [checked_ok h]
    simp only [unitIndex, Wall.add, Wall.dayNumber, day, hour, minute, second]
    omega

end TimeWindow.Proofs.Calendar.Units

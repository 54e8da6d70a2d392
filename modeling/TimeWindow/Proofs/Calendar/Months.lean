import TimeWindow.Proofs.Calendar.Units

/-!
# Months added to a reading

A reading that months are added to keeps its time of day, and its day as far as
the new month has one (`addMonths_eq_ok_iff`).  Since every month has 28 days,
months add up, and can be taken back, from any of the first 28 days on
(`addMonths_add`, `addMonths_neg`); from a later day they need not.
-/

namespace TimeWindow.Proofs.Calendar.Months

open TimeWindow.Calendar Calendar.Days Calendar.Units

/-- The years 1 to 9999 hold the month with this number. -/
def InYears (k : Int) : Prop := 12 ≤ k ∧ k < 120000

instance (k : Int) : Decidable (InYears k) :=
  inferInstanceAs (Decidable (_ ∧ _))

/-- The second reading lies `n` months behind the first one: at the same time of
day, and on the same day or, in a month that does not reach so far, on its last
one. -/
structure MonthsLater (n : Int) (w v : Wall) : Prop where
  month : v.date.monthNumber = w.date.monthNumber + n
  day : v.date.day = min w.date.day (monthLength v.date.year v.date.month)
  time : v.sinceMidnight = w.sinceMidnight

/-! ## Dates -/

theorem date_ext {d e : Date} (hd : Proper d) (he : Proper e)
    (hmonth : d.monthNumber = e.monthNumber) (hday : d.day = e.day) :
    d = e := by
  rw [← ofDayNumber_dayNumber hd, ← ofDayNumber_dayNumber he, dayNumber_eq hd,
    dayNumber_eq he, hmonth, hday]

theorem day_addMonths {d : Date} (hday : d.day ≤ 28) (n : Int) :
    (d.addMonths n).day = d.day := by
  have hlength := (monthLength_bounds ((d.monthNumber + n) / 12)
    ((d.monthNumber + n) % 12 + 1)).1
  exact min_eq_left (by omega)

theorem date_addMonths_add {d : Date} (hd : Proper d) (hday : d.day ≤ 28)
    (a b : Int) :
    (d.addMonths a).addMonths b = d.addMonths (a + b) := by
  have hmoved := proper_addMonths hd a
  apply date_ext (proper_addMonths hmoved b) (proper_addMonths hd (a + b))
  · rw [monthNumber_date_addMonths, monthNumber_date_addMonths,
      monthNumber_date_addMonths, add_assoc]
  · have hkept : (d.addMonths a).day ≤ 28 :=
      (day_addMonths hday a).trans_le hday
    rw [day_addMonths hkept, day_addMonths hday, day_addMonths hday]

theorem date_addMonths_zero {d : Date} (hd : Proper d) : d.addMonths 0 = d := by
  apply date_ext (proper_addMonths hd 0) hd
  · rw [monthNumber_date_addMonths, add_zero]
  · obtain ⟨hyear, hmonth⟩ := monthNumber_div_mod hd
    obtain ⟨-, -, -, hlast⟩ := hd
    change min d.day (monthLength ((d.monthNumber + 0) / 12)
      ((d.monthNumber + 0) % 12 + 1)) = d.day
    rw [add_zero, hyear, hmonth]
    exact min_eq_left hlast

/-! ## Readings -/

theorem sinceMidnight_onDate {t : Int} (ht : 0 ≤ t ∧ t < day) (d : Date) :
    (Wall.onDate d t).sinceMidnight = t := by
  unfold Wall.sinceMidnight Wall.onDate
  rw [Int.mul_comm, Int.mul_add_emod_self_left]
  exact Int.emod_eq_of_lt ht.1 ht.2

theorem onDate_date (w : Wall) : Wall.onDate w.date w.sinceMidnight = w := by
  have hticks := Int.ediv_mul_add_emod w.ticks day
  unfold Wall.onDate
  rw [dayNumber_date]
  cases w
  exact congrArg Wall.mk hticks

theorem inYears_monthNumber_iff {w : Wall} :
    InYears w.date.monthNumber ↔ w.inRange = true := by
  have hfirst : monthStart 12 = 0 := by decide
  have hlast : monthStart 120000 = 3652059 := by decide
  unfold InYears Wall.inRange ending
  rw [le_monthNumber_iff, monthNumber_lt_iff, hfirst, hlast, zero_mul,
    Bool.and_eq_true, decide_eq_true_eq, decide_eq_true_eq]

theorem addMonths_eq_ok_iff {w v : Wall} {n : Int} :
    w.addMonths n = .ok v ↔
      InYears (w.date.monthNumber + n) ∧
      v = .onDate (w.date.addMonths n) w.sinceMidnight := by
  have hyear : (w.date.addMonths n).year = (w.date.monthNumber + n) / 12 := rfl
  constructor
  · intro h
    refine ⟨?_, addMonths_eq_ok h⟩
    by_contra hout
    unfold InYears at hout
    unfold Wall.addMonths at h
    dsimp only at h
    by_cases hwide : ((w.date.addMonths n).year < -Wall.widestYear - 1 ||
        Wall.widestYear < (w.date.addMonths n).year) = true
    · rw [if_pos hwide] at h
      cases h
    · rw [if_neg hwide,
        if_pos (by simp only [Bool.or_eq_true, decide_eq_true_eq]; omega)] at h
      cases h
  · rintro ⟨⟨hlow, hhigh⟩, rfl⟩
    unfold Wall.addMonths Wall.widestYear
    dsimp only
    rw [if_neg (by simp only [Bool.or_eq_true, decide_eq_true_eq]; omega),
      if_neg (by simp only [Bool.or_eq_true, decide_eq_true_eq]; omega)]

theorem date_addMonths {w v : Wall} {n : Int} (h : w.addMonths n = .ok v) :
    v.date = w.date.addMonths n := by
  rw [addMonths_eq_ok h]
  exact date_onDate (proper_addMonths (date_proper w) n) (sinceMidnight_bounds w)

theorem sinceMidnight_addMonths {w v : Wall} {n : Int}
    (h : w.addMonths n = .ok v) :
    v.sinceMidnight = w.sinceMidnight := by
  rw [addMonths_eq_ok h]
  exact sinceMidnight_onDate (sinceMidnight_bounds w) _

theorem monthsLater_of_addMonths {w v : Wall} {n : Int}
    (h : w.addMonths n = .ok v) : MonthsLater n w v := by
  refine ⟨?_, ?_, sinceMidnight_addMonths h⟩
  · rw [date_addMonths h, monthNumber_date_addMonths]
  · rw [date_addMonths h]
    rfl

theorem addMonths_add {w v t : Wall} {a b : Int} (hday : w.date.day ≤ 28)
    (ha : w.addMonths a = .ok v) (hb : v.addMonths b = .ok t) :
    w.addMonths (a + b) = .ok t := by
  obtain ⟨hyears, rfl⟩ := addMonths_eq_ok_iff.1 hb
  rw [date_addMonths ha, monthNumber_date_addMonths, add_assoc] at hyears
  refine addMonths_eq_ok_iff.2 ⟨hyears, ?_⟩
  rw [date_addMonths ha, sinceMidnight_addMonths ha,
    date_addMonths_add (date_proper w) hday]

theorem addMonths_neg {w v : Wall} {n : Int} (hw : w.inRange = true)
    (hday : w.date.day ≤ 28) (h : w.addMonths n = .ok v) :
    v.addMonths (-n) = .ok w := by
  rw [addMonths_eq_ok_iff, date_addMonths h, sinceMidnight_addMonths h,
    monthNumber_date_addMonths, add_neg_cancel_right, date_addMonths_add
    (date_proper w) hday, add_neg_cancel, date_addMonths_zero (date_proper w)]
  exact ⟨inYears_monthNumber_iff.2 hw, (onDate_date w).symm⟩

/-- The last day of January shows why the day counts: a month and one more lead
to another day than two months do. -/
example : (Date.addMonths ⟨2024, 1, 31⟩ 1).addMonths 1 = ⟨2024, 3, 29⟩ ∧
    Date.addMonths ⟨2024, 1, 31⟩ 2 = ⟨2024, 3, 31⟩ := by
  decide

end TimeWindow.Proofs.Calendar.Months

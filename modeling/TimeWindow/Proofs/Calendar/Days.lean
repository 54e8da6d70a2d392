import TimeWindow.Calendar.Date
import Mathlib.Order.Monotone.Basic
import Mathlib.Data.Int.SuccPred
import Mathlib.Order.SuccPred.Archimedean
import Mathlib.Tactic.Ring

/-!
# Day numbers and dates

Years and months begin where the ones before them end, so that their first days
are found by one sum, and `ofDayNumber` takes that sum apart again: the date it
gives exists and has the day number it was read from.
-/

namespace TimeWindow.Proofs.Calendar.Days

open TimeWindow.Calendar

def yearLength (year : Int) : Int := if isLeap year then 366 else 365

/-- The day number of the first day of a month, by its month number. -/
def monthStart (k : Int) : Int :=
  yearStart (k / 12) + daysBefore (k / 12) (k % 12 + 1)

def Proper (d : Date) : Prop :=
  1 ≤ d.month ∧ d.month ≤ 12 ∧ 1 ≤ d.day ∧ d.day ≤ monthLength d.year d.month

/-! ## Years -/

theorem isLeap_iff {year : Int} :
    isLeap year = true ↔ year % 4 = 0 ∧ (year % 100 ≠ 0 ∨ year % 400 = 0) := by
  simp [isLeap]

theorem yearLength_pos (year : Int) : 0 < yearLength year := by
  unfold yearLength
  split <;> omega

theorem yearStart_succ (year : Int) :
    yearStart (year + 1) = yearStart year + yearLength year := by
  unfold yearStart yearLength
  dsimp only
  split
  · rename_i h
    rw [isLeap_iff] at h
    omega
  · rename_i h
    rw [isLeap_iff] at h
    omega

theorem yearStart_lt_iff {year other : Int} :
    yearStart year < yearStart other ↔ year < other := by
  have hsucc : ∀ year, yearStart year < yearStart (year + 1) := by
    intro year
    have := yearStart_succ year
    have := yearLength_pos year
    omega
  exact (strictMono_int_of_lt_succ hsucc).lt_iff_lt

/-- The day number of 1 January, from the centuries and the years of four that
have passed in a period of 400 years. -/
theorem yearStart_parts {q c f y : Int} (hc : 0 ≤ c ∧ c ≤ 3)
    (hf : 0 ≤ f ∧ f ≤ 24) (hy : 0 ≤ y ∧ y ≤ 3) :
    yearStart (400 * q + 100 * c + 4 * f + y + 1) =
      146097 * q + 36524 * c + 1461 * f + 365 * y := by
  unfold yearStart
  dsimp only
  have h4 : (400 * q + 100 * c + 4 * f + y + 1 - 1) / 4 =
      100 * q + 25 * c + f := by omega
  have h100 : (400 * q + 100 * c + 4 * f + y + 1 - 1) / 100 =
      4 * q + c := by omega
  have h400 : (400 * q + 100 * c + 4 * f + y + 1 - 1) / 400 = q := by omega
  rw [h4, h100, h400]
  ring

/-- The year behind is 365 days later at least, and the day of a year is found
from what is left behind its centuries and its years of four. -/
theorem yearStart_succ_parts {q c f y : Int} (hc : 0 ≤ c ∧ c ≤ 3)
    (hf : 0 ≤ f ∧ f ≤ 24) (hy : 0 ≤ y ∧ y ≤ 3) :
    yearStart (400 * q + 100 * c + 4 * f + y + 1 + 1) =
      146097 * q + 36524 * c + 1461 * f + 365 * y + 365 +
        (if y = 3 ∧ (f ≠ 24 ∨ c = 3) then 1 else 0) := by
  rw [yearStart_succ, yearStart_parts hc hf hy]
  have hleap :
      isLeap (400 * q + 100 * c + 4 * f + y + 1) = true ↔
      y = 3 ∧ (f ≠ 24 ∨ c = 3) := by
    rw [isLeap_iff]
    omega
  unfold yearLength
  by_cases h : y = 3 ∧ (f ≠ 24 ∨ c = 3)
  · rw [if_pos (hleap.2 h), if_pos h]
    omega
  · rw [if_neg fun hl => h (hleap.1 hl), if_neg h]
    omega

theorem yearStart_yearOf (n : Int) :
    yearStart (yearOf n) ≤ n ∧ n < yearStart (yearOf n + 1) := by
  unfold yearOf
  dsimp only
  generalize hq : n / 146097 = q
  generalize hc : n % 146097 / 36524 = c
  generalize hf : n % 146097 % 36524 / 1461 = f
  generalize hy : n % 146097 % 36524 % 1461 / 365 = y
  by_cases hlast : c = 4 ∨ y = 4
  · rw [if_pos hlast]
    rcases hlast with hc4 | hy4
    · -- the last day of 400 years
      have hyear : 400 * q + 100 * c + 4 * f + y + 0 =
          400 * q + 100 * 3 + 4 * 24 + 3 + 1 := by omega
      rw [hyear, yearStart_parts (by omega) (by omega) (by omega),
        yearStart_succ_parts (by omega) (by omega) (by omega), if_pos (by omega)]
      omega
    · -- the last day of four years
      have hyear : 400 * q + 100 * c + 4 * f + y + 0 =
          400 * q + 100 * c + 4 * f + 3 + 1 := by omega
      rw [hyear, yearStart_parts (by omega) (by omega) (by omega),
        yearStart_succ_parts (by omega) (by omega) (by omega), if_pos (by omega)]
      omega
  · rw [if_neg hlast, yearStart_parts (by omega) (by omega) (by omega),
      yearStart_succ_parts (by omega) (by omega) (by omega)]
    constructor
    · omega
    · split <;> omega

theorem yearOf_eq_iff {n year : Int} :
    yearOf n = year ↔ yearStart year ≤ n ∧ n < yearStart (year + 1) := by
  constructor
  · rintro rfl
    exact yearStart_yearOf n
  · rintro ⟨hle, hlt⟩
    obtain ⟨hle', hlt'⟩ := yearStart_yearOf n
    have h₁ : yearOf n < year + 1 := yearStart_lt_iff.1 (hle'.trans_lt hlt)
    have h₂ : year < yearOf n + 1 := yearStart_lt_iff.1 (hle.trans_lt hlt')
    omega

/-! ## Months -/

theorem monthLength_bounds (year month : Int) :
    28 ≤ monthLength year month ∧ monthLength year month ≤ 31 := by
  unfold monthLength
  split
  · split <;> omega
  · split <;> omega

@[simp] theorem daysBefore_one (year : Int) : daysBefore year 1 = 0 := by
  simp [daysBefore]

theorem daysBefore_succ {year month : Int} (h : 1 ≤ month ∧ month ≤ 11) :
    daysBefore year (month + 1) = daysBefore year month +
      monthLength year month := by
  unfold daysBefore monthLength
  obtain rfl | rfl | rfl | rfl | rfl | rfl | rfl | rfl | rfl | rfl | rfl :
      month = 1 ∨ month = 2 ∨ month = 3 ∨ month = 4 ∨ month = 5 ∨ month = 6 ∨
        month = 7 ∨
        month = 8 ∨ month = 9 ∨ month = 10 ∨ month = 11 := by omega
  all_goals cases isLeap year <;> decide

theorem daysBefore_december (year : Int) :
    daysBefore year 12 + 31 = yearLength year := by
  unfold daysBefore yearLength
  cases isLeap year <;> decide

theorem monthStart_succ (k : Int) :
    monthStart (k + 1) = monthStart k + monthLength (k / 12) (k % 12 + 1) := by
  unfold monthStart
  by_cases hk : k % 12 = 11
  · have hyear : (k + 1) / 12 = k / 12 + 1 := by omega
    have hmonth : (k + 1) % 12 + 1 = 1 := by omega
    have hlast := daysBefore_december (k / 12)
    rw [hyear, hmonth, hk, yearStart_succ, daysBefore_one]
    change _ = yearStart (k / 12) + daysBefore (k / 12) 12 + 31
    omega
  · have hyear : (k + 1) / 12 = k / 12 := by omega
    have hmonth : (k + 1) % 12 + 1 = k % 12 + 1 + 1 := by omega
    rw [hyear, hmonth, daysBefore_succ (by omega)]
    omega

theorem monthStart_lt_iff {j k : Int} :
    monthStart j < monthStart k ↔ j < k := by
  have hsucc : ∀ k, monthStart k < monthStart (k + 1) := by
    intro k
    have := monthStart_succ k
    have := monthLength_bounds (k / 12) (k % 12 + 1)
    omega
  exact (strictMono_int_of_lt_succ hsucc).lt_iff_lt

theorem monthStart_le_iff {j k : Int} :
    monthStart j ≤ monthStart k ↔ j ≤ k := by
  rw [← Int.not_lt, monthStart_lt_iff, Int.not_lt]

theorem monthStart_january (year : Int) :
    monthStart (12 * year) = yearStart year := by
  unfold monthStart
  have hyear : 12 * year / 12 = year := by omega
  have hmonth : 12 * year % 12 + 1 = 1 := by omega
  rw [hyear, hmonth, daysBefore_one, add_zero]

theorem daysBefore_monthOf (year d : Int) (h : 0 ≤ d ∧ d < yearLength year) :
    1 ≤ monthOf year d ∧ monthOf year d ≤ 12 ∧
    daysBefore year (monthOf year d) ≤ d ∧
      d < daysBefore year (monthOf year d) +
        monthLength year (monthOf year d) := by
  unfold yearLength at h
  unfold daysBefore monthLength monthOf
  dsimp only
  cases hleap : isLeap year with
  | true =>
    simp only [hleap, if_true] at h ⊢
    generalize hbent : (if d < 60 then d else d + 1) = bent
    have hd : (d = bent ∧ d < 60) ∨ (d + 1 = bent ∧ 60 ≤ d) := by
      split at hbent <;> omega
    generalize hm : (12 * bent + 373) / 367 = m
    have hrange : 1 ≤ m ∧ m ≤ 12 := by omega
    refine ⟨hrange.1, hrange.2, ?_, ?_⟩
    · split <;> omega
    · repeat' split
      all_goals omega
  | false =>
    simp only [hleap, Bool.false_eq_true, if_false] at h ⊢
    generalize hbent : (if d < 59 then d else d + 2) = bent
    have hd : (d = bent ∧ d < 59) ∨ (d + 2 = bent ∧ 59 ≤ d) := by
      split at hbent <;> omega
    generalize hm : (12 * bent + 373) / 367 = m
    have hrange : 1 ≤ m ∧ m ≤ 12 := by omega
    refine ⟨hrange.1, hrange.2, ?_, ?_⟩
    · split <;> omega
    · repeat' split
      all_goals omega

/-! ## Dates -/

theorem proper_first {year month : Int} (h₁ : 1 ≤ month) (h₁₂ : month ≤ 12) :
    Proper ⟨year, month, 1⟩ := by
  have := (monthLength_bounds year month).1
  exact ⟨h₁, h₁₂, le_refl _, by dsimp only; omega⟩

theorem monthNumber_div_mod {d : Date} (h : Proper d) :
    d.monthNumber / 12 = d.year ∧ d.monthNumber % 12 + 1 = d.month := by
  obtain ⟨h₁, h₁₂, -, -⟩ := h
  unfold Date.monthNumber
  omega

theorem dayNumber_eq {d : Date} (h : Proper d) :
    d.dayNumber = monthStart d.monthNumber + d.day - 1 := by
  obtain ⟨hyear, hmonth⟩ := monthNumber_div_mod h
  unfold Date.dayNumber monthStart
  rw [hyear, hmonth]

theorem yearLength_eq (year : Int) :
    yearLength year = yearStart (year + 1) - yearStart year := by
  have := yearStart_succ year
  omega

theorem proper_ofDayNumber (n : Int) : Proper (Date.ofDayNumber n) := by
  obtain ⟨hle, hlt⟩ := yearStart_yearOf n
  have hlength := yearLength_eq (yearOf n)
  obtain ⟨h₁, h₁₂, hfirst, hlast⟩ :=
    daysBefore_monthOf (yearOf n) (n - yearStart (yearOf n)) (by omega)
  refine ⟨h₁, h₁₂, ?_, ?_⟩
  · change 1 ≤ n - yearStart (yearOf n) - _ + 1
    omega
  · change n - yearStart (yearOf n) - _ + 1 ≤
      monthLength (yearOf n) (monthOf (yearOf n) (n - yearStart (yearOf n)))
    omega

theorem dayNumber_ofDayNumber (n : Int) :
    (Date.ofDayNumber n).dayNumber = n := by
  unfold Date.dayNumber Date.ofDayNumber
  dsimp only
  omega

theorem monthNumber_eq_iff {d : Date} (h : Proper d) {k : Int} :
    d.monthNumber = k ↔ monthStart k ≤ d.dayNumber ∧
    d.dayNumber < monthStart (k + 1) := by
  have hday := dayNumber_eq h
  have hnext := monthStart_succ d.monthNumber
  obtain ⟨hyear, hmonth⟩ := monthNumber_div_mod h
  obtain ⟨-, -, h₁, hlast⟩ := h
  rw [hyear, hmonth] at hnext
  constructor
  · rintro rfl
    omega
  · rintro ⟨hle, hlt⟩
    have hk : k < d.monthNumber + 1 := monthStart_lt_iff.1 (by omega)
    have hd : d.monthNumber < k + 1 := monthStart_lt_iff.1 (by omega)
    omega

theorem ofDayNumber_dayNumber {d : Date} (h : Proper d) :
    Date.ofDayNumber d.dayNumber = d := by
  have hproper := proper_ofDayNumber d.dayNumber
  have hnumber := dayNumber_ofDayNumber d.dayNumber
  generalize Date.ofDayNumber d.dayNumber = e at hproper hnumber
  have hmonths : e.monthNumber = d.monthNumber := by
    rw [monthNumber_eq_iff hproper, hnumber, ← monthNumber_eq_iff h]
  have hday : e.day = d.day := by
    have he := dayNumber_eq hproper
    have hd := dayNumber_eq h
    rw [hmonths] at he
    omega
  obtain ⟨hyear, hmonth⟩ := monthNumber_div_mod h
  obtain ⟨hyear', hmonth'⟩ := monthNumber_div_mod hproper
  rw [hmonths] at hyear' hmonth'
  have hyears : e.year = d.year := by omega
  have hmonthEq : e.month = d.month := by omega
  cases d
  cases e
  simp_all only

end TimeWindow.Proofs.Calendar.Days

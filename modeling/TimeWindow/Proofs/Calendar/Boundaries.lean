import TimeWindow.Proofs.Calendar.Tilings
import Mathlib.Data.Int.ConditionallyCompleteOrder
import Mathlib.Data.Int.ModEq
import Mathlib.Order.Bounds.Basic

/-!
# Where units begin

Calendar and clock show of a reading whether a unit begins with it: by seconds
and minutes of zero, by midnight, by the first day of a month.  These boundaries
are the beginnings of the numbered units and of fiscal years and quarters, so
that every reading stands between two of them that are next to each other
(`around_unit`, `around_fiscal`).
-/

namespace TimeWindow.Proofs.Calendar.Boundaries

open TimeWindow.Calendar TimeWindow.DateMath Calendar.Days Calendar.Units
  Calendar.Tilings

/-! ## What calendar and clock show -/

def IsMonthBegin (w : Wall) : Prop := w.time = .midnight ∧ w.date.day = 1

def IsBoundary (weekStart : WeekStart) : CalendarUnit → Wall → Prop
  | .second, w => w.time.microsecond = 0
  | .minute, w => w.time.second = 0 ∧ w.time.microsecond = 0
  | .hour, w => w.time.minute = 0 ∧ w.time.second = 0 ∧ w.time.microsecond = 0
  | .day, w => w.time = .midnight
  | .week, w => w.time = .midnight ∧ w.weekday = weekStart.weekday
  | .month, w => IsMonthBegin w
  | .quarter, w =>
    IsMonthBegin w ∧ (w.date.month = 1 ∨ w.date.month = 4 ∨ w.date.month = 7 ∨
      w.date.month = 10)
  | .year, w => IsMonthBegin w ∧ w.date.month = 1

/-- A fiscal unit begins with the reading, the first month of the fiscal year
being counted from zero.  Only years and quarters have a fiscal form. -/
def IsFiscalBoundary (firstMonth : Int) : CalendarUnit → Wall → Prop
  | .year, w => IsMonthBegin w ∧ w.date.month = firstMonth + 1
  | .quarter, w => IsMonthBegin w ∧ w.date.month ≡ firstMonth + 1 [ZMOD 3]
  | _, _ => False

theorem wall_eq_iff {w v : Wall} : w = v ↔ w.ticks = v.ticks := by
  cases w
  cases v
  simp

/-- Of the readings with a property, `b` is the last one that is not after `w`,
and `n` is the first one after it. -/
structure Around (P : Wall → Prop) (w b n : Wall) : Prop where
  last : IsGreatest {t | P ⟨t⟩ ∧ t ≤ w.ticks} b.ticks
  next : IsLeast {t | P ⟨t⟩ ∧ w.ticks < t} n.ticks

namespace Around

variable {P : Wall → Prop} {w v b n b' n' : Wall}

theorem le (h : Around P w b n) : b.ticks ≤ w.ticks := h.last.1.2

theorem lt (h : Around P w b n) : w.ticks < n.ticks := h.next.1.2

theorem of_between (h : Around P w b n) (hle : b.ticks ≤ v.ticks)
    (hlt : v.ticks < n.ticks) : Around P v b n := by
  refine ⟨⟨⟨h.last.1.1, hle⟩, ?_⟩, ⟨⟨h.next.1.1, hlt⟩, ?_⟩⟩
  · rintro t ⟨ht, htv⟩
    -- a boundary after `w` would not be before `n`
    by_contra hbt
    rcases lt_or_ge w.ticks t with hwt | htw
    · have := h.next.2 ⟨ht, hwt⟩
      omega
    · exact hbt (h.last.2 ⟨ht, htw⟩)
  · rintro t ⟨ht, hvt⟩
    by_contra htn
    rcases lt_or_ge w.ticks t with hwt | htw
    · exact htn (h.next.2 ⟨ht, hwt⟩)
    · have := h.last.2 ⟨ht, htw⟩
      omega

theorem mono (h : Around P w b n) (h' : Around P v b' n')
    (hle : w.ticks ≤ v.ticks) :
    b.ticks ≤ b'.ticks ∧ n.ticks ≤ n'.ticks :=
  ⟨h'.last.2 ⟨h.last.1.1, h.le.trans hle⟩,
    h.next.2 ⟨h'.next.1.1, hle.trans_lt h'.lt⟩⟩

theorem unique (h : Around P w b n) (h' : Around P w b' n') : b' = b ∧ n' = n :=
  ⟨wall_eq_iff.2 (h'.last.unique h.last), wall_eq_iff.2 (h'.next.unique h.next)⟩

end Around

/-! ## Boundaries of a tiling -/

theorem around_of_tiling {T : Tiling} {P : Wall → Prop}
    (hmono : StrictMono fun k => (T.start k).ticks)
    (hP : ∀ v, P v ↔ ∃ k, v = T.start k) (w : Wall) :
    Around P w (T.start (T.index w)) (T.start (T.index w + 1)) := by
  refine ⟨⟨⟨(hP _).2 ⟨_, rfl⟩, T.start_index_le w⟩, ?_⟩,
    ⟨⟨(hP _).2 ⟨_, rfl⟩, T.lt_start_index_succ w⟩, ?_⟩⟩
  · rintro t ⟨ht, hle⟩
    obtain ⟨k, hk⟩ := (hP _).1 ht
    have hticks : (T.start k).ticks = t := by rw [← hk]
    have hlt : k < T.index w + 1 := hmono.lt_iff_lt.1 (by
      change (T.start k).ticks < _
      rw [hticks]
      exact hle.trans_lt (T.lt_start_index_succ w))
    have hstart := hmono.monotone (Int.lt_add_one_iff.1 hlt)
    exact hticks ▸ hstart
  · rintro t ⟨ht, hlt⟩
    obtain ⟨k, hk⟩ := (hP _).1 ht
    have hticks : (T.start k).ticks = t := by rw [← hk]
    have hindex : T.index w < k := hmono.lt_iff_lt.1 (by
      change _ < (T.start k).ticks
      rw [hticks]
      exact (T.start_index_le w).trans_lt hlt)
    have hstart := hmono.monotone (Int.add_one_le_iff.2 hindex)
    exact hticks ▸ hstart

/-- Periods begin with whole seconds, so that a millisecond does not lead from
one to the one before. -/
theorem start_le_last {T : Tiling}
    (hmono : StrictMono fun k => (T.start k).ticks) (k : Int) :
    (T.start k).ticks ≤ ((T.start (k + 1)).add (-lastMoment)).ticks := by
  have hlt : (T.start k).ticks < (T.start (k + 1)).ticks := hmono (lt_add_one k)
  have hwhole := T.start_mod_second k
  have hwhole' := T.start_mod_second (k + 1)
  unfold Calendar.second at hwhole hwhole'
  unfold lastMoment
  simp only [Wall.add]
  omega

/-! ## The clock -/

theorem isMidnight_iff {w : Wall} :
    w.time = .midnight ↔ w = ⟨w.dayNumber * day⟩ := by
  constructor
  · intro h
    refine wall_eq_iff.2 ?_
    have hhour := congrArg ClockTime.hour h
    have hminute := congrArg ClockTime.minute h
    have hsecond := congrArg ClockTime.second h
    have hmicro := congrArg ClockTime.microsecond h
    simp only [Wall.time, ClockTime.ofTicks, ClockTime.midnight,
      Wall.sinceMidnight] at hhour hminute hsecond hmicro
    unfold Wall.dayNumber
    unfold day Calendar.hour Calendar.minute Calendar.second at *
    dsimp only
    omega
  · intro h
    have hticks := congrArg Wall.ticks h
    have hmidnight : w.sinceMidnight = 0 := by
      unfold Wall.sinceMidnight
      unfold Wall.dayNumber at hticks
      unfold day Calendar.hour Calendar.minute Calendar.second at *
      dsimp only at hticks
      omega
    unfold Wall.time
    rw [hmidnight]
    rfl

theorem isMonthBegin_iff {w : Wall} :
    IsMonthBegin w ↔ w = ⟨monthStart w.date.monthNumber * day⟩ := by
  have hnumber := dayNumber_eq (date_proper w)
  rw [dayNumber_date] at hnumber
  constructor
  · rintro ⟨hmidnight, hfirst⟩
    have hday : w.dayNumber = monthStart w.date.monthNumber := by omega
    calc w = ⟨w.dayNumber * day⟩ := isMidnight_iff.1 hmidnight
      _ = ⟨monthStart w.date.monthNumber * day⟩ := by rw [hday]
  · intro h
    have hday : w.dayNumber = monthStart w.date.monthNumber := by
      have hticks := congrArg Wall.ticks h
      dsimp only at hticks
      rw [dayNumber_eq_iff, add_mul]
      unfold day Calendar.hour Calendar.minute Calendar.second at *
      omega
    refine ⟨isMidnight_iff.2 ?_, by omega⟩
    rw [hday]
    exact h

theorem monthBegin_iff (q : Int → Prop) {w : Wall} :
    IsMonthBegin w ∧ q w.date.month ↔ ∃ k, q (k % 12 + 1) ∧
    w = ⟨monthStart k * day⟩ := by
  constructor
  · rintro ⟨hbegin, hq⟩
    refine ⟨w.date.monthNumber, ?_, isMonthBegin_iff.1 hbegin⟩
    rw [(monthNumber_div_mod (date_proper w)).2]
    exact hq
  · rintro ⟨k, hq, hw⟩
    have hnumber : w.date.monthNumber = k := by rw [hw, monthNumber_monthStart]
    refine ⟨isMonthBegin_iff.2 (by rw [hnumber]; exact hw), ?_⟩
    rw [← (monthNumber_div_mod (date_proper w)).2, hnumber]
    exact hq

/-! ## Units -/

theorem unitStart_strictMono (weekStart : WeekStart) (unit : CalendarUnit) :
    StrictMono fun k => (unitStart weekStart k unit).ticks := by
  intro j k hjk
  have hmonths :
      ∀ {a b : Int}, a < b → monthStart a * day < monthStart b * day := by
    intro a b hab
    have := monthStart_lt_iff.2 hab
    unfold day Calendar.hour Calendar.minute Calendar.second
    omega
  cases unit with
  | year =>
    simp only [unitStart, ← monthStart_january]
    exact hmonths (by omega)
  | quarter => exact hmonths (by omega)
  | month => exact hmonths hjk
  | week | day | hour | minute | second =>
    simp only [unitStart, day, Calendar.hour, Calendar.minute, Calendar.second]
    omega

theorem eq_unitStart_iff {weekStart : WeekStart} {unit : CalendarUnit}
    {w : Wall} :
    (∃ k, w = unitStart weekStart k unit) ↔
    w = unitStart weekStart (unitIndex weekStart w unit) unit := by
  constructor
  · rintro ⟨k, rfl⟩
    have hindex : unitIndex weekStart (unitStart weekStart k unit) unit = k :=
      unitIndex_eq_iff.2
        ⟨le_refl _, unitStart_strictMono weekStart unit (lt_add_one k)⟩
    rw [hindex]
  · intro h
    exact ⟨_, h⟩

theorem isBoundary_iff {weekStart : WeekStart} {unit : CalendarUnit}
    {w : Wall} :
    IsBoundary weekStart unit w ↔ ∃ k, w = unitStart weekStart k unit := by
  cases unit with
  | year =>
    change IsMonthBegin w ∧ w.date.month = 1 ↔ ∃ k, w = ⟨yearStart k * day⟩
    simp only [monthBegin_iff (· = 1), ← monthStart_january]
    constructor
    · rintro ⟨k, hk, rfl⟩
      exact ⟨k / 12, by rw [show 12 * (k / 12) = k by omega]⟩
    · rintro ⟨k, rfl⟩
      exact ⟨12 * k, by omega, rfl⟩
  | quarter =>
    change IsMonthBegin w ∧ (w.date.month = 1 ∨ w.date.month = 4 ∨
      w.date.month = 7 ∨ w.date.month = 10) ↔
      ∃ k, w = ⟨monthStart (3 * k) * day⟩
    rw [monthBegin_iff (fun m => m = 1 ∨ m = 4 ∨ m = 7 ∨ m = 10)]
    constructor
    · rintro ⟨k, hk, rfl⟩
      exact ⟨k / 3, by rw [show 3 * (k / 3) = k by omega]⟩
    · rintro ⟨k, rfl⟩
      exact ⟨3 * k, by omega, rfl⟩
  | month =>
    change IsMonthBegin w ↔ ∃ k, w = ⟨monthStart k * day⟩
    have hbegin := monthBegin_iff (fun _ => True) (w := w)
    simpa only [and_true, true_and] using hbegin
  | week =>
    change w.time = .midnight ∧ w.weekday = weekStart.weekday ↔
      ∃ k, w = ⟨(7 * k + weekStart.weekday) * day⟩
    rw [isMidnight_iff]
    constructor
    · rintro ⟨hmidnight, hday⟩
      refine ⟨(w.dayNumber - weekStart.weekday) / 7, ?_⟩
      unfold Wall.weekday at hday
      have hnumber : 7 * ((w.dayNumber - weekStart.weekday) / 7) +
          weekStart.weekday = w.dayNumber := by omega
      rw [hnumber]
      exact hmidnight
    · rintro ⟨k, rfl⟩
      have hnumber :
          (Wall.mk ((7 * k + weekStart.weekday) * day)).dayNumber =
            7 * k + weekStart.weekday := by
        unfold Wall.dayNumber day Calendar.hour Calendar.minute Calendar.second
        dsimp only
        omega
      refine ⟨by rw [hnumber], ?_⟩
      unfold Wall.weekday
      rw [hnumber]
      cases weekStart <;> simp only [WeekStart.weekday] <;> omega
  | day =>
    change w.time = .midnight ↔ ∃ k, w = ⟨k * day⟩
    rw [isMidnight_iff]
    constructor
    · intro h
      exact ⟨_, h⟩
    · rintro ⟨k, rfl⟩
      have hnumber : (Wall.mk (k * day)).dayNumber = k := by
        unfold Wall.dayNumber day Calendar.hour Calendar.minute Calendar.second
        dsimp only
        omega
      rw [hnumber]
  | hour | minute | second =>
    -- the day is a whole number of hours, minutes and seconds
    rw [eq_unitStart_iff, wall_eq_iff]
    simp only [IsBoundary, unitStart, unitIndex, Wall.time, ClockTime.ofTicks,
      Wall.sinceMidnight]
    unfold day Calendar.hour Calendar.minute Calendar.second
    omega

theorem around_unit (weekStart : WeekStart) (unit : CalendarUnit) (w : Wall) :
    Around (IsBoundary weekStart unit) w
      (unitStart weekStart (unitIndex weekStart w unit) unit)
      (unitStart weekStart (unitIndex weekStart w unit + 1) unit) :=
  around_of_tiling (T := .ofUnit weekStart unit)
    (unitStart_strictMono weekStart unit)
    (fun _ => isBoundary_iff) w

theorem unitStart_le_last (weekStart : WeekStart) (unit : CalendarUnit)
    (k : Int) :
    (unitStart weekStart k unit).ticks ≤
      ((unitStart weekStart (k + 1) unit).add (-lastMoment)).ticks :=
  start_le_last (T := .ofUnit weekStart unit)
    (unitStart_strictMono weekStart unit) k

/-! ## Fiscal years and quarters -/

theorem isFiscalBoundary_iff {firstMonth months : Int} {unit : CalendarUnit}
    (hmonths : fiscalMonths? unit = some months)
    (hfirst : 0 ≤ firstMonth ∧ firstMonth ≤ 11) {w : Wall} :
    IsFiscalBoundary firstMonth unit w ↔
    ∃ k, w = ⟨monthStart (months * k + firstMonth) * day⟩ := by
  cases unit with
  | year =>
    cases hmonths
    change IsMonthBegin w ∧ w.date.month = firstMonth + 1 ↔ _
    rw [monthBegin_iff (· = firstMonth + 1)]
    constructor
    · rintro ⟨k, hk, rfl⟩
      exact ⟨k / 12, by rw [show 12 * (k / 12) + firstMonth = k by omega]⟩
    · rintro ⟨k, rfl⟩
      exact ⟨12 * k + firstMonth, by omega, rfl⟩
  | quarter =>
    cases hmonths
    change IsMonthBegin w ∧ w.date.month % 3 = (firstMonth + 1) % 3 ↔ _
    rw [monthBegin_iff (fun m => m % 3 = (firstMonth + 1) % 3)]
    constructor
    · rintro ⟨k, hk, rfl⟩
      exact ⟨(k - firstMonth) /
        3, by rw [show 3 * ((k - firstMonth) / 3) + firstMonth = k by omega]⟩
    · rintro ⟨k, rfl⟩
      exact ⟨3 * k + firstMonth, by omega, rfl⟩
  | _ => cases hmonths

theorem monthRun_strictMono (first : Int) {months : Int} (hpos : 0 < months) :
    StrictMono fun k => ((Tiling.ofMonths first months hpos).start k).ticks := by
  intro j k hjk
  have hrun : months * j + first < months * k + first := by
    have := Int.mul_lt_mul_of_pos_left hjk hpos
    omega
  have hstart := monthStart_lt_iff.2 hrun
  change monthStart _ * day < monthStart _ * day
  unfold day Calendar.hour Calendar.minute Calendar.second
  omega

theorem around_fiscal {firstMonth months : Int} {unit : CalendarUnit}
    (hmonths : fiscalMonths? unit = some months)
    (hfirst : 0 ≤ firstMonth ∧ firstMonth ≤ 11) (hpos : 0 < months) (w : Wall) :
    Around (IsFiscalBoundary firstMonth unit) w
      ((Tiling.ofMonths firstMonth months hpos).start
        ((Tiling.ofMonths firstMonth months hpos).index w))
      ((Tiling.ofMonths firstMonth months hpos).start
        ((Tiling.ofMonths firstMonth months hpos).index w + 1)) :=
  around_of_tiling (monthRun_strictMono firstMonth hpos) (fun _ =>
    isFiscalBoundary_iff hmonths hfirst) w

end TimeWindow.Proofs.Calendar.Boundaries

import TimeWindow.Proofs.DateMath.Rounding

/-!
# Rounding to fiscal boundaries

Fiscal years and quarters are rounded to as exactly as plain ones are
(`fiscal_rounding_exact`): the months that are counted back lead to the month in
which the fiscal unit began, and the last of its months ends where the next one
begins, whatever day of the month it is.
-/

namespace TimeWindow.Proofs.DateMath.FiscalRounding

open TimeWindow.DateMath TimeWindow.Calendar Calendar.Days Calendar.Months
  Calendar.Units Calendar.Tilings Calendar.Boundaries Zone.Conversion
  Zone.Steady Zone.Naming DateMath.Steady DateMath.Periods DateMath.Rounding
  Outcome

def IsFiscal (unit : CalendarUnit) : Prop := unit = .year ∨ unit = .quarter

/-- The instant is rounded to the fiscal boundary `b`, and to a millisecond
before `n`. -/
structure RoundsToFiscal (z : Zone) (firstMonth : Int) (unit : CalendarUnit)
    (i : Instant) (b n : Wall) : Prop where
  start : roundToFiscal firstMonth i unit false z = .ok (shown z b)
  stop : roundToFiscal firstMonth i unit true z =
    .ok (shown z (n.add (-millisecond)))

theorem IsFiscal.months {unit : CalendarUnit} (h : IsFiscal unit) :
    ∃ months, fiscalMonths? unit = some months ∧ 0 < months ∧
      12 % months = 0 := by
  rcases h with rfl | rfl
  · exact ⟨12, rfl, by decide, rfl⟩
  · exact ⟨3, rfl, by decide, rfl⟩

/-! ## The months of a fiscal unit -/

section

variable {z : Zone} (hsteady : z.isConstant = true)

include hsteady

theorem shift_months {i : Instant} {w : Wall} {n : Int}
    (hi : i.toZone z = .ok (shown z w))
    (h : 12 ≤ w.date.monthNumber + n ∧ w.date.monthNumber + n < 120000) :
    ∃ v, shift i n .month z = .ok (shown z v) ∧
      v.date.monthNumber = w.date.monthNumber + n := by
  have hmoved : w.addUnits n .month = .ok _ := addMonths_eq_ok_iff.2 ⟨h, rfl⟩
  exact ⟨_,
    bind_eq_ok.2 ⟨_, hi, bind_eq_ok.2 ⟨_, hmoved, localize_steady hsteady _⟩⟩,
    monthNumber_addMonths hmoved⟩

theorem fiscalStart_exact {firstMonth months k : Int} {i : Instant} {w : Wall}
    (hyear : 12 % months = 0)
    (hk : (w.date.monthNumber - firstMonth) / months = k)
    (hi : i.toZone z = .ok (shown z w))
    (hb : (Wall.mk (monthStart (months * k + firstMonth) * day)).inRange = true) :
    fiscalStart firstMonth i months z =
      .ok (shown z ⟨monthStart (months * k + firstMonth) * day⟩) := by
  have hback := monthNumber_back w firstMonth hyear
  rw [hk] at hback
  obtain ⟨v, hv, hnumber⟩ :=
    shift_months hsteady hi (hback ▸ monthStart_inRange_iff.1 hb)
  have hmonth : unitStart .sunday (unitIndex .sunday v .month) .month =
      ⟨monthStart (months * k + firstMonth) * day⟩ := by
    change Wall.mk (monthStart v.date.monthNumber * day) = _
    rw [hnumber, hback]
  have hstart : startOf (shown z v) .month z (some .sunday) = _ :=
    startOf_exact hsteady (toZone_shown z v) (hmonth ▸ hb)
  rw [hmonth] at hstart
  exact bind_eq_ok.2 ⟨_, hi, bind_eq_ok.2 ⟨_, hv, hstart⟩⟩

theorem endOf_lastMonth (hsane : z.Sane) {months first : Int}
    (hpos : 0 < months) (hb : Holds z ⟨monthStart first * day⟩)
    (hn : Holds z ⟨monthStart (first + months) * day⟩) :
    (do
      let lastMonth ← shift (shown z ⟨monthStart first * day⟩) (months - 1)
        .month z
      endOf lastMonth .month z (some .sunday)) =
        .ok (shown z
          ((Wall.mk (monthStart (first + months) * day)).add (-lastMoment))) := by
  have hfirst := monthStart_inRange_iff.1 hb.here
  have hnext := monthStart_inRange_iff.1 hn.here
  obtain ⟨v, hv, hnumber⟩ := shift_months (n := months - 1) hsteady
    (toZone_shown z ⟨monthStart first * day⟩) (by
    rw [monthNumber_monthStart]
    omega)
  rw [monthNumber_monthStart] at hnumber
  have hlast :
      unitStart .sunday (unitIndex .sunday v .month) .month =
        ⟨monthStart (first + months - 1) * day⟩ := by
    change Wall.mk (monthStart v.date.monthNumber * day) = _
    rw [hnumber, add_sub_assoc]
  have hend :
      unitStart .sunday (unitIndex .sunday v .month + 1) .month =
        ⟨monthStart (first + months) * day⟩ := by
    change Wall.mk (monthStart (v.date.monthNumber + 1) * day) = _
    rw [hnumber, show first + (months - 1) + 1 = first + months by omega]
  have hbetween : Holds z ⟨monthStart (first + months - 1) * day⟩ := by
    have hle : monthStart first ≤ monthStart (first + months - 1) :=
      monthStart_le_iff.2 (by omega)
    have hle' : monthStart (first + months - 1) ≤ monthStart (first + months) :=
      monthStart_le_iff.2 (by omega)
    unfold day Calendar.hour Calendar.minute Calendar.second at *
    exact hb.between hn (by dsimp only; omega) (by dsimp only; omega)
  have hround : endOf (shown z v) .month z (some .sunday) = _ :=
    endOf_exact hsteady hsane (toZone_shown z v) (hlast ▸ hbetween) (hend ▸ hn)
  rw [hend] at hround
  exact bind_eq_ok.2 ⟨_, hv, hround⟩

theorem roundsToFiscal_of_around (hsane : z.Sane) {firstMonth : Int}
    (hfirst : 0 ≤ firstMonth ∧ firstMonth ≤ 11) {unit : CalendarUnit}
    (hunit : IsFiscal unit) {i : Instant} {b n : Wall} (hi : IsAware i)
    (h : Around (IsFiscalBoundary firstMonth unit) (reading z i) b n)
    (hb : Holds z b) (hn : Holds z n) :
    RoundsToFiscal z firstMonth unit i b n := by
  obtain ⟨months, hmonths, hpos, hyear⟩ := hunit.months
  have hzone := toZone_reading hsteady hi (hb.between hn h.le h.lt.le)
  obtain ⟨rfl, rfl⟩ := (around_fiscal hmonths hfirst hpos (reading z i)).unique h
  generalize hk :
    (Tiling.ofMonths firstMonth months hpos).index (reading z i) = k at *
  have hstart := fiscalStart_exact hsteady hyear hk hzone hb.here
  have hnext : months * k + firstMonth + months =
      months * (k + 1) + firstMonth := by ring
  have hend := endOf_lastMonth hsteady hsane hpos hb (hnext ▸ hn)
  rw [hnext] at hend
  constructor
  · unfold roundToFiscal
    rw [hmonths]
    exact bind_eq_ok.2 ⟨_, hstart, rfl⟩
  · unfold roundToFiscal
    rw [hmonths]
    exact bind_eq_ok.2 ⟨_, hstart, hend⟩

end

/-! ## Fiscal and plain boundaries -/

theorem isFiscalBoundary_year {firstMonth : Int} {w : Wall}
    (h : IsFiscalBoundary firstMonth .year w) :
    IsFiscalBoundary firstMonth .quarter w := by
  obtain ⟨hbegin, hmonth⟩ := h
  exact ⟨hbegin, by rw [hmonth]⟩

theorem isFiscalBoundary_january {unit : CalendarUnit} (hunit : IsFiscal unit)
    (weekStart : WeekStart) (w : Wall) :
    IsFiscalBoundary 0 unit w ↔ IsBoundary weekStart unit w := by
  rcases hunit with rfl | rfl
  · exact Iff.rfl
  · refine and_congr_right fun _ => ?_
    obtain ⟨hlow, hhigh, -, -⟩ := date_proper w
    change w.date.month % 3 = (0 + 1) % 3 ↔ _
    omega

/-- **Fiscal rounding is exact in zones of one offset.**  Around every reading
there are two boundaries of the fiscal years, and two of the fiscal quarters.
As long as the calendar holds them, an instant with this reading is rounded to
the one before and to a millisecond before the one after; with January for the
first month, plain rounding leads to the same two.  Every fiscal year begins
with a fiscal quarter. -/
theorem fiscal_rounding_exact {z : Zone} (hsteady : z.isConstant = true)
    (hsane : z.Sane) {firstMonth : Int}
    (hfirst : 0 ≤ firstMonth ∧ firstMonth ≤ 11) :
    (∀ unit, IsFiscal unit →
      ∀ w, ∃ b n, Around (IsFiscalBoundary firstMonth unit) w b n) ∧
    (∀ unit i b n, IsFiscal unit → IsAware i →
      Around (IsFiscalBoundary firstMonth unit) (reading z i) b n →
      Holds z b → Holds z n →
      RoundsToFiscal z firstMonth unit i b n ∧
      (firstMonth = 0 → ∀ weekStart, RoundsTo z weekStart unit i b n)) ∧
    (∀ w, IsFiscalBoundary firstMonth .year w →
      IsFiscalBoundary firstMonth .quarter w) := by
  refine ⟨?_, ?_, fun w => isFiscalBoundary_year⟩
  · intro unit hunit w
    obtain ⟨months, hmonths, hpos, -⟩ := hunit.months
    exact ⟨_, _, around_fiscal hmonths hfirst hpos w⟩
  · intro unit i b n hunit hi h hb hn
    refine ⟨roundsToFiscal_of_around hsteady hsane hfirst hunit hi h hb hn, ?_⟩
    rintro rfl weekStart
    have hplain : IsFiscalBoundary 0 unit = IsBoundary weekStart unit :=
      funext fun w => propext (isFiscalBoundary_january hunit weekStart w)
    exact roundsTo_of_around hsteady hsane hi (hplain ▸ h) hb hn

/-- By a clock five hours west of UTC it is still the last day of March, which
February does not have; with November for the first month of the year the
quarter began there. -/
theorem fiscal_rounding_exact_february :
    RoundsToFiscal (Zone.west 5) 10 .quarter
      (.ofUtc (.onDate ⟨2024, 4, 1⟩ (3 * Calendar.hour)))
      (.onDate ⟨2024, 2, 1⟩ 0) (.onDate ⟨2024, 5, 1⟩ 0) := by
  have hpos : (0 : Int) < 3 := by decide
  have hnovember : (0 : Int) ≤ 10 ∧ (10 : Int) ≤ 11 := by decide
  have haround : Around (IsFiscalBoundary 10 .quarter)
      (reading (Zone.west 5) (.ofUtc (.onDate ⟨2024, 4, 1⟩ (3 * Calendar.hour))))
      (.onDate ⟨2024, 2, 1⟩ 0) (.onDate ⟨2024, 5, 1⟩ 0) :=
    around_fiscal rfl hnovember hpos _
  exact ((fiscal_rounding_exact rfl (by decide) hnovember).2.1
    _ _ _ _ (.inr rfl) (by decide) haround
    ⟨by decide, by decide⟩ ⟨by decide, by decide⟩).1

end TimeWindow.Proofs.DateMath.FiscalRounding

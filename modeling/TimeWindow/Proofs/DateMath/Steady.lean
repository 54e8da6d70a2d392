import TimeWindow.DateMath.Expression
import TimeWindow.Proofs.Calendar.Tilings
import TimeWindow.Proofs.DateMath.Shift
import TimeWindow.Proofs.Zone.Steady

/-!
# Steps in a zone of one offset

`Moves` says what a step does to the reading of a clock that is never put
forward or back: units are added to it, or it is rounded in a tiling.  Steps of
date math do nothing else in such a zone (`apply_shown`), so that what follows
of rounded readings never has to look at instants again.
-/

namespace TimeWindow.Proofs.DateMath.Steady

open TimeWindow.DateMath Calendar.Days Calendar.Units Calendar.Tilings
  Zone.Conversion Zone.Steady DateMath.Shift Outcome

inductive Moves (rules : Rules) (weekStart : WeekStart) :
    Step → Wall → Wall → Prop where
  | shift {amount : Int} {unit : CalendarUnit} {w v : Wall}
      (h : w.addUnits amount unit = .ok v) :
      Moves rules weekStart (.shift amount unit) w v
  | round {fiscal : Bool} {unit : CalendarUnit} {T : Tiling} {w : Wall}
      (hT : tiling? rules.fiscalStart weekStart fiscal unit = some T) :
      Moves rules weekStart (.round fiscal unit) w (T.round rules.roundUp w)
  | idle {fiscal : Bool} {unit : CalendarUnit} {w : Wall}
      (hT : tiling? rules.fiscalStart weekStart fiscal unit = none) :
      Moves rules weekStart (.round fiscal unit) w w

theorem addUnits_of_length {unit : CalendarUnit} {length : Int}
    (hlength : unit.length? = some length) (w : Wall) (amount : Int) :
    w.addUnits amount unit = (w.add (amount * length)).checked := by
  cases unit <;> cases hlength <;> rfl

theorem monthNumber_back (w : Wall) (firstMonth : Int) {months : Int}
    (hyear : 12 % months = 0) :
    w.date.monthNumber + -((w.date.month - 1 - firstMonth + months) % months) =
      months * ((w.date.monthNumber - firstMonth) / months) + firstMonth := by
  obtain ⟨part, hpart⟩ := Int.dvd_of_emod_eq_zero hyear
  have hback : (w.date.month - 1 - firstMonth + months) % months =
      (w.date.monthNumber - firstMonth) % months := by
    have hsplit : w.date.monthNumber - firstMonth =
        w.date.month - 1 - firstMonth + months +
          months * (part * w.date.year - 1) := by
      unfold Date.monthNumber
      rw [hpart]
      ring
    rw [hsplit, Int.add_mul_emod_self_left]
  have hdiv := Int.mul_ediv_add_emod (w.date.monthNumber - firstMonth) months
  rw [hback]
  omega

section

variable {z : Zone} (hsteady : z.isConstant = true)

include hsteady

/-! ## Shifts -/

theorem shift_shown {w : Wall} {amount : Int} {unit : CalendarUnit}
    {j : Instant} (h : shift (shown z w) amount unit z = .ok j) :
    ∃ v, w.addUnits amount unit = .ok v ∧ j = shown z v := by
  unfold shift at h
  cases hlength : unit.length? with
  | some length =>
    rw [hlength] at h
    obtain ⟨u, hu, h⟩ := bind_eq_ok.1 h
    obtain ⟨moved, hmoved, h⟩ := bind_eq_ok.1 h
    obtain ⟨-, rfl, -⟩ := toUtc_eq_ok.1 hu
    obtain ⟨rfl, -⟩ := Wall.checked_eq_ok.1 hmoved
    obtain ⟨-, hrange⟩ := ofUtc_eq_ok.1 h
    have hj := ofUtc_steady hsteady h
    have hticks : ((Wall.mk (shown z w).utcTicks).add (amount * length)).add
        (z.base.offset * Calendar.second) = w.add (amount * length) := by
      rw [utcTicks_shown]
      simp only [Wall.add]
      congr 1
      omega
    rw [hticks] at hj
    subst hj
    refine ⟨_, ?_, rfl⟩
    rw [addUnits_of_length hlength]
    exact Wall.checked_eq_ok.2 ⟨rfl, hrange⟩
  | none =>
    rw [hlength] at h
    obtain ⟨here, hhere, hmove⟩ := bind_eq_ok.1 h
    obtain ⟨moved, hmoved, hplace⟩ := bind_eq_ok.1 hmove
    rw [toZone_shown] at hhere
    cases hhere
    rw [localize_steady hsteady] at hplace
    cases hplace
    exact ⟨moved, hmoved, rfl⟩

/-! ## Roundings -/

theorem startOf_shown {w : Wall} {unit : CalendarUnit} {weekStart : WeekStart}
    {j : Instant} (h : startOf (shown z w) unit z (some weekStart) = .ok j) :
    j = shown z (unitStart weekStart (unitIndex weekStart w unit) unit) := by
  have hwall := startOf_wall (toZone_shown z w) h
  unfold startOf at h
  obtain ⟨here, -, h⟩ := bind_eq_ok.1 h
  obtain ⟨start, -, h⟩ := bind_eq_ok.1 h
  rw [localize_steady hsteady] at h
  cases h
  simp only [wall_shown] at hwall
  rw [hwall]

theorem endOf_shown {w : Wall} {unit : CalendarUnit} {weekStart : WeekStart}
    {j : Instant} (h : endOf (shown z w) unit z (some weekStart) = .ok j) :
    j = shown z ((unitStart weekStart (unitIndex weekStart w unit + 1) unit).add
      (-lastMoment)) := by
  unfold endOf at h
  obtain ⟨start, hstart, h⟩ := bind_eq_ok.1 h
  obtain ⟨next, hnext, h⟩ := bind_eq_ok.1 h
  obtain ⟨u, hu, h⟩ := bind_eq_ok.1 h
  obtain ⟨last, hlast, h⟩ := bind_eq_ok.1 h
  rw [startOf_shown hsteady hstart] at hnext
  obtain ⟨v, hv, rfl⟩ := shift_shown hsteady hnext
  obtain ⟨-, rfl, -⟩ := toUtc_eq_ok.1 hu
  obtain ⟨rfl, -⟩ := Wall.checked_eq_ok.1 hlast
  have hfirst :
      v = unitStart weekStart (unitIndex weekStart w unit + 1) unit := by
    have hmoved :=
      @addUnits_unitStart weekStart unit (unitIndex weekStart w unit) 1 0 v
      (le_refl 0) (by decide)
    simp only [add_zero] at hmoved
    exact hmoved hv
  rw [ofUtc_steady hsteady h, utcTicks_shown, hfirst]
  congr 1
  simp only [Wall.add]
  congr 1
  omega

/-- A fiscal unit of `months` months, a part of the year, begins with the first
day of the month in which its run of months does. -/
theorem fiscalStart_shown {w : Wall} {firstMonth months : Int} {j : Instant}
    (hpos : 0 < months) (hyear : 12 % months = 0)
    (h : fiscalStart firstMonth (shown z w) months z = .ok j) :
    j = shown z ((Tiling.ofMonths firstMonth months hpos).round false w) := by
  unfold fiscalStart at h
  obtain ⟨here, hhere, h⟩ := bind_eq_ok.1 h
  obtain ⟨moved, hmoved, h⟩ := bind_eq_ok.1 h
  rw [toZone_shown] at hhere
  cases hhere
  obtain ⟨v, hv, rfl⟩ := shift_shown hsteady hmoved
  rw [startOf_shown hsteady h]
  have hmonths : v.date.monthNumber =
      months * ((w.date.monthNumber - firstMonth) / months) + firstMonth := by
    rw [monthNumber_addMonths hv, wall_shown, monthNumber_back w firstMonth hyear]
  change shown z ⟨monthStart v.date.monthNumber * Calendar.day⟩ =
    shown z ⟨monthStart (months * ((w.date.monthNumber - firstMonth) / months) +
      firstMonth) * Calendar.day⟩
  rw [hmonths]

theorem roundToFiscal_shown {w : Wall} {firstMonth months : Int}
    {unit : CalendarUnit} {roundUp : Bool} {j : Instant}
    (hmonths : fiscalMonths? unit = some months) (hpos : 0 < months)
    (hyear : 12 % months = 0)
    (h : roundToFiscal firstMonth (shown z w) unit roundUp z = .ok j) :
    j = shown z ((Tiling.ofMonths firstMonth months hpos).round roundUp w) := by
  unfold roundToFiscal at h
  rw [hmonths] at h
  obtain ⟨start, hstart, h⟩ := bind_eq_ok.1 h
  have hfirst := fiscalStart_shown hsteady hpos hyear hstart
  cases roundUp with
  | false =>
    rw [if_neg Bool.false_ne_true, pure_eq_ok] at h
    rw [← h, hfirst]
  | true =>
    rw [if_pos rfl, hfirst] at h
    obtain ⟨lastMonth, hlast, h⟩ := bind_eq_ok.1 h
    obtain ⟨v, hv, rfl⟩ := shift_shown hsteady hlast
    rw [endOf_shown hsteady h]
    have hnumber := monthNumber_addMonths hv
    generalize hk : (w.date.monthNumber - firstMonth) / months = k at *
    have hbegins : (Tiling.ofMonths firstMonth months hpos).round false w =
        ⟨monthStart (months * k + firstMonth) * Calendar.day⟩ := by
      rw [← hk]
      rfl
    rw [hbegins, monthNumber_monthStart] at hnumber
    have hnext : v.date.monthNumber + 1 = months * (k + 1) + firstMonth := by
      rw [hnumber]
      ring
    change shown z
      ((Wall.mk (monthStart (v.date.monthNumber + 1) * Calendar.day)).add
      (-lastMoment)) =
      shown z ((Wall.mk
        (monthStart (months * ((w.date.monthNumber - firstMonth) / months + 1) +
        firstMonth) * Calendar.day)).add (-lastMoment))
    rw [hk, hnext]

theorem reference_shown {p : Present} {i : Instant}
    (h : p.reference z = .ok i) :
    i = shown z i.wall :=
  momentToZone_steady hsteady h

end

/-- **A step moves the reading.**  Whatever a step leads to, from an instant of
a zone of one offset, is the instant that shows the reading to which the step
moves. -/
theorem apply_shown {rules : Rules} {weekStart : WeekStart} {step : Step}
    {w : Wall} {j : Instant}
    (h : step.apply rules (shown rules.zone w) = .ok j)
    (hsteady : rules.zone.isConstant = true)
    (hweek : rules.weekStart = some weekStart) :
    ∃ v, j = shown rules.zone v ∧ Moves rules weekStart step w v := by
  cases step with
  | shift amount unit =>
    obtain ⟨v, hv, rfl⟩ := shift_shown hsteady h
    exact ⟨v, rfl, .shift hv⟩
  | round fiscal unit =>
    cases fiscal with
    | false =>
      change (if rules.roundUp then
        endOf (shown rules.zone w) unit rules.zone rules.weekStart else startOf
        (shown rules.zone w) unit rules.zone rules.weekStart) = _ at h
      rw [hweek] at h
      refine ⟨_, ?_, .round rfl⟩
      cases hup : rules.roundUp with
      | true =>
        rw [if_pos hup] at h
        exact endOf_shown hsteady h
      | false =>
        rw [if_neg (by simp [hup])] at h
        exact startOf_shown hsteady h
    | true =>
      change roundToFiscal rules.fiscalStart (shown rules.zone w) unit
        rules.roundUp rules.zone = _ at h
      cases unit with
      | year =>
        exact ⟨_, roundToFiscal_shown hsteady rfl (by decide) rfl h, .round rfl⟩
      | quarter =>
        exact ⟨_, roundToFiscal_shown hsteady rfl (by decide) rfl h, .round rfl⟩
      | _ =>
        cases h
        exact ⟨w, rfl, .idle rfl⟩

end TimeWindow.Proofs.DateMath.Steady

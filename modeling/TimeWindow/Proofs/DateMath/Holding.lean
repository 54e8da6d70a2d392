import TimeWindow.Proofs.Calendar.Months
import TimeWindow.Proofs.DateMath.Evaluation
import TimeWindow.Proofs.Zone.Settling

/-!
# Instants that a zone holds

Whatever a zone gives, and whatever date math makes of it, shows a wall time of
the calendar and carries one of the zone's periods (`evaluate_held`).
-/

namespace TimeWindow.Proofs.DateMath.Holding

open TimeWindow.DateMath TimeWindow.Calendar Outcome Calendar.Days
  Calendar.Months Calendar.Units Zone.Conversion Zone.Settling Evaluation

structure Held (z : Zone) (i : Instant) : Prop where
  inRange : i.wall.inRange = true
  carries : Carries z i

variable {z : Zone} {i : Instant}

/-! ## Placing -/

theorem localize_held {w : Wall} (hw : w.inRange = true) :
    Gives (Held z) (z.localize w) := by
  intro i h
  exact ⟨by rw [localize_wall h]; exact hw, localize_carries h⟩

theorem ofUtc_held (z : Zone) (u : Wall) : Gives (Held z) (z.ofUtc u) := by
  intro i h
  exact ⟨(ofUtc_eq_ok.1 h).2, ofUtc_carries h⟩

theorem toZone_held (hi : i.wall.inRange = true) :
    Gives (Held z) (i.toZone z) := by
  intro j h
  refine ⟨?_, toZone_carries h⟩
  unfold Instant.toZone at h
  split at h
  · cases h
    exact hi
  · obtain ⟨u, -, hj⟩ := bind_eq_ok.1 h
    exact (ofUtc_eq_ok.1 hj).2

theorem momentToZone_held {m : Moment} (hm : m.wall.inRange = true) :
    Gives (Held z) (m.toZone z) := by
  cases m with
  | plain w => exact localize_held hm
  | fixed i => exact toZone_held hm

theorem checked_inRange (w : Wall) :
    Gives (fun v => v.inRange = true) w.checked := by
  intro v h
  obtain ⟨rfl, hv⟩ := Wall.checked_eq_ok.1 h
  exact hv

theorem onDate_inRange {d : Date} (hd : Proper d)
    (hyear : 1 ≤ d.year ∧ d.year ≤ 9999) {t : Int} (ht : 0 ≤ t ∧ t < day) :
    (Wall.onDate d t).inRange = true := by
  have hmonths : 12 * 1 ≤ d.monthNumber ∧ d.monthNumber + 1 ≤ 12 * 10000 := by
    obtain ⟨h₁, h₁₂, -, -⟩ := hd
    unfold Date.monthNumber
    omega
  obtain ⟨hfirst, hlast⟩ := (monthNumber_eq_iff hd).1 rfl
  have hlow : 0 ≤ d.dayNumber := by
    have hle := monthStart_le_iff.2 hmonths.1
    rw [monthStart_january] at hle
    exact le_trans hle hfirst
  have hhigh : d.dayNumber < 3652059 := by
    have hle := monthStart_le_iff.2 hmonths.2
    rw [monthStart_january] at hle
    exact lt_of_lt_of_le hlast hle
  rw [inRange_iff]
  unfold Wall.onDate
  unfold ending day hour minute second at *
  dsimp only
  omega

theorem of?_inRange {d : Date} {c : ClockTime} {w : Wall}
    (h : Wall.of? d c = some w) :
    w.inRange = true := by
  unfold Wall.of? at h
  rw [Option.ite_none_right_eq_some, Bool.and_eq_true, Option.some_inj] at h
  obtain ⟨⟨hdate, htime⟩, rfl⟩ := h
  simp only [Date.isReal, Bool.and_eq_true, decide_eq_true_eq] at hdate
  simp only [ClockTime.isReal, Bool.and_eq_true, decide_eq_true_eq] at htime
  refine onDate_inRange ⟨by omega, by omega, by omega, by omega⟩ (by omega) ?_
  unfold ClockTime.ticks
  unfold day hour minute second
  omega

theorem addMonths_inRange (w : Wall) (n : Int) :
    Gives (fun v => v.inRange = true) (w.addMonths n) := by
  intro v h
  rw [← inYears_monthNumber_iff, monthNumber_addMonths h]
  exact (addMonths_eq_ok_iff.1 h).1

theorem addUnits_inRange (w : Wall) (n : Int) (unit : CalendarUnit) :
    Gives (fun v => v.inRange = true) (w.addUnits n unit) := by
  cases unit with
  | year => exact addMonths_inRange w _
  | quarter => exact addMonths_inRange w _
  | month => exact addMonths_inRange w _
  | week | day | hour | minute | second => exact checked_inRange _

/-! ## Steps -/

theorem shift_held (i : Instant) (n : Int) (unit : CalendarUnit) (z : Zone) :
    Gives (Held z) (shift i n unit z) := by
  unfold shift
  split
  · intro j h
    obtain ⟨u, -, h⟩ := bind_eq_ok.1 h
    obtain ⟨moved, -, h⟩ := bind_eq_ok.1 h
    exact ofUtc_held z moved j h
  · intro j h
    obtain ⟨here, -, h⟩ := bind_eq_ok.1 h
    exact (addUnits_inRange here.wall n unit).bind (fun moved hmoved =>
      localize_held hmoved) j h

theorem startOf_held (i : Instant) (unit : CalendarUnit) (z : Zone)
    (weekStart : WeekStart) :
    Gives (Held z) (startOf i unit z (some weekStart)) := by
  intro j h
  obtain ⟨here, -, h⟩ := bind_eq_ok.1 h
  exact (checked_inRange _).bind (fun start hstart => localize_held hstart) j h

theorem endOf_held (i : Instant) (unit : CalendarUnit) (z : Zone)
    (weekStart : Option WeekStart) :
    Gives (Held z) (endOf i unit z weekStart) := by
  intro j h
  obtain ⟨start, -, h⟩ := bind_eq_ok.1 h
  obtain ⟨next, -, h⟩ := bind_eq_ok.1 h
  obtain ⟨utc, -, h⟩ := bind_eq_ok.1 h
  obtain ⟨last, -, h⟩ := bind_eq_ok.1 h
  exact ofUtc_held z last j h

theorem roundToFiscal_held (hi : Held z i) (firstMonth : Int)
    (unit : CalendarUnit) (roundUp : Bool) :
    Gives (Held z) (roundToFiscal firstMonth i unit roundUp z) := by
  unfold roundToFiscal
  split
  -- a unit without a fiscal form hands its instant on
  · exact gives_ok hi
  · rename_i months _
    have hstart : Gives (Held z) (fiscalStart firstMonth i months z) := by
      intro j h
      obtain ⟨here, -, h⟩ := bind_eq_ok.1 h
      obtain ⟨moved, -, h⟩ := bind_eq_ok.1 h
      exact startOf_held moved .month z .sunday j h
    refine hstart.bind fun start hstart => ?_
    split
    · intro j h
      obtain ⟨last, -, h⟩ := bind_eq_ok.1 h
      exact endOf_held last .month z _ j h
    · exact gives_ok hstart

variable {rules : Rules} {weekStart : WeekStart}

theorem apply_held (hweek : rules.weekStart = some weekStart) {i : Instant}
    (hi : Held rules.zone i) (step : Step) :
    Gives (Held rules.zone) (step.apply rules i) := by
  cases step with
  | round fiscal unit =>
    cases fiscal with
    | true => exact roundToFiscal_held hi _ unit _
    | false =>
      unfold Step.apply
      dsimp only
      rw [hweek]
      split
      · exact endOf_held i unit _ _
      · exact startOf_held i unit _ weekStart
  | shift amount unit => exact shift_held i amount unit _

theorem takeAll_held (hweek : rules.weekStart = some weekStart) {i : Instant}
    (hi : Held rules.zone i) (steps : List Step) :
    Gives (Held rules.zone) (takeAll rules i steps) := by
  rw [takeAll_eq_foldlM]
  exact Gives.foldlM (fun _ step hi => apply_held hweek hi step) steps hi

theorem evaluate_held (hweek : rules.weekStart = some weekStart) {i : Instant}
    (hi : Held rules.zone i) (math : List Char) :
    Gives (fun o => ∀ j, o = some j → Held rules.zone j)
      (evaluate rules math i) := by
  rw [evaluate_eq_bind]
  refine (takeAll_held hweek hi (Step.read math).1).bind fun j hj => gives_ok ?_
  intro k hk
  split at hk
  · cases hk
    exact hj
  · cases hk

end TimeWindow.Proofs.DateMath.Holding

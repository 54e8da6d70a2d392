import TimeWindow.DateMath.Expression
import TimeWindow.Proofs.DateMath.Evaluation
import TimeWindow.Proofs.Zone.Conversion

/-!
# What can go wrong in date math

Texts never fail: what cannot be read has no value.  All that is left to go
wrong is that a reading leaves the calendar, or that an offset is too wide to be
one.
-/

namespace TimeWindow.Proofs.DateMath.Faults

open TimeWindow.DateMath Outcome Evaluation Zone.Conversion

inductive PlacingFault : Fault → Prop where
  | beyondCalendar : PlacingFault .beyondCalendar
  | fieldOutOfRange : PlacingFault .fieldOutOfRange
  | offsetTooWide : PlacingFault .offsetTooWide

/-- An operation that fails by misplacing a reading, if at all. -/
abbrev OnlyMisplaces {α : Type} (x : Except Fault α) : Prop :=
  FailsWithin PlacingFault x

/-! ## Wall times and zones -/

theorem misplaces_of_leaves {α : Type} {x : Except Fault α} (h : OnlyLeaves x) :
    OnlyMisplaces x :=
  h.mono fun _ heq => heq ▸ .beyondCalendar

theorem checked_fails (w : Wall) : OnlyMisplaces w.checked :=
  misplaces_of_leaves (checked_leaves w)

theorem ofUtc_fails (z : Zone) (u : Wall) : OnlyMisplaces (z.ofUtc u) :=
  misplaces_of_leaves (ofUtc_leaves z u)

theorem localize_fails (z : Zone) (w : Wall) : OnlyMisplaces (z.localize w) :=
  misplaces_of_leaves (localize_leaves z w)

theorem toUtc_fails (i : Instant) : OnlyMisplaces i.toUtc := by
  unfold Instant.toUtc
  split
  · exact checked_fails _
  · exact failsWithin_error .offsetTooWide

theorem toZone_fails (i : Instant) (z : Zone) : OnlyMisplaces (i.toZone z) := by
  unfold Instant.toZone
  split
  · exact failsWithin_ok _
  · exact (toUtc_fails i).bind fun u _ => ofUtc_fails z u

theorem momentToZone_fails (m : Moment) (z : Zone) :
    OnlyMisplaces (m.toZone z) := by
  cases m with
  | plain w => exact localize_fails z w
  | fixed i => exact toZone_fails i z

/-! ## Steps -/

theorem addMonths_fails (w : Wall) (n : Int) :
    OnlyMisplaces (w.addMonths n) := by
  unfold Wall.addMonths
  dsimp only
  split
  · exact failsWithin_error .beyondCalendar
  · split
    · exact failsWithin_error .fieldOutOfRange
    · exact failsWithin_ok _

theorem addUnits_fails (w : Wall) (n : Int) (unit : CalendarUnit) :
    OnlyMisplaces (w.addUnits n unit) := by
  cases unit with
  | year => exact addMonths_fails w _
  | quarter => exact addMonths_fails w _
  | month => exact addMonths_fails w _
  | _ => exact checked_fails _

theorem shift_fails (i : Instant) (n : Int) (unit : CalendarUnit) (z : Zone) :
    OnlyMisplaces (shift i n unit z) := by
  unfold shift
  split
  · exact (toUtc_fails i).bind fun u _ => (checked_fails _).bind fun moved _ =>
      ofUtc_fails z moved
  · exact (toZone_fails i z).bind fun here _ =>
      (addUnits_fails _ n unit).bind fun moved _ => localize_fails z moved

theorem startOf_fails (i : Instant) (unit : CalendarUnit) (z : Zone)
    (weekStart : WeekStart) :
    OnlyMisplaces (startOf i unit z (some weekStart)) :=
  (toZone_fails i z).bind fun _ _ => (checked_fails _).bind fun start _ =>
    localize_fails z start

theorem endOf_fails (i : Instant) (unit : CalendarUnit) (z : Zone)
    (weekStart : WeekStart) :
    OnlyMisplaces (endOf i unit z (some weekStart)) :=
  (startOf_fails i unit z weekStart).bind fun start _ =>
    (shift_fails start 1 unit z).bind fun next _ =>
      (toUtc_fails next).bind fun _ _ =>
      (checked_fails _).bind fun last _ => ofUtc_fails z last

theorem roundToFiscal_fails (firstMonth : Int) (i : Instant)
    (unit : CalendarUnit) (roundUp : Bool) (z : Zone) :
    OnlyMisplaces (roundToFiscal firstMonth i unit roundUp z) := by
  have hstart : ∀ months, OnlyMisplaces (fiscalStart firstMonth i months z) :=
    fun months =>
    (toZone_fails i z).bind fun _ _ =>
      (shift_fails i _ .month z).bind fun moved _ =>
      startOf_fails moved .month z .sunday
  unfold roundToFiscal
  split
  · exact failsWithin_ok _
  · refine (hstart _).bind fun start _ => ?_
    split
    · exact (shift_fails start _ .month z).bind fun last _ =>
        endOf_fails last .month z .sunday
    · exact failsWithin_ok _

theorem apply_fails {rules : Rules} {weekStart : WeekStart}
    (hweek : rules.weekStart = some weekStart) (i : Instant) (step : Step) :
    OnlyMisplaces (step.apply rules i) := by
  cases step with
  | round fiscal unit =>
    cases fiscal with
    | true => exact roundToFiscal_fails _ i unit _ _
    | false =>
      change OnlyMisplaces
        (if rules.roundUp then endOf i unit rules.zone rules.weekStart
          else startOf i unit rules.zone rules.weekStart)
      rw [hweek]
      split
      · exact endOf_fails i unit _ weekStart
      · exact startOf_fails i unit _ weekStart
  | shift amount unit => exact shift_fails i amount unit _

theorem takeAll_fails {rules : Rules} {weekStart : WeekStart}
    (hweek : rules.weekStart = some weekStart) (i : Instant)
    (steps : List Step) :
    OnlyMisplaces (takeAll rules i steps) := by
  rw [takeAll_eq_foldlM]
  exact FailsWithin.foldlM (fun i step => apply_fails hweek i step) steps i

theorem evaluate_fails {rules : Rules} {weekStart : WeekStart}
    (hweek : rules.weekStart = some weekStart) (math : List Char)
    (i : Instant) :
    OnlyMisplaces (evaluate rules math i) := by
  rw [evaluate_eq_bind]
  exact (takeAll_fails hweek i _).bind fun _ _ => failsWithin_ok _

/-! ## Expressions -/

theorem reference_fails (p : Present) (z : Zone) :
    OnlyMisplaces (p.reference z) :=
  momentToZone_fails _ z

theorem parseIso_fails (s : String) (z : Zone) :
    OnlyMisplaces (parseIso s z) := by
  unfold parseIso
  split
  · exact failsWithin_ok _
  · exact (momentToZone_fails _ z).bind fun _ _ => failsWithin_ok _

theorem anchor_fails (rules : Rules) (p : Present) (cs : List Char) :
    OnlyMisplaces (anchor rules p cs) := by
  unfold anchor
  split
  · exact (reference_fails p _).bind fun _ _ => failsWithin_ok _
  · exact (parseIso_fails _ _).bind fun _ _ => failsWithin_ok _

theorem parseText_fails {rules : Rules} {weekStart : WeekStart}
    (hweek : rules.weekStart = some weekStart) (p : Present) (s : String) :
    OnlyMisplaces (parseText rules p s) := by
  refine (anchor_fails rules p s.toList).bind fun answer _ => ?_
  split
  · exact failsWithin_ok _
  · exact evaluate_fails hweek _ _

end TimeWindow.Proofs.DateMath.Faults

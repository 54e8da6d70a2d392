import Mathlib.Data.List.Infix
import TimeWindow.Proofs.DateMath.Evaluation
import TimeWindow.Proofs.DateMath.Expression
import TimeWindow.Proofs.DateMath.Rounding
import TimeWindow.Proofs.DateMath.Shift
import TimeWindow.Proofs.Zone.Occurrence

/-!
# Units across clock changes

Hours, minutes and seconds pass on the time line: an expression of such steps
names the instant that is their sum away from now, whatever clock changes of
whatever zone lie on its way.  All other units pass on the calendar: a shift
leads to an instant at which the zone shows the wall time that was reckoned, if
it ever shows it.
-/

namespace TimeWindow.Proofs.DateMath.AcrossChanges

open TimeWindow.DateMath TimeWindow.Text Outcome Zone.Conversion Zone.Settling
  Zone.Occurrence Zone.Naming DateMath.Evaluation DateMath.Expression
  DateMath.Grammar DateMath.Rounding DateMath.Shift

def Elapses : Step → Prop
  | .shift _ unit => unit = .hour ∨ unit = .minute ∨ unit = .second
  | .round _ _ => False

def elapsed : Step → Int
  | .shift amount unit => amount * unit.length?.getD 0
  | .round _ _ => 0

def total (steps : List Step) : Int := (steps.map elapsed).sum

@[simp] theorem total_nil : total [] = 0 := rfl

@[simp] theorem total_cons (step : Step) (steps : List Step) :
    total (step :: steps) = elapsed step + total steps :=
  List.sum_cons

/-- The calendar holds the readings that UTC and the zone show at an instant
given in UTC. -/
def Visible (z : Zone) (u : Wall) : Prop :=
  u.inRange = true ∧
    (u.add ((z.periodAt u).offset * Calendar.second)).inRange = true

instance (z : Zone) (u : Wall) : Decidable (Visible z u) :=
  inferInstanceAs (Decidable (_ ∧ _))

theorem readable_iff {z : Zone} {i : Instant} :
    Readable z i ↔ Visible z ⟨i.utcTicks⟩ :=
  Iff.rfl

/-! ## Steps on the time line -/

theorem length?_of_elapses {amount : Int} {unit : CalendarUnit}
    (h : Elapses (.shift amount unit)) :
    ∃ length, unit.length? = some length ∧
      elapsed (.shift amount unit) = amount * length := by
  rcases h with rfl | rfl | rfl <;> exact ⟨_, rfl, rfl⟩

variable {rules : Rules} {i j : Instant}

theorem apply_utcTicks {step : Step} (hstep : Elapses step)
    (h : step.apply rules i = .ok j) :
    j.utcTicks = i.utcTicks + elapsed step := by
  cases step with
  | round fiscal unit => cases hstep
  | shift amount unit =>
    obtain ⟨length, hlength, helapsed⟩ := length?_of_elapses hstep
    rw [helapsed]
    exact shift_utcTicks hlength h

/-- A step succeeds where the calendar holds both ends of it, and hands on an
instant that can be shifted further. -/
theorem apply_ok (hsane : rules.zone.Sane) (hi : IsAware i) {step : Step}
    (hstep : Elapses step) (hutc : (Wall.mk i.utcTicks).inRange = true)
    (hvisible : Visible rules.zone ⟨i.utcTicks + elapsed step⟩) :
    ∃ j, step.apply rules i = .ok j ∧ IsAware j := by
  cases step with
  | round fiscal unit => cases hstep
  | shift amount unit =>
    obtain ⟨length, hlength, helapsed⟩ := length?_of_elapses hstep
    rw [helapsed] at hvisible
    have hshown : rules.zone.ofUtc ⟨i.utcTicks + amount * length⟩ = .ok _ :=
      ofUtc_eq_ok.2 ⟨rfl, hvisible.2⟩
    refine ⟨_, ?_, (ofUtc_carries hshown).offset_lt hsane⟩
    unfold Step.apply shift
    dsimp only
    rw [hlength]
    exact bind_eq_ok.2 ⟨_, toUtc_eq_ok.2 ⟨hi, rfl, hutc⟩,
      bind_eq_ok.2 ⟨_, Wall.checked_eq_ok.2 ⟨rfl, hvisible.1⟩, hshown⟩⟩

/-! ## Runs on the time line -/

theorem takeAll_utcTicks {steps : List Step}
    (hsteps : ∀ step ∈ steps, Elapses step)
    (h : takeAll rules i steps = .ok j) :
    j.utcTicks = i.utcTicks + total steps := by
  induction steps generalizing i with
  | nil =>
    cases h
    simp
  | cons step steps ih =>
    rw [takeAll_cons] at h
    obtain ⟨k, hk, h⟩ := bind_eq_ok.1 h
    have hfirst := apply_utcTicks (hsteps step List.mem_cons_self) hk
    have hrest :=
      ih (fun other hmem => hsteps other (List.mem_cons_of_mem _ hmem)) h
    rw [hrest, hfirst, total_cons, add_assoc]

theorem takeAll_ok (hsane : rules.zone.Sane) (hi : IsAware i)
    {steps : List Step} (hsteps : ∀ step ∈ steps, Elapses step)
    (hvisible : ∀ first, first <+: steps →
      Visible rules.zone ⟨i.utcTicks + total first⟩) :
    ∃ j, takeAll rules i steps = .ok j := by
  induction steps generalizing i with
  | nil => exact ⟨i, rfl⟩
  | cons step steps ih =>
    have hnow : (Wall.mk i.utcTicks).inRange = true := by
      simpa using (hvisible [] List.nil_prefix).1
    have hthen : Visible rules.zone ⟨i.utcTicks + elapsed step⟩ := by
      simpa using hvisible [step] (List.prefix_append [step] steps)
    have hstep := hsteps step List.mem_cons_self
    obtain ⟨k, hk, haware⟩ := apply_ok hsane hi hstep hnow hthen
    obtain ⟨j, hj⟩ : ∃ j, takeAll rules k steps = .ok j := by
      apply ih haware fun other hmem =>
        hsteps other (List.mem_cons_of_mem _ hmem)
      intro first hfirst
      rw [apply_utcTicks hstep hk, add_assoc, ← total_cons]
      exact hvisible _ (List.prefix_cons_inj step |>.2 hfirst)
    exact ⟨j, by rw [takeAll_cons, hk]; exact hj⟩

/-! ## Expressions behind now -/

section

variable {p : Present} {s : String} {math : List Char}
  (hnow : p.now = some (.fixed i))
  (hs : s.toList = nowWord ++ math)

include hnow hs

theorem parse_eq :
    parse rules p (.text s) = i.toZone rules.zone >>= evaluate rules math := by
  have hbehind : after? nowWord s.toList = some math := by
    rw [hs, after?_append]
  change parseText rules p s = _
  rw [parseText_of_now hbehind, Present.reference, hnow]
  rfl

variable {steps : List Step} (hwritten : Written (bare math) steps)
  (hsteps : ∀ step ∈ steps, Elapses step)

include hwritten hsteps

theorem parse_utcTicks (h : parse rules p (.text s) = .ok (some j)) :
    j.utcTicks = i.utcTicks + total steps := by
  rw [parse_eq hnow hs] at h
  obtain ⟨here, hhere, h⟩ := bind_eq_ok.1 h
  obtain ⟨⟨-, hearly⟩, htaken⟩ := isMath_of_evaluate h
  rw [read_eq_iff.2 ⟨hwritten, hearly⟩] at htaken
  rw [takeAll_utcTicks hsteps htaken, toZone_utcTicks hhere]

theorem parse_ok (hsane : rules.zone.Sane) (hi : IsAware i)
    (hearly : DigitsEarly 0 (bare math))
    (hvisible : ∀ first, first <+: steps →
      Visible rules.zone ⟨i.utcTicks + total first⟩) :
    ∃ j, parse rules p (.text s) = .ok (some j) := by
  have hreadable : Readable rules.zone i := by
    rw [readable_iff]
    simpa using hvisible [] List.nil_prefix
  obtain ⟨here, hhere, hticks⟩ := toZone_of_readable hi hreadable
  rw [← hticks] at hvisible
  obtain ⟨j, hj⟩ :=
    takeAll_ok hsane ((toZone_carries hhere).offset_lt hsane) hsteps hvisible
  refine ⟨j, ?_⟩
  rw [parse_eq hnow hs, hhere]
  change evaluate rules math here = _
  rw [evaluate_of_isMath ⟨hwritten, hearly⟩, hj]
  rfl

end

/-! ## Shifts on the calendar -/

theorem shift_shows {z : Zone} (hreads : ReadsBack z) {here : Instant}
    {moved : Wall} {n : Int} {unit : CalendarUnit}
    (hunit : unit.length? = none) (hhere : i.toZone z = .ok here)
    (hmoved : here.wall.addUnits n unit = .ok moved)
    (hoccurs : Occurs z moved) (hinner : Inner z moved) :
    ∃ j, shift i n unit z = .ok j ∧ Shows z j moved := by
  obtain ⟨j, hj, hshows⟩ := hreads moved hoccurs hinner
  refine ⟨j, ?_, hshows⟩
  unfold shift
  rw [hunit]
  exact bind_eq_ok.2 ⟨here, hhere, bind_eq_ok.2 ⟨moved, hmoved, hj⟩⟩

/-- **What units promise across clock changes.**  In every zone, an expression
of hours, minutes and seconds behind now names the instant that is their sum
away, and it has a value while its digits stand early and no reading leaves the
calendar.  A shift by days or longer units leads to the wall time that the
calendar reckons, if the zone ever shows it and reads wall times back; and every
zone that a caller can name does, whatever zones have names. -/
theorem units_across_changes :
    (∀ (rules : Rules) (p : Present) (i : Instant) (s : String)
      (math : List Char) (steps : List Step),
      IsAware i → p.now = some (.fixed i) → s.toList = nowWord ++ math →
      Written (bare math) steps →
      (∀ step ∈ steps, Elapses step) →
      (∀ j, parse rules p (.text s) = .ok (some j) →
        j.utcTicks = i.utcTicks + total steps) ∧
      (rules.zone.Sane → DigitsEarly 0 (bare math) →
        (∀ first, first <+: steps →
          Visible rules.zone ⟨i.utcTicks + total first⟩) →
        ∃ j, parse rules p (.text s) = .ok (some j))) ∧
    (∀ (z : Zone) (i here : Instant) (moved : Wall) (n : Int)
      (unit : CalendarUnit),
      ReadsBack z → unit ∈ [CalendarUnit.day, .week, .month, .quarter, .year] →
      i.toZone z = .ok here → here.wall.addUnits n unit = .ok moved →
      Occurs z moved → Inner z moved →
      ∃ j, shift i n unit z = .ok j ∧ Shows z j moved) ∧
    ∀ c name z, TimeWindow.Zone.resolve name c = .ok z →
      z.Sane ∧ ReadsBack z := by
  refine ⟨?_, ?_, ?_⟩
  · intro rules p i s math steps hi hnow hs hwritten hsteps
    exact ⟨fun j h => parse_utcTicks hnow hs hwritten hsteps h,
      fun hsane hearly hvisible =>
        parse_ok hnow hs hwritten hsteps hsane hi hearly hvisible⟩
  · intro z i here moved n unit hreads hunit hhere hmoved hoccurs hinner
    have hlength : unit.length? = none := by
      simp only [List.mem_cons, List.not_mem_nil, or_false] at hunit
      rcases hunit with rfl | rfl | rfl | rfl | rfl <;> rfl
    exact shift_shows hreads hlength hhere hmoved hoccurs hinner
  · exact fun c name z h => ⟨sane_of_resolve h, readsBack_of_resolve h⟩

def halfPast (month day hour : Int) : Wall :=
  .onDate ⟨2024, month, day⟩ (ClockTime.ticks ⟨hour, 30, 0, 0⟩)

def beside (w : Wall) : Present :=
  { clock := w, now := some (.fixed (.ofUtc w)) }

/-- In New York, 23 hours and 60 minutes from the night of 10 March are 24 hours
on the time line, though the clock is put forward; and a day from 2 November
leads to an hour that the clock shows twice. -/
theorem units_across_changes_new_york :
    ∃ z, TimeWindow.Zone.resolve (some "America/New_York") = .ok z ∧
      (∃ j, parse { zone := z } (beside (halfPast 3 10 6))
          (.text "now + 23h + 60m") = .ok (some j) ∧
          j.utcTicks = (halfPast 3 11 6).ticks) ∧
      ∃ j, shift (.ofUtc (halfPast 11 2 5)) 1 .day z = .ok j ∧
        Shows z j (halfPast 11 3 1) := by
  obtain ⟨hline, hcalendar, hnamed⟩ := units_across_changes
  have hz :
      TimeWindow.Zone.resolve (some "America/New_York") =
        .ok (.ofTable TimeWindow.Zone.America.newYork) := by
    decide +kernel
  obtain ⟨hsane, hreads⟩ := hnamed _ _ _ hz
  refine ⟨_, hz, ?_, ?_⟩
  · obtain ⟨hvalue, hsucceeds⟩ :=
      hline { zone := .ofTable TimeWindow.Zone.America.newYork }
        (beside (halfPast 3 10 6)) _ "now + 23h + 60m" " + 23h + 60m".toList
        [.shift 23 .hour, .shift 60 .minute] (by decide) rfl (by decide)
        (read_eq_iff.1 (by decide)).1 (by simp [Elapses])
    obtain ⟨j, hj⟩ := hsucceeds hsane (by decide) fun first hfirst => by
      have hvisible :
          ∀ first ∈ List.inits [Step.shift 23 .hour, .shift 60 .minute],
          Visible (.ofTable TimeWindow.Zone.America.newYork)
            ⟨(Instant.ofUtc (halfPast 3 10 6)).utcTicks + total first⟩ := by
        decide +kernel
      exact hvisible first ((List.mem_inits _ _).2 hfirst)
    exact ⟨j, hj, (hvalue j hj).trans (by decide +kernel)⟩
  · have hhere : (Instant.ofUtc (halfPast 11 2 5)).toZone
        (.ofTable TimeWindow.Zone.America.newYork) =
        .ok ⟨halfPast 11 2 1, .period (.named "America/New_York")
          (TimeWindow.Zone.period (-240) 60 "EDT")⟩ := by
      decide +kernel
    have hoccurs :
        Occurs (.ofTable TimeWindow.Zone.America.newYork) (halfPast 11 3 1) :=
      ⟨halfPast 11 3 5, by decide +kernel⟩
    exact hcalendar _ _ _ _ 1 .day hreads (by decide) hhere (by decide +kernel)
      hoccurs (.inr (by decide +kernel))

end TimeWindow.Proofs.DateMath.AcrossChanges

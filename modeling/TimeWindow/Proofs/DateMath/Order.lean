import TimeWindow.Proofs.DateMath.Evaluation
import TimeWindow.Proofs.DateMath.Steady

/-!
# Two runs of one row of steps

A row of steps is run twice from one instant, once with its roundings down and
once with them up.  The runs agree up to the first rounding.  Behind it they
stay in order as long as shifts move both by the same time
(`takeAll_le_of_confined`): months would not, since a longer month can lead back
before a shorter one.
-/

namespace TimeWindow.Proofs.DateMath.Order

open TimeWindow.DateMath Calendar.Units Calendar.Tilings Zone.Steady
  DateMath.Evaluation DateMath.Steady Outcome

/-- Microseconds in a unit that takes the same time on every clock that is never
changed: months, quarters and years do not. -/
def evenLength? : CalendarUnit → Option Int
  | .week => some (7 * Calendar.day)
  | .day => some Calendar.day
  | .hour => some Calendar.hour
  | .minute => some Calendar.minute
  | .second => some Calendar.second
  | _ => none

def isEven : Step → Bool
  | .round _ _ => true
  | .shift _ unit => (evenLength? unit).isSome

def isShift : Step → Bool
  | .round _ _ => false
  | .shift _ _ => true

/-- Every shift behind the first rounding is one by even units. -/
def Confined (steps : List Step) : Prop :=
  ∀ step ∈ steps.dropWhile isShift, isEven step = true

instance (steps : List Step) : Decidable (Confined steps) :=
  inferInstanceAs
    (Decidable (∀ step ∈ steps.dropWhile isShift, isEven step = true))

theorem addUnits_of_even {unit : CalendarUnit} {length : Int}
    (heven : evenLength? unit = some length) (w : Wall) (n : Int) :
    w.addUnits n unit = (w.add (n * length)).checked := by
  cases unit with
  | week =>
    cases heven
    change (w.add (7 * n * Calendar.day)).checked =
      (w.add (n * (7 * Calendar.day))).checked
    congr 2
    ring
  | day | hour | minute | second =>
    cases heven
    rfl
  | _ => cases heven

theorem addUnits_even {unit : CalendarUnit} {length amount : Int} {w v : Wall}
    (heven : evenLength? unit = some length)
    (h : w.addUnits amount unit = .ok v) :
    v.ticks = w.ticks + amount * length := by
  rw [addUnits_of_even heven] at h
  rw [checked_ok h]
  rfl

/-- A step keeps two readings in order when it rounds the earlier one down and
the later one up. -/
theorem moves_le {rules : Rules} {weekStart : WeekStart} {step : Step}
    {w w' v v' : Wall} (heven : isEven step = true)
    (hdown : Moves { rules with roundUp := false } weekStart step w v)
    (hup : Moves { rules with roundUp := true } weekStart step w' v')
    (hle : w.ticks ≤ w'.ticks) :
    v.ticks ≤ v'.ticks := by
  cases hdown with
  | shift h =>
    obtain ⟨length, hlength⟩ := Option.isSome_iff_exists.1 heven
    cases hup with
    | shift h' =>
      rw [addUnits_even hlength h, addUnits_even hlength h']
      omega
  | @round fiscal unit T _ hT =>
    cases hup with
    | @round _ _ T' _ hT' =>
      have hsame : some T = some T' := hT.symm.trans hT'
      cases hsame
      exact T.round_le_round hle
    | idle hnone =>
      have hno : some T = none := hT.symm.trans hnone
      cases hno
  | idle hnone =>
    cases hup with
    | @round _ _ T _ hT =>
      have hno : none = some T := hnone.symm.trans hT
      cases hno
    | idle _ => exact hle

section

variable {rules : Rules} {weekStart : WeekStart}
  (hsteady : rules.zone.isConstant = true)
  (hweek : rules.weekStart = some weekStart)

include hsteady hweek

theorem takeAll_le {steps : List Step} {w w' : Wall} {i j : Instant}
    (heven : ∀ step ∈ steps, isEven step = true) (hle : w.ticks ≤ w'.ticks)
    (hdown : takeAll { rules with roundUp := false } (shown rules.zone w)
      steps = .ok i)
    (hup : takeAll { rules with roundUp := true } (shown rules.zone w') steps =
      .ok j) :
    i.utcTicks ≤ j.utcTicks := by
  induction steps generalizing w w' with
  | nil =>
    cases hdown
    cases hup
    rw [utcTicks_shown, utcTicks_shown]
    omega
  | cons step steps ih =>
    rw [takeAll_cons] at hdown hup
    obtain ⟨first, hfirst, hdown⟩ := bind_eq_ok.1 hdown
    obtain ⟨first', hfirst', hup⟩ := bind_eq_ok.1 hup
    obtain ⟨v, rfl, hmoves⟩ := apply_shown hfirst hsteady hweek
    obtain ⟨v', rfl, hmoves'⟩ := apply_shown hfirst' hsteady hweek
    have hnext : v.ticks ≤ v'.ticks :=
      moves_le (heven step (by simp)) hmoves hmoves' hle
    exact ih (fun other hother => heven other (by simp [hother])) hnext hdown hup

theorem takeAll_le_of_confined {steps : List Step} {w : Wall} {i j : Instant}
    (hconfined : Confined steps)
    (hdown : takeAll { rules with roundUp := false } (shown rules.zone w)
      steps = .ok i)
    (hup : takeAll { rules with roundUp := true } (shown rules.zone w) steps =
      .ok j) :
    i.utcTicks ≤ j.utcTicks := by
  induction steps generalizing w with
  | nil => exact takeAll_le hsteady hweek (by simp) (le_refl _) hdown hup
  | cons step steps ih =>
    cases step with
    | round fiscal unit =>
      exact takeAll_le hsteady hweek hconfined (le_refl _) hdown hup
    | shift amount unit =>
      -- a shift does not ask in which direction roundings go
      rw [takeAll_cons] at hdown hup
      obtain ⟨first, hfirst, hdown⟩ := bind_eq_ok.1 hdown
      obtain ⟨first', hfirst', hup⟩ := bind_eq_ok.1 hup
      have hsame :
          Except.ok first = (Except.ok first' : Except Fault Instant) :=
        hfirst.symm.trans hfirst'
      cases hsame
      obtain ⟨v, rfl, -⟩ := apply_shown hfirst hsteady hweek
      exact ih hconfined hdown hup

end

end TimeWindow.Proofs.DateMath.Order

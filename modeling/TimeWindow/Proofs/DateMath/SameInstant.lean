import TimeWindow.Proofs.DateMath.Evaluation
import TimeWindow.Proofs.DateMath.Expression
import TimeWindow.Proofs.Zone.Settling

/-!
# One instant under two wall times

A wall time that its zone skips names an instant that the zone shows by another
wall time.  No step tells the two apart: each begins by expressing its instant
in UTC or in the zone.  So whole expressions lead from either to the same
instant (`parseText_twin`).
-/

namespace TimeWindow.Proofs.DateMath.SameInstant

open TimeWindow.DateMath TimeWindow.Text Outcome Zone.Conversion Zone.Settling
  Evaluation Expression

structure Twin (z : Zone) (i j : Instant) : Prop where
  ticks : j.utcTicks = i.utcTicks
  zone : j.toZone z = i.toZone z
  utc : j.toUtc = i.toUtc

variable {z : Zone} {i j : Instant}

theorem twin_refl (z : Zone) (i : Instant) : Twin z i i := ⟨rfl, rfl, rfl⟩

theorem twin_of_toZone (hsane : z.Sane) {m : Moment} (hi : m.toZone z = .ok i)
    (hj : i.toZone z = .ok j) : Twin z i j := by
  have hticks : j.utcTicks = i.utcTicks := toZone_utcTicks hj
  have hoffset := (momentToZone_carries hi).offset_lt hsane
  have hoffset' := (toZone_carries hj).offset_lt hsane
  have hsettled : j.toZone z = .ok j := settled_of_toZone hsane hj
  refine ⟨hticks, by rw [hsettled, hj], ?_⟩
  unfold Instant.toUtc
  rw [if_pos hoffset, if_pos hoffset', hticks]

/-! ## Steps -/

theorem shift_twin (h : Twin z i j) (amount : Int) (unit : CalendarUnit) :
    shift j amount unit z = shift i amount unit z := by
  unfold shift
  rw [h.utc, h.zone]

theorem startOf_twin (h : Twin z i j) (unit : CalendarUnit)
    (weekStart : Option WeekStart) :
    startOf j unit z weekStart = startOf i unit z weekStart := by
  unfold startOf
  rw [h.zone]

theorem endOf_twin (h : Twin z i j) (unit : CalendarUnit)
    (weekStart : Option WeekStart) :
    endOf j unit z weekStart = endOf i unit z weekStart := by
  unfold endOf
  rw [startOf_twin h]

theorem fiscalStart_twin (h : Twin z i j) (firstMonth months : Int) :
    fiscalStart firstMonth j months z = fiscalStart firstMonth i months z := by
  unfold fiscalStart
  rw [h.zone]
  refine congrArg (i.toZone z >>= ·) (funext fun here => ?_)
  dsimp only
  rw [shift_twin h]

theorem roundToFiscal_twin (h : Twin z i j) (firstMonth : Int)
    (unit : CalendarUnit) (roundUp : Bool) :
    Alike (Twin z) (roundToFiscal firstMonth i unit roundUp z)
      (roundToFiscal firstMonth j unit roundUp z) := by
  unfold roundToFiscal
  cases fiscalMonths? unit with
  | none => exact .ok h
  | some months =>
    dsimp only
    rw [fiscalStart_twin h]
    exact alike_refl (twin_refl z) _

variable {rules : Rules}

theorem apply_twin (h : Twin rules.zone i j) (step : Step) :
    Alike (Twin rules.zone) (step.apply rules i) (step.apply rules j) := by
  cases step with
  | round fiscal unit =>
    cases fiscal with
    | true => exact roundToFiscal_twin h _ unit _
    | false =>
      unfold Step.apply
      dsimp only
      rw [endOf_twin h, startOf_twin h]
      exact alike_refl (twin_refl _) _
  | shift amount unit =>
    unfold Step.apply
    dsimp only
    rw [shift_twin h]
    exact alike_refl (twin_refl _) _

theorem takeAll_twin (h : Twin rules.zone i j) (steps : List Step) :
    Alike (Twin rules.zone) (takeAll rules i steps) (takeAll rules j steps) := by
  rw [takeAll_eq_foldlM, takeAll_eq_foldlM]
  exact Alike.foldlM (fun _ _ step hstep => apply_twin hstep step) steps h

/-! ## Expressions -/

theorem evaluate_twin (h : Twin rules.zone i j) (math : List Char) :
    Alike (Option.Rel (Twin rules.zone)) (evaluate rules math i)
      (evaluate rules math j) := by
  rw [evaluate_eq_bind, evaluate_eq_bind]
  refine (takeAll_twin h (Step.read math).1).bind fun k k' hk => .ok ?_
  split
  · exact .some hk
  · exact .none

/-- Two presents of one process at one time of the clock, with references that
are twins. -/
structure TwinPresents (z : Zone) (p p' : Present) : Prop where
  clock : p'.clock = p.clock
  pivotYear : p'.pivotYear = p.pivotYear
  reference : Alike (Twin z) (p.reference z) (p'.reference z)

variable {p p' : Present}

theorem parseText_twin (h : TwinPresents rules.zone p p') (s : String) :
    Alike (Option.Rel (Twin rules.zone)) (parseText rules p s)
      (parseText rules p' s) := by
  cases hnow : after? nowWord s.toList with
  | some math =>
    rw [parseText_of_now hnow, parseText_of_now hnow]
    exact h.reference.bind fun k k' hk => evaluate_twin hk math
  | none =>
    have hsame : parseText rules p' s = parseText rules p s := by
      unfold parseText anchor
      rw [hnow]
    rw [hsame]
    refine alike_refl (fun o => ?_) _
    cases o with
    | none => exact .none
    | some k => exact .some (twin_refl _ k)

end TimeWindow.Proofs.DateMath.SameInstant

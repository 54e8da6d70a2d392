import TimeWindow.Proofs.DateMath.Evaluation
import TimeWindow.Proofs.DateMath.Expression
import TimeWindow.Proofs.Range.Distances
import TimeWindow.Proofs.Zone.OneClock

/-!
# Rules that reckon alike

Every step of date math keeps the instants of two zones with one clock mirrored,
when the rules agree on the week and, up to whole years, on the first month of
the fiscal year (`parseText_mirror`).
-/

namespace TimeWindow.Proofs.DateMath.SameClock

open TimeWindow.DateMath TimeWindow.Text Outcome Zone.Conversion Zone.Settling
  Zone.OneClock Evaluation Expression Holding Reading.DefaultDate
  Range.Distances

/-- A moment as it is read from a text: a wall time of the calendar, or an
instant without a zone of its own. -/
def Bare : Moment → Prop
  | .plain w => w.inRange = true
  | .fixed i => ∃ seconds, i.setting = .offset seconds

theorem iso_bare {s : String} {m : Moment} (h : Iso.read? s = some m) :
    Bare m := by
  have hrange := iso_inRange h
  obtain ⟨d, t, hm⟩ := isoMoment_of_iso h
  unfold Iso.moment? at hm
  simp only [Option.bind_eq_bind, Option.pure_def, Option.bind_none] at hm
  obtain ⟨wall, -, hm⟩ := Option.bind_eq_some_iff.1 hm
  rw [Option.ite_none_left_eq_some, Option.some_inj] at hm
  obtain ⟨-, rfl⟩ := hm
  cases hoffset : t.offset with
  | none =>
    rw [hoffset] at hrange
    exact hrange
  | some seconds => exact ⟨seconds, rfl⟩

theorem freeForm_bare {s : String} {d : FreeForm.Defaults} {m : Moment}
    (h : FreeForm.read s d = .ok (some m)) : Bare m := by
  obtain ⟨f, wall, -, rfl, hrange⟩ := read_eq_some h
  unfold tied
  split
  · exact hrange
  · exact ⟨_, rfl⟩

/-! ## Steps -/

structure SameRules (rules rules' : Rules) : Prop where
  clock : SaneClock rules.zone rules'.zone
  roundUp : rules'.roundUp = rules.roundUp
  week : ∃ day, rules.weekStart = some day ∧ rules'.weekStart = some day
  fiscal : rules'.fiscalStart % 12 = rules.fiscalStart % 12

section

variable {z z' : Zone} (hclock : SaneClock z z')

include hclock

theorem momentToZone_mirror {m : Moment} (hm : Bare m) :
    Alike (Mirror z z') (m.toZone z) (m.toZone z') := by
  cases m with
  | plain w => exact localize_mirror hclock hm
  | fixed i =>
    obtain ⟨seconds, hseconds⟩ := hm
    exact toZone_mirror hclock (bare_mirror hclock hseconds)

variable {i j : Instant} (h : Mirror z z' i j)

include h

theorem shift_mirror (amount : Int) (unit : CalendarUnit) :
    Alike (Mirror z z') (shift i amount unit z) (shift j amount unit z') := by
  unfold shift
  cases unit.length? with
  | some length =>
    dsimp only
    rw [h.reading.toUtc]
    exact alike_bind _ fun utc =>
      alike_bind_of_gives (checked_inRange _) fun moved hmoved =>
      ofUtc_mirror hclock hmoved
  | none =>
    refine (toZone_mirror hclock h).bind fun here here' hhere => ?_
    rw [hhere.reading.wall]
    exact alike_bind_of_gives (addUnits_inRange _ _ _) fun moved hmoved =>
      localize_mirror hclock hmoved

theorem startOf_mirror (unit : CalendarUnit) (day : WeekStart) :
    Alike (Mirror z z') (startOf i unit z (some day))
      (startOf j unit z' (some day)) := by
  unfold startOf
  refine (toZone_mirror hclock h).bind fun here here' hhere => ?_
  rw [hhere.reading.wall]
  exact alike_bind_of_gives (checked_inRange _) fun start hstart =>
    localize_mirror hclock hstart

theorem endOf_mirror (unit : CalendarUnit) (day : WeekStart) :
    Alike (Mirror z z') (endOf i unit z (some day))
      (endOf j unit z' (some day)) := by
  unfold endOf
  refine (startOf_mirror hclock h unit day).bind fun start start' hstart => ?_
  refine (shift_mirror hclock hstart 1 unit).bind fun next next' hnext => ?_
  rw [hnext.reading.toUtc]
  exact alike_bind _ fun utc =>
    alike_bind_of_gives (checked_inRange _) fun last hlast =>
    ofUtc_mirror hclock hlast

theorem fiscalStart_mirror {first first' months : Int}
    (hfirst : first' % 12 = first % 12) (hmonths : months ∣ 12) :
    Alike (Mirror z z') (fiscalStart first i months z)
      (fiscalStart first' j months z') := by
  unfold fiscalStart
  refine (toZone_mirror hclock h).bind fun here here' hhere => ?_
  have hback : (here.wall.date.month - 1 - first' + months) % months =
      (here.wall.date.month - 1 - first + months) % months := by
    obtain ⟨years, hyears⟩ : months ∣ first - first' :=
      hmonths.trans (Int.dvd_of_emod_eq_zero
        (Int.emod_eq_emod_iff_emod_sub_eq_zero.1 hfirst.symm))
    have hsplit : here.wall.date.month - 1 - first' + months =
        here.wall.date.month - 1 - first + months + months * years := by omega
    rw [hsplit, Int.add_mul_emod_self_left]
  rw [hhere.reading.wall]
  dsimp only
  rw [hback]
  exact (shift_mirror hclock h _ .month).bind fun moved moved' hmoved =>
    startOf_mirror hclock hmoved .month .sunday

theorem roundToFiscal_mirror {first first' : Int}
    (hfirst : first' % 12 = first % 12) (unit : CalendarUnit) (roundUp : Bool) :
    Alike (Mirror z z') (roundToFiscal first i unit roundUp z)
      (roundToFiscal first' j unit roundUp z') := by
  unfold roundToFiscal
  cases hunit : fiscalMonths? unit with
  | none => exact .ok h
  | some months =>
    have hmonths : months ∣ 12 := by
      cases unit <;> cases hunit <;> decide
    refine (fiscalStart_mirror hclock h hfirst hmonths).bind
      fun start start' hstart => ?_
    split
    · exact (shift_mirror hclock hstart _ .month).bind fun last last' hlast =>
        endOf_mirror hclock hlast .month .sunday
    · exact .ok hstart

end

/-! ## Expressions -/

section

variable {rules rules' : Rules} (hrules : SameRules rules rules')

include hrules

theorem apply_mirror {i j : Instant} (h : Mirror rules.zone rules'.zone i j)
    (step : Step) :
    Alike (Mirror rules.zone rules'.zone) (step.apply rules i)
      (step.apply rules' j) := by
  obtain ⟨hclock, hroundUp, ⟨day, hday, hday'⟩, hfiscal⟩ := hrules
  cases step with
  | shift amount unit => exact shift_mirror hclock h amount unit
  | round fiscal unit =>
    cases fiscal with
    | true =>
      change Alike _ (roundToFiscal _ _ _ _ _)
        (roundToFiscal _ _ _ rules'.roundUp _)
      rw [hroundUp]
      exact roundToFiscal_mirror hclock h hfiscal unit _
    | false =>
      unfold Step.apply
      dsimp only
      rw [hroundUp, hday, hday']
      split
      · exact endOf_mirror hclock h unit day
      · exact startOf_mirror hclock h unit day

theorem evaluate_mirror {i j : Instant}
    (h : Mirror rules.zone rules'.zone i j) (math : List Char) :
    Alike (Option.Rel (Mirror rules.zone rules'.zone)) (evaluate rules math i)
      (evaluate rules' math j) := by
  unfold evaluate
  refine (Alike.foldlM (fun _ _ step hstep => apply_mirror hrules hstep step)
    _ h).bind
    fun k k' hk => .ok ?_
  split
  · exact .some hk
  · exact .none

theorem parseIso_mirror (s : String) :
    Alike (Option.Rel (Mirror rules.zone rules'.zone)) (parseIso s rules.zone)
      (parseIso s rules'.zone) := by
  unfold parseIso
  split
  · exact .ok .none
  · rename_i m hm
    exact (momentToZone_mirror hrules.clock (iso_bare hm)).bind fun k k' hk =>
      .ok (.some hk)

theorem parseAbsolute_mirror (clock : Wall) (s : String) (pivotYear : Int) :
    Alike (Option.Rel (Mirror rules.zone rules'.zone))
      (parseAbsolute clock s rules.zone pivotYear)
      (parseAbsolute clock s rules'.zone pivotYear) := by
  unfold parseAbsolute
  rcases hread : FreeForm.read s ⟨clock.date, pivotYear⟩ with f | _ | m
  · exact .error f
  · exact .ok .none
  · exact (momentToZone_mirror hrules.clock (freeForm_bare hread)).bind
      fun k k' hk => .ok (.some hk)

variable {p : Present} (hnow : Bare (p.now.getD (.fixed (.ofUtc p.clock))))

include hnow

theorem reference_mirror :
    Alike (Mirror rules.zone rules'.zone) (p.reference rules.zone)
      (p.reference rules'.zone) :=
  momentToZone_mirror hrules.clock hnow

theorem anchor_mirror (cs : List Char) :
    Alike
      (fun a b =>
        Option.Rel (Mirror rules.zone rules'.zone) a.1 b.1 ∧ b.2 = a.2)
      (anchor rules p cs) (anchor rules' p cs) := by
  unfold anchor
  split
  · exact (reference_mirror hrules hnow).bind fun k k' hk => .ok ⟨.some hk, rfl⟩
  · exact (parseIso_mirror hrules _).bind fun k k' hk => .ok ⟨hk, rfl⟩

theorem parseText_mirror (s : String) :
    Alike (Option.Rel (Mirror rules.zone rules'.zone)) (parseText rules p s)
      (parseText rules' p s) := by
  refine (anchor_mirror hrules hnow s.toList).bind fun a b hab => ?_
  obtain ⟨start, math⟩ := a
  obtain ⟨start', math'⟩ := b
  obtain ⟨hstart, hmath⟩ := hab
  dsimp only at hstart hmath
  subst hmath
  cases hstart with
  | some hk => exact evaluate_mirror hrules hk _
  | none => exact .ok .none

end

end TimeWindow.Proofs.DateMath.SameClock

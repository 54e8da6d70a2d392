import TimeWindow.Proofs.Range.Reckoning

/-!
# Ranges that tell engines apart

A few kinds of ranges show what an engine makes of every instant and of every
wall time, how it counts fiscal years, and with which day its weeks begin.
Engines that agree on all of them reckon alike (`sameReckoning_of_probes`).
-/

namespace TimeWindow.Proofs.Range.Probes

open TimeWindow.DateMath TimeWindow.Text Outcome DateMath.Expression
  DateMath.Evaluation Range.Resolution Range.Reckoning Zone.Conversion
  Zone.Settling Zone.Steady Zone.Naming Zone.Beginning Zone.OneClock

/-- A reading before all changes of clocks, in the last month of a year. -/
def longAgo : Wall := .onDate ⟨1000, 12, 15⟩ (12 * Calendar.hour)

def monthBefore (back : Int) : Wall := .onDate ⟨1000, 12 - back, 1⟩ 0

def since (start : Source) : RawRange := ⟨start, .moment (.plain longAgo)⟩

inductive Probe : Source → Moment → Prop where
  | instant {u : Wall} (hu : u.inRange = true) :
      Probe (.moment (.fixed (.ofUtc u))) (.plain longAgo)
  | wall {w : Wall} (hw : w.inRange = true) :
      Probe (.moment (.plain w)) (.plain longAgo)
  | again {w : Wall} (hw : w.inRange = true) : Probe (.text "now+0d") (.plain w)
  | fiscalYear : Probe (.text "now/fy") (.plain longAgo)
  | week : Probe (.text "now/w") (.plain longAgo)

theorem longAgo_probe : Probe (.moment (.plain longAgo)) (.plain longAgo) :=
  .wall (by decide)

/-! ## Long ago -/

section

variable {e : Engine} {z : Zone} (hz : e.zone none = .ok z)

include hz

theorem localize_longAgo {w : Wall} (hlow : Calendar.day ≤ w.ticks)
    (hbefore : w.ticks ≤ longAgo.ticks) : z.localize w = .ok (shown z w) := by
  have hlimit : longAgo.ticks + 2 * Calendar.day ≤ Zone.firstRecord := by decide
  exact localize_early (sane_of_resolve hz)
    (early_of_recorded (recorded_of_resolve hz) hlow (by omega))

theorem shift_month {w v : Wall} {amount : Int}
    (hv : w.addUnits amount .month = .ok v) (hlow : Calendar.day ≤ v.ticks)
    (hbefore : v.ticks ≤ longAgo.ticks) :
    shift (shown z w) amount .month z = .ok (shown z v) := by
  change ((shown z w).toZone z >>= fun here =>
    here.wall.addUnits amount .month >>= z.localize) = _
  rw [toZone_shown]
  change (w.addUnits amount .month >>= z.localize) = _
  rw [hv]
  exact localize_longAgo hz hlow hbefore

theorem startOf_longAgo {w v : Wall} {unit : CalendarUnit} {day : WeekStart}
    (hv : (w.startOf day unit).checked = .ok v) (hlow : Calendar.day ≤ v.ticks)
    (hbefore : v.ticks ≤ longAgo.ticks) :
    startOf (shown z w) unit z (some day) = .ok (shown z v) := by
  unfold startOf
  rw [toZone_shown]
  change ((w.startOf day unit).checked >>= z.localize) = _
  rw [hv]
  exact localize_longAgo hz hlow hbefore

theorem fiscalStart_longAgo (first : Int) :
    fiscalStart first (shown z longAgo) 12 z =
      .ok (shown z (monthBefore ((23 - first) % 12))) := by
  have hmonths : ∀ back ∈ List.range 12,
      let w : Wall := .onDate ⟨1000, 12 - (back : Nat), 15⟩ (12 * Calendar.hour)
      (longAgo.addUnits (-(back : Nat)) .month = .ok w ∧
        Calendar.day ≤ w.ticks ∧ w.ticks ≤ longAgo.ticks) ∧
      (w.startOf .sunday .month).checked = .ok (monthBefore (back : Nat)) ∧
      Calendar.day ≤ (monthBefore (back : Nat)).ticks ∧
      (monthBefore (back : Nat)).ticks ≤ longAgo.ticks := by decide +kernel
  have hmonth : longAgo.date.month = 12 := by decide +kernel
  obtain ⟨back, hcount⟩ :=
    Int.eq_ofNat_of_zero_le
      (Int.emod_nonneg (23 - first) (by decide : (12 : Int) ≠ 0))
  have hlt := Int.emod_lt_of_pos (23 - first) (by decide : (0 : Int) < 12)
  obtain ⟨⟨hmoved, hlow, hbefore⟩, hfirst, hlow', hbefore'⟩ :=
    hmonths back (List.mem_range.2 (by omega))
  have hback : (longAgo.date.month - 1 - first + 12) % 12 = (back : Int) := by
    rw [← hcount, hmonth]
    congr 1
    omega
  unfold fiscalStart
  rw [toZone_shown]
  change (shift (shown z longAgo)
    (-((longAgo.date.month - 1 - first + 12) % 12)) .month z >>= _) = _
  rw [hback, shift_month hz hmoved hlow hbefore, hcount]
  exact startOf_longAgo hz hfirst hlow' hbefore'

theorem round_fiscal_longAgo :
    Step.apply (sideRules e {} z false) (shown z longAgo) (.round true .year) =
      .ok (shown z (monthBefore ((23 - e.fiscalStart) % 12))) := by
  change (fiscalStart e.fiscalStart (shown z longAgo) 12 z >>= pure) = _
  rw [fiscalStart_longAgo hz]
  rfl

theorem startOf_week_longAgo (day : WeekStart) :
    startOf (shown z longAgo) .week z (some day) =
      .ok (shown z (longAgo.startOf day .week)) := by
  have hweek :
      (longAgo.startOf day .week).checked = .ok (longAgo.startOf day .week) ∧
      Calendar.day ≤ (longAgo.startOf day .week).ticks ∧
      (longAgo.startOf day .week).ticks ≤ longAgo.ticks := by
    cases day <;> decide +kernel
  obtain ⟨hchecked, hlow, hbefore⟩ := hweek
  exact startOf_longAgo hz hchecked hlow hbefore

/-! ## What a start resolves to -/

theorem resolve_since {p : Present} {start : Source}
    {x : Except Fault Instant}
    (hstart : e.parseInstant (RawRange.Call.side {} false) p start = x.map some) :
    ∃ f : Instant → TimeRange, (∀ i, (f i).start = some (.fixed i)) ∧
      (since start).resolve e {} p = x.map f := by
  have hstop :
      e.parseInstant (RawRange.Call.side {} true) p (.moment (.plain longAgo)) =
      .ok (some (shown z longAgo)) := by
    rw [parseInstant_moment (rules_side (c := {}) hz true)]
    exact congrArg (Except.map some) (localize_longAgo hz (by decide) le_rfl)
  refine ⟨fun i =>
    if start.isMath || false then
      ⟨some (.fixed i), some (.fixed (shown z longAgo)), since start⟩
    else .ofMoments (some (.fixed i)) (some (.fixed (shown z longAgo))),
    fun i => ?_, ?_⟩
  · split <;> rfl
  · change (e.parseInstant (RawRange.Call.side {} false) p start >>= fun start =>
      e.parseInstant (RawRange.Call.side {} true) p
        (.moment (.plain longAgo)) >>= _) = _
    rw [hstart, hstop]
    cases x <;> rfl

theorem resolve_longAgo (here : Present) :
    ∃ r, (since (.moment (.plain longAgo))).resolve e {}
      { here with now := some (.plain longAgo) } = .ok r := by
  have hstart : e.parseInstant (RawRange.Call.side {} false)
      { here with now := some (.plain longAgo) } (.moment (.plain longAgo)) =
        (Except.ok (shown z longAgo)).map some := by
    rw [parseInstant_moment (rules_side (c := {}) hz false)]
    exact congrArg (Except.map some) (localize_longAgo hz (by decide) le_rfl)
  obtain ⟨f, -, hresolve⟩ := resolve_since hz hstart
  exact ⟨_, hresolve⟩

theorem start_now {p : Present} {s : String} (math : List Char) (step : Step)
    (hword : Engine.mentionsNow s = true)
    (hnow : after? nowWord s.toList = some math)
    (hread : Step.read math = ([step], true)) :
    e.parseInstant (RawRange.Call.side {} false) p (.text s) =
      (p.reference z >>= step.apply (sideRules e {} z false)).map some := by
  have hevaluate : ∀ i, evaluate (sideRules e {} z false) math i =
      (step.apply (sideRules e {} z false) i).map some := by
    intro i
    rw [evaluate_eq, hread, takeAll_cons]
    cases step.apply (sideRules e {} z false) i <;> rfl
  rw [parseInstant_text (rules_side (c := {}) hz false), if_pos hword]
  unfold fallBack
  rw [parseText_of_now hnow]
  change ((p.reference z >>= _) >>= _) = _
  cases p.reference z with
  | error f => rfl
  | ok i =>
    change (evaluate _ _ i >>= _) = (step.apply _ i).map some
    rw [hevaluate]
    cases step.apply (sideRules e {} z false) i <;> rfl

end

/-! ## What they tell -/

theorem alike_of_agree {x x' : Except Fault Instant}
    {f f' : Instant → TimeRange} (hf : ∀ i, (f i).start = some (.fixed i))
    (hf' : ∀ i, (f' i).start = some (.fixed i)) (hx : OnlyLeaves x)
    (hx' : OnlyLeaves x') (h : Agree (x.map f) (x'.map f')) :
    Alike SameReading x x' := by
  cases x with
  | error g =>
    cases x' with
    | error g' =>
      cases hx g rfl
      cases hx' g' rfl
      exact .error _
    | ok j => cases h
  | ok i =>
    cases x' with
    | error g' => cases h
    | ok j =>
      generalize hr : Except.map (ε := Fault) f (.ok i) = y at h
      generalize hr' : Except.map (ε := Fault) f' (.ok j) = y' at h
      cases h with
      | neither => cases hr
      | range same =>
        cases hr
        cases hr'
        have hshown := same.shownStart
        rw [hf i, hf' j] at hshown
        cases hshown with
        | shown same => exact .ok same

theorem monthBefore_injective {first first' : Int}
    (h : monthBefore ((23 - first') % 12) = monthBefore ((23 - first) % 12)) :
    first' % 12 = first % 12 := by
  have hmonths : ∀ back ∈ List.range 12, ∀ back' ∈ List.range 12,
      monthBefore (back' : Nat) = monthBefore (back : Nat) → back' = back := by
        decide +kernel
  have hcount : ∀ first : Int, ∃ back : Nat, (23 - first) % 12 = back :=
    fun first =>
    Int.eq_ofNat_of_zero_le
      (Int.emod_nonneg (23 - first) (by decide : (12 : Int) ≠ 0))
  obtain ⟨back, hback⟩ := hcount first
  obtain ⟨back', hback'⟩ := hcount first'
  rw [hback, hback'] at h
  have hsame := hmonths back (List.mem_range.2 (by omega)) back'
    (List.mem_range.2 (by omega)) h
  omega

theorem startOf_week_injective {day day' : WeekStart}
    (h : longAgo.startOf day' .week = longAgo.startOf day .week) :
    day' = day := by
  revert h
  cases day <;> cases day' <;> decide +kernel

theorem shift_no_days {z : Zone} (hsane : z.Sane) (hrecorded : z.Recorded)
    {w : Wall} {i : Instant} (hw : w.inRange = true)
    (hi : z.localize w = .ok i) :
    ∃ here k, i.toZone z = .ok here ∧ shift i 0 .day z = .ok k ∧
      k.wall = here.wall := by
  obtain ⟨here, hhere, -⟩ :=
    localize_settles hsane (inland_of_recorded hrecorded) hi
  obtain ⟨hrange, k, hk⟩ := localize_again hsane hrecorded hw hi hhere
  have hstay : here.wall.add (0 * Calendar.day) = here.wall := by
    simp [Wall.add]
  refine ⟨here, k, hhere, ?_, localize_wall hk⟩
  refine bind_eq_ok.2 ⟨here, hhere, bind_eq_ok.2 ⟨here.wall, ?_, hk⟩⟩
  change (here.wall.add (0 * Calendar.day)).checked = .ok here.wall
  rw [hstay]
  exact Wall.checked_eq_ok.2 ⟨rfl, hrange⟩

section

variable {e e' : Engine} {z z' : Zone} {here : Present}
  (hz : e.zone none = .ok z)
  (hz' : e'.zone none = .ok z')
  (h : ∀ start now, Probe start now →
    Agree ((since start).resolve e {} { here with now := some now })
    ((since start).resolve e' {} { here with now := some now }))

include hz hz' h

theorem alike_of_probe {start : Source} {now : Moment}
    (hprobe : Probe start now) {x x' : Except Fault Instant}
    (hx : OnlyLeaves x) (hx' : OnlyLeaves x')
    (hstart : e.parseInstant (RawRange.Call.side {} false)
      { here with now := some now } start = x.map some)
    (hstart' : e'.parseInstant (RawRange.Call.side {} false)
      { here with now := some now } start = x'.map some) :
    Alike SameReading x x' := by
  obtain ⟨f, hf, hresolve⟩ := resolve_since hz hstart
  obtain ⟨f', hf', hresolve'⟩ := resolve_since hz' hstart'
  have hagree := h start now hprobe
  rw [hresolve, hresolve'] at hagree
  exact alike_of_agree hf hf' hx hx' hagree

theorem moment_of_probe {m : Moment}
    (hprobe : Probe (.moment m) (.plain longAgo))
    (hx : OnlyLeaves (m.toZone z)) (hx' : OnlyLeaves (m.toZone z')) :
    Alike SameReading (m.toZone z) (m.toZone z') :=
  alike_of_probe hz hz' h hprobe hx hx'
    (parseInstant_moment (rules_side (c := {}) hz false) m)
    (parseInstant_moment (rules_side (c := {}) hz' false) m)

theorem again_of_probe {w : Wall} (hw : w.inRange = true)
    (hread : Alike SameReading (z.localize w) (z'.localize w)) :
    Alike SameReading (z.localize w >>= fun i => i.toZone z)
      (z'.localize w >>= fun j => j.toZone z') := by
  have hside : ∀ {e : Engine} {z : Zone}, e.zone none = .ok z →
      e.parseInstant (RawRange.Call.side {} false)
        { here with now := some (.plain w) }
        (.text "now+0d") =
          (z.localize w >>= fun i => shift i 0 .day z).map some :=
    fun hz => start_now hz ['+', '0', 'd'] (.shift 0 .day) (by decide)
      (by decide) (by decide)
  have hi := hside hz
  have hj := hside hz'
  generalize hx : z.localize w = x at hread hi
  generalize hx' : z'.localize w = x' at hread hj
  cases hread with
  | error f => exact .error f
  | @ok i j same =>
    obtain ⟨hereI, k, hhereI, hk, hwall⟩ :=
      shift_no_days (sane_of_resolve hz) (recorded_of_resolve hz) hw hx
    obtain ⟨hereJ, l, hhereJ, hl, hwall'⟩ :=
      shift_no_days (sane_of_resolve hz') (recorded_of_resolve hz') hw hx'
    have halike : Alike SameReading (.ok k) (.ok l) :=
      alike_of_probe hz hz' h (.again hw) (failsWithin_ok k) (failsWithin_ok l)
        (hi.trans (congrArg _ hk)) (hj.trans (congrArg _ hl))
    change Alike SameReading (i.toZone z) (j.toZone z')
    rw [hhereI, hhereJ]
    cases halike with
    | ok hsame =>
      refine .ok (sameReading_of_ticks (by rw [← hwall', hsame.wall, hwall]) ?_)
      rw [toZone_utcTicks hhereJ, toZone_utcTicks hhereI, same.utcTicks]

theorem sameClock_of_probes : SameClock z z' := by
  have hread :
      ∀ w : Wall, w.inRange = true →
        Alike SameReading (z.localize w) (z'.localize w) :=
    fun w hw => moment_of_probe hz hz' h (.wall hw) (localize_leaves z w)
      (localize_leaves z' w)
  refine ⟨fun u hu => ?_, hread, fun w hw =>
    again_of_probe hz hz' h hw (hread w hw)⟩
  have hshown : ∀ z : Zone, (Moment.fixed (.ofUtc u)).toZone z = z.ofUtc u :=
    toZone_ofUtc hu
  rw [← hshown z, ← hshown z']
  refine moment_of_probe hz hz' h (.instant hu) ?_ ?_
  · rw [hshown]
    exact ofUtc_leaves z u
  · rw [hshown]
    exact ofUtc_leaves z' u

theorem wall_of_probe {s : String} (math : List Char) (step : Step)
    {w w' : Wall} (hprobe : Probe (.text s) (.plain longAgo))
    (hword : Engine.mentionsNow s = true)
    (hnow : after? nowWord s.toList = some math)
    (hread : Step.read math = ([step], true))
    (hw : step.apply (sideRules e {} z false) (shown z longAgo) = .ok (shown z w))
    (hw' : step.apply (sideRules e' {} z' false) (shown z' longAgo) =
      .ok (shown z' w')) :
    w' = w := by
  have hside : ∀ {e : Engine} {z : Zone} {w : Wall}, e.zone none = .ok z →
      step.apply (sideRules e {} z false) (shown z longAgo) = .ok (shown z w) →
      e.parseInstant (RawRange.Call.side {} false)
        { here with now := some (.plain longAgo) }
        (.text s) = (Except.ok (shown z w)).map some := by
    intro e z w hz hw
    have hlocal : z.localize longAgo = .ok (shown z longAgo) :=
      localize_longAgo hz (by decide) le_rfl
    rw [start_now hz math step hword hnow hread]
    change (z.localize longAgo >>= _).map some = _
    rw [hlocal, ← hw]
    rfl
  have halike :=
    alike_of_probe hz hz' h hprobe (failsWithin_ok _) (failsWithin_ok _)
    (hside hz hw) (hside hz' hw')
  cases halike with
  | ok same => exact same.wall

end

theorem sameReckoning_of_probes {e e' : Engine} {here : Present}
    (h : ∀ start now, Probe start now →
      Agree ((since start).resolve e {} { here with now := some now })
        ((since start).resolve e' {} { here with now := some now })) :
    SameReckoning (e.rules {}) (e'.rules {}) := by
  have hwall := h _ _ longAgo_probe
  cases hz : e.zone none with
  | error f =>
    rw [resolve_of_no_zone hz] at hwall
    cases hz' : e'.zone none with
    | error f' =>
      rw [rules_of_no_zone hz, rules_of_no_zone hz']
      exact .unknown f f'
    | ok z' =>
      obtain ⟨r', hr'⟩ := resolve_longAgo hz' here
      rw [hr'] at hwall
      cases hwall
  | ok z =>
    cases hz' : e'.zone none with
    | error f' =>
      obtain ⟨r, hr⟩ := resolve_longAgo hz here
      rw [hr, resolve_of_no_zone hz'] at hwall
      cases hwall
    | ok z' =>
      have hyear :=
        wall_of_probe hz hz' h ['/', 'f', 'y'] (.round true .year) .fiscalYear
        (by decide) (by decide) (by decide) (round_fiscal_longAgo hz)
          (round_fiscal_longAgo hz')
      have hweek := wall_of_probe hz hz' h ['/', 'w'] (.round false .week) .week
        (by decide) (by decide) (by decide) (startOf_week_longAgo hz e.weekStart)
        (startOf_week_longAgo hz' e'.weekStart)
      change SameReckoning (e.rules (RawRange.Call.side {} false))
        (e'.rules (RawRange.Call.side {} false))
      rw [rules_side (c := {}) hz, rules_side (c := {}) hz']
      exact .known (sameClock_of_probes hz hz' h) (monthBefore_injective hyear)
        (congrArg some (startOf_week_injective hweek))

end TimeWindow.Proofs.Range.Probes

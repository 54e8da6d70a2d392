import TimeWindow.Proofs.DateMath.Shift
import TimeWindow.Proofs.Zone.Settling
import TimeWindow.Zone.America

/-!
# What a rounded instant brackets

Rounding forgets the offset, works on the wall clock and attaches an offset
again.  It brackets the instant as long as the offsets met on the way agree well
enough; `Clock.Keeps` says how well, and `brackets_iff_keeps` that this is
exactly when both roundings stay in the unit and on their sides of the instant.
-/

namespace TimeWindow.Proofs.DateMath.Bracketing

open TimeWindow.DateMath Calendar.Units Zone.Conversion DateMath.Shift Outcome

/-! ## Offsets around a unit -/

structure Clock where
  /-- In force at the instant. -/
  here : Int
  /-- Given to the first reading of its unit. -/
  first : Int
  /-- In force at the beginning that this makes. -/
  begun : Int
  /-- At which the first reading of the next unit is placed. -/
  next : Int
  /-- In force a millisecond before that. -/
  last : Int

/-- The offsets agree well enough for a reading `now` in the unit from `first`
up to `next`: between any two of them the clock is put neither forward nor back
over the edge of the unit. -/
structure Clock.Keeps (o : Clock) (first now next : Int) : Prop where
  start_le : (o.here - o.first) * Calendar.second ≤ now - first
  lt_next : (o.next - o.here) * Calendar.second < next - now
  begins : 0 ≤ o.begun - o.first ∧
    (o.begun - o.first) * Calendar.second < next - first
  ends : 0 ≤ o.next - o.last ∧ (o.next - o.last) * Calendar.second < next - first

/-- The offsets around the unit of an instant `here`: `start` is the beginning
that is found and `begun` the same expressed in the zone, `next` is where the
next unit begins and `last` the millisecond before.  A calendar unit is counted
from what the clock shows at its beginning, an hour, a minute or a second from
the beginning itself. -/
def clock (unit : CalendarUnit) (here start begun next last : Instant) :
    Clock where
  here := here.setting.seconds
  first := start.setting.seconds
  begun := begun.setting.seconds
  next :=
    match unit.length? with
    | some _ => start.setting.seconds
    | none =>
      next.setting.seconds - (begun.setting.seconds - start.setting.seconds)
  last := last.setting.seconds

def SameUnit (z : Zone) (weekStart : WeekStart) (unit : CalendarUnit)
    (i j : Instant) : Prop :=
  ∃ a b, i.toZone z = .ok a ∧ j.toZone z = .ok b ∧
    unitIndex weekStart a.wall unit = unitIndex weekStart b.wall unit

/-- The roundings of an instant lie around it and in its unit. -/
structure Brackets (z : Zone) (weekStart : WeekStart) (unit : CalendarUnit)
    (i start stop : Instant) :
    Prop where
  start_le : start.utcTicks ≤ i.utcTicks
  lt_stop : i.utcTicks < stop.utcTicks + lastMoment
  start_same : SameUnit z weekStart unit start i
  stop_same : SameUnit z weekStart unit stop i

theorem sameUnit_iff {z : Zone} {weekStart : WeekStart} {unit : CalendarUnit}
    {i j a b : Instant} (ha : i.toZone z = .ok a) (hb : j.toZone z = .ok b) :
    SameUnit z weekStart unit i j ↔
      unitIndex weekStart a.wall unit = unitIndex weekStart b.wall unit := by
  constructor
  · rintro ⟨a', b', ha', hb', h⟩
    rw [ha] at ha'
    rw [hb] at hb'
    cases ha'
    cases hb'
    exact h
  · intro h
    exact ⟨a, b, ha, hb, h⟩

theorem toZone_offset {z : Zone} {i j : Instant} (hsane : z.Sane)
    (h : i.toZone z = .ok j) :
    j.setting.seconds - i.setting.seconds < 2 * 86400 := by
  unfold Instant.toZone at h
  split at h
  · cases h
    omega
  · obtain ⟨u, hu, hj⟩ := bind_eq_ok.1 h
    obtain ⟨hoffset, -, -⟩ := toUtc_eq_ok.1 hu
    obtain ⟨rfl, -⟩ := ofUtc_eq_ok.1 hj
    have := hsane.periodAt u
    change (z.periodAt u).offset - i.setting.seconds < 2 * 86400
    omega

theorem next_utcTicks {z : Zone} {weekStart : WeekStart} {unit : CalendarUnit}
    {k : Int} {start begun next : Instant} (here last : Instant)
    (hsane : z.Sane) (hstart : start.wall = unitStart weekStart k unit)
    (hbegun : start.toZone z = .ok begun)
    (hnext : shift start 1 unit z = .ok next)
    (hbegins : 0 ≤ begun.setting.seconds - start.setting.seconds) :
    next.utcTicks = (unitStart weekStart (k + 1) unit).ticks -
      (clock unit here start begun next last).next * Calendar.second := by
  have hfirst := wall_ticks start
  rw [hstart] at hfirst
  cases hlength : unit.length? with
  | some length =>
    have hticks := shift_utcTicks hlength hnext
    have hwidth : (unitStart weekStart (k + 1) unit).ticks =
        (unitStart weekStart k unit).ticks + length := by
      cases unit <;> simp only [CalendarUnit.length?, Option.some.injEq,
        reduceCtorEq] at hlength <;>
        subst hlength <;> simp only [unitStart] <;> ring
    simp only [clock, hlength]
    omega
  | none =>
    obtain ⟨begun', hbegun', hmoved⟩ := shift_wall hlength hnext
    rw [hbegun] at hbegun'
    cases hbegun'
    have hshown := toZone_ticks hbegun
    have hlead := toZone_offset hsane hbegun
    have hwall : begun.wall = ⟨(unitStart weekStart k unit).ticks +
        (begun.setting.seconds - start.setting.seconds) * Calendar.second⟩ := by
      cases hw : begun.wall
      rw [hw] at hshown
      dsimp only at hshown
      congr 1
      rw [sub_mul]
      omega
    rw [hwall] at hmoved
    have hmoved' := addUnits_unitStart (by unfold Calendar.second; omega)
      (by unfold Calendar.day Calendar.hour Calendar.minute Calendar.second; omega)
        hmoved
    have hnextWall := wall_ticks next
    rw [hmoved'] at hnextWall
    dsimp only at hnextWall
    simp only [clock, hlength]
    rw [sub_mul]
    omega

/-! ## The four sides of the bracket -/

section Sides

variable {z : Zone} {weekStart : WeekStart} {unit : CalendarUnit} {k : Int}
  {i here start begun next stop last : Instant}

theorem start_le_iff (hhere : i.toZone z = .ok here)
    (hfirst : start.wall = unitStart weekStart k unit) :
    start.utcTicks ≤ i.utcTicks ↔
      (here.setting.seconds - start.setting.seconds) * Calendar.second ≤
        here.wall.ticks - (unitStart weekStart k unit).ticks := by
  have hstartTicks := wall_ticks start
  have hhereTicks := toZone_ticks hhere
  rw [hfirst] at hstartTicks
  rw [sub_mul]
  omega

theorem start_same_iff (hhere : i.toZone z = .ok here)
    (hk : unitIndex weekStart here.wall unit = k)
    (hfirst : start.wall = unitStart weekStart k unit)
    (hbegun : start.toZone z = .ok begun) :
    SameUnit z weekStart unit start i ↔
      0 ≤ begun.setting.seconds - start.setting.seconds ∧
        (begun.setting.seconds - start.setting.seconds) * Calendar.second <
          (unitStart weekStart (k + 1) unit).ticks -
            (unitStart weekStart k unit).ticks := by
  have hstartTicks := wall_ticks start
  have hbegunTicks := toZone_ticks hbegun
  rw [hfirst] at hstartTicks
  rw [sameUnit_iff hbegun hhere, hk, unitIndex_eq_iff, sub_mul]
  unfold Calendar.second at *
  omega

theorem lt_stop_iff {o : Int} (hhere : i.toZone z = .ok here)
    (hnext : next.utcTicks =
      (unitStart weekStart (k + 1) unit).ticks - o * Calendar.second)
    (hstop : stop.utcTicks = next.utcTicks - lastMoment) :
    i.utcTicks < stop.utcTicks + lastMoment ↔
      (o - here.setting.seconds) * Calendar.second <
        (unitStart weekStart (k + 1) unit).ticks - here.wall.ticks := by
  have hhereTicks := toZone_ticks hhere
  rw [sub_mul]
  omega

/-- The end stands a millisecond before a whole second, so that it is in the
unit as soon as the second that it ends is. -/
theorem stop_same_iff {o : Int} (hhere : i.toZone z = .ok here)
    (hk : unitIndex weekStart here.wall unit = k)
    (hnext : next.utcTicks =
      (unitStart weekStart (k + 1) unit).ticks - o * Calendar.second)
    (hstop : stop.utcTicks = next.utcTicks - lastMoment)
    (hlast : stop.toZone z = .ok last) :
    SameUnit z weekStart unit stop i ↔
      0 ≤ o - last.setting.seconds ∧
        (o - last.setting.seconds) * Calendar.second <
          (unitStart weekStart (k + 1) unit).ticks -
            (unitStart weekStart k unit).ticks := by
  have hlastTicks := toZone_ticks hlast
  have hwhole := unitStart_mod_second weekStart k unit
  have hwhole' := unitStart_mod_second weekStart (k + 1) unit
  rw [sameUnit_iff hlast hhere, hk, unitIndex_eq_iff, sub_mul]
  unfold Calendar.second lastMoment at *
  omega

end Sides

/-- **Rounding brackets the instant exactly when the offsets around its unit
keep to it.**  In every zone, for every instant, unit and week start: both
roundings lie in the unit, the lower one not after the instant and the upper one
not a millisecond or more before it, if and only if the clock crosses no edge of
the unit between them. -/
theorem brackets_iff_keeps {z : Zone} {weekStart : WeekStart}
    {unit : CalendarUnit} {i here start begun next stop last : Instant}
    (hsane : z.Sane) (hhere : i.toZone z = .ok here)
    (hstart : startOf i unit z (some weekStart) = .ok start)
    (hbegun : start.toZone z = .ok begun)
    (hnext : shift start 1 unit z = .ok next)
    (hstop : endOf i unit z (some weekStart) = .ok stop)
    (hlast : stop.toZone z = .ok last) :
    Brackets z weekStart unit i start stop ↔
      (clock unit here start begun next last).Keeps
        (unitStart weekStart (unitIndex weekStart here.wall unit) unit).ticks
        here.wall.ticks
        (unitStart weekStart (unitIndex weekStart here.wall unit + 1)
          unit).ticks := by
  generalize hk : unitIndex weekStart here.wall unit = k
  have hfirst : start.wall = unitStart weekStart k unit := by
    rw [startOf_wall hhere hstart, hk]
  obtain ⟨start', next', hstart', hnext', hstopTicks⟩ := endOf_utcTicks hstop
  rw [hstart] at hstart'
  cases hstart'
  rw [hnext] at hnext'
  cases hnext'
  have hle := start_le_iff hhere hfirst
  have hsame := start_same_iff hhere hk hfirst hbegun
  generalize ho : clock unit here start begun next last = o
  -- the next unit begins where `o` says once this one begins within itself
  have hnextTicks : 0 ≤ begun.setting.seconds - start.setting.seconds →
      next.utcTicks = (unitStart weekStart (k + 1) unit).ticks - o.next *
        Calendar.second := by
    intro hbegins
    rw [← ho]
    exact next_utcTicks here last hsane hfirst hbegun hnext hbegins
  constructor
  · rintro ⟨hstartLe, hlt, hstartSame, hstopSame⟩
    have hbegins := hsame.1 hstartSame
    have hticks := hnextTicks hbegins.1
    have hends := (stop_same_iff hhere hk hticks hstopTicks hlast).1 hstopSame
    have hbefore := (lt_stop_iff hhere hticks hstopTicks).1 hlt
    subst ho
    exact ⟨hle.1 hstartLe, hbefore, hbegins, hends⟩
  · rintro ⟨hstartLe, hbefore, hbegins, hends⟩
    subst ho
    have hticks := hnextTicks hbegins.1
    have hstopSame := (stop_same_iff hhere hk hticks hstopTicks hlast).2 hends
    have hlt := (lt_stop_iff hhere hticks hstopTicks).2 hbefore
    exact ⟨hle.2 hstartLe, hlt, hsame.2 hbegins, hstopSame⟩

theorem keeps_of_steady {weekStart : WeekStart} {unit : CalendarUnit}
    {w : Wall} {o : Clock} (hfirst : o.first = o.here)
    (hbegun : o.begun = o.here) (hnext : o.next = o.here)
    (hlast : o.last = o.here) :
    o.Keeps (unitStart weekStart (unitIndex weekStart w unit) unit).ticks w.ticks
      (unitStart weekStart (unitIndex weekStart w unit + 1) unit).ticks := by
  have hle := unitStart_le weekStart unit w
  have hlt := lt_unitStart_succ weekStart unit w
  constructor
  · rw [hfirst, sub_self]
    omega
  · rw [hnext, sub_self]
    omega
  · rw [hbegun, hfirst, sub_self]
    omega
  · rw [hnext, hlast, sub_self]
    omega

/-! ## A day that begins at one -/

/-- The zone of São Paulo, whose clock used to skip the first hour of a day in
spring. -/
def saoPaulo : Zone := .ofTable Zone.America.saoPaulo

def winterTime : Setting := .period saoPaulo.kind ⟨-10800, 0, "-03"⟩

def summerTime : Setting := .period saoPaulo.kind ⟨-7200, 3600, "-02"⟩

def november (date sinceMidnight : Int) : Wall :=
  .onDate ⟨2018, 11, date⟩ sinceMidnight

/-- Noon of a day in November 2018 at São Paulo's summer offset. -/
def noon (date : Int) : Instant :=
  ⟨november date (12 * Calendar.hour), .offset (-7200)⟩

theorem sane_saoPaulo : saoPaulo.Sane := by decide +kernel

theorem brackets_steady_day :
    Brackets saoPaulo .sunday .day (noon 20) ⟨november 20 0, summerTime⟩
      ⟨november 21 (-lastMoment), summerTime⟩ := by
  have hhere :
      (noon 20).toZone saoPaulo =
        .ok ⟨november 20 (12 * Calendar.hour), summerTime⟩ := by
    decide +kernel
  have hstart :
      startOf (noon 20) .day saoPaulo (some .sunday) =
        .ok ⟨november 20 0, summerTime⟩ := by
    decide +kernel
  have hbegun : (Instant.mk (november 20 0) summerTime).toZone saoPaulo =
      .ok ⟨november 20 0, summerTime⟩ := by
    decide +kernel
  have hnext : shift ⟨november 20 0, summerTime⟩ 1 .day saoPaulo =
      .ok ⟨november 21 0, summerTime⟩ := by
    decide +kernel
  have hstop : endOf (noon 20) .day saoPaulo (some .sunday) =
      .ok ⟨november 21 (-lastMoment), summerTime⟩ := by
    decide +kernel
  have hlast :
      (Instant.mk (november 21 (-lastMoment)) summerTime).toZone saoPaulo =
      .ok ⟨november 21 (-lastMoment), summerTime⟩ := by
    decide +kernel
  exact (brackets_iff_keeps sane_saoPaulo hhere hstart hbegun hnext hstop hlast).2
    (keeps_of_steady rfl rfl rfl rfl)

/-- On 4 November 2018 midnight was skipped.  The day is given the beginning
that the clock showed as one, and its end comes out an hour into the next
day. -/
theorem not_brackets_skipped_midnight :
    startOf (noon 4) .day saoPaulo (some .sunday) =
      .ok ⟨november 4 0, winterTime⟩ ∧
      endOf (noon 4) .day saoPaulo (some .sunday) =
        .ok ⟨november 5 (Calendar.hour - lastMoment), summerTime⟩ ∧
      ¬ Brackets saoPaulo .sunday .day (noon 4) ⟨november 4 0, winterTime⟩
        ⟨november 5 (Calendar.hour - lastMoment), summerTime⟩ := by
  refine ⟨by decide +kernel, by decide +kernel, ?_⟩
  intro h
  have hhere :
      (noon 4).toZone saoPaulo =
        .ok ⟨november 4 (12 * Calendar.hour), summerTime⟩ := by
    decide +kernel
  have hlast :
      (Instant.mk (november 5 (Calendar.hour - lastMoment)) summerTime).toZone
        saoPaulo =
      .ok ⟨november 5 (Calendar.hour - lastMoment), summerTime⟩ := by
    decide +kernel
  have hsame := (sameUnit_iff hlast hhere).1 h.stop_same
  revert hsame
  decide +kernel

end TimeWindow.Proofs.DateMath.Bracketing

import TimeWindow.Proofs.Calendar.Boundaries
import TimeWindow.Proofs.Calendar.Months
import TimeWindow.Proofs.DateMath.Periods
import TimeWindow.Proofs.Zone.Naming

/-!
# Rounding to boundaries

In a zone of one offset rounding goes to the boundaries around a reading, and it
succeeds whenever the calendar holds these boundaries, as the clock shows them
and in UTC (`rounding_exact`).
-/

namespace TimeWindow.Proofs.DateMath.Rounding

open TimeWindow.DateMath TimeWindow.Calendar Calendar.Days Calendar.Months
  Calendar.Units Calendar.Boundaries Zone.Conversion Zone.Settling Zone.Steady
  Zone.Naming DateMath.Steady DateMath.Periods Outcome

/-- What a clock at the zone's first offset shows of an instant. -/
def reading (z : Zone) (i : Instant) : Wall :=
  ⟨i.utcTicks + z.base.offset * Calendar.second⟩

/-- The calendar holds the reading, and the one that a clock in UTC shows at the
same time. -/
structure Holds (z : Zone) (w : Wall) : Prop where
  here : w.inRange = true
  utc : (Wall.mk (shown z w).utcTicks).inRange = true

@[simp] theorem reading_shown (z : Zone) (w : Wall) :
    reading z (shown z w) = w := by
  rw [wall_eq_iff]
  change (shown z w).utcTicks + _ = _
  rw [utcTicks_shown]
  omega

theorem utcTicks_reading (z : Zone) (i : Instant) :
    (shown z (reading z i)).utcTicks = i.utcTicks := by
  rw [utcTicks_shown]
  exact Int.add_sub_cancel ..

theorem Holds.between {z : Zone} {b w n : Wall} (hb : Holds z b)
    (hn : Holds z n) (hle : b.ticks ≤ w.ticks) (hle' : w.ticks ≤ n.ticks) :
    Holds z w := by
  obtain ⟨hb, hbutc⟩ := hb
  obtain ⟨hn, hnutc⟩ := hn
  rw [inRange_iff] at hb hbutc hn hnutc
  rw [utcTicks_shown] at hbutc hnutc
  dsimp only at hbutc hnutc
  refine ⟨inRange_iff.2 (by omega), inRange_iff.2 ?_⟩
  rw [utcTicks_shown]
  dsimp only
  omega

/-! ## Months of the calendar -/

theorem monthStart_inRange_iff {k : Int} :
    (Wall.mk (monthStart k * day)).inRange = true ↔ 12 ≤ k ∧ k < 120000 := by
  have hfirst : monthStart 12 = 0 := by decide
  have hlast : monthStart 120000 = 3652059 := by decide
  rw [inRange_iff, ← monthStart_le_iff (j := 12),
    ← monthStart_lt_iff (k := 120000), hfirst, hlast]
  unfold ending day Calendar.hour Calendar.minute Calendar.second
  dsimp only
  omega

theorem addUnits_next {weekStart : WeekStart} {unit : CalendarUnit} {k : Int}
    (h : (unitStart weekStart k unit).inRange = true)
    (h' : (unitStart weekStart (k + 1) unit).inRange = true) :
    (unitStart weekStart k unit).addUnits 1 unit =
      .ok (unitStart weekStart (k + 1) unit) := by
  have hmonths : ∀ {a n}, (Wall.mk (monthStart (a + n) * day)).inRange = true →
      ∃ v, (Wall.mk (monthStart a * day)).addMonths n = .ok v := by
    intro a n hrange
    refine ⟨_, addMonths_eq_ok_iff.2 ⟨?_, rfl⟩⟩
    rw [monthNumber_monthStart]
    exact monthStart_inRange_iff.1 hrange
  suffices hsome : ∃ v, (unitStart weekStart k unit).addUnits 1 unit = .ok v by
    obtain ⟨v, hv⟩ := hsome
    have hvalue :=
      @addUnits_unitStart weekStart unit k 1 0 v (le_refl 0) (by decide)
    simp only [add_zero] at hvalue
    rw [hv, hvalue hv]
  cases unit with
  | year =>
    simp only [unitStart, ← monthStart_january, mul_add] at h' ⊢
    exact hmonths h'
  | quarter =>
    simp only [unitStart, mul_add] at h' ⊢
    exact hmonths h'
  | month => exact hmonths h'
  | _ =>
    refine ⟨_, Wall.checked_eq_ok.2 ⟨rfl, ?_⟩⟩
    convert h' using 2
    simp only [unitStart, Wall.add]
    congr 1
    ring

/-! ## Steps that succeed -/

/-- An offset that ties a wall time to UTC: shorter than a day. -/
def IsAware (i : Instant) : Prop := i.setting.seconds.natAbs < 86400

instance (i : Instant) : Decidable (IsAware i) :=
  inferInstanceAs (Decidable (_ < _))

theorem toUtc_shown {z : Zone} {w : Wall} (hsane : z.Sane) (h : Holds z w) :
    (shown z w).toUtc = .ok ⟨(shown z w).utcTicks⟩ :=
  toUtc_eq_ok.2 ⟨hsane _ List.mem_cons_self, rfl, h.utc⟩

section

variable {z : Zone} (hsteady : z.isConstant = true)

include hsteady

theorem eq_shown_reading {i j : Instant} (h : i.toZone z = .ok j) :
    j = shown z (reading z i) := by
  have hj := toZone_steady hsteady h
  have hticks := toZone_utcTicks h
  rw [hj, utcTicks_shown] at hticks
  have hwall : j.wall = reading z i := by
    rw [wall_eq_iff]
    change j.wall.ticks = i.utcTicks + z.base.offset * Calendar.second
    omega
  rw [hj, hwall]

theorem toZone_reading {i : Instant} (hi : IsAware i)
    (h : Holds z (reading z i)) :
    i.toZone z = .ok (shown z (reading z i)) := by
  have hutc := h.utc
  rw [utcTicks_reading] at hutc
  have hreadable : Readable z i := by
    refine ⟨hutc, ?_⟩
    rw [Zone.periodAt_of_isConstant hsteady]
    exact h.here
  obtain ⟨j, hj, -⟩ := toZone_of_readable hi hreadable
  rw [hj, eq_shown_reading hsteady hj]

theorem ofUtc_shown {w : Wall} (h : Holds z w) :
    z.ofUtc ⟨(shown z w).utcTicks⟩ = .ok (shown z w) := by
  have hwall :
      Wall.add ⟨(shown z w).utcTicks⟩ (z.base.offset * Calendar.second) = w :=
    add_neg_add w _
  refine ofUtc_eq_ok.2 ⟨?_, h.here⟩
  rw [Zone.periodAt_of_isConstant hsteady, hwall]
  rfl

theorem startOf_exact {weekStart : WeekStart} {unit : CalendarUnit}
    {i : Instant} {w : Wall} (hi : i.toZone z = .ok (shown z w))
    (hb : (unitStart weekStart (unitIndex weekStart w unit) unit).inRange = true) :
    startOf i unit z (some weekStart) =
      .ok (shown z (unitStart weekStart (unitIndex weekStart w unit) unit)) := by
  have hstart : (w.startOf weekStart unit).checked =
      .ok (unitStart weekStart (unitIndex weekStart w unit) unit) := by
    rw [startOf_eq]
    exact Wall.checked_eq_ok.2 ⟨rfl, hb⟩
  exact bind_eq_ok.2 ⟨_, hi, bind_eq_ok.2 ⟨_, hstart, localize_steady hsteady _⟩⟩

variable (hsane : z.Sane)

include hsane

theorem shift_exact {unit : CalendarUnit} {amount : Int} {w v : Wall}
    (hw : Holds z w) (hv : Holds z v) (h : w.addUnits amount unit = .ok v) :
    shift (shown z w) amount unit z = .ok (shown z v) := by
  unfold shift
  cases hlength : unit.length? with
  | some length =>
    rw [addUnits_of_length hlength] at h
    obtain ⟨rfl, -⟩ := Wall.checked_eq_ok.1 h
    have hmoved : Wall.mk (shown z (w.add (amount * length))).utcTicks =
        Wall.add ⟨(shown z w).utcTicks⟩ (amount * length) := by
      rw [wall_eq_iff, utcTicks_shown, utcTicks_shown]
      simp only [Wall.add]
      omega
    exact bind_eq_ok.2 ⟨_, toUtc_shown hsane hw,
      bind_eq_ok.2 ⟨_, Wall.checked_eq_ok.2 ⟨hmoved, hmoved ▸ hv.utc⟩,
      ofUtc_shown hsteady hv⟩⟩
  | none =>
    exact bind_eq_ok.2 ⟨_, toZone_shown z w,
      bind_eq_ok.2 ⟨v, h, localize_steady hsteady v⟩⟩

theorem endOf_exact {weekStart : WeekStart} {unit : CalendarUnit}
    {i : Instant} {w : Wall} (hi : i.toZone z = .ok (shown z w))
    (hb : Holds z (unitStart weekStart (unitIndex weekStart w unit) unit))
    (hn : Holds z (unitStart weekStart (unitIndex weekStart w unit + 1) unit)) :
    endOf i unit z (some weekStart) =
      .ok (shown z ((unitStart weekStart (unitIndex weekStart w unit + 1) unit).add
        (-lastMoment))) := by
  have hfirst := unitStart_le_last weekStart unit (unitIndex weekStart w unit)
  have hmoved := addUnits_next hb.here hn.here
  have hstart := startOf_exact hsteady hi hb.here
  generalize unitStart weekStart (unitIndex weekStart w unit) unit = b at *
  generalize unitStart weekStart (unitIndex weekStart w unit + 1) unit = n at *
  have hlast : Holds z (n.add (-lastMoment)) := by
    refine hb.between hn hfirst ?_
    simp only [Wall.add]
    unfold lastMoment
    omega
  have hutc :
      Wall.mk (shown z (n.add (-lastMoment))).utcTicks =
        Wall.add ⟨(shown z n).utcTicks⟩ (-lastMoment) := by
    rw [wall_eq_iff, utcTicks_shown, utcTicks_shown]
    simp only [Wall.add]
    omega
  refine bind_eq_ok.2
    ⟨_, hstart, bind_eq_ok.2 ⟨_, shift_exact hsteady hsane hb hn hmoved, ?_⟩⟩
  refine bind_eq_ok.2 ⟨_, toUtc_shown hsane hn, ?_⟩
  exact bind_eq_ok.2 ⟨_, Wall.checked_eq_ok.2 ⟨hutc, hutc ▸ hlast.utc⟩,
    ofUtc_shown hsteady hlast⟩

end

/-! ## Where rounding leads -/

/-- The instant is rounded to `b`, and to a millisecond before `n`. -/
structure RoundsTo (z : Zone) (weekStart : WeekStart) (unit : CalendarUnit)
    (i : Instant) (b n : Wall) : Prop where
  start : startOf i unit z (some weekStart) = .ok (shown z b)
  stop : endOf i unit z (some weekStart) = .ok (shown z (n.add (-millisecond)))

def KeepsOrder (round : Instant → Except Fault Instant) : Prop :=
  ∀ {i i' j j'}, i.utcTicks ≤ i'.utcTicks → round i = .ok j →
    round i' = .ok j' → j.utcTicks ≤ j'.utcTicks

theorem reading_le {i i' : Instant} (z : Zone) (h : i.utcTicks ≤ i'.utcTicks) :
    (reading z i).ticks ≤ (reading z i').ticks := by
  unfold reading
  dsimp only
  omega

/-- A rounding that only looks at the reading, and keeps the order of readings,
keeps the order of instants. -/
theorem keepsOrder_of_reading {z : Zone}
    {round : Instant → Except Fault Instant} {target : Wall → Wall}
    (hround : ∀ {i j}, round i = .ok j → j = shown z (target (reading z i)))
    (htarget : ∀ {w v : Wall}, w.ticks ≤ v.ticks →
      (target w).ticks ≤ (target v).ticks) :
    KeepsOrder round := by
  intro i i' j j' hle hj hj'
  have htargets := htarget (reading_le z hle)
  rw [hround hj, hround hj', utcTicks_shown, utcTicks_shown]
  omega

section

variable {z : Zone} {weekStart : WeekStart} {unit : CalendarUnit}
  (hsteady : z.isConstant = true)

include hsteady

theorem roundsTo_of_around (hsane : z.Sane) {i : Instant} {b n : Wall}
    (hi : IsAware i)
    (h : Around (IsBoundary weekStart unit) (reading z i) b n)
    (hb : Holds z b) (hn : Holds z n) :
    RoundsTo z weekStart unit i b n := by
  obtain ⟨rfl, rfl⟩ := (around_unit weekStart unit (reading z i)).unique h
  have hzone := toZone_reading hsteady hi (hb.between hn h.le h.lt.le)
  exact ⟨startOf_exact hsteady hzone hb.here,
    endOf_exact hsteady hsane hzone hb hn⟩

theorem startOf_reading {i j : Instant}
    (h : startOf i unit z (some weekStart) = .ok j) :
    j = shown z
      (unitStart weekStart (unitIndex weekStart (reading z i) unit) unit) := by
  obtain ⟨here, hhere, hrest⟩ := bind_eq_ok.1 h
  rw [eq_shown_reading hsteady hhere] at hrest
  exact startOf_shown hsteady (bind_eq_ok.2 ⟨_, toZone_shown z _, hrest⟩)

theorem endOf_reading {i j : Instant}
    (h : endOf i unit z (some weekStart) = .ok j) :
    j = shown z ((unitStart weekStart
      (unitIndex weekStart (reading z i) unit + 1) unit).add (-lastMoment)) := by
  obtain ⟨start, hstart, hrest⟩ := bind_eq_ok.1 h
  obtain ⟨here, hhere, hfirst⟩ := bind_eq_ok.1 hstart
  rw [eq_shown_reading hsteady hhere] at hfirst
  exact endOf_shown hsteady
    (bind_eq_ok.2 ⟨start, bind_eq_ok.2 ⟨_, toZone_shown z _, hfirst⟩, hrest⟩)

theorem round_keepsOrder (roundUp : Bool) : KeepsOrder fun i =>
    if roundUp then endOf i unit z (some weekStart)
      else startOf i unit z (some weekStart) := by
  have hbounds := fun {w v : Wall} (hle : w.ticks ≤ v.ticks) =>
    (around_unit weekStart unit w).mono (around_unit weekStart unit v) hle
  intro i i' j j'
  cases roundUp with
  | false =>
    exact keepsOrder_of_reading (startOf_reading hsteady) fun hle =>
      (hbounds hle).1
  | true =>
    exact keepsOrder_of_reading (endOf_reading hsteady) fun hle =>
      Int.add_le_add_right (hbounds hle).2 _

end

/-- **Rounding is exact in zones of one offset.**  Around every reading there
are two boundaries of each unit: the last one that is not after it, and the
first one after it.  As long as the calendar holds them, an instant with this
reading is rounded to the one and to a millisecond before the other, and so are
these two roundings themselves; and neither rounding ever puts two instants out
of order. -/
theorem rounding_exact {z : Zone} (hsteady : z.isConstant = true)
    (hsane : z.Sane) (weekStart : WeekStart) (unit : CalendarUnit) :
    (∀ w, ∃ b n, Around (IsBoundary weekStart unit) w b n) ∧
    (∀ i b n, IsAware i → Around (IsBoundary weekStart unit) (reading z i) b n →
      Holds z b → Holds z n →
      RoundsTo z weekStart unit i b n ∧
      RoundsTo z weekStart unit (shown z b) b n ∧
      RoundsTo z weekStart unit (shown z (n.add (-millisecond))) b n) ∧
    KeepsOrder (fun i => startOf i unit z (some weekStart)) ∧
    KeepsOrder (fun i => endOf i unit z (some weekStart)) := by
  refine ⟨fun w => ⟨_, _, around_unit weekStart unit w⟩, ?_,
    round_keepsOrder hsteady false, round_keepsOrder hsteady true⟩
  intro i b n hi h hb hn
  have hshown :
      ∀ w : Wall, b.ticks ≤ w.ticks → w.ticks < n.ticks →
        RoundsTo z weekStart unit (shown z w) b n := by
    intro w hle hlt
    refine roundsTo_of_around hsteady hsane (hsane _ List.mem_cons_self) ?_ hb hn
    rw [reading_shown]
    exact h.of_between hle hlt
  have hlast : b.ticks ≤ (n.add (-lastMoment)).ticks := by
    obtain ⟨rfl, rfl⟩ := (around_unit weekStart unit (reading z i)).unique h
    exact unitStart_le_last weekStart unit _
  have hbefore : (n.add (-lastMoment)).ticks < n.ticks := by
    simp only [Wall.add]
    unfold lastMoment
    omega
  exact ⟨roundsTo_of_around hsteady hsane hi h hb hn,
    hshown b (le_refl _) (h.le.trans_lt h.lt), hshown _ hlast hbefore⟩

theorem rounding_exact_new_year :
    RoundsTo (Zone.west 5) .monday .week
      (.ofUtc (.onDate ⟨2025, 1, 1⟩ (3 * Calendar.hour)))
      (.onDate ⟨2024, 12, 30⟩ 0) (.onDate ⟨2025, 1, 6⟩ 0) := by
  have haround : Around (IsBoundary .monday .week)
      (reading (Zone.west 5) (.ofUtc (.onDate ⟨2025, 1, 1⟩ (3 * Calendar.hour))))
      (.onDate ⟨2024, 12, 30⟩ 0) (.onDate ⟨2025, 1, 6⟩ 0) :=
    around_unit .monday .week _
  exact ((rounding_exact rfl (by decide) .monday .week).2.1 _ _ _ (by decide)
    haround ⟨by decide, by decide⟩
    ⟨by decide, by decide⟩).1

end TimeWindow.Proofs.DateMath.Rounding

import TimeWindow.Proofs.Calendar.Months
import TimeWindow.Proofs.DateMath.Holding
import TimeWindow.Proofs.DateMath.Order
import TimeWindow.Proofs.DateMath.Rounding

/-!
# Laws of shifting

Years, quarters and weeks are months and days by another name, in every zone.
In a zone of one offset shifts by even units add up; shifts by months do from
the first 28 days of a month on, and then a shift back undoes a shift
(`shift_laws`).
-/

namespace TimeWindow.Proofs.DateMath.ShiftLaws

open TimeWindow.DateMath TimeWindow.Calendar Calendar.Months Calendar.Units
  Zone.Conversion Zone.Settling Zone.Steady DateMath.Holding DateMath.Order
  DateMath.Rounding Outcome

/-- Two shifts in a row lead where one shift by the sum does. -/
def AddsUp (z : Zone) (unit : CalendarUnit) (i : Instant) : Prop :=
  ∀ (a b : Int) (x y : Instant), shift i a unit z = .ok x →
    shift x b unit z = .ok y → shift i (a + b) unit z = .ok y

/-- A shift and the same shift back lead to the instant as the zone expresses
it. -/
def CanBeUndone (z : Zone) (unit : CalendarUnit) (i : Instant) : Prop :=
  ∀ (a : Int) (x : Instant), shift i a unit z = .ok x →
    shift x (-a) unit z = i.toZone z

variable {z : Zone}

/-! ## On the time line -/

theorem addsUp_of_length {unit : CalendarUnit} {length : Int}
    (hlength : unit.length? = some length) (i : Instant) :
    AddsUp z unit i := by
  intro a b x y hx hy
  unfold shift at hx hy ⊢
  rw [hlength] at hx hy ⊢
  obtain ⟨u, hu, hx⟩ := bind_eq_ok.1 hx
  obtain ⟨moved, hmoved, hx⟩ := bind_eq_ok.1 hx
  obtain ⟨u', hu', hy⟩ := bind_eq_ok.1 hy
  obtain ⟨-, rfl, -⟩ := toUtc_eq_ok.1 hu'
  obtain ⟨rfl, -⟩ := Wall.checked_eq_ok.1 hmoved
  have hsum :
      (Wall.mk x.utcTicks).add (b * length) = u.add ((a + b) * length) := by
    rw [ofUtc_utcTicks hx]
    simp only [Wall.add]
    congr 1
    ring
  rw [hsum] at hy
  exact bind_eq_ok.2 ⟨u, hu, hy⟩

/-! ## On the calendar -/

section

variable (hsteady : z.isConstant = true)

include hsteady

theorem shift_calendar_iff {unit : CalendarUnit}
    (hlength : unit.length? = none) {i j : Instant} {n : Int} :
    shift i n unit z = .ok j ↔
      ∃ here v, i.toZone z = .ok here ∧ here.wall.addUnits n unit = .ok v ∧
        j = shown z v := by
  unfold shift
  rw [hlength]
  constructor
  · intro h
    obtain ⟨here, hhere, h⟩ := bind_eq_ok.1 h
    obtain ⟨v, hv, h⟩ := bind_eq_ok.1 h
    rw [localize_steady hsteady] at h
    cases h
    exact ⟨here, v, hhere, hv, rfl⟩
  · rintro ⟨here, v, hhere, hv, rfl⟩
    exact bind_eq_ok.2
      ⟨here, hhere, bind_eq_ok.2 ⟨v, hv, localize_steady hsteady v⟩⟩

theorem addsUp_of_readings {unit : CalendarUnit} {i : Instant}
    (hlength : unit.length? = none)
    (h : ∀ a b v t, (reading z i).addUnits a unit = .ok v →
      v.addUnits b unit = .ok t → (reading z i).addUnits (a + b) unit = .ok t) :
    AddsUp z unit i := by
  intro a b x y hx hy
  obtain ⟨here, v, hhere, hv, rfl⟩ := (shift_calendar_iff hsteady hlength).1 hx
  obtain ⟨here', t, hhere', ht, rfl⟩ := (shift_calendar_iff hsteady hlength).1 hy
  rw [toZone_shown] at hhere'
  cases hhere'
  have hshown := eq_shown_reading hsteady hhere
  subst hshown
  exact (shift_calendar_iff hsteady hlength).2 ⟨_, t, hhere, h a b v t hv ht, rfl⟩

theorem addsUp_of_even {unit : CalendarUnit} {length : Int}
    (heven : evenLength? unit = some length) (i : Instant) :
    AddsUp z unit i := by
  cases hlength : unit.length? with
  | some length => exact addsUp_of_length hlength i
  | none =>
    apply addsUp_of_readings hsteady hlength
    intro a b v t hv ht
    rw [addUnits_of_even heven] at hv ht ⊢
    obtain ⟨rfl, -⟩ := Wall.checked_eq_ok.1 hv
    have hsum :
        ((reading z i).add (a * length)).add (b * length) =
          (reading z i).add ((a + b) * length) := by
      simp only [Wall.add]
      congr 1
      ring
    rw [← hsum]
    exact ht

/-! ## By months -/

theorem shift_month_ok {i here : Instant} {n : Int}
    (hhere : i.toZone z = .ok here)
    (h : InYears ((reading z i).date.monthNumber + n)) :
    ∃ v, shift i n .month z = .ok (shown z v) ∧
      MonthsLater n (reading z i) v := by
  have hshown := eq_shown_reading hsteady hhere
  subst hshown
  have hmoved : (reading z i).addMonths n = .ok _ :=
    addMonths_eq_ok_iff.2 ⟨h, rfl⟩
  exact ⟨_, (shift_calendar_iff hsteady rfl).2 ⟨_, _, hhere, hmoved, rfl⟩,
    monthsLater_of_addMonths hmoved⟩

theorem addsUp_of_day {i : Instant} (hday : (reading z i).date.day ≤ 28) :
    AddsUp z .month i :=
  addsUp_of_readings hsteady rfl fun _ _ _ _ hv ht => addMonths_add hday hv ht

theorem canBeUndone_of_day {i : Instant} (hi : i.wall.inRange = true)
    (hday : (reading z i).date.day ≤ 28) :
    CanBeUndone z .month i := by
  intro a x h
  obtain ⟨here, v, hhere, hv, rfl⟩ := (shift_calendar_iff hsteady rfl).1 h
  have hrange := (toZone_held hi here hhere).inRange
  have hshown := eq_shown_reading hsteady hhere
  subst hshown
  have hback : v.addUnits (-a) .month = .ok (reading z i) :=
    addMonths_neg hrange hday hv
  rw [hhere]
  exact (shift_calendar_iff hsteady rfl).2 ⟨_, _, toZone_shown z v, hback, rfl⟩

end

/-- **The laws of shifting.**  In every zone a shift by years, quarters or weeks
is one by twelve or three times as many months, or seven times as many days.  In
a zone of one offset shifts by weeks and all shorter units add up; months move
the month number by just as many and keep the time of day, and the day as far as
there is one; and from the first 28 days of a month on, shifts by months add up
as well, and a shift back undoes a shift. -/
theorem shift_laws (z : Zone) :
    (∀ i a, shift i a .year z = shift i (12 * a) .month z ∧
      shift i a .quarter z = shift i (3 * a) .month z ∧
      shift i a .week z = shift i (7 * a) .day z) ∧
    (z.isConstant = true → ∀ i : Instant, i.wall.inRange = true →
      (∀ unit ∈ [CalendarUnit.second, .minute, .hour, .day, .week],
        AddsUp z unit i) ∧
      (∀ a here, i.toZone z = .ok here →
        InYears ((reading z i).date.monthNumber + a) →
        ∃ v, shift i a .month z = .ok (shown z v) ∧
          MonthsLater a (reading z i) v) ∧
      ((reading z i).date.day ≤ 28 →
        AddsUp z .month i ∧ CanBeUndone z .month i)) := by
  refine ⟨fun i a => ⟨rfl, rfl, rfl⟩, fun hsteady i hi => ⟨?_, ?_, ?_⟩⟩
  · intro unit hunit
    have heven : ∃ length, evenLength? unit = some length := by
      simp only [List.mem_cons, List.not_mem_nil, or_false] at hunit
      rcases hunit with rfl | rfl | rfl | rfl | rfl <;> exact ⟨_, rfl⟩
    obtain ⟨length, heven⟩ := heven
    exact addsUp_of_even hsteady heven i
  · exact fun a here hhere h => shift_month_ok hsteady hhere h
  · exact fun hday =>
      ⟨addsUp_of_day hsteady hday, canBeUndone_of_day hsteady hi hday⟩

/-- Three hours into a day of 2024 in UTC, which is ten in the evening of the
day before at five hours west. -/
def early (month day : Int) : Instant :=
  .ofUtc (.onDate ⟨2024, month, day⟩ (3 * Calendar.hour))

/-- A month from the evening of 31 January leads to a leap day; from that of 28
March, months can be taken back. -/
theorem shift_laws_leap_day :
    (∃ v, shift (early 2 1) 1 .month (Zone.west 5) = .ok (shown (Zone.west 5) v) ∧
      MonthsLater 1 (reading (Zone.west 5) (early 2 1)) v) ∧
    CanBeUndone (Zone.west 5) .month (early 3 29) := by
  have hlaws := (shift_laws (Zone.west 5)).2 rfl
  have hhere :
      (early 2 1).toZone (Zone.west 5) =
        .ok (shown (Zone.west 5) (reading (Zone.west 5) (early 2 1))) := by
    decide +kernel
  exact ⟨(hlaws (early 2 1) (by decide)).2.1 1 _ hhere (by decide +kernel),
    ((hlaws (early 3 29) (by decide)).2.2 (by decide +kernel)).2⟩

end TimeWindow.Proofs.DateMath.ShiftLaws

import TimeWindow.DateMath.Shift
import TimeWindow.Proofs.Calendar.Units
import TimeWindow.Proofs.Zone.Conversion

/-!
# What shifting and rounding do to instants

Hours, minutes and seconds move the instant, all other units move what the clock
shows, and the offset that is attached behind either is left open.
-/

namespace TimeWindow.Proofs.DateMath.Shift

open TimeWindow.DateMath Calendar.Units Zone.Conversion Outcome

theorem shift_utcTicks {i j : Instant} {amount length : Int}
    {unit : CalendarUnit} {z : Zone} (hlength : unit.length? = some length)
    (h : shift i amount unit z = .ok j) :
    j.utcTicks = i.utcTicks + amount * length := by
  unfold shift at h
  rw [hlength] at h
  obtain ⟨u, hu, h⟩ := bind_eq_ok.1 h
  obtain ⟨moved, hmoved, h⟩ := bind_eq_ok.1 h
  obtain ⟨-, rfl, -⟩ := toUtc_eq_ok.1 hu
  obtain ⟨rfl, -⟩ := Wall.checked_eq_ok.1 hmoved
  rw [ofUtc_utcTicks h]
  rfl

theorem shift_wall {i j : Instant} {amount : Int} {unit : CalendarUnit}
    {z : Zone} (hlength : unit.length? = none)
    (h : shift i amount unit z = .ok j) :
    ∃ here, i.toZone z = .ok here ∧
      here.wall.addUnits amount unit = .ok j.wall := by
  unfold shift at h
  rw [hlength] at h
  obtain ⟨here, hhere, h⟩ := bind_eq_ok.1 h
  obtain ⟨moved, hmoved, h⟩ := bind_eq_ok.1 h
  exact ⟨here, hhere, by rw [localize_wall h, hmoved]⟩

theorem startOf_wall {i here start : Instant} {unit : CalendarUnit} {z : Zone}
    {weekStart : WeekStart} (hhere : i.toZone z = .ok here)
    (h : startOf i unit z (some weekStart) = .ok start) :
    start.wall =
      unitStart weekStart (unitIndex weekStart here.wall unit) unit := by
  unfold startOf at h
  rw [hhere] at h
  obtain ⟨first, hfirst, h⟩ := bind_eq_ok.1 h
  cases hfirst
  obtain ⟨begin, hbegin, h⟩ := bind_eq_ok.1 h
  rw [localize_wall h, checked_ok hbegin, startOf_eq]

theorem endOf_utcTicks {i stop : Instant} {unit : CalendarUnit} {z : Zone}
    {weekStart : Option WeekStart} (h : endOf i unit z weekStart = .ok stop) :
    ∃ start next, startOf i unit z weekStart = .ok start ∧
      shift start 1 unit z = .ok next ∧
      stop.utcTicks = next.utcTicks - lastMoment := by
  unfold endOf at h
  obtain ⟨start, hstart, h⟩ := bind_eq_ok.1 h
  obtain ⟨next, hnext, h⟩ := bind_eq_ok.1 h
  obtain ⟨u, hu, h⟩ := bind_eq_ok.1 h
  obtain ⟨last, hlast, h⟩ := bind_eq_ok.1 h
  obtain ⟨-, rfl, -⟩ := toUtc_eq_ok.1 hu
  obtain ⟨rfl, -⟩ := Wall.checked_eq_ok.1 hlast
  refine ⟨start, next, hstart, hnext, ?_⟩
  rw [ofUtc_utcTicks h]
  rfl

end TimeWindow.Proofs.DateMath.Shift

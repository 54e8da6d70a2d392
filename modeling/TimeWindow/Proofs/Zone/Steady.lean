import TimeWindow.Proofs.Zone.Conversion

/-!
# Zones that keep one offset

In such a zone an instant and what the clock shows determine each other, so
every instant of the zone is `shown` by one reading.
-/

namespace TimeWindow.Proofs.Zone.Steady

open Outcome Conversion

/-- The instant at which the zone's first period shows a reading. -/
def shown (z : Zone) (w : Wall) : Instant := ⟨w, .period z.kind z.base⟩

@[simp] theorem wall_shown (z : Zone) (w : Wall) : (shown z w).wall = w := rfl

theorem utcTicks_shown (z : Zone) (w : Wall) :
    (shown z w).utcTicks = w.ticks - z.base.offset * Calendar.second := rfl

@[simp] theorem toZone_shown (z : Zone) (w : Wall) :
    (shown z w).toZone z = .ok (shown z w) := by
  simp [Instant.toZone, shown]

variable {z : Zone} (hsteady : z.isConstant = true)

include hsteady

theorem localize_steady (w : Wall) : z.localize w = .ok (shown z w) := by
  unfold Zone.localize
  rw [if_pos hsteady]
  rfl

theorem ofUtc_steady {u : Wall} {i : Instant} (h : z.ofUtc u = .ok i) :
    i = shown z (u.add (z.base.offset * Calendar.second)) := by
  obtain ⟨rfl, -⟩ := ofUtc_eq_ok.1 h
  rw [Zone.periodAt_of_isConstant hsteady]
  rfl

theorem toZone_steady {i j : Instant} (h : i.toZone z = .ok j) :
    j = shown z j.wall := by
  unfold Instant.toZone at h
  split at h
  · rename_i hsetting
    cases h
    rw [shown, ← hsetting]
  · obtain ⟨u, -, h⟩ := bind_eq_ok.1 h
    rw [ofUtc_steady hsteady h]
    rfl

theorem momentToZone_steady {m : Moment} {j : Instant}
    (h : m.toZone z = .ok j) :
    j = shown z j.wall := by
  cases m with
  | plain w =>
    have hplain : z.localize w = .ok j := h
    rw [localize_steady hsteady] at hplain
    cases hplain
    rfl
  | fixed i => exact toZone_steady hsteady h

end TimeWindow.Proofs.Zone.Steady

import TimeWindow.Proofs.Number.Seconds
import TimeWindow.Proofs.Range.Distances

/-!
# From a range to distances and back

A distance is taken between instants and applied to the reading of a reference
that keeps its offset, so that a range comes back as the same instants read at
that offset (`seenFrom`).  Such a reading can lie outside the calendar although
the instant was written inside it, and then there is no way back.
-/

namespace TimeWindow.Proofs.Range.RoundTrip

open TimeWindow.DateMath Number.Seconds Distances

/-- An instant read at the offset of another one. -/
def seenFrom (n i : Instant) : Instant :=
  ⟨⟨i.utcTicks + n.setting.seconds * Calendar.second⟩, n.setting⟩

section

variable {n i j : Instant}

theorem seenFrom_utcTicks (n i : Instant) :
    (seenFrom n i).utcTicks = i.utcTicks :=
  Int.add_sub_cancel ..

theorem seenFrom_eq_self : seenFrom n j = n ↔ j.utcTicks = n.utcTicks := by
  constructor
  · intro h
    rw [← seenFrom_utcTicks n j, h]
  · intro h
    have hticks :
        n.utcTicks + n.setting.seconds * Calendar.second = n.wall.ticks := by
      unfold Instant.utcTicks
      omega
    unfold seenFrom
    rw [h, hticks]

/-! ## One end -/

theorem back_distance (n i : Instant) :
    (Moment.fixed n).back (n.utcTicks - i.utcTicks) =
      if (seenFrom n i).wall.inRange then .ok (.fixed (seenFrom n i))
        else .error .beyondCalendar := by
  have hwall :
      n.wall.add (-(n.utcTicks - i.utcTicks)) = (seenFrom n i).wall := by
    have hticks :
        n.wall.ticks + -(n.utcTicks - i.utcTicks) =
          i.utcTicks + n.setting.seconds * Calendar.second := by
      unfold Instant.utcTicks
      omega
    exact congrArg Wall.mk hticks
  unfold Moment.back Instant.addWall
  dsimp only
  rw [hwall]
  unfold Wall.checked
  split <;> rfl

theorem atDistance_inSeconds
    (h : (n.utcTicks - i.utcTicks).natAbs < 2 ^ 33 * 1000000) :
    TimeRange.atDistance (.fixed n)
      (some (.real (Epoch.inSeconds (n.utcTicks - i.utcTicks)))) =
      if (seenFrom n i).wall.inRange then .ok (.fixed (seenFrom n i))
        else .error .beyondCalendar := by
  unfold TimeRange.atDistance
  dsimp only
  rw [microseconds_inSeconds h]
  exact back_distance n i

/-! ## Both ends -/

variable {p : Present}

theorem ofRelative_inSeconds (hnow : TimeRange.referenceMoment p = .fixed n)
    (hn : n.wall.inRange = true)
    (hi : (n.utcTicks - i.utcTicks).natAbs < 2 ^ 33 * 1000000)
    (hj : (n.utcTicks - j.utcTicks).natAbs < 2 ^ 33 * 1000000) :
    TimeRange.ofRelative p
      (some (.real (Epoch.inSeconds (n.utcTicks - i.utcTicks))))
        (some (.real (Epoch.inSeconds (n.utcTicks - j.utcTicks)))) =
      if (seenFrom n i).wall.inRange && (seenFrom n j).wall.inRange then
        .ok (.ofMoments (some (.fixed (seenFrom n i)))
          (some (.fixed (seenFrom n j))))
      else .error .beyondCalendar := by
  unfold TimeRange.ofRelative
  dsimp only [Option.map_some, Option.getD_some]
  rw [hnow, atDistance_inSeconds hi]
  by_cases hzero :
    (Number.real (Epoch.inSeconds (n.utcTicks - j.utcTicks))).isZero = true
  · -- an end at the reference is not computed, and its reading is that of the
    -- reference
    have hsame : seenFrom n j = n := by
      have hdistance := (isZero_inSeconds hj).1 hzero
      exact seenFrom_eq_self.2 (by omega)
    simp only [if_pos hzero]
    rw [hsame, hn]
    cases (seenFrom n i).wall.inRange <;> rfl
  · simp only [if_neg hzero]
    rw [atDistance_inSeconds hj]
    cases (seenFrom n i).wall.inRange
      <;> cases (seenFrom n j).wall.inRange <;> rfl

/-- A range within `2 ^ 33` seconds of the reference comes back from its
distances, to the microsecond, if the calendar holds both readings at the offset
of the reference; its end is the reference itself exactly if it was the same
instant.  If the calendar does not hold one of the readings, the distances
cannot be applied. -/
theorem ofRelative_toRelative {r : TimeRange}
    (hnow : TimeRange.referenceMoment p = .fixed n)
    (hn : n.wall.inRange = true) (hstart : r.start = some (.fixed i))
    (hstop : r.stop = some (.fixed j))
    (hi : (n.utcTicks - i.utcTicks).natAbs < 2 ^ 33 * 1000000)
    (hj : (n.utcTicks - j.utcTicks).natAbs < 2 ^ 33 * 1000000) :
    (∃ a b, r.toRelative p = .ok (a, b) ∧
      TimeRange.ofRelative p (some (.real a)) (some (.real b)) =
        if (seenFrom n i).wall.inRange && (seenFrom n j).wall.inRange then
          .ok (.ofMoments (some (.fixed (seenFrom n i)))
            (some (.fixed (seenFrom n j))))
        else .error .beyondCalendar) ∧
      (seenFrom n i).utcTicks = i.utcTicks ∧
      (seenFrom n j).utcTicks = j.utcTicks ∧
      (seenFrom n j = n ↔ j.utcTicks = n.utcTicks) := by
  refine ⟨⟨Epoch.inSeconds (n.utcTicks - i.utcTicks), Epoch.inSeconds
    (n.utcTicks - j.utcTicks), ?_, ofRelative_inSeconds hnow hn hi hj⟩,
    seenFrom_utcTicks n i, seenFrom_utcTicks n j, seenFrom_eq_self⟩
  unfold TimeRange.toRelative TimeRange.distance
  rw [hnow, hstart, hstop]
  rfl

end

/-- What is present beside a reference that shows some microseconds at an
offset. -/
def besideOffset (ticks seconds : Int) : Present where
  clock := ⟨0⟩
  now := some (.fixed ⟨⟨ticks⟩, .offset seconds⟩)

theorem half_minute_returns :
    ∃ a b,
      TimeRange.toRelative (besideOffset 4630000001 3600)
        (.ofMoments (some (.fixed (.ofUtc ⟨1000000000⟩)))
          (some (.fixed (.ofUtc ⟨1030000001⟩)))) = .ok (a, b) ∧
      TimeRange.ofRelative (besideOffset 4630000001 3600) (some (.real a))
        (some (.real b)) =
        .ok (.ofMoments (some (.fixed ⟨⟨4600000000⟩, .offset 3600⟩))
          (some (.fixed ⟨⟨4630000001⟩, .offset 3600⟩))) :=
  (ofRelative_toRelative (n := ⟨⟨4630000001⟩, .offset 3600⟩)
    (i := .ofUtc ⟨1000000000⟩)
    (j := .ofUtc ⟨1030000001⟩) rfl (by decide) rfl rfl (by decide) (by decide)).1

/-- The first instant of the calendar read five hours west of UTC lies before
the calendar. -/
theorem first_instant_does_not_return :
    (TimeRange.toRelative (besideOffset 86400000000 (-18000))
        (.ofMoments (some (.fixed (.ofUtc ⟨0⟩))) (some (.fixed (.ofUtc ⟨0⟩)))) =
      .ok (.finite 104400, .finite 104400)) ∧
      TimeRange.ofRelative (besideOffset 86400000000 (-18000))
        (some (.real (.finite 104400))) (some (.real (.finite 104400))) =
          .error .beyondCalendar := by
  decide +kernel

end TimeWindow.Proofs.Range.RoundTrip

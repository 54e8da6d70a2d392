import TimeWindow.Range.Relative
import TimeWindow.Proofs.DateMath.Holding
import TimeWindow.Proofs.Number.Grid
import TimeWindow.Proofs.Range.Resolution
import TimeWindow.Proofs.Reading.DefaultDate
import TimeWindow.Proofs.Zone.Naming

/-!
# Distances of a resolved range

The sides of a resolved range are instants that the zone holds, so that their
distances from an instant are finite doubles (`toRelative_fixed`).  From a
reference without an offset they have no distance (`toRelative_plain`).
-/

namespace TimeWindow.Proofs.Range.Distances

open TimeWindow.DateMath TimeWindow.Text Outcome DateMath.Expression
  DateMath.Holding Number.Grid Range.Resolution Reading.DefaultDate
  Zone.Conversion Zone.Settling Zone.Naming

/-! ## Moments of the calendar -/

theorem isoMoment_inRange {d : Date} {t : Iso.TimeOfDay} {m : Moment}
    (h : Iso.moment? d t = some m) :
    m.wall.inRange = true := by
  unfold Iso.moment? at h
  simp only [Option.bind_eq_bind, Option.pure_def, Option.bind_none] at h
  obtain ⟨wall, -, h⟩ := Option.bind_eq_some_iff.1 h
  rw [Option.ite_none_left_eq_some, Option.some_inj] at h
  obtain ⟨hrange, rfl⟩ := h
  rw [Bool.not_eq_true', Bool.not_eq_false] at hrange
  cases t.offset <;> exact hrange

theorem isoMoment_of_iso {s : String} {m : Moment} (h : Iso.read? s = some m) :
    ∃ d t, Iso.moment? d t = some m := by
  unfold Iso.read? at h
  dsimp only at h
  split at h
  · cases h
  · obtain ⟨⟨date, rest⟩, -, h⟩ := Option.bind_eq_some_iff.1 h
    dsimp only at h
    split at h
    · exact ⟨_, _, h⟩
    · obtain ⟨t, -, h⟩ := Option.bind_eq_some_iff.1 h
      exact ⟨_, _, h⟩

theorem iso_inRange {s : String} {m : Moment} (h : Iso.read? s = some m) :
    m.wall.inRange = true := by
  obtain ⟨d, t, hm⟩ := isoMoment_of_iso h
  exact isoMoment_inRange hm

theorem freeForm_inRange {s : String} {d : FreeForm.Defaults} {m : Moment}
    (h : FreeForm.read s d = .ok (some m)) :
    m.wall.inRange = true := by
  obtain ⟨f, wall, -, rfl, hrange⟩ := read_eq_some h
  unfold tied
  split <;> exact hrange

theorem epoch_inRange (n : Number) :
    Gives (fun i => i.wall.inRange = true) (Epoch.instant n) := by
  have hcounted :
      ∀ t, Gives (fun i => i.wall.inRange = true) (Epoch.ofMicroseconds t) := by
    intro t
    unfold Epoch.ofMicroseconds
    dsimp only
    split
    · exact gives_error _
    · split
      · exact gives_error _
      · split
        · rename_i h
          exact gives_ok h
        · exact gives_error _
  unfold Epoch.instant
  split
  · dsimp only
    split
    · exact hcounted _
    · exact gives_error _
  · exact gives_error _
  · exact gives_error _
  · exact hcounted _
  · exact hcounted _

/-! ## Resolved sides -/

def HeldAnswer (z : Zone) (o : Option Instant) : Prop :=
  ∀ i, o = some i → Held z i

theorem heldAnswer_some {z : Zone} {i : Instant} (h : Held z i) :
    HeldAnswer z (some i) := by
  intro j hj
  cases hj
  exact h

theorem heldAnswer_none (z : Zone) : HeldAnswer z none := nofun

def Present.InCalendar (p : Present) : Prop :=
  (p.now.getD (.fixed (.ofUtc p.clock))).wall.inRange = true

def Source.InCalendar (s : Source) : Prop :=
  ∀ m, s = .moment m → m.wall.inRange = true

section

variable {rules : Rules} {weekStart : WeekStart} {p : Present}

theorem reference_held (hp : Present.InCalendar p) (z : Zone) :
    Gives (Held z) (p.reference z) :=
  momentToZone_held hp

theorem parseIso_held (s : String) (z : Zone) :
    Gives (HeldAnswer z) (parseIso s z) := by
  unfold parseIso
  split
  · exact gives_ok (heldAnswer_none z)
  · rename_i m hm
    exact (momentToZone_held (iso_inRange hm)).bind fun i hi =>
      gives_ok (heldAnswer_some hi)

theorem anchor_held (hp : Present.InCalendar p) (rules : Rules)
    (cs : List Char) :
    Gives (fun answer => HeldAnswer rules.zone answer.1) (anchor rules p cs) := by
  unfold anchor
  split
  · exact (reference_held hp _).bind fun i hi => gives_ok (heldAnswer_some hi)
  · exact (parseIso_held _ _).bind fun o ho => gives_ok ho

theorem parseText_held (hweek : rules.weekStart = some weekStart)
    (hp : Present.InCalendar p) (s : String) :
    Gives (HeldAnswer rules.zone) (parseText rules p s) := by
  refine (anchor_held hp rules s.toList).bind fun answer hanswer => ?_
  split
  · exact gives_ok (heldAnswer_none _)
  · rename_i i math
    exact evaluate_held hweek (hanswer i rfl) math

theorem fallBack_held (hweek : rules.weekStart = some weekStart)
    (hp : Present.InCalendar p) (s : String) :
    Gives (HeldAnswer rules.zone) (fallBack rules p s) := by
  refine (parseText_held hweek hp s).bind fun o ho => ?_
  cases o with
  | some i => exact gives_ok ho
  | none =>
    exact (reference_held hp _).bind fun i hi => gives_ok (heldAnswer_some hi)

theorem parseAbsolute_held (p : Present) (s : String) (z : Zone) :
    Gives (HeldAnswer z) (parseAbsolute p.clock s z p.pivotYear) := by
  intro o h i hi
  subst hi
  obtain ⟨m, hm, hi⟩ := parseAbsolute_eq_some h
  exact momentToZone_held (freeForm_inRange hm) i hi

theorem parseInstant_held {e : Engine} {call : Engine.Call}
    (hrules : e.rules call = .ok rules)
    (hweek : rules.weekStart = some weekStart) (hp : Present.InCalendar p)
    {side : Source} (hside : Source.InCalendar side) :
    Gives (HeldAnswer rules.zone) (e.parseInstant call p side) := by
  cases side with
  | text s =>
    rw [parseInstant_text hrules]
    split
    · exact fallBack_held hweek hp s
    · exact parseAbsolute_held _ s _
  | moment m =>
    unfold Engine.parseInstant
    rw [hrules]
    exact (momentToZone_held (hside m rfl)).bind fun i hi =>
      gives_ok (heldAnswer_some hi)
  | number n =>
    unfold Engine.parseInstant
    rw [hrules]
    exact (epoch_inRange n).bind fun i hi => (toZone_held hi).bind fun j hj =>
      gives_ok (heldAnswer_some hj)
  | flag | collection | absent =>
    unfold Engine.parseInstant
    rw [hrules]
    exact gives_ok (heldAnswer_none _)

end

theorem resolve_held {e : Engine} {c : RawRange.Call} {p : Present} {z : Zone}
    {raw : RawRange} {r : TimeRange} (hz : e.zone c.timeZone = .ok z)
    (hp : Present.InCalendar p) (hstart : Source.InCalendar raw.start)
    (hstop : Source.InCalendar raw.stop) (h : raw.resolve e c p = .ok r)
    {i : Instant} (hi : r.start = some (.fixed i) ∨ r.stop = some (.fixed i)) :
    Held z i := by
  rcases hi with hi | hi
  · exact parseInstant_held (rules_side hz false) rfl hp hstart
      _ (parseInstant_of_side h false hi) i rfl
  · exact parseInstant_held (rules_side hz true) rfl hp hstop
      _ (parseInstant_of_side h true hi) i rfl

/-! ## Distances -/

theorem utcTicks_bounds {z : Zone} {i : Instant} (hsane : z.Sane)
    (h : Held z i) :
    -Calendar.day < i.utcTicks ∧
    i.utcTicks < Calendar.ending + Calendar.day := by
  have hoffset := offset_ticks (h.carries.offset_lt hsane)
  have hrange := inRange_iff.1 h.inRange
  unfold Instant.utcTicks
  omega

theorem inSeconds_finite {ticks : Int} (h : ticks.natAbs ≤ 10 ^ 18) :
    ∃ q, Epoch.inSeconds ticks = .finite q := by
  have hcast : |(ticks : Rat)| ≤ 10 ^ 18 := by
    have hnat : |(ticks : Rat)| = ticks.natAbs := by
      rw [Nat.cast_natAbs, Int.cast_abs]
    rw [hnat]
    exact_mod_cast h
  have hsize : |((ticks : Rat) / 1000000)| ≤ 2 ^ 100 := by
    calc |((ticks : Rat) / 1000000)| = |(ticks : Rat)| / 1000000 := by
          rw [abs_div]
          norm_num
      _ ≤ 10 ^ 18 / 1000000 := div_le_div_of_nonneg_right hcast (by norm_num)
      _ ≤ 2 ^ 100 := by norm_num
  unfold Epoch.inSeconds Double.ofRat
  dsimp only
  rw [if_pos (isFinite_nearest hsize)]
  exact ⟨_, rfl⟩

theorem distance_finite {z z' : Zone} {i j : Instant} (hsane : z.Sane)
    (hsane' : z'.Sane) (hi : Held z i) (hj : Held z' j) :
    ∃ q, Epoch.inSeconds (j.utcTicks - i.utcTicks) = .finite q := by
  have hbounds := utcTicks_bounds hsane hi
  have hbounds' := utcTicks_bounds hsane' hj
  refine inSeconds_finite ?_
  unfold Calendar.ending Calendar.day Calendar.hour Calendar.minute
    Calendar.second at *
  omega

section

variable {here : Present} {r : TimeRange} {i j : Instant}

theorem toRelative_plain {w : Wall} (hstart : r.start = some (.fixed i)) :
    r.toRelative { here with now := some (.plain w) } =
      .error .incomparable := by
  unfold TimeRange.toRelative TimeRange.distance
  rw [hstart]
  rfl

theorem toRelative_fixed {n : Instant} (hstart : r.start = some (.fixed i))
    (hstop : r.stop = some (.fixed j)) :
    r.toRelative { here with now := some (.fixed n) } =
      .ok (Epoch.inSeconds (n.utcTicks - i.utcTicks),
        Epoch.inSeconds (n.utcTicks - j.utcTicks)) := by
  unfold TimeRange.toRelative TimeRange.distance
  rw [hstart, hstop]
  rfl

end

end TimeWindow.Proofs.Range.Distances

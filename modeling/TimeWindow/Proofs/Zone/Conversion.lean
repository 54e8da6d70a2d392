import TimeWindow.Instant
import TimeWindow.Proofs.Outcome

/-!
# Expressing instants in zones

Conversions move the wall clock and leave the instant where it is; reading a
wall time in a zone keeps the wall time and chooses the offset.  Both facts hold
of every table of clock changes.
-/

namespace TimeWindow.Proofs.Zone.Conversion

open Outcome

theorem wall_ticks (i : Instant) :
    i.wall.ticks = i.utcTicks + i.setting.seconds * Calendar.second := by
  unfold Instant.utcTicks
  omega

theorem add_neg_add (w : Wall) (ticks : Int) :
    (w.add (-ticks)).add ticks = w := by
  cases w
  simp only [Wall.add]
  congr 1
  omega

/-! ## Between a zone and UTC -/

theorem toUtc_eq_ok {i : Instant} {u : Wall} :
    i.toUtc = .ok u ↔
      i.setting.seconds.natAbs < 86400 ∧ u = ⟨i.utcTicks⟩ ∧
      (Wall.mk i.utcTicks).inRange = true := by
  unfold Instant.toUtc
  split
  · rename_i hoffset
    rw [Wall.checked_eq_ok]
    exact ⟨fun h => ⟨hoffset, h⟩, fun h => h.2⟩
  · rename_i hoffset
    constructor
    · intro h
      cases h
    · intro h
      exact absurd h.1 hoffset

theorem ofUtc_eq_ok {z : Zone} {u : Wall} {i : Instant} :
    z.ofUtc u = .ok i ↔
      i = ⟨u.add ((z.periodAt u).offset * Calendar.second),
        .period z.kind (z.periodAt u)⟩ ∧
        i.wall.inRange = true := by
  unfold Zone.ofUtc
  rw [bind_eq_ok]
  constructor
  · rintro ⟨w, hw, hi⟩
    obtain ⟨rfl, hrange⟩ := Wall.checked_eq_ok.1 hw
    rw [pure_eq_ok] at hi
    subst hi
    exact ⟨rfl, hrange⟩
  · rintro ⟨rfl, hrange⟩
    exact ⟨_, Wall.checked_eq_ok.2 ⟨rfl, hrange⟩, rfl⟩

theorem ofUtc_utcTicks {z : Zone} {u : Wall} {i : Instant}
    (h : z.ofUtc u = .ok i) :
    i.utcTicks = u.ticks := by
  obtain ⟨rfl, -⟩ := ofUtc_eq_ok.1 h
  simp [Instant.utcTicks, Wall.add, Setting.seconds]

theorem toZone_utcTicks {z : Zone} {i j : Instant} (h : i.toZone z = .ok j) :
    j.utcTicks = i.utcTicks := by
  unfold Instant.toZone at h
  split at h
  · cases h
    rfl
  · obtain ⟨u, hu, hj⟩ := bind_eq_ok.1 h
    obtain ⟨-, rfl, -⟩ := toUtc_eq_ok.1 hu
    exact ofUtc_utcTicks hj

theorem toZone_ticks {z : Zone} {i here : Instant} (h : i.toZone z = .ok here) :
    here.wall.ticks = i.utcTicks + here.setting.seconds * Calendar.second := by
  have hticks := wall_ticks here
  rw [toZone_utcTicks h] at hticks
  exact hticks

/-! ## Reading a wall time -/

theorem candidate?_wall {z : Zone} {w nearby : Wall} {i : Instant}
    (h : z.candidate? w nearby = some i) : i.wall = w := by
  unfold Zone.candidate? at h
  dsimp only at h
  split at h
  · cases h
    rfl
  · cases h

theorem candidates_wall {z : Zone} {w : Wall} {is : List Instant}
    (h : z.candidates w = .ok is) :
    ∀ i ∈ is, i.wall = w := by
  unfold Zone.candidates at h
  obtain ⟨before, -, h⟩ := bind_eq_ok.1 h
  obtain ⟨after, -, h⟩ := bind_eq_ok.1 h
  cases hb : z.candidate? w before with
  | none =>
    cases ha : z.candidate? w after with
    | none =>
      simp only [hb, ha, pure_eq_ok] at h
      simp [← h]
    | some j =>
      simp only [hb, ha, pure_eq_ok] at h
      simp [← h, candidate?_wall ha]
  | some i =>
    cases ha : z.candidate? w after with
    | none =>
      simp only [hb, ha, pure_eq_ok] at h
      simp [← h, candidate?_wall hb]
    | some j =>
      simp only [hb, ha, pure_eq_ok] at h
      rw [← h]
      split
      · simp [candidate?_wall hb]
      · simp [candidate?_wall hb, candidate?_wall ha]

theorem choose_eq (i j : Instant) :
    Zone.choose i j = i ∨ Zone.choose i j = j := by
  unfold Zone.choose
  split
  · repeat' split
    all_goals first | exact Or.inl rfl | exact Or.inr rfl
  · exact Or.inl rfl

/-- The instant that is chosen for a wall time shows that wall time.  The search
behind a gap goes back and comes forward again by the same length. -/
theorem localizeFrom_wall {z : Zone} {fuel : Nat} {w : Wall} {i : Instant}
    (h : z.localizeFrom fuel w = .ok i) : i.wall = w := by
  induction fuel generalizing w i with
  | zero => cases h
  | succ fuel ih =>
    unfold Zone.localizeFrom at h
    obtain ⟨is, his, h⟩ := bind_eq_ok.1 h
    have hwalls := candidates_wall his
    split at h
    · rename_i j
      rw [pure_eq_ok] at h
      subst h
      exact hwalls j (by simp)
    · rename_i j k
      rw [pure_eq_ok] at h
      subst h
      rcases choose_eq j k with hc | hc
      · rw [hc]
        exact hwalls j (by simp)
      · rw [hc]
        exact hwalls k (by simp)
    · obtain ⟨back, hback, h⟩ := bind_eq_ok.1 h
      obtain ⟨earlier, hearlier, h⟩ := bind_eq_ok.1 h
      unfold Instant.addWall at h
      obtain ⟨forth, hforth, h⟩ := bind_eq_ok.1 h
      rw [pure_eq_ok] at h
      subst h
      obtain ⟨rfl, -⟩ := Wall.checked_eq_ok.1 hback
      obtain ⟨rfl, -⟩ := Wall.checked_eq_ok.1 hforth
      dsimp only
      rw [ih hearlier, add_neg_add]

theorem localize_wall {z : Zone} {w : Wall} {i : Instant}
    (h : z.localize w = .ok i) :
    i.wall = w := by
  unfold Zone.localize at h
  split at h
  · cases h
    rfl
  · exact localizeFrom_wall h

/-! ## What can go wrong -/

abbrev OnlyLeaves {α : Type} (x : Except Fault α) : Prop :=
  FailsWithin (· = .beyondCalendar) x

theorem checked_leaves (w : Wall) : OnlyLeaves w.checked := by
  unfold Wall.checked
  split
  · exact failsWithin_ok _
  · exact failsWithin_error rfl

theorem ofUtc_leaves (z : Zone) (u : Wall) : OnlyLeaves (z.ofUtc u) :=
  (checked_leaves _).bind fun _ _ => failsWithin_ok _

theorem candidates_leaves (z : Zone) (w : Wall) :
    OnlyLeaves (z.candidates w) := by
  unfold Zone.candidates
  refine (checked_leaves _).bind fun before _ =>
    (checked_leaves _).bind fun after _ => ?_
  split <;> exact failsWithin_ok _

theorem localizeFrom_leaves (z : Zone) (fuel : Nat) (w : Wall) :
    OnlyLeaves (z.localizeFrom fuel w) := by
  induction fuel generalizing w with
  | zero => exact failsWithin_error rfl
  | succ fuel ih =>
    unfold Zone.localizeFrom
    refine (candidates_leaves z w).bind fun is _ => ?_
    split
    · exact failsWithin_ok _
    · exact failsWithin_ok _
    · refine (checked_leaves _).bind fun back _ =>
        (ih back).bind fun earlier _ => ?_
      exact (checked_leaves _).bind fun _ _ => failsWithin_ok _

theorem localize_leaves (z : Zone) (w : Wall) : OnlyLeaves (z.localize w) := by
  unfold Zone.localize
  split
  · exact failsWithin_ok _
  · exact localizeFrom_leaves z _ w

end TimeWindow.Proofs.Zone.Conversion

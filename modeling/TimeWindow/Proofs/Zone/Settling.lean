import TimeWindow.Proofs.Zone.Conversion

/-!
# Expressing an instant in its zone once more

What a zone has given, by expressing an instant or by reading a wall time, can
be expressed in the zone again and is the same instant (`settles_of_toZone`).
It also looks the same, but for a wall time that the zone skips: that one
carries the offset from before the gap, and the second time the one from behind
it.
-/

namespace TimeWindow.Proofs.Zone.Settling

open Outcome Conversion

def Inland (z : Zone) : Prop :=
  ∀ change ∈ z.changes, 3 * Calendar.day ≤ change.1.ticks ∧
    change.1.ticks < Calendar.ending - 3 * Calendar.day

theorem inland_of_recorded {z : Zone} (h : z.Recorded) : Inland z := by
  intro change hchange
  have hfirst : 3 * Calendar.day ≤ Zone.firstRecord := by decide
  have hlast : Zone.lastRecord < Calendar.ending - 3 * Calendar.day := by decide
  have hrecord := h change hchange
  omega

def Carries (z : Zone) (i : Instant) : Prop :=
  ∃ p ∈ z.base :: z.changes.map (·.2), i.setting = .period z.kind p

def Settled (z : Zone) (i : Instant) : Prop := i.toZone z = .ok i

def Settles (z : Zone) (i : Instant) : Prop :=
  ∃ j, i.toZone z = .ok j ∧ Settled z j

/-- The readings of an instant in UTC and in the zone both lie in the
calendar. -/
def Readable (z : Zone) (i : Instant) : Prop :=
  (Wall.mk i.utcTicks).inRange = true ∧
    (Wall.mk (i.utcTicks +
      (z.periodAt ⟨i.utcTicks⟩).offset * Calendar.second)).inRange = true

theorem inRange_iff {w : Wall} :
    w.inRange = true ↔ 0 ≤ w.ticks ∧ w.ticks < Calendar.ending := by
  simp [Wall.inRange]

theorem offset_ticks {seconds : Int} (h : seconds.natAbs < 86400) :
    -Calendar.day < seconds * Calendar.second ∧
    seconds * Calendar.second < Calendar.day := by
  have hticks : seconds * Calendar.second = seconds * 1000000 := rfl
  have hday : Calendar.day = 86400000000 := rfl
  omega

/-! ## Which periods an instant carries -/

theorem ofUtc_carries {z : Zone} {u : Wall} {i : Instant}
    (h : z.ofUtc u = .ok i) : Carries z i := by
  obtain ⟨rfl, -⟩ := ofUtc_eq_ok.1 h
  exact ⟨_, List.mem_cons.2 (z.periodAt_mem u), rfl⟩

theorem toZone_carries {z : Zone} {i j : Instant} (h : i.toZone z = .ok j) :
    Carries z j := by
  unfold Instant.toZone at h
  split at h
  · rename_i hbase
    cases h
    exact ⟨z.base, List.mem_cons_self, hbase⟩
  · obtain ⟨u, -, hj⟩ := bind_eq_ok.1 h
    exact ofUtc_carries hj

theorem candidate?_eq_some {z : Zone} {w nearby : Wall} {i : Instant}
    (h : z.candidate? w nearby = some i) :
    ∃ q, i = ⟨w, .period z.kind q⟩ ∧
      q = z.periodAt (w.add (-(q.offset * Calendar.second))) := by
  unfold Zone.candidate? at h
  dsimp only at h
  split at h
  · rename_i hoffset
    cases h
    exact ⟨_, rfl, by rw [hoffset]⟩
  · cases h

/-- Reading a wall time finds one or two instants that show it, or else neither
of the periods around it does. -/
theorem candidates_cases {z : Zone} {w : Wall} {is : List Instant}
    (h : z.candidates w = .ok is) :
    (w.add (-Calendar.day)).inRange = true ∧
    (w.add Calendar.day).inRange = true ∧
      ((∃ i, is = [i] ∧ ∃ nearby, z.candidate? w nearby = some i) ∨
        (∃ i j, is = [i, j] ∧ (∃ nearby, z.candidate? w nearby = some i) ∧
          ∃ nearby, z.candidate? w nearby = some j) ∨
        is = [] ∧ z.candidate? w (w.add (-Calendar.day)) = none ∧
        z.candidate? w (w.add Calendar.day) = none) := by
  unfold Zone.candidates at h
  obtain ⟨before, hbefore, h⟩ := bind_eq_ok.1 h
  obtain ⟨after, hafter, h⟩ := bind_eq_ok.1 h
  obtain ⟨rfl, hlow⟩ := Wall.checked_eq_ok.1 hbefore
  obtain ⟨rfl, hhigh⟩ := Wall.checked_eq_ok.1 hafter
  refine ⟨hlow, hhigh, ?_⟩
  cases hb : z.candidate? w (w.add (-Calendar.day)) with
  | none =>
    cases ha : z.candidate? w (w.add Calendar.day) with
    | none =>
      simp only [hb, ha, pure_eq_ok] at h
      exact .inr (.inr ⟨h.symm, rfl, rfl⟩)
    | some j =>
      simp only [hb, ha, pure_eq_ok] at h
      exact .inl ⟨j, h.symm, _, ha⟩
  | some i =>
    cases ha : z.candidate? w (w.add Calendar.day) with
    | none =>
      simp only [hb, ha, pure_eq_ok] at h
      exact .inl ⟨i, h.symm, _, hb⟩
    | some j =>
      simp only [hb, ha, pure_eq_ok] at h
      split at h
      · exact .inl ⟨i, h.symm, _, hb⟩
      · exact .inr (.inl ⟨i, j, h.symm, ⟨_, hb⟩, _, ha⟩)

/-- What reading a wall time gives shows it by one of the periods around it, or
else is brought back from before a gap. -/
theorem localizeFrom_cases {z : Zone} {fuel : Nat} {w : Wall} {i : Instant}
    (h : z.localizeFrom (fuel + 1) w = .ok i) :
    (w.add (-Calendar.day)).inRange = true ∧
    (w.add Calendar.day).inRange = true ∧
      ((∃ nearby, z.candidate? w nearby = some i) ∨
        z.candidate? w (w.add (-Calendar.day)) = none ∧
          ∃ back earlier, z.localizeFrom fuel back = .ok earlier ∧
            i.setting = earlier.setting) := by
  unfold Zone.localizeFrom at h
  obtain ⟨is, his, h⟩ := bind_eq_ok.1 h
  obtain ⟨hlow, hhigh, hcases⟩ := candidates_cases his
  refine ⟨hlow, hhigh, ?_⟩
  rcases hcases with ⟨j, rfl, hj⟩ | ⟨j, k, rfl, hj, hk⟩ | ⟨rfl, hgap, -⟩
  · cases pure_eq_ok.1 h
    exact .inl hj
  · cases pure_eq_ok.1 h
    rcases choose_eq j k with hc | hc
    · rw [hc]
      exact .inl hj
    · rw [hc]
      exact .inl hk
  · obtain ⟨back, -, h⟩ := bind_eq_ok.1 h
    obtain ⟨earlier, hearlier, h⟩ := bind_eq_ok.1 h
    unfold Instant.addWall at h
    obtain ⟨forth, -, h⟩ := bind_eq_ok.1 h
    cases pure_eq_ok.1 h
    exact .inr ⟨hgap, back, earlier, hearlier, rfl⟩

theorem candidate?_carries {z : Zone} {w nearby : Wall} {i : Instant}
    (h : z.candidate? w nearby = some i) : Carries z i := by
  obtain ⟨q, rfl, hq⟩ := candidate?_eq_some h
  exact ⟨q, hq ▸ List.mem_cons.2 (z.periodAt_mem _), rfl⟩

theorem localizeFrom_carries {z : Zone} {fuel : Nat} {w : Wall} {i : Instant}
    (h : z.localizeFrom fuel w = .ok i) : Carries z i := by
  induction fuel generalizing w i with
  | zero => cases h
  | succ fuel ih =>
    obtain ⟨-, -, ⟨nearby, hshown⟩ | ⟨-, back, earlier, hearlier, hsetting⟩⟩ :=
      localizeFrom_cases h
    · exact candidate?_carries hshown
    · obtain ⟨p, hp, hearlier⟩ := ih hearlier
      exact ⟨p, hp, hsetting.trans hearlier⟩

theorem localize_carries {z : Zone} {w : Wall} {i : Instant}
    (h : z.localize w = .ok i) :
    Carries z i := by
  unfold Zone.localize at h
  split at h
  · cases h
    exact ⟨z.base, List.mem_cons_self, rfl⟩
  · exact localizeFrom_carries h

theorem momentToZone_carries {z : Zone} {m : Moment} {i : Instant}
    (h : m.toZone z = .ok i) :
    Carries z i := by
  cases m with
  | plain w => exact localize_carries h
  | fixed j => exact toZone_carries h

theorem Carries.offset_lt {z : Zone} {i : Instant} (hsane : z.Sane)
    (h : Carries z i) :
    i.setting.seconds.natAbs < 86400 := by
  obtain ⟨p, hp, hsetting⟩ := h
  rw [hsetting]
  exact hsane p hp

/-! ## The first conversion -/

theorem toZone_of_offset {i : Instant} {seconds : Int}
    (h : i.setting = .offset seconds) (z : Zone) :
    i.toZone z = i.toUtc >>= z.ofUtc := by
  have hother : ¬ i.setting = .period z.kind z.base := by
    rw [h]
    exact Setting.noConfusion
  unfold Instant.toZone
  exact if_neg hother

theorem toZone_ofUtc {w : Wall} (h : w.inRange = true) (z : Zone) :
    (Instant.ofUtc w).toZone z = z.ofUtc w := by
  have hticks : (Instant.ofUtc w).utcTicks = w.ticks := by
    simp [Instant.ofUtc, Instant.utcTicks, Setting.seconds]
  have hutc : (Instant.ofUtc w).toUtc = .ok w :=
    toUtc_eq_ok.2
      ⟨(by decide : (0 : Int).natAbs < 86400), by rw [hticks],
        by rw [hticks]; exact h⟩
  rw [toZone_of_offset rfl, hutc]
  rfl

/-! ## The second conversion -/

theorem toZone_of_readable {z : Zone} {i : Instant}
    (hoffset : i.setting.seconds.natAbs < 86400) (h : Readable z i) :
    ∃ j, i.toZone z = .ok j ∧ j.utcTicks = i.utcTicks := by
  obtain ⟨hutc, hlocal⟩ := h
  suffices hsome : ∃ j, i.toZone z = .ok j by
    obtain ⟨j, hj⟩ := hsome
    exact ⟨j, hj, toZone_utcTicks hj⟩
  unfold Instant.toZone
  split
  · exact ⟨i, rfl⟩
  · exact ⟨_, bind_eq_ok.2
      ⟨_, toUtc_eq_ok.2 ⟨hoffset, rfl, hutc⟩, ofUtc_eq_ok.2 ⟨rfl, hlocal⟩⟩⟩

/-- An instant whose period is the one in force, and whose readings lie in the
calendar, is shown as it stands. -/
theorem settled_of_periodAt {z : Zone} {w : Wall} {q : Period}
    (hoffset : q.offset.natAbs < 86400)
    (hq : q = z.periodAt (w.add (-(q.offset * Calendar.second))))
    (hwall : w.inRange = true)
    (hutc : (w.add (-(q.offset * Calendar.second))).inRange = true) :
    Settled z ⟨w, .period z.kind q⟩ := by
  have hback :
      (w.add (-(q.offset * Calendar.second))).add (q.offset * Calendar.second) =
        w :=
    add_neg_add w _
  unfold Settled Instant.toZone
  split
  · rfl
  · refine bind_eq_ok.2 ⟨w.add (-(q.offset * Calendar.second)),
      toUtc_eq_ok.2 ⟨hoffset, rfl, hutc⟩, ofUtc_eq_ok.2 ⟨?_, hwall⟩⟩
    rw [← hq, hback]

theorem settled_of_ofUtc {z : Zone} {u : Wall} {j : Instant} (hsane : z.Sane)
    (hu : u.inRange = true) (h : z.ofUtc u = .ok j) : Settled z j := by
  obtain ⟨rfl, hwall⟩ := ofUtc_eq_ok.1 h
  have hback : (u.add ((z.periodAt u).offset * Calendar.second)).add
      (-((z.periodAt u).offset * Calendar.second)) = u := by
    simpa using add_neg_add u (-((z.periodAt u).offset * Calendar.second))
  refine settled_of_periodAt (hsane.periodAt _) ?_ hwall ?_
  · rw [hback]
  · rw [hback]
    exact hu

theorem settled_of_toZone {z : Zone} {i j : Instant} (hsane : z.Sane)
    (h : i.toZone z = .ok j) :
    Settled z j := by
  unfold Instant.toZone at h
  split at h
  · rename_i hbase
    cases h
    simp [Settled, Instant.toZone, hbase]
  · obtain ⟨u, hu, hj⟩ := bind_eq_ok.1 h
    obtain ⟨-, rfl, hutc⟩ := toUtc_eq_ok.1 hu
    exact settled_of_ofUtc hsane hutc hj

theorem periodAt_congr {z : Zone} {u v : Wall}
    (h : ∀ change ∈ z.changes,
      (change.1.ticks ≤ u.ticks ↔ change.1.ticks ≤ v.ticks)) :
    z.periodAt u = z.periodAt v := by
  unfold Zone.periodAt
  generalize z.base = p
  revert h
  induction z.changes generalizing p with
  | nil => exact fun _ => rfl
  | cons change rest ih =>
    intro h
    have hhead := h change List.mem_cons_self
    rw [List.foldl_cons, List.foldl_cons]
    simp only [hhead]
    exact ih _ fun c hc => h c (List.mem_cons_of_mem _ hc)

theorem gap_near_change {z : Zone} {w : Wall} (hsane : z.Sane)
    (h : z.candidate? w (w.add (-Calendar.day)) = none) :
    ∃ change ∈ z.changes, w.ticks - Calendar.day ≤ change.1.ticks ∧
      change.1.ticks ≤ w.ticks + Calendar.day := by
  unfold Zone.candidate? at h
  dsimp only at h
  split at h
  · cases h
  · rename_i hdiffers
    have hoffset := offset_ticks (hsane.periodAt (w.add (-Calendar.day)))
    refine Classical.byContradiction fun hfar =>
      hdiffers (congrArg Period.offset ?_)
    refine periodAt_congr fun change hmem => ?_
    have hnear : ¬ (w.ticks - Calendar.day ≤ change.1.ticks ∧
        change.1.ticks ≤ w.ticks + Calendar.day) :=
          fun hnear => hfar ⟨change, hmem, hnear⟩
    simp only [Wall.add] at hoffset ⊢
    omega

theorem readable_of_gap {z : Zone} {i : Instant} (hsane : z.Sane)
    (hinland : Inland z) (hoffset : i.setting.seconds.natAbs < 86400)
    (hgap : z.candidate? i.wall (i.wall.add (-Calendar.day)) = none) :
    Readable z i := by
  obtain ⟨change, hmem, hbefore, hbehind⟩ := gap_near_change hsane hgap
  obtain ⟨hfirst, hlast⟩ := hinland change hmem
  have hticks := offset_ticks hoffset
  have hticks' := offset_ticks (hsane.periodAt ⟨i.utcTicks⟩)
  have hutc : i.utcTicks = i.wall.ticks - i.setting.seconds * Calendar.second :=
    rfl
  unfold Readable
  rw [inRange_iff, inRange_iff]
  dsimp only
  omega

/-- What one of the periods around it shows, with a day to spare on either side,
the zone shows as it stands. -/
theorem settled_of_candidate? {z : Zone} {w nearby : Wall} {i : Instant}
    (hsane : z.Sane) (hlow : (w.add (-Calendar.day)).inRange = true)
    (hhigh : (w.add Calendar.day).inRange = true)
    (h : z.candidate? w nearby = some i) : Settled z i := by
  obtain ⟨q, rfl, hq⟩ := candidate?_eq_some h
  have hoffset : q.offset.natAbs < 86400 := hq ▸ hsane.periodAt _
  have hticks := offset_ticks hoffset
  rw [inRange_iff] at hlow hhigh
  simp only [Wall.add] at hlow hhigh
  apply settled_of_periodAt hoffset hq
  · rw [inRange_iff]
    omega
  · rw [inRange_iff]
    simp only [Wall.add]
    omega

theorem localize_settles {z : Zone} {w : Wall} {i : Instant} (hsane : z.Sane)
    (hinland : Inland z) (h : z.localize w = .ok i) : Settles z i := by
  have hcarries := localize_carries h
  have hwall := localize_wall h
  unfold Zone.localize at h
  split at h
  · cases h
    have hsettled : Settled z ⟨w, .period z.kind z.base⟩ := by
      simp [Settled, Instant.toZone]
    exact ⟨_, hsettled, hsettled⟩
  · obtain ⟨hlow, hhigh, ⟨nearby, hshown⟩ | ⟨hgap, -⟩⟩ := localizeFrom_cases h
    · have hsettled := settled_of_candidate? hsane hlow hhigh hshown
      exact ⟨_, hsettled, hsettled⟩
    · have hoffset := hcarries.offset_lt hsane
      obtain ⟨j, hj, -⟩ := toZone_of_readable hoffset
        (readable_of_gap hsane hinland hoffset (hwall ▸ hgap))
      exact ⟨j, hj, settled_of_toZone hsane hj⟩

theorem settles_of_toZone {z : Zone} {m : Moment} {i : Instant} (hsane : z.Sane)
    (hinland : Inland z) (h : m.toZone z = .ok i) : Settles z i := by
  cases m with
  | plain w => exact localize_settles hsane hinland h
  | fixed j =>
    have hsettled := settled_of_toZone hsane h
    exact ⟨i, hsettled, hsettled⟩

theorem ofUtc_of_localize {z : Zone} {w : Wall} {i : Instant} (hsane : z.Sane)
    (hinland : Inland z) (hw : w.inRange = true) (h : z.localize w = .ok i) :
    ∃ j, z.ofUtc ⟨i.utcTicks⟩ = .ok j := by
  suffices hlocal : (Wall.add ⟨i.utcTicks⟩
      ((z.periodAt ⟨i.utcTicks⟩).offset * Calendar.second)).inRange = true from
    ⟨_, ofUtc_eq_ok.2 ⟨rfl, hlocal⟩⟩
  have hwall := localize_wall h
  have hoffset := (localize_carries h).offset_lt hsane
  unfold Zone.localize at h
  split at h
  · rename_i hconstant
    cases h
    rw [Zone.periodAt_of_isConstant hconstant]
    exact (add_neg_add w _).symm ▸ hw
  · obtain ⟨-, -, ⟨nearby, hshown⟩ | ⟨hgap, -⟩⟩ := localizeFrom_cases h
    · obtain ⟨q, rfl, hq⟩ := candidate?_eq_some hshown
      have hutc :
          Wall.mk (Instant.utcTicks ⟨w, .period z.kind q⟩) =
            w.add (-(q.offset * Calendar.second)) :=
        rfl
      rw [hutc, ← hq, add_neg_add]
      exact hw
    · exact (readable_of_gap hsane hinland hoffset (hwall ▸ hgap)).2

end TimeWindow.Proofs.Zone.Settling

import Mathlib.Data.List.Forall2
import TimeWindow.Proofs.Zone.Beginning

/-!
# Zones that keep one clock

Zones can differ in their names, in what they call daylight saving and in their
tables, and still keep the same clock.  What they make of an instant or a wall
time is then the same but for names, and stays so when it is expressed in the
zones once more (`Mirror`).
-/

namespace TimeWindow.Proofs.Zone.OneClock

open Outcome Conversion Settling Beginning

structure SameReading (i j : Instant) : Prop where
  wall : j.wall = i.wall
  seconds : j.setting.seconds = i.setting.seconds

/-- Two zones show every instant alike; and they read every wall time alike, and
then show alike what they have read. -/
structure SameClock (z z' : Zone) : Prop where
  shown (u : Wall) (hu : u.inRange = true) :
    Alike SameReading (z.ofUtc u) (z'.ofUtc u)
  read (w : Wall) (hw : w.inRange = true) :
    Alike SameReading (z.localize w) (z'.localize w)
  again (w : Wall) (hw : w.inRange = true) :
    Alike SameReading (z.localize w >>= fun i => i.toZone z)
      (z'.localize w >>= fun j => j.toZone z')

structure SaneClock (z z' : Zone) : Prop extends SameClock z z' where
  sane : z.Sane
  sane' : z'.Sane

section

variable {i j : Instant}

theorem sameReading_refl (i : Instant) : SameReading i i := ⟨rfl, rfl⟩

theorem SameReading.utcTicks (h : SameReading i j) :
    j.utcTicks = i.utcTicks := by
  unfold Instant.utcTicks
  rw [h.wall, h.seconds]

theorem SameReading.toUtc (h : SameReading i j) : j.toUtc = i.toUtc := by
  unfold Instant.toUtc
  rw [h.seconds, h.utcTicks]

theorem sameReading_of_ticks (hwall : j.wall = i.wall)
    (h : j.utcTicks = i.utcTicks) :
    SameReading i j := by
  refine ⟨hwall, ?_⟩
  unfold Instant.utcTicks Calendar.second at h
  rw [hwall] at h
  omega

end

/-! ## What conversions keep -/

/-- Two instants of two zones with one reading, which the zones show with one
reading. -/
structure Mirror (z z' : Zone) (i j : Instant) : Prop where
  reading : SameReading i j
  shown : Alike SameReading (i.toZone z) (j.toZone z')

section

variable {z z' : Zone}

theorem mirror_of_settled {i j : Instant} (h : SameReading i j)
    (hi : Settled z i) (hj : Settled z' j) : Mirror z z' i j := by
  refine ⟨h, ?_⟩
  rw [show i.toZone z = .ok i from hi, show j.toZone z' = .ok j from hj]
  exact .ok h

variable (hclock : SaneClock z z')

include hclock

theorem bare_mirror {i : Instant} {seconds : Int}
    (h : i.setting = .offset seconds) :
    Mirror z z' i i := by
  refine ⟨sameReading_refl i, ?_⟩
  rw [toZone_of_offset h, toZone_of_offset h]
  refine alike_bind_of_gives (P := fun u => u.inRange = true) ?_ hclock.shown
  intro u hu
  obtain ⟨-, rfl, hrange⟩ := toUtc_eq_ok.1 hu
  exact hrange

theorem toZone_mirror {i j : Instant} (h : Mirror z z' i j) :
    Alike (Mirror z z') (i.toZone z) (j.toZone z') := by
  obtain ⟨-, hshown⟩ := h
  generalize hx : i.toZone z = x at hshown
  generalize hx' : j.toZone z' = x' at hshown
  cases hshown with
  | error f => exact .error f
  | ok hsame =>
    exact .ok (mirror_of_settled hsame (settled_of_toZone hclock.sane hx)
      (settled_of_toZone hclock.sane' hx'))

theorem ofUtc_mirror {u : Wall} (hu : u.inRange = true) :
    Alike (Mirror z z') (z.ofUtc u) (z'.ofUtc u) := by
  have hshown := hclock.shown u hu
  generalize hx : z.ofUtc u = x at hshown
  generalize hx' : z'.ofUtc u = x' at hshown
  cases hshown with
  | error f => exact .error f
  | ok hsame =>
    exact .ok (mirror_of_settled hsame (settled_of_ofUtc hclock.sane hu hx)
      (settled_of_ofUtc hclock.sane' hu hx'))

theorem localize_mirror {w : Wall} (hw : w.inRange = true) :
    Alike (Mirror z z') (z.localize w) (z'.localize w) :=
  ((hclock.read w hw).and_bind (hclock.again w hw)).mono fun _ _ h => ⟨h.1, h.2⟩

end

/-! ## One table under two names -/

inductive Renamed (kind kind' : Zone.Kind) : Instant → Instant → Prop where
  | period (w : Wall) (p : Period) :
      Renamed kind kind' ⟨w, .period kind p⟩ ⟨w, .period kind' p⟩

section

variable (z : Zone) (kind : Zone.Kind)

theorem Renamed.reading {kind kind' : Zone.Kind} {i j : Instant}
    (h : Renamed kind kind' i j) :
    SameReading i j := by
  cases h
  exact ⟨rfl, rfl⟩

theorem ofUtc_renamed (u : Wall) :
    Alike (Renamed z.kind kind) (z.ofUtc u) (({ z with kind } : Zone).ofUtc u) :=
  alike_bind _ fun w => .ok (.period w _)

theorem candidate?_renamed (w nearby : Wall) :
    Option.Rel (Renamed z.kind kind) (z.candidate? w nearby)
      (({ z with kind } : Zone).candidate? w nearby) := by
  unfold Zone.candidate?
  dsimp only
  have hperiod : ({ z with kind } : Zone).periodAt = z.periodAt := rfl
  rw [hperiod]
  split
  · exact .some (.period w _)
  · exact .none

theorem candidates_renamed (w : Wall) :
    Alike (List.Forall₂ (Renamed z.kind kind)) (z.candidates w)
      (({ z with kind } : Zone).candidates w) := by
  unfold Zone.candidates
  refine alike_bind _ fun before => alike_bind _ fun after => ?_
  have hbefore := candidate?_renamed z kind w before
  have hafter := candidate?_renamed z kind w after
  generalize z.candidate? w before = o at hbefore
  generalize ({ z with kind } : Zone).candidate? w before = o' at hbefore
  generalize z.candidate? w after = q at hafter
  generalize ({ z with kind } : Zone).candidate? w after = q' at hafter
  cases hbefore with
  | none =>
    cases hafter with
    | none => exact .ok .nil
    | some hj => exact .ok (.cons hj .nil)
  | some hi =>
    cases hafter with
    | none => exact .ok (.cons hi .nil)
    | some hj =>
      dsimp only
      rw [hi.reading.seconds, hj.reading.seconds]
      split
      · exact .ok (.cons hi .nil)
      · exact .ok (.cons hi (.cons hj .nil))

theorem choose_renamed {kind kind' : Zone.Kind} {i i' j j' : Instant}
    (hi : Renamed kind kind' i i') (hj : Renamed kind kind' j j') :
    Renamed kind kind' (Zone.choose i j) (Zone.choose i' j') := by
  cases hi with
  | period w p =>
    cases hj with
    | period v q =>
      unfold Zone.choose
      dsimp only
      split
      · exact .period w p
      · split
        · exact .period v q
        · change Renamed kind kind'
            (if w.ticks - p.offset * Calendar.second <
              v.ticks - q.offset * Calendar.second then _ else _)
            (if w.ticks - p.offset * Calendar.second <
              v.ticks - q.offset * Calendar.second then _ else _)
          split
          · exact .period v q
          · exact .period w p

theorem localizeFrom_renamed (fuel : Nat) (w : Wall) :
    Alike (Renamed z.kind kind) (z.localizeFrom fuel w)
      (({ z with kind } : Zone).localizeFrom fuel w) := by
  induction fuel generalizing w with
  | zero => exact .error _
  | succ fuel ih =>
    unfold Zone.localizeFrom
    refine (candidates_renamed z kind w).bind fun is is' his => ?_
    have hgap : Alike (Renamed z.kind kind)
        ((w.add (-Zone.stepBack)).checked >>= fun back => z.localizeFrom fuel
          back >>= fun earlier => earlier.addWall Zone.stepBack)
        ((w.add (-Zone.stepBack)).checked >>= fun back =>
          ({ z with kind } : Zone).localizeFrom fuel back >>= fun earlier =>
            earlier.addWall Zone.stepBack) := by
      refine alike_bind _ fun back =>
        (ih back).bind fun earlier earlier' hearlier => ?_
      cases hearlier with
      | period v p => exact alike_bind _ fun forth => .ok (.period forth p)
    cases his with
    | nil => exact hgap
    | cons hi his =>
      cases his with
      | nil => exact .ok hi
      | cons hj his =>
        cases his with
        | nil => exact .ok (choose_renamed hi hj)
        | cons => exact hgap

theorem localize_renamed (w : Wall) :
    Alike (Renamed z.kind kind) (z.localize w)
      (({ z with kind } : Zone).localize w) := by
  unfold Zone.localize
  have hconstant : ({ z with kind } : Zone).isConstant = z.isConstant := rfl
  rw [hconstant]
  split
  · exact .ok (.period w _)
  · exact localizeFrom_renamed z kind _ w

theorem toZone_renamed {i j : Instant} (h : Renamed z.kind kind i j) :
    Alike (Renamed z.kind kind) (i.toZone z) (j.toZone { z with kind }) := by
  have hutc := h.reading.toUtc
  cases h with
  | period w p =>
    unfold Instant.toZone
    by_cases hbase : p = z.base
    · subst hbase
      rw [if_pos rfl, if_pos rfl]
      exact .ok (.period w _)
    · rw [if_neg (fun h => hbase (by cases h; rfl)),
        if_neg (fun h => hbase (by cases h; rfl)), hutc]
      exact alike_bind _ (ofUtc_renamed z kind)

theorem sameClock_renamed : SameClock z { z with kind } where
  shown u _ := (ofUtc_renamed z kind u).mono fun _ _ => Renamed.reading
  read w _ := (localize_renamed z kind w).mono fun _ _ => Renamed.reading
  again w _ :=
    ((localize_renamed z kind w).bind fun _ _ => toZone_renamed z kind).mono
    fun _ _ => Renamed.reading

end

end TimeWindow.Proofs.Zone.OneClock

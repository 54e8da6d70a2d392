import Mathlib.Data.List.Pairwise
import TimeWindow.Proofs.Zone.Naming
import TimeWindow.Proofs.Zone.Steady

/-!
# Wall times that occur

A wall time occurs in a zone when the zone's clock shows it at some instant:
never in a gap, and twice where the clock is put back.  Reading a wall time that
occurs gives an instant that shows it (`readsBack_of_spread`), because the
changes of a zone lie so far apart that of the two periods around a wall time
one is in force when it occurs.
-/

namespace TimeWindow.Proofs.Zone.Occurrence

open TimeWindow.Zone Outcome Conversion Settling Steady Naming

/-- The clock of the zone shows the wall time at some instant, given here in
UTC. -/
def Occurs (z : Zone) (w : Wall) : Prop :=
  ∃ u : Wall, u.add ((z.periodAt u).offset * Calendar.second) = w

/-- The calendar holds what is looked at when the wall time is read: in a zone
that changes its clock, the days before and behind it. -/
def Inner (z : Zone) (w : Wall) : Prop :=
  z.isConstant = true ∨ (w.add (-Calendar.day)).inRange = true ∧
    (w.add Calendar.day).inRange = true

/-- The instant, expressed in the zone, shows the wall time. -/
def Shows (z : Zone) (i : Instant) (w : Wall) : Prop :=
  ∃ j, i.toZone z = .ok j ∧ j.wall = w

/-- Reading a wall time gives an instant with that wall time whenever there is
one. -/
def ReadsBack (z : Zone) : Prop :=
  ∀ w, Occurs z w → Inner z w → ∃ i, z.localize w = .ok i ∧ Shows z i w

variable {z : Zone} {w u : Wall}

theorem candidate?_of_occurs
    (hu : u.add ((z.periodAt u).offset * Calendar.second) = w) {nearby : Wall}
    (hnearby : z.periodAt nearby = z.periodAt u) :
    z.candidate? w nearby = some ⟨w, .period z.kind (z.periodAt u)⟩ := by
  have hback : w.add (-((z.periodAt u).offset * Calendar.second)) = u := by
    rw [← hu]
    simpa using add_neg_add u (-((z.periodAt u).offset * Calendar.second))
  unfold Zone.candidate?
  dsimp only
  rw [hnearby, hback, if_pos rfl]

theorem behind_trans {first second third : Wall × Period}
    (h : Behind first second) (h' : Behind second third) :
    Behind first third := by
  have hday : Calendar.day = 86400000000 := rfl
  unfold Behind at *
  omega

instance : IsTrans (Wall × Period) Behind := ⟨fun _ _ _ => behind_trans⟩

theorem pairwise_of_spread (h : z.Spread) : z.changes.Pairwise Behind := by
  unfold Spread at h
  rw [← List.isChain_iff_pairwise]
  generalize z.changes = changes at h
  induction changes with
  | nil => exact .nil
  | cons first rest ih =>
    cases rest with
    | nil => exact .singleton first
    | cons second rest =>
      rw [List.tail_cons, List.zip_cons_cons, List.forall_mem_cons] at h
      exact .cons_cons h.1 (ih h.2)

theorem apart_of_spread (h : z.Spread) {change other : Wall × Period}
    (hchange : change ∈ z.changes) (hother : other ∈ z.changes) :
    change = other ∨ Behind change other ∨ Behind other change := by
  by_cases heq : change = other
  · exact .inl heq
  · have heither : z.changes.Pairwise fun change other =>
        Behind change other ∨ Behind other change :=
      (pairwise_of_spread h).imp .inl
    have : Std.Symm fun change other => Behind change other ∨
        Behind other change := ⟨fun _ _ => Or.symm⟩
    exact .inr (heither.forall hchange hother heq)

/-- Within two days there is one change at most, so that there is none before
the wall time occurs or none behind. -/
theorem periodAt_around (hsane : z.Sane) (hspread : z.Spread)
    (hu : u.add ((z.periodAt u).offset * Calendar.second) = w) :
    z.periodAt (w.add (-Calendar.day)) = z.periodAt u ∨
    z.periodAt (w.add Calendar.day) = z.periodAt u := by
  have hoffset := offset_ticks (hsane.periodAt u)
  have hday : Calendar.day = 86400000000 := rfl
  have hticks :
      w.ticks = u.ticks + (z.periodAt u).offset * Calendar.second := by
    rw [← hu]
    rfl
  have hbefore : (w.add (-Calendar.day)).ticks = w.ticks - Calendar.day := rfl
  have hbehind : (w.add Calendar.day).ticks = w.ticks + Calendar.day := rfl
  by_cases hchange : ∃ change ∈ z.changes,
    w.ticks - Calendar.day < change.1.ticks ∧ change.1.ticks ≤ u.ticks
  · obtain ⟨change, hmem, hlow, hhigh⟩ := hchange
    refine .inr (periodAt_congr fun later hlater => ?_)
    rcases apart_of_spread hspread hmem hlater with rfl | hapart | hapart
    · omega
    · unfold Behind at hapart
      omega
    · unfold Behind at hapart
      omega
  · refine .inl (periodAt_congr fun change hmem => ?_)
    have hnot :
        ¬ (w.ticks - Calendar.day < change.1.ticks ∧ change.1.ticks ≤ u.ticks) :=
      fun h => hchange ⟨change, hmem, h⟩
    omega

/-! ## Reading a wall time that occurs -/

theorem localize_of_candidate? (hchanges : z.isConstant = false)
    (hbefore : (w.add (-Calendar.day)).inRange = true)
    (hbehind : (w.add Calendar.day).inRange = true)
    (hshown : z.candidate? w (w.add (-Calendar.day)) ≠ none ∨
      z.candidate? w (w.add Calendar.day) ≠ none) :
    ∃ i, z.localize w = .ok i ∧ ∃ nearby, z.candidate? w nearby = some i := by
  obtain ⟨is, his⟩ : ∃ is, z.candidates w = .ok is := by
    unfold Zone.candidates
    rw [Wall.checked_eq_ok.2 ⟨rfl, hbefore⟩, Wall.checked_eq_ok.2 ⟨rfl, hbehind⟩]
    dsimp only [Bind.bind, Except.bind]
    split <;> exact ⟨_, rfl⟩
  unfold Zone.localize Zone.localizeFrom
  rw [hchanges, his]
  obtain ⟨-, -, ⟨i, rfl, hi⟩ | ⟨i, j, rfl, hi, hj⟩ | ⟨rfl, hbefore, hbehind⟩⟩ :=
    candidates_cases his
  · exact ⟨i, rfl, hi⟩
  · rcases choose_eq i j with hchosen | hchosen
    · exact ⟨i, congrArg Except.ok hchosen, hi⟩
    · exact ⟨j, congrArg Except.ok hchosen, hj⟩
  · rcases hshown with hshown | hshown
    · exact absurd hbefore hshown
    · exact absurd hbehind hshown

/-- A zone whose changes lie far apart reads every wall time that occurs as one
of the instants that show it. -/
theorem readsBack_of_spread (hsane : z.Sane) (hspread : z.Spread) :
    ReadsBack z := by
  intro w hoccurs hinner
  cases hconstant : z.isConstant with
  | true => exact ⟨_, localize_steady hconstant w, _, toZone_shown z w, rfl⟩
  | false =>
    obtain ⟨hbefore, hbehind⟩ := hinner.resolve_left (by rw [hconstant]; decide)
    obtain ⟨u, hu⟩ := hoccurs
    have hshown :
        z.candidate? w (w.add (-Calendar.day)) ≠ none ∨
        z.candidate? w (w.add Calendar.day) ≠ none := by
      refine (periodAt_around hsane hspread hu).imp (fun h => ?_) fun h => ?_
      all_goals
        rw [candidate?_of_occurs hu h]
        exact Option.some_ne_none _
    obtain ⟨i, hi, nearby, hnearby⟩ :=
      localize_of_candidate? hconstant hbefore hbehind hshown
    exact ⟨i, hi, i, settled_of_candidate? hsane hbefore hbehind hnearby,
      candidate?_wall hnearby⟩

theorem readsBack_of_resolve {name : Option String}
    {c : TimeWindow.Zone.Catalog} (h : resolve name c = .ok z) :
    ReadsBack z :=
  readsBack_of_spread (sane_of_resolve h) (spread_of_resolve h)

end TimeWindow.Proofs.Zone.Occurrence

import Mathlib.Order.Basic
import TimeWindow.Proofs.Zone.Settling
import TimeWindow.Proofs.Zone.Steady

/-!
# Wall times that a zone can read

Before its first change a zone keeps the offset it begins with, and so it reads
every wall time in only one way (`localize_early`).  Later on it can read all of
them but those at the ends of the calendar (`localize_inside`).
-/

namespace TimeWindow.Proofs.Zone.Beginning

open Outcome Conversion Settling Steady

/-- A reading a day or more behind the beginning of the calendar and two days or
more before every change. -/
structure Early (z : Zone) (w : Wall) : Prop where
  low : Calendar.day ≤ w.ticks
  high : w.ticks + Calendar.day < Calendar.ending
  before : ∀ change ∈ z.changes, w.ticks + 2 * Calendar.day ≤ change.1.ticks

theorem periodAt_early {z : Zone} {u : Wall}
    (h : ∀ change ∈ z.changes, u.ticks < change.1.ticks) :
    z.periodAt u = z.base := by
  unfold Zone.periodAt
  generalize z.base = p
  generalize z.changes = changes at h
  induction changes with
  | nil => rfl
  | cons change changes ih =>
    obtain ⟨start, q⟩ := change
    have hfirst := h (start, q) List.mem_cons_self
    rw [List.foldl_cons]
    dsimp only at hfirst ⊢
    rw [if_neg (by omega)]
    exact ih fun c hc => h c (List.mem_cons_of_mem _ hc)

section

variable {z : Zone} (hsane : z.Sane) {w : Wall} (h : Early z w)

include hsane h

theorem candidate?_early {nearby : Wall}
    (hnearby : nearby.ticks ≤ w.ticks + Calendar.day) :
    z.candidate? w nearby = some (shown z w) := by
  have hday : Calendar.day = 86400000000 := rfl
  have hbase : z.periodAt nearby = z.base := periodAt_early fun c hc => by
    have hc := h.before c hc
    omega
  have hoffset := offset_ticks (hsane z.base List.mem_cons_self)
  have hutc : z.periodAt (w.add (-(z.base.offset * Calendar.second))) = z.base :=
    periodAt_early fun c hc => by
    have hc := h.before c hc
    change w.ticks + -(z.base.offset * Calendar.second) < c.1.ticks
    omega
  unfold Zone.candidate?
  dsimp only
  rw [hbase, hutc, if_pos rfl]
  rfl

theorem candidates_early : z.candidates w = .ok [shown z w] := by
  have hday : Calendar.day = 86400000000 := rfl
  have hlow :
      (w.add (-Calendar.day)).checked = .ok (w.add (-Calendar.day)) := by
    refine Wall.checked_eq_ok.2 ⟨rfl, inRange_iff.2 ?_⟩
    have hlow := h.low
    have hhigh := h.high
    change 0 ≤ w.ticks + -Calendar.day ∧
      w.ticks + -Calendar.day < Calendar.ending
    omega
  have hhigh : (w.add Calendar.day).checked = .ok (w.add Calendar.day) := by
    refine Wall.checked_eq_ok.2 ⟨rfl, inRange_iff.2 ?_⟩
    have hlow := h.low
    have hhigh := h.high
    change 0 ≤ w.ticks + Calendar.day ∧ w.ticks + Calendar.day < Calendar.ending
    omega
  have hbefore : z.candidate? w (w.add (-Calendar.day)) = some (shown z w) := by
    refine candidate?_early hsane h ?_
    change w.ticks + -Calendar.day ≤ w.ticks + Calendar.day
    omega
  have hafter : z.candidate? w (w.add Calendar.day) = some (shown z w) :=
    candidate?_early hsane h (Int.le_refl _)
  unfold Zone.candidates
  rw [hlow, hhigh]
  simp only [bind, Except.bind]
  rw [hbefore, hafter]
  exact congrArg Except.ok (if_pos rfl)

theorem localize_early : z.localize w = .ok (shown z w) := by
  unfold Zone.localize
  split
  · rfl
  · unfold Zone.localizeFrom
    rw [candidates_early hsane h]
    rfl

end

theorem early_of_recorded {z : Zone} (h : z.Recorded) {w : Wall}
    (hlow : Calendar.day ≤ w.ticks)
    (hbefore : w.ticks + 2 * Calendar.day ≤ Zone.firstRecord) : Early z w := by
  have hfirst : Zone.firstRecord < Calendar.ending := by decide
  have hday : Calendar.day = 86400000000 := rfl
  refine ⟨hlow, by omega, fun change hchange => ?_⟩
  exact Int.le_trans hbefore (h change hchange).1

/-! ## Inside the calendar -/

theorem candidates_inside (z : Zone) {w : Wall}
    (hlow : Calendar.day ≤ w.ticks)
    (hhigh : w.ticks + Calendar.day < Calendar.ending) :
    ∃ is, z.candidates w = .ok is := by
  have hinside : ∀ ticks, ticks = -Calendar.day ∨ ticks = Calendar.day →
      (w.add ticks).checked = .ok (w.add ticks) := by
    intro ticks hticks
    have hday : Calendar.day = 86400000000 := rfl
    refine Wall.checked_eq_ok.2 ⟨rfl, inRange_iff.2 ?_⟩
    change 0 ≤ w.ticks + ticks ∧ w.ticks + ticks < Calendar.ending
    omega
  unfold Zone.candidates
  rw [hinside _ (.inl rfl), hinside _ (.inr rfl)]
  dsimp only [Bind.bind, Except.bind]
  split <;> exact ⟨_, rfl⟩

theorem localizeFrom_inside {z : Zone} (hsane : z.Sane) (hinland : Inland z)
    {fuel : Nat} {w : Wall} (hfuel : w.ticks / Zone.stepBack < fuel)
    (hlow : Calendar.day ≤ w.ticks)
    (hhigh : w.ticks + Calendar.day < Calendar.ending) :
    ∃ i, z.localizeFrom fuel w = .ok i := by
  have hday : Calendar.day = 86400000000 := rfl
  have hstep : Zone.stepBack = 21600000000 := rfl
  induction fuel generalizing w with
  | zero =>
    have hnonneg : 0 ≤ w.ticks / Zone.stepBack :=
      Int.ediv_nonneg (by omega) (by omega)
    omega
  | succ fuel ih =>
    obtain ⟨is, his⟩ := candidates_inside z hlow hhigh
    unfold Zone.localizeFrom
    rw [his]
    obtain ⟨-, -, ⟨i, rfl, -⟩ | ⟨i, j, rfl, -⟩ | ⟨rfl, hgap, -⟩⟩ :=
      candidates_cases his
    · exact ⟨i, rfl⟩
    · exact ⟨_, rfl⟩
    · -- a gap is near a clock change, and those keep off the beginning of the
      -- calendar
      obtain ⟨change, hchange, hbefore, hbehind⟩ := gap_near_change hsane hgap
      obtain ⟨hfirst, -⟩ := hinland change hchange
      have hticks : (w.add (-Zone.stepBack)).ticks = w.ticks - Zone.stepBack :=
        rfl
      obtain ⟨earlier, hearlier⟩ := @ih (w.add (-Zone.stepBack))
        (by rw [hticks, hstep]; rw [hstep] at hfuel; push_cast at hfuel; omega)
        (by omega) (by omega)
      have hback :
          (w.add (-Zone.stepBack)).checked = .ok (w.add (-Zone.stepBack)) :=
        Wall.checked_eq_ok.2 ⟨rfl, inRange_iff.2 (by omega)⟩
      have hforth : (earlier.wall.add Zone.stepBack).checked = .ok w := by
        rw [localizeFrom_wall hearlier, add_neg_add]
        exact Wall.checked_eq_ok.2 ⟨rfl, inRange_iff.2 (by omega)⟩
      dsimp only [Bind.bind, Except.bind]
      rw [hback]
      dsimp only
      rw [hearlier]
      unfold Instant.addWall
      dsimp only
      rw [hforth]
      exact ⟨_, rfl⟩

theorem localize_inside {z : Zone} (hsane : z.Sane) (hinland : Inland z)
    {w : Wall} (hlow : Calendar.day ≤ w.ticks)
    (hhigh : w.ticks + Calendar.day < Calendar.ending) :
    ∃ i, z.localize w = .ok i := by
  have hday : Calendar.day = 86400000000 := rfl
  have hstep : Zone.stepBack = 21600000000 := rfl
  unfold Zone.localize
  split
  · exact ⟨_, rfl⟩
  · refine localizeFrom_inside hsane hinland ?_ hlow hhigh
    have hnonneg : 0 ≤ w.ticks / Zone.stepBack :=
      Int.ediv_nonneg (by omega) (by omega)
    omega

theorem localize_again {z : Zone} (hsane : z.Sane) (hrecorded : z.Recorded)
    {w : Wall} {i here : Instant} (hw : w.inRange = true)
    (hi : z.localize w = .ok i) (hhere : i.toZone z = .ok here) :
    here.wall.inRange = true ∧ ∃ k, z.localize here.wall = .ok k := by
  have hinland := inland_of_recorded hrecorded
  have hwall := localize_wall hi
  have hshown := toZone_ticks hhere
  have hticks := wall_ticks i
  have hoffset := offset_ticks ((localize_carries hi).offset_lt hsane)
  have hoffset' := offset_ticks ((toZone_carries hhere).offset_lt hsane)
  have hread := hi
  unfold Zone.localize at hi
  split at hi
  · rename_i hconstant
    cases hi
    have hsettled : (shown z w).toZone z = .ok (shown z w) := toZone_shown z w
    cases hsettled.symm.trans hhere
    exact ⟨hw, _, hread⟩
  · obtain ⟨hlow, hhigh, ⟨nearby, hshown⟩ | ⟨hgap, -⟩⟩ := localizeFrom_cases hi
    · have hsettled : i.toZone z = .ok i :=
        settled_of_candidate? hsane hlow hhigh hshown
      rw [hsettled] at hhere
      cases hhere
      rw [hwall]
      exact ⟨hw, _, hread⟩
    · -- a gap is near a clock change, and the record of those begins and ends
      -- far inside
      obtain ⟨change, hchange, hbefore, hbehind⟩ := gap_near_change hsane hgap
      have hfirst : 4 * Calendar.day ≤ Zone.firstRecord := by decide
      have hlast : Zone.lastRecord < Calendar.ending - 4 * Calendar.day := by
        decide
      have hrecord := hrecorded change hchange
      have hday : Calendar.day = 86400000000 := rfl
      rw [hwall] at hticks
      refine ⟨inRange_iff.2 (by omega), localize_inside hsane hinland ?_ ?_⟩
      · omega
      · omega

end TimeWindow.Proofs.Zone.Beginning

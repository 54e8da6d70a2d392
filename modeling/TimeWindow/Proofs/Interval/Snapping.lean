import Mathlib.Algebra.Order.Field.Rat
import Mathlib.Data.Rat.Cast.Order
import Mathlib.Tactic.FieldSimp
import Mathlib.Tactic.Linarith
import TimeWindow.Interval.QueryStep

/-!
# Snapping to the ladder

A length cuts the ladder between the bounds that do not lie above it and those
that do, and is snapped to the first step behind the cut.  Since bounds and
steps both ascend, snapping keeps the order; and since the step of each bucket
lies in it, never far from either end, snapping is a sound quantisation
(`snap_quantises`).
-/

namespace TimeWindow.Proofs.Interval.Snapping

open TimeWindow.Interval

def rungs : List Int := ladder.map Prod.snd ++ [longestStep]

/-- The first step of a part of the ladder that goes up to its end. -/
def firstStep (back : List (Int × Int)) : Int :=
  (back.head?.map Prod.snd).getD longestStep

/-- A length cuts the ladder in two: the bounds in front do not lie above it,
the others do. -/
structure CutAt (x : Rat) (front back : List (Int × Int)) : Prop where
  cut : ladder = front ++ back
  below : ∀ entry ∈ front, (entry.1 : Rat) ≤ x
  above : ∀ entry ∈ back, x < entry.1

variable {x y : Rat} {entries front back : List (Int × Int)}

/-! ## Cutting -/

theorem snapOn_append (h : ∀ entry ∈ front, (entry.1 : Rat) ≤ x) :
    snapOn x (front ++ back) = snapOn x back := by
  induction front with
  | nil => rfl
  | cons entry front ih =>
    obtain ⟨hentry, hfront⟩ := List.forall_mem_cons.1 h
    rw [List.cons_append, snapOn, if_neg hentry.not_gt, ih hfront]

theorem snapOn_of_above (h : ∀ entry ∈ back, x < entry.1) :
    snapOn x back = firstStep back := by
  cases back with
  | nil => rfl
  | cons entry back => exact if_pos (h entry List.mem_cons_self)

theorem bounds_ascend : ladder.Pairwise fun a b => a.1 < b.1 := by decide

theorem exists_cut (x : Rat) (h : entries.Pairwise fun a b => a.1 < b.1) :
    ∃ front back, entries = front ++ back ∧
      (∀ entry ∈ front, (entry.1 : Rat) ≤ x) ∧ ∀ entry ∈ back, x < entry.1 := by
  induction entries with
  | nil => exact ⟨[], [], rfl, nofun, nofun⟩
  | cons entry entries ih =>
    obtain ⟨hfirst, hentries⟩ := List.pairwise_cons.1 h
    rcases lt_or_ge x entry.1 with habove | hbelow
    · refine ⟨[], entry :: entries, rfl, nofun,
        List.forall_mem_cons.2 ⟨habove, fun other hother => ?_⟩⟩
      exact habove.trans (Int.cast_lt.2 (hfirst other hother))
    · obtain ⟨front, back, rfl, hfront, hback⟩ := ih hentries
      exact ⟨entry :: front, back, rfl,
        List.forall_mem_cons.2 ⟨hbelow, hfront⟩, hback⟩

theorem exists_cutAt (x : Rat) :
    ∃ front back, CutAt x front back ∧ snap x = firstStep back := by
  obtain ⟨front, back, hcut, hbelow, habove⟩ := exists_cut x bounds_ascend
  refine ⟨front, back, ⟨hcut, hbelow, habove⟩, ?_⟩
  rw [snap, hcut, snapOn_append hbelow, snapOn_of_above habove]

/-! ## Steps -/

theorem snapOn_mem (x : Rat) (entries : List (Int × Int)) :
    snapOn x entries ∈ entries.map Prod.snd ++ [longestStep] := by
  induction entries with
  | nil => exact List.mem_singleton_self longestStep
  | cons entry entries ih =>
    rw [snapOn]
    split
    · exact List.mem_cons_self
    · exact List.mem_cons_of_mem entry.2 ih

theorem snap_mem_rungs (x : Rat) : snap x ∈ rungs := snapOn_mem x ladder

theorem snapOn_mono
    (hsteps : (entries.map Prod.snd ++ [longestStep]).Pairwise (· ≤ ·))
    (h : x ≤ y) :
    snapOn x entries ≤ snapOn y entries := by
  induction entries with
  | nil => exact le_refl longestStep
  | cons entry entries ih =>
    rw [List.map_cons, List.cons_append, List.pairwise_cons] at hsteps
    rw [snapOn, snapOn]
    split
    · split
      · exact le_refl entry.2
      · exact hsteps.1 _ (snapOn_mem y entries)
    · rename_i hx
      rw [if_neg (not_lt.2 ((not_lt.1 hx).trans h))]
      exact ih hsteps.2

theorem steps_ascend : rungs.Pairwise (· ≤ ·) := by decide

theorem snap_mono (h : x ≤ y) : snap x ≤ snap y := snapOn_mono steps_ascend h

theorem snap_rung : ∀ rung ∈ rungs, snap rung = rung := by decide +kernel

theorem snap_pos (x : Rat) : 1 ≤ snap x := by
  have hrungs : ∀ rung ∈ rungs, 1 ≤ rung := by decide
  exact hrungs _ (snap_mem_rungs x)

theorem snap_of_small (h : x < 10) : snap x = shortestStep :=
  if_pos (by exact_mod_cast h)

theorem snapNumber_of_value {n : Number} (h : n.value? = some x) :
    snapNumber n = snap x := by
  cases n with
  | int n =>
    cases h
    rfl
  | real d =>
    cases d with
    | finite q =>
      cases h
      rfl
    | negativeZero =>
      cases h
      rfl
    | infinite negative => cases h
    | nan => cases h

/-! ## Buckets -/

/-- The buckets of a part of the ladder that begins at a length: both ends and
the step of each. -/
def buckets : Int → List (Int × Int) → List (Int × Int × Int)
  | _, [] => []
  | low, (bound, step) :: entries => (low, bound, step) :: buckets bound entries

theorem snapOn_bucket (entries : List (Int × Int)) {low : Int}
    (hlow : low ≤ x) :
    (∃ bucket ∈ buckets low entries, bucket.1 ≤ x ∧ x < bucket.2.1 ∧
      snapOn x entries = bucket.2.2) ∨
      (∀ entry ∈ entries, (entry.1 : Rat) ≤ x) ∧
      snapOn x entries = longestStep := by
  induction entries generalizing low with
  | nil => exact .inr ⟨nofun, rfl⟩
  | cons entry entries ih =>
    obtain ⟨bound, step⟩ := entry
    rcases lt_or_ge x bound with habove | hbelow
    · exact .inl ⟨(low, bound, step), List.mem_cons_self, hlow, habove,
        if_pos habove⟩
    · rw [snapOn, if_neg hbelow.not_gt]
      rcases ih hbelow with ⟨bucket, hmem, hbucket⟩ | ⟨hentries, hlongest⟩
      · exact .inl ⟨bucket, List.mem_cons_of_mem _ hmem, hbucket⟩
      · exact .inr ⟨List.forall_mem_cons.2 ⟨hbelow, hentries⟩, hlongest⟩

/-- From the second bucket on up to a day, a length is no less than seven tenths
of its step and less than twice the step. -/
theorem snap_near (hlow : 10 ≤ x) (hhigh : x < 86400000) :
    7 / 10 * snap x ≤ x ∧ x < 2 * snap x := by
  have hbuckets : ∀ bucket ∈ buckets 10 ladder.tail,
      bucket.1 < 86400000 → 7 * bucket.2.2 ≤ 10 * bucket.1 ∧
        bucket.2.1 ≤ 2 * bucket.2.2 := by decide
  have hsnap : snap x = snapOn x ladder.tail :=
    if_neg (not_lt.2 (by exact_mod_cast hlow))
  rw [hsnap]
  have hten : ((10 : Int) : Rat) ≤ x := by exact_mod_cast hlow
  rcases snapOn_bucket ladder.tail hten with
    ⟨bucket, hmem, hstart, hstop, hstep⟩ | ⟨hentries, -⟩
  · have hday : bucket.1 < 86400000 := by exact_mod_cast hstart.trans_lt hhigh
    obtain ⟨hseven, htwo⟩ := hbuckets bucket hmem hday
    have hseven' : (7 : Rat) * bucket.2.2 ≤ 10 * bucket.1 := by
      exact_mod_cast hseven
    have htwo' : (bucket.2.1 : Rat) ≤ 2 * bucket.2.2 := by exact_mod_cast htwo
    rw [hstep]
    exact ⟨by linarith, by linarith⟩
  · have hday := hentries (86400000, 43200000) (by decide)
    exact absurd hhigh (not_lt.2 (by exact_mod_cast hday))

theorem lt_ten_snap (h : x < 315360000000) : x < 10 * snap x := by
  have hbuckets : ∀ bucket ∈ buckets 0 ladder,
      bucket.2.1 ≤ 10 * bucket.2.2 := by decide
  rcases le_or_gt 0 x with hpos | hneg
  · have hzero : ((0 : Int) : Rat) ≤ x := by exact_mod_cast hpos
    rcases snapOn_bucket ladder hzero with
      ⟨bucket, hmem, -, hstop, hstep⟩ | ⟨-, hlongest⟩
    · have hten : (bucket.2.1 : Rat) ≤ 10 * bucket.2.2 := by
        exact_mod_cast hbuckets bucket hmem
      rw [snap, hstep]
      exact hstop.trans_le hten
    · rw [snap, hlongest, longestStep]
      norm_num
      exact h
  · have hstep : (1 : Rat) ≤ snap x := by exact_mod_cast snap_pos x
    linarith

/-- **Snapping is a sound quantisation.**  A length is snapped to the step
behind its cut of the ladder; snapping keeps the order and leaves steps as they
are; steps are near the lengths that are snapped to them; and a span that is
divided into points has less than ten times as many steps. -/
theorem snap_quantises (x y : Rat) :
    snap x ∈ rungs ∧
      (∃ front back, CutAt x front back ∧ snap x = firstStep back) ∧
      (∀ n : Number, n.value? = some x → snapNumber n = snap x) ∧
      (x ≤ y → snap x ≤ snap y) ∧
      snap (snap x) = snap x ∧ (∀ rung ∈ rungs, snap rung = rung) ∧
      (10 ≤ x → x < 86400000 → 7 / 10 * snap x ≤ x ∧ x < 2 * snap x) ∧
      (x < 315360000000 → x < 10 * snap x) ∧
      ∀ span points : Rat, 0 < points → x = span / points → x < 315360000000 →
        span / snap x < 10 * points := by
  refine ⟨snap_mem_rungs x, exists_cutAt x, fun _ =>
    snapNumber_of_value, snap_mono, snap_rung _ (snap_mem_rungs x), snap_rung,
    snap_near, lt_ten_snap, ?_⟩
  intro span points hpoints hx hshort
  have hstep : (0 : Rat) < snap x := by exact_mod_cast snap_pos x
  have hspan : span = x * points := by
    rw [hx]
    field_simp
  calc span / snap x = x * points / snap x := by rw [hspan]
    _ < 10 * snap x * points / snap x := by
      gcongr
      exact lt_ten_snap hshort
    _ = 10 * points := by field_simp

theorem snap_quantises_hours :
    snap (14400000 / 16) ≤ snap (14400000 / 8) ∧
    7 / 10 * (snap (14400000 / 16) : Rat) ≤ 14400000 / 16 ∧
      (14400000 : Rat) / snap (14400000 / 16) < 10 * 16 := by
  obtain ⟨-, -, -, hmono, -, -, hnear, -, hpoints⟩ :=
    snap_quantises (14400000 / 16) (14400000 / 8)
  exact ⟨hmono (by norm_num), (hnear (by norm_num) (by norm_num)).1,
    hpoints 14400000 16 (by norm_num) rfl (by norm_num)⟩

end TimeWindow.Proofs.Interval.Snapping

/-!
# Counting requests

How often each answer was given, by method, path and status, and how many
requests were timed. `count_record` says that recording an answer changes the
count of its own label only, and `total_record` that all counts together grow by
one.
-/

namespace TimeWindow.Http

structure Label where
  method : String
  path : String
  status : String
  deriving DecidableEq, Repr

namespace Label

def before (a b : Label) : Bool :=
  a.method < b.method || (a.method = b.method &&
    (a.path < b.path || (a.path = b.path && a.status < b.status)))

end Label

structure Tally where
  counts : List (Label × Nat) := []
  timed : Nat := 0
  deriving DecidableEq, Repr

namespace Tally

def bump (l : Label) : List (Label × Nat) → List (Label × Nat)
  | [] => [(l, 1)]
  | (m, n) :: rest =>
    if m = l then (m, n + 1) :: rest else (m, n) :: bump l rest

def sum : List (Label × Nat) → Nat
  | [] => 0
  | (_, n) :: rest => n + sum rest

def find (l : Label) : List (Label × Nat) → Nat
  | [] => 0
  | (m, n) :: rest => if m = l then n else find l rest

def count (t : Tally) (l : Label) : Nat := find l t.counts

def total (t : Tally) : Nat := sum t.counts

def time (t : Tally) : Tally := { t with timed := t.timed + 1 }

def record (t : Tally) (l : Label) : Tally :=
  { t with counts := bump l t.counts }

def listed (t : Tally) : List (Label × Nat) :=
  t.counts.mergeSort fun a b => !b.1.before a.1

theorem find_bump (l m : Label) (counts : List (Label × Nat)) :
    find m (bump l counts) = find m counts + if m = l then 1 else 0 := by
  induction counts with
  | nil =>
    by_cases h : l = m
    · simp [bump, find, h]
    · simp [bump, find, h, Ne.symm h]
  | cons c rest ih =>
    obtain ⟨k, n⟩ := c
    by_cases hk : k = l
    · by_cases hm : l = m
      · simp [bump, find, hk, hm]
      · simp [bump, find, hk, hm, Ne.symm hm]
    · by_cases hm : k = m
      · have hl : m ≠ l := fun h => hk (hm.trans h)
        simp [bump, find, hm, hl]
      · simp [bump, find, hk, hm, ih]

theorem sum_bump (l : Label) (counts : List (Label × Nat)) :
    sum (bump l counts) = sum counts + 1 := by
  induction counts with
  | nil => rfl
  | cons c rest ih =>
    obtain ⟨k, n⟩ := c
    by_cases hk : k = l
    · simp only [bump, hk, if_true, sum]
      omega
    · simp only [bump, hk, if_false, sum, ih]
      omega

theorem count_record (t : Tally) (l m : Label) :
    (t.record l).count m = t.count m + if m = l then 1 else 0 :=
  find_bump l m t.counts

theorem total_record (t : Tally) (l : Label) :
    (t.record l).total = t.total + 1 :=
  sum_bump l t.counts

@[simp] theorem count_time (t : Tally) (l : Label) :
    t.time.count l = t.count l :=
  rfl

end Tally

end TimeWindow.Http

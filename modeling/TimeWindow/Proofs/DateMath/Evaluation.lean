import TimeWindow.DateMath.Evaluation
import TimeWindow.Proofs.DateMath.Grammar

/-!
# What date math evaluates to

A step has a meaning of its own (`taken`), and a row of steps the meaning of its
members, each taken from where the one before it led (`takeAll`).  A text
evaluates to this fold of the steps that are read, so the results on the grammar
carry over to values.
-/

namespace TimeWindow.Proofs.DateMath.Evaluation

open TimeWindow.DateMath Grammar

/-- Where a step leads.  A rounding leads to the beginning of the unit, or to
its end where roundings go up, and with the fiscal mark to that of the fiscal
unit.  A shift leads as many units on as its signed amount says. -/
def taken (rules : Rules) (i : Instant) : Step → Except Fault Instant
  | .round false unit =>
    match rules.roundUp with
    | false => startOf i unit rules.zone rules.weekStart
    | true => endOf i unit rules.zone rules.weekStart
  | .round true unit =>
    roundToFiscal rules.fiscalStart i unit rules.roundUp rules.zone
  | .shift amount unit => shift i amount unit rules.zone

def takeAll (rules : Rules) (i : Instant) (steps : List Step) :
    Except Fault Instant :=
  steps.foldlM (taken rules) i

theorem apply_eq_taken (rules : Rules) (i : Instant) (step : Step) :
    step.apply rules i = taken rules i step := by
  cases step with
  | shift => rfl
  | round fiscal =>
    unfold Step.apply taken
    cases fiscal <;> cases rules.roundUp <;> rfl

theorem takeAll_eq_foldlM (rules : Rules) (i : Instant) (steps : List Step) :
    takeAll rules i steps =
      steps.foldlM (fun i step => step.apply rules i) i := by
  have hsteps : taken rules = fun i step => step.apply rules i := by
    funext i step
    exact (apply_eq_taken rules i step).symm
  rw [takeAll, hsteps]

theorem takeAll_nil (rules : Rules) (i : Instant) :
    takeAll rules i [] = .ok i :=
  rfl

theorem takeAll_cons (rules : Rules) (i : Instant) (step : Step)
    (steps : List Step) :
    takeAll rules i (step :: steps) = step.apply rules i >>= fun j =>
      takeAll rules j steps := by
  rw [apply_eq_taken, takeAll, List.foldlM_cons]
  rfl

theorem takeAll_append {rules : Rules} {i : Instant}
    {first others : List Step} :
    takeAll rules i (first ++ others) =
      takeAll rules i first >>= fun j => takeAll rules j others := by
  simp [takeAll, List.foldlM_append]

theorem takeAll_of_isPrefix {rules : Rules} {i j : Instant}
    {first steps : List Step} (hfront : first <+: steps)
    (h : takeAll rules i steps = .ok j) :
    ∃ k, takeAll rules i first = .ok k := by
  obtain ⟨others, rfl⟩ := hfront
  rw [takeAll_append] at h
  cases hfirst : takeAll rules i first with
  | ok k => exact ⟨k, rfl⟩
  | error f =>
    rw [hfirst] at h
    cases h

theorem evaluate_eq_bind (rules : Rules) (math : List Char) (i : Instant) :
    evaluate rules math i = takeAll rules i (Step.read math).1 >>= fun j =>
      .ok (if (Step.read math).2 then some j else none) := by
  rw [takeAll_eq_foldlM]
  rfl

theorem evaluate_eq (rules : Rules) (math : List Char) (i : Instant) :
    evaluate rules math i = (takeAll rules i (Step.read math).1).map fun j =>
      if (Step.read math).2 then some j else none := by
  rw [evaluate_eq_bind]
  cases takeAll rules i (Step.read math).1 <;> rfl

theorem evaluate_of_isMath {rules : Rules} {math : List Char} {i : Instant}
    {steps : List Step} (h : IsMath (bare math) steps) :
    evaluate rules math i = (takeAll rules i steps).map some := by
  rw [evaluate_eq, read_eq_iff.2 h]
  rfl

theorem isMath_read (math : List Char) :
    ∃ head, head <+: bare math ∧ IsMath head (Step.read math).1 := by
  obtain ⟨head, rest, hcs, hwritten, early, -⟩ := readFrom_sound (bare math) 0
  exact ⟨head, ⟨rest, hcs.symm⟩, hwritten, early⟩

theorem isPrefix_read {math head : List Char} {steps : List Step}
    (hhead : head <+: bare math) (h : IsMath head steps) :
    steps <+: (Step.read math).1 := by
  obtain ⟨rest, hrest⟩ := hhead
  rw [Step.read, ← bare, ← hrest, readFrom_append h.1 h.2]
  exact List.prefix_append _ _

/-- No step leaves the calendar: however far the text is a row of steps, these
can be taken. -/
def Stays (rules : Rules) (math : List Char) (i : Instant) : Prop :=
  ∀ head steps, head <+: bare math → IsMath head steps →
    ∃ j, takeAll rules i steps = .ok j

theorem stays_iff {rules : Rules} {math : List Char} {i : Instant} :
    Stays rules math i ↔ ∃ j, takeAll rules i (Step.read math).1 = .ok j := by
  constructor
  · intro h
    obtain ⟨head, hhead, hmath⟩ := isMath_read math
    exact h head _ hhead hmath
  · rintro ⟨j, hj⟩ head steps hhead hmath
    exact takeAll_of_isPrefix (isPrefix_read hhead hmath) hj

theorem stays_iff_evaluate {rules : Rules} {math : List Char} {i : Instant} :
    Stays rules math i ↔ ∃ o, evaluate rules math i = .ok o := by
  rw [stays_iff, evaluate_eq]
  cases takeAll rules i (Step.read math).1 with
  | error f => simp [Except.map]
  | ok j => simp [Except.map]

/-- A text that stays in the calendar has no value exactly when it is no row of
steps that can be read. -/
theorem evaluate_eq_none_iff {rules : Rules} {math : List Char} {i : Instant}
    (stays : Stays rules math i) :
    evaluate rules math i = .ok none ↔ ¬ ∃ steps, IsMath (bare math) steps := by
  obtain ⟨j, hj⟩ := stays_iff.1 stays
  rw [← read_complete_iff, evaluate_eq, hj]
  cases (Step.read math).2 with
  | false => simp [Except.map]
  | true => simp [Except.map]

/-- **Grammar and meaning of date math.** As long as no step leaves the
calendar, a text has no value exactly when it is no row of steps with all digits
before place 10; otherwise its value is the fold of its steps. -/
theorem evaluate_eq_fold_of_grammar (rules : Rules) (math : List Char)
    (i : Instant) (stays : Stays rules math i) :
    (evaluate rules math i = .ok none ↔ ¬ ∃ steps, IsMath (bare math) steps) ∧
      ∀ steps, IsMath (bare math) steps →
        ∃ j, takeAll rules i steps = .ok j ∧
          evaluate rules math i = .ok (some j) := by
  refine ⟨evaluate_eq_none_iff stays, ?_⟩
  intro steps hmath
  obtain ⟨j, hj⟩ := stays (bare math) steps List.prefix_rfl hmath
  exact ⟨j, hj, by rw [evaluate_of_isMath hmath, hj]; rfl⟩

def noon (date : Int) : Instant :=
  ⟨.onDate ⟨2024, 3, date⟩ (12 * Calendar.hour), .period .utc Zone.utc.base⟩

theorem evaluate_yesterday :
    Stays {} "- 1d /d".toList (noon 15) ∧
      ∃ j, takeAll {} (noon 15) [.shift (-1) .day, .round false .day] = .ok j ∧
        evaluate {} "- 1d /d".toList (noon 15) = .ok (some j) := by
  have stays : Stays {} "- 1d /d".toList (noon 15) := stays_iff.2 ⟨_, rfl⟩
  exact ⟨stays, (evaluate_eq_fold_of_grammar {} _ _ stays).2 _ (read_eq_iff.1 rfl)⟩

/-! ## Joining texts

Two rows of steps make one row, but a digit of the second text stands further
behind in the joined one than it did alone.
-/

theorem bare_append (a b : List Char) : bare (a ++ b) = bare a ++ bare b := by
  simp [bare]

theorem written_append {a b : List Char} {first others : List Step}
    (ha : Written a first) (hb : Written b others) :
    Written (a ++ b) (first ++ others) := by
  induction ha with
  | nil => exact hb
  | cons first _ ih =>
    rw [List.append_assoc]
    exact Written.cons first ih

theorem isMath_of_evaluate {rules : Rules} {math : List Char} {i j : Instant}
    (h : evaluate rules math i = .ok (some j)) :
    IsMath (bare math) (Step.read math).1 ∧
    takeAll rules i (Step.read math).1 = .ok j := by
  rw [evaluate_eq] at h
  cases htaken : takeAll rules i (Step.read math).1 with
  | error f =>
    rw [htaken] at h
    cases h
  | ok k =>
    rw [htaken] at h
    cases hcomplete : (Step.read math).2 with
    | false =>
      rw [hcomplete] at h
      cases h
    | true =>
      rw [hcomplete] at h
      cases h
      exact ⟨read_eq_iff.1 (Prod.ext rfl hcomplete), rfl⟩

theorem evaluate_of_late {rules : Rules} {math : List Char} {i j : Instant}
    {steps : List Step} (h : Written (bare math) steps)
    (hall : takeAll rules i steps = .ok j)
    (late : ¬ DigitsEarly 0 (bare math)) :
    evaluate rules math i = .ok none := by
  have hincomplete : (Step.read math).2 = false := by
    rw [Bool.eq_false_iff]
    intro hcomplete
    obtain ⟨steps', -, hdigits⟩ := read_complete_iff.1 hcomplete
    exact late hdigits
  have hfront : (Step.read math).1 <+: steps := readFrom_isPrefix 0 h
  obtain ⟨k, hk⟩ := takeAll_of_isPrefix hfront hall
  rw [evaluate_eq, hk, hincomplete]
  rfl

/-- **Date math composes exactly as far as its digits reach.**  When the first
text leads to `j` and the second one from there to `k`, the joined text leads to
`k` if each digit of the second still stands before place 10, and otherwise has
no value. -/
theorem evaluate_append_iff {rules : Rules} {a b : List Char}
    {i j k : Instant} (ha : evaluate rules a i = .ok (some j))
    (hb : evaluate rules b j = .ok (some k)) :
    (evaluate rules (a ++ b) i = .ok (some k) ↔
      DigitsEarly (bare a).length (bare b)) ∧
      (¬ DigitsEarly (bare a).length (bare b) →
        evaluate rules (a ++ b) i = .ok none) := by
  obtain ⟨⟨hwritten, hearly⟩, htaken⟩ := isMath_of_evaluate ha
  obtain ⟨⟨hwritten', -⟩, htaken'⟩ := isMath_of_evaluate hb
  have hjoined :
      Written (bare (a ++ b)) ((Step.read a).1 ++ (Step.read b).1) := by
    rw [bare_append]
    exact written_append hwritten hwritten'
  have hall : takeAll rules i ((Step.read a).1 ++ (Step.read b).1) = .ok k := by
    rw [takeAll_append, htaken]
    exact htaken'
  have hdigits :
      DigitsEarly 0 (bare (a ++ b)) ↔ DigitsEarly (bare a).length (bare b) := by
    rw [bare_append, digitsEarly_append, Nat.zero_add]
    exact and_iff_right hearly
  have hvalue : DigitsEarly (bare a).length (bare b) →
      evaluate rules (a ++ b) i = .ok (some k) := by
    intro hearly'
    rw [evaluate_of_isMath ⟨hjoined, hdigits.2 hearly'⟩, hall]
    rfl
  have hnone :
      ¬ DigitsEarly (bare a).length (bare b) →
      evaluate rules (a ++ b) i = .ok none := by
    intro hlate
    exact evaluate_of_late hjoined hall (mt hdigits.1 hlate)
  refine ⟨⟨?_, hvalue⟩, hnone⟩
  intro h
  by_contra hlate
  rw [hnone hlate] at h
  cases h

theorem evaluate_append_early :
    evaluate {} ("+3d".toList ++ "+10d".toList) (noon 15) =
      .ok (some (noon 28)) :=
  (evaluate_append_iff (j := noon 18) rfl rfl).1.2 (by decide)

/-- The same thirteen days written in four steps have no value: the amount of
the last one, of two digits, reaches place 11. -/
theorem evaluate_append_late :
    evaluate {} "+1d+1d+1d".toList (noon 15) = .ok (some (noon 18)) ∧
      evaluate {} "+10d".toList (noon 18) = .ok (some (noon 28)) ∧
        evaluate {} ("+1d+1d+1d".toList ++ "+10d".toList) (noon 15) = .ok none :=
  ⟨rfl, rfl, rfl⟩

end TimeWindow.Proofs.DateMath.Evaluation

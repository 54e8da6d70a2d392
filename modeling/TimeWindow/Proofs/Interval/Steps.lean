import Mathlib.Algebra.Order.Field.Rat
import Mathlib.Tactic.Linarith
import TimeWindow.Proofs.Interval.Printing
import TimeWindow.Proofs.Outcome

/-!
# Query steps

The step for a range is the larger one of the rung for a share of its span and
of the lower limit.  `Promised` says what is to come of a range, a resolution
and a limit, and the calculation keeps to it but for limits that the reader of
durations takes for numbers that are none (`step_as_promised`).  Steps grow with
the span and the limit, and with fewer points.
-/

namespace TimeWindow.Proofs.Interval.Steps

open TimeWindow.Text TimeWindow.Interval Interval.Durations Interval.Snapping
  Number.Vanishing Occurrences Outcome

/-! ## What is asked for -/

def value? : Resolution → Option Rat
  | .absent => none
  | .number n => n.value?
  | .flag b => some (if b then 1 else 0)

/-- The resolution is neither an infinity nor no number at all. -/
def Finite (r : Resolution) : Prop := ∀ n, r = .number n → n.value? ≠ none

/-- The resolution asks for a positive number of points. -/
def Wants (r : Resolution) (n : Rat) : Prop := value? r = some n ∧ 0 < n

/-- The lower limit in milliseconds; without one it is a millisecond. -/
inductive Limits : Option String → Rat → Prop where
  | absent : Limits none 1
  | empty : Limits (some "") 1
  | duration {text : String} {d : Duration} (nonempty : text ≠ "")
      (read : Duration.read text = .ok d) :
      Limits (some text) (d.scale.milliseconds * d.count)

def Rejected (limit : Option String) : Prop :=
  ∃ text, limit = some text ∧ text ≠ "" ∧ ∀ d, Duration.read text ≠ .ok d

/-- What is to come of a span in milliseconds, a resolution and a lower
limit. -/
inductive Promised (span : Rat) (r : Resolution) (limit : Option String) :
    Except Fault QueryStep → Prop where
  | resolution (unwanted : ∀ n, ¬ Wants r n) :
      Promised span r limit (.error (.invalidResolution r))
  | limit {n : Rat} (wants : Wants r n) (rejected : Rejected limit) :
      Promised span r limit (.error Duration.refusal)
  | step {n low : Rat} {text : String} (wants : Wants r n)
      (limits : Limits limit low)
      (labelled :
        label .exact (max (snap (span / n) : Rat) low / 1000) = .ok text) :
      Promised span r limit (.ok ⟨max (snap (span / n) : Rat) low, text⟩)

/-- The limit is asked for and taken for a number that is none. -/
def Misread (r : Resolution) (limit : Option String) : Prop :=
  (∃ n, Wants r n) ∧ ∃ text, limit = some text ∧ text ≠ "" ∧
    Duration.read text = .error .notANumber

variable {p : Precision} {r r' : Resolution} {limit limit' : Option String}
  {n n' low low' span : Rat}
  {start stop : Option Moment} {a b a' b' : Moment} {ticks ticks' : Int}

theorem Wants.unique (h : Wants r n) (h' : Wants r n') : n = n' :=
  Option.some.inj (h.1.symm.trans h'.1)

theorem Limits.unique (h : Limits limit low) (h' : Limits limit low') :
    low = low' := by
  cases h with
  | absent => cases h' with | absent => rfl
  | empty =>
    cases h' with
    | empty => rfl
    | duration hnonempty => exact absurd rfl hnonempty
  | duration hnonempty hread =>
    cases h' with
    | empty => exact absurd rfl hnonempty
    | duration _ hread' =>
      cases hread.symm.trans hread'
      rfl

theorem Limits.not_rejected (h : Limits limit low) : ¬ Rejected limit := by
  rintro ⟨text, rfl, hnonempty, hrejected⟩
  cases h with
  | empty => exact hnonempty rfl
  | duration _ hread => exact hrejected _ hread

theorem limits_or_rejected (limit : Option String) :
    (∃ low, Limits limit low) ∨ Rejected limit := by
  cases limit with
  | none => exact .inl ⟨1, .absent⟩
  | some text =>
    by_cases hempty : text = ""
    · rw [hempty]
      exact .inl ⟨1, .empty⟩
    · cases hread : Duration.read text with
      | ok d => exact .inl ⟨_, .duration hempty hread⟩
      | error f =>
        exact .inr ⟨text, rfl, hempty, fun d hd => nomatch hread.symm.trans hd⟩

/-! ## The parts of the calculation -/

theorem points_of_wants (h : Wants r n) :
    ∃ m, points r = .ok m ∧ m.value? = some n := by
  obtain ⟨hvalue, hpos⟩ := h
  cases r with
  | absent => cases hvalue
  | flag b =>
    cases hvalue
    cases b with
    | true => exact ⟨.int 1, rfl, rfl⟩
    | false => exact absurd hpos (lt_irrefl _)
  | number m =>
    have hvalue' : m.value? = some n := hvalue
    refine ⟨m, ?_, hvalue'⟩
    cases m with
    | int i =>
      cases hvalue'
      exact if_neg (not_le.2 (Int.cast_pos.1 hpos))
    | real d =>
      cases d with
      | finite q =>
        cases hvalue'
        exact if_neg (not_le.2 hpos)
      | negativeZero =>
        cases hvalue'
        exact absurd hpos (lt_irrefl _)
      | infinite negative => cases hvalue'
      | nan => cases hvalue'

theorem points_of_unwanted (hfinite : Finite r) (h : ∀ n, ¬ Wants r n) :
    points r = .error (.invalidResolution r) := by
  cases r with
  | absent => rfl
  | flag b =>
    cases b with
    | true => exact absurd ⟨rfl, one_pos⟩ (h 1)
    | false => rfl
  | number m =>
    have hvalue : ∀ q, m.value? = some q → q ≤ 0 :=
      fun q hq => not_lt.1 fun hpos => h q ⟨hq, hpos⟩
    cases m with
    | int i => exact if_pos (Int.cast_nonpos.1 (hvalue i rfl))
    | real d =>
      cases d with
      | finite q => exact if_pos (hvalue q rfl)
      | negativeZero => rfl
      | infinite negative => exact absurd rfl (hfinite _ rfl)
      | nan => exact absurd rfl (hfinite _ rfl)

theorem lowLimit_of_limits (h : Limits limit low) :
    lowLimit .exact limit = .ok low := by
  cases h with
  | absent => rfl
  | empty => rfl
  | duration hnonempty hread =>
    rename_i d
    unfold lowLimit
    dsimp only
    rw [if_neg hnonempty, hread]
    exact Labels.milliseconds_exact d

theorem lowLimit_of_unread {text : String} {f : Fault} (hnonempty : text ≠ "")
    (h : Duration.read text = .error f) :
    lowLimit p (some text) = .error f := by
  unfold lowLimit
  dsimp only
  rw [if_neg hnonempty, h]
  rfl

theorem calculate_of_points_error {f : Fault} (h : points r = .error f) :
    calculate p start stop r limit = .error f := by
  unfold calculate
  rw [h]
  rfl

theorem calculate_of_limit_error {m : Number} {f : Fault}
    (hpoints : points r = .ok m) (h : lowLimit p limit = .error f) :
    calculate p start stop r limit = .error f := by
  unfold calculate
  rw [hpoints, h]
  rfl

theorem spanMilliseconds_exact (ticks : Int) :
    spanMilliseconds .exact ticks = ticks / 1000 := by
  rw [spanMilliseconds, Precision.exact_round, Precision.exact_round]
  ring

theorem snapShare_exact {m : Number} (h : m.value? = some n) :
    snapShare .exact span m = .ok (snap (span / n)) := by
  unfold snapShare
  rw [h]
  rfl

theorem limit_short (h : Limits limit low) :
    low < Duration.Scale.year.milliseconds * 10 ^ Numeral.maxDigits := by
  have hone :
      (1 : Rat) < Duration.Scale.year.milliseconds * 10 ^ Numeral.maxDigits := by
    have hpow : (1 : Int) ≤ 10 ^ Numeral.maxDigits := one_le_pow₀ (by decide)
    have hyear : 1 < Duration.Scale.year.milliseconds := by decide
    exact_mod_cast hyear.trans_le (le_mul_of_one_le_right (by decide) hpow)
  cases h with
  | absent => exact hone
  | empty => exact hone
  | duration _ hread => exact Printing.limit_lt hread

theorem exists_label_of_limits (h : Limits limit low) (share : Rat) :
    ∃ text, label .exact (max (snap share : Rat) low / 1000) = .ok text := by
  have hpos : (1 : Rat) ≤ snap share := by exact_mod_cast snap_pos share
  refine Printing.label_of_lt (hpos.trans (le_max_left _ _))
    (max_lt ?_ (limit_short h))
  have hrungs : ∀ rung ∈ rungs,
      rung ≤ Duration.Scale.year.milliseconds := by decide
  have hpow : (1 : Int) < 10 ^ Numeral.maxDigits :=
    one_lt_pow₀ (by decide) (by decide)
  have hrung := hrungs _ (snap_mem_rungs share)
  exact_mod_cast hrung.trans_lt (lt_mul_of_one_lt_right (by decide) hpow)

theorem calculate_of_wants (hticks : a.ticksTo b = .ok ticks)
    (hwants : Wants r n) (hlimits : Limits limit low) :
    ∃ text, label .exact (max (snap (ticks / 1000 / n) : Rat) low / 1000) =
      .ok text ∧
      calculate .exact (some a) (some b) r limit =
        .ok ⟨max (snap (ticks / 1000 / n) : Rat) low, text⟩ := by
  obtain ⟨m, hpoints, hvalue⟩ := points_of_wants hwants
  obtain ⟨text, hlabel⟩ := exists_label_of_limits hlimits (ticks / 1000 / n)
  refine ⟨text, hlabel, ?_⟩
  unfold calculate
  dsimp only
  rw [hpoints, lowLimit_of_limits hlimits, hticks]
  change (snapShare .exact (spanMilliseconds .exact ticks) m >>= _) = _
  rw [spanMilliseconds_exact, snapShare_exact hvalue]
  dsimp only [Bind.bind, Except.bind]
  rw [← max_def_lt, Precision.exact_hold]
  dsimp only
  rw [hlabel]
  rfl

/-! ## The order of steps -/

/-- The share of a longer span among fewer points is not snapped to a smaller
step.  Spans that run backwards all have the shortest step, in however many
points. -/
theorem snap_share_mono {span' : Rat} (hspan : span ≤ span') (hpos : 0 < n')
    (hpoints : n' ≤ n) :
    snap (span / n) ≤ snap (span' / n') := by
  have hpos' : 0 < n := hpos.trans_le hpoints
  rcases le_or_gt 0 span with hforward | hbackward
  · apply snap_mono
    calc span / n ≤ span / n' := div_le_div_of_nonneg_left hforward hpos hpoints
      _ ≤ span' / n' := div_le_div_of_nonneg_right hspan hpos.le
  · have hshare : span / n < 10 :=
      (div_neg_of_neg_of_pos hbackward hpos').trans (by norm_num)
    rw [snap_of_small hshare]
    exact snap_pos _

/-! ## What can go wrong -/

section

variable {kind : Fault → Prop} (hlarge : kind .numberTooLarge)

include hlarge

theorem hold_fails (p : Precision) (q : Rat) : FailsWithin kind (p.hold q) := by
  unfold Precision.hold
  dsimp only
  split
  · exact failsWithin_ok _
  · exact failsWithin_error hlarge

theorem milliseconds_fails (p : Precision) (d : Duration) :
    FailsWithin kind (d.milliseconds p) := by
  unfold Duration.milliseconds
  split
  · exact hold_fails hlarge p _
  · exact failsWithin_ok _

theorem lowLimit_fails
    (hread : ∀ text f, limit = some text → text ≠ "" →
      Duration.read text = .error f → kind f) :
    FailsWithin kind (lowLimit p limit) := by
  unfold lowLimit
  split
  · exact failsWithin_ok _
  · split
    · exact failsWithin_ok _
    · rename_i text hnonempty
      exact FailsWithin.bind (fun f => hread text f rfl hnonempty) fun d _ =>
        milliseconds_fails hlarge p d

theorem snapShare_fails (p : Precision) (span : Rat) (m : Number) :
    FailsWithin kind (snapShare p span m) := by
  unfold snapShare
  split
  · refine (hold_fails hlarge p _).bind fun held _ => ?_
    dsimp only
    split <;> exact failsWithin_ok _
  · exact failsWithin_ok _

theorem calculate_fails {m : Number} (hpoints : points r = .ok m)
    (hticks : a.ticksTo b = .ok ticks)
    (hread : ∀ text f, limit = some text → text ≠ "" →
      Duration.read text = .error f → kind f) :
    FailsWithin kind (calculate .double (some a) (some b) r limit) := by
  unfold calculate
  dsimp only
  rw [hpoints, hticks]
  refine (failsWithin_ok m).bind fun _ _ =>
    (lowLimit_fails hlarge hread).bind fun low _ =>
    (failsWithin_ok ticks).bind fun _ _ =>
      (snapShare_fails hlarge _ _ _).bind fun snapped _ =>
    (hold_fails hlarge _ _).bind fun seconds hseconds => ?_
  refine FailsWithin.bind (fun f hf => ?_) fun text _ => failsWithin_ok _
  rw [Printing.label_double_fails (Printing.abs_lt_of_hold hseconds) f hf]
  exact hlarge

end

theorem label_of_calculate {step : QueryStep}
    (h : calculate p (some a) (some b) r limit = .ok step) :
    ∃ seconds, label p seconds = .ok step.label := by
  obtain ⟨m, -, h⟩ := bind_eq_ok.1 h
  obtain ⟨low, -, h⟩ := bind_eq_ok.1 h
  obtain ⟨ticks, -, h⟩ := bind_eq_ok.1 h
  obtain ⟨snapped, -, h⟩ := bind_eq_ok.1 h
  obtain ⟨seconds, -, h⟩ := bind_eq_ok.1 h
  obtain ⟨text, hlabel, h⟩ := bind_eq_ok.1 h
  cases pure_eq_ok.1 h
  exact ⟨seconds, hlabel⟩

/-! ## What comes of a calculation -/

theorem fault_of_read {text : String} {f : Fault}
    (h : Duration.read text = .error f) :
    f = Duration.refusal ∨ f = .notANumber := by
  have hcount : ∀ negative digits (scale : Duration.Scale) f,
      (do return (⟨scale, ← Duration.signedCount negative digits⟩ : Duration)) =
        Except.error f → f = .notANumber := by
    intro negative digits scale f hf
    unfold Duration.signedCount at hf
    split at hf
    · cases hf
      rfl
    · cases hf
  unfold Duration.read at h
  dsimp only at h
  split at h
  · split at h
    · cases h
      exact .inr rfl
    · split at h
      · cases h
        exact .inl rfl
      · exact .inr (hcount _ _ _ _ h)
  · split at h
    · exact .inr (hcount _ _ _ _ h)
    · cases h
      exact .inl rfl

/-- Of the texts with runs of digits that can be read, those with a separator
around a bare number are misread. -/
theorem misread_iff {text : String} (hshort : ShortRuns isDecimal text.toList) :
    Duration.read text = .error .notANumber ↔ Separated text.toList := by
  constructor
  · intro hread
    by_contra hclean
    obtain ⟨o, hpromised⟩ := exists_promised text.toList
    rw [read_eq_reading hclean, reading_of_promised hshort hpromised] at hread
    subst hread
    cases hpromised
  · exact read_of_separated

theorem Promised.unique {o o' : Except Fault QueryStep}
    (h : Promised span r limit o) (h' : Promised span r limit o') :
    o = o' := by
  cases h with
  | resolution hunwanted =>
    cases h' with
    | resolution => rfl
    | limit hwants => exact absurd hwants (hunwanted _)
    | step hwants => exact absurd hwants (hunwanted _)
  | limit hwants hrejected =>
    cases h' with
    | resolution hunwanted => exact absurd hwants (hunwanted _)
    | limit => rfl
    | step _ hlimits => exact absurd hrejected hlimits.not_rejected
  | step hwants hlimits hlabel =>
    cases h' with
    | resolution hunwanted => exact absurd hwants (hunwanted _)
    | limit _ hrejected => exact absurd hrejected hlimits.not_rejected
    | step hwants' hlimits' hlabel' =>
      cases hwants.unique hwants'
      cases hlimits.unique hlimits'
      cases hlabel.symm.trans hlabel'
      rfl

theorem exists_outcome (span : Rat) (r : Resolution) (limit : Option String) :
    ∃ o, Promised span r limit o := by
  by_cases hwants : ∃ n, Wants r n
  · obtain ⟨n, hwants⟩ := hwants
    rcases limits_or_rejected limit with ⟨low, hlimits⟩ | hrejected
    · obtain ⟨text, hlabel⟩ := exists_label_of_limits hlimits (span / n)
      exact ⟨_, .step hwants hlimits hlabel⟩
    · exact ⟨_, .limit hwants hrejected⟩
  · exact ⟨_, .resolution fun n hn => hwants ⟨n, hn⟩⟩

theorem calculate_of_misread (h : Misread r limit) :
    calculate p start stop r limit = .error .notANumber := by
  obtain ⟨⟨n, hwants⟩, text, rfl, hnonempty, hread⟩ := h
  obtain ⟨m, hpoints, -⟩ := points_of_wants hwants
  exact calculate_of_limit_error hpoints (lowLimit_of_unread hnonempty hread)

theorem calculate_of_promised (hticks : a.ticksTo b = .ok ticks)
    (hfinite : Finite r) (hclean : ¬ Misread r limit)
    {o : Except Fault QueryStep} (h : Promised (ticks / 1000) r limit o) :
    calculate .exact (some a) (some b) r limit = o := by
  cases h with
  | resolution hunwanted =>
    exact calculate_of_points_error (points_of_unwanted hfinite hunwanted)
  | limit hwants hrejected =>
    obtain ⟨m, hpoints, -⟩ := points_of_wants hwants
    obtain ⟨text, rfl, hnonempty, hunread⟩ := hrejected
    cases hread : Duration.read text with
    | ok d => exact absurd hread (hunread d)
    | error f =>
      rcases fault_of_read hread with rfl | rfl
      · exact calculate_of_limit_error hpoints (lowLimit_of_unread hnonempty hread)
      · exact absurd ⟨⟨_, hwants⟩, text, rfl, hnonempty, hread⟩ hclean
  | step hwants hlimits hlabel =>
    obtain ⟨text, hlabel', hcalculate⟩ :=
      calculate_of_wants hticks hwants hlimits
    cases hlabel.symm.trans hlabel'
    exact hcalculate

theorem of_calculate (hticks : a.ticksTo b = .ok ticks) (hfinite : Finite r)
    {step : QueryStep}
    (h : calculate .exact (some a) (some b) r limit = .ok step) :
    ∃ n low, Wants r n ∧ Limits limit low ∧
      step.milliseconds = max (snap (ticks / 1000 / n) : Rat) low := by
  obtain ⟨o, hpromised⟩ := exists_outcome (ticks / 1000) r limit
  have hclean : ¬ Misread r limit :=
    fun hmisread => nomatch (calculate_of_misread hmisread).symm.trans h
  rw [calculate_of_promised hticks hfinite hclean hpromised] at h
  subst h
  cases hpromised with
  | step hwants hlimits hlabel => exact ⟨_, _, hwants, hlimits, rfl⟩

end TimeWindow.Proofs.Interval.Steps

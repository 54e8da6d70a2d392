import Mathlib.Algebra.Order.Field.Rat
import Mathlib.Data.Rat.Floor
import Mathlib.Tactic.FieldSimp
import Mathlib.Tactic.Linarith
import TimeWindow.Interval.QueryStep
import TimeWindow.Proofs.DateMath.Decimal
import TimeWindow.Proofs.Interval.Durations
import TimeWindow.Proofs.Interval.Snapping
import TimeWindow.Proofs.Outcome

/-!
# Labels are read back

A label counts the largest unit of which a length holds any: the remainders that
the printer takes on its way down are the length itself.  What is printed is a
duration, and the reader finds it again (`label_reads_back`), unless the count
has more digits than are ever written.
-/

namespace TimeWindow.Proofs.Interval.Labels

open TimeWindow.Text TimeWindow.Interval Outcome Duration Interval.Places
  Interval.Durations Interval.Snapping Number.Digits DateMath.Decimal

/-! ## The unit of a label -/

def StandsFor (entry : Int × Char) (scale : Scale) : Prop :=
  scale.milliseconds = 1000 * entry.1 ∧ scale.symbol = String.ofList [entry.2]

/-- The units that labels are given in, the largest first. -/
def printed : List Scale := [.year, .day, .hour, .minute, .second, .millisecond]

/-- The largest of some units that fits into a length in milliseconds. -/
structure Largest (scales : List Scale) (ms : Rat) (scale : Scale) : Prop where
  listed : scale ∈ scales
  fits : scale.milliseconds ≤ ms
  largest : ∀ other ∈ scales, (other.milliseconds : Rat) ≤ ms →
    other.milliseconds ≤ scale.milliseconds

variable {ms : Rat} {scale : Scale} {scales : List Scale} {entry : Int × Char}
  {entries : List (Int × Char)}

theorem milliseconds_pos (scale : Scale) : 0 < scale.milliseconds :=
  by cases scale <;> decide

theorem largest_head
    (hdescend : (scale :: scales).Pairwise fun a b =>
      b.milliseconds ≤ a.milliseconds) (hfits : scale.milliseconds ≤ ms) :
    Largest (scale :: scales) ms scale := by
  refine ⟨List.mem_cons_self, hfits,
    List.forall_mem_cons.2 ⟨fun _ => le_refl _, fun other hother _ => ?_⟩⟩
  exact (List.pairwise_cons.1 hdescend).1 other hother

theorem Largest.cons {first : Scale} (h : Largest scales ms scale)
    (hshort : ms < first.milliseconds) :
    Largest (first :: scales) ms scale :=
  ⟨List.mem_cons_of_mem first h.listed, h.fits,
    List.forall_mem_cons.2 ⟨fun hfits => absurd hshort hfits.not_gt, h.largest⟩⟩

/-! ## Printing -/

theorem floor_pos_iff :
    0 < (ms / scale.milliseconds).floor ↔ scale.milliseconds ≤ ms := by
  have hpos : (0 : Rat) < scale.milliseconds := by
    exact_mod_cast milliseconds_pos scale
  rw [← Int.add_one_le_iff, zero_add, Rat.le_floor_iff, Int.cast_one,
    one_le_div hpos]

theorem floor_eq_zero_iff (h : 0 ≤ ms) :
    (ms / scale.milliseconds).floor = 0 ↔ ms < scale.milliseconds := by
  have hpos : (0 : Rat) < scale.milliseconds := by
    exact_mod_cast milliseconds_pos scale
  have hnonneg : 0 ≤ (ms / scale.milliseconds).floor :=
    Rat.le_floor_iff.2 (div_nonneg h hpos.le)
  rw [← not_le, ← floor_pos_iff]
  omega

theorem count_entry (h : StandsFor entry scale) :
    ms / 1000 / entry.1 = ms / scale.milliseconds := by
  rw [h.1, div_div, Int.cast_mul, Int.cast_ofNat]

theorem largest?_of_fits (h : StandsFor entry scale)
    (hfits : scale.milliseconds ≤ ms) :
    largest? .exact (ms / 1000) (entry :: entries) (ms / 1000) =
      some ((ms / scale.milliseconds).floor, scale.symbol) := by
  have hcount := (floor_pos_iff.2 hfits).ne'
  unfold largest?
  dsimp only
  rw [Precision.exact_round, count_entry h, if_pos hcount, h.2]

theorem largest?_of_short (hms : 0 ≤ ms) (h : StandsFor entry scale)
    (hshort : ms < scale.milliseconds) :
    largest? .exact (ms / 1000) (entry :: entries) (ms / 1000) =
      largest? .exact (ms / 1000) entries (ms / 1000) := by
  have hcount := (floor_eq_zero_iff hms).2 hshort
  have hremainder :
      Precision.exact.remainder (ms / 1000) entry.1 = ms / 1000 := by
    rw [Precision.remainder, count_entry h, hcount, Int.cast_zero, zero_mul,
      sub_zero, Precision.exact_round]
  rw [largest?, Precision.exact_round, count_entry h, if_neg (not_not.2 hcount),
    hremainder]

theorem exists_largest?_nil (hms : 1 ≤ ms) :
    ∃ scale, Largest [.second, .millisecond] ms scale ∧
    largest? .exact (ms / 1000) [] (ms / 1000) =
      some ((ms / scale.milliseconds).floor, scale.symbol) := by
  have hdescend : [Scale.second, .millisecond].Pairwise fun a b =>
      b.milliseconds ≤ a.milliseconds := by decide
  unfold largest?
  rcases le_or_gt (1000 : Rat) ms with hfits | hshort
  · refine ⟨.second, largest_head hdescend hfits, ?_⟩
    have hcount : 0 < (ms / Scale.second.milliseconds).floor :=
      floor_pos_iff.2 hfits
    exact if_pos hcount.ne'
  · have hfits : (Scale.millisecond.milliseconds : Rat) ≤ ms := hms
    refine ⟨.millisecond, (largest_head hdescend.of_cons hfits).cons hshort, ?_⟩
    have hshort' : ms < Scale.second.milliseconds := hshort
    have hzero := (floor_eq_zero_iff (zero_le_one.trans hms)).2 hshort'
    change (ms / 1000).floor = 0 at hzero
    have hcount : 0 < (ms / Scale.millisecond.milliseconds).floor :=
      floor_pos_iff.2 hfits
    have hwhole : ms / 1000 * 1000 = ms / Scale.millisecond.milliseconds := by
      rw [div_mul_cancel₀ ms (by norm_num), Scale.milliseconds, Int.cast_one,
        div_one]
    rw [if_neg (not_not.2 hzero), Precision.exact_round,
      Precision.exact_round, hwhole]
    exact if_pos hcount.ne'

theorem exists_largest? (hms : 1 ≤ ms)
    (htable : List.Forall₂ StandsFor entries scales)
    (hdescend : (scales ++ [Scale.second, .millisecond]).Pairwise fun a b =>
      b.milliseconds ≤ a.milliseconds) :
    ∃ scale, Largest (scales ++ [.second, .millisecond]) ms scale ∧
      largest? .exact (ms / 1000) entries (ms / 1000) =
        some ((ms / scale.milliseconds).floor, scale.symbol) := by
  induction htable with
  | nil => exact exists_largest?_nil hms
  | cons hentry htable ih =>
    rename_i entry first entries scales
    rcases le_or_gt (first.milliseconds : Rat) ms with hfits | hshort
    · exact ⟨first, largest_head hdescend hfits, largest?_of_fits hentry hfits⟩
    · obtain ⟨scale, hlargest, hcount⟩ := ih hdescend.of_cons
      exact ⟨scale, hlargest.cons hshort,
        (largest?_of_short (zero_le_one.trans hms) hentry hshort).trans hcount⟩

theorem exists_label (hms : 1 ≤ ms) : ∃ scale, Largest printed ms scale ∧
    label .exact (ms / 1000) =
      (written (ms / scale.milliseconds).floor).map (· ++ scale.symbol) := by
  have htable :
      List.Forall₂ StandsFor labelUnits [.year, .day, .hour, .minute] :=
    .cons ⟨rfl, rfl⟩ (.cons ⟨rfl, rfl⟩ (.cons ⟨rfl, rfl⟩ (.cons ⟨rfl, rfl⟩ .nil)))
  obtain ⟨scale, hlargest, hcount⟩ := exists_largest? hms htable (by decide)
  refine ⟨scale, hlargest, ?_⟩
  unfold label
  rw [Precision.exact_hold, hcount]
  dsimp only
  generalize written (ms / scale.milliseconds).floor = digits
  cases digits <;> rfl

theorem length_toDigits_le {n : Nat} :
    (Nat.toDigits 10 n).length ≤ Numeral.maxDigits ↔
    n < 10 ^ Numeral.maxDigits :=
  Nat.length_toDigits_le_iff (by decide) (by decide)

theorem written_eq (n : Int) : written n =
    if n.natAbs < 10 ^ Numeral.maxDigits then .ok (toString n)
      else .error .tooManyDigits := by
  unfold written
  by_cases hshort : n.natAbs < 10 ^ Numeral.maxDigits
  · rw [if_neg (not_lt.2 (length_toDigits_le.2 hshort)), if_pos hshort]
  · rw [if_pos (not_le.1 (length_toDigits_le.not.2 hshort)), if_neg hshort]

theorem written_of_lt {n : Int} (h : |n| < 10 ^ Numeral.maxDigits) :
    written n = .ok (toString n) := by
  have hshort : n.natAbs < 10 ^ Numeral.maxDigits := by
    zify
    exact h
  rw [written_eq, if_pos hshort]

theorem written_of_le {n : Int} (h : 10 ^ Numeral.maxDigits ≤ n) :
    written n = .error .tooManyDigits := by
  have hlong : ¬ n.natAbs < 10 ^ Numeral.maxDigits := by
    zify
    exact not_lt.2 (h.trans (le_abs_self n))
  rw [written_eq, if_neg hlong]

/-! ## Sending -/

theorem low_toString (n : Int) : Low (toString n).toList := by
  intro c hc
  rcases mem_toString hc with rfl | hdigit
  · decide
  · exact (toNat_of_isDigit hdigit).2.trans_lt (by decide)

theorem low_unit {p : Precision} {seconds rest : Rat} {n : Int}
    {unit : String} (h : ∀ entry ∈ entries, entry.2.toNat < halfShift)
    (hunit : largest? p seconds entries rest = some (n, unit)) :
    Low unit.toList := by
  induction entries generalizing rest with
  | nil =>
    unfold largest? at hunit
    dsimp only at hunit
    split at hunit
    · cases hunit
      decide
    · split at hunit
      · cases hunit
        decide
      · cases hunit
  | cons entry entries ih =>
    obtain ⟨hentry, hentries⟩ := List.forall_mem_cons.1 h
    unfold largest? at hunit
    dsimp only at hunit
    split at hunit
    · cases hunit
      rw [String.toList_ofList]
      exact List.forall_mem_singleton.2 hentry
    · exact ih hentries hunit

theorem hasHalf_label {p : Precision} {seconds : Rat} {text : String}
    (h : label p seconds = .ok text) : hasHalf text = false := by
  obtain ⟨held, -, h⟩ := bind_eq_ok.1 h
  cases hlargest : largest? p seconds labelUnits seconds with
  | none =>
    rw [hlargest] at h
    cases h
    decide
  | some found =>
    obtain ⟨n, unit⟩ := found
    rw [hlargest] at h
    obtain ⟨digits, hdigits, h⟩ := bind_eq_ok.1 h
    unfold written at hdigits
    split at hdigits
    · cases hdigits
    · cases hdigits
      cases pure_eq_ok.1 h
      exact hasHalf_of_low
        (low_append (low_toString n) (low_unit (by decide) hlargest))

/-! ## Reading -/

theorem read_written (n : Nat) (scale : Scale) :
    Duration.read (toString n ++ scale.symbol) =
    if n < 10 ^ Numeral.maxDigits then .ok ⟨scale, n⟩
      else .error .notANumber := by
  have hdecimal : AllDecimal (Nat.toDigits 10 n) := by
    intro c hc
    rw [isDecimal, decimalValue?_of_isDigit (isDigit_toDigits hc)]
    rfl
  have hne : Nat.toDigits 10 n ≠ [] := Nat.toDigits_ne_nil
  have hnames : Names scale scale.symbol.toList := by
    refine ⟨List.prefix_refl _, ?_⟩
    cases scale <;> decide
  have htext :
      (toString n ++ scale.symbol).toList =
        Nat.toDigits 10 n ++ scale.symbol.toList := by
    rw [String.toList_append, Nat.toString_eq_repr, Nat.toList_repr]
  have hplace :
      Place (toString n ++ scale.symbol).toList (Nat.toDigits 10 n)
        scale.symbol.toList := by
    refine ⟨htext, ?_, hnames.letter⟩
    exact exists_last_decimal [] hdecimal hne
  have hbare : bareNumber? (toString n ++ scale.symbol).toList = none := by
    rw [Option.eq_none_iff_forall_ne_some]
    rintro ⟨m, readable⟩ hsome
    obtain ⟨front, d, back, hbare, -⟩ := isBare_of_bareNumber? hsome
    exact not_place_of_isBare hbare _ _ hplace
  have hmeasure : measure? (toString n ++ scale.symbol).toList =
      some (false, digitList (Nat.toDigits 10 n), scale) := by
    have hhere := measureHere?_number false hdecimal hne .none hnames
    obtain ⟨c, digits, hdigits⟩ := List.exists_cons_of_ne_nil hne
    rw [hdigits] at hhere htext ⊢
    change measureHere? (c :: (digits ++ scale.symbol.toList)) = _ at hhere
    rw [htext, List.cons_append, measure?, hhere, Option.some_or]
  unfold Duration.read
  dsimp only
  rw [hbare, hmeasure]
  dsimp only
  unfold signedCount
  rw [length_digitList]
  by_cases hshort : n < 10 ^ Numeral.maxDigits
  · rw [if_neg (not_lt.2 (length_toDigits_le.2 hshort)), if_pos hshort,
      ofDigits_digitList, digitsValue_toDigits]
    rfl
  · rw [if_pos (not_le.1 (length_toDigits_le.not.2 hshort)), if_neg hshort]
    rfl

/-! ## Labels and their readings -/

theorem milliseconds_exact (d : Duration) :
    d.milliseconds .exact = .ok (d.scale.milliseconds * d.count : Rat) := by
  obtain ⟨scale, count⟩ := d
  unfold Duration.milliseconds
  cases scale with
  | millisecond => simp [Scale.milliseconds]
  | _ => simp

theorem counted_le (scale : Scale) (ms : Rat) :
    (scale.milliseconds * (ms / scale.milliseconds).floor : Rat) ≤ ms := by
  have hpos : (0 : Rat) < scale.milliseconds := by
    exact_mod_cast milliseconds_pos scale
  rw [← le_div_iff₀' hpos]
  exact Rat.floor_le _

theorem lt_counted (scale : Scale) (ms : Rat) :
    ms < scale.milliseconds * (ms / scale.milliseconds).floor +
      scale.milliseconds := by
  have hpos : (0 : Rat) < scale.milliseconds := by
    exact_mod_cast milliseconds_pos scale
  have hnext := Rat.lt_floor_add_one (ms / scale.milliseconds)
  rw [div_lt_iff₀' hpos, Int.cast_add, Int.cast_one, mul_add, mul_one] at hnext
  exact hnext

theorem counted_of_multiple {n : Int} (h : ms = scale.milliseconds * n) :
    (scale.milliseconds * (ms / scale.milliseconds).floor : Rat) = ms := by
  have hpos : (0 : Rat) < scale.milliseconds := by
    exact_mod_cast milliseconds_pos scale
  rw [h, mul_div_cancel_left₀ _ hpos.ne', Rat.floor_intCast]

theorem rung_multiple {rung : Int} (hrung : rung ∈ rungs)
    (h : Largest printed rung scale) :
    ∃ n : Int, (rung : Rat) = scale.milliseconds * n := by
  have hrungs : ∀ rung ∈ rungs, ∀ scale ∈ printed, scale.milliseconds ≤ rung →
      (∀ other ∈ printed, other.milliseconds ≤ rung →
        other.milliseconds ≤ scale.milliseconds) →
      rung = scale.milliseconds * (rung / scale.milliseconds) := by decide
  refine ⟨rung / scale.milliseconds, ?_⟩
  exact_mod_cast hrungs rung hrung scale h.listed (by exact_mod_cast h.fits)
    fun other hother hfits => h.largest other hother (by exact_mod_cast hfits)

theorem rung_count_lt {rung : Int} (hrung : rung ∈ rungs) (scale : Scale) :
    ((rung : Rat) / scale.milliseconds).floor < 10 ^ Numeral.maxDigits := by
  have hrungs : ∀ rung ∈ rungs, 0 ≤ rung ∧ rung < 10 ^ 11 := by decide
  obtain ⟨hnonneg, hshort⟩ := hrungs rung hrung
  have hscale : (1 : Rat) ≤ scale.milliseconds := by
    exact_mod_cast milliseconds_pos scale
  have hnonneg' : (0 : Rat) ≤ rung := by exact_mod_cast hnonneg
  have hcount : ((rung : Rat) / scale.milliseconds).floor ≤ rung := by
    exact_mod_cast (Rat.floor_le _).trans (div_le_self hnonneg' hscale)
  have hpow : (10 : Int) ^ 11 ≤ 10 ^ Numeral.maxDigits :=
    pow_le_pow_right₀ (by decide) (by decide)
  exact hcount.trans_lt (hshort.trans_le hpow)

/-- **Labels are read back.**  A length of a millisecond or more holds a
positive count of its largest unit.  A count with few enough digits is the
label, and the reader finds exactly this count and this unit; any other one is
not written.  What is counted is at most the length, more than half of it, and
short of it by less than one unit; it is the length itself where that is a whole
number of units, as every step of the ladder is. -/
theorem label_reads_back (ms : Rat) (hms : 1 ≤ ms) :
    ∃ (scale : Scale) (count : Int), Largest printed ms scale ∧ 0 < count ∧
      (count < 10 ^ Numeral.maxDigits →
        label .exact (ms / 1000) = .ok (toString count ++ scale.symbol) ∧
          Duration.read (toString count ++ scale.symbol) = .ok ⟨scale, count⟩) ∧
      (10 ^ Numeral.maxDigits ≤ count →
        label .exact (ms / 1000) = .error .tooManyDigits) ∧
      ∃ V : Rat, Duration.milliseconds .exact ⟨scale, count⟩ = .ok V ∧
        V ≤ ms ∧ ms < 2 * V ∧ ms < V + scale.milliseconds ∧
        (∀ n : Int, ms = scale.milliseconds * n → V = ms) ∧
        ∀ x, ms = snap x → V = ms ∧ count < 10 ^ Numeral.maxDigits := by
  obtain ⟨scale, hlargest, hlabel⟩ := exists_label hms
  have hpos := floor_pos_iff.2 hlargest.fits
  have hlow := counted_le scale ms
  have hhigh := lt_counted scale ms
  have hunit :
      (scale.milliseconds : Rat) ≤
        scale.milliseconds * (ms / scale.milliseconds).floor := by
    exact_mod_cast le_mul_of_one_le_right (milliseconds_pos scale).le hpos
  refine ⟨scale, _, hlargest, hpos, fun hshort => ⟨?_, ?_⟩, fun hlong =>
    ?_, _, milliseconds_exact _,
    hlow, by linarith, hhigh, fun n => counted_of_multiple, ?_⟩
  · rw [hlabel, written_of_lt ((abs_of_pos hpos).trans_lt hshort)]
    rfl
  · obtain ⟨n, hn⟩ := Int.eq_ofNat_of_zero_le hpos.le
    rw [hn] at hshort ⊢
    exact (read_written n scale).trans (if_pos (by exact_mod_cast hshort))
  · rw [hlabel, written_of_le hlong]
    rfl
  · rintro x rfl
    have hrung := snap_mem_rungs x
    obtain ⟨n, hn⟩ := rung_multiple hrung hlargest
    exact ⟨counted_of_multiple hn, rung_count_lt hrung scale⟩

theorem label_reads_back_minute : label .exact (90000 / 1000) = .ok "1m" ∧
    ∃ (scale : Scale) (count : Int), "1m" = toString count ++ scale.symbol ∧
      Duration.read "1m" = .ok ⟨scale, count⟩ ∧
      ∃ V : Rat, Duration.milliseconds .exact ⟨scale, count⟩ = .ok V ∧
        V ≤ 90000 ∧
        90000 < V + scale.milliseconds := by
  have hminute : label .exact (90000 / 1000) = .ok "1m" := by decide +kernel
  obtain ⟨scale, count, -, -, hshort, hlong, V, hmilliseconds, hlow, -,
      hhigh, -⟩ :=
    label_reads_back 90000 (by norm_num)
  have hcount : count < 10 ^ Numeral.maxDigits := by
    by_contra hcount
    rw [hlong (not_lt.1 hcount)] at hminute
    cases hminute
  obtain ⟨hlabel, hread⟩ := hshort hcount
  have htext : "1m" = toString count ++ scale.symbol :=
    Except.ok.inj (hminute.symm.trans hlabel)
  exact ⟨hminute, scale, count, htext, htext ▸ hread, V, hmilliseconds,
    hlow, hhigh⟩

theorem label_too_long :
    1 ≤ ((10 ^ Numeral.maxDigits : Nat) * 31536000000 : Rat) ∧
      label .exact ((10 ^ Numeral.maxDigits : Nat) * 31536000000 / 1000) =
        .error .tooManyDigits := by
  have hone : (1 : Rat) ≤ (10 ^ Numeral.maxDigits : Nat) := by
    exact_mod_cast Nat.one_le_pow _ _ (by decide)
  have hyears :
      ((10 ^ Numeral.maxDigits : Nat) * 31536000000 : Rat) /
        Scale.year.milliseconds =
      ((10 ^ Numeral.maxDigits : Nat) : Int) := by
    rw [Int.cast_natCast]
    exact mul_div_cancel_right₀ _ (by norm_num [Scale.milliseconds])
  have hfits :
      (Scale.year.milliseconds : Rat) ≤
        (10 ^ Numeral.maxDigits : Nat) * 31536000000 :=
    le_mul_of_one_le_left (by norm_num [Scale.milliseconds]) hone
  have hyear : StandsFor (31536000, 'y') .year := ⟨rfl, rfl⟩
  have hcount : largest? .exact _ labelUnits _ = some _ :=
    largest?_of_fits hyear hfits
  refine ⟨by linarith, ?_⟩
  unfold label
  rw [Precision.exact_hold, hcount, hyears, Rat.floor_intCast]
  dsimp only
  rw [written_of_le (by exact_mod_cast le_refl _)]
  rfl

end TimeWindow.Proofs.Interval.Labels

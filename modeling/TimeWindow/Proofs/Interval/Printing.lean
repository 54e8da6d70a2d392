import TimeWindow.Proofs.Interval.Labels
import TimeWindow.Proofs.Number.Grid

/-!
# Counts that are short enough to print

A count with more digits than are ever written would stop a label.  None comes
of a step: a lower limit was read from no more digits than that (`label_of_lt`),
and a double is far below (`label_double_fails`).
-/

namespace TimeWindow.Proofs.Interval.Printing

open TimeWindow.Interval TimeWindow.Binary64 Duration Outcome Number.Digits
  Number.Grid Interval.Places Interval.Durations Interval.Labels

/-! ## Limits are read from few digits -/

theorem signedCount_lt {negative : Bool} {run : List Char} {n : Int}
    (h : signedCount negative (digitList run) = .ok n) :
    |n| < 10 ^ Numeral.maxDigits := by
  unfold signedCount at h
  split at h
  · cases h
  · rename_i hlength
    cases h
    have hvalue :
        (Numeral.ofDigits (digitList run) : Int) < 10 ^ Numeral.maxDigits := by
      have hpow : 10 ^ (digitList run).length ≤ 10 ^ Numeral.maxDigits :=
        Nat.pow_le_pow_right (by decide) (not_lt.1 hlength)
      exact_mod_cast (ofDigits_lt digit_le_of_mem_digitList).trans_le hpow
    have hnonneg : (0 : Int) ≤ Numeral.ofDigits (digitList run) :=
      Int.natCast_nonneg _
    cases negative with
    | false => exact (abs_of_nonneg hnonneg).trans_lt hvalue
    | true => exact ((abs_neg _).trans (abs_of_nonneg hnonneg)).trans_lt hvalue

theorem count_of_read_lt {text : String} {d : Duration}
    (h : Duration.read text = .ok d) :
    |d.count| < 10 ^ Numeral.maxDigits := by
  unfold Duration.read at h
  dsimp only at h
  cases hbare : bareNumber? text.toList with
  | some answer =>
    obtain ⟨n, readable⟩ := answer
    obtain ⟨-, written, -, -, rfl⟩ := isBare_of_bareNumber? hbare
    rw [hbare] at h
    dsimp only at h
    split at h
    · cases h
    · split at h
      · cases h
      · obtain ⟨count, hcount, h⟩ := bind_eq_ok.1 h
        cases pure_eq_ok.1 h
        exact signedCount_lt hcount
  | none =>
    rw [hbare] at h
    dsimp only at h
    cases hmeasure : measure? text.toList with
    | none =>
      rw [hmeasure] at h
      cases h
    | some found =>
      obtain ⟨negative, digits, scale⟩ := found
      obtain ⟨-, -, -, run, -, -, -, rfl, -⟩ := measure?_eq_some hmeasure
      rw [hmeasure] at h
      obtain ⟨count, hcount, h⟩ := bind_eq_ok.1 h
      cases pure_eq_ok.1 h
      exact signedCount_lt hcount

/-! ## Lengths without rounding -/

theorem milliseconds_le_year (scale : Scale) :
    scale.milliseconds ≤ Scale.year.milliseconds := by
  cases scale <;> decide

theorem year_lt : Scale.year.milliseconds < 10 ^ Numeral.maxDigits :=
  have hpow : (10 : Int) ^ 11 ≤ 10 ^ Numeral.maxDigits :=
    pow_le_pow_right₀ (by decide) (by decide)
  lt_of_lt_of_le (by decide) hpow

theorem label_of_lt {ms : Rat} (hms : 1 ≤ ms)
    (hyears : ms < Scale.year.milliseconds * 10 ^ Numeral.maxDigits) :
    ∃ text, label .exact (ms / 1000) = .ok text := by
  obtain ⟨scale, hlargest, hlabel⟩ := exists_label hms
  have hpos : (0 : Rat) < scale.milliseconds := by
    exact_mod_cast milliseconds_pos scale
  have hcount : (ms / scale.milliseconds).floor < 10 ^ Numeral.maxDigits := by
    rw [Rat.floor_lt_iff, div_lt_iff₀ hpos, mul_comm]
    push_cast
    rcases le_or_gt (Scale.year.milliseconds : Rat) ms with hfits | hshort
    · have hyear : scale.milliseconds = Scale.year.milliseconds :=
        le_antisymm (milliseconds_le_year scale)
          (hlargest.largest .year (by decide) hfits)
      rwa [hyear]
    · have hyear : (Scale.year.milliseconds : Rat) < 10 ^ Numeral.maxDigits := by
        exact_mod_cast year_lt
      have hone : (1 : Rat) ≤ scale.milliseconds := by
        exact_mod_cast milliseconds_pos scale
      calc ms < Scale.year.milliseconds := hshort
        _ ≤ 10 ^ Numeral.maxDigits := hyear.le
        _ ≤ scale.milliseconds * 10 ^ Numeral.maxDigits :=
          le_mul_of_one_le_left (by positivity) hone
  rw [hlabel,
    written_of_lt ((abs_of_pos (floor_pos_iff.2 hlargest.fits)).trans_lt hcount)]
  exact ⟨_, rfl⟩

theorem limit_lt {text : String} {d : Duration}
    (h : Duration.read text = .ok d) :
    (d.scale.milliseconds * d.count : Rat) <
      Scale.year.milliseconds * 10 ^ Numeral.maxDigits := by
  have hcount := count_of_read_lt h
  have hpos := milliseconds_pos d.scale
  have hlimit :
      d.scale.milliseconds * d.count <
        Scale.year.milliseconds * 10 ^ Numeral.maxDigits :=
    calc d.scale.milliseconds * d.count ≤ d.scale.milliseconds * |d.count| :=
          mul_le_mul_of_nonneg_left (le_abs_self _) hpos.le
      _ < d.scale.milliseconds * 10 ^ Numeral.maxDigits :=
        mul_lt_mul_of_pos_left hcount hpos
      _ ≤ Scale.year.milliseconds * 10 ^ Numeral.maxDigits :=
          mul_le_mul_of_nonneg_right (milliseconds_le_year _) (by positivity)
  exact_mod_cast hlimit

/-! ## Doubles -/

theorem abs_lt_of_hold {q held : Rat} (h : Precision.double.hold q = .ok held) :
    |held| < limit := by
  unfold Precision.hold at h
  dsimp only at h
  split at h
  · rename_i hfinite
    cases h
    rw [← magnitude_eq_abs]
    exact of_decide_eq_true hfinite
  · cases h

theorem abs_remainder_le (rest : Rat) {length : Int} (h : 0 < length) :
    |Precision.double.remainder rest length| ≤ 2 * length + 1 := by
  have hpos : (0 : Rat) < length := by exact_mod_cast h
  have hlow := (le_div_iff₀ hpos).1 (Rat.floor_le (rest / length))
  have hhigh := (div_lt_iff₀ hpos).1 (Rat.lt_floor_add_one (rest / length))
  have hleft : |rest - (rest / length).floor * length| ≤ length := by
    push_cast at hhigh
    rw [abs_of_nonneg (by linarith)]
    linarith
  have hrounded := abs_nearest_le (rest - (rest / length).floor * length)
  unfold Precision.remainder
  exact hrounded.trans (by linarith)

theorem abs_floor_le (q : Rat) : (|q.floor| : Rat) ≤ |q| + 1 := by
  have hlow := Rat.floor_le q
  have hhigh := Rat.lt_floor_add_one q
  push_cast at hhigh
  rw [abs_le]
  constructor <;> linarith [le_abs_self q, neg_abs_le q]

variable {seconds bound : Rat} {n : Int} {unit : String}

theorem largest?_le {units : List (Int × Char)}
    (hunits : ∀ entry ∈ units, 0 < entry.1)
    (hlong : ∀ entry ∈ units, (2 * entry.1 + 1 : Rat) ≤ bound)
    (hone : 1 ≤ bound) (hseconds : |seconds| ≤ bound) {rest : Rat}
    (hrest : |rest| ≤ bound)
    (h : largest? .double seconds units rest = some (n, unit)) :
    (|n| : Rat) ≤ 10000 * bound := by
  induction units generalizing rest with
  | nil =>
    unfold largest? at h
    dsimp only at h
    split at h
    · cases h
      exact (abs_floor_le rest).trans (by linarith)
    · split at h
      · cases h
        have hrounded := abs_nearest_le seconds
        have hproduct := abs_nearest_le (nearest seconds * 1000)
        have hfloor := abs_floor_le (nearest (nearest seconds * 1000))
        rw [abs_mul, abs_of_pos (by norm_num : (0 : Rat) < 1000)] at hproduct
        change (|(nearest (nearest seconds * 1000)).floor| : Rat) ≤ _
        linarith
      · cases h
  | cons entry units ih =>
    obtain ⟨hentry, hunits⟩ := List.forall_mem_cons.1 hunits
    obtain ⟨hentryLong, hlong⟩ := List.forall_mem_cons.1 hlong
    unfold largest? at h
    dsimp only at h
    split at h
    · cases h
      have hlength : (1 : Rat) ≤ entry.1 := by exact_mod_cast hentry
      have hquotient : |rest / entry.1| ≤ bound := by
        rw [abs_div, abs_of_pos (by linarith : (0 : Rat) < entry.1)]
        exact (div_le_self (abs_nonneg rest) hlength).trans hrest
      have hrounded := abs_nearest_le (rest / entry.1)
      have hfloor := abs_floor_le (nearest (rest / entry.1))
      change (|(nearest (rest / entry.1)).floor| : Rat) ≤ _
      linarith
    · exact ih hunits hlong ((abs_remainder_le rest hentry).trans hentryLong) h

theorem limit_mul_lt : 10000 * limit < 10 ^ Numeral.maxDigits := by
  have hlimit : limit ≤ 10 ^ 1024 := by
    unfold limit
    rw [show (1024 : Int) = ((1024 : Nat) : Int) by rfl, zpow_natCast]
    exact pow_le_pow_left₀ (by norm_num) (by norm_num) 1024
  have hfour : (10000 : Rat) = 10 ^ 4 := by norm_num
  calc 10000 * limit = 10 ^ 4 * limit := by rw [hfour]
    _ ≤ 10 ^ 4 * 10 ^ 1024 := mul_le_mul_of_nonneg_left hlimit (by positivity)
    _ = 10 ^ 1028 := (pow_add 10 4 1024).symm
    _ < 10 ^ Numeral.maxDigits := pow_lt_pow_right₀ (by norm_num) (by decide)

theorem label_double_fails (hseconds : |seconds| < limit) :
    FailsWithin (· = .numberTooLarge) (label .double seconds) := by
  have hlong : ∀ entry ∈ labelUnits, (2 * entry.1 + 1 : Rat) ≤ limit := by
    have hentries : ∀ entry ∈ labelUnits, 2 * entry.1 + 1 ≤ 2 ^ 30 := by decide
    have hpow : (2 : Rat) ^ 30 ≤ limit := by
      unfold limit
      rw [show (1024 : Int) = ((1024 : Nat) : Int) by rfl, zpow_natCast]
      exact pow_le_pow_right₀ one_le_two (by norm_num)
    intro entry hentry
    exact le_trans (by exact_mod_cast hentries entry hentry) hpow
  have hone : 1 ≤ limit := by
    unfold limit
    exact one_le_zpow₀ one_le_two (by norm_num)
  intro f hf
  rcases bind_eq_error.1 hf with hf | ⟨held, -, hf⟩
  · unfold Precision.hold at hf
    dsimp only at hf
    split at hf
    · cases hf
    · cases hf
      rfl
  · cases hlargest : largest? .double seconds labelUnits seconds with
    | none =>
      rw [hlargest] at hf
      cases hf
    | some found =>
      obtain ⟨n, unit⟩ := found
      have hbound := (largest?_le (by decide) hlong hone hseconds.le hseconds.le
        hlargest).trans_lt
        limit_mul_lt
      have hshort : |n| < 10 ^ Numeral.maxDigits := by exact_mod_cast hbound
      rw [hlargest] at hf
      dsimp only at hf
      rw [written_of_lt hshort] at hf
      cases hf

end TimeWindow.Proofs.Interval.Printing

import Mathlib.Tactic.NormNum.Pow
import TimeWindow.Proofs.Number.Digits
import TimeWindow.Proofs.Number.Grid

/-!
# Decimals that vanish

A decimal is zero as a double exactly if it is no further from zero than half
the smallest double (`isZero_toDouble_iff`).
-/

namespace TimeWindow.Proofs.Number.Vanishing

open TimeWindow.Binary64 Number.Digits Number.Grid

/-! ## Rounding to zero -/

theorem floor_eq {q : Rat} {n : Int} (hlow : (n : Rat) ≤ q)
    (hhigh : q < n + 1) : q.floor = n := by
  have h : ⌊q⌋ = n := Int.floor_eq_iff.2 ⟨hlow, hhigh⟩
  exact h

theorem roundHalfEven_eq_zero_iff {q : Rat} :
    roundHalfEven q = 0 ↔ |q| ≤ 1 / 2 := by
  constructor
  · intro h
    have herror := roundHalfEven_error q
    rwa [h, Int.cast_zero, zero_sub, abs_neg] at herror
  · intro h
    obtain ⟨hlow, hhigh⟩ := abs_le.1 h
    unfold roundHalfEven
    dsimp only
    rcases le_or_gt 0 q with hq | hq
    · rw [floor_eq (n := 0) (by push_cast; linarith) (by push_cast; linarith)]
      have hrest : ¬ 1 / 2 < q - (0 : Int) := by
        push_cast
        linarith
      rw [if_neg hrest]
      simp
    · rw [floor_eq (n := -1) (by push_cast; linarith) (by push_cast; linarith)]
      have hrest : ¬ q - (-1 : Int) < 1 / 2 := by
        push_cast
        linarith
      rw [if_neg hrest]
      -- a half goes up as well, because the number below is odd
      simp

def threshold : Rat := 2 ^ (-1075 : Int)

theorem threshold_pos : 0 < threshold := by
  unfold threshold
  positivity

theorem threshold_lt_one : threshold < 1 :=
  zpow_lt_one_of_neg₀ one_lt_two (by norm_num)

theorem ten_zpow_le_threshold : (10 : Rat) ^ (-400 : Int) ≤ threshold := by
  have hpow : 2 ^ 1075 ≤ 10 ^ 400 := by decide +kernel
  unfold threshold
  rw [zpow_neg, zpow_neg]
  exact inv_anti₀ (by positivity) (by exact_mod_cast hpow)

theorem two_zpow_binaryExponent_le_abs {q : Rat} (hq : q ≠ 0) :
    (2 : Rat) ^ binaryExponent (magnitude q) ≤ |q| := by
  rw [magnitude_eq_abs]
  exact two_zpow_binaryExponent_le (abs_pos.2 hq)

theorem abs_le_half_spacing_iff {q : Rat} (hq : q ≠ 0) :
    |q| ≤ spacing q / 2 ↔ |q| ≤ threshold := by
  have hexponent := two_zpow_binaryExponent_le_abs hq
  have hhalf : ∀ n : Int, (2 : Rat) ^ n / 2 = 2 ^ (n - 1) := fun n => by
    rw [zpow_sub_one₀ two_ne_zero, div_eq_mul_inv]
  unfold spacing threshold
  rw [hhalf]
  rcases le_total (binaryExponent (magnitude q) - 52) (-1074) with hsmall | hlarge
  · rw [max_eq_right hsmall]
    norm_num
  · rw [max_eq_left hlarge]
    have hbelow :
        (2 : Rat) ^ (binaryExponent (magnitude q) - 52 - 1) <
          2 ^ binaryExponent (magnitude q) :=
      zpow_lt_zpow_right₀ one_lt_two (by omega)
    have habove :
        (2 : Rat) ^ (-1075 : Int) < 2 ^ binaryExponent (magnitude q) :=
      zpow_lt_zpow_right₀ one_lt_two (by omega)
    constructor <;> intro h <;> linarith

theorem nearest_eq_zero_iff {q : Rat} : nearest q = 0 ↔ |q| ≤ threshold := by
  unfold nearest
  split
  · rename_i hq
    simp [hq, threshold_pos.le]
  · rename_i hq
    have hspacing := spacing_pos q
    rw [mul_eq_zero, or_iff_left hspacing.ne', Int.cast_eq_zero,
      roundHalfEven_eq_zero_iff, ← abs_le_half_spacing_iff hq, abs_div,
      abs_of_pos hspacing, div_le_iff₀ hspacing, one_div, inv_mul_eq_div]

theorem isZero_ofRat_iff {q : Rat} :
    (Double.ofRat q).isZero = true ↔ |q| ≤ threshold := by
  rw [← nearest_eq_zero_iff]
  unfold Double.ofRat
  dsimp only
  split
  · simp [Double.isZero, Double.value?]
  · rename_i hinfinite
    have hne : nearest q ≠ 0 := by
      intro hzero
      rw [hzero] at hinfinite
      exact hinfinite (by decide +kernel)
    simp [Double.isZero, Double.value?, hne]

theorem isZero_neg (d : Double) : d.neg.isZero = d.isZero := by
  cases d with
  | finite q =>
    change (if q = 0 then Double.negativeZero else .finite (-q)).isZero = _
    split
    · rename_i hq
      rw [hq]
      rfl
    · simp [Double.isZero, Double.value?]
  | _ => rfl

/-! ## Decimals -/

def value (n : Numeral) : Rat :=
  (if n.negative then -1 else 1) * (Numeral.ofDigits (n.whole ++ n.fraction) *
    10 ^ (n.exponent - n.fraction.length))

theorem pow_le_ofDigits_significant {n : Numeral} (h : n.significant ≠ []) :
    10 ^ (n.significant.length - 1) ≤ Numeral.ofDigits n.significant := by
  cases hdigits : n.significant with
  | nil => exact absurd hdigits h
  | cons d digits =>
    have hd : d ≠ 0 := by
      have hhead := List.head?_dropWhile_not (fun d => decide (d = 0))
        (n.whole ++ n.fraction)
      rw [show (n.whole ++ n.fraction).dropWhile (fun d => decide (d = 0)) =
        d :: digits from hdigits] at hhead
      simpa using hhead
    have hone : 1 * 10 ^ digits.length ≤ d * 10 ^ digits.length :=
      Nat.mul_le_mul_right _ (by omega)
    rw [ofDigits_cons, List.length_cons, Nat.add_sub_cancel]
    omega

theorem abs_value (n : Numeral) :
    |value n| = Numeral.ofDigits n.significant *
      10 ^ (n.exponent - n.fraction.length) := by
  have hsign : |(if n.negative then -1 else 1 : Rat)| = 1 := by split <;> simp
  have hnonneg : (0 : Rat) ≤ Numeral.ofDigits n.significant *
      10 ^ (n.exponent - n.fraction.length) := by positivity
  unfold value Numeral.significant at *
  rw [ofDigits_dropWhile] at hnonneg ⊢
  rw [abs_mul, hsign, one_mul, abs_of_nonneg hnonneg]

theorem abs_value_bounds {n : Numeral}
    (hdigits : ∀ d ∈ n.whole ++ n.fraction, d ≤ 9) (h : n.significant ≠ []) :
    (10 : Rat) ^ (n.significant.length + (n.exponent - n.fraction.length) - 1) ≤
      |value n| ∧
      |value n| <
        10 ^ (n.significant.length + (n.exponent - n.fraction.length)) := by
  have hpos : (0 : Rat) < 10 ^ (n.exponent - n.fraction.length) := by positivity
  have hlength := List.length_pos_iff.2 h
  have hlow :
      ((10 ^ (n.significant.length - 1) : Nat) : Rat) ≤
        Numeral.ofDigits n.significant :=
    Nat.cast_le.2 (pow_le_ofDigits_significant h)
  have hhigh :
      (Numeral.ofDigits n.significant : Rat) <
        ((10 ^ n.significant.length : Nat) : Rat) :=
    Nat.cast_lt.2 (ofDigits_lt fun d hd =>
      hdigits d ((List.dropWhile_sublist _).subset hd))
  have hshift :
      (n.significant.length + (n.exponent - n.fraction.length) - 1 : Int) =
      (n.significant.length - 1 : Nat) + (n.exponent - n.fraction.length) := by
        omega
  rw [abs_value, hshift, zpow_add₀ (by norm_num), zpow_add₀ (by norm_num),
    zpow_natCast, zpow_natCast]
  push_cast at hlow hhigh
  exact ⟨mul_le_mul_of_nonneg_right hlow hpos.le,
    mul_lt_mul_of_pos_right hhigh hpos⟩

theorem isZero_toDouble_iff {n : Numeral}
    (hdigits : ∀ d ∈ n.whole ++ n.fraction, d ≤ 9) :
    n.toDouble.isZero = true ↔ |value n| ≤ threshold := by
  have hunsigned : n.toDouble.isZero = (
      if n.significant = [] || n.significant.length +
        (n.exponent - n.fraction.length) < -Numeral.extremePower then
        Double.finite 0
      else if Numeral.extremePower < n.significant.length +
        (n.exponent - n.fraction.length) then .infinite false
      else .ofRat (Numeral.ofDigits n.significant *
        (10 : Rat) ^ (n.exponent - n.fraction.length))).isZero := by
    unfold Numeral.toDouble
    dsimp only
    split
    · exact isZero_neg _
    · rfl
  have hextreme : Numeral.extremePower = 400 := rfl
  rw [hunsigned, hextreme]
  by_cases hnone : n.significant = []
  · have hzero : |value n| = 0 := by
      rw [abs_value, hnone]
      simp [Numeral.ofDigits]
    simp [hnone, hzero, threshold_pos.le, Double.isZero, Double.value?]
  · obtain ⟨hlow, hhigh⟩ := abs_value_bounds hdigits hnone
    have habs := abs_value n
    generalize (n.significant.length + (n.exponent - n.fraction.length) : Int) =
      size at hlow hhigh ⊢
    rcases lt_or_ge size (-400) with hsmall | hsmall
    · have hbelow : |value n| ≤ threshold :=
        calc |value n| ≤ 10 ^ size := hhigh.le
          _ ≤ 10 ^ (-400 : Int) := zpow_le_zpow_right₀ (by norm_num) hsmall.le
          _ ≤ threshold := ten_zpow_le_threshold
      simp [hsmall, hbelow, Double.isZero, Double.value?]
    · rcases lt_or_ge 400 size with hlarge | hlarge
      · have habove : threshold < |value n| :=
          calc threshold < 10 ^ (0 : Int) := by simpa using threshold_lt_one
            _ ≤ 10 ^ (size - 1) := zpow_le_zpow_right₀ (by norm_num) (by omega)
            _ ≤ |value n| := hlow
        rw [if_neg (by simp [hnone, hsmall]), if_pos hlarge]
        simp [habove, Double.isZero, Double.value?]
      · have habs' : |(Numeral.ofDigits n.significant *
            (10 : Rat) ^ (n.exponent - n.fraction.length))| = |value n| := by
          rw [← habs, abs_abs]
        rw [if_neg (by simp [hnone, hsmall]), if_neg hlarge.not_gt,
          isZero_ofRat_iff, habs']

end TimeWindow.Proofs.Number.Vanishing

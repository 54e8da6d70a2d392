import TimeWindow.Number.Double
import Mathlib.Data.Rat.Floor
import Mathlib.Algebra.Order.Field.Power
import Mathlib.Tactic.Linarith
import Mathlib.Tactic.Positivity

/-!
# Rounding to the grid of doubles

A number is rounded by no more than half the distance between the doubles around
it, which is no more than its own size or one.  So a number far below the end of
the grid is a finite double (`isFinite_nearest`).
-/

namespace TimeWindow.Proofs.Number.Grid

open TimeWindow.Binary64

theorem roundHalfEven_error (q : Rat) :
    |(roundHalfEven q : Rat) - q| ≤ 1 / 2 := by
  have hlow : (q.floor : Rat) ≤ q := Rat.floor_le q
  have hhigh : q < (q.floor : Rat) + 1 := by
    have h := Rat.lt_floor_add_one q
    push_cast at h
    exact h
  unfold roundHalfEven
  dsimp only
  rw [abs_le]
  split
  · constructor <;> linarith
  · split
    · push_cast
      constructor <;> linarith
    · split
      · constructor <;> linarith
      · push_cast
        constructor <;> linarith

theorem magnitude_eq_abs (q : Rat) : magnitude q = |q| := by
  unfold magnitude
  split
  · rename_i h
    rw [abs_of_neg h]
  · rename_i h
    rw [abs_of_nonneg (not_lt.1 h)]

theorem two_zpow_binaryExponent_le {q : Rat} (h : 0 < q) :
    (2 : Rat) ^ binaryExponent q ≤ q := by
  unfold binaryExponent
  dsimp only
  -- the first guess is checked; the second is one less, which always does
  split
  · assumption
  · have hnum : (2 : Rat) ^ q.num.natAbs.log2 ≤ q.num := by
      have hpos : 0 < q.num := Rat.num_pos.2 h
      have hle : 2 ^ q.num.natAbs.log2 ≤ q.num.natAbs :=
        Nat.log2_self_le (by omega)
      have hcast : ((q.num.natAbs : Int) : Rat) = q.num := by
        rw [Int.natAbs_of_nonneg hpos.le]
      rw [← hcast]
      exact_mod_cast hle
    have hden : (q.den : Rat) ≤ 2 ^ (q.den.log2 + 1) := by
      exact_mod_cast (Nat.lt_log2_self (n := q.den)).le
    have hguess : (q.num.natAbs.log2 : Int) - q.den.log2 - 1 =
        (q.num.natAbs.log2 : Nat) - ((q.den.log2 + 1 : Nat) : Int) := by
      push_cast
      ring
    rw [hguess, zpow_sub₀ two_ne_zero, zpow_natCast, zpow_natCast]
    calc (2 : Rat) ^ q.num.natAbs.log2 / 2 ^ (q.den.log2 + 1) ≤
        q.num / q.den := by
          have hpos : (0 : Rat) < q.den := by exact_mod_cast q.den_pos
          have hnum₀ : (0 : Rat) ≤ q.num := le_trans (by positivity) hnum
          exact div_le_div₀ hnum₀ hnum hpos hden
      _ = q := Rat.num_div_den q

theorem spacing_pos (q : Rat) : 0 < spacing q := by
  unfold spacing
  positivity

theorem spacing_le {q : Rat} (h : q ≠ 0) : spacing q ≤ max |q| 1 := by
  have hpos : 0 < magnitude q := by
    rw [magnitude_eq_abs]
    exact abs_pos.2 h
  have hexponent := two_zpow_binaryExponent_le hpos
  unfold spacing
  rcases le_total (binaryExponent (magnitude q) - 52) (-1074) with hsmall | hlarge
  · rw [max_eq_right hsmall]
    refine le_max_of_le_right ?_
    exact zpow_le_one_of_nonpos₀ one_le_two (by norm_num)
  · rw [max_eq_left hlarge]
    refine le_max_of_le_left ?_
    calc (2 : Rat) ^ (binaryExponent (magnitude q) - 52) ≤
        2 ^ binaryExponent (magnitude q) :=
          zpow_le_zpow_right₀ one_le_two (by omega)
      _ ≤ magnitude q := hexponent
      _ = |q| := magnitude_eq_abs q

theorem nearest_error (q : Rat) : |nearest q - q| ≤ spacing q / 2 := by
  have hpos := spacing_pos q
  unfold nearest
  split
  · rename_i h
    rw [h, sub_zero, abs_zero]
    exact le_of_lt (half_pos (spacing_pos 0))
  · have hround := roundHalfEven_error (q / spacing q)
    calc |(roundHalfEven (q / spacing q) : Rat) * spacing q - q|
        = |(roundHalfEven (q / spacing q) : Rat) - q / spacing q| *
          spacing q := by
          rw [← abs_of_pos hpos, ← abs_mul, abs_of_pos hpos, sub_mul,
            div_mul_cancel₀ q hpos.ne']
      _ ≤ 1 / 2 * spacing q := mul_le_mul_of_nonneg_right hround hpos.le
      _ = spacing q / 2 := by ring

theorem abs_nearest_le (q : Rat) : |nearest q| ≤ 2 * |q| + 1 := by
  by_cases hq : q = 0
  · rw [hq, nearest_zero, abs_zero]
    norm_num
  · have herror := nearest_error q
    have hspacing := spacing_le hq
    have hmax : max |q| 1 ≤ |q| + 1 :=
      max_le (le_add_of_nonneg_right zero_le_one)
        (le_add_of_nonneg_left (abs_nonneg q))
    have htriangle := abs_sub_abs_le_abs_sub (nearest q) q
    linarith [abs_nonneg q]

theorem isFinite_nearest {q : Rat} (h : |q| ≤ 2 ^ 100) :
    isFinite (nearest q) = true := by
  unfold isFinite
  rw [decide_eq_true_iff, magnitude_eq_abs]
  have hbound : |nearest q| ≤ 2 ^ 102 := by
    have hrounded := abs_nearest_le q
    have hone : (1 : Rat) ≤ 2 ^ 100 := one_le_pow₀ one_le_two
    have hpow : (2 : Rat) ^ 102 = 4 * 2 ^ 100 := by norm_num
    linarith
  refine lt_of_le_of_lt hbound ?_
  unfold limit
  rw [show (1024 : Int) = ((1024 : Nat) : Int) by rfl, zpow_natCast]
  exact pow_lt_pow_right₀ one_lt_two (by norm_num)

end TimeWindow.Proofs.Number.Grid

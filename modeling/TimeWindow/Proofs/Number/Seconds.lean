import TimeWindow.DateMath.Epoch
import TimeWindow.Proofs.Number.Grid

/-!
# Microseconds kept as seconds

A count of microseconds divided by a million is seldom a double.  The double
nearest to it is off by less than half a microsecond as long as it stays below
`2 ^ 33` seconds, so that rounding it back to microseconds finds the count again
(`microseconds_inSeconds`).
-/

namespace TimeWindow.Proofs.Number.Seconds

open TimeWindow.Binary64 Grid

/-! ## The grid below a power of two -/

theorem spacing_le_of_lt {q : Rat} {n : Int} (hq : q ≠ 0) (hn : -1021 ≤ n)
    (h : |q| < 2 ^ n) :
    spacing q ≤ 2 ^ (n - 53) := by
  have hpos : 0 < magnitude q := by
    rw [magnitude_eq_abs]
    exact abs_pos.2 hq
  have hexponent : binaryExponent (magnitude q) < n := by
    by_contra hlarge
    have hpower : (2 : Rat) ^ n ≤ 2 ^ binaryExponent (magnitude q) :=
      zpow_le_zpow_right₀ one_le_two (not_lt.1 hlarge)
    have hmagnitude := two_zpow_binaryExponent_le hpos
    rw [magnitude_eq_abs] at hpower hmagnitude
    linarith
  unfold spacing
  exact zpow_le_zpow_right₀ one_le_two (by omega)

theorem nearest_error_of_lt {q : Rat} {n : Int} (hn : -1021 ≤ n)
    (h : |q| < 2 ^ n) :
    |nearest q - q| ≤ 2 ^ (n - 54) := by
  by_cases hq : q = 0
  · rw [hq, nearest_zero, sub_zero, abs_zero]
    positivity
  · calc |nearest q - q| ≤ spacing q / 2 := nearest_error q
      _ ≤ 2 ^ (n - 53) / 2 :=
        div_le_div_of_nonneg_right (spacing_le_of_lt hq hn h) zero_le_two
      _ = 2 ^ (n - 54) := by
        rw [show n - 53 = n - 54 +
          1 by ring, zpow_add_one₀ two_ne_zero, mul_div_cancel_right₀ _ two_ne_zero]

/-! ## Rounding to whole numbers -/

theorem roundHalfEven_of_near {q : Rat} {n : Int} (h : |q - n| < 1 / 2) :
    roundHalfEven q = n := by
  have herror := roundHalfEven_error q
  rw [abs_le] at herror
  rw [abs_lt] at h
  have hlow : (n : Rat) - 1 < roundHalfEven q := by linarith
  have hhigh : (roundHalfEven q : Rat) < n + 1 := by linarith
  have hlow' : n - 1 < roundHalfEven q := by exact_mod_cast hlow
  have hhigh' : roundHalfEven q < n + 1 := by exact_mod_cast hhigh
  omega

theorem truncate_error (q : Rat) : |q - truncate q| < 1 := by
  have hfloor : ∀ q : Rat, 0 ≤ q - q.floor ∧ q - q.floor < 1 := by
    intro q
    have hlow : (q.floor : Rat) ≤ q := Rat.floor_le q
    have hhigh := Rat.lt_floor_add_one q
    push_cast at hhigh
    constructor <;> linarith
  unfold truncate
  split
  · obtain ⟨hlow, hhigh⟩ := hfloor (-q)
    push_cast
    rw [abs_lt]
    constructor <;> linarith
  · obtain ⟨hlow, hhigh⟩ := hfloor q
    rw [abs_lt]
    constructor <;> linarith

/-! ## Both roundings together -/

theorem ofSeconds_of_near {q : Rat} {t : Int}
    (h : |q * 1000000 - t| < 1 / 2 - 2 ^ (-34 : Int)) :
    Epoch.ofSeconds q = t := by
  have hrest : |(q - truncate q) * 1000000| < 2 ^ (20 : Int) := by
    rw [abs_mul, abs_of_pos (by norm_num : (0 : Rat) < 1000000)]
    calc |q - truncate q| * 1000000 < 1 * 1000000 :=
          mul_lt_mul_of_pos_right (truncate_error q) (by norm_num)
      _ < 2 ^ (20 : Int) := by norm_num
  have hnearest := nearest_error_of_lt (by norm_num) hrest
  have hround :
      roundHalfEven (nearest ((q - truncate q) * 1000000)) =
        t - truncate q * 1000000 := by
    refine roundHalfEven_of_near ?_
    push_cast
    calc |nearest ((q - truncate q) * 1000000) -
        ((t : Rat) - truncate q * 1000000)|
        = |(nearest ((q - truncate q) * 1000000) - (q - truncate q) * 1000000) +
          (q * 1000000 - t)| := by
          congr 1
          ring
      _ ≤ |nearest ((q - truncate q) * 1000000) - (q - truncate q) * 1000000| +
          |q * 1000000 - t| := abs_add_le _ _
      _ < 2 ^ (20 - 54 : Int) + (1 / 2 - 2 ^ (-34 : Int)) :=
        add_lt_add_of_le_of_lt hnearest h
      _ = 1 / 2 := by norm_num
  unfold Epoch.ofSeconds Calendar.second
  rw [hround]
  ring

section

variable {t : Int} (h : t.natAbs < 2 ^ 33 * 1000000)

include h

theorem abs_seconds_lt : |(t : Rat) / 1000000| < 2 ^ (33 : Int) := by
  have hcast : |(t : Rat)| < 2 ^ 33 * 1000000 := by
    rw [← Int.cast_abs, ← Nat.cast_natAbs]
    exact_mod_cast h
  rw [abs_div, abs_of_pos (by norm_num : (0 : Rat) < 1000000),
    div_lt_iff₀ (by norm_num)]
  exact_mod_cast hcast

theorem ofSeconds_nearest :
    Epoch.ofSeconds (nearest ((t : Rat) / 1000000)) = t := by
  have hnearest := nearest_error_of_lt (by norm_num) (abs_seconds_lt h)
  refine ofSeconds_of_near ?_
  calc |nearest ((t : Rat) / 1000000) * 1000000 - t|
      = |(nearest ((t : Rat) / 1000000) - t / 1000000) * 1000000| := by
        rw [sub_mul, div_mul_cancel₀ _ (by norm_num)]
    _ = |nearest ((t : Rat) / 1000000) - t / 1000000| * 1000000 := by
        rw [abs_mul, abs_of_pos (by norm_num : (0 : Rat) < 1000000)]
    _ ≤ 2 ^ (33 - 54 : Int) * 1000000 :=
      mul_le_mul_of_nonneg_right hnearest (by norm_num)
    _ < 1 / 2 - 2 ^ (-34 : Int) := by norm_num

theorem inSeconds_eq :
    Epoch.inSeconds t = .finite (nearest ((t : Rat) / 1000000)) := by
  have hsize : |(t : Rat) / 1000000| ≤ 2 ^ 100 := by
    refine (abs_seconds_lt h).le.trans ?_
    norm_num
  unfold Epoch.inSeconds Double.ofRat
  dsimp only
  rw [if_pos (isFinite_nearest hsize)]

theorem microseconds_inSeconds :
    Epoch.microseconds (.real (Epoch.inSeconds t)) = .ok t := by
  rw [inSeconds_eq h]
  exact congrArg Except.ok (ofSeconds_nearest h)

theorem isZero_inSeconds : (Epoch.inSeconds t).isZero = true ↔ t = 0 := by
  rw [inSeconds_eq h]
  unfold Double.isZero Double.value?
  rw [decide_eq_true_iff, Option.some_inj]
  constructor
  · intro hzero
    have hback := ofSeconds_nearest h
    rw [hzero] at hback
    exact hback.symm.trans (by decide +kernel)
  · rintro rfl
    rw [Int.cast_zero, zero_div, nearest_zero]

end

end TimeWindow.Proofs.Number.Seconds

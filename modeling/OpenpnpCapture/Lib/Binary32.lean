/-
# Lib.Binary32 — rounding to single precision

A `float` is the rational number it denotes.  `round` is the nearest one with a 24-bit
significand, ties to even; numbers outside the normal range of the format are not treated.
`abs_round_le` and `le_abs_round` bound what a rounding can do to a magnitude.
-/
import Mathlib.Data.Int.Log
import Mathlib.Data.Rat.Floor
import Mathlib.Tactic.Linarith

namespace OpenpnpCapture.Lib.Binary32

set_option autoImplicit false

/-- The nearest integer, the even one of two. -/
def roundEven (x : ℚ) : ℤ :=
  let below := ⌊x⌋
  if x - below < 1 / 2 then below
  else if 1 / 2 < x - below then below + 1
  else below + below % 2

/-- The distance of neighbouring numbers in the binade of `q`. -/
def ulp (q : ℚ) : ℚ := 2 ^ (Int.log 2 |q| - 23)

def round (q : ℚ) : ℚ :=
  if q = 0 then 0 else roundEven (q / ulp q) * ulp q

theorem abs_roundEven_sub_le (x : ℚ) : |(roundEven x : ℚ) - x| ≤ 1 / 2 := by
  have low := Int.floor_le x
  have high := Int.lt_floor_add_one x
  unfold roundEven
  dsimp only
  split_ifs with near far
  · rw [abs_le]
    constructor <;> linarith
  · push_cast
    rw [abs_le]
    constructor <;> linarith
  · have tie : x - ⌊x⌋ = 1 / 2 := le_antisymm (not_lt.1 far) (not_lt.1 near)
    rcases Int.emod_two_eq_zero_or_one ⌊x⌋ with even | odd
    · rw [even, add_zero, abs_le]
      constructor <;> linarith
    · rw [odd]
      push_cast
      rw [abs_le]
      constructor <;> linarith

theorem ulp_pos (q : ℚ) : 0 < ulp q := by
  exact zpow_pos (by norm_num) _

/-- A number has 24 significant bits: its magnitude is at least `2 ^ 23` units. -/
theorem ulp_scaled_le {q : ℚ} (nonzero : q ≠ 0) : ulp q * 2 ^ 23 ≤ |q| := by
  have power : (2 : ℚ) ^ Int.log 2 |q| ≤ |q| := by
    exact_mod_cast Int.zpow_log_le_self (b := 2) (by norm_num) (abs_pos.2 nonzero)
  refine le_trans (le_of_eq ?_) power
  rw [ulp, ← zpow_natCast, ← zpow_add₀ (by norm_num)]
  congr 1
  omega

/-- A rounding moves a number by at most half a unit, so by at most `2⁻²⁴` of it. -/
theorem abs_round_sub_le_scaled (q : ℚ) : |round q - q| ≤ |q| / 2 ^ 24 := by
  unfold round
  split_ifs with zero
  · simp [zero]
  · have step := ulp_pos q
    have scaled : (roundEven (q / ulp q) : ℚ) * ulp q - q =
        ((roundEven (q / ulp q) : ℚ) - q / ulp q) * ulp q := by
      rw [sub_mul, div_mul_cancel₀ q step.ne']
    rw [scaled, abs_mul, abs_of_pos step]
    have near := abs_roundEven_sub_le (q / ulp q)
    have small := ulp_scaled_le zero
    nlinarith

/-- Roughly, by at most half of it. -/
theorem abs_round_sub_le (q : ℚ) : |round q - q| ≤ |q| / 2 := by
  have moved := abs_round_sub_le_scaled q
  have := abs_nonneg q
  linarith

theorem abs_round_le (q : ℚ) : |round q| ≤ 2 * |q| := by
  have moved := abs_round_sub_le q
  have triangle := abs_sub_abs_le_abs_sub (round q) q
  have := abs_nonneg q
  linarith

theorem le_abs_round (q : ℚ) : |q| ≤ 2 * |round q| := by
  have moved := abs_round_sub_le q
  have triangle := abs_sub_abs_le_abs_sub q (round q)
  rw [abs_sub_comm] at triangle
  linarith

end OpenpnpCapture.Lib.Binary32

import LlmperfOrchestrator.Library.Rounding
import Mathlib.Data.Int.Log
import Mathlib.Tactic.GCongr

set_option autoImplicit false

namespace LlmperfOrchestrator.Binary64

open Rounding

-- Doubles stand for their exact values; no result here overflows or is subnormal.
def unit (x : Rat) : Rat :=
  2 ^ (Int.log 2 |x| - 52)

def nearest (x : Rat) : Rat :=
  roundHalfEven (x / unit x) * unit x

-- float.__floordiv__ for a positive divisor: fmod is exact, the quotient is
-- rounded and snapped to an integer.
def floorDiv (dividend divisor : Rat) : Int :=
  let remainder := dividend - truncated (dividend / divisor) * divisor
  let quotient := nearest (nearest (dividend - remainder) / divisor)
  let quotient := if remainder < 0 then nearest (quotient - 1) else quotient
  if 1 / 2 < Int.fract quotient then ⌊quotient⌋ + 1 else ⌊quotient⌋

theorem unit_pos (x : Rat) : 0 < unit x :=
  zpow_pos (by norm_num) _

theorem unit_le (x : Rat) (nonzero : x ≠ 0) : unit x ≤ |x| / 2 ^ 52 := by
  have power : (2 : Rat) ^ Int.log 2 |x| ≤ |x| := Int.zpow_log_le_self Nat.one_lt_two (abs_pos.mpr nonzero)
  rw [unit, zpow_sub₀ (by norm_num)]
  exact div_le_div_of_nonneg_right power (by norm_num)

theorem nearest_error (x : Rat) : |nearest x - x| ≤ |x| / 2 ^ 53 := by
  by_cases zero : x = 0
  · have rounded : roundHalfEven ((0 : Int) : Rat) = 0 := round_int 0
    rw [Int.cast_zero] at rounded
    rw [zero, nearest, zero_div, rounded]
    simp
  · have positive := unit_pos x
    have scaled : x = x / unit x * unit x := (div_mul_cancel₀ x positive.ne').symm
    obtain ⟨low, high⟩ := round_error (x / unit x)
    have close : |(roundHalfEven (x / unit x) : Rat) - x / unit x| ≤ 1 / 2 := abs_le.mpr ⟨by linarith, by linarith⟩
    have split : nearest x - x = (roundHalfEven (x / unit x) - x / unit x) * unit x := by
      rw [sub_mul, ← scaled, nearest]
    have small := unit_le x zero
    rw [split, abs_mul, abs_of_pos positive]
    calc |(roundHalfEven (x / unit x) : Rat) - x / unit x| * unit x ≤ 1 / 2 * (|x| / 2 ^ 52) := by gcongr
      _ = |x| / 2 ^ 53 := by ring

theorem nearest_bounds (x : Rat) (nonneg : 0 ≤ x) :
    x - x / 2 ^ 53 ≤ nearest x ∧ nearest x ≤ x + x / 2 ^ 53 := by
  have error := nearest_error x
  rw [abs_of_nonneg nonneg] at error
  obtain ⟨low, high⟩ := abs_le.mp error
  exact ⟨by linarith, by linarith⟩

theorem nearest_nonneg (x : Rat) (nonneg : 0 ≤ x) : 0 ≤ nearest x := by
  have small : x / 2 ^ 53 ≤ x := div_le_self nonneg (by norm_num)
  linarith [(nearest_bounds x nonneg).1]

end LlmperfOrchestrator.Binary64

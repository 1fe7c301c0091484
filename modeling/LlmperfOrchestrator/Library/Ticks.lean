import LlmperfOrchestrator.Library.Rounding
import Mathlib.Algebra.Order.Archimedean.Basic

set_option autoImplicit false

namespace LlmperfOrchestrator.Ticks

open Rounding

def tick (period : ℚ) (after : ℤ) : ℤ :=
  let lower := after + 1
  let candidate := roundHalfEven ((⌊(lower : ℚ) / period⌋ : ℚ) * period)
  if candidate < lower then candidate + roundHalfEven period else candidate

def ticks (period : ℚ) : ℕ → ℤ
  | 0 => 0
  | n + 1 => tick period (ticks period n)

theorem steps_eq (period : ℚ) (positive : 0 < period) (lower : ℤ) (k : ℤ) (reached : (k : ℚ) * period ≤ lower)
    (ahead : (lower : ℚ) < (k + 1) * period) : ⌊(lower : ℚ) / period⌋ = k := by
  rw [Int.floor_eq_iff]
  exact ⟨(le_div_iff₀ positive).mpr reached, (div_lt_iff₀ positive).mpr ahead⟩

theorem tick_eq (period : ℚ) (positive : 0 < period) (after : ℤ) (k : ℤ) (reached : (k : ℚ) * period ≤ after + 1)
    (ahead : (after : ℚ) + 1 < (k + 1) * period) :
    tick period after =
      if roundHalfEven ((k : ℚ) * period) < after + 1 then roundHalfEven ((k : ℚ) * period) + roundHalfEven period
      else roundHalfEven ((k : ℚ) * period) := by
  have steps := steps_eq period positive (after + 1) k (by push_cast; exact reached) (by push_cast; exact ahead)
  simp only [tick, steps]

theorem tick_past (period : ℚ) (positive : 0 < period) (after : ℤ) : after < tick period after := by
  have ahead : ((after + 1 : ℤ) : ℚ) < (⌊((after + 1 : ℤ) : ℚ) / period⌋ + 1) * period :=
    (div_lt_iff₀ positive).mp (Int.lt_floor_add_one _)
  simp only [tick]
  generalize ⌊((after + 1 : ℤ) : ℚ) / period⌋ = steps at ahead
  have first := (round_error ((steps : ℚ) * period)).1
  have second := (round_error period).1
  by_cases short : roundHalfEven ((steps : ℚ) * period) < after + 1
  · rw [if_pos short]
    -- Two roundings lose at most one unit together.
    have beyond : ((after : ℤ) : ℚ) < ((roundHalfEven ((steps : ℚ) * period) + roundHalfEven period : ℤ) : ℚ) := by
      push_cast at ahead ⊢
      linarith
    exact_mod_cast beyond
  · rw [if_neg short]
    omega

theorem ticks_lower (period : ℚ) (positive : 0 < period) (n : ℕ) : (n : ℤ) ≤ ticks period n := by
  induction n with
  | zero => simp [ticks]
  | succ n ih =>
      have past := tick_past period positive (ticks period n)
      rw [ticks]
      push_cast
      omega

theorem whole_ticks (k : ℤ) (positive : 0 < k) (n : ℕ) : ticks (k : ℚ) n = n * k := by
  induction n with
  | zero => simp [ticks]
  | succ n ih =>
      have positiveQ : (0 : ℚ) < (k : ℚ) := by exact_mod_cast positive
      rw [ticks, ih]
      by_cases unit : k = 1
      · subst unit
        have value : ((n + 1 : ℤ) : ℚ) * ((1 : ℤ) : ℚ) = ((n + 1 : ℤ) : ℚ) := by push_cast; ring
        rw [tick_eq _ positiveQ _ (n + 1) (by push_cast; linarith) (by push_cast; linarith), value, round_int,
          if_neg (by omega)]
        push_cast
        ring
      · have wide : (2 : ℤ) ≤ k := by omega
        have wideQ : (2 : ℚ) ≤ (k : ℚ) := by exact_mod_cast wide
        have value : ((n : ℤ) : ℚ) * (k : ℚ) = ((n * k : ℤ) : ℚ) := by push_cast; rfl
        rw [tick_eq _ positiveQ _ (n : ℤ) (by push_cast; linarith) (by push_cast; linarith), value, round_int,
          round_int, if_pos (by omega)]
        push_cast
        ring

theorem drift_free (period : ℚ) (step : ℤ) (aligned : ∀ n : ℕ, roundHalfEven ((n : ℚ) * period) = n * step) :
    period = step := by
  by_contra different
  have gap : (0 : ℚ) < |period - step| := abs_pos.mpr (sub_ne_zero.mpr different)
  obtain ⟨n, large⟩ := exists_nat_gt (1 / |period - step|)
  rw [div_lt_iff₀ gap] at large
  have error := round_error ((n : ℚ) * period)
  rw [aligned n] at error
  push_cast at error
  have small : |(n : ℚ) * (period - step)| ≤ 1 / 2 := by
    rw [abs_le]
    constructor <;> linarith [error.1, error.2]
  rw [abs_mul, abs_of_nonneg (Nat.cast_nonneg n : (0 : ℚ) ≤ n)] at small
  linarith

theorem rounded_step (period : ℚ) (unit : 1 ≤ period) (uneven : period ≠ 3 / 2) (n : ℕ)
    (here : ticks period n = roundHalfEven ((n : ℚ) * period))
    (next : ticks period (n + 1) = roundHalfEven ((n + 1 : ℕ) * period)) :
    roundHalfEven ((n + 1 : ℕ) * period) = roundHalfEven ((n : ℚ) * period) + roundHalfEven period := by
  have positive : 0 < period := by linarith
  have error := round_error ((n : ℚ) * period)
  have past := tick_past period positive (ticks period n)
  rw [← next]
  rw [← ticks, next] at past
  by_cases behind : ((roundHalfEven ((n : ℚ) * period) : ℤ) : ℚ) + 1 < ((n : ℤ) + 1) * period
  · rw [ticks, here, tick_eq period positive _ n (by push_cast; linarith [error.1]) behind]
    push_cast
    rw [if_pos (by omega)]
  · -- The next multiple is not later than one unit on, which a period of at least one and a half forbids.
    have short : period < 3 / 2 := lt_of_le_of_ne (by push_cast at behind; linarith [error.2]) uneven
    have one : roundHalfEven period = 1 := by
      have lower := round_at_least (1 : ℤ) period (by push_cast; exact unit)
      have upper := (round_error period).2
      have bound : ((roundHalfEven period : ℤ) : ℚ) < (2 : ℤ) := by push_cast; linarith
      have bound : roundHalfEven period < 2 := by exact_mod_cast bound
      omega
    have near : roundHalfEven ((n + 1 : ℕ) * period) ≤ roundHalfEven ((n : ℚ) * period) + 1 := by
      apply round_at_most
      push_cast at behind ⊢
      linarith
    rw [one, next]
    omega

theorem ticks_on_grid (period : ℚ) (unit : 1 ≤ period) :
    (∀ n : ℕ, ticks period n = roundHalfEven ((n : ℚ) * period)) ↔ ∃ k : ℤ, period = k := by
  constructor
  · intro grid
    by_cases half : period = 3 / 2
    · subst half
      exact absurd (grid 3) (by decide +kernel)
    · have steady : ∀ n : ℕ, roundHalfEven ((n : ℚ) * period) = n * roundHalfEven period := by
        intro n
        induction n with
        | zero => simpa using round_int (α := ℚ) 0
        | succ n ih =>
            rw [rounded_step period unit half n (grid n) (grid (n + 1)), ih]
            push_cast
            ring
      exact ⟨roundHalfEven period, drift_free period _ steady⟩
  · rintro ⟨k, rfl⟩ n
    have positive : 0 < k := by
      have above : (0 : ℚ) < (k : ℚ) := by linarith
      exact_mod_cast above
    have value : (n : ℚ) * (k : ℚ) = ((n * k : ℤ) : ℚ) := by push_cast; rfl
    rw [whole_ticks k positive n, value, round_int]

section Ceiling

structure Carries (period : ℚ) (x : ℚ) : Prop where
  high : 1 / 2 < Int.fract period
  carry : 1 / 2 < Int.fract x ↔ 1 < Int.fract x + Int.fract period
  offTie : Int.fract x ≠ 1 / 2

section Necessity
variable (period : ℚ) (unit : 1 ≤ period) (ceiling : ∀ n : ℕ, ticks period n = ⌈(n : ℚ) * period⌉)
include ceiling

include unit

end Necessity

end Ceiling

end LlmperfOrchestrator.Ticks

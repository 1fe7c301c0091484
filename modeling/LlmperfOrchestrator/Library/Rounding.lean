import Mathlib.Data.Rat.Floor

set_option autoImplicit false

namespace LlmperfOrchestrator.Rounding

-- int(value) drops the fraction.
def truncated (value : Rat) : Int := value.num.tdiv value.den

theorem truncated_nonneg (value : Rat) (nonneg : 0 ≤ value) : truncated value = ⌊value⌋ := by
  rw [truncated, Int.tdiv_eq_ediv_of_nonneg (Rat.num_nonneg.mpr nonneg), Rat.floor_def']

variable {α : Type} [Field α] [LinearOrder α] [FloorRing α]

def roundHalfEven (x : α) : ℤ :=
  if Int.fract x < 1 / 2 then ⌊x⌋
  else if 1 / 2 < Int.fract x then ⌊x⌋ + 1
  else if Even ⌊x⌋ then ⌊x⌋
  else ⌊x⌋ + 1

theorem round_down (x : α) (low : Int.fract x < 1 / 2) : roundHalfEven x = ⌊x⌋ := by
  rw [roundHalfEven, if_pos low]

theorem round_up (x : α) (high : 1 / 2 < Int.fract x) : roundHalfEven x = ⌊x⌋ + 1 := by
  rw [roundHalfEven, if_neg (not_lt.mpr high.le), if_pos high]

theorem round_tie (x : α) (tie : Int.fract x = 1 / 2) :
    roundHalfEven x = if Even ⌊x⌋ then ⌊x⌋ else ⌊x⌋ + 1 := by
  rw [roundHalfEven, if_neg tie.symm.le.not_gt, if_neg tie.le.not_gt]

theorem round_cases (x : α) :
    (roundHalfEven x = ⌊x⌋ ∧ Int.fract x ≤ 1 / 2) ∨ (roundHalfEven x = ⌊x⌋ + 1 ∧ 1 / 2 ≤ Int.fract x) := by
  by_cases low : Int.fract x < 1 / 2
  · exact .inl ⟨round_down x low, low.le⟩
  · by_cases high : 1 / 2 < Int.fract x
    · exact .inr ⟨round_up x high, high.le⟩
    · have tie : Int.fract x = 1 / 2 := le_antisymm (not_lt.mp high) (not_lt.mp low)
      by_cases even : Even ⌊x⌋
      · exact .inl ⟨by rw [round_tie x tie, if_pos even], tie.le⟩
      · exact .inr ⟨by rw [round_tie x tie, if_neg even], tie.symm.le⟩

theorem floor_le_round (x : α) : ⌊x⌋ ≤ roundHalfEven x := by
  cases round_cases x with
  | inl down => exact down.1.ge
  | inr up => exact up.1 ▸ le_add_of_nonneg_right Int.one_nonneg

theorem round_le_floor_succ (x : α) : roundHalfEven x ≤ ⌊x⌋ + 1 := by
  cases round_cases x with
  | inl down => exact down.1 ▸ le_add_of_nonneg_right Int.one_nonneg
  | inr up => exact up.1.le

variable [IsStrictOrderedRing α]

@[simp] theorem round_int (k : ℤ) : roundHalfEven (k : α) = k := by
  rw [round_down _ (by rw [Int.fract_intCast]; norm_num), Int.floor_intCast]

theorem round_error (x : α) : x - 1 / 2 ≤ (roundHalfEven x : α) ∧ (roundHalfEven x : α) ≤ x + 1 / 2 := by
  have split := Int.floor_add_fract x
  have low := Int.fract_nonneg x
  have high := Int.fract_lt_one x
  cases round_cases x with
  | inl down =>
      rw [down.1]
      constructor <;> linarith [down.2]
  | inr up =>
      rw [up.1]
      push_cast
      constructor <;> linarith [up.2]

theorem round_monotone (x y : α) (ordered : x ≤ y) : roundHalfEven x ≤ roundHalfEven y := by
  have floors := Int.floor_mono ordered
  by_cases same : ⌊x⌋ = ⌊y⌋
  · have fracts : Int.fract x ≤ Int.fract y := by
      rw [Int.fract, Int.fract, same]
      linarith
    cases round_cases x with
    | inl down => exact down.1 ▸ same ▸ floor_le_round y
    | inr up =>
        cases round_cases y with
        | inr upper => exact (up.1.trans (by rw [same, upper.1])).le
        | inl lower =>
            -- Both lie on the tie of one integer.
            have tieX : Int.fract x = 1 / 2 := le_antisymm (fracts.trans lower.2) up.2
            have tieY : Int.fract y = 1 / 2 := le_antisymm lower.2 (up.2.trans fracts)
            rw [round_tie x tieX, round_tie y tieY, same]
  · have strict : ⌊x⌋ + 1 ≤ ⌊y⌋ := lt_of_le_of_ne floors same
    exact (round_le_floor_succ x).trans (strict.trans (floor_le_round y))

theorem round_at_least (k : ℤ) (x : α) (below : (k : α) ≤ x) : k ≤ roundHalfEven x := by
  simpa using round_monotone (k : α) x below

theorem round_at_most (k : ℤ) (x : α) (above : x ≤ (k : α)) : roundHalfEven x ≤ k := by
  simpa using round_monotone x (k : α) above

end LlmperfOrchestrator.Rounding

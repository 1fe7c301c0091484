import Mathlib.Algebra.Order.Ring.Rat
import Mathlib.Data.List.Perm.Basic

set_option autoImplicit false

namespace LlmperfOrchestrator.Draws

-- A seeded pseudo-random generator. A normal draw is exact, or none where the
-- arithmetic of its mean and deviation overflows.
structure Generator where
  State : Type
  seeded : Int → State
  randbelow : Nat → State → Nat × State
  gauss : Int → Int → State → Option Rat × State
  below : ∀ bound state, 0 < bound → (randbelow bound state).1 < bound

variable {α : Type}

def exchanges (gen : Generator) : Nat → List α → gen.State → List α × gen.State
  | 0, xs, state => (xs, state)
  | count + 1, xs, state =>
      let (chosen, next) := gen.randbelow (count + 2) state
      exchanges gen count (xs.swap (count + 1) chosen) next

def shuffle (gen : Generator) (xs : List α) (state : gen.State) : List α × gen.State :=
  exchanges gen (xs.length - 1) xs state

theorem exchanges_perm (gen : Generator) (count : Nat) (xs : List α) (state : gen.State) :
    (exchanges gen count xs state).1.Perm xs := by
  induction count generalizing xs state with
  | zero => exact List.Perm.refl xs
  | succ count ih =>
      have later := ih (xs.swap (count + 1) (gen.randbelow (count + 2) state).1) (gen.randbelow (count + 2) state).2
      exact later.trans (List.swap_perm xs _ _)

theorem shuffle_perm (gen : Generator) (xs : List α) (state : gen.State) : (shuffle gen xs state).1.Perm xs :=
  exchanges_perm gen (xs.length - 1) xs state

end LlmperfOrchestrator.Draws

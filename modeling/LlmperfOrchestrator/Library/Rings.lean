import LlmperfOrchestrator.Library.Runs
import Mathlib.Data.List.Nodup

set_option autoImplicit false

namespace LlmperfOrchestrator.Rings

open Runs

variable {α : Type} [DecidableEq α]

inductive Move : List α → Option α → List α → Prop
  | stay (ring : List α) : Move ring none ring
  | join (ring : List α) (x : α) (fresh : x ∉ ring) : Move ring none (ring ++ [x])
  | leave (ring : List α) (x : α) : Move ring none (ring.erase x)
  | pass (x : α) : Move [] (some x) []
  | serve (x : α) (rest : List α) : Move (x :: rest) (some x) (rest ++ [x])
  | serveLast (x : α) (rest : List α) : Move (x :: rest) (some x) rest

omit [DecidableEq α] in
theorem nodup_back (ring : List α) (x : α) (unique : ring.Nodup) (fresh : x ∉ ring) : (ring ++ [x]).Nodup := by
  rw [List.nodup_append]
  refine ⟨unique, List.nodup_singleton x, ?_⟩
  intro y held z last same
  rw [same, List.mem_singleton.mp last] at held
  exact fresh held

theorem move_nodup (ring next : List α) (served : Option α) (move : Move ring served next) (unique : ring.Nodup) : next.Nodup := by
  cases move with
  | stay => exact unique
  | join _ x fresh => exact nodup_back ring x unique fresh
  | leave _ x => exact unique.erase x
  | pass x => exact unique
  | serve x rest =>
      obtain ⟨apart, others⟩ := List.nodup_cons.mp unique
      exact nodup_back rest x others apart
  | serveLast x rest => exact (List.nodup_cons.mp unique).2

theorem erase_position (ring : List α) (x y : α) (other : x ≠ y) : (ring.erase y).idxOf x ≤ ring.idxOf x := by
  induction ring with
  | nil => exact Nat.le_refl _
  | cons first rest ih =>
      by_cases here : first = y
      · subst here
        rw [List.erase_cons_head, List.idxOf_cons_ne rest other.symm]
        exact Nat.le_succ _
      · rw [List.erase_cons_tail (by simpa using here)]
        by_cases same : first = x
        · subst same
          rw [List.idxOf_cons_self]
          exact Nat.zero_le _
        · rw [List.idxOf_cons_ne _ same, List.idxOf_cons_ne _ same]
          exact Nat.succ_le_succ ih

theorem move_position (ring next : List α) (served : Option α) (move : Move ring served next) (unique : ring.Nodup) (x : α)
    (member : x ∈ ring) (unserved : served ≠ some x) (remains : x ∈ next) :
    (if served.isSome then 1 else 0) + next.idxOf x ≤ ring.idxOf x := by
  cases move with
  | stay => exact Nat.le_of_eq (Nat.zero_add _)
  | join _ y fresh => exact Nat.le_of_eq ((Nat.zero_add _).trans (List.idxOf_append_of_mem member))
  | leave _ y =>
      have other : x ≠ y := by
        intro same
        subst same
        exact absurd remains unique.not_mem_erase
      have nearer := erase_position ring x y other
      simpa using nearer
  | pass y => cases member
  | serve y rest =>
      have other : y ≠ x := fun same => unserved (congrArg some same)
      have behind := (List.mem_cons.mp member).resolve_left other.symm
      rw [List.idxOf_append_of_mem behind, List.idxOf_cons_ne rest other]
      exact Nat.le_of_eq (Nat.add_comm _ _)
  | serveLast y rest =>
      have other : y ≠ x := fun same => unserved (congrArg some same)
      rw [List.idxOf_cons_ne next other]
      exact Nat.le_of_eq (Nat.add_comm _ _)

theorem served_before (ring next : List α) (served : Option α) (move : Move ring served next) (x : α) (member : x ∈ ring)
    (unserved : served ≠ some x) : (if served.isSome then 1 else 0) ≤ ring.idxOf x := by
  cases move with
  | stay => exact Nat.zero_le _
  | join _ y fresh => exact Nat.zero_le _
  | leave _ y => exact Nat.zero_le _
  | pass y => cases member
  | serve y rest =>
      rw [List.idxOf_cons_ne rest fun same => unserved (congrArg some same)]
      exact Nat.le_add_left 1 _
  | serveLast y rest =>
      rw [List.idxOf_cons_ne next fun same => unserved (congrArg some same)]
      exact Nat.le_add_left 1 _

section Machine

variable {State Event : Type}

theorem passed_at_most (step : State → Event → Option State) (inv : State → Prop) (ring : State → List α)
    (served : State → Event → Option α)
    (keeps : ∀ state event next, inv state → step state event = some next → inv next)
    (unique : ∀ state, inv state → (ring state).Nodup)
    (moves : ∀ state event next, inv state → step state event = some next → Move (ring state) (served state event) (ring next))
    (x : α) (events : List Event) (state last : State) (start : inv state)
    (waits : EveryStep step (fun state event => x ∈ ring state ∧ served state event ≠ some x) state events)
    (reached : run step state events = some last) :
    occurrences step (fun state event => (served state event).isSome) state events ≤ (ring state).idxOf x := by
  induction events generalizing state with
  | nil => exact Nat.zero_le _
  | cons event rest ih =>
      obtain ⟨next, taken, remaining⟩ := (run_cons step state last event rest).mp reached
      obtain ⟨⟨member, unserved⟩, later⟩ := waits
      have move := moves state event next start taken
      have passed := ih next (keeps state event next start taken) (later next taken) remaining
      rw [occurrences, taken]
      dsimp only [Option.elim]
      cases rest with
      | nil => exact served_before _ _ _ move x member unserved
      | cons following others =>
          have remains := (later next taken).1.1
          have nearer := move_position _ _ _ move (unique state start) x member unserved remains
          exact Nat.le_trans (Nat.add_le_add_left passed _) nearer

omit [DecidableEq α] in
theorem passed_by_position (step : State → Event → Option State) (inv : State → Prop) (position : State → Nat)
    (served : State → Event → Option α) (x : α)
    (forward : ∀ state event next, inv state → served state event ≠ some x → step state event = some next →
      inv next ∧ (if (served state event).isSome then 1 else 0) + position next ≤ position state)
    (events : List Event) (state last : State) (start : inv state)
    (waits : EveryStep step (fun state event => served state event ≠ some x) state events)
    (reached : run step state events = some last) :
    occurrences step (fun state event => (served state event).isSome) state events + position last ≤ position state := by
  induction events generalizing state with
  | nil =>
      cases Option.some.inj reached
      exact Nat.le_of_eq (Nat.zero_add _)
  | cons event rest ih =>
      obtain ⟨next, taken, remaining⟩ := (run_cons step state last event rest).mp reached
      obtain ⟨unserved, later⟩ := waits
      obtain ⟨kept, nearer⟩ := forward state event next start unserved taken
      have passed := ih next kept (later next taken) remaining
      rw [occurrences, taken]
      dsimp only [Option.elim]
      omega

end Machine

end LlmperfOrchestrator.Rings

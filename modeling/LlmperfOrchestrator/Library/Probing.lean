import Mathlib.Data.List.Nodup
import Mathlib.Data.List.Perm.Subperm
import Mathlib.Data.Nat.ModEq

set_option autoImplicit false

namespace LlmperfOrchestrator.Probing

variable (modulus : Nat) (used : List Nat)

inductive Probes : Nat → Nat → Prop where
  | free (candidate : Nat) (absent : candidate ∉ used) : Probes candidate candidate
  | taken (candidate result : Nat) (held : candidate ∈ used) (later : Probes ((candidate + 1) % modulus) result) :
      Probes candidate result

theorem probes_free (candidate result : Nat) (probes : Probes modulus used candidate result) : result ∉ used := by
  induction probes with
  | free candidate absent => exact absent
  | taken candidate result held later ih => exact ih

theorem probes_small (candidate result : Nat) (probes : Probes modulus used candidate result) (small : candidate < modulus) :
    result < modulus := by
  induction probes with
  | free candidate absent => exact small
  | taken candidate result held later ih => exact ih (Nat.mod_lt _ (Nat.zero_lt_of_lt small))

theorem free_successor (candidate : Nat) (room : used.length < modulus) :
    ∃ steps ≤ used.length, (candidate + steps) % modulus ∉ used := by
  by_contra full
  have held : ∀ steps ≤ used.length, (candidate + steps) % modulus ∈ used := by
    intro steps within
    by_contra absent
    exact full ⟨steps, within, absent⟩
  have distinct : ((List.range (used.length + 1)).map fun steps => (candidate + steps) % modulus).Nodup := by
    apply List.Nodup.map_on _ List.nodup_range
    intro one first other second same
    have congruent : one ≡ other [MOD modulus] := Nat.ModEq.add_left_cancel' candidate same
    have left := List.mem_range.mp first
    have right := List.mem_range.mp second
    exact Nat.ModEq.eq_of_lt_of_lt congruent (by omega) (by omega)
  have inside : ((List.range (used.length + 1)).map fun steps => (candidate + steps) % modulus) ⊆ used := by
    intro value member
    obtain ⟨steps, listed, rfl⟩ := List.mem_map.mp member
    exact held steps (Nat.lt_succ_iff.mp (List.mem_range.mp listed))
  have short := (List.subperm_of_subset distinct inside).length_le
  rw [List.length_map, List.length_range] at short
  exact Nat.not_succ_le_self used.length short

end LlmperfOrchestrator.Probing

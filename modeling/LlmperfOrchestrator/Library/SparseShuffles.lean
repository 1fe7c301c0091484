import LlmperfOrchestrator.Library.Tables
import Mathlib.Data.List.Perm.Subperm

set_option autoImplicit false

namespace LlmperfOrchestrator.SparseShuffles

open Tables

def standing (swaps : Dict Nat Nat) (position : Nat) : Nat := (Dict.get position swaps).getD position

def undrawn (swaps : Dict Nat Nat) (count : Nat) : List Nat := (List.range count).map (standing swaps)

def displace (swaps : Dict Nat Nat) (chosen last : Nat) : Dict Nat Nat := Dict.put chosen (standing swaps last) swaps

theorem undrawn_untouched (count : Nat) : undrawn [] count = List.range count := List.map_id _

theorem undrawn_succ (swaps : Dict Nat Nat) (count : Nat) : undrawn swaps (count + 1) = undrawn swaps count ++ [standing swaps count] := by
  rw [undrawn, List.range_succ, List.map_append]
  rfl

theorem standing_displaced (swaps : Dict Nat Nat) (chosen last position : Nat) :
    standing (displace swaps chosen last) position = if position = chosen then standing swaps last else standing swaps position := by
  rw [standing, displace, dict_get_put]
  by_cases here : position = chosen
  · rw [if_pos here, if_pos here, Option.getD_some]
  · rw [if_neg here, if_neg here, standing]

theorem undrawn_displaced (swaps : Dict Nat Nat) (chosen count : Nat) :
    undrawn (displace swaps chosen count) count = (undrawn swaps count).set chosen (standing swaps count) := by
  apply List.ext_getElem?
  intro position
  rw [List.getElem?_set, undrawn, undrawn, List.getElem?_map, List.getElem?_map, List.length_map, List.length_range]
  by_cases low : position < count
  · rw [List.getElem?_range low, Option.map_some, Option.map_some, standing_displaced]
    by_cases here : chosen = position
    · rw [if_pos here.symm, if_pos here, if_pos (here ▸ low)]
    · rw [if_neg (Ne.symm here), if_neg here]
  · rw [List.getElem?_eq_none (by rw [List.length_range]; exact Nat.le_of_not_lt low), Option.map_none]
    by_cases here : chosen = position
    · rw [if_pos here, if_neg (here ▸ low)]
    · rw [if_neg here, Option.map_none]

theorem draw_perm (swaps : Dict Nat Nat) (chosen count : Nat) (inside : chosen < count + 1) :
    (standing swaps chosen :: undrawn (displace swaps chosen count) count).Perm (undrawn swaps (count + 1)) := by
  rw [undrawn_succ, undrawn_displaced]
  by_cases last : chosen = count
  · have whole : (undrawn swaps count).length ≤ chosen := by rw [undrawn, List.length_map, List.length_range, last]
    rw [List.set_eq_of_length_le whole, last]
    exact (List.perm_append_singleton _ _).symm
  · have low : chosen < (undrawn swaps count).length := by
      rw [undrawn, List.length_map, List.length_range]
      omega
    have read : (undrawn swaps count)[chosen] = standing swaps chosen := by simp [undrawn]
    have others := List.getElem_cons_eraseIdx_perm low
    rw [read] at others
    calc (standing swaps chosen :: (undrawn swaps count).set chosen (standing swaps count)).Perm
          (standing swaps chosen :: standing swaps count :: (undrawn swaps count).eraseIdx chosen) :=
            (List.set_perm_cons_eraseIdx low _).cons _
      List.Perm _ (standing swaps count :: standing swaps chosen :: (undrawn swaps count).eraseIdx chosen) := List.Perm.swap _ _ _
      List.Perm _ (standing swaps count :: undrawn swaps count) := others.cons _
      List.Perm _ _ := (List.perm_append_singleton _ _).symm

end LlmperfOrchestrator.SparseShuffles

import LlmperfOrchestrator.Library.Tables
import Mathlib.Data.List.Perm.Basic

set_option autoImplicit false

namespace LlmperfOrchestrator.Groupings

open Tables

variable {Key Row : Type} [DecidableEq Key]

-- Rows under their keys, in the order in which the keys appear. A row without a key is left out.
def gather (key : Row → Option Key) (groups : Dict Key (List Row)) (row : Row) : Dict Key (List Row) :=
  match key row with
  | none => groups
  | some name => Dict.put name ((Dict.get name groups).getD [] ++ [row]) groups

def grouped (key : Row → Option Key) (rows : List Row) : Dict Key (List Row) := rows.foldl (gather key) []

theorem dict_put_map {Value Other : Type} (change : Value → Other) (dict : Dict Key Value) (name : Key) (value : Value) :
    (Dict.put name value dict).map (fun entry => (entry.1, change entry.2)) =
      Dict.put name (change value) (dict.map fun entry => (entry.1, change entry.2)) := by
  induction dict with
  | nil => rfl
  | cons entry rest ih =>
      obtain ⟨k, v⟩ := entry
      rw [Dict.put, List.map_cons, Dict.put]
      by_cases same : k = name
      · rw [if_pos same, if_pos same, List.map_cons]
      · rw [if_neg same, if_neg same, List.map_cons, ih]

theorem grouped_map (key : Row → Option Key) (change : Row → Row) (same : ∀ row, key (change row) = key row) (rows : List Row) :
    grouped key (rows.map change) = (grouped key rows).map fun entry => (entry.1, entry.2.map change) := by
  have turn : ∀ groups row, gather key (groups.map fun entry => (entry.1, entry.2.map change)) (change row) =
      (gather key groups row).map fun entry => (entry.1, entry.2.map change) := by
    intro groups row
    rw [gather, gather, same]
    cases key row with
    | none => rfl
    | some name =>
        dsimp only
        rw [dict_put_map (List.map change), dict_get_map fun _ => List.map change]
        cases Dict.get name groups with
        | none => rfl
        | some group => rw [Option.map_some, Option.getD_some, Option.getD_some, List.map_append, List.map_singleton]
  have all : ∀ groups, (rows.map change).foldl (gather key) (groups.map fun entry => (entry.1, entry.2.map change)) =
      (rows.foldl (gather key) groups).map fun entry => (entry.1, entry.2.map change) := by
    intro groups
    induction rows generalizing groups with
    | nil => rfl
    | cons row rest ih => rw [List.map_cons, List.foldl_cons, List.foldl_cons, turn, ih]
  exact all []

theorem put_perm (groups : Dict Key (List Row)) (name : Key) (row : Row) :
    ((Dict.put name ((Dict.get name groups).getD [] ++ [row]) groups).flatMap Prod.snd).Perm (groups.flatMap Prod.snd ++ [row]) := by
  induction groups with
  | nil => exact List.Perm.refl _
  | cons entry rest ih =>
      obtain ⟨k, group⟩ := entry
      rw [Dict.put, Dict.get, List.flatMap_cons]
      by_cases same : k = name
      · rw [if_pos same, if_pos same, Option.getD_some, List.flatMap_cons, List.append_assoc, List.append_assoc]
        exact List.Perm.append_left group List.perm_append_comm
      · rw [if_neg same, if_neg same, List.flatMap_cons, List.append_assoc]
        exact List.Perm.append_left group ih

theorem grouped_perm (key : Row → Option Key) (rows : List Row) :
    ((grouped key rows).flatMap Prod.snd).Perm (rows.filter fun row => (key row).isSome) := by
  have all : ∀ groups, ((rows.foldl (gather key) groups).flatMap Prod.snd).Perm
      (groups.flatMap Prod.snd ++ rows.filter fun row => (key row).isSome) := by
    intro groups
    induction rows generalizing groups with
    | nil => rw [List.filter_nil, List.append_nil]; exact List.Perm.refl _
    | cons row rest ih =>
        rw [List.foldl_cons]
        refine (ih (gather key groups row)).trans ?_
        rw [gather]
        cases found : key row with
        | none => rw [List.filter_cons_of_neg (by rw [found]; exact Bool.false_ne_true)]
        | some name =>
            rw [List.filter_cons_of_pos (by rw [found]; rfl)]
            refine ((put_perm groups name row).append_right _).trans ?_
            rw [List.append_assoc]
            exact List.Perm.refl _
  exact all []

theorem grouped_total (key : Row → Option Key) (weight : Row → Nat) (rows : List Row) :
    ((grouped key rows).map fun entry => total weight entry.2).sum =
      total weight (rows.filter fun row => (key row).isSome) := by
  have whole := (grouped_perm key rows).map weight
  rw [List.map_flatMap] at whole
  rw [total, ← whole.sum_nat, sum_flatMap]
  rfl

end LlmperfOrchestrator.Groupings

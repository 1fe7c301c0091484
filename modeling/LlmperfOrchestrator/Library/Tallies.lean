import LlmperfOrchestrator.Library.Keyed
import Mathlib.Algebra.BigOperators.Group.Finset.Piecewise
import Mathlib.Algebra.Ring.Int.Defs

set_option autoImplicit false

namespace LlmperfOrchestrator.Tallies

open Tables

variable {Row Key : Type} [DecidableEq Key]

-- GROUP BY: one group for each key that some row has.
def groups (key : Row → Key) (rows : List Row) : List (Key × List Row) :=
  (rows.map key).dedup.map fun k => (k, rows.filter fun row => key row = k)

theorem total_countP (counted : Row → Bool) (rows : List Row) :
    total (fun row => if counted row then 1 else 0) rows = rows.countP counted := by
  induction rows with
  | nil => rfl
  | cons row rest ih => rw [total_cons, ih, List.countP_cons, Nat.add_comm]

section Sums

variable {M : Type} [AddCommMonoid M]

theorem sum_by_key (key : Row → Key) (weight : Row → M) (keys : Finset Key) (rows : List Row)
    (covered : ∀ row ∈ rows, key row ∈ keys) :
    ∑ k ∈ keys, ((rows.filter fun row => key row = k).map weight).sum = (rows.map weight).sum := by
  induction rows with
  | nil => simp
  | cons row rest ih =>
      have inside := covered row List.mem_cons_self
      have split : ∀ k, (((row :: rest).filter fun other => key other = k).map weight).sum =
          (if key row = k then weight row else 0) + ((rest.filter fun other => key other = k).map weight).sum := by
        intro k
        by_cases same : key row = k
        · simp [same]
        · simp [same]
      rw [Finset.sum_congr rfl fun k _ => split k, Finset.sum_add_distrib, ih fun other member =>
        covered other (List.mem_cons_of_mem row member), Finset.sum_ite_eq, if_pos inside, List.map_cons, List.sum_cons]

theorem sum_by_keys (key : Row → Key) (weight : Row → M) (keys : List Key) (rows : List Row) (distinct : keys.Nodup)
    (covered : ∀ row ∈ rows, key row ∈ keys) :
    (keys.map fun k => ((rows.filter fun row => key row = k).map weight).sum).sum = (rows.map weight).sum := by
  rw [← List.sum_toFinset _ distinct]
  exact sum_by_key key weight keys.toFinset rows fun row member => List.mem_toFinset.mpr (covered row member)

theorem sum_filter (selected : Row → Bool) (weight : Row → M) (rows : List Row) :
    ((rows.filter selected).map weight).sum = (rows.map fun row => if selected row then weight row else 0).sum := by
  induction rows with
  | nil => rfl
  | cons row rest ih =>
      by_cases chosen : selected row = true
      · simp [chosen, ih]
      · simp [chosen, ih]

theorem groups_sum (key : Row → Key) (selected : Key → Bool) (weight : Row → M) (rows : List Row) :
    (((groups key rows).filter fun group => selected group.1).map fun group => (group.2.map weight).sum).sum =
      ((rows.filter fun row => selected (key row)).map weight).sum := by
  have inside : ∀ k, (if selected k then ((rows.filter fun row => key row = k).map weight).sum else 0) =
      ((rows.filter fun row => key row = k).map fun row => if selected (key row) then weight row else 0).sum := by
    intro k
    have same : ((rows.filter fun row => key row = k).map fun row => if selected (key row) then weight row else 0) =
        (rows.filter fun row => key row = k).map fun row => if selected k then weight row else 0 := by
      apply List.map_congr_left
      intro row member
      rw [of_decide_eq_true (List.mem_filter.mp member).2]
    rw [same]
    by_cases chosen : selected k = true
    · simp [chosen]
    · simp [chosen]
  rw [sum_filter, sum_filter, groups, List.map_map]
  have keys := sum_by_keys key (fun row => if selected (key row) then weight row else 0) (rows.map key).dedup rows
    (List.nodup_dedup _) fun row member => List.mem_dedup.mpr (List.mem_map_of_mem member)
  rw [← keys]
  exact congrArg List.sum (List.map_congr_left fun k _ => inside k)

theorem sum_common {Item : Type} [DecidableEq Item] (first second : List Item) (weight : Item → M) (distinct : first.Nodup)
    (different : second.Nodup) :
    ((first.filter fun item => item ∈ second).map weight).sum = ((second.filter fun item => item ∈ first).map weight).sum := by
  have same : (first.filter fun item => item ∈ second).Perm (second.filter fun item => item ∈ first) := by
    apply (List.perm_ext_iff_of_nodup (distinct.filter _) (different.filter _)).mpr
    intro item
    simp [List.mem_filter, and_comm]
  exact (same.map weight).sum_eq

end Sums

section Updates

variable {Item : Type}

-- progress[key] changed in place; a key that is not there changes nothing.
def updateAt (key : Key) (change : Item → Item) (items : Dict Key Item) : Dict Key Item :=
  match Dict.get key items with
  | none => items
  | some item => Dict.put key (change item) items

theorem update_at_get (key query : Key) (change : Item → Item) (items : Dict Key Item) :
    Dict.get query (updateAt key change items) = (Dict.get query items).map fun item => if query = key then change item else item := by
  unfold updateAt
  split
  · rename_i absent
    by_cases same : query = key
    · rw [same, absent]
      rfl
    · simp [same]
  · rename_i item found
    rw [dict_get_put]
    by_cases same : query = key
    · rw [if_pos same, same, found]
      simp
    · simp [same]

theorem updates_get (owner : Row → Key) (change : Row → Item → Item) (rows : List Row) (items : Dict Key Item) (query : Key) :
    Dict.get query (rows.foldl (fun items row => updateAt (owner row) (change row) items) items) =
      (Dict.get query items).map fun item =>
        (rows.filter fun row => owner row = query).foldl (fun item row => change row item) item := by
  induction rows generalizing items with
  | nil => simp
  | cons row rest ih =>
      rw [List.foldl_cons, ih, update_at_get, Option.map_map]
      congr 1
      funext item
      by_cases same : owner row = query
      · simp [same]
      · simp [same, Ne.symm same]

theorem raised_by (read : Item → Int) (share : Row → Int) (change : Row → Item → Item)
    (raises : ∀ row item, read (change row item) = read item + share row) (rows : List Row) (item : Item) :
    read (rows.foldl (fun item row => change row item) item) = read item + (rows.map share).sum := by
  induction rows generalizing item with
  | nil => simp
  | cons row rest ih => rw [List.foldl_cons, ih, raises, List.map_cons, List.sum_cons, Int.add_assoc]

theorem kept_by {Value : Type} (read : Item → Value) (change : Row → Item → Item)
    (keeps : ∀ row item, read (change row item) = read item) (rows : List Row) (item : Item) :
    read (rows.foldl (fun item row => change row item) item) = read item := by
  induction rows generalizing item with
  | nil => rfl
  | cons row rest ih => rw [List.foldl_cons, ih, keeps]

theorem raised_option (read : Item → Option Int) (share : Row → Int) (change : Row → Item → Item)
    (raises : ∀ row item, read (change row item) = (read item).map (· + share row)) (rows : List Row) (item : Item) :
    read (rows.foldl (fun item row => change row item) item) = (read item).map (· + (rows.map share).sum) := by
  induction rows generalizing item with
  | nil => simp
  | cons row rest ih =>
      rw [List.foldl_cons, ih, raises, Option.map_map]
      congr 1
      funext value
      simp only [Function.comp_apply, List.map_cons, List.sum_cons]
      omega

theorem assigned (entries : List (Key × Int)) (dict : Dict Key Int) (distinct : (entries.map Prod.fst).Nodup)
    (fresh : ∀ entry ∈ entries, Dict.get entry.1 dict = none) (query : Key) :
    (Dict.get query (entries.foldl (fun dict entry => Dict.put entry.1 entry.2 dict) dict)).getD 0 =
      (Dict.get query dict).getD 0 + (entries.map fun entry => if entry.1 = query then entry.2 else 0).sum := by
  induction entries generalizing dict with
  | nil => simp
  | cons entry rest ih =>
      rw [List.map_cons, List.nodup_cons] at distinct
      have later : ∀ other ∈ rest, Dict.get other.1 (Dict.put entry.1 entry.2 dict) = none := by
        intro other member
        have different : other.1 ≠ entry.1 := fun same => distinct.1 (List.mem_map.mpr ⟨other, member, same⟩)
        rw [dict_get_put, if_neg different]
        exact fresh other (List.mem_cons_of_mem entry member)
      rw [List.foldl_cons, ih _ distinct.2 later, dict_get_put, List.map_cons, List.sum_cons]
      by_cases same : query = entry.1
      · have absent := fresh entry List.mem_cons_self
        rw [if_pos same, same, absent]
        simp
      · rw [if_neg same, if_neg (Ne.symm same)]
        omega

end Updates

end LlmperfOrchestrator.Tallies

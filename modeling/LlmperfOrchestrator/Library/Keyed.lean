import LlmperfOrchestrator.Library.Tables
import Mathlib.Data.List.Perm.Subperm
import Mathlib.Data.List.Nodup

set_option autoImplicit false

namespace LlmperfOrchestrator.Tables

section

variable {Key Row : Type} [DecidableEq Key]

-- A table with a primary key. Rows keep their insertion order; uniqueness of
-- the key is part of the type, so every row is the one its key reads.
structure Table (Key Row : Type) [DecidableEq Key] where
  rows : Dict Key Row
  unique : (Dict.keys rows).Nodup

namespace Table

def empty : Table Key Row := ⟨[], List.nodup_nil⟩

def get (key : Key) (table : Table Key Row) : Option Row := Dict.get key table.rows

def put (key : Key) (row : Row) (table : Table Key Row) : Table Key Row :=
  ⟨Dict.put key row table.rows, (dict_keys_put table.rows key row table.unique).1⟩

def pop (key : Key) (table : Table Key Row) : Table Key Row :=
  ⟨Dict.pop key table.rows, (dict_keys_pop table.rows key table.unique).1⟩

-- UPDATE over the whole table: every row is replaced under its key.
def update (change : Key → Row → Row) (table : Table Key Row) : Table Key Row :=
  ⟨table.rows.map fun entry => (entry.1, change entry.1 entry.2), by
    simpa [Dict.keys, Function.comp_def] using table.unique⟩

def insertAll (entries : List (Key × Row)) (table : Table Key Row) : Table Key Row :=
  entries.foldl (fun grown entry => grown.put entry.1 entry.2) table

def any (holds : Key → Row → Bool) (table : Table Key Row) : Bool := table.rows.any fun entry => holds entry.1 entry.2

def count (counted : Key → Row → Bool) (table : Table Key Row) : Nat :=
  total (fun entry => if counted entry.1 entry.2 then 1 else 0) table.rows

def filter (selected : Key → Row → Bool) (table : Table Key Row) : List (Key × Row) :=
  table.rows.filter fun entry => selected entry.1 entry.2

end Table

theorem dict_get_of_mem (dict : Dict Key Row) (key : Key) (row : Row) (unique : (Dict.keys dict).Nodup)
    (member : (key, row) ∈ dict) : Dict.get key dict = some row := by
  induction dict with
  | nil => cases member
  | cons entry rest ih =>
      obtain ⟨k, r⟩ := entry
      simp only [Dict.keys, List.map_cons, List.nodup_cons] at unique
      rcases List.mem_cons.mp member with here | there
      · cases here
        simp [Dict.get]
      · have different : k ≠ key := fun same => unique.1 (List.mem_map.mpr ⟨_, there, same.symm⟩)
        simp only [Dict.get, if_neg different]
        exact ih unique.2 there

variable (table : Table Key Row)

theorem table_mem (key : Key) (row : Row) :
    (key, row) ∈ table.rows ↔ table.get key = some row :=
  ⟨dict_get_of_mem table.rows key row table.unique, dict_get_mem table.rows key row⟩

@[simp] theorem table_get_empty (key : Key) : (Table.empty : Table Key Row).get key = none := rfl

variable (key query : Key)

theorem table_get_put (row : Row) :
    (table.put key row).get query = if query = key then some row else table.get query :=
  dict_get_put table.rows key query row

@[simp] theorem table_get_put_self (key : Key) (row : Row) : (table.put key row).get key = some row := by
  simp [table_get_put]

theorem table_get_put_other (row : Row) (other : query ≠ key) : (table.put key row).get query = table.get query := by
  simp [table_get_put, other]

theorem table_get_pop :
    (table.pop key).get query = if query = key then none else table.get query := dict_get_pop table.rows key query

theorem table_put_cases (fresh row : Row) (read : (table.put key fresh).get query = some row) :
    (query = key ∧ row = fresh) ∨ (query ≠ key ∧ table.get query = some row) := by
  rw [table_get_put] at read
  split at read
  · rename_i same
    exact .inl ⟨same, (Option.some.inj read).symm⟩
  · rename_i other
    exact .inr ⟨other, read⟩

theorem table_put_absent (fresh : Row) (absent : (table.put key fresh).get query = none) : query ≠ key ∧ table.get query = none := by
  rw [table_get_put] at absent
  split at absent
  · cases absent
  · rename_i other
    exact ⟨other, absent⟩

theorem table_get_put_map (old fresh : Row) (read : table.get key = some old) :
    (table.put key fresh).get query = (table.get query).map fun row => if query = key then fresh else row := by
  by_cases same : query = key
  · subst same
    simp [read]
  · simp [table_get_put, same]

@[simp] theorem table_get_update (change : Key → Row → Row) (key : Key) :
    (table.update change).get key = (table.get key).map (change key) := dict_get_map change table.rows key

theorem table_get_insert_all (entries : List (Key × Row)) (table : Table Key Row) (query : Key)
    (absent : query ∉ entries.map Prod.fst) : (table.insertAll entries).get query = table.get query := by
  induction entries generalizing table with
  | nil => rfl
  | cons entry rest ih =>
      simp only [List.map_cons, List.mem_cons, not_or] at absent
      show ((table.put entry.1 entry.2).insertAll rest).get query = table.get query
      rw [ih (table.put entry.1 entry.2) absent.2, table_get_put_other table entry.1 query entry.2 absent.1]

theorem table_insert_all_new (entries : List (Key × Row)) (table : Table Key Row) (query : Key) (row : Row)
    (read : (table.insertAll entries).get query = some row) : (query, row) ∈ entries ∨ table.get query = some row := by
  induction entries generalizing table with
  | nil => exact .inr read
  | cons entry rest ih =>
      rcases ih (table.put entry.1 entry.2) read with later | here
      · exact .inl (List.mem_cons_of_mem _ later)
      · by_cases same : query = entry.1
        · rw [same, table_get_put_self] at here
          cases here
          exact .inl (same ▸ List.mem_cons_self)
        · exact .inr ((table_get_put_other table entry.1 query entry.2 same).symm.trans here)

theorem table_any (holds : Key → Row → Bool) : table.any holds = true ↔ ∃ key row, table.get key = some row ∧ holds key row = true := by
  simp only [Table.any, List.any_eq_true]
  constructor
  · rintro ⟨⟨key, row⟩, member, held⟩
    exact ⟨key, row, (table_mem table key row).mp member, held⟩
  · rintro ⟨key, row, read, held⟩
    exact ⟨(key, row), (table_mem table key row).mpr read, held⟩

theorem table_count_put (counted : Key → Row → Bool) (key : Key) (old fresh : Row) (read : table.get key = some old) :
    (table.put key fresh).count counted + (if counted key old then 1 else 0) =
      table.count counted + (if counted key fresh then 1 else 0) := by
  have change := dict_total_put (fun entry => if counted entry.1 entry.2 then 1 else 0) table.rows key fresh
  have found : Dict.get key table.rows = some old := read
  simpa only [Table.count, Table.put, found, Option.elim] using change

theorem table_count_pop (counted : Key → Row → Bool) (key : Key) (row : Row) (read : table.get key = some row) :
    (table.pop key).count counted + (if counted key row then 1 else 0) = table.count counted := by
  have change := dict_total_pop (fun entry => if counted entry.1 entry.2 then 1 else 0) table.rows key table.unique
  have found : Dict.get key table.rows = some row := read
  simpa only [Table.count, Table.pop, found, Option.elim] using change

theorem table_filter (selected : Key → Row → Bool) (key : Key) (row : Row) :
    (key, row) ∈ table.filter selected ↔ table.get key = some row ∧ selected key row = true := by
  simp only [Table.filter, List.mem_filter, table_mem]

theorem table_count_le (counted : Key → Row → Bool) (keys : List Key)
    (covered : ∀ key row, table.get key = some row → counted key row = true → key ∈ keys) : table.count counted ≤ keys.length := by
  have weights : table.count counted = (Dict.keys (table.filter counted)).length := by
    rw [Table.count, Dict.keys, List.length_map, Table.filter]
    induction table.rows with
    | nil => rfl
    | cons entry rest ih =>
        rw [total_cons, ih, List.filter_cons]
        split <;> simp [Nat.add_comm]
  have unique : (Dict.keys (table.filter counted)).Nodup :=
    table.unique.sublist (List.Sublist.map Prod.fst List.filter_sublist)
  rw [weights]
  refine (unique.subperm fun key member => ?_).length_le
  obtain ⟨⟨_, row⟩, listed, rfl⟩ := List.mem_map.mp member
  obtain ⟨read, chosen⟩ := (table_filter table counted _ row).mp listed
  exact covered _ row read chosen

theorem table_column {Value : Type} (table : Table Key Row) (selected : Key → Row → Bool) (column : Row → Value) (value : Value) :
    value ∈ (table.filter selected).map (fun entry => column entry.2) ↔
      ∃ key row, table.get key = some row ∧ selected key row = true ∧ column row = value := by
  rw [List.mem_map]
  constructor
  · intro found
    obtain ⟨⟨key, row⟩, member, same⟩ := found
    obtain ⟨read, chosen⟩ := (table_filter table selected key row).mp member
    exact ⟨key, row, read, chosen, same⟩
  · intro found
    obtain ⟨key, row, read, chosen, same⟩ := found
    exact ⟨(key, row), (table_filter table selected key row).mpr ⟨read, chosen⟩, same⟩

end

section Joins

variable {Left Right : Type}

-- Relational expressions. A missing column value is none.

-- IS DISTINCT FROM compares NULL like a value of its own, so it is never unknown.
def isDistinctFrom {Value : Type} [DecidableEq Value] (a b : Option Value) : Bool := a ≠ b

-- A left row without a partner stays, with NULL in place of one.
def leftJoin (on : Left → Right → Bool) (lefts : List Left) (rights : List Right) : List (Left × Option Right) :=
  lefts.flatMap fun left =>
    match rights.filter (on left) with
    | [] => [(left, none)]
    | partners => partners.map fun right => (left, some right)

theorem left_join_cons (on : Left → Right → Bool) (left : Left) (lefts : List Left) (rights : List Right) :
    leftJoin on (left :: lefts) rights = leftJoin on [left] rights ++ leftJoin on lefts rights := by
  simp [leftJoin]

theorem left_join_any (on : Left → Right → Bool) (holds : Option Right → Bool) (partner : Left → Option Right)
    (lefts : List Left) (rights : List Right)
    (single : ∀ left ∈ lefts, rights.filter (on left) = (partner left).toList) :
    (leftJoin on lefts rights).any (fun row => holds row.2) = lefts.any fun left => holds (partner left) := by
  induction lefts with
  | nil => rfl
  | cons left lefts ih =>
      have here : (leftJoin on [left] rights).any (fun row => holds row.2) = holds (partner left) := by
        rw [leftJoin, List.flatMap_cons, List.flatMap_nil, List.append_nil, single left List.mem_cons_self]
        cases partner left with
        | none => simp
        | some right => simp
      rw [left_join_cons, List.any_append, here, List.any_cons,
        ih fun other member => single other (List.mem_cons_of_mem left member)]

end Joins

section Collections

variable {Key Value Row : Type}

theorem collect_keys (entry : Row → Option (Key × Value)) (key : Row → Key) (rows : List Row)
    (keyed : ∀ row found, entry row = some found → found.1 = key row) :
    (Dict.keys (rows.filterMap entry)).Sublist (rows.map key) := by
  induction rows with
  | nil => exact .slnil
  | cons row rest ih =>
      cases made : entry row with
      | none =>
          rw [List.filterMap_cons_none made]
          exact ih.cons (key row)
      | some found =>
          rw [List.filterMap_cons_some made, Dict.keys, List.map_cons, List.map_cons, keyed row found made]
          exact ih.cons_cons (key row)

variable [DecidableEq Key]

theorem dict_put_all (entries dict : Dict Key Value) (unique : (Dict.keys (dict ++ entries)).Nodup) :
    entries.foldl (fun grown entry => Dict.put entry.1 entry.2 grown) dict = dict ++ entries := by
  induction entries generalizing dict with
  | nil => exact (List.append_nil dict).symm
  | cons entry rest ih =>
      have absent : Dict.get entry.1 dict = none := by
        apply dict_get_absent
        intro known
        rw [Dict.keys, List.map_append, List.map_cons] at unique
        exact (List.nodup_append'.mp unique).2.2 known List.mem_cons_self
      rw [List.foldl_cons, dict_put_absent dict entry.1 entry.2 absent, ih]
      · rw [List.append_assoc]
        rfl
      · rw [List.append_assoc]
        exact unique

theorem collect_get (entry : Row → Option (Key × Value)) (key : Row → Key) (rows : List Row)
    (keyed : ∀ row found, entry row = some found → found.1 = key row) (unique : (rows.map key).Nodup)
    (query : Key) (value : Value) :
    Dict.get query (Dict.collect entry rows) = some value ↔ ∃ row ∈ rows, entry row = some (query, value) := by
  have nodup : (Dict.keys (rows.filterMap entry)).Nodup := (collect_keys entry key rows keyed).nodup unique
  have same : Dict.collect entry rows = rows.filterMap entry := dict_put_all (rows.filterMap entry) [] nodup
  rw [same]
  constructor
  · intro found
    exact List.mem_filterMap.mp (dict_get_mem _ query value found)
  · intro made
    exact dict_get_of_mem _ query value nodup (List.mem_filterMap.mpr made)

end Collections

end LlmperfOrchestrator.Tables

import Mathlib.Algebra.Order.Ring.Nat
import Mathlib.Data.List.Basic

set_option autoImplicit false

namespace LlmperfOrchestrator.Tables

section Rows

variable {Row : Type}

def total (weight : Row → Nat) (rows : List Row) : Nat := (rows.map weight).sum

variable (weight : Row → Nat)

@[simp] theorem total_nil : total weight [] = 0 := rfl

@[simp] theorem total_cons (row : Row) (rows : List Row) : total weight (row :: rows) = weight row + total weight rows := by
  simp [total]

@[simp] theorem total_append (a b : List Row) : total weight (a ++ b) = total weight a + total weight b := by
  simp [total]

theorem weight_le_total (rows : List Row) (row : Row) (member : row ∈ rows) : weight row ≤ total weight rows := by
  induction member with
  | head rest =>
      rw [total_cons]
      exact Nat.le_add_right _ _
  | tail first _ ih =>
      rw [total_cons]
      exact Nat.le_trans ih (Nat.le_add_left _ _)

theorem total_set (rows : List Row) (index : Nat) (old fresh : Row) (read : rows[index]? = some old) :
    total weight (rows.set index fresh) + weight old = total weight rows + weight fresh := by
  induction rows generalizing index with
  | nil => simp at read
  | cons row rest ih =>
      cases index with
      | zero =>
          have same : row = old := by simpa using read
          simp only [List.set_cons_zero, total_cons, same]
          omega
      | succ n =>
          have deeper := ih n (by simpa using read)
          simp only [List.set_cons_succ, total_cons]
          omega

theorem total_congr (a b : Row → Nat) (rows : List Row) (same : ∀ row ∈ rows, a row = b row) :
    total a rows = total b rows := by
  simp only [total, List.map_congr_left same]

theorem total_map (change : Row → Row) (rows : List Row) (kept : ∀ row ∈ rows, weight (change row) = weight row) :
    total weight (rows.map change) = total weight rows := by
  rw [total, List.map_map]
  exact total_congr _ _ rows kept

theorem sum_flatMap {Group : Type} (items : Group → List Nat) (groups : List Group) :
    (groups.flatMap items).sum = (groups.map fun group => (items group).sum).sum := by
  induction groups with
  | nil => rfl
  | cons group rest ih => rw [List.flatMap_cons, List.sum_append, ih, List.map_cons, List.sum_cons]

theorem count_le_slack (counted : Row → Bool) (used held : Row → Nat) (rows : List Row)
    (slack : ∀ row ∈ rows, (if counted row then 1 else 0) + used row ≤ held row) :
    rows.countP counted + total used rows ≤ total held rows := by
  induction rows with
  | nil => simp
  | cons row rest ih =>
      have here := slack row (by simp)
      have later := ih fun other member => slack other (by simp [member])
      simp only [List.countP_cons, total_cons]
      omega

theorem mem_of_read (rows : List Row) (index : Nat) (row : Row) (read : rows[index]? = some row) : row ∈ rows :=
  List.mem_of_getElem? read

theorem forall_set (holds : Row → Prop) (rows : List Row) (index : Nat) (fresh : Row)
    (before : ∀ row ∈ rows, holds row) (here : holds fresh) : ∀ row ∈ rows.set index fresh, holds row := by
  intro row member
  rcases List.mem_or_eq_of_mem_set member with old | same
  · exact before row old
  · exact same ▸ here

theorem forall_append (holds : Row → Prop) (rows : List Row) (fresh : Row)
    (before : ∀ row ∈ rows, holds row) (here : holds fresh) : ∀ row ∈ rows ++ [fresh], holds row := by
  intro row member
  rcases List.mem_append.mp member with old | same
  · exact before row old
  · exact List.mem_singleton.mp same ▸ here

end Rows

section Dicts

variable {Key Value : Type} [DecidableEq Key]

-- An insertion-ordered dictionary. Assigning to a present key keeps its place,
-- a new key goes to the end.
abbrev Dict (Key Value : Type) := List (Key × Value)

def Dict.get (key : Key) : Dict Key Value → Option Value
  | [] => none
  | (k, v) :: rest => if k = key then some v else Dict.get key rest

def Dict.put (key : Key) (value : Value) : Dict Key Value → Dict Key Value
  | [] => [(key, value)]
  | (k, v) :: rest => if k = key then (key, value) :: rest else (k, v) :: Dict.put key value rest

def Dict.pop (key : Key) (dict : Dict Key Value) : Dict Key Value := dict.filter fun entry => entry.1 ≠ key

attribute [grind =] Dict.get Dict.put

def Dict.keys (dict : Dict Key Value) : List Key := dict.map Prod.fst

variable (dict : Dict Key Value)

theorem dict_get_put (key query : Key) (value : Value) :
    Dict.get query (Dict.put key value dict) = if query = key then some value else Dict.get query dict := by
  induction dict with
  | nil =>
      by_cases same : query = key
      · simp [Dict.put, Dict.get, same]
      · simp [Dict.put, Dict.get, same, Ne.symm same]
  | cons entry rest ih =>
      obtain ⟨k, v⟩ := entry
      by_cases here : k = key
      · subst here
        by_cases same : query = k
        · simp [Dict.put, Dict.get, same]
        · simp [Dict.put, Dict.get, same, Ne.symm same]
      · by_cases hit : k = query
        · subst hit
          simp [Dict.put, Dict.get, here]
        · simp only [Dict.put, if_neg here, Dict.get, if_neg hit, ih]

theorem dict_get_pop (key query : Key) : Dict.get query (Dict.pop key dict) = if query = key then none else Dict.get query dict := by
  induction dict with
  | nil => simp [Dict.pop, Dict.get]
  | cons entry rest ih =>
      obtain ⟨k, v⟩ := entry
      simp only [Dict.pop] at ih ⊢
      by_cases here : k = key
      · subst here
        by_cases same : query = k
        · subst same
          simpa [List.filter_cons, Dict.get] using ih
        · simpa [List.filter_cons, Dict.get, same, Ne.symm same] using ih
      · by_cases hit : k = query
        · subst hit
          simp [here, Dict.get]
        · simp only [List.filter_cons, here, ne_eq, not_false_eq_true, decide_true, if_true, Dict.get, if_neg hit, ih]

variable (key : Key)

theorem dict_get_mem (value : Value) (found : Dict.get key dict = some value) : (key, value) ∈ dict := by
  induction dict with
  | nil => simp [Dict.get] at found
  | cons entry rest ih =>
      obtain ⟨k, v⟩ := entry
      by_cases here : k = key
      · have same : v = value := by simpa [Dict.get, here] using found
        simp [here, same]
      · exact List.mem_cons_of_mem _ (ih (by simpa [Dict.get, here] using found))

theorem dict_get_map {Other : Type} (change : Key → Value → Other) (dict : Dict Key Value) (key : Key) :
    Dict.get key (dict.map fun entry => (entry.1, change entry.1 entry.2)) = (Dict.get key dict).map (change key) := by
  induction dict with
  | nil => rfl
  | cons entry rest ih =>
      obtain ⟨k, v⟩ := entry
      by_cases same : k = key
      · simp [Dict.get, same]
      · simp only [List.map_cons, Dict.get, if_neg same, ih]

theorem dict_put_mem (value : Value) (entry : Key × Value) (member : entry ∈ Dict.put key value dict) :
    entry = (key, value) ∨ entry ∈ dict := by
  induction dict with
  | nil => exact .inl (List.mem_singleton.mp member)
  | cons first rest ih =>
      obtain ⟨k, v⟩ := first
      by_cases here : k = key
      · simp only [Dict.put, if_pos here, List.mem_cons] at member
        exact member.imp_right (List.mem_cons_of_mem _)
      · simp only [Dict.put, if_neg here, List.mem_cons] at member
        rcases member with same | later
        · exact .inr (same ▸ List.mem_cons_self)
        · exact (ih later).imp_right (List.mem_cons_of_mem _)

def Dict.collect {Row : Type} (entry : Row → Option (Key × Value)) (rows : List Row) : Dict Key Value :=
  (rows.filterMap entry).foldl (fun dict found => Dict.put found.1 found.2 dict) []

theorem dict_collect_mem {Row : Type} (entry : Row → Option (Key × Value)) (rows : List Row) (found : Key × Value)
    (member : found ∈ Dict.collect entry rows) : ∃ row ∈ rows, entry row = some found := by
  have general : ∀ (entries : List (Key × Value)) (dict : Dict Key Value),
      found ∈ entries.foldl (fun dict found => Dict.put found.1 found.2 dict) dict → found ∈ entries ∨ found ∈ dict := by
    intro entries
    induction entries with
    | nil => exact fun _ held => .inr held
    | cons first rest ih =>
        intro dict held
        rcases ih _ held with later | placed
        · exact .inl (List.mem_cons_of_mem _ later)
        · rcases dict_put_mem dict first.1 first.2 found placed with same | older
          · exact .inl (same ▸ List.mem_cons_self)
          · exact .inr older
  rcases general _ [] member with listed | none
  · exact List.mem_filterMap.mp listed
  · cases none

theorem dict_keys_put (value : Value) (unique : (Dict.keys dict).Nodup) :
    (Dict.keys (Dict.put key value dict)).Nodup ∧
      ∀ query, query ∈ Dict.keys (Dict.put key value dict) ↔ query = key ∨ query ∈ Dict.keys dict := by
  induction dict with
  | nil => simp [Dict.put, Dict.keys]
  | cons entry rest ih =>
      obtain ⟨k, v⟩ := entry
      simp only [Dict.keys, List.map_cons, List.nodup_cons] at unique ih ⊢
      obtain ⟨absent, restUnique⟩ := unique
      obtain ⟨nextUnique, nextKeys⟩ := ih restUnique
      by_cases here : k = key
      · subst here
        simp only [Dict.put, if_true, List.map_cons, List.nodup_cons, List.mem_cons]
        exact ⟨⟨absent, restUnique⟩, fun query => by simp⟩
      · simp only [Dict.put, if_neg here, List.map_cons, List.nodup_cons, List.mem_cons, nextKeys]
        refine ⟨⟨fun bad => bad.elim here absent, nextUnique⟩, fun query => ?_⟩
        simp only [or_left_comm]

theorem dict_put_absent (value : Value) (absent : Dict.get key dict = none) : Dict.put key value dict = dict ++ [(key, value)] := by
  induction dict with
  | nil => rfl
  | cons entry rest ih =>
      obtain ⟨k, v⟩ := entry
      by_cases here : k = key
      · rw [Dict.get, if_pos here] at absent
        cases absent
      · rw [Dict.get, if_neg here] at absent
        rw [Dict.put, if_neg here, ih absent, List.cons_append]

theorem dict_keys_put_present (old value : Value) (found : Dict.get key dict = some old) :
    Dict.keys (Dict.put key value dict) = Dict.keys dict := by
  induction dict with
  | nil => cases found
  | cons entry rest ih =>
      obtain ⟨k, v⟩ := entry
      by_cases here : k = key
      · simp [Dict.put, Dict.keys, here]
      · rw [Dict.get, if_neg here] at found
        have later := ih found
        simp only [Dict.keys] at later
        simp only [Dict.put, if_neg here, Dict.keys, List.map_cons, later]

theorem dict_keys_pop (unique : (Dict.keys dict).Nodup) :
    (Dict.keys (Dict.pop key dict)).Nodup ∧
      ∀ query, query ∈ Dict.keys (Dict.pop key dict) ↔ query ∈ Dict.keys dict ∧ query ≠ key := by
  refine ⟨(List.filter_sublist.map Prod.fst).nodup unique, fun query => ?_⟩
  simp only [Dict.pop, Dict.keys, List.mem_map, List.mem_filter, decide_eq_true_eq]
  constructor
  · rintro ⟨entry, ⟨member, different⟩, rfl⟩
    exact ⟨⟨entry, member, rfl⟩, different⟩
  · rintro ⟨⟨entry, member, rfl⟩, different⟩
    exact ⟨entry, ⟨member, different⟩, rfl⟩

theorem dict_get_absent (absent : key ∉ Dict.keys dict) : Dict.get key dict = none := by
  cases found : Dict.get key dict with
  | none => rfl
  | some value => exact absurd (List.mem_map.mpr ⟨_, dict_get_mem dict key value found, rfl⟩) absent

theorem dict_key_get (value : Value) (found : Dict.get key dict = some value) :
    key ∈ Dict.keys dict := List.mem_map.mpr ⟨_, dict_get_mem dict key value found, rfl⟩

theorem dict_key_held : key ∈ Dict.keys dict ↔ Dict.get key dict ≠ none := by
  constructor
  · intro member absent
    obtain ⟨entry, listed, rfl⟩ := List.mem_map.mp member
    clear member
    induction dict with
    | nil => cases listed
    | cons head rest ih =>
        unfold Dict.get at absent
        split at absent
        · cases absent
        · rename_i other
          cases List.mem_cons.mp listed with
          | inl same => exact other (same ▸ rfl)
          | inr later => exact ih later absent
  · intro held
    obtain ⟨value, found⟩ := Option.ne_none_iff_exists'.mp held
    exact dict_key_get dict key value found

theorem dict_pop_absent (absent : Dict.get key dict = none) : Dict.pop key dict = dict := by
  refine List.filter_eq_self.mpr fun entry member => decide_eq_true fun same => ?_
  induction dict with
  | nil => cases member
  | cons first rest ih =>
      obtain ⟨k, v⟩ := first
      by_cases here : k = key
      · simp [Dict.get, here] at absent
      · rcases List.mem_cons.mp member with rfl | later
        · exact here same
        · exact ih (by simpa [Dict.get, here] using absent) later

theorem dict_get_filter (keep : Key → Bool) (key : Key) :
    Dict.get key (dict.filter fun entry => keep entry.1) = if keep key then Dict.get key dict else none := by
  induction dict with
  | nil => simp [Dict.get]
  | cons entry rest ih =>
      obtain ⟨k, v⟩ := entry
      by_cases same : k = key
      · subst same
        by_cases kept : keep k = true
        · simp [kept, Dict.get]
        · simpa [kept] using ih
      · by_cases kept : keep k = true
        · simpa [kept, Dict.get, same] using ih
        · simpa [kept, Dict.get, same] using ih

theorem dict_total_put (weight : Key × Value → Nat) (dict : Dict Key Value) (key : Key) (value : Value) :
    total weight (Dict.put key value dict) + (Dict.get key dict).elim 0 (fun old => weight (key, old)) =
      total weight dict + weight (key, value) := by
  induction dict with
  | nil => simp [Dict.put, Dict.get]
  | cons entry rest ih =>
      obtain ⟨k, v⟩ := entry
      by_cases here : k = key
      · subst here
        simp only [Dict.put, Dict.get, if_true, total_cons, Option.elim]
        omega
      · simp only [Dict.put, Dict.get, if_neg here, total_cons]
        omega

theorem dict_total_pop (weight : Key × Value → Nat) (dict : Dict Key Value) (key : Key) (unique : (Dict.keys dict).Nodup) :
    total weight (Dict.pop key dict) + (Dict.get key dict).elim 0 (fun old => weight (key, old)) = total weight dict := by
  induction dict with
  | nil => rfl
  | cons entry rest ih =>
      obtain ⟨k, v⟩ := entry
      simp only [Dict.keys, List.map_cons, List.nodup_cons] at unique
      have later := ih unique.2
      by_cases here : k = key
      · subst here
        rw [dict_get_absent rest k unique.1] at later
        simp only [Dict.pop, Dict.get, total_cons, Option.elim] at later ⊢
        simp only [ne_eq, List.filter_cons, not_true_eq_false, decide_false, Bool.false_eq_true, if_false, if_true] at later ⊢
        omega
      · simp only [Dict.pop, Dict.get, if_neg here, total_cons] at later ⊢
        simp only [ne_eq, List.filter_cons, here, not_false_eq_true, decide_true, if_true, total_cons] at later ⊢
        omega

def Dict.sum (dict : Dict Key Nat) : Nat := total Prod.snd dict

theorem dict_sum_put (dict : Dict Key Nat) (key : Key) (value : Nat) :
    Dict.sum (Dict.put key value dict) + (Dict.get key dict).getD 0 = Dict.sum dict + value := by
  have change := dict_total_put Prod.snd dict key value
  cases found : Dict.get key dict with
  | none => simpa [Dict.sum, found] using change
  | some old => simpa [Dict.sum, found] using change

theorem dict_sum_pop (dict : Dict Key Nat) (key : Key) (unique : (Dict.keys dict).Nodup) :
    Dict.sum (Dict.pop key dict) + (Dict.get key dict).getD 0 = Dict.sum dict := by
  have change := dict_total_pop Prod.snd dict key unique
  cases found : Dict.get key dict with
  | none => simpa [Dict.sum, found] using change
  | some old => simpa [Dict.sum, found] using change

end Dicts

end LlmperfOrchestrator.Tables

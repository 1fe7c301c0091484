import LlmperfOrchestrator.Library.Tables

set_option autoImplicit false

namespace LlmperfOrchestrator.Caches

open Tables

variable {Key Value : Type}

def evict (weight : Value → Nat) (maxCount : Nat) (maxWeight : Int) : Dict Key Value → Int → Dict Key Value × Int
  | first :: second :: rest, held =>
      if maxCount < (first :: second :: rest).length ∨ maxWeight < held then
        evict weight maxCount maxWeight (second :: rest) (held - weight first.2)
      else (first :: second :: rest, held)
  | dict, held => (dict, held)

-- Every cached value is one that its key stands for.
def Sound (stands : Key → Value → Prop) (dict : Dict Key Value) : Prop :=
  ∀ key value, (key, value) ∈ dict → stands key value

def weightOf (weight : Value → Nat) (dict : Dict Key Value) : Int := (total (fun entry => weight entry.2) dict : Nat)

structure Bounded (weight : Value → Nat) (maxCount : Nat) (maxWeight : Int) (dict : Dict Key Value) (held : Int) : Prop where
  unique : (Dict.keys dict).Nodup
  exact : held = weightOf weight dict
  few : dict.length ≤ maxCount
  light : held ≤ maxWeight ∨ dict.length ≤ 1

variable (stands : Key → Value → Prop)

theorem perm_sound (dict other : Dict Key Value) (same : other.Perm dict) (sound : Sound stands dict) :
    Sound stands other := fun key value member => sound key value (same.mem_iff.mp member)

variable (weight : Value → Nat)

theorem perm_bounded (maxCount : Nat) (maxWeight : Int) (dict other : Dict Key Value) (held : Int) (same : other.Perm dict)
    (bounded : Bounded weight maxCount maxWeight dict held) : Bounded weight maxCount maxWeight other held := by
  refine ⟨(same.map Prod.fst).nodup_iff.mpr bounded.unique, ?_, same.length_eq.trans_le bounded.few, ?_⟩
  · rw [bounded.exact, weightOf, weightOf, total, total, (same.map _).sum_nat]
  · rw [same.length_eq]
    exact bounded.light

theorem evict_suffix (maxCount : Nat) (maxWeight : Int) (dict : Dict Key Value) (held : Int) :
    (evict weight maxCount maxWeight dict held).1 <:+ dict := by
  induction dict generalizing held with
  | nil => exact List.suffix_refl _
  | cons first rest ih =>
      cases rest with
      | nil => exact List.suffix_refl _
      | cons second rest =>
          rw [evict]
          split
          · exact (ih _).trans (List.suffix_cons _ _)
          · exact List.suffix_refl _

theorem evict_held (maxCount : Nat) (maxWeight : Int) (dict : Dict Key Value) (held : Int) (exact : held = weightOf weight dict) :
    (evict weight maxCount maxWeight dict held).2 = weightOf weight (evict weight maxCount maxWeight dict held).1 := by
  induction dict generalizing held with
  | nil => exact exact
  | cons first rest ih =>
      cases rest with
      | nil => exact exact
      | cons second rest =>
          rw [evict]
          split
          · apply ih
            rw [exact, weightOf, weightOf, total_cons]
            push_cast
            omega
          · exact exact

theorem evict_light (maxCount : Nat) (maxWeight : Int) (dict : Dict Key Value) (held : Int) (some_ : 1 ≤ maxCount) :
    (evict weight maxCount maxWeight dict held).1.length ≤ maxCount ∧
      ((evict weight maxCount maxWeight dict held).2 ≤ maxWeight ∨ (evict weight maxCount maxWeight dict held).1.length ≤ 1) := by
  induction dict generalizing held with
  | nil => exact ⟨Nat.zero_le _, .inr (Nat.zero_le _)⟩
  | cons first rest ih =>
      cases rest with
      | nil => exact ⟨some_, .inr (Nat.le_refl 1)⟩
      | cons second rest =>
          rw [evict]
          split
          · exact ih _
          · rename_i fits
            push Not at fits
            exact ⟨fits.1, .inl fits.2⟩

theorem suffix_sound (dict other : Dict Key Value) (tail : other <:+ dict) (sound : Sound stands dict) :
    Sound stands other := fun key value member => sound key value (tail.mem member)

variable (dict : Dict Key Value)

theorem insert_sound (sound : Sound stands dict) (key : Key) (value : Value) (known : stands key value) :
    Sound stands (dict ++ [(key, value)]) := by
  intro query found member
  rcases List.mem_append.mp member with old | fresh
  · exact sound query found old
  · cases List.mem_singleton.mp fresh
    exact known

variable [DecidableEq Key]

def moveToEnd (key : Key) (dict : Dict Key Value) : Dict Key Value :=
  match Dict.get key dict with
  | none => dict
  | some value => Dict.pop key dict ++ [(key, value)]

theorem split_keys (key : Key) (value : Value) (unique : (Dict.keys dict).Nodup) (found : Dict.get key dict = some value) :
    (Dict.pop key dict ++ [(key, value)]).Perm dict := by
  induction dict with
  | nil => cases found
  | cons entry rest ih =>
      obtain ⟨first, held⟩ := entry
      rw [Dict.keys, List.map_cons, List.nodup_cons] at unique
      by_cases here : first = key
      · have same : held = value := by simpa [Dict.get, here] using found
        have absent : Dict.pop key rest = rest := by
          refine List.filter_eq_self.mpr fun entry member => decide_eq_true fun same => unique.1 ?_
          exact List.mem_map.mpr ⟨entry, member, same.trans here.symm⟩
        rw [Dict.pop, List.filter_cons, if_neg (by simp [here]), ← Dict.pop, absent, here, same]
        exact List.perm_append_singleton (key, value) rest
      · rw [Dict.pop, List.filter_cons, if_pos (by simpa using here), List.cons_append]
        exact (ih unique.2 (by simpa [Dict.get, here] using found)).cons _

theorem move_to_end_perm (key : Key) (dict : Dict Key Value) (unique : (Dict.keys dict).Nodup) :
    (moveToEnd key dict).Perm dict := by
  rw [moveToEnd]
  cases found : Dict.get key dict with
  | none => exact List.Perm.refl dict
  | some value => exact split_keys dict key value unique found

theorem sound_get (sound : Sound stands dict) (key : Key) (value : Value) (found : Dict.get key dict = some value) :
    stands key value := sound key value (dict_get_mem dict key value found)

theorem insert_unique (key : Key) (value : Value) (unique : (Dict.keys dict).Nodup) (absent : Dict.get key dict = none) :
    (Dict.keys (dict ++ [(key, value)])).Nodup := by
  rw [← dict_put_absent dict key value absent]
  exact (dict_keys_put dict key value unique).1

theorem insert_bounded (maxCount : Nat) (maxWeight : Int) (dict : Dict Key Value) (held : Int) (some_ : 1 ≤ maxCount)
    (bounded : Bounded weight maxCount maxWeight dict held) (key : Key) (value : Value) (absent : Dict.get key dict = none) :
    Bounded weight maxCount maxWeight (evict weight maxCount maxWeight (dict ++ [(key, value)]) (held + weight value)).1
      (evict weight maxCount maxWeight (dict ++ [(key, value)]) (held + weight value)).2 := by
  have tail := evict_suffix weight maxCount maxWeight (dict ++ [(key, value)]) (held + weight value)
  obtain ⟨few, light⟩ := evict_light weight maxCount maxWeight (dict ++ [(key, value)]) (held + weight value) some_
  refine ⟨?_, ?_, few, light⟩
  · exact (insert_unique dict key value bounded.unique absent).sublist (tail.sublist.map Prod.fst)
  · apply evict_held
    rw [bounded.exact, weightOf, weightOf, total_append]
    simp

end LlmperfOrchestrator.Caches

import LlmperfOrchestrator.Library.Outcomes
import Mathlib.Algebra.Order.Group.Int.Sum
import Mathlib.Tactic.Linarith

set_option autoImplicit false

namespace LlmperfOrchestrator.Loads

open Outcomes

variable {Error State Item Part : Type} (step : State → Item → Except Error State)

theorem fold_raises (read : State → Int) (amount : Part → Nat) (related : Item → Part → Prop) (items : List Item)
    (parts : List Part) (matched : List.Forall₂ related items parts)
    (raises : ∀ state item part next, item ∈ items → related item part → step state item = .ok next → read state + amount part ≤ read next)
    (state last : State) (done : items.foldlM step state = .ok last) : read state + ((parts.map amount).sum : Nat) ≤ read last := by
  induction matched generalizing state with
  | nil =>
      cases (fold_nil step state last).mp done
      simp
  | @cons item part items parts here _ ih =>
      obtain ⟨next, taken, later⟩ := (fold_ok step state last item items).mp done
      have first := raises state item part next List.mem_cons_self here taken
      have rest := ih (fun state other part next member => raises state other part next (List.mem_cons_of_mem item member))
        next later
      rw [List.map_cons, List.sum_cons, Nat.cast_add]
      linarith

theorem fold_grows (read : State → Int) (items : List Item)
    (grows : ∀ state item next, step state item = .ok next → read state ≤ read next) (state last : State)
    (done : items.foldlM step state = .ok last) : read state ≤ read last := by
  induction items generalizing state with
  | nil =>
      cases (fold_nil step state last).mp done
      exact le_refl _
  | cons item rest ih =>
      obtain ⟨next, taken, later⟩ := (fold_ok step state last item rest).mp done
      exact (grows state item next taken).trans (ih next later)

theorem fold_reaches (read : State → Int) (items : List Item)
    (grows : ∀ state item next, step state item = .ok next → read state ≤ read next) (state last : State)
    (done : items.foldlM step state = .ok last) (item : Item) (member : item ∈ items) :
    ∃ before after, step before item = .ok after ∧ read after ≤ read last := by
  induction items generalizing state with
  | nil => cases member
  | cons first rest ih =>
      obtain ⟨next, taken, later⟩ := (fold_ok step state last first rest).mp done
      rcases List.mem_cons.mp member with rfl | inRest
      · exact ⟨state, next, taken, fold_grows step read rest grows next last later⟩
      · exact ih next later inRest

theorem fold_light (width : State → Int) (size load : Part → Nat) (related : Item → Part → Prop) (items : List Item)
    (parts : List Part) (matched : List.Forall₂ related items parts)
    (grows : ∀ state item next, step state item = .ok next → width state ≤ width next)
    (light : ∀ state item part next, item ∈ items → related item part → step state item = .ok next → (load part : Int) ≤ size part * width next)
    (state last : State) (done : items.foldlM step state = .ok last) :
    ((parts.map load).sum : Int) ≤ (parts.map size).sum * width last := by
  induction matched generalizing state with
  | nil => simp
  | @cons item part items parts here _ ih =>
      obtain ⟨next, taken, later⟩ := (fold_ok step state last item items).mp done
      have first := light state item part next List.mem_cons_self here taken
      have rest := ih (fun state other part next member => light state other part next (List.mem_cons_of_mem item member))
        next later
      have wider := fold_grows step width items grows next last later
      have scaled := mul_le_mul_of_nonneg_left wider (Int.natCast_nonneg (size part))
      simp only [List.map_cons, List.sum_cons]
      push_cast at rest ⊢
      rw [add_mul]
      linarith

theorem zip_matched {Source : Type} (related : Source → Part → Prop) (seen : Source → Item) (sources : List Source)
    (parts : List Part) (matched : List.Forall₂ related sources parts) :
    List.Forall₂ (fun item (pair : Source × Part) => item = seen pair.1 ∧ related pair.1 pair.2) (sources.map seen)
      (sources.zip parts) := by
  induction matched with
  | nil => exact .nil
  | cons here _ ih => exact .cons ⟨rfl, here⟩ ih

end LlmperfOrchestrator.Loads

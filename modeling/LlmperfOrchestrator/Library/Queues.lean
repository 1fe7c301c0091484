import LlmperfOrchestrator.Library.Runs
import LlmperfOrchestrator.Library.Tables
import Mathlib.Data.List.Nodup
import Mathlib.Data.List.Perm.Basic

set_option autoImplicit false

namespace LlmperfOrchestrator.Queues

open Runs

variable {State Event Item : Type}

def collected (step : State → Event → Option State) (read : State → Event → Option Item) : State → List Event → List Item
  | _, [] => []
  | state, event :: rest => (read state event).toList ++ (step state event).elim [] fun next => collected step read next rest

variable (step : State → Event → Option State)

theorem collected_cons (read : State → Event → Option Item) (state next : State) (event : Event) (rest : List Event)
    (taken : step state event = some next) :
    collected step read state (event :: rest) = (read state event).toList ++ collected step read next rest := by
  rw [collected, taken]
  rfl

theorem served_in_order (inv : State → Prop) (queue : State → List Item) (served arrived : State → Event → Option Item)
    (keeps : ∀ state event next, inv state → step state event = some next → inv next)
    (passes : ∀ state event next, inv state → step state event = some next → ((served state event).toList ++ queue next).Sublist (queue state ++ (arrived state event).toList))
    (events : List Event) (state last : State) (start : inv state) (reached : run step state events = some last) :
    (collected step served state events ++ queue last).Sublist (queue state ++ collected step arrived state events) := by
  induction events generalizing state with
  | nil =>
      cases Option.some.inj reached
      rw [collected, collected, List.nil_append, List.append_nil]
  | cons event rest ih =>
      obtain ⟨next, taken, remaining⟩ := (run_cons step state last event rest).mp reached
      have later := ih next (keeps state event next start taken) remaining
      have here := passes state event next start taken
      rw [collected_cons step served state next event rest taken, collected_cons step arrived state next event rest taken,
        List.append_assoc, ← List.append_assoc (queue state)]
      have first : ((served state event).toList ++ (collected step served next rest ++ queue last)).Sublist
          ((served state event).toList ++ (queue next ++ collected step arrived next rest)) :=
        (List.Sublist.refl _).append later
      refine first.trans ?_
      rw [← List.append_assoc]
      exact here.append (List.Sublist.refl _)

theorem collected_nodup (read : State → Event → Option Item) (past : State → Item → Prop)
    (stays : ∀ state event next item, past state item → step state event = some next → past next item)
    (fires : ∀ state event item, read state event = some item → ¬ past state item)
    (ends : ∀ state event next item, read state event = some item → step state event = some next → past next item)
    (events : List Event) (state : State) :
    (collected step read state events).Nodup ∧ ∀ item ∈ collected step read state events, ¬ past state item := by
  induction events generalizing state with
  | nil => exact ⟨List.nodup_nil, fun item listed => by cases listed⟩
  | cons event rest ih =>
      cases taken : step state event with
      | none =>
          rw [collected, taken, Option.elim_none, List.append_nil]
          cases fired : read state event with
          | none => exact ⟨List.nodup_nil, fun item listed => by cases listed⟩
          | some item =>
              refine ⟨List.nodup_singleton item, ?_⟩
              intro other listed
              rw [List.mem_singleton.mp listed]
              exact fires state event item fired
      | some next =>
          obtain ⟨unique, fresh⟩ := ih next
          rw [collected_cons step read state next event rest taken]
          have before : ∀ item ∈ collected step read next rest, ¬ past state item :=
            fun item listed earlier => fresh item listed (stays state event next item earlier taken)
          cases fired : read state event with
          | none => exact ⟨unique, before⟩
          | some item =>
              constructor
              · rw [Option.toList_some, List.singleton_append, List.nodup_cons]
                exact ⟨fun listed => fresh item listed (ends state event next item fired taken), unique⟩
              · intro other listed
                rcases List.mem_cons.mp listed with same | later
                · rw [same]
                  exact fires state event item fired
                · exact before other later

end LlmperfOrchestrator.Queues

namespace LlmperfOrchestrator.KeyedQueues

open Tables

variable {Key Item : Type} [DecidableEq Key]

def items (queues : Dict Key (List Item)) : List Item := queues.flatMap Prod.snd

def queueOf (key : Key) (queues : Dict Key (List Item)) : List Item := (Dict.get key queues).getD []

omit [DecidableEq Key] in
theorem items_length (queues : Dict Key (List Item)) : (items queues).length = total (fun entry => entry.2.length) queues := by
  rw [items, List.length_flatMap]
  rfl

theorem items_put (queues : Dict Key (List Item)) (key : Key) (queue : List Item) :
    (items (Dict.put key queue queues) ++ queueOf key queues).Perm (queue ++ items queues) := by
  induction queues with
  | nil => simp [items, Dict.put, queueOf, Dict.get]
  | cons entry rest ih =>
      obtain ⟨k, old⟩ := entry
      by_cases here : k = key
      · simp only [items, queueOf, Dict.put, Dict.get, if_pos here, List.flatMap_cons, Option.getD_some, List.append_assoc]
        exact (List.perm_append_comm).append_left queue
      · simp only [items, queueOf, Dict.put, Dict.get, if_neg here, List.flatMap_cons, List.append_assoc] at ih ⊢
        exact (ih.append_left old).trans (List.perm_append_comm_assoc _ _ _)

theorem items_pop (queues : Dict Key (List Item)) (key : Key) (unique : (Dict.keys queues).Nodup) :
    (items (Dict.pop key queues) ++ queueOf key queues).Perm (items queues) := by
  induction queues with
  | nil => simp [items, Dict.pop, queueOf, Dict.get]
  | cons entry rest ih =>
      obtain ⟨k, old⟩ := entry
      simp only [Dict.keys, List.map_cons, List.nodup_cons] at unique
      have later := ih unique.2
      by_cases here : k = key
      · subst here
        have absent := dict_get_absent rest k unique.1
        rw [queueOf, absent, Option.getD_none, List.append_nil] at later
        simp only [items, Dict.pop, queueOf, Dict.get, if_true, Option.getD_some] at later ⊢
        simp only [ne_eq, List.filter_cons, not_true_eq_false, decide_false, Bool.false_eq_true, if_false, List.flatMap_cons]
        exact (later.append_right old).trans List.perm_append_comm
      · simp only [items, Dict.pop, queueOf, Dict.get, if_neg here] at later ⊢
        simp only [ne_eq, List.filter_cons, here, not_false_eq_true, decide_true, if_true, List.flatMap_cons, List.append_assoc]
        exact later.append_left old

end LlmperfOrchestrator.KeyedQueues

import LlmperfOrchestrator.Library.Queues
import LlmperfOrchestrator.Library.Rings
import LlmperfOrchestrator.Runtime.CoordinatorSteps

set_option autoImplicit false

namespace LlmperfOrchestrator.Runtime

open Tables Runs Rings KeyedQueues Storage

-- The coordinator between its database calls: the Runners whose claim waits for
-- start_selected, and those it has handed out and not released.
structure ReadyQueue where
  coordinator : Coordinator
  claiming : List RunnerId
  running : List RunnerId
deriving DecidableEq, Repr

inductive ReadyEvent where
  | enqueue (rows : List (RunnerId × Option CampaignId))
  | materialized (instanceId : InstanceId)
  | claim
  | started (runner : RunnerId)
  | failed (runner : RunnerId)
  | release (runner : RunnerId)
deriving DecidableEq, Repr

namespace ReadyQueue

def fresh (capacity : Nat) : ReadyQueue := ⟨⟨[], [], [], none, capacity⟩, [], []⟩

-- A claim fails when start_selected returns None, raises or is cancelled. A
-- Runner is released once, when its execution ends.
def step (s : ReadyQueue) : ReadyEvent → Option ReadyQueue
  | .enqueue rows => some { s with coordinator := enqueueRunners s.coordinator rows }
  | .materialized instanceId => some { s with coordinator := { s.coordinator with lastMaterialized := some instanceId } }
  | .claim => (claimReady s.coordinator).map fun (coordinator, runnerId) =>
      { s with coordinator := coordinator, claiming := runnerId :: s.claiming }
  | .started runner =>
      if runner ∈ s.claiming then some { s with claiming := s.claiming.erase runner, running := runner :: s.running } else none
  | .failed runner =>
      if runner ∈ s.claiming then
        some { s with claiming := s.claiming.erase runner, coordinator := s.coordinator.discard runner }
      else none
  | .release runner =>
      if runner ∈ s.running then
        some { s with running := s.running.erase runner, coordinator := s.coordinator.discard runner }
      else none

def served (s : ReadyQueue) : ReadyEvent → Option String
  | .claim => (claimReady s.coordinator).bind fun _ => s.coordinator.order.head?
  | _ => none

end ReadyQueue

def queuedIds (coordinator : Coordinator) : List RunnerId := items coordinator.queues

structure QueueShape (coordinator : Coordinator) : Prop where
  keys : (Dict.keys coordinator.queues).Nodup
  ring : coordinator.order.Nodup
  listed : ∀ campaign, campaign ∈ coordinator.order ↔ campaign ∈ Dict.keys coordinator.queues
  filled : ∀ campaign queue, Dict.get campaign coordinator.queues = some queue → queue ≠ []
  bounded : coordinator.queued ≤ coordinator.readyCapacity

variable (coordinator : Coordinator)

theorem queued_length : coordinator.queued = (queuedIds coordinator).length :=
  (items_length coordinator.queues).symm

theorem enqueue_one_items (runner : RunnerId) (key : String) :
    (queuedIds (enqueueOne coordinator runner key)).Perm (runner :: queuedIds coordinator) := by
  have change := items_put coordinator.queues key (queueOf key coordinator.queues ++ [runner])
  have swapped : (queueOf key coordinator.queues ++ [runner]).Perm ([runner] ++ queueOf key coordinator.queues) := List.perm_append_comm
  have moved := change.trans (swapped.append_right _)
  rw [List.append_assoc, List.singleton_append] at moved
  exact (List.perm_append_right_iff (queueOf key coordinator.queues)).mp (moved.trans ((List.perm_append_comm).cons runner))

theorem enqueue_one_shape (runner : RunnerId) (key : String) (shape : QueueShape coordinator)
    (room : coordinator.queued < coordinator.readyCapacity) : QueueShape (enqueueOne coordinator runner key) := by
  obtain ⟨unique, keys⟩ := dict_keys_put coordinator.queues key ((Dict.get key coordinator.queues).getD [] ++ [runner]) shape.keys
  constructor
  · exact unique
  · by_cases known : key ∈ Dict.keys coordinator.queues
    · simp only [enqueueOne, if_pos known]
      exact shape.ring
    · simp only [enqueueOne, if_neg known]
      exact nodup_back _ key shape.ring fun listed => known ((shape.listed key).mp listed)
  · intro campaign
    rw [enqueueOne, keys]
    by_cases known : key ∈ Dict.keys coordinator.queues
    · simp only [if_pos known, shape.listed]
      constructor
      · exact .inr
      · rintro (same | old)
        · exact same ▸ known
        · exact old
    · simp only [if_neg known, List.mem_append, List.mem_singleton, shape.listed]
      exact Or.comm
  · intro campaign queue found
    simp only [enqueueOne, dict_get_put] at found
    by_cases same : campaign = key
    · rw [if_pos same] at found
      cases found
      simp
    · rw [if_neg same] at found
      exact shape.filled campaign queue found
  · have grown := (enqueue_one_items coordinator runner key).length_eq
    rw [queued_length] at room ⊢
    rw [grown, List.length_cons]
    exact room

theorem claim_ready_cases (coordinator next : Coordinator) (runner : RunnerId) (taken : claimReady coordinator = some (next, runner)) :
    ∃ campaign rest remaining, coordinator.order = campaign :: rest ∧
      Dict.get campaign coordinator.queues = some (runner :: remaining) ∧
      (remaining = [] ∧ next = { coordinator with queues := Dict.pop campaign coordinator.queues, order := rest } ∨
        remaining ≠ [] ∧
          next = { coordinator with queues := Dict.put campaign remaining coordinator.queues, order := rest ++ [campaign] }) := by
  unfold claimReady at taken
  split at taken
  · cases taken
  · rename_i campaign rest order
    split at taken
    · cases taken
    · cases taken
    · rename_i first remaining found
      by_cases last : remaining = []
      · rw [if_pos last] at taken
        cases taken
        exact ⟨campaign, rest, remaining, order, found, .inl ⟨last, rfl⟩⟩
      · rw [if_neg last] at taken
        cases taken
        exact ⟨campaign, rest, remaining, order, found, .inr ⟨last, rfl⟩⟩

theorem claim_ready_some (shape : QueueShape coordinator) (ready : coordinator.order ≠ []) :
    (claimReady coordinator).isSome = true := by
  cases order : coordinator.order with
  | nil => exact absurd order ready
  | cons campaign rest =>
      have known := (shape.listed campaign).mp (order ▸ List.mem_cons_self)
      obtain ⟨queue, found⟩ := Option.ne_none_iff_exists'.mp ((dict_key_held coordinator.queues campaign).mp known)
      cases queue with
      | nil => exact absurd rfl (shape.filled campaign [] found)
      | cons runner remaining =>
          by_cases last : remaining = []
          · simp [claimReady, order, found, last]
          · simp [claimReady, order, found, last]

theorem claim_ready_items (coordinator next : Coordinator) (runner : RunnerId) (shape : QueueShape coordinator)
    (taken : claimReady coordinator = some (next, runner)) : (queuedIds coordinator).Perm (runner :: queuedIds next) := by
  obtain ⟨campaign, rest, remaining, order, found, cases⟩ := claim_ready_cases coordinator next runner taken
  have queue : queueOf campaign coordinator.queues = runner :: remaining := by
    rw [queueOf, found]
    rfl
  rcases cases with ⟨last, rfl⟩ | ⟨_, rfl⟩
  · have change := items_pop coordinator.queues campaign shape.keys
    rw [queue, last] at change
    exact change.symm.trans (List.perm_append_singleton _ _)
  · have change := items_put coordinator.queues campaign remaining
    rw [queue] at change
    have swapped : (runner :: remaining ++ items (Dict.put campaign remaining coordinator.queues)).Perm
        (items (Dict.put campaign remaining coordinator.queues) ++ runner :: remaining) := List.perm_append_comm
    have moved := swapped.trans change
    exact ((List.perm_append_left_iff remaining).mp ((List.perm_middle.trans moved))).symm

theorem claim_ready_shape (coordinator next : Coordinator) (runner : RunnerId) (shape : QueueShape coordinator)
    (taken : claimReady coordinator = some (next, runner)) : QueueShape next := by
  have shrunk := (claim_ready_items coordinator next runner shape taken).length_eq
  have bounded := shape.bounded
  rw [List.length_cons, ← queued_length, ← queued_length] at shrunk
  obtain ⟨campaign, rest, remaining, order, found, cases⟩ := claim_ready_cases coordinator next runner taken
  have ring := shape.ring
  rw [order] at ring
  obtain ⟨apart, others⟩ := List.nodup_cons.mp ring
  have listed := shape.listed
  rw [order] at listed
  rcases cases with ⟨_, rfl⟩ | ⟨more, rfl⟩
  · obtain ⟨unique, keys⟩ := dict_keys_pop coordinator.queues campaign shape.keys
    constructor
    · exact unique
    · exact others
    · intro other
      rw [keys, ← listed other, List.mem_cons]
      constructor
      · intro later
        exact ⟨.inr later, fun same => apart (same ▸ later)⟩
      · rintro ⟨same | later, different⟩
        · exact absurd same different
        · exact later
    · intro other queue read
      rw [dict_get_pop] at read
      by_cases same : other = campaign
      · rw [if_pos same] at read
        cases read
      · rw [if_neg same] at read
        exact shape.filled other queue read
    · simp only at shrunk ⊢
      omega
  · obtain ⟨unique, keys⟩ := dict_keys_put coordinator.queues campaign remaining shape.keys
    constructor
    · exact unique
    · exact nodup_back rest campaign others apart
    · intro other
      rw [keys, ← listed other, List.mem_append, List.mem_singleton, List.mem_cons]
      constructor
      · rintro (later | same)
        · exact .inr (.inr later)
        · exact .inl same
      · rintro (same | same | later)
        · exact .inr same
        · exact .inr same
        · exact .inl later
    · intro other queue read
      rw [dict_get_put] at read
      by_cases same : other = campaign
      · rw [if_pos same] at read
        cases read
        exact more
      · rw [if_neg same] at read
        exact shape.filled other queue read
    · simp only at shrunk ⊢
      omega

end LlmperfOrchestrator.Runtime

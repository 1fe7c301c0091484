import LlmperfOrchestrator.Runtime.DependencySafety
import LlmperfOrchestrator.Runtime.ReadyQueue

set_option autoImplicit false

namespace LlmperfOrchestrator.Runtime

open Tables Runs Rings KeyedQueues Storage

structure ReadyInvariant (s : ReadyQueue) : Prop where
  shape : QueueShape s.coordinator
  accounted : s.coordinator.admitted.Perm (queuedIds s.coordinator ++ (s.claiming ++ s.running))
  distinct : s.coordinator.admitted.Nodup

variable (rows : List (RunnerId × Option CampaignId)) (coordinator : Coordinator)

theorem enqueue_runners_keeps (out : List RunnerId) (shape : QueueShape coordinator)
    (accounted : coordinator.admitted.Perm (queuedIds coordinator ++ out)) (distinct : coordinator.admitted.Nodup) :
    QueueShape (enqueueRunners coordinator rows) ∧
      (enqueueRunners coordinator rows).admitted.Perm (queuedIds (enqueueRunners coordinator rows) ++ out) ∧
      (enqueueRunners coordinator rows).admitted.Nodup := by
  induction rows generalizing coordinator with
  | nil => exact ⟨shape, accounted, distinct⟩
  | cons row rest ih =>
      obtain ⟨runner, campaign⟩ := row
      by_cases full : coordinator.readyCapacity ≤ coordinator.queued
      · rw [enqueueRunners, if_pos full]
        exact ⟨shape, accounted, distinct⟩
      · rw [enqueueRunners, if_neg full]
        by_cases known : runner ∈ coordinator.admitted
        · rw [if_pos known]
          exact ih coordinator shape accounted distinct
        · rw [if_neg known]
          have grown := (enqueue_one_items coordinator runner (queueKey runner campaign)).append_right out
          exact ih _ (enqueue_one_shape coordinator runner (queueKey runner campaign) shape (Nat.lt_of_not_le full))
            ((accounted.cons runner).trans grown.symm) (List.nodup_cons.mpr ⟨known, distinct⟩)

theorem enqueue_runners_order :
    coordinator.order <+: (enqueueRunners coordinator rows).order ∧
      ∀ runner ∈ coordinator.admitted, runner ∈ (enqueueRunners coordinator rows).admitted := by
  induction rows generalizing coordinator with
  | nil => exact ⟨List.prefix_refl _, fun _ member => member⟩
  | cons row rest ih =>
      obtain ⟨runner, campaign⟩ := row
      by_cases full : coordinator.readyCapacity ≤ coordinator.queued
      · rw [enqueueRunners, if_pos full]
        exact ⟨List.prefix_refl _, fun _ member => member⟩
      · rw [enqueueRunners, if_neg full]
        by_cases known : runner ∈ coordinator.admitted
        · rw [if_pos known]
          exact ih coordinator
        · rw [if_neg known]
          obtain ⟨longer, kept⟩ := ih (enqueueOne coordinator runner (queueKey runner campaign))
          refine ⟨?_, fun other member => kept other (List.mem_cons_of_mem runner member)⟩
          have first : coordinator.order <+: (enqueueOne coordinator runner (queueKey runner campaign)).order := by
            by_cases listed : queueKey runner campaign ∈ Dict.keys coordinator.queues
            · rw [enqueueOne, if_pos listed]
            · rw [enqueueOne, if_neg listed]
              exact List.prefix_append _ _
          exact first.trans longer

theorem discard_perm (runner : RunnerId) (others : List RunnerId) (distinct : coordinator.admitted.Nodup)
    (accounted : coordinator.admitted.Perm (runner :: others)) : (coordinator.discard runner).admitted.Perm others := by
  have erased : (coordinator.discard runner).admitted = coordinator.admitted.erase runner := by
    rw [distinct.erase_eq_filter]
    exact List.filter_congr fun other _ => by rw [Bool.eq_iff_iff]; simp
  rw [erased]
  have less := accounted.erase runner
  rwa [List.erase_cons_head] at less

theorem claiming_front (s : ReadyQueue) (inv : ReadyInvariant s) (runner : RunnerId) (member : runner ∈ s.claiming) :
    s.coordinator.admitted.Perm (runner :: (queuedIds s.coordinator ++ (s.claiming.erase runner ++ s.running))) := by
  have front := ((List.perm_cons_erase member).append_right s.running).append_left (queuedIds s.coordinator)
  exact inv.accounted.trans (front.trans List.perm_middle)

theorem running_front (s : ReadyQueue) (inv : ReadyInvariant s) (runner : RunnerId) (member : runner ∈ s.running) :
    s.coordinator.admitted.Perm (runner :: (queuedIds s.coordinator ++ (s.claiming ++ s.running.erase runner))) := by
  have front := (((List.perm_cons_erase member).append_left s.claiming).trans List.perm_middle).append_left (queuedIds s.coordinator)
  exact inv.accounted.trans (front.trans List.perm_middle)

theorem fresh_ready (capacity : Nat) : ReadyInvariant (.fresh capacity) := by
  constructor
  · constructor
    · exact List.nodup_nil
    · exact List.nodup_nil
    · exact fun campaign => .rfl
    · intro campaign queue found
      cases found
    · exact Nat.zero_le capacity
  · exact .refl _
  · exact List.nodup_nil

theorem discard_shape (runner : RunnerId) (shape : QueueShape coordinator) :
    QueueShape (coordinator.discard runner) := ⟨shape.keys, shape.ring, shape.listed, shape.filled, shape.bounded⟩

theorem ready_step (s : ReadyQueue) (event : ReadyEvent) (next : ReadyQueue) (inv : ReadyInvariant s)
    (taken : s.step event = some next) : ReadyInvariant next := by
  cases event with
  | enqueue rows =>
      cases taken
      obtain ⟨shape, accounted, distinct⟩ := enqueue_runners_keeps rows s.coordinator _ inv.shape inv.accounted inv.distinct
      exact ⟨shape, accounted, distinct⟩
  | materialized instanceId =>
      cases taken
      exact ⟨⟨inv.shape.keys, inv.shape.ring, inv.shape.listed, inv.shape.filled, inv.shape.bounded⟩, inv.accounted, inv.distinct⟩
  | claim =>
      obtain ⟨⟨coordinator, runner⟩, popped, rfl⟩ := Option.map_eq_some_iff.mp taken
      have items := claim_ready_items s.coordinator coordinator runner inv.shape popped
      have same : coordinator.admitted = s.coordinator.admitted := by
        obtain ⟨_, _, _, _, _, ⟨_, rfl⟩ | ⟨_, rfl⟩⟩ := claim_ready_cases s.coordinator coordinator runner popped
        · rfl
        · rfl
      have moved := items.append_right (s.claiming ++ s.running)
      refine ⟨claim_ready_shape s.coordinator coordinator runner inv.shape popped, ?_, same ▸ inv.distinct⟩
      rw [same]
      exact inv.accounted.trans (moved.trans List.perm_middle.symm)
  | started runner =>
      by_cases claimed : runner ∈ s.claiming
      · rw [ReadyQueue.step, if_pos claimed] at taken
        cases taken
        refine ⟨inv.shape, (claiming_front s inv runner claimed).trans ?_, inv.distinct⟩
        have back : (runner :: (s.claiming.erase runner ++ s.running)).Perm (s.claiming.erase runner ++ runner :: s.running) :=
          List.perm_middle.symm
        exact List.perm_middle.symm.trans (back.append_left (queuedIds s.coordinator))
      · rw [ReadyQueue.step, if_neg claimed] at taken
        cases taken
  | failed runner =>
      by_cases claimed : runner ∈ s.claiming
      · rw [ReadyQueue.step, if_pos claimed] at taken
        cases taken
        exact ⟨discard_shape s.coordinator runner inv.shape,
          discard_perm s.coordinator runner _ inv.distinct (claiming_front s inv runner claimed), inv.distinct.filter _⟩
      · rw [ReadyQueue.step, if_neg claimed] at taken
        cases taken
  | release runner =>
      by_cases held : runner ∈ s.running
      · rw [ReadyQueue.step, if_pos held] at taken
        cases taken
        exact ⟨discard_shape s.coordinator runner inv.shape,
          discard_perm s.coordinator runner _ inv.distinct (running_front s inv runner held), inv.distinct.filter _⟩
      · rw [ReadyQueue.step, if_neg held] at taken
        cases taken

theorem ready_forward (campaign : String) (s : ReadyQueue) (event : ReadyEvent) (next : ReadyQueue)
    (listed : campaign ∈ s.coordinator.order) (unserved : s.served event ≠ some campaign) (taken : s.step event = some next) :
    campaign ∈ next.coordinator.order ∧
      (if (s.served event).isSome then 1 else 0) + next.coordinator.order.idxOf campaign ≤ s.coordinator.order.idxOf campaign := by
  cases event with
  | enqueue rows =>
      cases taken
      obtain ⟨others, longer⟩ := (enqueue_runners_order rows s.coordinator).1
      constructor
      · rw [← longer]
        exact List.mem_append_left _ listed
      · have same : (enqueueRunners s.coordinator rows).order.idxOf campaign = s.coordinator.order.idxOf campaign := by
          rw [← longer, List.idxOf_append_of_mem listed]
        simp [ReadyQueue.served, same]
  | materialized instanceId =>
      cases taken
      exact ⟨listed, Nat.le_of_eq (Nat.zero_add _)⟩
  | claim =>
      obtain ⟨⟨coordinator, runner⟩, popped, rfl⟩ := Option.map_eq_some_iff.mp taken
      obtain ⟨first, rest, remaining, order, _, cases⟩ := claim_ready_cases s.coordinator coordinator runner popped
      have head : s.served .claim = some first := by rw [ReadyQueue.served, popped, Option.bind_some, order, List.head?_cons]
      rw [head] at unserved
      have other : first ≠ campaign := fun same => unserved (congrArg some same)
      rw [order] at listed
      have behind := (List.mem_cons.mp listed).resolve_left (Ne.symm other)
      rw [head, order, List.idxOf_cons_ne rest other, Option.isSome_some, if_pos rfl, Nat.add_comm 1]
      rcases cases with ⟨_, rfl⟩ | ⟨_, rfl⟩
      · exact ⟨behind, Nat.le_refl _⟩
      · refine ⟨List.mem_append_left _ behind, ?_⟩
        rw [List.idxOf_append_of_mem behind]
  | started runner =>
      by_cases claimed : runner ∈ s.claiming
      · rw [ReadyQueue.step, if_pos claimed] at taken
        cases taken
        exact ⟨listed, Nat.le_of_eq (Nat.zero_add _)⟩
      · rw [ReadyQueue.step, if_neg claimed] at taken
        cases taken
  | failed runner =>
      by_cases claimed : runner ∈ s.claiming
      · rw [ReadyQueue.step, if_pos claimed] at taken
        cases taken
        exact ⟨listed, Nat.le_of_eq (Nat.zero_add _)⟩
      · rw [ReadyQueue.step, if_neg claimed] at taken
        cases taken
  | release runner =>
      by_cases held : runner ∈ s.running
      · rw [ReadyQueue.step, if_pos held] at taken
        cases taken
        exact ⟨listed, Nat.le_of_eq (Nat.zero_add _)⟩
      · rw [ReadyQueue.step, if_neg held] at taken
        cases taken

theorem leaves_admitted (s : ReadyQueue) (event : ReadyEvent) (next : ReadyQueue) (runner : RunnerId)
    (taken : s.step event = some next) (before : runner ∈ s.coordinator.admitted) (after : runner ∉ next.coordinator.admitted) :
    event = .failed runner ∨ event = .release runner := by
  have discarded : ∀ other, runner ∉ (s.coordinator.discard other).admitted → other = runner := by
    intro other absent
    by_contra different
    exact absent (List.mem_filter.mpr ⟨before, decide_eq_true (Ne.symm different)⟩)
  cases event with
  | enqueue rows =>
      cases taken
      exact absurd ((enqueue_runners_order rows s.coordinator).2 runner before) after
  | materialized instanceId =>
      cases taken
      exact absurd before after
  | claim =>
      obtain ⟨⟨coordinator, first⟩, popped, rfl⟩ := Option.map_eq_some_iff.mp taken
      obtain ⟨_, _, _, _, _, ⟨_, rfl⟩ | ⟨_, rfl⟩⟩ := claim_ready_cases s.coordinator coordinator first popped
      · exact absurd before after
      · exact absurd before after
  | started other =>
      by_cases claimed : other ∈ s.claiming
      · rw [ReadyQueue.step, if_pos claimed] at taken
        cases taken
        exact absurd before after
      · rw [ReadyQueue.step, if_neg claimed] at taken
        cases taken
  | failed other =>
      by_cases claimed : other ∈ s.claiming
      · rw [ReadyQueue.step, if_pos claimed] at taken
        cases taken
        exact .inl (congrArg _ (discarded other after))
      · rw [ReadyQueue.step, if_neg claimed] at taken
        cases taken
  | release other =>
      by_cases held : other ∈ s.running
      · rw [ReadyQueue.step, if_pos held] at taken
        cases taken
        exact .inr (congrArg _ (discarded other after))
      · rw [ReadyQueue.step, if_neg held] at taken
        cases taken

theorem enqueue_runners_capacity : (enqueueRunners coordinator rows).readyCapacity = coordinator.readyCapacity := by
  induction rows generalizing coordinator with
  | nil => rfl
  | cons row rest ih =>
      obtain ⟨runner, campaign⟩ := row
      rw [enqueueRunners]
      split
      · rfl
      · split
        · exact ih coordinator
        · exact ih _

theorem step_capacity (s : ReadyQueue) (event : ReadyEvent) (next : ReadyQueue) (taken : s.step event = some next) :
    next.coordinator.readyCapacity = s.coordinator.readyCapacity := by
  cases event with
  | enqueue rows =>
      cases taken
      exact enqueue_runners_capacity rows s.coordinator
  | materialized instanceId =>
      cases taken
      rfl
  | claim =>
      obtain ⟨⟨coordinator, runner⟩, popped, rfl⟩ := Option.map_eq_some_iff.mp taken
      obtain ⟨_, _, _, _, _, ⟨_, rfl⟩ | ⟨_, rfl⟩⟩ := claim_ready_cases s.coordinator coordinator runner popped
      · rfl
      · rfl
  | started runner | failed runner | release runner =>
      simp only [ReadyQueue.step] at taken
      split at taken <;> cases taken
      rfl

section System

variable {Digest : Type} [DecidableEq Digest]

def readyOf (s : System Digest) (running : List RunnerId) : ReadyQueue := ⟨s.coordinator, s.claims, running⟩

theorem start_refines (digest : Json → Digest) (s : System Digest) (runner : RunnerId) (owner : String) (running : List RunnerId)
    (claimed : runner ∈ s.claims) :
    ∃ events after, run ReadyQueue.step (readyOf s running) events = some (readyOf (startStep digest s runner owner) after) := by
  have listed : runner ∈ (readyOf s running).claiming := claimed
  have failure : ∀ store : Store Digest, ∃ events after,
      run ReadyQueue.step (readyOf s running) events = some (readyOf (dropClaim { s with store := store } runner) after) := by
    intro store
    refine ⟨[.failed runner], running, (run_cons _ _ _ _ _).mpr ⟨_, if_pos listed, rfl⟩⟩
  unfold startStep
  generalize perform digest s.store (.startSelected (callerOf s) runner owner) = result
  obtain ⟨store, reply⟩ := result
  cases reply with
  | admitted value =>
      cases value with
      | none => exact failure store
      | some _ => exact ⟨[.started runner], runner :: running, (run_cons _ _ _ _ _).mpr ⟨_, if_pos listed, rfl⟩⟩
  | raised | done | flag | message | emitted => exact failure store

theorem system_refines (digest : Json → Digest) (s next : System Digest) (event : Event Digest) (running : List RunnerId)
    (taken : systemStep digest s event = some next) (open_ : event ≠ .stop)
    (owned : ∀ runner, event = .release runner → runner ∈ running) :
    ∃ events after, run ReadyQueue.step (readyOf s running) events = some (readyOf next after) := by
  cases event with
  | call call =>
      simp only [systemStep] at taken
      split at taken <;> cases taken
      exact ⟨[], running, rfl⟩
  | tick later =>
      simp only [systemStep] at taken
      split at taken <;> cases taken
      exact ⟨[], running, rfl⟩
  | own owner generation | finish k =>
      cases taken
      exact ⟨[], running, rfl⟩
  | readRunners k hint =>
      rw [read_runners_some s next k hint taken]
      exact ⟨[], running, rfl⟩
  | readRounds k | readInstances k | readNodes k | decide k =>
      obtain ⟨pass, _, _, done⟩ := on_pass_some s next k _ _ taken
      cases done
      exact ⟨[], running, rfl⟩
  | enqueue k =>
      obtain ⟨pass, _, _, done⟩ := on_pass_some s next k _ _ taken
      cases done
      exact ⟨[.enqueue (selectedRunners pass)], running, rfl⟩
  | activate k fresh =>
      obtain ⟨pass, _, _, done⟩ := on_pass_some s next k _ _ taken
      cases activate_pass_some digest s next k pass fresh done with
      | taken instanceId nodeId dueAt pending rest emitted first _ same =>
          subst same
          cases emitted with
          | none => exact ⟨[.materialized instanceId], running, rfl⟩
          | some runner => exact ⟨[.materialized instanceId, .enqueue [(runner, _)]], running, rfl⟩
      | raised instanceId nodeId dueAt pending rest first same =>
          rw [same]
          exact ⟨[], running, rfl⟩
  | claim =>
      obtain ⟨⟨coordinator, runner⟩, popped, rfl⟩ := Option.map_eq_some_iff.mp taken
      refine ⟨[.claim], running, (run_cons _ _ _ _ _).mpr ⟨_, ?_, rfl⟩⟩
      exact Option.map_eq_some_iff.mpr ⟨_, popped, rfl⟩
  | start runner owner =>
      by_cases claimed : runner ∈ s.claims
      · rw [systemStep, if_pos claimed] at taken
        cases taken
        exact start_refines digest s runner owner running claimed
      · rw [systemStep, if_neg claimed] at taken
        cases taken
  | abandon runner =>
      by_cases claimed : runner ∈ s.claims
      · rw [systemStep, if_pos claimed] at taken
        cases taken
        exact ⟨[.failed runner], running, (run_cons _ _ _ _ _).mpr ⟨_, if_pos claimed, rfl⟩⟩
      · rw [systemStep, if_neg claimed] at taken
        cases taken
  | release runner =>
      cases taken
      exact ⟨[.release runner], running.erase runner, (run_cons _ _ _ _ _).mpr ⟨_, if_pos (owned runner rfl), rfl⟩⟩
  | stop => exact absurd rfl open_

def System.handed (s : System Digest) : Event Digest → Bool
  | .release runner => runner ∈ s.coordinator.admitted ∧ runner ∉ queuedIds s.coordinator ∧ runner ∉ s.claims
  | .stop => false
  | _ => true

theorem system_run_refines (digest : Json → Digest) (origin last : System Digest) (capacity : Nat)
    (empty : readyOf origin [] = .fresh capacity) (events : List (Event Digest))
    (meets : EveryStep (systemStep digest) (fun s event => s.handed event = true) origin events)
    (reached : run (systemStep digest) origin events = some last) :
    ∃ steps running, run ReadyQueue.step (.fresh capacity) steps = some (readyOf last running) ∧
      ReadyInvariant (readyOf last running) := by
  refine run_keeps (systemStep digest) _ (fun s => ∃ steps running,
    run ReadyQueue.step (.fresh capacity) steps = some (readyOf s running) ∧ ReadyInvariant (readyOf s running))
    (fun s event next held handed taken => ?_) events origin last ⟨[], [], congrArg some empty.symm, empty ▸ fresh_ready capacity⟩
    meets reached
  obtain ⟨steps, running, ran, inv⟩ := held
  have owned : ∀ runner, event = .release runner → runner ∈ running := by
    rintro runner rfl
    obtain ⟨admitted, unqueued, unclaimed⟩ := of_decide_eq_true handed
    simpa [readyOf, unqueued, unclaimed] using inv.accounted.mem_iff.mp admitted
  have open_ : event ≠ .stop := by
    rintro rfl
    cases handed
  obtain ⟨more, after, moved⟩ := system_refines digest s next event running taken open_ owned
  exact ⟨steps ++ more, after, (run_append _ _ _ _ _).mpr ⟨_, ran, moved⟩,
    run_invariant ReadyQueue.step ReadyInvariant ready_step more _ _ inv moved⟩

end System

theorem system_run_refines_served : ∃ last steps running,
    run (systemStep id) batchSystem (passEvents ++ [.claim, .start "r" "slot", .release "r"]) = some last ∧
    run ReadyQueue.step (.fresh 1024) steps = some (readyOf last running) := by
  obtain ⟨steps, running, ran, _⟩ := system_run_refines id batchSystem _ 1024 rfl
    (passEvents ++ [.claim, .start "r" "slot", .release "r"]) (by decide +kernel) rfl
  exact ⟨_, steps, running, rfl, ran⟩

theorem ready_queue (capacity : Nat) (events : List ReadyEvent) (s : ReadyQueue)
    (reached : run ReadyQueue.step (.fresh capacity) events = some s) :
    s.coordinator.order.Nodup ∧
    (∀ campaign, campaign ∈ s.coordinator.order ↔ ∃ queue, Dict.get campaign s.coordinator.queues = some queue ∧ queue ≠ []) ∧
    (queuedIds s.coordinator).Nodup ∧ (∀ runner ∈ queuedIds s.coordinator, runner ∈ s.coordinator.admitted) ∧
    s.coordinator.queued ≤ capacity ∧
    (s.coordinator.order ≠ [] → (claimReady s.coordinator).isSome = true) ∧
    (∀ campaign ∈ s.coordinator.order, ∀ later last, run ReadyQueue.step s later = some last →
      EveryStep ReadyQueue.step (fun s event => s.served event ≠ some campaign) s later →
      occurrences ReadyQueue.step (fun s event => (s.served event).isSome) s later ≤ s.coordinator.order.idxOf campaign ∧
        campaign ∈ last.coordinator.order) ∧
    ∀ event next runner, s.step event = some next → runner ∈ s.coordinator.admitted → runner ∉ next.coordinator.admitted →
      event = .failed runner ∨ event = .release runner := by
  have inv := run_invariant ReadyQueue.step ReadyInvariant ready_step events _ s (fresh_ready capacity) reached
  have whole := inv.accounted.nodup_iff.mp inv.distinct
  have shape := inv.shape
  refine ⟨shape.ring, ?_, (List.nodup_append.mp whole).1, ?_, ?_, claim_ready_some s.coordinator shape, ?_, leaves_admitted s⟩
  · intro campaign
    rw [shape.listed, dict_key_held]
    constructor
    · intro held
      obtain ⟨queue, found⟩ := Option.ne_none_iff_exists'.mp held
      exact ⟨queue, found, shape.filled campaign queue found⟩
    · rintro ⟨queue, found, _⟩ absent
      rw [found] at absent
      cases absent
  · intro runner member
    exact inv.accounted.mem_iff.mpr (List.mem_append_left _ member)
  · have same := run_invariant ReadyQueue.step (fun s => s.coordinator.readyCapacity = capacity)
      (fun s event next same taken => (step_capacity s event next taken).trans same) events _ s rfl reached
    exact same ▸ shape.bounded
  · intro campaign listed later last ran unserved
    have passed := passed_by_position ReadyQueue.step (fun s => campaign ∈ s.coordinator.order)
      (fun s => s.coordinator.order.idxOf campaign) ReadyQueue.served campaign (ready_forward campaign) later s last listed
      unserved ran
    have stays := run_keeps ReadyQueue.step (fun s event => s.served event ≠ some campaign) (fun s => campaign ∈ s.coordinator.order)
      (fun s event next held other taken => (ready_forward campaign s event next held other taken).1) later s last listed
      unserved ran
    exact ⟨Nat.le_trans (Nat.le_add_right _ _) passed, stays⟩

def fairEvents : List ReadyEvent :=
  [.enqueue [("a", some "x"), ("b", some "y"), ("c", some "z"), ("d", some "x")], .claim, .failed "a", .enqueue [("a", some "x")],
    .claim, .started "b"]

def reachedQueue (result : Option ReadyQueue) (reached : result.isSome) : { s // result = some s } :=
  match result, reached with
  | some s, _ => ⟨s, rfl⟩

def fairQueue := reachedQueue (run ReadyQueue.step (.fresh 4) fairEvents) (by decide)

def laterQueue := reachedQueue (run ReadyQueue.step fairQueue.1 [.claim, .release "b"]) (by decide)

theorem ready_queue_fair :
    fairQueue.1.coordinator.order = ["z", "x"] ∧ (queuedIds fairQueue.1.coordinator).Nodup ∧
      "x" ∈ laterQueue.1.coordinator.order ∧
      occurrences ReadyQueue.step (fun s event => (s.served event).isSome) fairQueue.1 [.claim, .release "b"] ≤ 1 := by
  obtain ⟨_, _, distinct, _, _, _, fair, _⟩ := ready_queue 4 fairEvents fairQueue.1 fairQueue.2
  obtain ⟨passed, stays⟩ := fair "x" (by decide) [.claim, .release "b"] laterQueue.1 laterQueue.2 (by decide)
  exact ⟨by decide, distinct, stays, passed⟩

end LlmperfOrchestrator.Runtime

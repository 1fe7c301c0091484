import LlmperfOrchestrator.Runtime.RouterTurns
import LlmperfOrchestrator.Runtime.Slots

set_option autoImplicit false

namespace LlmperfOrchestrator.RequestPool

open Runs Tables Rings

-- A waiter without an outstanding wake-up has nothing to do: its last check
-- would end the same way now.
structure PoolInvariant (pool : Pool) : Prop where
  router : RouterInvariant pool.router
  asleep : ∀ waiter request, pool.router.requests[waiter]? = some request → request.phase = .waiting → waiter ∉ pool.woken →
    request.runner ∉ pool.router.cancelled ∧ canDispatch pool.router request.runner waiter = false

theorem waiters_member (router : Router) (waiter : Nat) (request : Request) (read : router.requests[waiter]? = some request)
    (waits : request.phase = .waiting) : waiter ∈ waiters router := by
  rw [waiters, List.mem_filter, List.mem_range, phaseOf, read]
  exact ⟨(List.getElem?_eq_some_iff.mp read).1, decide_eq_true (congrArg some waits)⟩

theorem notified_invariant (router : Router) (inv : RouterInvariant router) : PoolInvariant (notifyAll router) := by
  refine ⟨inv, ?_⟩
  intro waiter request read waits sleeps
  exact absurd (waiters_member router waiter request read waits) sleeps

theorem silent_router (s : Router) (inv : RouterInvariant s) (waiter : Nat) (old moved : Request)
    (read : s.requests[waiter]? = some old) (phase : moved.phase = .waiting ↔ old.phase = .waiting)
    (owner : moved.runner = old.runner) : RouterInvariant (setRequest s waiter moved) := by
  have shape := inv.shape
  refine ⟨⟨shape.unique, shape.listed, shape.keys, shape.filled, shape.apart⟩, ?_, inv.pending, inv.sized⟩
  intro other runner
  change other ∈ queueOf s runner ↔ _
  by_cases here : other = waiter
  · subst here
    rw [set_request_own s other old moved runner read, inv.waiting other runner, phase, owner]
    constructor
    · intro held
      obtain ⟨request, same, waits, owns⟩ := held
      cases read.symm.trans same
      exact ⟨waits, owns⟩
    · intro held
      exact ⟨old, read, held⟩
  · rw [set_request_other s waiter other moved runner here]
    exact inv.waiting other runner

theorem silent_invariant (pool : Pool) (inv : PoolInvariant pool) (waiter : Nat) (old moved : Request)
    (read : pool.router.requests[waiter]? = some old) (phase : moved.phase = .waiting ↔ old.phase = .waiting)
    (owner : moved.runner = old.runner) : PoolInvariant ⟨setRequest pool.router waiter moved, pool.woken⟩ := by
  refine ⟨silent_router pool.router inv.router waiter old moved read phase owner, ?_⟩
  intro other request found waits sleeps
  by_cases here : other = waiter
  · subst here
    rw [set_request_read pool.router other old moved read] at found
    cases found
    rw [owner]
    exact inv.asleep other old read (phase.mp waits) sleeps
  · have same : (setRequest pool.router waiter moved).requests[other]? = pool.router.requests[other]? :=
      List.getElem?_set_ne (Ne.symm here)
    exact inv.asleep other request (same.symm.trans found) waits sleeps

theorem turned_invariant (pool : Pool) (s : Router) (waiter : Nat) (request : Request) (joined : Joined s waiter request)
    (asleep : ∀ other sleeper, other ≠ waiter → s.requests[other]? = some sleeper → sleeper.phase = .waiting → other ∉ pool.woken →
      sleeper.runner ∉ s.cancelled ∧ canDispatch s sleeper.runner other = false) :
    PoolInvariant (turned pool (attempt s waiter request) waiter) := by
  have kept := attempt_invariant s waiter request joined
  rw [turned]
  by_cases waits : phaseOf (attempt s waiter request) waiter = some .waiting
  · rw [if_pos waits]
    refine ⟨kept, ?_⟩
    rcases attempt_cases s waiter request with ⟨_, left⟩ | ⟨_, turn, left⟩ | ⟨free, wait, stays⟩
    · exfalso
      rw [left, phaseOf, set_request_read _ waiter request _ ((remove_rest s request.runner waiter).2.2.2.2.2 ▸ joined.read)] at waits
      cases waits
    · exfalso
      have read : (remove (dispatching s request.runner) request.runner waiter).requests[waiter]? = some request :=
        (remove_rest (dispatching s request.runner) request.runner waiter).2.2.2.2.2 ▸ joined.read
      rw [left, phaseOf, set_request_read _ waiter request _ read] at waits
      cases waits
    · rw [stays]
      intro other sleeper found sleeping quiet
      by_cases here : other = waiter
      · subst here
        rw [set_request_read s other request _ joined.read] at found
        cases found
        exact ⟨free, wait⟩
      · have same : (setRequest s waiter { request with phase := .waiting }).requests[other]? = s.requests[other]? :=
          List.getElem?_set_ne (Ne.symm here)
        apply asleep other sleeper here (same.symm.trans found) sleeping
        intro listed
        exact quiet ((List.mem_erase_of_ne here).mpr listed)
  · rw [if_neg waits]
    exact notified_invariant _ kept

theorem enqueue_turn (s : Router) (shape : Queued s) (runner query : RunnerId) (waiter other : Nat)
    (waits : other ∈ queueOf s query) : canDispatch (enqueue s runner waiter) query other = canDispatch s query other := by
  obtain ⟨_, capacity, busy, limit, _⟩ := enqueue_rest s runner waiter
  have listed : query ∈ s.order := (listed_queue s shape query).mpr (List.ne_nil_of_mem waits)
  have head : (enqueue s runner waiter).order.head? = s.order.head? := by
    rcases enqueue_order s shape runner waiter with ⟨_, same⟩ | ⟨_, grown⟩
    · rw [same]
    · rw [grown, List.head?_append_of_ne_nil _ (List.ne_nil_of_mem listed)]
  have first : (queueOf (enqueue s runner waiter) query).head? = (queueOf s query).head? := by
    rw [enqueue_queue]
    by_cases same : query = runner
    · rw [if_pos same, List.head?_append_of_ne_nil _ (List.ne_nil_of_mem waits)]
    · rw [if_neg same]
  change decide ((enqueue s runner waiter).order.head? = some query ∧ (queueOf (enqueue s runner waiter) query).head? = some other ∧
    (enqueue s runner waiter).busy.getD (leastBusy (enqueue s runner waiter).busy) (enqueue s runner waiter).limit <
      (enqueue s runner waiter).limit ∧ (enqueue s runner waiter).busy.sum < (enqueue s runner waiter).capacity) = _
  rw [head, first, busy, limit, capacity]
  rfl

theorem enqueue_asleep (pool : Pool) (inv : PoolInvariant pool) (runner : RunnerId) (waiter : Nat) (other : Nat) (sleeper : Request)
    (read : (enqueue pool.router runner waiter).requests[other]? = some sleeper) (sleeping : sleeper.phase = .waiting)
    (quiet : other ∉ pool.woken) :
    sleeper.runner ∉ (enqueue pool.router runner waiter).cancelled ∧
      canDispatch (enqueue pool.router runner waiter) sleeper.runner other = false := by
  obtain ⟨_, _, _, _, cancelled, requests⟩ := enqueue_rest pool.router runner waiter
  rw [requests] at read
  have waits := (inv.router.waiting other sleeper.runner).mpr ⟨sleeper, read, sleeping, rfl⟩
  rw [cancelled, enqueue_turn pool.router inv.router.shape runner sleeper.runner waiter other waits]
  exact inv.asleep other sleeper read sleeping quiet

variable (pool next : Pool)

theorem enter_invariant (inv : PoolInvariant pool) (waiter : Nat) (taken : pool.step (.enter waiter) = some next) :
    PoolInvariant next := by
  obtain ⟨router, moved, settled⟩ := Option.bind_eq_some_iff.mp taken
  obtain ⟨request, read, moved⟩ := on_request_some _ _ _ _ moved
  rw [enter] at moved
  by_cases entering : request.phase = .entering
  · rw [if_pos entering] at moved
    have before : request.phase ≠ .waiting := by
      rw [entering]
      intro same
      cases same
    by_cases full : queued pool.router ≥ pool.router.maxPending
    · rw [if_pos full] at moved
      cases moved
      rw [Pool.next, rejects, if_pos (decide_eq_true full)] at settled
      cases settled
      exact silent_invariant pool inv waiter request _ read (iff_of_false (fun same => by cases same) before) rfl
    · rw [if_neg full] at moved
      cases moved
      rw [Pool.next, rejects, if_neg (fun held => full (of_decide_eq_true held))] at settled
      cases settled
      have joined := enter_joined pool.router inv.router waiter request read entering (Nat.lt_of_not_le full)
      exact turned_invariant pool _ waiter request joined fun other sleeper _ found sleeping quiet =>
        enqueue_asleep pool inv request.runner waiter other sleeper found sleeping quiet
  · rw [if_neg entering] at moved
    cases moved

theorem wake_invariant (inv : PoolInvariant pool) (waiter : Nat) (taken : pool.step (.wake waiter) = some next) :
    PoolInvariant next := by
  obtain ⟨router, moved, settled⟩ := Option.bind_eq_some_iff.mp taken
  obtain ⟨request, read, moved⟩ := on_request_some _ _ _ _ moved
  rw [wake] at moved
  by_cases waits : request.phase = .waiting
  · rw [if_pos waits] at moved
    cases moved
    rw [Pool.next] at settled
    by_cases woken : waiter ∈ pool.woken
    · rw [if_pos woken] at settled
      cases settled
      have joined := wake_joined pool.router inv.router waiter request read waits
      exact turned_invariant pool pool.router waiter request joined fun other sleeper _ found sleeping quiet =>
        inv.asleep other sleeper found sleeping quiet
    · rw [if_neg woken] at settled
      cases settled
  · rw [if_neg waits] at moved
    cases moved

theorem call_invariant (inv : PoolInvariant pool) (runner : RunnerId) (taken : pool.step (.call runner) = some next) :
    PoolInvariant next := by
  cases taken
  have shape := inv.router.shape
  have grown : ∀ (waiter : Nat) (request : Request), (pool.router.requests ++ [⟨runner, .entering, none, .none, 0⟩])[waiter]? = some request →
      request.phase = .waiting → pool.router.requests[waiter]? = some request := by
    intro waiter request read waits
    by_cases inside : waiter < pool.router.requests.length
    · rwa [List.getElem?_append_left inside] at read
    · rw [List.getElem?_append_right (Nat.le_of_not_lt inside)] at read
      have fresh := List.mem_singleton.mp (List.mem_of_getElem? read)
      rw [fresh] at waits
      cases waits
  refine ⟨⟨⟨shape.unique, shape.listed, shape.keys, shape.filled, shape.apart⟩, ?_, inv.router.pending, inv.router.sized⟩, ?_⟩
  · intro waiter owner
    change waiter ∈ queueOf pool.router owner ↔ _
    rw [inv.router.waiting waiter owner]
    constructor
    · intro held
      obtain ⟨request, read, waits, owns⟩ := held
      refine ⟨request, ?_, waits, owns⟩
      exact (List.getElem?_append_left (List.getElem?_eq_some_iff.mp read).1).trans read
    · intro held
      obtain ⟨request, read, waits, owns⟩ := held
      exact ⟨request, grown waiter request read waits, waits, owns⟩
  · intro waiter request read waits sleeps
    exact inv.asleep waiter request (grown waiter request read waits) waits sleeps

theorem complete_invariant (inv : PoolInvariant pool) (waiter : Nat) (taken : pool.step (.complete waiter) = some next) :
    PoolInvariant next := by
  obtain ⟨router, moved, settled⟩ := Option.bind_eq_some_iff.mp taken
  obtain ⟨request, read, moved⟩ := on_request_some _ _ _ _ moved
  rw [complete] at moved
  by_cases flying : request.physical = .inFlight
  · rw [if_pos flying] at moved
    cases moved
    cases settled
    exact silent_invariant pool inv waiter request _ read Iff.rfl rfl
  · rw [if_neg flying] at moved
    cases moved

theorem resume_invariant (inv : PoolInvariant pool) (waiter : Nat) (taken : pool.step (.resume waiter) = some next) :
    PoolInvariant next := by
  obtain ⟨router, moved, settled⟩ := Option.bind_eq_some_iff.mp taken
  obtain ⟨request, read, moved⟩ := on_request_some _ _ _ _ moved
  rw [resume] at moved
  by_cases ready : (request.phase = .executing ∨ request.phase = .draining) ∧ request.physical = .finished
  · rw [if_pos ready] at moved
    cases moved
    cases settled
    have before : request.phase ≠ .waiting := by
      intro waits
      rcases ready.1 with same | same <;> rw [waits] at same <;> cases same
    exact silent_invariant pool inv waiter request _ read (iff_of_false (fun same => by cases same) before) rfl
  · rw [if_neg ready] at moved
    cases moved

theorem release_invariant (inv : PoolInvariant pool) (waiter : Nat) (taken : pool.step (.release waiter) = some next) :
    PoolInvariant next := by
  obtain ⟨router, moved, settled⟩ := Option.bind_eq_some_iff.mp taken
  obtain ⟨request, read, moved⟩ := on_request_some _ _ _ _ moved
  cases settled
  rw [release] at moved
  by_cases releasing : request.phase = .releasing
  · rw [if_pos releasing] at moved
    cases owned : request.actor with
    | none =>
        rw [owned] at moved
        cases moved
    | some actor =>
        rw [owned] at moved
        cases moved
        have shape := inv.router.shape
        have freed : RouterInvariant { pool.router with
            busy := pool.router.busy.set actor (pool.router.busy.getD actor 0 - 1)
            executingByRunner := dropExecuting request.runner pool.router.executingByRunner } := by
          refine ⟨⟨shape.unique, shape.listed, shape.keys, shape.filled, shape.apart⟩, inv.router.waiting, inv.router.pending, ?_⟩
          dsimp only
          rw [List.length_set]
          exact inv.router.sized
        have before : request.phase ≠ .waiting := by
          rw [releasing]
          intro same
          cases same
        apply notified_invariant
        exact silent_router _ freed waiter request _ read (iff_of_false (fun same => by cases same) before) rfl
  · rw [if_neg releasing] at moved
    cases moved

theorem cancel_task_silent (s router : Router) (waiter : Nat) (request : Request) (elsewhere : request.phase ≠ .waiting)
    (moved : cancelTask s waiter request = some router) :
    ∃ phase, phase ≠ .waiting ∧ phase ≠ .entering ∧ router = setRequest s waiter { request with phase := phase } := by
  rw [cancelTask] at moved
  cases phase : request.phase with
  | waiting => exact absurd phase elsewhere
  | finished =>
      rw [phase] at moved
      cases moved
  | entering =>
      rw [phase] at moved
      cases moved
      exact ⟨.finished, (fun same => by cases same), (fun same => by cases same), rfl⟩
  | executing =>
      rw [phase] at moved
      cases moved
      exact ⟨.draining, (fun same => by cases same), (fun same => by cases same), rfl⟩
  | draining =>
      rw [phase] at moved
      cases moved
      exact ⟨.releasing, (fun same => by cases same), (fun same => by cases same), rfl⟩
  | releasing =>
      rw [phase] at moved
      cases moved
      exact ⟨.finished, (fun same => by cases same), (fun same => by cases same), rfl⟩

theorem cancel_task_invariant (inv : PoolInvariant pool) (waiter : Nat) (taken : pool.step (.cancelTask waiter) = some next) :
    PoolInvariant next := by
  obtain ⟨router, moved, settled⟩ := Option.bind_eq_some_iff.mp taken
  obtain ⟨request, read, moved⟩ := on_request_some _ _ _ _ moved
  rw [Pool.next, phaseOf, read, Option.map_some] at settled
  by_cases waits : request.phase = .waiting
  · rw [waits, if_pos rfl] at settled
    rw [cancelTask, waits] at moved
    cases moved
    cases settled
    apply notified_invariant
    exact leaving_invariant pool.router waiter request _ (wake_joined pool.router inv.router waiter request read waits)
      fun same => by cases same
  · obtain ⟨phase, elsewhere, _, same⟩ := cancel_task_silent pool.router router waiter request waits moved
    rw [if_neg (fun same => waits (Option.some.inj same))] at settled
    cases settled
    rw [same]
    exact silent_invariant pool inv waiter request _ read (iff_of_false elsewhere waits) rfl

theorem router_with_cancelled (s : Router) (inv : RouterInvariant s) (cancelled : List RunnerId) :
    RouterInvariant { s with cancelled := cancelled } := by
  have shape := inv.shape
  exact ⟨⟨shape.unique, shape.listed, shape.keys, shape.filled, shape.apart⟩, inv.waiting, inv.pending, inv.sized⟩

theorem step_invariant (pool : Pool) (event : Event) (next : Pool) (inv : PoolInvariant pool)
    (taken : pool.step event = some next) : PoolInvariant next := by
  cases event with
  | call runner => exact call_invariant pool next inv runner taken
  | enter waiter => exact enter_invariant pool next inv waiter taken
  | wake waiter => exact wake_invariant pool next inv waiter taken
  | complete waiter => exact complete_invariant pool next inv waiter taken
  | resume waiter => exact resume_invariant pool next inv waiter taken
  | release waiter => exact release_invariant pool next inv waiter taken
  | cancelTask waiter => exact cancel_task_invariant pool next inv waiter taken
  | cancel runner =>
      cases taken
      exact notified_invariant _ (router_with_cancelled pool.router inv.router _)
  | forget runner =>
      cases taken
      refine ⟨router_with_cancelled pool.router inv.router _, ?_⟩
      intro waiter request read waits sleeps
      obtain ⟨free, quiet⟩ := inv.asleep waiter request read waits sleeps
      exact ⟨fun listed => free (List.mem_filter.mp listed).1, quiet⟩

end LlmperfOrchestrator.RequestPool

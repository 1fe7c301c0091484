import LlmperfOrchestrator.Library.Rings
import LlmperfOrchestrator.Runtime.RequestPool

set_option autoImplicit false

namespace LlmperfOrchestrator.RequestPool

open Runs Tables Rings

structure Queued (s : Router) : Prop where
  unique : s.order.Nodup
  listed : ∀ runner, runner ∈ s.order ↔ Dict.get runner s.queues ≠ none
  keys : (Dict.keys s.queues).Nodup
  filled : ∀ runner queue, Dict.get runner s.queues = some queue → queue ≠ []
  apart : ∀ runner, (queueOf s runner).Nodup

variable (s : Router) (runner : RunnerId)

theorem queue_of_some (queue : List Nat) (found : Dict.get runner s.queues = some queue) :
    queueOf s runner = queue := by rw [queueOf, found, Option.getD_some]

theorem queue_of_none (absent : Dict.get runner s.queues = none) : queueOf s runner = [] := by
  rw [queueOf, absent, Option.getD_none]

theorem listed_queue (shape : Queued s) (runner : RunnerId) : runner ∈ s.order ↔ queueOf s runner ≠ [] := by
  rw [shape.listed runner]
  cases found : Dict.get runner s.queues with
  | none => simp [queue_of_none s runner found]
  | some queue => simp [queue_of_some s runner queue found, shape.filled runner queue found]

theorem enqueue_queue (runner query : RunnerId) (waiter : Nat) :
    queueOf (enqueue s runner waiter) query = if query = runner then queueOf s query ++ [waiter] else queueOf s query := by
  rw [enqueue]
  cases found : Dict.get runner s.queues with
  | none =>
      dsimp only
      rw [queueOf, dict_get_put]
      by_cases same : query = runner
      · rw [if_pos same, if_pos same, same, queue_of_none s runner found, Option.getD_some, List.nil_append]
      · rw [if_neg same, if_neg same, queueOf]
  | some queue =>
      dsimp only
      rw [queueOf, dict_get_put]
      by_cases same : query = runner
      · rw [if_pos same, if_pos same, same, queue_of_some s runner queue found, Option.getD_some]
      · rw [if_neg same, if_neg same, queueOf]

theorem enqueue_order (shape : Queued s) (runner : RunnerId) (waiter : Nat) :
    (runner ∈ s.order ∧ (enqueue s runner waiter).order = s.order) ∨
      (runner ∉ s.order ∧ (enqueue s runner waiter).order = s.order ++ [runner]) := by
  rw [enqueue, shape.listed runner]
  cases found : Dict.get runner s.queues with
  | none => exact .inr ⟨fun held => held rfl, rfl⟩
  | some queue =>
      left
      constructor
      · intro absent
        cases absent
      · rfl

theorem enqueue_queued (shape : Queued s) (runner : RunnerId) (waiter : Nat) (fresh : waiter ∉ queueOf s runner) :
    Queued (enqueue s runner waiter) := by
  have apart : ∀ query, (queueOf (enqueue s runner waiter) query).Nodup := by
    intro query
    rw [enqueue_queue]
    by_cases same : query = runner
    · rw [if_pos same]
      exact nodup_back _ waiter (shape.apart query) (same ▸ fresh)
    · rw [if_neg same]
      exact shape.apart query
  have order : (enqueue s runner waiter).order.Nodup := by
    rcases enqueue_order s shape runner waiter with ⟨_, same⟩ | ⟨new, joined⟩
    · rw [same]
      exact shape.unique
    · rw [joined]
      exact nodup_back s.order runner shape.unique new
  refine ⟨order, ?_, ?_, ?_, apart⟩
  · intro query
    rw [enqueue]
    cases found : Dict.get runner s.queues with
    | none =>
        dsimp only
        rw [List.mem_append, List.mem_singleton, dict_get_put, shape.listed query]
        by_cases same : query = runner
        · simp [same]
        · simp [same]
    | some queue =>
        dsimp only
        rw [dict_get_put, shape.listed query]
        by_cases same : query = runner
        · simp [same, found]
        · simp [same]
  · rw [enqueue]
    cases found : Dict.get runner s.queues with
    | none => exact (dict_keys_put _ _ _ shape.keys).1
    | some queue => exact (dict_keys_put _ _ _ shape.keys).1
  · intro query queue found empty
    have held := queue_of_some (enqueue s runner waiter) query queue found
    rw [enqueue_queue, empty] at held
    by_cases same : query = runner
    · rw [if_pos same] at held
      simp at held
    · rw [if_neg same] at held
      have unchanged : Dict.get query (enqueue s runner waiter).queues = Dict.get query s.queues := by
        rw [enqueue]
        cases Dict.get runner s.queues with
        | none => exact (dict_get_put _ _ _ _).trans (if_neg same)
        | some queue => exact (dict_get_put _ _ _ _).trans (if_neg same)
      exact shape.filled query queue (unchanged.symm.trans found) empty

theorem remove_queue (runner query : RunnerId) (waiter : Nat) :
    queueOf (remove s runner waiter) query = if query = runner then (queueOf s query).erase waiter else queueOf s query := by
  rw [remove]
  cases found : Dict.get runner s.queues with
  | none =>
      by_cases same : query = runner
      · subst same
        rw [if_pos rfl, queue_of_none s query found]
        rfl
      · rw [if_neg same]
  | some queue =>
      dsimp only
      by_cases member : waiter ∈ queue
      · rw [if_pos member]
        by_cases last : queue.erase waiter = []
        · rw [if_pos last, queueOf, dict_get_pop]
          by_cases same : query = runner
          · rw [if_pos same, if_pos same, same, queue_of_some s runner queue found, last]
            rfl
          · rw [if_neg same, if_neg same, queueOf]
        · rw [if_neg last, queueOf, dict_get_put]
          by_cases same : query = runner
          · rw [if_pos same, if_pos same, same, queue_of_some s runner queue found]
            rfl
          · rw [if_neg same, if_neg same, queueOf]
      · rw [if_neg member]
        by_cases same : query = runner
        · rw [if_pos same, same, queue_of_some s runner queue found, List.erase_of_not_mem member]
        · rw [if_neg same]

variable (waiter : Nat)

theorem remove_order :
    (remove s runner waiter).order = s.order ∨
      (queueOf (remove s runner waiter) runner = [] ∧ (remove s runner waiter).order = s.order.erase runner) := by
  rw [remove]
  cases found : Dict.get runner s.queues with
  | none => exact .inl rfl
  | some queue =>
      dsimp only
      by_cases member : waiter ∈ queue
      · rw [if_pos member]
        by_cases last : queue.erase waiter = []
        · rw [if_pos last]
          right
          refine ⟨?_, rfl⟩
          rw [queueOf, dict_get_pop, if_pos rfl]
          rfl
        · rw [if_neg last]
          exact .inl rfl
      · rw [if_neg member]
        exact .inl rfl

theorem remove_queued (shape : Queued s) (runner : RunnerId) (waiter : Nat) : Queued (remove s runner waiter) := by
  have apart : ∀ query, (queueOf (remove s runner waiter) query).Nodup := by
    intro query
    rw [remove_queue]
    by_cases same : query = runner
    · rw [if_pos same]
      exact (shape.apart query).erase waiter
    · rw [if_neg same]
      exact shape.apart query
  rw [remove] at apart ⊢
  cases found : Dict.get runner s.queues with
  | none => exact shape
  | some queue =>
      rw [found] at apart
      dsimp only at apart ⊢
      by_cases member : waiter ∈ queue
      · rw [if_pos member] at apart ⊢
        by_cases last : queue.erase waiter = []
        · rw [if_pos last] at apart ⊢
          refine ⟨shape.unique.erase runner, ?_, (dict_keys_pop _ _ shape.keys).1, ?_, apart⟩
          · intro query
            rw [shape.unique.mem_erase_iff, dict_get_pop, shape.listed query]
            by_cases same : query = runner
            · simp [same]
            · simp [same]
          · intro query rest held
            rw [dict_get_pop] at held
            by_cases same : query = runner
            · rw [if_pos same] at held
              cases held
            · rw [if_neg same] at held
              exact shape.filled query rest held
        · rw [if_neg last] at apart ⊢
          refine ⟨shape.unique, ?_, (dict_keys_put _ _ _ shape.keys).1, ?_, apart⟩
          · intro query
            rw [dict_get_put, shape.listed query]
            by_cases same : query = runner
            · simp [same, found]
            · simp [same]
          · intro query rest held
            rw [dict_get_put] at held
            by_cases same : query = runner
            · rw [if_pos same] at held
              cases held
              exact last
            · rw [if_neg same] at held
              exact shape.filled query rest held
      · rw [if_neg member] at apart ⊢
        exact shape

theorem enqueue_count : queued (enqueue s runner waiter) = queued s + 1 := by
  rw [enqueue]
  cases found : Dict.get runner s.queues with
  | none =>
      have grown := dict_total_put (fun entry : RunnerId × List Nat => entry.2.length) s.queues runner [waiter]
      rw [found] at grown
      simpa [queued] using grown
  | some queue =>
      have grown := dict_total_put (fun entry : RunnerId × List Nat => entry.2.length) s.queues runner (queue ++ [waiter])
      rw [found] at grown
      simp only [Option.elim, List.length_append, List.length_singleton] at grown
      simp only [queued]
      omega

theorem total_filter (keep : RunnerId × List Nat → Bool) (queues : Dict RunnerId (List Nat)) :
    total (fun entry => entry.2.length) (queues.filter keep) ≤ total (fun entry => entry.2.length) queues := by
  induction queues with
  | nil => exact Nat.le_refl _
  | cons entry rest ih =>
      rw [List.filter_cons, total_cons]
      by_cases kept : keep entry = true
      · rw [if_pos kept, total_cons]
        exact Nat.add_le_add_left ih _
      · rw [if_neg kept]
        exact Nat.le_trans ih (Nat.le_add_left _ _)

theorem remove_count : queued (remove s runner waiter) ≤ queued s := by
  rw [remove]
  cases found : Dict.get runner s.queues with
  | none => exact Nat.le_refl _
  | some queue =>
      dsimp only
      by_cases member : waiter ∈ queue
      · rw [if_pos member]
        by_cases last : queue.erase waiter = []
        · rw [if_pos last]
          exact total_filter _ s.queues
        · rw [if_neg last]
          have changed := dict_total_put (fun entry : RunnerId × List Nat => entry.2.length) s.queues runner (queue.erase waiter)
          rw [found] at changed
          dsimp only [Option.elim] at changed
          have shorter : (queue.erase waiter).length ≤ queue.length := List.length_erase_le
          simp only [queued]
          omega
      · rw [if_neg member]

def WaitsIn (s : Router) (waiter : Nat) (runner : RunnerId) : Prop :=
  ∃ request, s.requests[waiter]? = some request ∧ request.phase = .waiting ∧ request.runner = runner

structure RouterInvariant (s : Router) : Prop where
  shape : Queued s
  waiting : ∀ waiter runner, waiter ∈ queueOf s runner ↔ WaitsIn s waiter runner
  pending : queued s ≤ s.maxPending
  sized : s.capacity ≤ s.busy.length * s.limit

structure Joined (s : Router) (waiter : Nat) (request : Request) : Prop where
  shape : Queued s
  read : s.requests[waiter]? = some request
  member : waiter ∈ queueOf s request.runner
  others : ∀ other runner, other ≠ waiter → (other ∈ queueOf s runner ↔ WaitsIn s other runner)
  own : ∀ runner, waiter ∈ queueOf s runner → runner = request.runner
  pending : queued s ≤ s.maxPending
  sized : s.capacity ≤ s.busy.length * s.limit

theorem set_request_other (waiter other : Nat) (moved : Request) (runner : RunnerId) (apart : other ≠ waiter) :
    WaitsIn (setRequest s waiter moved) other runner ↔ WaitsIn s other runner := by
  have same : (setRequest s waiter moved).requests[other]? = s.requests[other]? := List.getElem?_set_ne (Ne.symm apart)
  rw [WaitsIn, WaitsIn, same]

theorem set_request_read (old moved : Request) (read : s.requests[waiter]? = some old) :
    (setRequest s waiter moved).requests[waiter]? = some moved :=
  List.getElem?_set_self (List.getElem?_eq_some_iff.mp read).1

theorem set_request_own (old moved : Request) (runner : RunnerId) (read : s.requests[waiter]? = some old) :
    WaitsIn (setRequest s waiter moved) waiter runner ↔ moved.phase = .waiting ∧ moved.runner = runner := by
  rw [WaitsIn, set_request_read s waiter old moved read]
  constructor
  · intro held
    obtain ⟨request, same, waits, owner⟩ := held
    cases same
    exact ⟨waits, owner⟩
  · intro held
    exact ⟨moved, rfl, held⟩

theorem remove_member (shape : Queued s) (runner query : RunnerId) (waiter other : Nat) :
    other ∈ queueOf (remove s runner waiter) query ↔ other ∈ queueOf s query ∧ ¬ (other = waiter ∧ query = runner) := by
  rw [remove_queue]
  by_cases same : query = runner
  · rw [if_pos same, (shape.apart query).mem_erase_iff]
    constructor
    · intro held
      exact ⟨held.2, fun both => held.1 both.1⟩
    · intro held
      exact ⟨fun here => held.2 ⟨here, same⟩, held.1⟩
  · rw [if_neg same]
    constructor
    · intro held
      exact ⟨held, fun both => same both.2⟩
    · intro held
      exact held.1

theorem remove_rest :
    (remove s runner waiter).maxPending = s.maxPending ∧ (remove s runner waiter).capacity = s.capacity ∧
      (remove s runner waiter).busy = s.busy ∧ (remove s runner waiter).limit = s.limit ∧
      (remove s runner waiter).cancelled = s.cancelled ∧ (remove s runner waiter).requests = s.requests := by
  rw [remove]
  cases Dict.get runner s.queues with
  | none => exact ⟨rfl, rfl, rfl, rfl, rfl, rfl⟩
  | some queue =>
      dsimp only
      split
      · split
        · exact ⟨rfl, rfl, rfl, rfl, rfl, rfl⟩
        · exact ⟨rfl, rfl, rfl, rfl, rfl, rfl⟩
      · exact ⟨rfl, rfl, rfl, rfl, rfl, rfl⟩

theorem left_waiting (request moved : Request) (joined : Joined s waiter request) (left : moved.phase ≠ .waiting) (other : Nat)
    (runner : RunnerId) :
    other ∈ queueOf (setRequest (remove s request.runner waiter) waiter moved) runner ↔
      WaitsIn (setRequest (remove s request.runner waiter) waiter moved) other runner := by
  have queue : queueOf (setRequest (remove s request.runner waiter) waiter moved) runner =
      queueOf (remove s request.runner waiter) runner := rfl
  have requests : (remove s request.runner waiter).requests = s.requests := (remove_rest s request.runner waiter).2.2.2.2.2
  rw [queue, remove_member s joined.shape]
  by_cases here : other = waiter
  · subst here
    have read : (remove s request.runner other).requests[other]? = some request := requests ▸ joined.read
    rw [set_request_own _ other request moved runner read]
    constructor
    · intro held
      exact absurd ⟨rfl, joined.own runner held.1⟩ held.2
    · intro held
      exact absurd held.1 left
  · rw [set_request_other _ waiter other moved runner here, WaitsIn, requests, ← WaitsIn, ← joined.others other runner here]
    constructor
    · intro held
      exact held.1
    · intro held
      exact ⟨held, fun both => here both.1⟩

variable (request : Request)

theorem stayed_waiting (joined : Joined s waiter request) (other : Nat) (runner : RunnerId) :
    other ∈ queueOf (setRequest s waiter { request with phase := .waiting }) runner ↔
      WaitsIn (setRequest s waiter { request with phase := .waiting }) other runner := by
  have queue : queueOf (setRequest s waiter { request with phase := .waiting }) runner = queueOf s runner := rfl
  rw [queue]
  by_cases here : other = waiter
  · subst here
    rw [set_request_own s other request _ runner joined.read]
    constructor
    · intro held
      exact ⟨rfl, (joined.own runner held).symm⟩
    · intro held
      exact held.2 ▸ joined.member
  · rw [set_request_other s waiter other _ runner here]
    exact joined.others other runner here

def dispatching (s : Router) (runner : RunnerId) : Router :=
  { s with
    busy := s.busy.set (leastBusy s.busy) (s.busy.getD (leastBusy s.busy) 0 + 1)
    executingByRunner := addExecuting runner s.executingByRunner
    order := rotate s.order }

def dispatchedRequest (s : Router) (request : Request) : Request :=
  { request with phase := .executing, actor := some (leastBusy s.busy), physical := .inFlight }

theorem attempt_cases :
    (request.runner ∈ s.cancelled ∧
        attempt s waiter request = setRequest (remove s request.runner waiter) waiter { request with phase := .finished }) ∨
      (request.runner ∉ s.cancelled ∧ canDispatch s request.runner waiter = true ∧
        attempt s waiter request =
          setRequest (remove (dispatching s request.runner) request.runner waiter) waiter (dispatchedRequest s request)) ∨
      (request.runner ∉ s.cancelled ∧ canDispatch s request.runner waiter = false ∧
        attempt s waiter request = setRequest s waiter { request with phase := .waiting }) := by
  rw [attempt]
  by_cases stopped : request.runner ∈ s.cancelled
  · rw [if_pos stopped]
    exact .inl ⟨stopped, rfl⟩
  · rw [if_neg stopped]
    by_cases turn : canDispatch s request.runner waiter = true
    · rw [if_pos turn]
      exact .inr (.inl ⟨stopped, turn, rfl⟩)
    · rw [if_neg turn]
      exact .inr (.inr ⟨stopped, Bool.not_eq_true _ ▸ turn, rfl⟩)

theorem can_dispatch_head (turn : canDispatch s runner waiter = true) : ∃ rest, s.order = runner :: rest := by
  simp only [canDispatch, decide_eq_true_eq] at turn
  exact List.head?_eq_some_iff.mp turn.1

theorem dispatching_joined (joined : Joined s waiter request) (turn : canDispatch s request.runner waiter = true) :
    Joined (dispatching s request.runner) waiter request := by
  obtain ⟨rest, ring⟩ := can_dispatch_head s request.runner waiter turn
  have turned : (dispatching s request.runner).order = rest ++ [request.runner] := by
    rw [dispatching]
    dsimp only
    rw [ring]
    rfl
  have moved := Move.serve request.runner rest
  have unique : (request.runner :: rest).Nodup := ring ▸ joined.shape.unique
  have shape : Queued (dispatching s request.runner) := by
    refine ⟨?_, ?_, joined.shape.keys, joined.shape.filled, joined.shape.apart⟩
    · rw [turned]
      exact move_nodup _ _ _ moved unique
    · intro runner
      have listed := joined.shape.listed runner
      rw [ring] at listed
      rw [turned, List.mem_append, List.mem_singleton, or_comm, ← List.mem_cons]
      exact listed
  refine ⟨shape, joined.read, joined.member, joined.others, joined.own, joined.pending, ?_⟩
  have size : (dispatching s request.runner).busy.length = s.busy.length := List.length_set
  rw [size]
  exact joined.sized

theorem leaving_invariant (request moved : Request) (joined : Joined s waiter request) (left : moved.phase ≠ .waiting) :
    RouterInvariant (setRequest (remove s request.runner waiter) waiter moved) := by
  obtain ⟨pending, capacity, busy, limit, _⟩ := remove_rest s request.runner waiter
  have shape := remove_queued s joined.shape request.runner waiter
  refine ⟨⟨shape.unique, shape.listed, shape.keys, shape.filled, shape.apart⟩,
    left_waiting s waiter request moved joined left, ?_, ?_⟩
  · change queued (remove s request.runner waiter) ≤ (remove s request.runner waiter).maxPending
    rw [pending]
    exact Nat.le_trans (remove_count s request.runner waiter) joined.pending
  · change (remove s request.runner waiter).capacity ≤
      (remove s request.runner waiter).busy.length * (remove s request.runner waiter).limit
    rw [capacity, busy, limit]
    exact joined.sized

theorem attempt_invariant (joined : Joined s waiter request) : RouterInvariant (attempt s waiter request) := by
  rcases attempt_cases s waiter request with ⟨_, left⟩ | ⟨_, turn, left⟩ | ⟨_, _, stays⟩
  · rw [left]
    exact leaving_invariant s waiter request _ joined fun same => by cases same
  · rw [left]
    exact leaving_invariant (dispatching s request.runner) waiter request _ (dispatching_joined s waiter request joined turn)
      fun same => by cases same
  · rw [stays]
    have shape := joined.shape
    exact ⟨⟨shape.unique, shape.listed, shape.keys, shape.filled, shape.apart⟩, stayed_waiting s waiter request joined,
      joined.pending, joined.sized⟩

def takesTurn (s : Router) (waiter : Nat) (request : Request) : Prop :=
  request.runner ∉ s.cancelled ∧ canDispatch s request.runner waiter = true

instance (s : Router) (waiter : Nat) (request : Request) : Decidable (takesTurn s waiter request) :=
  inferInstanceAs (Decidable (_ ∧ _))

theorem attempt_read (read : s.requests[waiter]? = some request) :
    ∃ moved, (attempt s waiter request).requests[waiter]? = some moved ∧ moved.runner = request.runner ∧
      moved.phase = if request.runner ∈ s.cancelled then .finished else if takesTurn s waiter request then .executing else .waiting := by
  have removed : ∀ t : Router, t.requests = s.requests → (remove t request.runner waiter).requests[waiter]? = some request := by
    intro t same
    rw [(remove_rest t request.runner waiter).2.2.2.2.2, same]
    exact read
  rcases attempt_cases s waiter request with ⟨stopped, left⟩ | ⟨free, turn, left⟩ | ⟨free, wait, stays⟩
  · rw [left, set_request_read _ waiter request _ (removed s rfl), if_pos stopped]
    exact ⟨_, rfl, rfl, rfl⟩
  · rw [left, set_request_read _ waiter request _ (removed (dispatching s request.runner) rfl), if_neg free, if_pos (show takesTurn _ _ _ from ⟨free, turn⟩)]
    exact ⟨_, rfl, rfl, rfl⟩
  · have passes : ¬ takesTurn s waiter request := by
      intro taken
      rw [taken.2] at wait
      cases wait
    rw [stays, set_request_read _ waiter request _ read, if_neg free, if_neg passes]
    exact ⟨_, rfl, rfl, rfl⟩

theorem attempt_move (joined : Joined s waiter request) :
    Move s.order (if takesTurn s waiter request then some request.runner else none) (attempt s waiter request).order := by
  rcases attempt_cases s waiter request with ⟨stopped, left⟩ | ⟨free, turn, left⟩ | ⟨free, wait, stays⟩
  · have passes : ¬ takesTurn s waiter request := fun taken => taken.1 stopped
    rw [if_neg passes, left]
    change Move s.order none (remove s request.runner waiter).order
    rcases remove_order s request.runner waiter with same | ⟨_, gone⟩
    · rw [same]
      exact .stay s.order
    · rw [gone]
      exact .leave s.order request.runner
  · obtain ⟨rest, ring⟩ := can_dispatch_head s request.runner waiter turn
    have turned : (dispatching s request.runner).order = rest ++ [request.runner] := by
      rw [dispatching]
      dsimp only
      rw [ring]
      rfl
    have apart : request.runner ∉ rest := (List.nodup_cons.mp (ring ▸ joined.shape.unique)).1
    rw [if_pos (show takesTurn _ _ _ from ⟨free, turn⟩), left, ring]
    change Move _ _ (remove (dispatching s request.runner) request.runner waiter).order
    rcases remove_order (dispatching s request.runner) request.runner waiter with same | ⟨_, gone⟩
    · rw [same, turned]
      exact .serve request.runner rest
    · rw [gone, turned, List.erase_append_right _ apart, List.erase_cons_head, List.append_nil]
      exact .serveLast request.runner rest
  · have passes : ¬ takesTurn s waiter request := by
      intro taken
      rw [taken.2] at wait
      cases wait
    rw [if_neg passes, stays]
    exact .stay s.order

theorem enqueue_rest :
    (enqueue s runner waiter).maxPending = s.maxPending ∧ (enqueue s runner waiter).capacity = s.capacity ∧
      (enqueue s runner waiter).busy = s.busy ∧ (enqueue s runner waiter).limit = s.limit ∧
      (enqueue s runner waiter).cancelled = s.cancelled ∧ (enqueue s runner waiter).requests = s.requests := by
  rw [enqueue]
  cases Dict.get runner s.queues with
  | none => exact ⟨rfl, rfl, rfl, rfl, rfl, rfl⟩
  | some queue => exact ⟨rfl, rfl, rfl, rfl, rfl, rfl⟩

theorem enter_joined (inv : RouterInvariant s) (waiter : Nat) (request : Request) (read : s.requests[waiter]? = some request)
    (entering : request.phase = .entering) (room : queued s < s.maxPending) :
    Joined (enqueue s request.runner waiter) waiter request := by
  obtain ⟨pending, capacity, busy, limit, _, requests⟩ := enqueue_rest s request.runner waiter
  have absent : ∀ runner, waiter ∉ queueOf s runner := by
    intro runner held
    obtain ⟨other, same, waits, _⟩ := (inv.waiting waiter runner).mp held
    cases read.symm.trans same
    rw [entering] at waits
    cases waits
  refine ⟨enqueue_queued s inv.shape request.runner waiter (absent request.runner), requests ▸ read, ?_, ?_, ?_, ?_, ?_⟩
  · rw [enqueue_queue, if_pos rfl]
    exact List.mem_append_right _ (List.mem_singleton_self waiter)
  · intro other runner apart
    rw [WaitsIn, requests, ← WaitsIn, ← inv.waiting other runner, enqueue_queue]
    by_cases same : runner = request.runner
    · rw [if_pos same, List.mem_append, List.mem_singleton]
      exact or_iff_left apart
    · rw [if_neg same]
  · intro runner held
    rw [enqueue_queue] at held
    by_cases same : runner = request.runner
    · exact same
    · rw [if_neg same] at held
      exact absurd held (absent runner)
  · rw [enqueue_count, pending]
    exact room
  · rw [capacity, busy, limit]
    exact inv.sized

theorem wake_joined (inv : RouterInvariant s) (waiter : Nat) (request : Request) (read : s.requests[waiter]? = some request)
    (waits : request.phase = .waiting) : Joined s waiter request := by
  refine ⟨inv.shape, read, ?_, ?_, ?_, inv.pending, inv.sized⟩
  · exact (inv.waiting waiter request.runner).mpr ⟨request, read, waits, rfl⟩
  · intro other runner _
    exact inv.waiting other runner
  · intro runner held
    obtain ⟨other, same, _, owner⟩ := (inv.waiting waiter runner).mp held
    cases read.symm.trans same
    exact owner.symm

theorem enter_move (inv : RouterInvariant s) (waiter : Nat) (request : Request)
    (joined : Joined (enqueue s request.runner waiter) waiter request) :
    Move s.order (if takesTurn (enqueue s request.runner waiter) waiter request then some request.runner else none)
      (attempt (enqueue s request.runner waiter) waiter request).order := by
  have move := attempt_move (enqueue s request.runner waiter) waiter request joined
  have kept := attempt_invariant (enqueue s request.runner waiter) waiter request joined
  rcases enqueue_order s inv.shape request.runner waiter with ⟨_, same⟩ | ⟨fresh, grown⟩
  · rw [same] at move
    exact move
  · rcases attempt_cases (enqueue s request.runner waiter) waiter request with ⟨stopped, left⟩ | ⟨free, turn, left⟩ | ⟨free, wait, stays⟩
    · have passes : ¬ takesTurn (enqueue s request.runner waiter) waiter request := fun taken => taken.1 stopped
      rw [if_neg passes, left]
      change Move s.order none (remove (enqueue s request.runner waiter) request.runner waiter).order
      rcases remove_order (enqueue s request.runner waiter) request.runner waiter with same | ⟨_, gone⟩
      · rw [same, grown]
        exact .join s.order request.runner fresh
      · rw [gone, grown, List.erase_append_right _ fresh, List.erase_cons_head, List.append_nil]
        exact .stay s.order
    · obtain ⟨rest, ring⟩ := can_dispatch_head (enqueue s request.runner waiter) request.runner waiter turn
      rw [grown] at ring
      cases empty : s.order with
      | cons first others =>
          rw [empty, List.cons_append] at ring
          have head : first = request.runner := (List.cons.inj ring).1
          rw [empty, head] at fresh
          exact absurd List.mem_cons_self fresh
      | nil =>
          -- The queue held this call alone, so the Runner is out of the ring again.
          have alone : queueOf s request.runner = [] := by
            by_contra held
            exact fresh ((listed_queue s inv.shape request.runner).mpr held)
          have gone : queueOf (attempt (enqueue s request.runner waiter) waiter request) request.runner = [] := by
            rw [left]
            change queueOf (remove (dispatching (enqueue s request.runner waiter) request.runner) request.runner waiter)
              request.runner = []
            rw [remove_queue, if_pos rfl]
            change (queueOf (enqueue s request.runner waiter) request.runner).erase waiter = []
            rw [enqueue_queue, if_pos rfl, alone, List.nil_append, List.erase_cons_head]
          have out : request.runner ∉ (attempt (enqueue s request.runner waiter) waiter request).order :=
            fun listed => (listed_queue _ kept.shape request.runner).mp listed gone
          have takes : takesTurn (enqueue s request.runner waiter) waiter request := ⟨free, turn⟩
          rw [if_pos takes, grown, empty, List.nil_append] at move
          rw [if_pos takes]
          generalize (attempt (enqueue s request.runner waiter) waiter request).order = last at move out
          cases move with
          | serve x rest => exact absurd (List.mem_append_right _ (List.mem_singleton_self _)) out
          | serveLast x rest => exact .pass request.runner
    · have passes : ¬ takesTurn (enqueue s request.runner waiter) waiter request := by
        intro taken
        rw [taken.2] at wait
        cases wait
      rw [if_neg passes, stays]
      change Move s.order none (enqueue s request.runner waiter).order
      rw [grown]
      exact .join s.order request.runner fresh

end LlmperfOrchestrator.RequestPool

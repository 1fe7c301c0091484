import LlmperfOrchestrator.Library.Queues
import LlmperfOrchestrator.Runtime.PoolInvariants

set_option autoImplicit false

namespace LlmperfOrchestrator.RequestPool

open Runs Tables Rings Queues

inductive Change (pool next : Pool) : Option (RunnerId × Nat) → Option (RunnerId × Nat) → Prop
  | quiet (order : next.router.order = pool.router.order) (queues : next.router.queues = pool.router.queues) :
      Change pool next none none
  | leaves (waiter : Nat) (runner : RunnerId) (order : next.router.order = (remove pool.router runner waiter).order)
      (queues : next.router.queues = (remove pool.router runner waiter).queues) : Change pool next none none
  | arrives (waiter : Nat) (request : Request) (joined : Joined (enqueue pool.router request.runner waiter) waiter request)
      (router : next.router = attempt (enqueue pool.router request.runner waiter) waiter request) :
      Change pool next (if takesTurn (enqueue pool.router request.runner waiter) waiter request then some (request.runner, waiter) else none)
        (some (request.runner, waiter))
  | rechecks (waiter : Nat) (request : Request) (joined : Joined pool.router waiter request)
      (router : next.router = attempt pool.router waiter request) :
      Change pool next (if takesTurn pool.router waiter request then some (request.runner, waiter) else none) none

theorem turned_router (pool : Pool) (router : Router) (waiter : Nat) : (turned pool router waiter).router = router := by
  rw [turned]
  split <;> rfl

variable (pool next : Pool)

theorem next_router (router : Router) (event : Event) (settled : pool.next router event = some next) : next.router = router := by
  cases event with
  | call runner => exact congrArg Pool.router (Option.some.inj settled).symm
  | complete other => exact congrArg Pool.router (Option.some.inj settled).symm
  | resume other => exact congrArg Pool.router (Option.some.inj settled).symm
  | forget runner => exact congrArg Pool.router (Option.some.inj settled).symm
  | release other => exact congrArg Pool.router (Option.some.inj settled).symm
  | cancel runner => exact congrArg Pool.router (Option.some.inj settled).symm
  | enter other =>
      rw [Pool.next] at settled
      rw [← Option.some.inj settled]
      split
      · rfl
      · exact turned_router pool router other
  | wake other =>
      rw [Pool.next] at settled
      split at settled
      · rw [← Option.some.inj settled, turned_router]
      · cases settled
  | cancelTask other =>
      rw [Pool.next] at settled
      rw [← Option.some.inj settled]
      split <;> rfl

theorem dispatched_turn (event : Event) (waiter : Nat) (s : Router) (request : Request) (turn : turnOf event = some waiter)
    (taken : pool.step event = some next) (read : s.requests[waiter]? = some request)
    (router : next.router = attempt s waiter request) :
    dispatched pool event = if takesTurn s waiter request then some (request.runner, waiter) else none := by
  obtain ⟨moved, found, owner, phase⟩ := attempt_read s waiter request read
  rw [dispatched, turn, taken]
  dsimp only
  rw [router, found]
  dsimp only
  rw [phase, owner]
  by_cases stopped : request.runner ∈ s.cancelled
  · have passes : ¬ takesTurn s waiter request := fun takes => takes.1 stopped
    rw [if_pos stopped, if_neg passes, if_neg (by decide)]
  · rw [if_neg stopped]
    by_cases takes : takesTurn s waiter request
    · rw [if_pos takes, if_pos takes, if_pos rfl]
    · rw [if_neg takes, if_neg takes, if_neg (by decide)]

theorem step_change (pool : Pool) (event : Event) (next : Pool) (inv : PoolInvariant pool) (taken : pool.step event = some next) :
    Change pool next (dispatched pool event) (arrived pool event) := by
  cases event with
  | call runner =>
      cases taken
      exact .quiet rfl rfl
  | enter waiter =>
      obtain ⟨router, moved, settled⟩ := Option.bind_eq_some_iff.mp taken
      obtain ⟨request, read, moved⟩ := on_request_some _ _ _ _ moved
      rw [enter] at moved
      by_cases entering : request.phase = .entering
      · rw [if_pos entering] at moved
        by_cases full : queued pool.router ≥ pool.router.maxPending
        · rw [if_pos full] at moved
          cases moved
          have stays : next = ⟨setRequest pool.router waiter { request with phase := .finished }, pool.woken⟩ := by
            rw [Pool.next, rejects, if_pos (decide_eq_true full)] at settled
            exact (Option.some.inj settled).symm
          have none : dispatched pool (.enter waiter) = none := by
            rw [dispatched, turnOf, taken]
            dsimp only
            rw [stays, set_request_read pool.router waiter request _ read]
            rfl
          have absent : arrived pool (.enter waiter) = .none := by
            simp only [arrived, taken]
            rw [rejects, if_pos (decide_eq_true full)]
          rw [none, absent, stays]
          exact .quiet rfl rfl
        · rw [if_neg full] at moved
          cases moved
          have room : rejects pool.router = false := decide_eq_false full
          have joined := enter_joined pool.router inv.router waiter request read entering (Nat.lt_of_not_le full)
          have router := next_router pool next _ _ settled
          have arrives : arrived pool (.enter waiter) = some (request.runner, waiter) := by
            simp only [arrived, taken]
            rw [room, if_neg Bool.false_ne_true, read]
            rfl
          rw [arrives, dispatched_turn pool next (.enter waiter) waiter _ request rfl taken joined.read router]
          exact .arrives waiter request joined router
      · rw [if_neg entering] at moved
        cases moved
  | wake waiter =>
      obtain ⟨router, moved, settled⟩ := Option.bind_eq_some_iff.mp taken
      obtain ⟨request, read, moved⟩ := on_request_some _ _ _ _ moved
      rw [wake] at moved
      by_cases waits : request.phase = .waiting
      · rw [if_pos waits] at moved
        cases moved
        have joined := wake_joined pool.router inv.router waiter request read waits
        have router := next_router pool next _ _ settled
        rw [dispatched_turn pool next (.wake waiter) waiter pool.router request rfl taken read router]
        exact .rechecks waiter request joined router
      · rw [if_neg waits] at moved
        cases moved
  | complete waiter =>
      obtain ⟨router, moved, settled⟩ := Option.bind_eq_some_iff.mp taken
      obtain ⟨request, read, moved⟩ := on_request_some _ _ _ _ moved
      cases settled
      rw [complete] at moved
      split at moved
      · cases moved
        exact .quiet rfl rfl
      · cases moved
  | resume waiter =>
      obtain ⟨router, moved, settled⟩ := Option.bind_eq_some_iff.mp taken
      obtain ⟨request, read, moved⟩ := on_request_some _ _ _ _ moved
      cases settled
      rw [resume] at moved
      split at moved
      · cases moved
        exact .quiet rfl rfl
      · cases moved
  | release waiter =>
      obtain ⟨router, moved, settled⟩ := Option.bind_eq_some_iff.mp taken
      obtain ⟨request, read, moved⟩ := on_request_some _ _ _ _ moved
      cases settled
      rw [release] at moved
      split at moved
      · split at moved
        · cases moved
        · cases moved
          exact .quiet rfl rfl
      · cases moved
  | cancelTask waiter =>
      obtain ⟨router, moved, settled⟩ := Option.bind_eq_some_iff.mp taken
      obtain ⟨request, read, moved⟩ := on_request_some _ _ _ _ moved
      have same := next_router pool next router _ settled
      change Change pool next none none
      by_cases waits : request.phase = .waiting
      · rw [cancelTask, waits] at moved
        cases moved
        apply Change.leaves waiter request.runner
        · rw [same]
          rfl
        · rw [same]
          rfl
      · obtain ⟨phase, _, _, silent⟩ := cancel_task_silent pool.router router waiter request waits moved
        apply Change.quiet
        · rw [same, silent]
          rfl
        · rw [same, silent]
          rfl
  | cancel runner =>
      cases taken
      exact .quiet rfl rfl
  | forget runner =>
      cases taken
      exact .quiet rfl rfl

theorem chosen_runner (taken : Prop) [Decidable taken] (runner : RunnerId) (waiter : Nat) :
    (if taken then some (runner, waiter) else none).map Prod.fst = if taken then some runner else none := by
  split <;> rfl

theorem change_move (inv : PoolInvariant pool) (served came : Option (RunnerId × Nat)) (change : Change pool next served came) :
    Move pool.router.order (served.map Prod.fst) next.router.order := by
  cases change with
  | quiet order queues =>
      rw [order]
      exact .stay pool.router.order
  | leaves waiter runner order queues =>
      rw [order]
      rcases remove_order pool.router runner waiter with same | ⟨_, gone⟩
      · rw [same]
        exact .stay pool.router.order
      · rw [gone]
        exact .leave pool.router.order runner
  | arrives waiter request joined router =>
      rw [router, chosen_runner]
      exact enter_move pool.router inv.router waiter request joined
  | rechecks waiter request joined router =>
      rw [router, chosen_runner]
      exact attempt_move pool.router waiter request joined

def forRunner (runner : RunnerId) (entry : Option (RunnerId × Nat)) : Option Nat :=
  entry.bind fun found => if found.1 = runner then some found.2 else none

theorem for_runner_chosen (taken : Prop) [Decidable taken] (query runner : RunnerId) (waiter : Nat) :
    forRunner query (if taken then some (runner, waiter) else none) = if taken ∧ runner = query then some waiter else none := by
  by_cases takes : taken
  · by_cases same : runner = query
    · rw [if_pos takes, if_pos ⟨takes, same⟩, forRunner, Option.bind_some, if_pos same]
    · rw [if_pos takes, if_neg (fun both => same both.2), forRunner, Option.bind_some, if_neg same]
  · rw [if_neg takes, if_neg (fun both => takes both.1)]
    rfl

theorem remove_sublist (s : Router) (runner query : RunnerId) (waiter : Nat) :
    (queueOf (remove s runner waiter) query).Sublist (queueOf s query) := by
  rw [remove_queue]
  split
  · exact List.erase_sublist
  · exact List.Sublist.refl _

theorem attempt_order (s : Router) (waiter : Nat) (request : Request) (query : RunnerId) :
    ((forRunner query (if takesTurn s waiter request then some (request.runner, waiter) else none)).toList ++
      queueOf (attempt s waiter request) query).Sublist (queueOf s query) := by
  rw [for_runner_chosen]
  rcases attempt_cases s waiter request with ⟨stopped, left⟩ | ⟨free, turn, left⟩ | ⟨free, wait, stays⟩
  · rw [if_neg (fun both => both.1.1 stopped), left]
    exact remove_sublist s request.runner query waiter
  · rw [left]
    change (_ ++ queueOf (remove (dispatching s request.runner) request.runner waiter) query).Sublist _
    rw [remove_queue]
    have same : queueOf (dispatching s request.runner) query = queueOf s query := rfl
    rw [same]
    by_cases owner : query = request.runner
    · subst owner
      simp only [canDispatch, decide_eq_true_eq] at turn
      obtain ⟨rest, front⟩ := List.head?_eq_some_iff.mp turn.2.1
      have queue : queueOf s request.runner = waiter :: rest := front
      have takes : takesTurn s waiter request := by
        refine ⟨free, ?_⟩
        simp only [canDispatch, decide_eq_true_eq]
        exact turn
      rw [if_pos ⟨takes, rfl⟩, if_pos rfl, queue, List.erase_cons_head]
      exact List.Sublist.refl _
    · rw [if_neg (fun both => owner both.2.symm), if_neg owner]
      exact List.Sublist.refl _
  · have passes : ¬ takesTurn s waiter request := by
      intro takes
      rw [takes.2] at wait
      cases wait
    rw [if_neg (fun both => passes both.1), stays]
    exact List.Sublist.refl _

theorem change_order (served came : Option (RunnerId × Nat)) (change : Change pool next served came) (query : RunnerId) :
    ((forRunner query served).toList ++ queueOf next.router query).Sublist
      (queueOf pool.router query ++ (forRunner query came).toList) := by
  cases change with
  | quiet order queues =>
      have same : queueOf next.router query = queueOf pool.router query := by rw [queueOf, queueOf, queues]
      rw [same]
      exact (List.append_nil _).symm ▸ List.Sublist.refl _
  | leaves waiter runner order queues =>
      have same : queueOf next.router query = queueOf (remove pool.router runner waiter) query := by rw [queueOf, queueOf, queues]
      rw [same]
      exact (List.append_nil _).symm ▸ remove_sublist pool.router runner query waiter
  | arrives waiter request joined router =>
      have turn := attempt_order (enqueue pool.router request.runner waiter) waiter request query
      have joins : queueOf (enqueue pool.router request.runner waiter) query =
          queueOf pool.router query ++ (forRunner query (some (request.runner, waiter))).toList := by
        rw [enqueue_queue, forRunner, Option.bind_some]
        by_cases owner : query = request.runner
        · rw [if_pos owner, if_pos owner.symm]
          rfl
        · rw [if_neg owner, if_neg (Ne.symm owner)]
          exact (List.append_nil _).symm
      rw [router]
      exact joins ▸ turn
  | rechecks waiter request joined router =>
      rw [router]
      exact (List.append_nil _).symm ▸ attempt_order pool.router waiter request query

def dispatchedFor (runner : RunnerId) (pool : Pool) (event : Event) : Option Nat := forRunner runner (dispatched pool event)

def arrivedFor (runner : RunnerId) (pool : Pool) (event : Event) : Option Nat := forRunner runner (arrived pool event)

def Entered (router : Router) (waiter : Nat) : Prop :=
  ∃ request, router.requests[waiter]? = some request ∧ request.phase ≠ .entering

theorem set_entered (s next : Router) (waiter : Nat) (old moved : Request) (requests : next.requests = s.requests.set waiter moved)
    (read : s.requests[waiter]? = some old) (onwards : old.phase ≠ .entering → moved.phase ≠ .entering) (other : Nat)
    (entered : Entered s other) : Entered next other := by
  obtain ⟨request, found, past⟩ := entered
  rw [Entered, requests]
  by_cases here : other = waiter
  · subst here
    cases read.symm.trans found
    exact ⟨moved, List.getElem?_set_self (List.getElem?_eq_some_iff.mp read).1, onwards past⟩
  · exact ⟨request, (List.getElem?_set_ne (Ne.symm here)).trans found, past⟩

theorem attempt_requests (s : Router) (waiter : Nat) (request : Request) :
    ∃ moved, (attempt s waiter request).requests = s.requests.set waiter moved ∧ moved.phase ≠ .entering := by
  rcases attempt_cases s waiter request with ⟨_, left⟩ | ⟨_, _, left⟩ | ⟨_, _, stays⟩
  · rw [left]
    refine ⟨{ request with phase := .finished }, ?_, (fun same => by cases same)⟩
    rw [setRequest, (remove_rest s request.runner waiter).2.2.2.2.2]
  · rw [left]
    refine ⟨dispatchedRequest s request, ?_, (fun same => by cases same)⟩
    rw [setRequest, (remove_rest (dispatching s request.runner) request.runner waiter).2.2.2.2.2]
    rfl
  · rw [stays]
    exact ⟨_, rfl, (fun same => by cases same)⟩

theorem step_requests (s next : Router) (event : Event) (taken : step s event = some next) :
    (∃ runner, next.requests = s.requests ++ [⟨runner, .entering, none, .none, 0⟩]) ∨ next.requests = s.requests ∨
      ∃ waiter old moved, s.requests[waiter]? = some old ∧ next.requests = s.requests.set waiter moved ∧
        (old.phase ≠ .entering → moved.phase ≠ .entering) := by
  cases event with
  | call runner =>
      cases taken
      exact .inl ⟨runner, rfl⟩
  | cancel runner =>
      cases taken
      exact .inr (.inl rfl)
  | forget runner =>
      cases taken
      exact .inr (.inl rfl)
  | enter waiter =>
      obtain ⟨request, read, moved⟩ := on_request_some _ _ _ _ taken
      rw [enter] at moved
      split at moved
      · split at moved
        · cases moved
          exact .inr (.inr ⟨waiter, request, _, read, rfl, (fun _ same => by cases same)⟩)
        · cases moved
          obtain ⟨moved, requests, past⟩ := attempt_requests (enqueue s request.runner waiter) waiter request
          rw [(enqueue_rest s request.runner waiter).2.2.2.2.2] at requests
          exact .inr (.inr ⟨waiter, request, moved, read, requests, fun _ => past⟩)
      · cases moved
  | wake waiter =>
      obtain ⟨request, read, moved⟩ := on_request_some _ _ _ _ taken
      rw [wake] at moved
      split at moved
      · cases moved
        obtain ⟨moved, requests, past⟩ := attempt_requests s waiter request
        exact .inr (.inr ⟨waiter, request, moved, read, requests, fun _ => past⟩)
      · cases moved
  | complete waiter =>
      obtain ⟨request, read, moved⟩ := on_request_some _ _ _ _ taken
      rw [complete] at moved
      split at moved
      · cases moved
        exact .inr (.inr ⟨waiter, request, _, read, rfl, fun past => past⟩)
      · cases moved
  | resume waiter =>
      obtain ⟨request, read, moved⟩ := on_request_some _ _ _ _ taken
      rw [resume] at moved
      split at moved
      · cases moved
        exact .inr (.inr ⟨waiter, request, _, read, rfl, (fun _ same => by cases same)⟩)
      · cases moved
  | release waiter =>
      obtain ⟨request, read, moved⟩ := on_request_some _ _ _ _ taken
      rw [release] at moved
      split at moved
      · split at moved
        · cases moved
        · cases moved
          exact .inr (.inr ⟨waiter, request, _, read, rfl, (fun _ same => by cases same)⟩)
      · cases moved
  | cancelTask waiter =>
      obtain ⟨request, read, moved⟩ := on_request_some _ _ _ _ taken
      by_cases waits : request.phase = .waiting
      · rw [cancelTask, waits] at moved
        cases moved
        refine .inr (.inr ⟨waiter, request, { request with phase := .finished }, read, ?_, (fun _ same => by cases same)⟩)
        rw [setRequest, (remove_rest s request.runner waiter).2.2.2.2.2]
      · obtain ⟨phase, _, past, same⟩ := cancel_task_silent s next waiter request waits moved
        exact .inr (.inr ⟨waiter, request, _, read, congrArg Router.requests same, fun _ => past⟩)

theorem step_entered (event : Event) (taken : pool.step event = some next) (waiter : Nat) (entered : Entered pool.router waiter) :
    Entered next.router waiter := by
  obtain ⟨router, moved, settled⟩ := Option.bind_eq_some_iff.mp taken
  rw [next_router pool next router event settled]
  rcases step_requests pool.router router event moved with ⟨runner, grown⟩ | kept | ⟨other, old, changed, read, requests, onwards⟩
  · obtain ⟨request, found, past⟩ := entered
    refine ⟨request, ?_, past⟩
    rw [grown]
    exact (List.getElem?_append_left (List.getElem?_eq_some_iff.mp found).1).trans found
  · rw [Entered, kept]
    exact entered
  · exact set_entered pool.router router other old changed requests read onwards waiter entered

theorem arrival_enters (pool : Pool) (event : Event) (runner : RunnerId) (waiter : Nat)
    (arrives : arrivedFor runner pool event = some waiter) :
    ¬ Entered pool.router waiter ∧ ∀ next, pool.step event = some next → Entered next.router waiter := by
  cases event with
  | enter other =>
      cases taken : pool.step (.enter other) with
      | none =>
          simp only [arrivedFor, arrived, taken] at arrives
          cases arrives
      | some reached =>
          obtain ⟨router, moved, settled⟩ := Option.bind_eq_some_iff.mp taken
          obtain ⟨request, read, moved⟩ := on_request_some _ _ _ _ moved
          simp only [arrivedFor, arrived, taken] at arrives
          by_cases full : queued pool.router ≥ pool.router.maxPending
          · rw [rejects, if_pos (decide_eq_true full)] at arrives
            cases arrives
          · rw [rejects, if_neg (fun held => full (of_decide_eq_true held)), read, Option.map_some, forRunner, Option.bind_some] at arrives
            by_cases owner : request.runner = runner
            · rw [if_pos owner] at arrives
              cases arrives
              rw [enter] at moved
              by_cases entering : request.phase = .entering
              · rw [if_pos entering, if_neg full] at moved
                constructor
                · intro entered
                  obtain ⟨found, same, past⟩ := entered
                  cases read.symm.trans same
                  exact past entering
                · intro next same
                  cases same
                  obtain ⟨changed, requests, past⟩ := attempt_requests (enqueue pool.router request.runner other) other request
                  rw [(enqueue_rest pool.router request.runner other).2.2.2.2.2] at requests
                  refine ⟨changed, ?_, past⟩
                  rw [next_router pool reached router _ settled, ← Option.some.inj moved, requests]
                  exact List.getElem?_set_self (List.getElem?_eq_some_iff.mp read).1
              · rw [if_neg entering] at moved
                cases moved
            · rw [if_neg owner] at arrives
              cases arrives
  | _ => cases arrives

theorem spare_load (busy : List Nat) (limit : Nat) (room : busy.sum < busy.length * limit) : ∃ load ∈ busy, load < limit := by
  induction busy with
  | nil => simp at room
  | cons load rest ih =>
      by_cases spare : load < limit
      · exact ⟨load, List.mem_cons_self, spare⟩
      · rw [List.sum_cons, List.length_cons, Nat.succ_mul] at room
        obtain ⟨other, listed, free⟩ := ih (by omega)
        exact ⟨other, List.mem_cons_of_mem _ listed, free⟩

theorem least_busy_free (busy : List Nat) (limit : Nat) (room : busy.sum < busy.length * limit) :
    busy.getD (leastBusy busy) limit < limit := by
  obtain ⟨load, listed, free⟩ := spare_load busy limit room
  cases least : busy.min? with
  | none =>
      rw [List.min?_eq_none_iff.mp least] at listed
      cases listed
  | some smallest =>
      obtain ⟨member, below⟩ := List.min?_eq_some_iff.mp least
      rw [leastBusy, least, Option.getD_some, List.getD_eq_getElem?_getD,
        List.getElem?_eq_getElem (List.idxOf_lt_length_iff.mpr member), Option.getD_some, List.getElem_idxOf]
      exact Nat.lt_of_le_of_lt (below load listed) free

theorem first_waiter_ready (pool : Pool) (inv : PoolInvariant pool) (room : pool.router.busy.sum < pool.router.capacity)
    (waits : queued pool.router ≠ 0) :
    ∃ runner waiter, pool.router.order.head? = some runner ∧ (queueOf pool.router runner).head? = some waiter ∧
      pool.router.busy.getD (leastBusy pool.router.busy) pool.router.limit < pool.router.limit ∧
      canDispatch pool.router runner waiter = true ∧ waiter ∈ pool.woken := by
  have shape := inv.router.shape
  have some : pool.router.order ≠ [] := by
    intro empty
    apply waits
    cases entries : pool.router.queues with
    | nil => rw [queued, entries, total_nil]
    | cons entry rest =>
        have held : Dict.get entry.1 pool.router.queues ≠ none := by
          rw [entries, Dict.get, if_pos rfl]
          intro absent
          cases absent
        have listed := (shape.listed entry.1).mpr held
        rw [empty] at listed
        cases listed
  obtain ⟨runner, rest, ring⟩ := List.exists_cons_of_ne_nil some
  have listed : runner ∈ pool.router.order := ring ▸ List.mem_cons_self
  obtain ⟨waiter, behind, queue⟩ := List.exists_cons_of_ne_nil ((listed_queue pool.router shape runner).mp listed)
  have head : pool.router.order.head? = .some runner := by rw [ring, List.head?_cons]
  have front : (queueOf pool.router runner).head? = .some waiter := by rw [queue, List.head?_cons]
  have spare := least_busy_free pool.router.busy pool.router.limit (Nat.lt_of_lt_of_le room inv.router.sized)
  have turn : canDispatch pool.router runner waiter = true := by
    simp only [canDispatch, decide_eq_true_eq]
    exact ⟨head, front, spare, room⟩
  refine ⟨runner, waiter, head, front, spare, turn, ?_⟩
  by_contra sleeps
  have member : waiter ∈ queueOf pool.router runner := queue ▸ List.mem_cons_self
  obtain ⟨request, read, waiting, owner⟩ := (inv.router.waiting waiter runner).mp member
  have quiet := (inv.asleep waiter request read waiting sleeps).2
  rw [owner, turn] at quiet
  cases quiet

theorem wake_dispatches (pool : Pool) (inv : PoolInvariant pool) (runner : RunnerId) (waiter : Nat)
    (front : (queueOf pool.router runner).head? = some waiter) (turn : canDispatch pool.router runner waiter = true)
    (woken : waiter ∈ pool.woken) (free : runner ∉ pool.router.cancelled) :
    dispatched pool (.wake waiter) = some (runner, waiter) := by
  obtain ⟨rest, queue⟩ := List.head?_eq_some_iff.mp front
  have member : waiter ∈ queueOf pool.router runner := queue ▸ List.mem_cons_self
  obtain ⟨request, read, waiting, rfl⟩ := (inv.router.waiting waiter runner).mp member
  have step : pool.step (.wake waiter) = some (turned pool (attempt pool.router waiter request) waiter) := by
    have moved : RequestPool.step pool.router (.wake waiter) = some (attempt pool.router waiter request) := by
      change onRequest pool.router waiter wake = _
      rw [onRequest, read]
      dsimp only
      rw [wake, if_pos waiting]
    rw [Pool.step, moved, Option.bind_some, Pool.next, if_pos woken]
  have takes : takesTurn pool.router waiter request := ⟨free, turn⟩
  rw [dispatched_turn pool _ (.wake waiter) waiter pool.router request rfl step read (turned_router pool _ waiter), if_pos takes]

theorem attempt_bound (s : Router) (waiter : Nat) (request : Request) : (attempt s waiter request).maxPending = s.maxPending := by
  rcases attempt_cases s waiter request with ⟨_, left⟩ | ⟨_, _, left⟩ | ⟨_, _, stays⟩
  · rw [left]
    exact (remove_rest s request.runner waiter).1
  · rw [left]
    exact (remove_rest (dispatching s request.runner) request.runner waiter).1
  · rw [stays]
    rfl

theorem step_bound (s next : Router) (event : Event) (taken : step s event = some next) : next.maxPending = s.maxPending := by
  cases event with
  | call runner | cancel runner | forget runner =>
      cases taken
      rfl
  | enter waiter =>
      obtain ⟨request, read, moved⟩ := on_request_some _ _ _ _ taken
      rw [enter] at moved
      split at moved
      · split at moved
        · cases moved
          rfl
        · cases moved
          rw [attempt_bound]
          exact (enqueue_rest s request.runner waiter).1
      · cases moved
  | wake waiter =>
      obtain ⟨request, read, moved⟩ := on_request_some _ _ _ _ taken
      rw [wake] at moved
      split at moved
      · cases moved
        exact attempt_bound s waiter request
      · cases moved
  | complete waiter =>
      obtain ⟨request, read, moved⟩ := on_request_some _ _ _ _ taken
      rw [complete] at moved
      split at moved
      · cases moved
        rfl
      · cases moved
  | resume waiter =>
      obtain ⟨request, read, moved⟩ := on_request_some _ _ _ _ taken
      rw [resume] at moved
      split at moved
      · cases moved
        rfl
      · cases moved
  | release waiter =>
      obtain ⟨request, read, moved⟩ := on_request_some _ _ _ _ taken
      rw [release] at moved
      split at moved
      · split at moved
        · cases moved
        · cases moved
          rfl
      · cases moved
  | cancelTask waiter =>
      obtain ⟨request, read, moved⟩ := on_request_some _ _ _ _ taken
      by_cases waits : request.phase = .waiting
      · rw [cancelTask, waits] at moved
        cases moved
        exact (remove_rest s request.runner waiter).1
      · obtain ⟨phase, _, _, same⟩ := cancel_task_silent s next waiter request waits moved
        rw [same]
        rfl

theorem created_invariant (actors requestsPerActor maxPending : Nat) (maxRequests : Option Nat) (router : Router)
    (created : create actors requestsPerActor maxPending maxRequests = .ok router) :
    PoolInvariant ⟨router, []⟩ ∧ router.maxPending = maxPending ∧ ∀ runner, queueOf router runner = [] := by
  simp only [create] at created
  by_cases bad : actors = 0 ∨ requestsPerActor < 1 ∨ maxPending < 1
  · rw [if_pos bad] at created
    cases created
  · rw [if_neg bad] at created
    cases created
    refine ⟨⟨⟨⟨List.nodup_nil, ?_, List.nodup_nil, ?_, ?_⟩, ?_, Nat.zero_le _, ?_⟩, ?_⟩, rfl, fun runner => rfl⟩
    · intro runner
      exact ⟨(fun listed => by cases listed), fun held => absurd rfl held⟩
    · intro runner queue found
      cases found
    · intro runner
      exact List.nodup_nil
    · intro waiter runner
      constructor
      · intro held
        cases held
      · intro held
        obtain ⟨request, read, _⟩ := held
        cases read
    · dsimp only
      rw [List.length_replicate]
      exact Nat.min_le_left _ _
    · intro waiter request read
      cases read

structure Fair (maxPending : Nat) (start : Pool) (events : List Event) (pool : Pool) : Prop where
  unique : pool.router.order.Nodup
  listed : ∀ runner, runner ∈ pool.router.order ↔ queueOf pool.router runner ≠ []
  pending : queued pool.router ≤ maxPending
  ready : pool.router.busy.sum < pool.router.capacity → queued pool.router ≠ 0 →
    ∃ runner waiter, pool.router.order.head? = some runner ∧ (queueOf pool.router runner).head? = some waiter ∧
      pool.router.busy.getD (leastBusy pool.router.busy) pool.router.limit < pool.router.limit ∧
      canDispatch pool.router runner waiter = true ∧ waiter ∈ pool.woken ∧
      (runner ∉ pool.router.cancelled → dispatched pool (.wake waiter) = some (runner, waiter))
  bypassed : ∀ runner later last, run Pool.step pool later = some last →
    EveryStep Pool.step (fun state event => runner ∈ state.router.order ∧ (dispatched state event).map Prod.fst ≠ some runner)
      pool later →
    occurrences Pool.step (fun state event => ((dispatched state event).map Prod.fst).isSome) pool later ≤
      pool.router.order.idxOf runner
  arrivals : ∀ runner, (collected Pool.step (arrivedFor runner) start events).Nodup
  inOrder : ∀ runner, (collected Pool.step (dispatchedFor runner) start events ++ queueOf pool.router runner).Sublist
    (collected Pool.step (arrivedFor runner) start events)

theorem router_fairness (actors requestsPerActor maxPending : Nat) (maxRequests : Option Nat) (router : Router)
    (created : create actors requestsPerActor maxPending maxRequests = .ok router) (events : List Event) (pool : Pool)
    (reached : run Pool.step ⟨router, []⟩ events = some pool) : Fair maxPending ⟨router, []⟩ events pool := by
  obtain ⟨start, bound, empty⟩ := created_invariant actors requestsPerActor maxPending maxRequests router created
  have inv : PoolInvariant pool := run_invariant Pool.step PoolInvariant
    (fun state event next held taken => step_invariant state event next held taken) events _ pool start reached
  have pending : pool.router.maxPending = maxPending :=
    run_invariant Pool.step (fun state => state.router.maxPending = maxPending)
      (fun state event next held taken => by
        obtain ⟨moved, stepped, settled⟩ := Option.bind_eq_some_iff.mp taken
        rw [next_router state next moved event settled, step_bound state.router moved event stepped]
        exact held) events _ pool bound reached
  refine ⟨inv.router.shape.unique, listed_queue pool.router inv.router.shape, pending ▸ inv.router.pending, ?_, ?_, ?_, ?_⟩
  · intro room waits
    obtain ⟨runner, waiter, head, front, spare, turn, woken⟩ := first_waiter_ready pool inv room waits
    exact ⟨runner, waiter, head, front, spare, turn, woken, wake_dispatches pool inv runner waiter front turn woken⟩
  · intro runner later last continues waits
    exact passed_at_most Pool.step PoolInvariant (fun state => state.router.order)
      (fun state event => (dispatched state event).map Prod.fst)
      (fun state event next held taken => step_invariant state event next held taken)
      (fun state held => held.router.shape.unique)
      (fun state event next held taken => change_move state next held _ _ (step_change state event next held taken))
      runner later pool last inv waits continues
  · intro runner
    exact (collected_nodup Pool.step (arrivedFor runner) (fun state waiter => Entered state.router waiter)
      (fun state event next waiter entered taken => step_entered state next event taken waiter entered)
      (fun state event waiter arrives => (arrival_enters state event runner waiter arrives).1)
      (fun state event next waiter arrives taken => (arrival_enters state event runner waiter arrives).2 next taken)
      events ⟨router, []⟩).1
  · intro runner
    have order := served_in_order Pool.step PoolInvariant (fun state => queueOf state.router runner) (dispatchedFor runner)
      (arrivedFor runner) (fun state event next held taken => step_invariant state event next held taken)
      (fun state event next held taken => change_order state next _ _ (step_change state event next held taken) runner)
      events ⟨router, []⟩ pool start reached
    have none : queueOf (⟨router, []⟩ : Pool).router runner = [] := empty runner
    rw [none, List.nil_append] at order
    exact order

def contended : List Event := [.call "a", .enter 0, .call "b", .enter 1, .call "a", .enter 2, .complete 0, .resume 0, .release 0, .wake 1]

theorem contended_fair : ∃ router pool, create 1 1 2 none = .ok router ∧ run Pool.step ⟨router, []⟩ contended = some pool ∧
    pool.router.order = ["a"] ∧ Fair 2 ⟨router, []⟩ contended pool :=
  ⟨_, _, rfl, rfl, rfl, router_fairness 1 1 2 none _ rfl contended _ rfl⟩

end LlmperfOrchestrator.RequestPool

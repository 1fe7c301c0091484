import LlmperfOrchestrator.Library.Runs
import LlmperfOrchestrator.Library.Tables

set_option autoImplicit false

namespace LlmperfOrchestrator.RequestPool

open Runs Tables

abbrev RunnerId := String

-- The awaits of RequestRouter.execute: the first lock acquisition, the wait on
-- the condition, the shield, the shield in the handler, and the lock of the
-- final block.
inductive Phase where
  | entering
  | waiting
  | executing
  | draining
  | releasing
  | finished
deriving DecidableEq, Repr

inductive Physical where
  | none
  | inFlight
  | finished
deriving DecidableEq, Repr

-- One execute call with its WaitingRequest. actor is actor_index; frees counts
-- how often the call gave its slot back.
structure Request where
  runner : RunnerId
  phase : Phase
  actor : Option Nat
  physical : Physical
  frees : Nat
deriving DecidableEq, Repr

structure Router where
  limit : Nat
  maxPending : Nat
  capacity : Nat
  busy : List Nat
  queues : Dict RunnerId (List Nat)
  order : List RunnerId
  cancelled : List RunnerId
  executingByRunner : Dict RunnerId Nat
  requests : List Request
deriving DecidableEq, Repr

def create (actors requestsPerActor maxPending : Nat) (maxRequests : Option Nat) : Except String Router :=
  if actors = 0 ∨ requestsPerActor < 1 ∨ maxPending < 1 then
    .error "Request pool requires positive bounded capacity"
  else
    .ok {
      limit := requestsPerActor
      maxPending := maxPending
      -- `max_requests or default`: zero counts as absent
      capacity := min (actors * requestsPerActor)
        (match maxRequests with
          | none => actors * requestsPerActor
          | some bound => if bound = 0 then actors * requestsPerActor else bound)
      busy := List.replicate actors 0
      queues := []
      order := []
      cancelled := []
      executingByRunner := []
      requests := [] }

inductive Event where
  | call (runner : RunnerId)
  | enter (waiter : Nat)
  | wake (waiter : Nat)
  | complete (waiter : Nat)
  | resume (waiter : Nat)
  | release (waiter : Nat)
  | cancelTask (waiter : Nat)
  | cancel (runner : RunnerId)
  | forget (runner : RunnerId)
deriving DecidableEq, Repr

def queued (router : Router) : Nat := total (fun entry => entry.2.length) router.queues

-- min(range(len(busy)), key=busy.__getitem__): the first of the least loaded.
def leastBusy (busy : List Nat) : Nat := busy.idxOf (busy.min?.getD 0)

def rotate (order : List RunnerId) : List RunnerId := order.tail ++ order.head?.toList

def enqueue (router : Router) (runner : RunnerId) (waiter : Nat) : Router :=
  match Dict.get runner router.queues with
  | none => { router with queues := Dict.put runner [waiter] router.queues, order := router.order ++ [runner] }
  | some queue => { router with queues := Dict.put runner (queue ++ [waiter]) router.queues }

def remove (router : Router) (runner : RunnerId) (waiter : Nat) : Router :=
  match Dict.get runner router.queues with
  | none => router
  | some queue =>
      if waiter ∈ queue then
        let rest := queue.erase waiter
        if rest = [] then
          { router with queues := Dict.pop runner router.queues, order := router.order.erase runner }
        else { router with queues := Dict.put runner rest router.queues }
      else router

def setRequest (router : Router) (waiter : Nat) (request : Request) : Router :=
  { router with requests := router.requests.set waiter request }

def addExecuting (runner : RunnerId) (executing : Dict RunnerId Nat) : Dict RunnerId Nat :=
  Dict.put runner ((Dict.get runner executing).getD 0 + 1) executing

def dropExecuting (runner : RunnerId) (executing : Dict RunnerId Nat) : Dict RunnerId Nat :=
  let remaining := (Dict.get runner executing).getD 0 - 1
  if remaining = 0 then Dict.pop runner executing else Dict.put runner remaining executing

def canDispatch (router : Router) (runner : RunnerId) (waiter : Nat) : Bool :=
  router.order.head? = some runner ∧
    ((Dict.get runner router.queues).getD []).head? = some waiter ∧
    router.busy.getD (leastBusy router.busy) router.limit < router.limit ∧
    router.busy.sum < router.capacity

def attempt (router : Router) (waiter : Nat) (request : Request) : Router :=
  if request.runner ∈ router.cancelled then
    setRequest (remove router request.runner waiter) waiter { request with phase := .finished }
  else if canDispatch router request.runner waiter then
    let candidate := leastBusy router.busy
    let dispatched := { router with
      busy := router.busy.set candidate (router.busy.getD candidate 0 + 1)
      executingByRunner := addExecuting request.runner router.executingByRunner
      order := rotate router.order }
    setRequest (remove dispatched request.runner waiter) waiter
      { request with phase := .executing, actor := some candidate, physical := .inFlight }
  else setRequest router waiter { request with phase := .waiting }

def enter (router : Router) (waiter : Nat) (request : Request) : Option Router :=
  if request.phase = .entering then
    if queued router ≥ router.maxPending then some (setRequest router waiter { request with phase := .finished })
    else some (attempt (enqueue router request.runner waiter) waiter request)
  else none

def wake (router : Router) (waiter : Nat) (request : Request) : Option Router :=
  if request.phase = .waiting then some (attempt router waiter request) else none

def complete (router : Router) (waiter : Nat) (request : Request) : Option Router :=
  if request.physical = .inFlight then some (setRequest router waiter { request with physical := .finished }) else none

def resume (router : Router) (waiter : Nat) (request : Request) : Option Router :=
  if (request.phase = .executing ∨ request.phase = .draining) ∧ request.physical = .finished then
    some (setRequest router waiter { request with phase := .releasing })
  else none

def release (router : Router) (waiter : Nat) (request : Request) : Option Router :=
  if request.phase = .releasing then
    match request.actor with
    | none => none
    | some actor =>
        some (setRequest { router with
          busy := router.busy.set actor (router.busy.getD actor 0 - 1)
          executingByRunner := dropExecuting request.runner router.executingByRunner } waiter
          { request with phase := .finished, frees := request.frees + 1 })
  else none

-- CancelledError thrown at the await the call is suspended in. While it waits
-- for the lock of the final block the release is abandoned.
def cancelTask (router : Router) (waiter : Nat) (request : Request) : Option Router :=
  match request.phase with
  | .entering => some (setRequest router waiter { request with phase := .finished })
  | .waiting => some (setRequest (remove router request.runner waiter) waiter { request with phase := .finished })
  | .executing => some (setRequest router waiter { request with phase := .draining })
  | .draining => some (setRequest router waiter { request with phase := .releasing })
  | .releasing => some (setRequest router waiter { request with phase := .finished })
  | .finished => none

def onRequest (router : Router) (waiter : Nat) (move : Router → Nat → Request → Option Router) : Option Router :=
  match router.requests[waiter]? with
  | none => none
  | some request => move router waiter request

def step (router : Router) : Event → Option Router
  | .call runner => some { router with requests := router.requests ++ [⟨runner, .entering, none, .none, 0⟩] }
  | .enter waiter => onRequest router waiter enter
  | .wake waiter => onRequest router waiter wake
  | .complete waiter => onRequest router waiter complete
  | .resume waiter => onRequest router waiter resume
  | .release waiter => onRequest router waiter release
  | .cancelTask waiter => onRequest router waiter cancelTask
  | .cancel runner =>
      some { router with cancelled := if runner ∈ router.cancelled then router.cancelled else router.cancelled ++ [runner] }
  | .forget runner => some { router with cancelled := router.cancelled.filter (· ≠ runner) }

structure Pool where
  router : Router
  woken : List Nat
deriving DecidableEq, Repr

def phaseOf (router : Router) (waiter : Nat) : Option Phase := (router.requests[waiter]?).map Request.phase

def waiters (router : Router) : List Nat :=
  (List.range router.requests.length).filter fun waiter => phaseOf router waiter = some .waiting

-- condition.notify_all()
def notifyAll (router : Router) : Pool := ⟨router, waiters router⟩

def rejects (router : Router) : Bool := queued router ≥ router.maxPending

def turned (pool : Pool) (next : Router) (waiter : Nat) : Pool :=
  if phaseOf next waiter = some .waiting then ⟨next, pool.woken.erase waiter⟩ else notifyAll next

def Pool.next (pool : Pool) (router : Router) : Event → Option Pool
  | .call _ | .complete _ | .resume _ | .forget _ => some ⟨router, pool.woken⟩
  | .enter waiter => some (if rejects pool.router then ⟨router, pool.woken⟩ else turned pool router waiter)
  | .wake waiter => if waiter ∈ pool.woken then some (turned pool router waiter) else none
  | .release _ | .cancel _ => some (notifyAll router)
  | .cancelTask waiter =>
      some (if phaseOf pool.router waiter = some .waiting then notifyAll router else ⟨router, pool.woken⟩)

def Pool.step (pool : Pool) (event : Event) : Option Pool := (RequestPool.step pool.router event).bind fun router => pool.next router event

def turnOf : Event → Option Nat
  | .enter waiter | .wake waiter => some waiter
  | .call _ | .complete _ | .resume _ | .release _ | .cancelTask _ | .cancel _ | .forget _ => none

def dispatched (pool : Pool) (event : Event) : Option (RunnerId × Nat) :=
  match turnOf event, pool.step event with
  | some waiter, some next =>
      match next.router.requests[waiter]? with
      | some request => if request.phase = .executing then some (request.runner, waiter) else none
      | none => none
  | _, _ => none

def arrived (pool : Pool) (event : Event) : Option (RunnerId × Nat) :=
  match event, pool.step event with
  | .enter waiter, some _ =>
      if rejects pool.router then none else (pool.router.requests[waiter]?).map fun request => (request.runner, waiter)
  | _, _ => none

def queueOf (router : Router) (runner : RunnerId) : List Nat := (Dict.get runner router.queues).getD []

end LlmperfOrchestrator.RequestPool

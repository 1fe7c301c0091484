import LlmperfOrchestrator.Storage.RunnerRows
import LlmperfOrchestrator.Storage.RuntimeLease

set_option autoImplicit false

namespace LlmperfOrchestrator.Supervision

open Tables Runs Storage

abbrev BackendId := Nat

structure RequestResult where
  metrics : RequestMetrics
  errorMessage : Option String
deriving DecidableEq

-- What summarize_outcome reads of a summary; the counts are members of results.
structure Summary where
  started : Option Int
  completed : Option Int
  errors : Option Int
  timedOut : Bool
deriving DecidableEq, Repr

structure FirstError where
  code : String
  message : String
deriving DecidableEq, Repr

structure Outcome where
  status : String
  requestsStarted : Int
  requestsCompleted : Int
  requestsFailed : Int
  firstError : Option FirstError
  message : String
deriving DecidableEq, Repr

-- int(count or default)
def counted (count : Option Int) (default : Int) : Int :=
  match count with
  | none | some 0 => default
  | some number => number

def errorText (message : Option String) : String :=
  let text := match message with
    | none | some "" => "Unknown error"
    | some text => text
  if 2000 < text.length then String.ofList (text.toList.take 1997) ++ "..." else text

def firstError (requests : List RequestResult) : Option FirstError :=
  requests.findSome? fun request => request.metrics.errorCode.map fun code => ⟨code, errorText request.errorMessage⟩

def label (count : Int) : String := if count = 1 then "request" else "requests"

def summarizeOutcome (summary : Summary) (requests : List RequestResult) : Outcome × RunnerStatus :=
  let started := counted summary.started requests.length
  let completed := counted summary.completed 0
  let errors := counted summary.errors 0
  let first := firstError requests
  let outcome (status message : String) : Outcome := ⟨status, started, completed, errors, first, message⟩
  if completed = 0 then
    let message := if summary.timedOut ∧ errors = 0 then "No benchmark requests completed before timeout"
      else "No benchmark requests completed (" ++ toString (if errors = 0 then started else errors) ++ " failed)"
    let detailed := match first with
      | none => message
      | some error => message ++ "; first error [" ++ error.code ++ "]: " ++ error.message
    (outcome "failed" detailed, .failed)
  else if errors ≠ 0 then
    (outcome "degraded" (toString completed ++ " " ++ label completed ++ " completed; " ++ toString errors ++ " " ++
      label errors ++ " failed"), .succeeded)
  else (outcome "succeeded" (toString completed ++ " benchmark " ++ label completed ++ " completed"), .succeeded)

theorem success_completed (summary : Summary) (requests : List RequestResult)
    (succeeded : (summarizeOutcome summary requests).2 = .succeeded) : counted summary.completed 0 ≠ 0 := by
  intro none
  simp only [summarizeOutcome, none, ↓reduceIte] at succeeded
  cases succeeded

inductive Payload where
  | failed (error : Option String)
  | finished (summary : Summary) (requests : List RequestResult)
deriving DecidableEq

-- Where an execution task stands: before its first step, at an await of the body of _execute, of its
-- handler of cancellation (interrupted, requeueing), of its handler of exceptions (clearing, failing)
-- or of its finally clause (leaving). starting is the last heartbeat, answered but not yet seen.
inductive Stage where
  | created
  | checking
  | resolving
  | starting
  | waiting
  | cancelling
  | closing (status : RunnerStatus) (message : String)
  | committing (requests : List RequestMetrics) (status : RunnerStatus) (error : Option String)
  | unconfirmed
  | interrupted
  | requeueing
  | clearing (error : String)
  | failing (error : String)
  | leaving
deriving DecidableEq

inductive Part where
  | unstarted
  | body
  | handler
  | cleanup
deriving DecidableEq, Repr

def Stage.part : Stage → Part
  | .created => .unstarted
  | .checking | .resolving | .starting | .waiting | .cancelling | .closing _ _ | .committing _ _ _ | .unconfirmed => .body
  | .interrupted | .requeueing | .clearing _ | .failing _ => .handler
  | .leaving => .cleanup

-- worker tells whether a Worker object exists, notified whether the cancellation event is set.
structure Execution where
  stage : Stage
  worker : Bool
  notified : Bool
deriving DecidableEq

-- start() acquires the runtime, ends what it finds running and then serves; failed is the way out of a
-- start that raised.
inductive Phase where
  | stopped
  | acquired
  | recovering (left : List RunnerId)
  | serving
  | failed
deriving DecidableEq, Repr

-- A Scheduler with its repository object. lost lists the Runners whose execution it has dropped since
-- its acquisition without an answer that they have ended.
structure Backend where
  owner : Option String
  generation : Nat
  phase : Phase
  stopping : Bool
  executions : Dict RunnerId Execution
  lost : List RunnerId
deriving DecidableEq

def idle : Backend := ⟨none, 0, .stopped, false, [], []⟩

variable {Digest : Type} [DecidableEq Digest]

-- launches and returned are histories: the Workers that were started, and the results they returned.
structure World (Digest : Type) [DecidableEq Digest] where
  store : Store Digest
  now : Instant
  backends : BackendId → Backend
  launches : List RunnerId
  returned : List (RunnerId × Summary × List RequestResult)

inductive Action where
  | begin
  | heartbeat (resolved : Bool)
  | launch (failure : Option (Bool × String))
  | result (payload : Payload)
  | noticed
  | cleared
  | save (failure : Option String)
  | inspect
  | raised (error : String)
  | interrupt
  | leave
deriving DecidableEq

inductive Event (Digest : Type) where
  | call (call : Call Digest)
  | insert (id : RunnerId) (runner : Runner)
  | tick (later : Instant)
  | acquire (backend : BackendId) (owner : String) (answered : Bool)
  | renew (backend : BackendId)
  | halt (backend : BackendId)
  | release (backend : BackendId)
  | crash (backend : BackendId)
  | readStale (backend : BackendId)
  | requeueStale (backend : BackendId) (answered : Bool)
  | abort (backend : BackendId)
  | recovered (backend : BackendId)
  | claim (backend : BackendId) (runner : RunnerId) (slot : String) (answered : Bool)
  | notice (backend : BackendId) (runner : RunnerId)
  | act (backend : BackendId) (runner : RunnerId) (action : Action)

namespace World

variable (w : World Digest)

def caller (b : BackendId) : Caller := ⟨(w.backends b).owner, (w.backends b).generation, w.now⟩

def setBackend (b : BackendId) (backend : Backend) : World Digest :=
  { w with backends := fun other => if other = b then backend else w.backends other }

def setLease (lease : Option Lease) : World Digest := { w with store := { w.store with lease := lease } }

def setStore (store : Store Digest) : World Digest := { w with store := store }

def setPhase (b : BackendId) (phase : Phase) : World Digest := w.setBackend b { w.backends b with phase := phase }

def stop (b : BackendId) : World Digest := w.setBackend b { w.backends b with stopping := true }

def put (b : BackendId) (id : RunnerId) (execution : Execution) : World Digest :=
  w.setBackend b { w.backends b with executions := Dict.put id execution (w.backends b).executions }

def goto (b : BackendId) (id : RunnerId) (execution : Execution) (stage : Stage) : World Digest :=
  w.put b id { execution with stage := stage }

def drop (b : BackendId) (id : RunnerId) : World Digest :=
  w.setBackend b { w.backends b with executions := Dict.pop id (w.backends b).executions }

def lose (b : BackendId) (id : RunnerId) : World Digest :=
  w.setBackend b { w.backends b with lost := id :: (w.backends b).lost }

def dropLost (b : BackendId) (id : RunnerId) : World Digest := (w.drop b id).lose b id

def except (b : BackendId) (id : RunnerId) (execution : Execution) (error : String) : Option (World Digest) :=
  match execution.stage.part with
  | .unstarted => none
  | .body => some (w.goto b id execution (if execution.worker then .clearing error else .failing error))
  | .handler => some (w.dropLost b id)
  | .cleanup => some (w.drop b id)

-- A CancelledError in the stage of an execution. A task cancelled before its first step never enters
-- the body.
def cancel (b : BackendId) (id : RunnerId) (execution : Execution) : World Digest :=
  match execution.stage.part with
  | .unstarted | .handler => w.dropLost b id
  | .body => w.goto b id execution .interrupted
  | .cleanup => w.drop b id

end World

def continuing (w : World Digest) (b : BackendId) (id : RunnerId) : Except String Bool :=
  (checkRuntime w.store (w.caller b)).map fun _ => (accepting w.store id).isSome

def indeterminate : String := "indeterminate: execution interrupted; automatic replay disabled"

-- A write of an execution: what it answers moves the execution on. A failure is an error that the
-- caller sees although the transaction has been committed.
def saved (digest : Json → Digest) (w : World Digest) (b : BackendId) (id : RunnerId) (execution : Execution)
    (call : Call Digest) (failure : Option String) (next : Bool → Stage) : Option (World Digest) :=
  let outcome := perform digest w.store call
  match outcome.2, failure with
  | .raised error, _ => w.except b id execution error
  | .flag flag, none => some ((w.setStore outcome.1).goto b id execution (next flag))
  | .flag _, some error => (w.setStore outcome.1).except b id execution error
  | _, _ => none

def save (digest : Json → Digest) (w : World Digest) (b : BackendId) (id : RunnerId) (execution : Execution)
    (failure : Option String) : Option (World Digest) :=
  match execution.stage with
  | .closing status message =>
      saved digest w b id execution (.finishRunner (w.caller b) id status message) failure fun _ => .leaving
  | .requeueing =>
      saved digest w b id execution (.finishRunner (w.caller b) id .failed indeterminate) failure fun _ => .leaving
  | .failing error =>
      saved digest w b id execution (.finishRunner (w.caller b) id .failed error) failure fun _ => .leaving
  | .committing requests status error =>
      let call := .completeRunner (w.caller b) id requests status error
      match failure with
      | none => saved digest w b id execution call none fun flag => if flag then .leaving else .unconfirmed
      -- A SQLAlchemyError: the result is kept and committed again.
      | some _ => some (w.setStore (perform digest w.store call).1)
  | .created | .checking | .resolving | .starting | .waiting | .cancelling | .unconfirmed | .interrupted | .clearing _ | .leaving => none

def result (w : World Digest) (b : BackendId) (id : RunnerId) (execution : Execution) : Payload → World Digest
  | .failed error => w.goto b id execution (.closing .failed (match error with
      | none | some "" => "Ray Worker failed"
      | some text => text))
  | .finished summary requests =>
      let outcome := summarizeOutcome summary requests
      { w with returned := (id, summary, requests) :: w.returned }.goto b id execution
        (.committing (requests.map RequestResult.metrics) outcome.2
          (if outcome.2 = RunnerStatus.failed then some outcome.1.message else none))

-- get_runner, before the discarded result and in the handler of cancellation.
def inspect (w : World Digest) (b : BackendId) (id : RunnerId) (execution : Execution) : Option (World Digest) :=
  match execution.stage, w.store.runners.get id with
  | .unconfirmed, some runner =>
      some (w.goto b id execution
        (if runner.cancelRequested then .closing .cancelled "Benchmark cancelled before result commit" else .leaving))
  | .interrupted, some runner => some (w.goto b id execution (if runner.status.terminal then .leaving else .requeueing))
  | .unconfirmed, none | .interrupted, none => some (w.goto b id execution .leaving)
  | _, _ => none

def launch (w : World Digest) (b : BackendId) (id : RunnerId) (execution : Execution) :
    Option (Bool × String) → World Digest
  | none => { w with launches := id :: w.launches }.put b id { execution with stage := .waiting, worker := true }
  | some (true, error) => w.put b id { execution with stage := .clearing error, worker := true }
  | some (false, error) => w.goto b id execution (.failing error)

def act (digest : Json → Digest) (w : World Digest) (b : BackendId) (id : RunnerId) (execution : Execution) :
    Action → Option (World Digest)
  | .begin => if execution.stage = .created then some (w.goto b id execution .checking) else none
  | .heartbeat resolved =>
      if execution.stage ≠ .checking ∧ execution.stage ≠ .resolving then none
      else
        match continuing w b id with
        | .error error => w.except b id execution error
        | .ok true => some (w.goto b id execution (if execution.stage = .resolving ∧ resolved then .starting else .resolving))
        | .ok false => some (w.goto b id execution (.closing .cancelled "Benchmark cancelled before Worker start"))
  | .launch failure => if execution.stage = .starting then some (launch w b id execution failure) else none
  | .result payload => if execution.stage = .waiting then some (result w b id execution payload) else none
  | .noticed => if execution.stage = .waiting ∧ execution.notified then some (w.goto b id execution .cancelling) else none
  | .cleared =>
      match execution.stage with
      | .cancelling => some (w.goto b id execution (.closing .cancelled "Benchmark cancelled by user"))
      | .clearing error => some (w.goto b id execution (.failing error))
      | _ => none
  | .save failure => save digest w b id execution failure
  | .inspect => inspect w b id execution
  | .raised error => w.except b id execution error
  | .interrupt => if (w.backends b).stopping ∨ execution.stage = .waiting then some (w.cancel b id execution) else none
  | .leave => if execution.stage = .leaving then some (w.drop b id) else none

def schedulerCall : Call Digest → Bool
  | .startSelected _ _ _ | .completeRunner _ _ _ _ _ | .finishRunner _ _ _ _ | .changeLease _ => true
  | _ => false

def acquire (w : World Digest) (b : BackendId) (owner : String) (answered : Bool) : Option (World Digest) :=
  if (w.backends b).phase ≠ .stopped ∨ (w.store.lease.any fun lease => w.now < lease.expiresAt) then none
  else
    let generation := (w.store.lease.map Lease.generation).getD 0 + 1
    let leased := w.setLease (some ⟨owner, generation, RuntimeLease.leaseEnd w.now⟩)
    some (if answered then leased.setBackend b ⟨some owner, generation, .acquired, false, [], []⟩ else leased)

-- A renewal that raises ends the maintenance, which stops the Scheduler.
def renew (w : World Digest) (b : BackendId) : World Digest :=
  match checkRuntime w.store (w.caller b) with
  | .error _ => w.stop b
  | .ok () => w.setLease (w.store.lease.map fun lease => { lease with expiresAt := RuntimeLease.leaseEnd w.now })

def release (w : World Digest) (b : BackendId) : Option (World Digest) :=
  let backend := w.backends b
  if (backend.phase = .failed ∨ (backend.phase = .serving ∧ backend.stopping)) ∧ backend.executions = [] then
    some ((w.setLease (w.store.lease.map fun lease =>
        if some lease.owner = backend.owner ∧ lease.generation = backend.generation then { lease with expiresAt := w.now }
        else lease)).setBackend b { backend with owner := none, phase := .stopped, stopping := false })
  else none

def claim (digest : Json → Digest) (w : World Digest) (b : BackendId) (id : RunnerId) (slot : String) (answered : Bool) :
    World Digest :=
  let outcome := perform digest w.store (.startSelected (w.caller b) id slot)
  let stored := w.setStore outcome.1
  match outcome.2 with
  | .admitted (some _) => if answered then stored.put b id ⟨.created, false, false⟩ else stored.lose b id
  | _ => stored

def requeueStale (digest : Json → Digest) (w : World Digest) (b : BackendId) (id : RunnerId) (left : List RunnerId)
    (answered : Bool) : World Digest :=
  let outcome := perform digest w.store (.finishRunner (w.caller b) id .failed indeterminate)
  match outcome.2 with
  | .flag _ => (w.setStore outcome.1).setPhase b (if answered then Phase.recovering left else .failed)
  | _ => w.setPhase b .failed

def runningIds (store : Store Digest) : List RunnerId :=
  (store.runners.filter fun _ runner => runner.status = .running).map Prod.fst

def insert (w : World Digest) (id : RunnerId) (runner : Runner) : Option (World Digest) :=
  match w.store.runners.get id with
  | some _ => none
  | none =>
      if runner.status = .queued ∧ runner.cancelRequested = false then
        some (w.setStore { setRunner w.store id runner with campaigns := runner.campaign.toList ++ w.store.campaigns })
      else none

def step (digest : Json → Digest) (w : World Digest) : Event Digest → Option (World Digest)
  | .call call => if schedulerCall call then none else some (w.setStore (perform digest w.store call).1)
  | .insert id runner => insert w id runner
  | .tick later => if w.now ≤ later then some { w with now := later } else none
  | .acquire b owner answered => acquire w b owner answered
  | .renew b => if (w.backends b).phase = .stopped then none else some (renew w b)
  | .halt b => if (w.backends b).phase = .stopped then none else some (w.stop b)
  | .release b => release w b
  | .crash b => some (w.setBackend b idle)
  | .readStale b =>
      if (w.backends b).phase = .acquired then some (w.setPhase b (.recovering (runningIds w.store))) else none
  | .requeueStale b answered =>
      match (w.backends b).phase with
      | .recovering (id :: left) => some (requeueStale digest w b id left answered)
      | _ => none
  | .abort b =>
      match (w.backends b).phase with
      | .acquired | .recovering _ => some (w.setPhase b .failed)
      | _ => none
  | .recovered b =>
      if (w.backends b).phase = .recovering [] then some (w.setPhase b (if (w.backends b).stopping then Phase.failed else .serving))
      else none
  | .claim b id slot answered => if (w.backends b).phase = .serving then some (claim digest w b id slot answered) else none
  | .notice b id =>
      match Dict.get id (w.backends b).executions, accepting w.store id with
      | some execution, none => if execution.stage = .created then none else some (w.put b id { execution with notified := true })
      | _, _ => none
  | .act b id action =>
      match Dict.get id (w.backends b).executions with
      | some execution => act digest w b id execution action
      | none => none

end LlmperfOrchestrator.Supervision

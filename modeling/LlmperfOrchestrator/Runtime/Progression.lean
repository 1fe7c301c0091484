import LlmperfOrchestrator.Runtime.Triggers
import LlmperfOrchestrator.Storage.Workers

set_option autoImplicit false

namespace LlmperfOrchestrator.Runtime.Progression

open Tables Storage

-- WorkflowTaskLogic.__init__. Delays and due times are instants and spans of
-- the model, so its checks of their form hold by type.
def checkSteps : List RequestStep → List String → Except String Unit
  | [], _ => .ok ()
  | step :: rest, visited =>
      if step.stepId = "" ∨ ¬ ∀ parent ∈ step.dependencies, parent ∈ visited then
        .error "Worker dependencies must refer to earlier steps"
      else if ¬ ∀ source ∈ step.messageSources, source ∈ step.dependencies then
        .error "message sources must name a direct dependency"
      else checkSteps rest (step.stepId :: visited)

def workflowTaskLogic (steps : List RequestStep) : Except String Unit :=
  if ¬ (steps.map RequestStep.stepId).Nodup then .error "Worker step IDs must be unique within a Runner"
  else checkSteps steps []

structure Settings where
  steps : List RequestStep
  createdAt : Instant
  window : Option Nat
  cooldown : Option Nat
deriving DecidableEq, Repr

-- RunnerRuntime.__init__ over an accepted logic. A cooldown forces the window 1.
def runnerRuntime (steps : List RequestStep) (createdAt : Instant) (timeout : Rat) (maxOutstandingWorkers : Option Int)
    (cooldown : Option Nat) : Except String Settings := do
  workflowTaskLogic steps
  if ∃ window ∈ maxOutstandingWorkers, window < 1 then .error "max_outstanding_workers must be positive when specified"
  else if timeout ≤ 0 then .error "Runner timeout must be finite and positive"
  else if cooldown ≠ none ∧ maxOutstandingWorkers ≠ none ∧ maxOutstandingWorkers ≠ some 1 then
    .error "Worker cooldown requires a serial Runner"
  else .ok ⟨steps, createdAt, if cooldown ≠ none then some 1 else maxOutstandingWorkers.map Int.toNat, cooldown⟩

def completionsOf (results : Dict String WorkerResult) : Dict String Completion :=
  results.map fun entry => (entry.1, ⟨entry.2.succeeded, entry.2.completedAt⟩)

def eligibility (settings : Settings) (step : RequestStep) (now : Instant) (results : Dict String WorkerResult) : Eligibility :=
  if step.dependencies = [] then
    dateTrigger (max (settings.createdAt + step.delay) (step.dueAt.getD settings.createdAt)) now
  else
    let dependency := dependencyTrigger step.dependencies settings.createdAt step.delay now (completionsOf results)
    match dependency.blocked, dependency.dueAt with
    | false, some dueAt => dateTrigger (max dueAt (step.dueAt.getD dueAt)) now
    | _, _ => dependency

structure WorkerCancellation where
  stepId : String
  reason : String
  failedDependencies : List String
deriving DecidableEq, Repr

-- A message as the bus restores it; completedAt of a completion is its
-- created_at.
inductive Delivered where
  | completed (result : WorkerResult)
  | cancelled (cancellation : WorkerCancellation)
  | other (topic : String)
deriving DecidableEq

inductive Status where
  | running
  | finished
  | timedOut
  | raised (error : String)
deriving DecidableEq, Repr

-- The fields of RunnerRuntime and the locals of run() that outlive an
-- iteration. submission names the step whose submission task is unfinished.
structure Loop where
  pending : Dict String RequestStep
  results : Dict String WorkerResult
  cancelledSteps : Dict String WorkerCancellation
  outstanding : List String
  submission : Option String
  nextWorkerAt : Option Instant
  timerDue : Option Instant
  status : Status
deriving DecidableEq

def Loop.initial (settings : Settings) : Loop where
  pending := settings.steps.map fun step => (step.stepId, step)
  results := []
  cancelledSteps := []
  outstanding := []
  submission := none
  nextWorkerAt := none
  timerDue := none
  status := .running

def known (settings : Settings) (stepId : String) : Bool := stepId ∈ settings.steps.map RequestStep.stepId

def discard (stepId : String) (steps : List String) : List String := steps.filter fun other => other ≠ stepId

def pauseAfter (settings : Settings) (loop : Loop) (result : WorkerResult) : Option Instant :=
  match settings.cooldown with
  | none => loop.nextWorkerAt
  | some cooldown => some (result.completedAt + cooldown)

def recordResult (settings : Settings) (loop : Loop) (result : WorkerResult) : Loop :=
  match Dict.get result.stepId loop.results with
  | some _ => { loop with outstanding := discard result.stepId loop.outstanding }
  | none => { loop with
      results := Dict.put result.stepId result loop.results
      outstanding := discard result.stepId loop.outstanding
      nextWorkerAt := pauseAfter settings loop result }

def recordCancellation (loop : Loop) (cancellation : WorkerCancellation) : Loop :=
  { loop with
    cancelledSteps := if Dict.get cancellation.stepId loop.cancelledSteps = none then
        Dict.put cancellation.stepId cancellation loop.cancelledSteps
      else loop.cancelledSteps
    pending := Dict.pop cancellation.stepId loop.pending }

def receive (settings : Settings) (loop : Loop) : Delivered → Except String Loop
  | .completed result =>
      if known settings result.stepId then .ok (recordResult settings loop result)
      else .error "Worker completion does not belong to task"
  | .cancelled cancellation =>
      if known settings cancellation.stepId then .ok (recordCancellation loop cancellation)
      else .error "Worker cancellation does not belong to Runner"
  | .other topic => if topic = "timer.due" then .ok loop else .error ("Unsupported task message topic: " ++ topic)

def deliver (settings : Settings) : List Delivered → Loop → Loop
  | [], loop => loop
  | message :: rest, loop =>
      match receive settings loop message with
      | .ok next => deliver settings rest next
      | .error error => { loop with status := .raised error }

structure Scan where
  loop : Loop
  nextDue : Option Instant
  published : List WorkerCancellation
  sent : List RequestStep
deriving DecidableEq

def cancelStep (scan : Scan) (step : RequestStep) (failedDependencies : List String) : Scan :=
  let cancellation : WorkerCancellation :=
    ⟨step.stepId, if failedDependencies ≠ [] then "dependency_failed" else "readiness_blocked", failedDependencies⟩
  { scan with
    loop := { scan.loop with
      cancelledSteps := Dict.put step.stepId cancellation scan.loop.cancelledSteps
      pending := Dict.pop step.stepId scan.loop.pending }
    published := scan.published ++ [cancellation] }

def submitStep (scan : Scan) (step : RequestStep) : Scan :=
  { scan with
    loop := { scan.loop with
      outstanding := step.stepId :: scan.loop.outstanding
      submission := some step.stepId
      pending := Dict.pop step.stepId scan.loop.pending }
    sent := scan.sent ++ [step] }

def postpone (scan : Scan) (dueAt : Option Instant) : Scan :=
  match dueAt with
  | none => scan
  | some due => { scan with nextDue := some (min (scan.nextDue.getD due) due) }

def failedDependencies (loop : Loop) (step : RequestStep) : List String :=
  step.dependencies.filter fun parent => (Dict.get parent loop.cancelledSteps).isSome ∨
    (Dict.get parent loop.results).any fun result => ¬ result.succeeded

def capacity (settings : Settings) (loop : Loop) : Bool := ∀ window ∈ settings.window, loop.outstanding.length < window

def visit (settings : Settings) (now : Instant) (beforeDeadline : Bool) (scan : Scan) (step : RequestStep) : Scan :=
  let failed := failedDependencies scan.loop step
  if failed ≠ [] then cancelStep scan step failed
  else if step.dependencies.any fun parent => (Dict.get parent scan.loop.results).isNone then scan
  else
    let decision := eligibility settings step now scan.loop.results
    if decision.blocked then cancelStep scan step []
    else if decision.ready then
      if scan.loop.submission = none ∧ capacity settings scan.loop ∧ beforeDeadline then submitStep scan step else scan
    else postpone scan decision.dueAt

inductive Gate where
  | passed
  | busy
  | cooling (dueAt : Instant)
deriving DecidableEq, Repr

def gate (settings : Settings) (now : Instant) (loop : Loop) : Gate :=
  if settings.cooldown = none then .passed
  else if loop.outstanding ≠ [] ∨ loop.submission ≠ none then .busy
  else
    match loop.nextWorkerAt with
    | none => .passed
    | some dueAt => if now < dueAt then .cooling dueAt else .passed

def scanPending (settings : Settings) (now : Instant) (beforeDeadline : Bool) : List (String × RequestStep) → Scan → Scan
  | [], scan => scan
  | (_, step) :: rest, scan =>
      match gate settings now scan.loop with
      | .busy => scan
      | .cooling dueAt => { scan with nextDue := some dueAt }
      | .passed => scanPending settings now beforeDeadline rest (visit settings now beforeDeadline scan step)

def nextTimer (nextDue timerDue : Option Instant) : Option Instant :=
  match nextDue, timerDue with
  | none, _ => none
  | some due, none => some due
  | some due, some armed => if due < armed then some due else some armed

def idle (loop : Loop) : Bool := loop.pending = [] ∧ loop.outstanding = [] ∧ loop.submission = none

-- What the asyncio tasks and clocks tell one iteration.
structure Wake where
  messages : List Delivered
  submissionDone : Bool
  timerDone : Bool
  now : Instant
  beforeDeadline : Bool
  expired : Bool

def collectTasks (loop : Loop) (wake : Wake) : Loop :=
  { loop with
    submission := if wake.submissionDone then none else loop.submission
    timerDue := if wake.timerDone then none else loop.timerDue }

def settle (loop : Loop) (expired : Bool) : Loop :=
  if idle loop then { loop with status := .finished }
  else if expired then { loop with status := .timedOut }
  else if loop.pending ≠ [] ∧ loop.outstanding = [] ∧ loop.submission = none ∧ loop.timerDue = none then
    { loop with status := .raised "Task has unresolved dependencies without an event source" }
  else loop

-- One iteration of RunnerRuntime.run
def iterate (settings : Settings) (loop : Loop) (wake : Wake) : Scan :=
  if idle loop then ⟨{ loop with status := .finished }, none, [], []⟩
  else
    let delivered := deliver settings wake.messages loop
    if delivered.status ≠ .running then ⟨delivered, none, [], []⟩
    else
      let ready := collectTasks delivered wake
      let scan := scanPending settings wake.now wake.beforeDeadline ready.pending ⟨ready, none, [], []⟩
      let timed := { scan.loop with timerDue := nextTimer scan.nextDue scan.loop.timerDue }
      { scan with loop := settle timed wake.expired }

-- The Runner and its messages. A completion is committed for a step that has
-- been submitted; a delivery hands over any committed messages, in any order.
structure State where
  loop : Loop
  clock : Instant
  posted : List Delivered
  processed : List Delivered
  submitted : List String
deriving DecidableEq

def State.initial (settings : Settings) (clock : Instant) : State := ⟨Loop.initial settings, clock, [], [], []⟩

inductive Event where
  | tick (later : Instant)
  | complete (result : WorkerResult)
  | fire
  | wake (messages : List Delivered) (submissionDone timerDone beforeDeadline expired : Bool)
  | interrupt (error : String)
deriving DecidableEq

def wakeStep (settings : Settings) (s : State) (wake : Wake) : State :=
  let scan := iterate settings s.loop wake
  { s with
    loop := scan.loop
    posted := s.posted ++ scan.published.map Delivered.cancelled
    processed := if idle s.loop then s.processed else s.processed ++ wake.messages
    submitted := (scan.sent.map RequestStep.stepId).reverse ++ s.submitted }

def step (settings : Settings) (s : State) : Event → Option State
  | .tick later => if s.clock ≤ later then some { s with clock := later } else none
  | .complete result =>
      if result.stepId ∈ s.submitted then some { s with posted := s.posted ++ [.completed result] } else none
  | .fire => some { s with posted := s.posted ++ [.other "timer.due"] }
  | .wake messages submissionDone timerDone beforeDeadline expired =>
      -- The deadline is read twice on the loop clock, which does not go back:
      -- a pass that finds it reached ends expired.
      if s.loop.status = .running ∧ (∀ message ∈ messages, message ∈ s.posted) ∧ (beforeDeadline ∨ expired) then
        some (wakeStep settings s ⟨messages, submissionDone, timerDone, s.clock, beforeDeadline, expired⟩)
      else none
  | .interrupt error => some { s with loop := { s.loop with status := .raised error } }

end LlmperfOrchestrator.Runtime.Progression

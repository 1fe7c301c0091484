import LlmperfOrchestrator.Storage.Records

set_option autoImplicit false

namespace LlmperfOrchestrator.Storage

open Tables

section

variable {Digest : Type} [DecidableEq Digest]

structure RequestStep where
  stepId : String
  dependencies : List String
  messageSources : List String
  delay : Nat
  dueAt : Option Instant
  inputName : Option String
deriving DecidableEq, Repr

structure RunnerMessage (Digest : Type) where
  runner : RunnerId
  id : MessageId
  topic : String
  payload : Payload Digest
  source : Option String
  destination : String
  createdAt : Instant
deriving DecidableEq

def RunnerMessage.record (message : RunnerMessage Digest) : Message Digest :=
  ⟨message.runner, message.source, message.destination, message.topic, message.payload, message.createdAt⟩

def validStep (stepId : String) : Bool := stepId ≠ "" ∧ stepId.length ≤ 128

def newWorker (caller : Caller) (step : RequestStep) : Worker Digest where
  generation := caller.runtimeGeneration
  state := .created
  createdAt := caller.now
  submittedAt := none
  completedAt := none
  metadata := ⟨step.dependencies, step.messageSources, step.delay, step.dueAt, step.inputName, none⟩
  logKey := none
  completionHash := none

def submittedWorker (caller : Caller) (worker : Worker Digest) : Worker Digest :=
  { worker with state := .submitted, submittedAt := some caller.now }

def accepting (store : Store Digest) (runnerId : RunnerId) : Option Runner :=
  (store.runners.get runnerId).filter fun runner => runner.status = .running ∧ runner.cancelRequested = false

def ownedWorkers (store : Store Digest) (runnerId : RunnerId) : Nat :=
  store.workers.count fun key _ => key.1 = runnerId

def submittedWorkers (store : Store Digest) (runnerId : RunnerId) : Nat :=
  store.workers.count fun key worker => key.1 = runnerId ∧ worker.state = .submitted

def createWorkers (store : Store Digest) (caller : Caller) (runnerId : RunnerId) (steps : List RequestStep) :
    Except String (Store Digest) :=
  if steps = [] then .ok store
  else if steps.any fun step => ¬ validStep step.stepId then .error "Invalid Worker step identifier"
  else if ¬ (steps.map RequestStep.stepId).Nodup then .error "Duplicate Worker step identifiers"
  else do
    checkRuntime store caller
    match accepting store runnerId with
    | none => .error "Runner is not accepting Worker creation"
    | some runner =>
        let fresh := steps.filter fun step => store.workers.get (runnerId, step.stepId) = none
        if runner.template.plannedWorkers < ownedWorkers store runnerId + fresh.length then
          .error "Worker is outside the declared request expansion"
        else .ok { store with workers :=
          store.workers.insertAll (fresh.map fun step => ((runnerId, step.stepId), newWorker caller step)) }

def reserveWorker (store : Store Digest) (caller : Caller) (runnerId : RunnerId) (stepId : String) (window : Option Int) :
    Except String (Store Digest × Bool) :=
  if (∃ bound ∈ window, bound < 1) ∨ ¬ validStep stepId then .error "Invalid Worker reservation"
  else do
    checkRuntime store caller
    match accepting store runnerId with
    | none => .ok (store, false)
    | some _ =>
        match store.workers.get (runnerId, stepId) with
        | none => .error "Worker must be created before submission"
        | some worker =>
            -- A repeated reservation is never authorization for another send.
            if worker.state ≠ .created ∨ worker.generation ≠ caller.runtimeGeneration then .ok (store, false)
            else if ∃ bound ∈ window, bound ≤ submittedWorkers store runnerId then
              .error "Runner outstanding Worker window exceeded"
            else .ok ({ store with workers := store.workers.put (runnerId, stepId) (submittedWorker caller worker) }, true)

def committedMessage (runnerId : RunnerId) (result : WorkerResult) (payload : Json) : RunnerMessage Digest :=
  ⟨runnerId, .completed (runnerId, result.stepId), "worker.completed", .document payload, some result.stepId, "runner",
    result.completedAt⟩

def completionRecord (key : WorkerId) (hash : Digest) (instant : Instant) : Message Digest :=
  ⟨key.1, some key.2, "runner", "worker.completed", .completion key ⟨key, hash⟩, instant⟩

def committedWorker (runnerId : RunnerId) (result : WorkerResult) (hash : Digest) (record : Worker Digest) : Worker Digest :=
  { record with
    state := if result.succeeded then .succeeded else .failed
    completedAt := some result.completedAt
    completionHash := some hash
    logKey := some ⟨(runnerId, result.stepId), hash⟩ }

def commitTransaction (store : Store Digest) (caller : Caller) (runnerId : RunnerId) (result : WorkerResult)
    (payload : Json) (hash : Digest) : Except String (Store Digest × Option (RunnerMessage Digest)) := do
  checkRuntime store caller
  match (store.runners.get runnerId).filter fun runner => runner.status = .running with
  | none => .ok (store, none)
  | some _ =>
      match (store.workers.get (runnerId, result.stepId)).filter fun record => record.generation = caller.runtimeGeneration with
      | none => .ok (store, none)
      | some record =>
          if record.state ≠ .submitted then
            if record.completionHash ≠ some hash then .ok (store, none)
            else
              match store.messages.get (.completed (runnerId, result.stepId)) with
              | none => .ok (store, none)
              | some stored => .ok (store, some ⟨runnerId, .completed (runnerId, result.stepId), stored.topic,
                  .document payload, stored.source, stored.destination, stored.createdAt⟩)
          else
            match store.messages.get (.completed (runnerId, result.stepId)) with
            -- The message is inserted without a lookup, so its key must be free.
            | some _ => .error "duplicate key value violates unique constraint"
            | none => .ok ({ store with
                workers := store.workers.put (runnerId, result.stepId) (committedWorker runnerId result hash record)
                messages := store.messages.put (.completed (runnerId, result.stepId))
                  (completionRecord (runnerId, result.stepId) hash result.completedAt) },
                some (committedMessage runnerId result payload))

-- The log file is written before the transaction and survives its rollback.
def writeWorker (store : Store Digest) (key : LogKey Digest) (payload : Json) : Store Digest :=
  { store with logs := Dict.put key payload store.logs }

def commitWorker (digest : Json → Digest) (store : Store Digest) (caller : Caller) (runnerId : RunnerId)
    (result : WorkerResult) : Store Digest × Except String (Option (RunnerMessage Digest)) :=
  let payload := forStorage result.completion
  let logged := writeWorker store ⟨(runnerId, result.stepId), digest payload⟩ payload
  match commitTransaction logged caller runnerId result payload (digest payload) with
  | .ok (next, message) => (next, .ok message)
  | .error message => (logged, .error message)

def stepIdentifier : Payload Digest → Option String
  | .document value =>
      match value.field "step_id" with
      | some (.text stepId) => some stepId
      | _ => none
  | .completion _ _ => none

def payloadDocument : Payload Digest → Json
  | .document value => value
  | .completion _ _ => .null

def publishMessage (store : Store Digest) (caller : Caller) (message : RunnerMessage Digest) :
    Except String (Store Digest × Bool) := do
  checkRuntime store caller
  match accepting store message.runner with
  | none => .ok (store, false)
  | some _ =>
      match store.messages.get message.id with
      | some existing =>
          if { existing with createdAt := message.createdAt } ≠ message.record then
            .error "Message ID reused with different content"
          else .ok (store, true)
      | none =>
          if message.topic = "worker.cancelled" then
            match stepIdentifier message.payload with
            | none => .error "Worker cancellation requires a step identifier"
            | some stepId =>
                match (store.workers.get (message.runner, stepId)).filter fun worker => worker.state = .created with
                | none => .error "Only an unsubmitted Worker can be cancelled by dependency"
                | some worker => .ok ({ store with
                    workers := store.workers.put (message.runner, stepId) { worker with
                      state := .cancelled
                      completedAt := some message.createdAt
                      metadata := { worker.metadata with cancellation := some (payloadDocument message.payload) } }
                    messages := store.messages.put message.id message.record }, true)
          else .ok ({ store with messages := store.messages.put message.id message.record }, true)

def closeWorker (instant : Instant) (worker : Worker Digest) : Worker Digest :=
  match worker.state with
  | .submitted => { worker with state := .indeterminate, completedAt := some instant }
  | .created => { worker with state := .cancelled, completedAt := some instant }
  | .succeeded | .failed | .cancelled | .indeterminate => worker

def closeWorkers (store : Store Digest) (runnerId : RunnerId) (instant : Instant) : Store Digest :=
  { store with workers := store.workers.update fun key worker =>
      if key.1 = runnerId then closeWorker instant worker else worker }

end

section

variable {Digest : Type} [DecidableEq Digest]

-- One entry of request_metrics: its identity, its outcome and the members of
-- request_metadata and request_timing that a checkpoint reads.
structure RequestMetrics where
  instanceId : Option String
  nodeId : Option String
  payloadId : Option String
  errorCode : Option String
  promptHash : Option String
  payloadEvidence : Option Json
  clientStart : Option Instant
  completed : Option Instant
deriving DecidableEq

structure Evidence where
  startedAt : Option Instant
  completedAt : Option Instant
  promptHash : Option String
  payloadEvidence : Option Json
deriving DecidableEq

def noEvidence : Evidence := ⟨none, none, none, none⟩

-- scalar_one_or_none: several rows are an error.
def oneOrNone {Row : Type} : List Row → Except String (Option Row)
  | [] => .ok none
  | [row] => .ok (some row)
  | _ :: _ :: _ => .error "Multiple rows were found when one or none was required"

def startedInstant (runner : Runner) (context : TaskContext) (evidence : Evidence) (occurredAt : Instant) : Instant :=
  if context.executionKind = .batch then runner.startedAt.getD occurredAt
  else evidence.startedAt.getD (runner.startedAt.getD occurredAt)

def completedInstant (context : TaskContext) (evidence : Evidence) (occurredAt : Instant) : Instant :=
  if context.executionKind = .batch then occurredAt else evidence.completedAt.getD occurredAt

def cancelQueued (store : Store Digest) (instanceId : InstanceId) (now : Instant) (id : RunnerId) (runner : Runner) : Runner :=
  if runner.status = .queued ∧ store.nodes.any (fun _ node => node.taskInstance = instanceId ∧ node.runner = some id) then
    { runner with status := .cancelled, cancelRequested := true, finishedAt := some now }
  else runner

def cancelWaiting (owned : ExecutionNode → Bool) (node : ExecutionNode) : ExecutionNode :=
  if owned node ∧ node.state.waiting then { node with state := .cancelled } else node

-- _cancel_task_dispatches
def cancelTaskDispatches (store : Store Digest) (instanceId : InstanceId) (now : Instant) : Store Digest :=
  { store with
    runners := store.runners.update (cancelQueued store instanceId now)
    nodes := store.nodes.update fun _ node => cancelWaiting (fun n => n.taskInstance = instanceId) node }

def unfinishedNode (store : Store Digest) (instanceId : InstanceId) : Bool :=
  store.nodes.any fun _ node =>
    node.taskInstance = instanceId ∧ (node.state ≠ .emitted ∨ node.terminalStatus ≠ some .succeeded)

def endInstance (store : Store Digest) (instanceId : InstanceId) (task : TaskInstance) (state : InstanceState)
    (error : String) (now : Instant) : Store Digest :=
  cancelTaskDispatches (setInstance store instanceId { task with state := state, error := some error }) instanceId now

def missingHash (hash : Option String) : Bool := hash = none ∨ hash = some ""

def replayError (task : TaskInstance) (context : TaskContext) (evidence : Evidence) : Option String :=
  if missingHash evidence.promptHash then some ("task node " ++ context.nodeId ++ " omitted prompt_hash")
  else if ∃ expected ∈ Dict.get context.payloadId task.payloadHashes, some expected ≠ evidence.promptHash then
    some ("payload " ++ context.payloadId.getD "" ++ " replay changed prompt_hash")
  else if ∃ expected ∈ Dict.get context.payloadId task.payloadEvidence, some expected ≠ evidence.payloadEvidence then
    some ("payload " ++ context.payloadId.getD "" ++ " replay changed selection evidence")
  else none

def recordEvidence (task : TaskInstance) (context : TaskContext) (evidence : Evidence) : TaskInstance :=
  { task with
    payloadHashes := match evidence.promptHash with
      | none => task.payloadHashes
      | some hash => Dict.put context.payloadId hash task.payloadHashes
    payloadEvidence := match evidence.payloadEvidence with
      | none => task.payloadEvidence
      | some value => Dict.put context.payloadId value task.payloadEvidence }

def advanceInstance (store : Store Digest) (instanceId : InstanceId) (task : TaskInstance) : Store Digest :=
  setInstance store instanceId
    { task with state := if unfinishedNode store instanceId then .active else .completed, error := none }

def settleInstance (store : Store Digest) (context : TaskContext) (task : TaskInstance) (status : RunnerStatus)
    (evidence : Evidence) (now : Instant) : Store Digest :=
  if task.state.terminal then setInstance store context.instanceId task
  else if status ≠ .succeeded then
    endInstance store context.instanceId task (if status = .cancelled then .cancelled else .failed)
      ("task node " ++ context.nodeId ++ " ended as " ++ status.name) now
  else if context.executionKind = .batch then advanceInstance store context.instanceId task
  else
    match replayError task context evidence with
    | some error => endInstance store context.instanceId task .failed error now
    | none => advanceInstance store context.instanceId (recordEvidence task context evidence)

def nodeOutcome (context : TaskContext) (status : RunnerStatus) (evidence : Evidence) (started completed : Instant) :
    NodeOutcome :=
  ⟨context.role, context.executionKind, context.payloadId, started, completed, evidence.promptHash,
    evidence.payloadEvidence, status⟩

def checkpointContext (store : Store Digest) (runnerId : RunnerId) (runner : Runner) (context : TaskContext)
    (status : RunnerStatus) (occurredAt : Instant) (evidence : Evidence) : Except String (Store Digest) :=
  if context.executionKind ≠ .batch ∧ context.payloadId = none then .ok store
  else
    match store.instances.get context.instanceId with
    | none => .ok store
    | some task => do
        match ← oneOrNone (store.nodes.filter fun _ node => node.runner = some runnerId ∧ node.nodeId = context.nodeId) with
        | none => .ok (setInstance store context.instanceId { task with
            state := .failed, error := some ("task node " ++ context.nodeId ++ " has no originating Dispatch") })
        | some (sourceId, source) =>
            let started := startedInstant runner context evidence occurredAt
            let completed := completedInstant context evidence occurredAt
            let marked := setNode store sourceId { source with
              actualStartedAt := some started, actualCompletedAt := some completed, terminalStatus := some status }
            let recorded := { task with
              outcome := Dict.put context.nodeId (nodeOutcome context status evidence started completed) task.outcome }
            .ok (settleInstance marked context recorded status evidence occurredAt)

def invocationMatches (requests : List RequestMetrics) (invocation : TaskContext) : List RequestMetrics :=
  requests.filter fun request => request.instanceId = some invocation.instanceId ∧
    request.nodeId = some invocation.nodeId ∧ request.payloadId = invocation.payloadId

def invocationStatus (found : List RequestMetrics) (status : RunnerStatus) : RunnerStatus :=
  if status = .succeeded ∧ (found.length ≠ 1 ∨ ∃ request ∈ found.head?, request.errorCode ≠ none) then .failed else status

def invocationEvidence (found : List RequestMetrics) : Evidence :=
  match found with
  | [request] => ⟨request.clientStart, request.completed, request.promptHash, request.payloadEvidence⟩
  | _ => noEvidence

-- _checkpoint_task_result
def checkpointTaskResult (store : Store Digest) (runnerId : RunnerId) (runner : Runner) (status : RunnerStatus)
    (occurredAt : Instant) (evidence : Evidence) (requests : List RequestMetrics) : Except String (Store Digest) :=
  if runner.template.groupedContexts ≠ [] then
    runner.template.groupedContexts.foldlM (fun current invocation =>
      let found := invocationMatches requests invocation
      checkpointContext current runnerId runner invocation (invocationStatus found status) occurredAt
        (invocationEvidence found)) store
  else
    match runner.template.taskContext with
    | none => .ok store
    | some context => checkpointContext store runnerId runner context status occurredAt evidence

end

end LlmperfOrchestrator.Storage

import LlmperfOrchestrator.Library.Outcomes
import LlmperfOrchestrator.Library.Runs
import LlmperfOrchestrator.Storage.Workers

set_option autoImplicit false

namespace LlmperfOrchestrator.Storage

open Tables Runs Outcomes

section

variable {Digest : Type} [DecidableEq Digest]

-- RunnerRecordFactory.from_dispatch
def fromDispatch (node : ExecutionNode) : Runner where
  campaign := some node.campaign
  status := .queued
  cancelRequested := false
  template := node.template
  startedAt := none
  finishedAt := none
  schedulerId := none
  errorMessage := none

-- _emit_dispatch. The identifier drawn for the Runner must be free.
def emitDispatch (store : Store Digest) (id : DispatchId) (node : ExecutionNode) (fresh : RunnerId) (now : Instant) :
    Except String (Store Digest) :=
  if node.campaign ∉ store.campaigns then .error "Dispatch has no owning Campaign"
  else
    match store.runners.get fresh with
    | some _ => .error "duplicate key value violates unique constraint"
    | none => .ok (setNode (setRunner store fresh (fromDispatch node)) id
        { node with state := .emitted, runner := some fresh, emittedAt := some now })

def activateNode (store : Store Digest) (caller : Caller) (id : DispatchId) (dueAt : Instant) (fresh : RunnerId) :
    Except String (Store Digest × Option RunnerId) := do
  checkRuntime store caller
  match (store.nodes.get id).filter fun node => node.state.waiting with
  | none => .ok (store, none)
  | some node =>
      match (store.instances.get node.taskInstance).filter fun task => ¬ task.state.terminal with
      | none => .ok (store, none)
      | some task =>
          let emitted ← emitDispatch store id { node with dueAt := some dueAt, state := .pending } fresh caller.now
          .ok (setInstance emitted node.taskInstance { task with state := .active }, some fresh)

def reusedMessages (store : Store Digest) (context : TaskContext) (messageSource : String) : Except String (List Json) := do
  match ← oneOrNone (store.nodes.filter fun _ node => node.taskInstance = context.instanceId ∧ node.nodeId = messageSource) with
  | none => .error "History source request has not executed"
  | some (_, source) =>
      match source.runner with
      | none => .error "History source request has not executed"
      | some runnerId =>
          match ← oneOrNone (store.messages.filter fun _ message =>
              message.runner = runnerId ∧ message.topic = "worker.completed" ∧ message.source = some "0") with
          | none => .error "History source has no committed Worker message"
          | some (_, message) =>
              match message.payload with
              | .document _ => .error "Invalid Worker completion reference"
              | .completion worker log =>
                  if log.worker ≠ worker ∨ worker.1 ≠ message.runner then .error "Invalid Runner log key"
                  else
                    match Dict.get log store.logs with
                    | none => .error "No such file or directory"
                    | some completion =>
                        if (completion.field "step_id").map Json.text? ≠ some message.source then
                          .error "Worker completion identity mismatch"
                        else if isNone ((completion.field "metrics").bind (Json.field "error_code")) then
                          completionMessages completion
                        else .error "History source request failed"

structure Admitted where
  runner : RunnerId
  inputMessages : Option (List Json)
deriving DecidableEq

def startSelected (store : Store Digest) (caller : Caller) (runnerId : RunnerId) (owner : String) :
    Except String (Store Digest × Option Admitted) := do
  checkRuntime store caller
  match (store.runners.get runnerId).filter fun runner => runner.status = .queued ∧ runner.cancelRequested = false with
  | none => .ok (store, none)
  | some runner =>
      let started := setRunner store runnerId
        { runner with status := .running, startedAt := some caller.now, schedulerId := some owner }
      match runner.template.taskContext with
      | none => .ok (started, some ⟨runnerId, none⟩)
      | some context =>
          match (store.instances.get context.instanceId).filter fun task => ¬ task.state.terminal with
          | none => .ok (setRunner store runnerId { runner with status := .cancelled, finishedAt := some caller.now }, none)
          | some _ =>
              if context.messageSources = [] then .ok (started, some ⟨runnerId, none⟩)
              else do
                let reused ← context.messageSources.mapM (reusedMessages started context)
                .ok (started, some ⟨runnerId, some reused.flatten⟩)

def atomicExecution (runner : Runner) : Bool := ∃ context ∈ runner.template.taskContext, context.executionKind = .atomic

-- complete_runner reads one invocation's evidence from its request results.
def requestEvidence (requests : List RequestMetrics) : Evidence :=
  ⟨(requests.filterMap RequestMetrics.clientStart).min?, (requests.filterMap RequestMetrics.completed).max?,
    requests.findSome? RequestMetrics.promptHash, requests.findSome? RequestMetrics.payloadEvidence⟩

def completeRunner (store : Store Digest) (caller : Caller) (runnerId : RunnerId) (requests : List RequestMetrics)
    (status : RunnerStatus) (errorMessage : Option String) : Except String (Store Digest × Bool) :=
  if status ≠ .succeeded ∧ status ≠ .failed then .error ("Unsupported result status: " ++ status.name)
  else do
    checkRuntime store caller
    match accepting store runnerId with
    | none => .ok (store, false)
    | some runner =>
        if atomicExecution runner ∧ requests.length ≠ 1 then
          .error "Atomic invocation requires exactly one request result"
        else
          let ended := setRunner (closeWorkers store runnerId caller.now) runnerId
            { runner with status := status, finishedAt := some caller.now, errorMessage := errorMessage }
          let evidence := if atomicExecution runner then requestEvidence requests else noEvidence
          let settled ← checkpointTaskResult ended runnerId runner status caller.now evidence requests
          .ok (settled, true)

def finishRunner (store : Store Digest) (caller : Caller) (runnerId : RunnerId) (status : RunnerStatus) (message : String) :
    Except String (Store Digest × Bool) :=
  if status ≠ .failed ∧ status ≠ .cancelled then .error ("Unsupported terminal status: " ++ status.name)
  else do
    checkRuntime store caller
    match (store.runners.get runnerId).filter fun runner => runner.status = .running with
    | none => .ok (store, false)
    | some runner =>
        let ended := { runner with status := status, finishedAt := some caller.now, errorMessage := some message }
        let closed := closeWorkers (setRunner store runnerId ended) runnerId caller.now
        let settled ← checkpointTaskResult closed runnerId ended status caller.now noEvidence []
        .ok (settled, true)

def requestCancel (store : Store Digest) (now : Instant) (runnerId : RunnerId) : Except String (Store Digest) :=
  match (store.runners.get runnerId).filter fun runner => ¬ runner.status.terminal with
  | none => .ok store
  | some runner =>
      if runner.status = .queued then
        let ended := { runner with cancelRequested := true, status := .cancelled, finishedAt := some now }
        checkpointTaskResult (setRunner store runnerId ended) runnerId ended .cancelled now noEvidence []
      else .ok (setRunner store runnerId { runner with cancelRequested := true })

def cancelRunner (campaign : CampaignId) (now : Instant) (runner : Runner) : Runner :=
  if runner.campaign ≠ some campaign ∨ runner.status.terminal then runner
  else if runner.status = .queued then { runner with cancelRequested := true, status := .cancelled, finishedAt := some now }
  else { runner with cancelRequested := true }

def cancelInstance (campaign : CampaignId) (task : TaskInstance) : TaskInstance :=
  if task.campaign ≠ campaign ∨ task.state.terminal then task
  else { task with state := .cancelled, error := some "Campaign cancelled" }

def requestCancelCampaign (store : Store Digest) (now : Instant) (campaign : CampaignId) : Store Digest :=
  if campaign ∉ store.campaigns then store
  else { store with
    runners := store.runners.update fun _ runner => cancelRunner campaign now runner
    instances := store.instances.update fun _ task => cancelInstance campaign task
    nodes := store.nodes.update fun _ node => cancelWaiting (fun n => n.campaign = campaign) node }

end

section

variable {Digest : Type} [DecidableEq Digest]

inductive Call (Digest : Type) where
  | createWorkers (caller : Caller) (runner : RunnerId) (steps : List RequestStep)
  | reserveWorker (caller : Caller) (runner : RunnerId) (stepId : String) (window : Option Int)
  | commitWorker (caller : Caller) (runner : RunnerId) (result : WorkerResult)
  | publishMessage (caller : Caller) (message : RunnerMessage Digest)
  | activateNode (caller : Caller) (node : DispatchId) (dueAt : Instant) (fresh : RunnerId)
  | startSelected (caller : Caller) (runner : RunnerId) (owner : String)
  | completeRunner (caller : Caller) (runner : RunnerId) (requests : List RequestMetrics) (status : RunnerStatus)
      (errorMessage : Option String)
  | finishRunner (caller : Caller) (runner : RunnerId) (status : RunnerStatus) (message : String)
  | requestCancel (now : Instant) (runner : RunnerId)
  | requestCancelCampaign (now : Instant) (campaign : CampaignId)
  | changeLease (lease : Option Lease)
deriving DecidableEq

inductive Reply (Digest : Type) where
  | raised (error : String)
  | done
  | flag (value : Bool)
  | message (value : Option (RunnerMessage Digest))
  | emitted (value : Option RunnerId)
  | admitted (value : Option Admitted)
deriving DecidableEq

-- A transaction that raises is rolled back.
def transact {Value : Type} (store : Store Digest) (reply : Value → Reply Digest) :
    Except String (Store Digest × Value) → Store Digest × Reply Digest
  | .ok (next, value) => (next, reply value)
  | .error error => (store, .raised error)

def transactUnit (store : Store Digest) : Except String (Store Digest) → Store Digest × Reply Digest
  | .ok next => (next, .done)
  | .error error => (store, .raised error)

def commitReply : Except String (Option (RunnerMessage Digest)) → Reply Digest
  | .ok message => .message message
  | .error error => .raised error

def perform (digest : Json → Digest) (store : Store Digest) : Call Digest → Store Digest × Reply Digest
  | .createWorkers caller runner steps => transactUnit store (createWorkers store caller runner steps)
  | .reserveWorker caller runner stepId window => transact store .flag (reserveWorker store caller runner stepId window)
  | .commitWorker caller runner result =>
      let (next, outcome) := commitWorker digest store caller runner result
      (next, commitReply outcome)
  | .publishMessage caller message => transact store .flag (publishMessage store caller message)
  | .activateNode caller node dueAt fresh => transact store .emitted (activateNode store caller node dueAt fresh)
  | .startSelected caller runner owner => transact store .admitted (startSelected store caller runner owner)
  | .completeRunner caller runner requests status errorMessage =>
      transact store .flag (completeRunner store caller runner requests status errorMessage)
  | .finishRunner caller runner status message => transact store .flag (finishRunner store caller runner status message)
  | .requestCancel now runner => transactUnit store (requestCancel store now runner)
  | .requestCancelCampaign now campaign => (requestCancelCampaign store now campaign, .done)
  | .changeLease lease => ({ store with lease := lease }, .done)

def step (digest : Json → Digest) (store : Store Digest) (call : Call Digest) : Option (Store Digest) :=
  some (perform digest store call).1

theorem transact_cases {Value : Type} (store : Store Digest) (reply : Value → Reply Digest)
    (outcome : Except String (Store Digest × Value)) :
    (∃ error, outcome = .error error ∧ transact store reply outcome = (store, .raised error)) ∨
      ∃ next value, outcome = .ok (next, value) ∧ transact store reply outcome = (next, reply value) := by
  cases outcome with
  | error error => exact .inl ⟨error, rfl, rfl⟩
  | ok pair => exact .inr ⟨pair.1, pair.2, rfl, rfl⟩

theorem transact_unit_cases (store : Store Digest) (outcome : Except String (Store Digest)) :
    (∃ error, outcome = .error error ∧ transactUnit store outcome = (store, .raised error)) ∨
      ∃ next, outcome = .ok next ∧ transactUnit store outcome = (next, .done) := by
  cases outcome with
  | error error => exact .inl ⟨error, rfl, rfl⟩
  | ok next => exact .inr ⟨next, rfl, rfl⟩

theorem accepting_some (store : Store Digest) (runnerId : RunnerId) (runner : Runner)
    (found : accepting store runnerId = some runner) :
    store.runners.get runnerId = some runner ∧ runner.status = .running ∧ runner.cancelRequested = false := by
  unfold accepting at found
  obtain ⟨read, open_⟩ := Option.filter_eq_some_iff.mp found
  exact ⟨read, of_decide_eq_true open_⟩

structure SameWork (store next : Store Digest) : Prop where
  workers : next.workers = store.workers
  messages : next.messages = store.messages
  logs : next.logs = store.logs
  lease : next.lease = store.lease
  campaigns : next.campaigns = store.campaigns

theorem same_work_refl (store : Store Digest) : SameWork store store := ⟨rfl, rfl, rfl, rfl, rfl⟩

theorem same_work_trans (a b c : Store Digest) (first : SameWork a b) (second : SameWork b c) : SameWork a c :=
  ⟨second.workers.trans first.workers, second.messages.trans first.messages, second.logs.trans first.logs,
    second.lease.trans first.lease, second.campaigns.trans first.campaigns⟩

theorem settle_same_work (store : Store Digest) (context : TaskContext) (task : TaskInstance) (status : RunnerStatus)
    (evidence : Evidence) (now : Instant) : SameWork store (settleInstance store context task status evidence now) := by
  unfold settleInstance
  split
  · exact ⟨rfl, rfl, rfl, rfl, rfl⟩
  · split
    · exact ⟨rfl, rfl, rfl, rfl, rfl⟩
    · split
      · exact ⟨rfl, rfl, rfl, rfl, rfl⟩
      · split <;> exact ⟨rfl, rfl, rfl, rfl, rfl⟩

theorem checkpoint_context_same_work (store next : Store Digest) (runnerId : RunnerId) (runner : Runner)
    (context : TaskContext) (status : RunnerStatus) (occurredAt : Instant) (evidence : Evidence)
    (done : checkpointContext store runnerId runner context status occurredAt evidence = .ok next) : SameWork store next := by
  unfold checkpointContext at done
  split at done
  · cases done
    exact same_work_refl store
  · split at done
    · cases done
      exact same_work_refl store
    · obtain ⟨source, _, placed⟩ := (bind_ok _ _ _).mp done
      cases source with
      | none =>
          cases placed
          exact ⟨rfl, rfl, rfl, rfl, rfl⟩
      | some found =>
          cases placed
          exact same_work_trans store (setNode store found.1 _) _ ⟨rfl, rfl, rfl, rfl, rfl⟩ (settle_same_work _ _ _ _ _ _)

theorem checkpoint_same_work (store next : Store Digest) (runnerId : RunnerId) (runner : Runner) (status : RunnerStatus)
    (occurredAt : Instant) (evidence : Evidence) (requests : List RequestMetrics)
    (done : checkpointTaskResult store runnerId runner status occurredAt evidence requests = .ok next) :
    SameWork store next := by
  unfold checkpointTaskResult at done
  split at done
  · refine fold_keeps _ (fun state => SameWork store state) (fun state invocation after before taken => ?_) _ store next
      (same_work_refl store) done
    exact same_work_trans _ _ _ before (checkpoint_context_same_work _ _ _ _ _ _ _ _ taken)
  · split at done
    · cases done
      exact same_work_refl store
    · exact checkpoint_context_same_work _ _ _ _ _ _ _ _ done

end

end LlmperfOrchestrator.Storage

import LlmperfOrchestrator.Library.Transactions
import LlmperfOrchestrator.Storage.Lifecycle
import LlmperfOrchestrator.Storage.Plans

set_option autoImplicit false

namespace LlmperfOrchestrator.Storage.RowLocks

open Tables Transactions
open Plans (PlanId RunnerPlan Dispatch)

-- A Runner with its runner_plan_id.
structure RunnerRow where
  runner : Runner
  plan : Option PlanId
deriving DecidableEq

-- template is what RunnerRecordFactory reads of a runner_template.
structure PlanRow where
  plan : RunnerPlan
  template : Template
deriving DecidableEq

structure PlanNode where
  dispatch : Dispatch
  template : Template
deriving DecidableEq

-- ck_runner_dispatch_owner: a node is one of a task instance or one of a plan.
inductive NodeRow where
  | task (node : ExecutionNode)
  | plan (node : PlanNode)
deriving DecidableEq

namespace NodeRow

def campaign : NodeRow → CampaignId
  | .task node => node.campaign
  | .plan node => node.dispatch.campaign

def state : NodeRow → NodeState
  | .task node => node.state
  | .plan node => node.dispatch.state

def runner : NodeRow → Option RunnerId
  | .task node => node.runner
  | .plan node => node.dispatch.runner

def ofInstance (instanceId : InstanceId) : NodeRow → Bool
  | .task node => node.taskInstance = instanceId
  | .plan _ => false

def named (nodeId : String) : NodeRow → Bool
  | .task node => node.nodeId = nodeId
  | .plan _ => false

-- The node that activate_node may emit, and the instance it belongs to.
def waitingTask : NodeRow → Option ExecutionNode
  | .task node => if node.state.waiting then some node else none
  | .plan _ => none

def mapTask (change : ExecutionNode → ExecutionNode) : NodeRow → NodeRow
  | .task node => .task (change node)
  | .plan node => .plan node

def cancelled : NodeRow → NodeRow
  | .task node => .task (cancelWaiting (fun _ => true) node)
  | .plan node => .plan (if node.dispatch.state.waiting then { node with dispatch := { node.dispatch with state := .cancelled } } else node)

end NodeRow

structure Rows where
  campaigns : List CampaignId
  runners : Table RunnerId RunnerRow
  plans : Table PlanId PlanRow
  instances : Table InstanceId TaskInstance
  nodes : Table DispatchId NodeRow

inductive Kind where
  | runner
  | plan
  | taskInstance
  | node
deriving DecidableEq, Repr

inductive Row where
  | runner (id : RunnerId)
  | plan (id : PlanId)
  | taskInstance (id : InstanceId)
  | node (id : DispatchId)
deriving DecidableEq, Repr

def Row.kind : Row → Kind
  | .runner _ => .runner
  | .plan _ => .plan
  | .taskInstance _ => .taskInstance
  | .node _ => .node

abbrev Code := Program Rows Row

def raised : Code := .write (fun _ => none) .commit

namespace Rows

variable (rows : Rows)

def mapRunners (chosen : RunnerId → Bool) (change : Runner → Runner) : Rows :=
  { rows with runners := rows.runners.update fun id row => if chosen id then { row with runner := change row.runner } else row }

def mapInstances (chosen : InstanceId → Bool) (change : TaskInstance → TaskInstance) : Rows :=
  { rows with instances := rows.instances.update fun id task => if chosen id then change task else task }

def mapNodes (chosen : DispatchId → Bool) (change : NodeRow → NodeRow) : Rows :=
  { rows with nodes := rows.nodes.update fun id node => if chosen id then change node else node }

def insertRunner (id : RunnerId) (row : RunnerRow) : Option Rows :=
  match rows.runners.get id with
  | some _ => none
  | none => some { rows with runners := rows.runners.put id row }

def runnerRow (id : RunnerId) : List Row := (rows.runners.get id).toList.map fun _ => .runner id

def instanceRow (id : InstanceId) : List Row := (rows.instances.get id).toList.map fun _ => .taskInstance id

def nodeRow (id : DispatchId) : List Row := (rows.nodes.get id).toList.map fun _ => .node id

def ofCampaign (campaign : CampaignId) : Kind → List Row
  | .runner => (rows.runners.filter fun _ row => row.runner.campaign = some campaign).map fun entry => .runner entry.1
  | .plan => (rows.plans.filter fun _ row => row.plan.campaign = campaign).map fun entry => .plan entry.1
  | .taskInstance => (rows.instances.filter fun _ task => task.campaign = campaign).map fun entry => .taskInstance entry.1
  | .node => (rows.nodes.filter fun _ node => node.campaign = campaign).map fun entry => .node entry.1

def sourceRows (runnerId : RunnerId) (nodeId : String) : List Row :=
  (rows.nodes.filter fun _ node => node.runner = some runnerId ∧ node.named nodeId).map fun entry => .node entry.1

def queuedSiblings (instanceId : InstanceId) : List Row :=
  (rows.runners.filter fun id row => row.runner.status = .queued ∧
    rows.nodes.any fun _ node => node.ofInstance instanceId ∧ node.runner = some id).map fun entry => .runner entry.1

def openNodes (instanceId : InstanceId) : List Row :=
  (rows.nodes.filter fun _ node => node.ofInstance instanceId ∧ node.state.waiting).map fun entry => .node entry.1

def unfinishedNode (instanceId : InstanceId) : Bool :=
  rows.nodes.any fun _ node => match node with
    | .task node => node.taskInstance = instanceId ∧ (node.state ≠ .emitted ∨ node.terminalStatus ≠ some .succeeded)
    | .plan _ => false

end Rows

-- _emit_dispatch of a task node.
def emitTask (id : DispatchId) (node : ExecutionNode) (fresh : RunnerId) (now : Instant) (rows : Rows) : Option Rows :=
  if node.campaign ∉ rows.campaigns then none
  else (rows.insertRunner fresh ⟨fromDispatch node, none⟩).map fun emitted =>
    emitted.mapNodes (· = id) (NodeRow.mapTask fun row =>
      { row with state := .emitted, runner := some fresh, emittedAt := some now })

def activateNode (now : Instant) (id : DispatchId) (dueAt : Instant) (fresh : RunnerId) : Code :=
  .lock .onward (fun rows => rows.nodeRow id) fun _ rows =>
    match (rows.nodes.get id).bind NodeRow.waitingTask with
    | none => .commit
    | some node =>
        .lock .crossing (fun rows => rows.instanceRow node.taskInstance) fun _ rows =>
          match (rows.instances.get node.taskInstance).filter fun task => ¬ task.state.terminal with
          | none => .commit
          | some _ =>
              .write (fun rows => some (rows.mapNodes (· = id) (NodeRow.mapTask fun row =>
                { row with dueAt := some dueAt, state := .pending })))
              (.write (emitTask id node fresh now)
              (.write (fun rows => some (rows.mapInstances (· = node.taskInstance) fun task => { task with state := .active }))
              .commit))

def startRunner (now : Instant) (owner : String) (runner : Runner) : Runner :=
  { runner with status := .running, startedAt := some now, schedulerId := some owner }

-- The messages of the history sources are read without a lock; a missing one raises.
def startSelected (now : Instant) (id : RunnerId) (owner : String) : Code :=
  .lock .onward (fun rows => rows.runnerRow id) fun _ rows =>
    match (rows.runners.get id).filter fun row => row.runner.status = .queued ∧ row.runner.cancelRequested = false with
    | none => .commit
    | some row =>
        let started : Code := .write (fun rows => some (rows.mapRunners (· = id) (startRunner now owner))) .commit
        match row.runner.template.taskContext with
        | none => started
        | some context =>
            .lock .onward (fun rows => rows.instanceRow context.instanceId) fun _ rows =>
              match (rows.instances.get context.instanceId).filter fun task => ¬ task.state.terminal with
              | none => .write (fun rows => some (rows.mapRunners (· = id) fun runner =>
                  { runner with status := .cancelled, finishedAt := some now })) .commit
              | some _ => started

def cancelQueued (now : Instant) (runner : Runner) : Runner :=
  if runner.status = .queued then { runner with status := .cancelled, cancelRequested := true, finishedAt := some now }
  else runner

-- _cancel_task_dispatches: the queued Runners of the instance, then its waiting nodes.
def cancelTaskDispatches (instanceId : InstanceId) (now : Instant) (rest : Code) : Code :=
  .lock .backward (fun rows => rows.queuedSiblings instanceId) fun siblings _ =>
    .write (fun rows => some (rows.mapRunners (fun id => .runner id ∈ siblings) (cancelQueued now)))
    (.lock .onward (fun rows => rows.openNodes instanceId) fun waiting _ =>
      .write (fun rows => some (rows.mapNodes (fun id => .node id ∈ waiting) NodeRow.cancelled)) rest)

def setState (instanceId : InstanceId) (state : InstanceState) (error : Option String) (rows : Rows) : Option Rows :=
  some (rows.mapInstances (· = instanceId) fun task => { task with state, error })

def endInstance (instanceId : InstanceId) (state : InstanceState) (error : String) (now : Instant) (rest : Code) : Code :=
  .write (setState instanceId state (some error)) (cancelTaskDispatches instanceId now rest)

def advanceInstance (instanceId : InstanceId) (rest : Code) : Code :=
  .lock .onward (fun _ => []) fun _ rows =>
    .write (setState instanceId (if rows.unfinishedNode instanceId then .active else .completed) none) rest

def settleInstance (context : TaskContext) (task : TaskInstance) (status : RunnerStatus) (evidence : Evidence) (now : Instant)
    (rest : Code) : Code :=
  if task.state.terminal then rest
  else if status ≠ .succeeded then
    endInstance context.instanceId (if status = .cancelled then .cancelled else .failed)
      ("task node " ++ context.nodeId ++ " ended as " ++ status.name) now rest
  else if context.executionKind = .batch then advanceInstance context.instanceId rest
  else
    match replayError task context evidence with
    | some error => endInstance context.instanceId .failed error now rest
    | none =>
        .write (fun rows => some (rows.mapInstances (· = context.instanceId) fun task => recordEvidence task context evidence))
          (advanceInstance context.instanceId rest)

def recordOutcome (context : TaskContext) (status : RunnerStatus) (evidence : Evidence) (started completed : Instant)
    (task : TaskInstance) : TaskInstance :=
  { task with outcome := Dict.put context.nodeId (nodeOutcome context status evidence started completed) task.outcome }

def markSource (status : RunnerStatus) (started completed : Instant) (source : ExecutionNode) : ExecutionNode :=
  { source with
    actualStartedAt := some started
    actualCompletedAt := some completed
    terminalStatus := some status }

-- The checkpoint of one invocation. scalar_one_or_none raises on several sources.
def checkpointContext (direction : Direction) (runnerId : RunnerId) (runner : Runner) (context : TaskContext)
    (status : RunnerStatus) (occurredAt : Instant) (evidence : Evidence) (rest : Code) : Code :=
  if context.executionKind ≠ .batch ∧ context.payloadId = none then rest
  else
    .lock direction (fun rows => rows.instanceRow context.instanceId) fun _ rows =>
      match rows.instances.get context.instanceId with
      | none => rest
      | some task =>
          .lock .onward (fun rows => rows.sourceRows runnerId context.nodeId) fun sources _ =>
            match sources with
            | [] => .write (setState context.instanceId .failed
                (some ("task node " ++ context.nodeId ++ " has no originating Dispatch"))) rest
            | [.node sourceId] =>
                let started := startedInstant runner context evidence occurredAt
                let completed := completedInstant context evidence occurredAt
                .write (fun rows => some (rows.mapNodes (· = sourceId) (NodeRow.mapTask (markSource status started completed))))
                (.write (fun rows => some (rows.mapInstances (· = context.instanceId)
                  (recordOutcome context status evidence started completed)))
                (settleInstance context task status evidence occurredAt rest))
            | _ => raised

def checkpointInvocations (runnerId : RunnerId) (runner : Runner) (status : RunnerStatus) (occurredAt : Instant)
    (requests : List RequestMetrics) (rest : Code) : Direction → List TaskContext → Code
  | _, [] => rest
  | direction, invocation :: later =>
      let found := invocationMatches requests invocation
      checkpointContext direction runnerId runner invocation (invocationStatus found status) occurredAt (invocationEvidence found)
        (checkpointInvocations runnerId runner status occurredAt requests rest .backward later)

-- _checkpoint_task_result
def checkpointTaskResult (runnerId : RunnerId) (runner : Runner) (status : RunnerStatus) (occurredAt : Instant)
    (evidence : Evidence) (requests : List RequestMetrics) (rest : Code) : Code :=
  if runner.template.groupedContexts ≠ [] then
    checkpointInvocations runnerId runner status occurredAt requests rest .onward runner.template.groupedContexts
  else
    match runner.template.taskContext with
    | none => rest
    | some context => checkpointContext .onward runnerId runner context status occurredAt evidence rest

-- The rows of Workers, attempts and requests are of no table that is locked for others.
def completeRunner (now : Instant) (id : RunnerId) (requests : List RequestMetrics) (status : RunnerStatus)
    (errorMessage : Option String) : Code :=
  if status ≠ .succeeded ∧ status ≠ .failed then raised
  else
    .lock .onward (fun rows => rows.runnerRow id) fun _ rows =>
      match (rows.runners.get id).filter fun row => row.runner.status = .running ∧ row.runner.cancelRequested = false with
      | none => .commit
      | some row =>
          if atomicExecution row.runner ∧ requests.length ≠ 1 then raised
          else
            .write (fun rows => some (rows.mapRunners (· = id) fun runner =>
              { runner with status, finishedAt := some now, errorMessage }))
            (checkpointTaskResult id row.runner status now
              (if atomicExecution row.runner then requestEvidence requests else noEvidence) requests .commit)

def running (row : RunnerRow) : Bool := row.runner.status = .running

def finishRunner (now : Instant) (id : RunnerId) (status : RunnerStatus) (message : String) : Code :=
  if status ≠ .failed ∧ status ≠ .cancelled then raised
  else
    .lock .onward (fun rows => ((rows.runners.get id).filter running).toList.map fun _ => .runner id) fun _ rows =>
      match (rows.runners.get id).filter running with
      | none => .commit
      | some row =>
          .write (fun rows => some (rows.mapRunners (· = id) fun runner =>
            { runner with status, finishedAt := some now, errorMessage := some message }))
          (checkpointTaskResult id row.runner status now noEvidence [] .commit)

def requestCancel (now : Instant) (id : RunnerId) : Code :=
  .lock .onward (fun rows => rows.runnerRow id) fun _ rows =>
    match (rows.runners.get id).filter fun row => ¬ row.runner.status.terminal with
    | none => .commit
    | some row =>
        .write (fun rows => some (rows.mapRunners (· = id) fun runner => { runner with cancelRequested := true }))
        (if row.runner.status = .queued then
          .write (fun rows => some (rows.mapRunners (· = id) fun runner =>
            { runner with status := .cancelled, finishedAt := some now }))
          (checkpointTaskResult id row.runner .cancelled now noEvidence [] .commit)
        else .commit)

def cancelPlan (now : Instant) (row : PlanRow) : PlanRow :=
  if row.plan.status = .active ∨ row.plan.status = .paused then
    { row with plan := { row.plan with status := .cancelled, updatedAt := now } }
  else row

def cancelRows (campaign : CampaignId) (now : Instant) (locked : List Row) (rows : Rows) : Option Rows :=
  let stopped := (rows.mapRunners (fun id => .runner id ∈ locked) (cancelRunner campaign now)).mapInstances
    (fun id => .taskInstance id ∈ locked) (cancelInstance campaign)
  some { stopped.mapNodes (fun id => .node id ∈ locked) NodeRow.cancelled with
    plans := rows.plans.update fun id row => if .plan id ∈ locked then cancelPlan now row else row }

def lockCampaign (campaign : CampaignId) (now : Instant) : List Kind → List Row → Code
  | [], locked => .write (cancelRows campaign now locked) .commit
  | kind :: rest, locked =>
      .lock .onward (fun rows => rows.ofCampaign campaign kind) fun fresh _ => lockCampaign campaign now rest (locked ++ fresh)

def requestCancelCampaign (now : Instant) (campaign : CampaignId) : Code :=
  .lock .onward (fun _ => []) fun _ rows =>
    if campaign ∉ rows.campaigns then .commit
    else lockCampaign campaign now [.runner, .plan, .taskInstance, .node] []

inductive Call where
  | activateNode (now : Instant) (node : DispatchId) (dueAt : Instant) (fresh : RunnerId)
  | startSelected (now : Instant) (runner : RunnerId) (owner : String)
  | completeRunner (now : Instant) (runner : RunnerId) (requests : List RequestMetrics) (status : RunnerStatus)
      (errorMessage : Option String)
  | finishRunner (now : Instant) (runner : RunnerId) (status : RunnerStatus) (message : String)
  | requestCancel (now : Instant) (runner : RunnerId)
  | requestCancelCampaign (now : Instant) (campaign : CampaignId)

def code : Call → Code
  | .activateNode now node dueAt fresh => activateNode now node dueAt fresh
  | .startSelected now runner owner => startSelected now runner owner
  | .completeRunner now runner requests status errorMessage => completeRunner now runner requests status errorMessage
  | .finishRunner now runner status message => finishRunner now runner status message
  | .requestCancel now runner => requestCancel now runner
  | .requestCancelCampaign now campaign => requestCancelCampaign now campaign

end LlmperfOrchestrator.Storage.RowLocks

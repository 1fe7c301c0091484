import LlmperfOrchestrator.Compiler.Compilation
import LlmperfOrchestrator.Storage.Lifecycle
import LlmperfOrchestrator.Storage.Plans

set_option autoImplicit false

namespace LlmperfOrchestrator.Campaign

open Tables Outcomes Storage Plans

open Compiler (NodeId Sha256 TaskRecipe WorkerTemplate CompiledNodeRow CompiledInstanceRow CompilationTable)
open Runtime.Recurrence (timedelta)

-- A task definition as it is submitted, with what is read of the benchmark of
-- its runner_template. Its identifiers are the texts that uuid4 returns, in order.
structure TaskDefinition where
  recipe : TaskRecipe
  document : StoredBenchmark
  adapter : Option String
  samplingParams : List String
  identifiers : Nat → String

def TaskDefinition.benchmark (definition : TaskDefinition) : WorkerTemplate where
  hasSteps := definition.document.steps.isSome
  repeats := definition.document.repeats.getD 1
  adapter := definition.adapter
  samplingParams := definition.samplingParams

structure PlainRunner where
  id : RunnerId
  round : Option Nat
  benchmark : StoredBenchmark
deriving DecidableEq

def executionKind : Compiler.ExecutionKind → ExecutionKind
  | .atomic => .atomic
  | .batch => .batch

-- task_context of TaskAssembler._runner_template
def taskContext (instanceId : InstanceId) (row : CompiledNodeRow) : TaskContext where
  instanceId := instanceId
  nodeId := row.nodeId
  payloadId := if row.executionKind = .batch then none else row.payloadId
  executionKind := executionKind row.executionKind
  role := some row.role
  messageSources := if row.executionKind = .batch then [] else row.messageSources

-- dispatch_ids[node_id]
def lookupId (ids : Dict NodeId DispatchId) (name : NodeId) : Except String DispatchId :=
  match Dict.get name ids with
  | none => .error name
  | some id => .ok id

section Rows

variable (campaign : CampaignId) (now : Instant) (document : StoredBenchmark) (instanceId : InstanceId)
  (ids : Dict NodeId DispatchId)

def plannedInstance : TaskInstance := ⟨campaign, .planned, now, [], [], [], none⟩

-- benchmark_document of _runner_template
def nodeDocument (kind : Compiler.ExecutionKind) : StoredBenchmark :=
  if kind = .batch then document else document.repeating 1 (Nat.le_refl 1)

-- TaskAssembler._assemble_node and its ExecutionNodeRecord
def assembleNode (row : CompiledNodeRow) : Except String (DispatchId × ExecutionNode) := do
  let dispatchId ← lookupId ids row.nodeId
  let dependencies ← row.dependencies.mapM (lookupId ids)
  .ok (dispatchId,
    { campaign := campaign
      taskInstance := instanceId
      nodeId := row.nodeId
      state := if dependencies = [] then .pending else .blocked
      dueAt := if dependencies = [] then some (now + timedelta row.afterSeconds) else none
      template := queuedTemplate (some (taskContext instanceId row)) none (nodeDocument document row.executionKind)
      dependencies := dependencies
      delay := (timedelta row.afterSeconds).toNat
      actualStartedAt := none
      actualCompletedAt := none
      terminalStatus := none
      runner := none
      emittedAt := none })

end Rows

section Insertion

variable {Digest : Type} [DecidableEq Digest]

def duplicateKey : String := "duplicate key value violates unique constraint"

def insertNode (campaign : CampaignId) (now : Instant) (document : StoredBenchmark) (instanceId : InstanceId)
    (ids : Dict NodeId DispatchId) (store : Store Digest) (row : CompiledNodeRow) : Except String (Store Digest) := do
  let (id, node) ← assembleNode campaign now document instanceId ids row
  match store.nodes.get id with
  | some _ => .error duplicateKey
  | none => .ok (setNode store id node)

def insertInstance (campaign : CampaignId) (now : Instant) (definition : TaskDefinition) (table : CompilationTable)
    (state : Store Digest × Nat) (row : CompiledInstanceRow) : Except String (Store Digest × Nat) := do
  let instanceId := definition.identifiers state.2
  let nodes := table.nodesFor row.instanceKey
  let ids := (nodes.zipIdx (state.2 + 1)).map fun numbered => (numbered.1.nodeId, definition.identifiers numbered.2)
  match state.1.instances.get instanceId with
  | some _ => .error duplicateKey
  | none =>
      let placed := setInstance state.1 instanceId (plannedInstance campaign now)
      let store ← nodes.foldlM (insertNode campaign now definition.document instanceId ids) placed
      .ok (store, state.2 + 1 + nodes.length)

-- TaskRecipe.model_validate, TaskCompiler.compile and TaskAssembler.assemble
def insertDefinition (sha256 : Sha256) (campaign : CampaignId) (now : Instant) (store : Store Digest)
    (definition : TaskDefinition) : Except String (Store Digest) :=
  if definition.recipe.valid = false then .error "invalid task definition"
  else do
    Compiler.validateRecipe sha256 definition.recipe
    let table ← Compiler.compile sha256 definition.recipe definition.benchmark
    let (store, _) ← table.instances.foldlM (insertInstance campaign now definition table) (store, 0)
    .ok store

-- RunnerRecordFactory.from_template
def plainRow (campaign : Option CampaignId) (runner : PlainRunner) : Runner where
  campaign := campaign
  status := .queued
  cancelRequested := false
  template := queuedTemplate none runner.round runner.benchmark
  startedAt := none
  finishedAt := none
  schedulerId := none
  errorMessage := none

def insertRunner (campaign : Option CampaignId) (store : Store Digest) (runner : PlainRunner) : Except String (Store Digest) :=
  match store.runners.get runner.id with
  | some _ => .error duplicateKey
  | none => .ok (setRunner store runner.id (plainRow campaign runner))

def insertCampaign (store : Store Digest) (campaign : CampaignId) : Except String (Store Digest) :=
  if campaign ∈ store.campaigns then .error duplicateKey
  else .ok { store with campaigns := campaign :: store.campaigns }

-- create_campaign_workload but for its RunnerPlans
def createWorkload (sha256 : Sha256) (store : Store Digest) (campaign : CampaignId) (now : Instant)
    (runners : List PlainRunner) (definitions : List TaskDefinition) : Except String (Store Digest) := do
  let created ← insertCampaign store campaign
  let staffed ← runners.foldlM (insertRunner (some campaign)) created
  definitions.foldlM (insertDefinition sha256 campaign now) staffed

end Insertion

open Compiler (Sha256)
open Runtime.Recurrence (Zones RunnerPlanTiming)

-- A RunnerPlan and the dispatches that carry its id.
structure PlanRow where
  plan : RunnerPlan
  dispatches : List Dispatch

structure SubmittedPlan where
  id : PlanId
  timing : RunnerPlanTiming
  runnerTemplate : Json
  templateVersion : String
  runtime : Option String

-- The rows of all campaigns: a Runner that a plan emits is a row of the store
-- like any other.
structure CampaignState (Digest : Type) [DecidableEq Digest] where
  store : Store Digest
  plans : Table PlanId PlanRow

inductive CampaignEvent (Digest : Type) where
  | createCampaign (campaign : CampaignId)
  | createWorkload (campaign : CampaignId) (now : Instant) (createdBy : String) (runners : List PlainRunner)
      (plans : List SubmittedPlan) (definitions : List TaskDefinition)
  | createRunners (campaign : Option CampaignId) (runners : List PlainRunner)
  | createPlan (campaign : CampaignId) (now : Instant) (createdBy : String) (plan : SubmittedPlan)
  | changePlan (plan : PlanId) (action : PlanAction) (now : Instant)
  | materializePlan (plan : PlanId) (now : Instant) (plannerId : Option String)
  | emitDispatch (plan : PlanId) (index : Nat) (runner : PlainRunner) (now : Instant)
  | cancelCampaign (campaign : CampaignId) (now : Instant)
  | call (call : Call Digest)

section State

variable {Digest : Type} [DecidableEq Digest]

def emptyStore : Store Digest := ⟨none, [], Table.empty, Table.empty, Table.empty, Table.empty, Table.empty, []⟩

def emptyState : CampaignState Digest := ⟨emptyStore, Table.empty⟩

def activeRunner (store : Store Digest) (dispatch : Dispatch) : Bool :=
  dispatch.runner.any fun id => (store.runners.get id).any fun runner => !runner.status.terminal

def PlanRow.activeRunners (store : Store Digest) (row : PlanRow) : Nat := row.dispatches.countP (activeRunner store)

def PlanRow.pendingDispatches (row : PlanRow) : Nat := row.dispatches.countP fun dispatch => dispatch.state = .pending

-- _new_runner_plan
def insertPlan (zones : Zones) (campaign : CampaignId) (now : Instant) (createdBy : String) (plans : Table PlanId PlanRow)
    (submitted : SubmittedPlan) : Except String (Table PlanId PlanRow) := do
  let (plan, _) ← newRunnerPlan zones campaign submitted.timing submitted.runnerTemplate submitted.templateVersion createdBy
    submitted.runtime now now
  match plans.get submitted.id with
  | some _ => .error duplicateKey
  | none => .ok (plans.put submitted.id ⟨plan, []⟩)

def submitWorkload (sha256 : Sha256) (zones : Zones) (s : CampaignState Digest) (campaign : CampaignId) (now : Instant)
    (createdBy : String) (runners : List PlainRunner) (plans : List SubmittedPlan) (definitions : List TaskDefinition) :
    Except String (CampaignState Digest) := do
  let store ← createWorkload sha256 s.store campaign now runners definitions
  let plans ← plans.foldlM (insertPlan zones campaign now createdBy) s.plans
  .ok ⟨store, plans⟩

-- create_runner and create_runners; without its Campaign neither adds a row.
def createRunners (s : CampaignState Digest) (campaign : Option CampaignId) (runners : List PlainRunner) :
    Except String (CampaignState Digest) :=
  if ∃ owner ∈ campaign, owner ∉ s.store.campaigns then .ok s
  else do
    let store ← runners.foldlM (insertRunner campaign) s.store
    .ok { s with store := store }

def createRunnerPlan (zones : Zones) (s : CampaignState Digest) (campaign : CampaignId) (now : Instant) (createdBy : String)
    (plan : SubmittedPlan) : Except String (CampaignState Digest) :=
  if campaign ∉ s.store.campaigns then .ok s
  else do
    let plans ← insertPlan zones campaign now createdBy s.plans plan
    .ok { s with plans := plans }

def PlanRow.changed (row : PlanRow) (action : PlanAction) (now : Instant) : PlanRow :=
  if row.plan.status ∈ action.allowed then
    { plan := changedPlan row.plan action now
      dispatches := if action = .cancel then row.dispatches.map cancelPending else row.dispatches }
  else row

def changeRunnerPlan (s : CampaignState Digest) (id : PlanId) (action : PlanAction) (now : Instant) : CampaignState Digest :=
  match s.plans.get id with
  | none => s
  | some row => { s with plans := s.plans.put id (row.changed action now) }

-- materialize_due_work: a due plan, and later a due dispatch of a plan.
def materialize (zones : Zones) (s : CampaignState Digest) (id : PlanId) (now : Instant) (plannerId : Option String) :
    Except String (CampaignState Digest) :=
  match (s.plans.get id).filter fun row => row.plan.status = .active ∧ ∃ fire ∈ row.plan.nextFireAt, fire ≤ now with
  | none => .ok s
  | some row => do
      let done ← Plans.materializePlan zones id row.plan now (row.activeRunners s.store) row.pendingDispatches plannerId
      .ok { s with plans := s.plans.put id ⟨done.plan, row.dispatches ++ done.dispatch.toList⟩ }

def emitPlanDispatch (s : CampaignState Digest) (id : PlanId) (index : Nat) (runner : PlainRunner) (now : Instant) :
    Except String (CampaignState Digest) :=
  match s.plans.get id with
  | none => .ok s
  | some row =>
      match row.dispatches[index]?.filter fun dispatch => dispatch.state = .pending ∧ dispatch.dueAt ≤ now with
      | none => .ok s
      | some dispatch => do
          let _ ← Plans.fromDispatch dispatch runner.id row.plan.runtime
          let store ← insertRunner (some dispatch.campaign) s.store runner
          .ok ⟨store, s.plans.put id
            ⟨countEmitted row.plan now, row.dispatches.set index (emittedDispatch dispatch runner.id now)⟩⟩

def cancelDispatch (campaign : CampaignId) (dispatch : Dispatch) : Dispatch :=
  if dispatch.campaign = campaign ∧ dispatch.state.waiting then { dispatch with state := .cancelled } else dispatch

def cancelPlan (campaign : CampaignId) (now : Instant) (row : PlanRow) : PlanRow where
  plan := if row.plan.campaign = campaign ∧ (row.plan.status = .active ∨ row.plan.status = .paused) then
      { row.plan with status := .cancelled, updatedAt := now }
    else row.plan
  dispatches := row.dispatches.map (cancelDispatch campaign)

-- request_cancel_campaign
def cancelCampaign (s : CampaignState Digest) (campaign : CampaignId) (now : Instant) : CampaignState Digest :=
  if campaign ∉ s.store.campaigns then s
  else ⟨requestCancelCampaign s.store now campaign, s.plans.update fun _ row => cancelPlan campaign now row⟩

-- A transaction that raises is rolled back.
def committed (s : CampaignState Digest) : Except String (CampaignState Digest) → CampaignState Digest
  | .ok next => next
  | .error _ => s

def campaignStep (sha256 : Sha256) (zones : Zones) (digest : Json → Digest) (s : CampaignState Digest) :
    CampaignEvent Digest → Option (CampaignState Digest)
  | .createCampaign campaign => some (committed s ((insertCampaign s.store campaign).map fun store => { s with store := store }))
  | .createWorkload campaign now createdBy runners plans definitions =>
      some (committed s (submitWorkload sha256 zones s campaign now createdBy runners plans definitions))
  | .createRunners campaign runners => some (committed s (createRunners s campaign runners))
  | .createPlan campaign now createdBy plan => some (committed s (createRunnerPlan zones s campaign now createdBy plan))
  | .changePlan plan action now => some (changeRunnerPlan s plan action now)
  | .materializePlan plan now plannerId => some (committed s (materialize zones s plan now plannerId))
  | .emitDispatch plan index runner now => some (committed s (emitPlanDispatch s plan index runner now))
  | .cancelCampaign campaign now => some (cancelCampaign s campaign now)
  | .call (.requestCancelCampaign _ _) => none
  | .call call => some { s with store := (perform digest s.store call).1 }

end State

end LlmperfOrchestrator.Campaign

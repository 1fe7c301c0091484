import LlmperfOrchestrator.Compiler.RoundExpansion
import LlmperfOrchestrator.Runtime.Triggers
import LlmperfOrchestrator.Storage.Lifecycle

set_option autoImplicit false

namespace LlmperfOrchestrator.Runtime

open Tables Storage Compiler

structure NodeSnapshot where
  nodeId : DispatchId
  dependencies : List DispatchId
  delay : Nat
  state : NodeState
  completedAt : Option Instant
  terminalStatus : Option RunnerStatus
deriving DecidableEq, Repr

structure InstanceSnapshot where
  instanceId : InstanceId
  state : InstanceState
  createdAt : Instant
  nodes : List NodeSnapshot
deriving DecidableEq, Repr

def completionEntry (node : NodeSnapshot) : Option (DispatchId × Completion) :=
  match node.terminalStatus, node.completedAt with
  | some status, some completedAt => some (node.nodeId, ⟨status = .succeeded, completedAt⟩)
  | _, _ => none

def readyEntry (nodes : List NodeSnapshot) (createdAt now : Instant) (node : NodeSnapshot) : Option (DispatchId × Instant) :=
  if node.state.waiting then
    let eligibility := dependencyTrigger node.dependencies createdAt node.delay now (Dict.collect completionEntry nodes)
    if eligibility.ready then eligibility.dueAt.map fun dueAt => (node.nodeId, dueAt) else none
  else none

def readyNodes (nodes : List NodeSnapshot) (createdAt now : Instant) : Dict DispatchId Instant :=
  Dict.collect (readyEntry nodes createdAt now) nodes

section

variable {Digest : Type} [DecidableEq Digest]

-- The SELECT statements of runtime_snapshot. Each one reads the rows committed
-- when it runs, so calls of other transactions may fall between them.
def queuedRunners (store : Store Digest) : List (RunnerId × Runner) :=
  store.runners.filter fun _ runner => runner.status = .queued ∧ runner.cancelRequested = false

def roundCampaigns (rows : List (RunnerId × Runner)) : List CampaignId :=
  rows.filterMap fun row => if row.2.template.round = none then none else row.2.campaign

def roundStates (store : Store Digest) (rows : List (RunnerId × Runner)) : List RoundState :=
  (store.runners.filter fun _ runner =>
      (runner.campaign.any fun campaign => campaign ∈ roundCampaigns rows) ∧ runner.status.terminal = false).filterMap
    fun row => row.2.template.round.map fun roundIndex => ⟨row.2.campaign, row.2.status, roundIndex⟩

def committedInstance (store : Store Digest) (runnerId : RunnerId) : InstanceId :=
  (((store.runners.get runnerId).bind fun runner => runner.template.taskContext).map TaskContext.instanceId).getD ""

def selectedInstances (store : Store Digest) : Option RunnerId → List (InstanceId × TaskInstance)
  | none => store.instances.filter fun _ task => ¬ task.state.terminal
  | some runnerId => store.instances.filter fun id _ => id = committedInstance store runnerId

def settledParent (store : Store Digest) (instanceId : InstanceId) (dependency : DispatchId) : Bool :=
  (store.nodes.get dependency).any fun parent =>
    parent.taskInstance = instanceId ∧ parent.terminalStatus = some .succeeded ∧ parent.actualCompletedAt.isSome

def frontier (store : Store Digest) (instanceIds : List InstanceId) : List (DispatchId × ExecutionNode) :=
  store.nodes.filter fun _ candidate => candidate.taskInstance ∈ instanceIds ∧ candidate.state.waiting ∧
    candidate.dependencies.all fun dependency => settledParent store candidate.taskInstance dependency

def frontierIds (store : Store Digest) (instanceIds : List InstanceId) : List DispatchId :=
  (frontier store instanceIds).flatMap fun row => row.1 :: row.2.dependencies

def nodeSnapshot (row : DispatchId × ExecutionNode) : NodeSnapshot :=
  ⟨row.1, row.2.dependencies, row.2.delay, row.2.state, row.2.actualCompletedAt, row.2.terminalStatus⟩

def frontierNodes (store : Store Digest) (instances : List InstanceSnapshot) (instanceId : InstanceId) : List NodeSnapshot :=
  let pending := (instances.filter fun task => ¬ task.state.terminal).map InstanceSnapshot.instanceId
  (store.nodes.filter fun id node => id ∈ frontierIds store pending ∧ node.taskInstance = instanceId).map nodeSnapshot

end

structure Coordinator where
  queues : Dict String (List RunnerId)
  order : List String
  admitted : List RunnerId
  lastMaterialized : Option InstanceId
  readyCapacity : Nat
deriving DecidableEq, Repr

def Coordinator.queued (coordinator : Coordinator) : Nat := total (fun entry => entry.2.length) coordinator.queues

-- runner.get("campaign_id") or candidate_runner_id
def queueKey (runnerId : RunnerId) : Option CampaignId → String
  | none => runnerId
  | some campaign => if campaign = "" then runnerId else campaign

def enqueueOne (coordinator : Coordinator) (runnerId : RunnerId) (key : String) : Coordinator :=
  { coordinator with
    queues := Dict.put key ((Dict.get key coordinator.queues).getD [] ++ [runnerId]) coordinator.queues
    order := if key ∈ Dict.keys coordinator.queues then coordinator.order else coordinator.order ++ [key]
    admitted := runnerId :: coordinator.admitted }

def enqueueRunners (coordinator : Coordinator) : List (RunnerId × Option CampaignId) → Coordinator
  | [] => coordinator
  | (runnerId, campaign) :: rest =>
      if coordinator.readyCapacity ≤ coordinator.queued then coordinator
      else if runnerId ∈ coordinator.admitted then enqueueRunners coordinator rest
      else enqueueRunners (enqueueOne coordinator runnerId (queueKey runnerId campaign)) rest

def Coordinator.discard (coordinator : Coordinator) (runnerId : RunnerId) : Coordinator :=
  { coordinator with admitted := coordinator.admitted.filter fun other => other ≠ runnerId }

-- The pop that opens claim_ready_runner.
def claimReady (coordinator : Coordinator) : Option (Coordinator × RunnerId) :=
  match coordinator.order with
  | [] => none
  | campaign :: rest =>
      match Dict.get campaign coordinator.queues with
      | none | some [] => none
      | some (runnerId :: remaining) =>
          if remaining = [] then
            some ({ coordinator with queues := Dict.pop campaign coordinator.queues, order := rest }, runnerId)
          else
            some ({ coordinator with queues := Dict.put campaign remaining coordinator.queues, order := rest ++ [campaign] }, runnerId)

inductive Stage where
  | runners
  | rounds
  | instances
  | nodes
  | enqueued
  | decided
deriving DecidableEq, Repr

abbrev Candidates := List (InstanceId × Dict DispatchId Instant)

structure Pass where
  hint : Option RunnerId
  stage : Stage
  runners : List (RunnerId × Runner)
  rounds : List RoundState
  instances : List InstanceSnapshot
  candidates : Candidates
deriving DecidableEq, Repr

def selectedRunners (pass : Pass) : List (RunnerId × Option CampaignId) :=
  (readyRoundRunners pass.runners pass.rounds).map fun row => (row.1, row.2.campaign)

-- Materialization resumes after the instance that was served last.
def rotated (instances : List InstanceSnapshot) (last : Option InstanceId) : List InstanceSnapshot :=
  let eligible := instances.filter fun task => ¬ task.state.terminal
  let start := ((eligible.findIdx? fun task => some task.instanceId = last).map (· + 1)).getD 0
  eligible.drop start ++ eligible.take start

def candidatesOf (instances : List InstanceSnapshot) (now : Instant) : Candidates :=
  instances.filterMap fun task =>
    let due := readyNodes task.nodes task.createdAt now
    if due = [] then none else some (task.instanceId, due)

structure System (Digest : Type) [DecidableEq Digest] where
  store : Store Digest
  clock : Instant
  runtimeOwner : Option String
  runtimeGeneration : Nat
  coordinator : Coordinator
  passes : Dict Nat Pass
  claims : List RunnerId

inductive Event (Digest : Type) where
  | call (call : Call Digest)
  | tick (later : Instant)
  | own (owner : Option String) (generation : Nat)
  | readRunners (pass : Nat) (hint : Option RunnerId)
  | readRounds (pass : Nat)
  | readInstances (pass : Nat)
  | readNodes (pass : Nat)
  | enqueue (pass : Nat)
  | decide (pass : Nat)
  | activate (pass : Nat) (fresh : RunnerId)
  | finish (pass : Nat)
  | claim
  | start (runner : RunnerId) (owner : String)
  | abandon (runner : RunnerId)
  | release (runner : RunnerId)
  | stop
deriving DecidableEq

-- activate_node and start_selected are called by the coordinator alone.
def foreignCall {Digest : Type} : Call Digest → Bool
  | .activateNode .. | .startSelected .. => false
  | _ => true

section

variable {Digest : Type} [DecidableEq Digest]

def callerOf (system : System Digest) : Caller := ⟨system.runtimeOwner, system.runtimeGeneration, system.clock⟩

def setPass (system : System Digest) (k : Nat) (pass : Pass) : System Digest :=
  { system with passes := Dict.put k pass system.passes }

def readRunners (system : System Digest) (k : Nat) (hint : Option RunnerId) : Option (System Digest) :=
  match checkRuntime system.store (callerOf system) with
  | .error _ => none
  | .ok _ =>
      let rows := if hint = none then queuedRunners system.store else []
      some (setPass system k ⟨hint, .runners, rows, [], [], []⟩)

def readRounds (system : System Digest) (k : Nat) (pass : Pass) : System Digest :=
  setPass system k { pass with stage := .rounds, rounds := roundStates system.store pass.runners }

def readInstances (system : System Digest) (k : Nat) (pass : Pass) : System Digest :=
  setPass system k { pass with
    stage := .instances
    instances := (selectedInstances system.store pass.hint).map fun row => ⟨row.1, row.2.state, row.2.createdAt, []⟩ }

def readNodes (system : System Digest) (k : Nat) (pass : Pass) : System Digest :=
  setPass system k { pass with
    stage := .nodes
    instances := pass.instances.map fun task =>
      { task with nodes := frontierNodes system.store pass.instances task.instanceId } }

def enqueuePass (system : System Digest) (k : Nat) (pass : Pass) : System Digest :=
  setPass { system with coordinator := enqueueRunners system.coordinator (selectedRunners pass) } k
    { pass with stage := .enqueued }

def decidePass (system : System Digest) (k : Nat) (pass : Pass) : System Digest :=
  setPass system k { pass with
    stage := .decided
    candidates := candidatesOf (rotated pass.instances system.coordinator.lastMaterialized) system.clock }

def afterActivation (coordinator : Coordinator) (store : Store Digest) (instanceId : InstanceId) (emitted : Option RunnerId) :
    Coordinator :=
  let served := { coordinator with lastMaterialized := some instanceId }
  match emitted with
  | none => served
  | some runnerId => enqueueRunners served [(runnerId, (store.runners.get runnerId).bind Runner.campaign)]

def restOf (candidates : Candidates) (instanceId : InstanceId) (pending : Dict DispatchId Instant) : Candidates :=
  if pending = [] then candidates else candidates ++ [(instanceId, pending)]

-- One iteration of the materialization loop. An exception ends the pass.
def activatePass (digest : Json → Digest) (system : System Digest) (k : Nat) (pass : Pass) (fresh : RunnerId) :
    Option (System Digest) :=
  match pass.candidates with
  | (instanceId, (nodeId, dueAt) :: pending) :: rest =>
      if system.coordinator.readyCapacity ≤ system.coordinator.queued then none
      else
        match perform digest system.store (.activateNode (callerOf system) nodeId dueAt fresh) with
        | (store, .emitted emitted) =>
            some (setPass { system with
                store := store
                coordinator := afterActivation system.coordinator store instanceId emitted } k
              { pass with candidates := restOf rest instanceId pending })
        | (store, _) => some { system with store := store, passes := Dict.pop k system.passes }
  | _ => none

def claimStep (system : System Digest) : Option (System Digest) :=
  (claimReady system.coordinator).map fun (coordinator, runnerId) =>
    { system with coordinator := coordinator, claims := runnerId :: system.claims }

def dropClaim (system : System Digest) (runnerId : RunnerId) : System Digest :=
  { system with claims := system.claims.erase runnerId, coordinator := system.coordinator.discard runnerId }

def startStep (digest : Json → Digest) (system : System Digest) (runnerId : RunnerId) (owner : String) : System Digest :=
  match perform digest system.store (.startSelected (callerOf system) runnerId owner) with
  | (store, .admitted (some _)) => { system with store := store, claims := system.claims.erase runnerId }
  | (store, _) => dropClaim { system with store := store } runnerId

def onPass (system : System Digest) (k : Nat) (stage : Stage) (next : Pass → Option (System Digest)) : Option (System Digest) :=
  ((Dict.get k system.passes).filter fun pass => pass.stage = stage).bind next

def systemStep (digest : Json → Digest) (system : System Digest) : Event Digest → Option (System Digest)
  | .call call => if foreignCall call then some { system with store := (perform digest system.store call).1 } else none
  | .tick later => if system.clock ≤ later then some { system with clock := later } else none
  | .own owner generation => some { system with runtimeOwner := owner, runtimeGeneration := generation }
  | .readRunners k hint => readRunners system k hint
  | .readRounds k => onPass system k .runners fun pass => some (readRounds system k pass)
  | .readInstances k => onPass system k .rounds fun pass => some (readInstances system k pass)
  | .readNodes k => onPass system k .instances fun pass => some (readNodes system k pass)
  | .enqueue k => onPass system k .nodes fun pass => some (enqueuePass system k pass)
  | .decide k => onPass system k .enqueued fun pass => some (decidePass system k pass)
  | .activate k fresh => onPass system k .decided fun pass => activatePass digest system k pass fresh
  | .finish k => some { system with passes := Dict.pop k system.passes }
  | .claim => claimStep system
  | .start runnerId owner => if runnerId ∈ system.claims then some (startStep digest system runnerId owner) else none
  | .abandon runnerId => if runnerId ∈ system.claims then some (dropClaim system runnerId) else none
  | .release runnerId => some { system with coordinator := system.coordinator.discard runnerId }
  | .stop => some { system with
      coordinator := { system.coordinator with queues := [], order := [], admitted := [], lastMaterialized := none }
      passes := [] }

end

end LlmperfOrchestrator.Runtime

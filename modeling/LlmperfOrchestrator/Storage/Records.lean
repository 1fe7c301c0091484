import LlmperfOrchestrator.Library.Keyed
import LlmperfOrchestrator.Storage.Documents

set_option autoImplicit false

namespace LlmperfOrchestrator.Storage

open Tables

abbrev RunnerId := String
abbrev CampaignId := String
abbrev InstanceId := String
abbrev DispatchId := String

inductive RunnerStatus where
  | queued
  | running
  | succeeded
  | failed
  | cancelled
deriving DecidableEq, Repr

def RunnerStatus.terminal : RunnerStatus → Bool
  | .succeeded | .failed | .cancelled => true
  | .queued | .running => false

def RunnerStatus.name : RunnerStatus → String
  | .queued => "queued"
  | .running => "running"
  | .succeeded => "succeeded"
  | .failed => "failed"
  | .cancelled => "cancelled"

inductive InstanceState where
  | planned
  | active
  | completed
  | failed
  | cancelled
deriving DecidableEq, Repr

def InstanceState.terminal : InstanceState → Bool
  | .completed | .failed | .cancelled => true
  | .planned | .active => false

inductive NodeState where
  | blocked
  | pending
  | emitted
  | cancelled
deriving DecidableEq, Repr

def NodeState.waiting : NodeState → Bool
  | .blocked | .pending => true
  | .emitted | .cancelled => false

inductive WorkerState where
  | created
  | submitted
  | succeeded
  | failed
  | cancelled
  | indeterminate
deriving DecidableEq, Repr

inductive ExecutionKind where
  | atomic
  | batch
deriving DecidableEq, Repr

-- benchmark_config.task_context as the assembler writes it. An atomic
-- invocation names its payload, a batch has none.
structure TaskContext where
  instanceId : InstanceId
  nodeId : String
  payloadId : Option String
  executionKind : ExecutionKind
  role : Option String
  messageSources : List String
deriving DecidableEq, Repr

structure ProbeKeys where
  trials : Nat
  repeatsAfterPrime : Option Nat
deriving DecidableEq, Repr

-- The keys of a stored benchmark_config that the counts read. A missing key, or
-- a null of steps and cache_probe, is none; the bounds are those of RequestPlan.
structure StoredBenchmark where
  repeats : Option Nat
  steps : Option (List String)
  cacheProbe : Option ProbeKeys
  repeated : ∀ count, repeats = some count → 1 ≤ count
  listed : ∀ names, steps = some names → names ≠ []
deriving DecidableEq, Repr

-- planned_worker_count
def plannedWorkerCount (benchmark : StoredBenchmark) : Nat :=
  match benchmark.cacheProbe with
  | some probe => probe.trials * (1 + probe.repeatsAfterPrime.getD 1)
  | none => benchmark.repeats.getD 1 * (benchmark.steps.elim 1 List.length)

-- The document with repeat set.
def StoredBenchmark.repeating (benchmark : StoredBenchmark) (count : Nat) (positive : 1 ≤ count) : StoredBenchmark :=
  { benchmark with repeats := some count, repeated := fun _ same => Option.some.inj same ▸ positive }

def StoredBenchmark.blank : StoredBenchmark := ⟨none, none, none, (by simp), (by simp)⟩

-- What a Runner keeps of its runner_template. benchmark_config holds the two
-- contexts (task_context and task_contexts) and benchmark, round is the index of
-- user_metadata.runner_round, plannedWorkers the column planned_workers.
structure Template where
  taskContext : Option TaskContext
  groupedContexts : List TaskContext
  round : Option Nat
  benchmark : StoredBenchmark
  plannedWorkers : Nat
deriving DecidableEq, Repr

-- RunnerRecordFactory.queued counts the Workers of the document that it stores.
def queuedTemplate (context : Option TaskContext) (round : Option Nat) (benchmark : StoredBenchmark) : Template :=
  ⟨context, [], round, benchmark, plannedWorkerCount benchmark⟩

structure Runner where
  campaign : Option CampaignId
  status : RunnerStatus
  cancelRequested : Bool
  template : Template
  startedAt : Option Instant
  finishedAt : Option Instant
  schedulerId : Option String
  errorMessage : Option String
deriving DecidableEq, Repr

structure NodeOutcome where
  role : Option String
  executionKind : ExecutionKind
  payloadId : Option String
  startedAt : Instant
  completedAt : Instant
  promptHash : Option String
  payloadEvidence : Option Json
  status : RunnerStatus
deriving DecidableEq

structure TaskInstance where
  campaign : CampaignId
  state : InstanceState
  createdAt : Instant
  payloadHashes : Dict (Option String) String
  payloadEvidence : Dict (Option String) Json
  outcome : Dict String NodeOutcome
  error : Option String
deriving DecidableEq

-- ExecutionNodeRecord of a task node. dependencies, delay, the checkpoint
-- times and terminalStatus are members of its lineage document.
structure ExecutionNode where
  campaign : CampaignId
  taskInstance : InstanceId
  nodeId : String
  state : NodeState
  dueAt : Option Instant
  template : Template
  dependencies : List DispatchId
  delay : Nat
  actualStartedAt : Option Instant
  actualCompletedAt : Option Instant
  terminalStatus : Option RunnerStatus
  runner : Option RunnerId
  emittedAt : Option Instant
deriving DecidableEq, Repr

structure WorkerMetadata where
  dependencies : List String
  messageSources : List String
  delay : Nat
  dueAt : Option Instant
  inputName : Option String
  cancellation : Option Json
deriving DecidableEq

-- worker_identity hashes the Runner and the step; the pair stands for it.
abbrev WorkerId := RunnerId × String

structure LogKey (Digest : Type) where
  worker : WorkerId
  digest : Digest
deriving DecidableEq, Repr

structure Worker (Digest : Type) where
  generation : Nat
  state : WorkerState
  createdAt : Instant
  submittedAt : Option Instant
  completedAt : Option Instant
  metadata : WorkerMetadata
  logKey : Option (LogKey Digest)
  completionHash : Option Digest
deriving DecidableEq

-- A message identifier is either the hash of a completion's name or any other
-- identifier chosen by the publisher.
inductive MessageId where
  | completed (worker : WorkerId)
  | named (identifier : String)
deriving DecidableEq, Repr

inductive Payload (Digest : Type) where
  | document (value : Json)
  | completion (worker : WorkerId) (log : LogKey Digest)
deriving DecidableEq

structure Message (Digest : Type) where
  runner : RunnerId
  source : Option String
  destination : String
  topic : String
  payload : Payload Digest
  createdAt : Instant
deriving DecidableEq

structure Lease where
  owner : String
  generation : Nat
  expiresAt : Instant
deriving DecidableEq, Repr

structure Store (Digest : Type) [DecidableEq Digest] where
  lease : Option Lease
  campaigns : List CampaignId
  runners : Table RunnerId Runner
  instances : Table InstanceId TaskInstance
  nodes : Table DispatchId ExecutionNode
  workers : Table WorkerId (Worker Digest)
  messages : Table MessageId (Message Digest)
  logs : Dict (LogKey Digest) Json

structure Caller where
  runtimeOwner : Option String
  runtimeGeneration : Nat
  now : Instant
deriving DecidableEq, Repr

variable {Digest : Type} [DecidableEq Digest]

def checkRuntime (store : Store Digest) (caller : Caller) : Except String Unit :=
  match caller.runtimeOwner with
  | none => .ok ()
  | some owner =>
      match store.lease with
      | none => .error "Runtime ownership expired or was fenced"
      | some lease =>
          if lease.owner ≠ owner ∨ lease.generation ≠ caller.runtimeGeneration ∨ lease.expiresAt ≤ caller.now then
            .error "Runtime ownership expired or was fenced"
          else .ok ()

def setRunner (store : Store Digest) (id : RunnerId) (runner : Runner) : Store Digest :=
  { store with runners := store.runners.put id runner }

def setInstance (store : Store Digest) (id : InstanceId) (task : TaskInstance) : Store Digest :=
  { store with instances := store.instances.put id task }

def setNode (store : Store Digest) (id : DispatchId) (node : ExecutionNode) : Store Digest :=
  { store with nodes := store.nodes.put id node }

end LlmperfOrchestrator.Storage

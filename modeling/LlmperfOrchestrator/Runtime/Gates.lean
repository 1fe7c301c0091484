import LlmperfOrchestrator.Library.Semaphores
import LlmperfOrchestrator.Runtime.Dispatch

set_option autoImplicit false

namespace LlmperfOrchestrator.Gates

open Runs Tables Semaphores Dispatch

-- A row of submission_runtimes. Pydantic accepts a positive concurrent_workers only.
structure RuntimeRecord where
  parent : Option RuntimeId
  concurrentWorkers : Option Nat
  positive : ∀ limit, concurrentWorkers = some limit → 0 < limit

-- The loop of _runtime_limits. The visited set grows within the table, so a walk
-- given one step more than there are rows ends before its steps run out.
def runtimeWalk (records : Dict RuntimeId RuntimeRecord) :
    Nat → Option RuntimeId → List RuntimeId → Dict RuntimeId Nat → Except String (Dict RuntimeId Nat)
  | _, none, _, limits => .ok limits
  | 0, some _, _, _ => .error "Submission runtime parent cycle"
  | steps + 1, some current, visited, limits =>
      if current ∈ visited then .error "Submission runtime parent cycle"
      else
        match Dict.get current records with
        | none => .error "Submission runtime is missing"
        | some record =>
            runtimeWalk records steps record.parent (current :: visited)
              (record.concurrentWorkers.elim limits fun limit => Dict.put current limit limits)

def runtimeLimits (records : Dict RuntimeId RuntimeRecord) (runtime : Option RuntimeId) : Except String (Dict RuntimeId Nat) :=
  runtimeWalk records (records.length + 1) runtime [] []

-- An asyncio.Semaphore object and what it was made for: a runtime, or none for
-- the dispatcher's _capacity.
structure Gate where
  runtime : Option RuntimeId
  initial : Nat
  semaphore : Semaphore Nat

-- Where a submit call stands. A submission is executing for as long as its key
-- is in self.active: from the hand-off until release_capacity ran.
inductive Phase where
  | waiting
  | reserving
  | executing
  | settled
deriving DecidableEq, Repr

-- acquired holds acquired_gates and then the capacity, remaining the permits
-- still to be awaited, the capacity last.
structure Submission where
  runner : RunnerId
  acquired : List Nat
  remaining : List Nat
  phase : Phase
deriving DecidableEq, Repr

structure Dispatcher where
  gates : List Gate
  runtimeLimits : Dict RuntimeId Nat
  runtimeGates : Dict RuntimeId Nat
  runnerRuntimes : Dict RunnerId (List RuntimeId)
  cancelled : List RunnerId
  submissions : List Submission

def initial (capacity : Nat) : Dispatcher where
  gates := [⟨none, capacity, fresh capacity⟩]
  runtimeLimits := []
  runtimeGates := []
  runnerRuntimes := []
  cancelled := []
  submissions := []

-- self.runtime_gates.setdefault(runtime_id, asyncio.Semaphore(limit))
def setGate (runtime : RuntimeId) (limit : Nat) (d : Dispatcher) : Dispatcher :=
  match Dict.get runtime d.runtimeGates with
  | some _ => d
  | none =>
      { d with
        gates := d.gates ++ [⟨some runtime, limit, fresh limit⟩]
        runtimeGates := Dict.put runtime d.gates.length d.runtimeGates }

def registerLimits : Dict RuntimeId Nat → Dispatcher → Dispatcher × Option String
  | [], d => (d, none)
  | (runtime, limit) :: rest, d =>
      if limit < 1 then (d, some "Runtime Worker limit must be positive")
      else if (Dict.get runtime d.runtimeLimits).getD limit ≠ limit then
        (d, some "Runtime Worker limit changed during execution")
      else registerLimits rest (setGate runtime limit { d with runtimeLimits := Dict.put runtime limit d.runtimeLimits })

def register (d : Dispatcher) (runner : RunnerId) (limits : Dict RuntimeId Nat) : Dispatcher × Option String :=
  match registerLimits limits d with
  | (next, some error) => (next, some error)
  | (next, none) => ({ next with runnerRuntimes := Dict.put runner (Dict.keys limits) next.runnerRuntimes }, none)

def onGate (gates : List Gate) (gate : Nat) (change : Semaphore Nat → Semaphore Nat) : List Gate :=
  gates.modify gate fun old => { old with semaphore := change old.semaphore }

-- The finally block of submit and release_capacity: the capacity first and then
-- the gates in reverse.
def settle (gates : List Gate) (s : Submission) : List Gate × Submission :=
  (s.acquired.reverse.foldl (fun gates gate => onGate gates gate release) gates,
    { s with acquired := [], remaining := [], phase := .settled })

def advance (cancelled : List RunnerId) (index : Nat) (runner : RunnerId) :
    List Nat → List Nat → List Gate → List Gate × Submission
  | acquired, [], gates =>
      if runner ∈ cancelled then settle gates ⟨runner, acquired, [], .waiting⟩ else (gates, ⟨runner, acquired, [], .reserving⟩)
  | acquired, gate :: rest, gates =>
      match gates[gate]? with
      | none => (gates, ⟨runner, acquired, gate :: rest, .waiting⟩)
      | some found =>
          if locked found.semaphore then
            (onGate gates gate (enqueue index), ⟨runner, acquired, gate :: rest, .waiting⟩)
          else advance cancelled index runner (acquired ++ [gate]) rest (onGate gates gate take)

def submit (d : Dispatcher) (runner : RunnerId) : Dispatcher :=
  -- the lookup of the gates stands before the try block: a missing key raises
  match ((Dict.get runner d.runnerRuntimes).getD []).mapM fun runtime => Dict.get runtime d.runtimeGates with
  | none => d
  | some gates =>
      let result := advance d.cancelled d.submissions.length runner [] (gates ++ [0]) d.gates
      { d with gates := result.1, submissions := d.submissions ++ [result.2] }

def ticketOf (gates : List Gate) (gate : Nat) (index : Nat) : Option Ticket :=
  (gates[gate]?).bind fun found => found.semaphore.waiters.get index

def resume (cancelled : List RunnerId) (index : Nat) (gates : List Gate) (s : Submission) : Option (List Gate × Submission) :=
  match s.phase, s.remaining with
  | .waiting, gate :: rest =>
      match ticketOf gates gate index with
      | some .granted =>
          some (advance cancelled index s.runner (s.acquired ++ [gate]) rest (onGate gates gate (leave index .granted)))
      | some .cancelled => some (settle (onGate gates gate (leave index .cancelled)) s)
      | some .revoked => some (settle (onGate gates gate (leave index .revoked)) s)
      | _ => none
  | _, _ => none

def reserve (accepted : Bool) (gates : List Gate) (s : Submission) : Option (List Gate × Submission) :=
  if s.phase = .reserving then
    if accepted then some (gates, { s with phase := .executing }) else some (settle gates s)
  else none

-- release_capacity, the callback of the finished or cancelled _execute task.
def callback (gates : List Gate) (s : Submission) : Option (List Gate × Submission) :=
  if s.phase = .executing then some (settle gates s) else none

-- task.cancel() on a submit call. One that awaits reserve_worker leaves through
-- its finally block, and after the hand-off nothing is left to cancel.
def cancelTask (index : Nat) (gates : List Gate) (s : Submission) : Option (List Gate × Submission) :=
  match s.phase, s.remaining with
  | .waiting, gate :: _ => some (onGate gates gate (interrupt index), s)
  | .reserving, _ => some (settle gates s)
  | _, _ => none

def unregister (d : Dispatcher) (runner : RunnerId) : Dispatcher :=
  let remaining := Dict.pop runner d.runnerRuntimes
  let orphan := fun runtime =>
    runtime ∈ (Dict.get runner d.runnerRuntimes).getD [] ∧ ∀ entry ∈ remaining, runtime ∉ entry.2
  { d with
    cancelled := d.cancelled.filter (· ≠ runner)
    runnerRuntimes := remaining
    runtimeGates := d.runtimeGates.filter fun entry => ¬ orphan entry.1
    runtimeLimits := d.runtimeLimits.filter fun entry => ¬ orphan entry.1 }

inductive Event where
  | register (runner : RunnerId) (runtime : Option RuntimeId)
  | submit (runner : RunnerId)
  | resume (index : Nat)
  | reserve (index : Nat) (accepted : Bool)
  | callback (index : Nat)
  | cancelTask (index : Nat)
  | cancel (runner : RunnerId)
  | unregister (runner : RunnerId)
deriving DecidableEq, Repr

def onSubmission (d : Dispatcher) (index : Nat)
    (move : List Gate → Submission → Option (List Gate × Submission)) : Option Dispatcher :=
  match d.submissions[index]? with
  | none => none
  | some s => (move d.gates s).map fun result => { d with gates := result.1, submissions := d.submissions.set index result.2 }

-- A Runner whose runtime limits cannot be read is not started.
def step (records : Dict RuntimeId RuntimeRecord) (d : Dispatcher) : Event → Option Dispatcher
  | .register runner runtime =>
      match runtimeLimits records runtime with
      | .error _ => some d
      | .ok limits => some (register d runner limits).1
  | .submit runner => some (submit d runner)
  | .resume index => onSubmission d index (resume d.cancelled index)
  | .reserve index accepted => onSubmission d index (reserve accepted)
  | .callback index => onSubmission d index callback
  | .cancelTask index => onSubmission d index (cancelTask index)
  | .cancel runner => some { d with cancelled := runner :: d.cancelled }
  | .unregister runner => some (unregister d runner)

def awaits (d : Dispatcher) (index gate : Nat) : Prop :=
  ∃ s rest, d.submissions[index]? = some s ∧ s.phase = .waiting ∧ s.remaining = gate :: rest

-- acquire() would return at once.
def free (d : Dispatcher) (gate : Nat) : Prop := ∃ found, d.gates[gate]? = some found ∧ locked found.semaphore = false

def granted (d : Dispatcher) (gate index : Nat) : Prop :=
  ∃ ticket, ticketOf d.gates gate index = some ticket ∧ ticket.holds = true

def underWay (d : Dispatcher) : Prop := ∃ s ∈ d.submissions, s.phase = .reserving ∨ s.phase = .executing

end LlmperfOrchestrator.Gates

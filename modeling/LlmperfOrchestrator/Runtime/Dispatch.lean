import LlmperfOrchestrator.Library.Runs
import LlmperfOrchestrator.Library.Tables

set_option autoImplicit false

namespace LlmperfOrchestrator.Dispatch

open Runs Tables

abbrev RunnerId := String
abbrev RuntimeId := String

-- The asyncio.Semaphore objects a submission draws from: the gates of its
-- Runner's runtime chain, and the dispatcher's global _capacity.
inductive Permit where
  | gate (runtime : RuntimeId)
  | capacity
deriving DecidableEq, Repr

-- Where a submit call, or the _execute task it handed its permits to, stands.
-- Every constructor up to committing is an await; ended is a done task whose
-- release_capacity callback has not run yet.
inductive Phase where
  | acquiring
  | reserving
  | created
  | shielded
  | draining
  | committing
  | ended
  | settled
deriving DecidableEq, Repr

-- The router.execute call of a submission; failed, when it raised an Exception.
inductive Physical where
  | none
  | inFlight
  | finished
  | failed
deriving DecidableEq, Repr

structure Submission where
  runner : RunnerId
  wanted : List Permit
  acquired : List Permit
  returned : List Permit
  phase : Phase
  physical : Physical
  reserved : Bool
deriving DecidableEq, Repr

structure Dispatcher where
  semaphores : Permit → Nat
  runtimeLimits : Dict RuntimeId Nat
  runtimeGates : List RuntimeId
  runnerRuntimes : Dict RunnerId (List RuntimeId)
  environments : List RunnerId
  cancelled : List RunnerId
  submissions : List Submission

def fresh (capacity : Nat) : Dispatcher where
  semaphores := fun permit => if permit = .capacity then capacity else 0
  runtimeLimits := []
  runtimeGates := []
  runnerRuntimes := []
  environments := []
  cancelled := []
  submissions := []

def registerLimit (d : Dispatcher) (entry : RuntimeId × Nat) : Except String Dispatcher :=
  if entry.2 < 1 then .error "Runtime Worker limit must be positive"
  else if (Dict.get entry.1 d.runtimeLimits).getD entry.2 ≠ entry.2 then
    .error "Runtime Worker limit changed during execution"
  else
    .ok { d with
      runtimeLimits := Dict.put entry.1 entry.2 d.runtimeLimits
      -- setdefault keeps a gate that another Runner already uses
      semaphores := if entry.1 ∈ d.runtimeGates then d.semaphores
        else Function.update d.semaphores (.gate entry.1) entry.2
      runtimeGates := if entry.1 ∈ d.runtimeGates then d.runtimeGates else d.runtimeGates ++ [entry.1] }

def register (d : Dispatcher) (runner : RunnerId) (runtimeLimits : Dict RuntimeId Nat) :
    Except String Dispatcher := do
  let d ← runtimeLimits.foldlM registerLimit d
  return { d with
    runnerRuntimes := Dict.put runner (Dict.keys runtimeLimits) d.runnerRuntimes
    environments := if runner ∈ d.environments then d.environments else d.environments ++ [runner] }

-- WorkerDispatcher.__init__ followed by the registrations made before the run.
def registered (capacity : Nat) (runners : List (RunnerId × Dict RuntimeId Nat)) : Except String Dispatcher :=
  if capacity < 1 then .error "Scheduler admission capacity must be positive"
  else runners.foldlM (fun d entry => register d entry.1 entry.2) (fresh capacity)

inductive Event where
  | submit (runner : RunnerId)
  | acquire (index : Nat)
  | reserve (index : Nat) (accepted : Bool)
  | start (index : Nat)
  | complete (index : Nat) (succeeded : Bool)
  | resume (index : Nat)
  | finish (index : Nat)
  | callback (index : Nat)
  | cancelTask (index : Nat)
  | cancel (runner : RunnerId)
  | cancelActive (runner : RunnerId)
  | unregister (runner : RunnerId)
deriving DecidableEq, Repr

def runtimesOf (d : Dispatcher) (runner : RunnerId) : List RuntimeId := (Dict.get runner d.runnerRuntimes).getD []

def wantedPermits (d : Dispatcher) (runner : RunnerId) : List Permit :=
  (runtimesOf d runner).map .gate ++ [.capacity]

-- The gate objects are looked up before the try block: a missing key raises
-- KeyError there and no permit is ever requested.
def submit (d : Dispatcher) (runner : RunnerId) : Dispatcher :=
  if ∀ runtime ∈ runtimesOf d runner, runtime ∈ d.runtimeGates then
    { d with submissions := d.submissions ++ [⟨runner, wantedPermits d runner, [], [], .acquiring, .none, false⟩] }
  else d

-- Both the finally block of submit and release_capacity return every permit
-- acquired so far, the global one first and then the gates in reverse.
def release (semaphores : Permit → Nat) (s : Submission) : (Permit → Nat) × Submission :=
  (fun permit => semaphores permit + s.acquired.count permit,
    { s with returned := s.returned ++ s.acquired.reverse, phase := .settled })

def acquire (d : Dispatcher) (s : Submission) : Option ((Permit → Nat) × Submission) :=
  if s.phase = .acquiring then
    match s.wanted[s.acquired.length]? with
    | none => none
    | some permit =>
        if d.semaphores permit = 0 then none
        else
          let taken := Function.update d.semaphores permit (d.semaphores permit - 1)
          let holder := { s with acquired := s.acquired ++ [permit] }
          if holder.acquired.length < s.wanted.length then some (taken, holder)
          -- after the last permit, without an await: the cancelled check
          else if s.runner ∈ d.cancelled then some (release taken holder)
          else some (taken, { holder with phase := .reserving })
  else none

def reserve (accepted : Bool) (d : Dispatcher) (s : Submission) : Option ((Permit → Nat) × Submission) :=
  if s.phase = .reserving then
    if accepted then some (d.semaphores, { s with phase := .created, reserved := true })
    else some (release d.semaphores s)
  else none

-- A missing environment raises before router.execute is called; the error is
-- turned into a failed response and takes the commit path.
def start (d : Dispatcher) (s : Submission) : Option ((Permit → Nat) × Submission) :=
  if s.phase = .created then
    if s.runner ∈ d.environments then some (d.semaphores, { s with phase := .shielded, physical := .inFlight })
    else some (d.semaphores, { s with phase := .committing })
  else none

def complete (succeeded : Bool) (d : Dispatcher) (s : Submission) : Option ((Permit → Nat) × Submission) :=
  if s.physical = .inFlight then some (d.semaphores, { s with physical := if succeeded then .finished else .failed })
  else none

-- The awaited shield delivers the call. In the handler the pending CancelledError
-- is raised again, unless the call failed: its Exception becomes an error
-- response, which is committed.
def resume (d : Dispatcher) (s : Submission) : Option ((Permit → Nat) × Submission) :=
  match s.phase, s.physical with
  | .shielded, .finished => some (d.semaphores, { s with phase := .committing })
  | .shielded, .failed => some (d.semaphores, { s with phase := .committing })
  | .draining, .finished => some (d.semaphores, { s with phase := .ended })
  | .draining, .failed => some (d.semaphores, { s with phase := .committing })
  | _, _ => none

def finish (d : Dispatcher) (s : Submission) : Option ((Permit → Nat) × Submission) :=
  if s.phase = .committing then some (d.semaphores, { s with phase := .ended }) else none

def callback (d : Dispatcher) (s : Submission) : Option ((Permit → Nat) × Submission) :=
  if s.phase = .ended then some (release d.semaphores s) else none

-- CancelledError thrown at the await of an _execute task. The first one moves
-- it from the shield to the handler, which awaits a second shield; there a
-- further one leaves _execute at once.
def interrupt (s : Submission) : Submission :=
  match s.phase with
  | .created => { s with phase := .ended }
  | .shielded => { s with phase := .draining }
  | .draining => { s with phase := .ended }
  | .committing => { s with phase := .ended }
  | _ => s

def cancelTask (d : Dispatcher) (s : Submission) : Option ((Permit → Nat) × Submission) :=
  match s.phase with
  | .acquiring => some (release d.semaphores s)
  | .reserving => some (release d.semaphores s)
  | .ended => none
  | .settled => none
  | _ => some (d.semaphores, interrupt s)

def unregister (d : Dispatcher) (runner : RunnerId) : Dispatcher :=
  let remaining := Dict.pop runner d.runnerRuntimes
  let orphan := fun runtime => runtime ∈ runtimesOf d runner ∧ ∀ entry ∈ remaining, runtime ∉ entry.2
  { d with
    environments := d.environments.filter (· ≠ runner)
    cancelled := d.cancelled.filter (· ≠ runner)
    runnerRuntimes := remaining
    runtimeGates := d.runtimeGates.filter fun runtime => ¬ orphan runtime
    runtimeLimits := d.runtimeLimits.filter fun entry => ¬ orphan entry.1 }

def advance (d : Dispatcher) (index : Nat)
    (move : Dispatcher → Submission → Option ((Permit → Nat) × Submission)) : Option Dispatcher :=
  match d.submissions[index]? with
  | none => none
  | some s => (move d s).map fun result =>
      { d with semaphores := result.1, submissions := d.submissions.set index result.2 }

def step (d : Dispatcher) : Event → Option Dispatcher
  | .submit runner => some (submit d runner)
  | .acquire index => advance d index acquire
  | .reserve index accepted => advance d index (reserve accepted)
  | .start index => advance d index start
  | .complete index succeeded => advance d index (complete succeeded)
  | .resume index => advance d index resume
  | .finish index => advance d index finish
  | .callback index => advance d index callback
  | .cancelTask index => advance d index cancelTask
  | .cancel runner => some { d with cancelled := if runner ∈ d.cancelled then d.cancelled else d.cancelled ++ [runner] }
  | .cancelActive runner =>
      some { d with submissions := d.submissions.map fun s => if s.runner = runner then interrupt s else s }
  | .unregister runner => some (unregister d runner)

end LlmperfOrchestrator.Dispatch

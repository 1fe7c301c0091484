import LlmperfOrchestrator.Library.Runs
import LlmperfOrchestrator.Library.Semaphores

set_option autoImplicit false

namespace LlmperfOrchestrator.Runners

open Runs Tables Semaphores

abbrev RunnerId := String

-- A member of RunnerAdmission.active: the worker loop's scheduler_slot_id or a
-- Runner. A slot is named host:pid:hex:index and never equals a Runner's id.
inductive Holder where
  | slot
  | runner (runner : RunnerId)
deriving DecidableEq, Repr

structure RunnerAdmission where
  capacity : Semaphore Holder
  active : List Holder

namespace RunnerAdmission

def acquire (holder : Holder) (a : RunnerAdmission) : RunnerAdmission × Bool :=
  if holder ∈ a.active then (a, true)
  else if locked a.capacity then ({ a with capacity := enqueue holder a.capacity }, false)
  else ({ capacity := take a.capacity, active := a.active.insert holder }, true)

-- acquire from the moment its future is done, and whether it returns or raises.
def resume (holder : Holder) (ticket : Ticket) (a : RunnerAdmission) : RunnerAdmission × Bool :=
  if ticket = .granted then ({ capacity := leave holder ticket a.capacity, active := a.active.insert holder }, true)
  else ({ a with capacity := leave holder ticket a.capacity }, false)

def release (holder : Holder) (a : RunnerAdmission) : RunnerAdmission :=
  if holder ∈ a.active then { capacity := Semaphores.release a.capacity, active := a.active.erase holder } else a

def interrupt (holder : Holder) (a : RunnerAdmission) : RunnerAdmission :=
  { a with capacity := Semaphores.interrupt holder a.capacity }

-- _busy_runners.remove(scheduler_slot_id) and _busy_runners.add(runner_id)
def transfer (runner : RunnerId) (a : RunnerAdmission) : RunnerAdmission :=
  { a with active := (a.active.erase .slot).insert (.runner runner) }

def holders (a : RunnerAdmission) : List Holder := a.active ++ grantees a.capacity

end RunnerAdmission

-- Where _worker stands: between two claims, in acquire, in claim_ready_runner.
inductive WorkerLoop where
  | idle
  | acquiring
  | claiming
  | ended
deriving DecidableEq, Repr

inductive Supervisor where
  | created
  | running
  | ended
deriving DecidableEq, Repr

-- RunnerRuntime.run. A cancelling one has not reached its finally block yet, an
-- unwound one has cancelled its submission_task there.
inductive RunnerRuntime where
  | unstarted
  | alive
  | cancelling
  | unwound
deriving DecidableEq, Repr

inductive SubmissionTask where
  | absent
  | created
  | waiting
  | submitting
deriving DecidableEq, Repr

structure Run where
  supervisor : Supervisor
  runtime : RunnerRuntime
  submission : SubmissionTask
deriving DecidableEq, Repr

def Run.claimed : Run := ⟨.created, .unstarted, .absent⟩

def Run.gone (run : Run) : Bool := run.supervisor = .ended && run.submission = .absent

structure Scheduler where
  admission : RunnerAdmission
  worker : WorkerLoop
  runs : Table RunnerId Run

def initial (maxConcurrentRunners : Nat) : Scheduler := ⟨⟨fresh maxConcurrentRunners, []⟩, .idle, Table.empty⟩

-- One event is one task running from a suspension to the next.
inductive Event where
  | acquire
  | resume
  | cancelWorker
  | claimNothing
  | claim (runner : RunnerId)
  | restart
  | supervise (runner : RunnerId)
  | cancelUnstarted (runner : RunnerId)
  | execute (runner : RunnerId)
  | coolDown (runner : RunnerId)
  | createSubmission (runner : RunnerId)
  | submit (runner : RunnerId)
  | resumeSubmission (runner : RunnerId)
  | submitted (runner : RunnerId)
  | cancelRuntime (runner : RunnerId)
  | unwind (runner : RunnerId)
  | finish (runner : RunnerId)
  | stop
deriving DecidableEq, Repr

def acquireSlot (s : Scheduler) : Option Scheduler :=
  if s.worker = .idle then
    let result := s.admission.acquire .slot
    some { s with admission := result.1, worker := if result.2 then .claiming else .acquiring }
  else none

def ticketOf (holder : Holder) (s : Scheduler) : Option Ticket :=
  if s.admission.capacity.waiters.get holder = some .pending then none else s.admission.capacity.waiters.get holder

def resumeSlot (s : Scheduler) : Option Scheduler :=
  (ticketOf .slot s).bind fun ticket =>
    if s.worker = .acquiring then
      let result := s.admission.resume .slot ticket
      some { s with admission := result.1, worker := if result.2 then .claiming else .ended }
    else none

-- _worker is cancelled at its await, or sees the stop flag. In acquire the
-- exception reaches the except clause when the waiter runs again.
def cancelWorker (s : Scheduler) : Option Scheduler :=
  match s.worker with
  | .idle => some { s with worker := .ended }
  | .acquiring => some { s with admission := s.admission.interrupt .slot }
  | .claiming => some { s with admission := s.admission.release .slot, worker := .ended }
  | .ended => none

def claimNothing (s : Scheduler) : Option Scheduler :=
  if s.worker = .claiming then some { s with admission := s.admission.release .slot, worker := .idle } else none

-- The store hands a Runner out once.
def claim (runner : RunnerId) (s : Scheduler) : Option Scheduler :=
  if s.worker = .claiming ∧ s.runs.get runner = none then
    some ⟨s.admission.transfer runner, .idle, s.runs.put runner Run.claimed⟩
  else none

def restart (s : Scheduler) : Option Scheduler := if s.worker = .ended then some { s with worker := .idle } else none

-- What a task of one Runner does to the admission and to where the Runner stands.
abbrev Action := RunnerAdmission → Run → Option (RunnerAdmission × Run)

def supervise : Action := fun a run => if run.supervisor = .created then some (a, { run with supervisor := .running }) else none

-- A task that is cancelled before its first step never enters the try block.
def cancelUnstarted : Action := fun a run =>
  if run.supervisor = .created then some (a, { run with supervisor := .ended }) else none

def execute : Action := fun a run =>
  if run.supervisor = .running ∧ run.runtime = .unstarted then some (a, { run with runtime := .alive }) else none

def coolDown (runner : RunnerId) : Action := fun a run =>
  if run.runtime = .alive ∧ run.submission = .absent then some (a.release (.runner runner), run) else none

def createSubmission : Action := fun a run =>
  if run.runtime = .alive ∧ run.submission = .absent then some (a, { run with submission := .created }) else none

def submit (runner : RunnerId) : Action := fun a run =>
  if run.submission = .created then
    let result := a.acquire (.runner runner)
    some (result.1, { run with submission := if result.2 then .submitting else .waiting })
  else none

def resumeSubmission (runner : RunnerId) (ticket : Ticket) : Action := fun a run =>
  if run.submission = .waiting then
    let result := a.resume (.runner runner) ticket
    some (result.1, { run with submission := if result.2 then .submitting else .absent })
  else none

def submitted : Action := fun a run =>
  if run.submission = .submitting then some (a, { run with submission := .absent }) else none

-- worker.cancel() and worker.close()
def cancelRuntime : Action := fun a run =>
  if run.supervisor = .running ∧ run.runtime = .alive then some (a, { run with runtime := .cancelling }) else none

-- The finally block of run: submission_task.cancel(). A task that has not begun is gone with it.
def unwind (runner : RunnerId) : Action := fun a run =>
  if run.runtime = .alive ∨ run.runtime = .cancelling then
    match run.submission with
    | .absent => some (a, { run with runtime := .unwound })
    | .created => some (a, { run with runtime := .unwound, submission := .absent })
    | .waiting => some (a.interrupt (.runner runner), { run with runtime := .unwound })
    | .submitting => some (a, { run with runtime := .unwound })
  else none

def finish (runner : RunnerId) : Action := fun a run =>
  if run.supervisor = .running ∧ run.runtime ≠ .alive then
    some (a.release (.runner runner),
      { run with supervisor := .ended, runtime := if run.runtime = .unstarted then .unwound else run.runtime })
  else none

def onRun (runner : RunnerId) (action : Action) (s : Scheduler) : Option Scheduler :=
  (s.runs.get runner).bind fun run =>
    (action s.admission run).map fun result => { s with admission := result.1, runs := s.runs.put runner result.2 }

def supervisorsEnded (s : Scheduler) : Bool := !s.runs.any fun _ run => run.supervisor ≠ .ended

-- stop() has gathered the worker loop and the execution tasks before it clears _busy_runners.
def stop (s : Scheduler) : Option Scheduler :=
  if s.worker = .ended ∧ supervisorsEnded s then some { s with admission := { s.admission with active := [] } } else none

def step (s : Scheduler) : Event → Option Scheduler
  | .acquire => acquireSlot s
  | .resume => resumeSlot s
  | .cancelWorker => cancelWorker s
  | .claimNothing => claimNothing s
  | .claim runner => claim runner s
  | .restart => restart s
  | .supervise runner => onRun runner supervise s
  | .cancelUnstarted runner => onRun runner cancelUnstarted s
  | .execute runner => onRun runner execute s
  | .coolDown runner => onRun runner (coolDown runner) s
  | .createSubmission runner => onRun runner createSubmission s
  | .submit runner => onRun runner (submit runner) s
  | .resumeSubmission runner => (ticketOf (.runner runner) s).bind fun ticket => onRun runner (resumeSubmission runner ticket) s
  | .submitted runner => onRun runner submitted s
  | .cancelRuntime runner => onRun runner cancelRuntime s
  | .unwind runner => onRun runner (unwind runner) s
  | .finish runner => onRun runner (finish runner) s
  | .stop => stop s

-- Where the worker loop holds no permit and waits for none, and every Runner and
-- its submission have ended.
def Over (s : Scheduler) : Prop := (s.worker = .idle ∨ s.worker = .ended) ∧ (s.runs.any fun _ run => !run.gone) = false

instance (s : Scheduler) : Decidable (Over s) := inferInstanceAs (Decidable (_ ∧ _))

end LlmperfOrchestrator.Runners

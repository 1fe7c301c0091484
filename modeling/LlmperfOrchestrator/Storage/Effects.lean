import LlmperfOrchestrator.Storage.Lifecycle

set_option autoImplicit false

namespace LlmperfOrchestrator.Storage

open Tables Outcomes Runs

section

variable {Digest : Type} [DecidableEq Digest]

inductive ActivateEffect (store next : Store Digest) (caller : Caller) (id : DispatchId) (dueAt : Instant) (fresh : RunnerId) :
    Option RunnerId → Prop where
  | refused (same : next = store) : ActivateEffect store next caller id dueAt fresh none
  | emitted (node : ExecutionNode) (task : TaskInstance) (read : store.nodes.get id = some node)
      (waiting : node.state.waiting = true) (owner : store.instances.get node.taskInstance = some task)
      (live : task.state.terminal = false) (free : store.runners.get fresh = none)
      (same : next = { store with
        runners := store.runners.put fresh (fromDispatch node)
        nodes := store.nodes.put id
          { node with dueAt := some dueAt, state := .emitted, runner := some fresh, emittedAt := some caller.now }
        instances := store.instances.put node.taskInstance { task with state := .active } }) :
      ActivateEffect store next caller id dueAt fresh (some fresh)

variable (store next : Store Digest)

theorem activate_effect (caller : Caller) (id : DispatchId) (dueAt : Instant) (fresh : RunnerId) (reply : Option RunnerId)
    (done : activateNode store caller id dueAt fresh = .ok (next, reply)) : ActivateEffect store next caller id dueAt fresh reply := by
  unfold activateNode at done
  obtain ⟨_, _, opened⟩ := (bind_ok _ _ _).mp done
  split at opened
  · cases opened
    exact .refused rfl
  · rename_i node foundNode
    obtain ⟨read, waiting⟩ := Option.filter_eq_some_iff.mp foundNode
    split at opened
    · cases opened
      exact .refused rfl
    · rename_i task foundTask
      obtain ⟨owner, live⟩ := Option.filter_eq_some_iff.mp foundTask
      obtain ⟨emitted, placed, final⟩ := (bind_ok _ _ _).mp opened
      cases final
      unfold emitDispatch at placed
      split at placed
      · cases placed
      · split at placed
        · cases placed
        · rename_i free
          cases placed
          exact .emitted node task read waiting owner (by simpa using live) free rfl

inductive StartEffect (store next : Store Digest) (caller : Caller) (runnerId : RunnerId) (owner : String) :
    Option Admitted → Prop where
  | refused (same : next = store) : StartEffect store next caller runnerId owner none
  | dropped (runner : Runner) (read : store.runners.get runnerId = some runner) (queued : runner.status = .queued)
      (same : next = setRunner store runnerId { runner with status := .cancelled, finishedAt := some caller.now }) :
      StartEffect store next caller runnerId owner none
  | started (runner : Runner) (messages : Option (List Json)) (read : store.runners.get runnerId = some runner)
      (queued : runner.status = .queued)
      (live : ∀ context ∈ runner.template.taskContext, ∃ task, store.instances.get context.instanceId = some task ∧
        task.state.terminal = false)
      (same : next = setRunner store runnerId
        { runner with status := .running, startedAt := some caller.now, schedulerId := some owner }) :
      StartEffect store next caller runnerId owner (some ⟨runnerId, messages⟩)

theorem start_effect (caller : Caller) (runnerId : RunnerId) (owner : String) (reply : Option Admitted)
    (done : startSelected store caller runnerId owner = .ok (next, reply)) : StartEffect store next caller runnerId owner reply := by
  unfold startSelected at done
  obtain ⟨_, _, opened⟩ := (bind_ok _ _ _).mp done
  split at opened
  · cases opened
    exact .refused rfl
  · rename_i runner foundRunner
    obtain ⟨read, selected⟩ := Option.filter_eq_some_iff.mp foundRunner
    have queued : runner.status = .queued := (of_decide_eq_true selected).1
    dsimp only at opened
    split at opened
    · rename_i plain
      cases opened
      exact .started runner none read queued (by simp [plain]) rfl
    · rename_i context named
      split at opened
      · cases opened
        exact .dropped runner read queued rfl
      · rename_i task foundTask
        obtain ⟨owned, live⟩ := Option.filter_eq_some_iff.mp foundTask
        have alive : ∀ c ∈ runner.template.taskContext, ∃ t, store.instances.get c.instanceId = some t ∧
            t.state.terminal = false := by
          intro c member
          obtain rfl : context = c := Option.some.inj (named.symm.trans member)
          exact ⟨task, owned, by simpa using live⟩
        split at opened
        · cases opened
          exact .started runner none read queued alive rfl
        · obtain ⟨reused, _, final⟩ := (bind_ok _ _ _).mp opened
          cases final
          exact .started runner (some reused.flatten) read queued alive rfl

inductive CompleteEffect (store next : Store Digest) (caller : Caller) (runnerId : RunnerId)
    (requests : List RequestMetrics) (status : RunnerStatus) (errorMessage : Option String) : Bool → Prop where
  | refused (same : next = store) : CompleteEffect store next caller runnerId requests status errorMessage false
  | completed (runner : Runner) (read : store.runners.get runnerId = some runner) (running : runner.status = .running)
      (open_ : runner.cancelRequested = false) (ends : status = .succeeded ∨ status = .failed)
      (one : atomicExecution runner = true → requests.length = 1)
      (settled : checkpointTaskResult (setRunner (closeWorkers store runnerId caller.now) runnerId
          { runner with status := status, finishedAt := some caller.now, errorMessage := errorMessage }) runnerId runner
        status caller.now (if atomicExecution runner then requestEvidence requests else noEvidence) requests = .ok next) :
      CompleteEffect store next caller runnerId requests status errorMessage true

theorem complete_effect (caller : Caller) (runnerId : RunnerId) (requests : List RequestMetrics) (status : RunnerStatus)
    (errorMessage : Option String) (accepted : Bool)
    (done : completeRunner store caller runnerId requests status errorMessage = .ok (next, accepted)) :
    CompleteEffect store next caller runnerId requests status errorMessage accepted := by
  unfold completeRunner at done
  split at done
  · cases done
  · rename_i supported
    have ends : status = .succeeded ∨ status = .failed := by
      by_contra other
      exact supported (not_or.mp other)
    obtain ⟨_, _, opened⟩ := (bind_ok _ _ _).mp done
    split at opened
    · cases opened
      exact .refused rfl
    · rename_i runner found
      obtain ⟨read, running, open_⟩ := accepting_some store runnerId runner found
      split at opened
      · cases opened
      · rename_i counted
        obtain ⟨after, settled, final⟩ := (bind_ok _ _ _).mp opened
        cases final
        refine .completed runner read running open_ ends (fun atomic => ?_) settled
        by_contra other
        exact counted ⟨atomic, other⟩

inductive FinishEffect (store next : Store Digest) (caller : Caller) (runnerId : RunnerId) (status : RunnerStatus)
    (message : String) : Bool → Prop where
  | refused (same : next = store) : FinishEffect store next caller runnerId status message false
  | finished (runner : Runner) (read : store.runners.get runnerId = some runner) (running : runner.status = .running)
      (ends : status = .failed ∨ status = .cancelled)
      (settled : checkpointTaskResult (closeWorkers (setRunner store runnerId
            { runner with status := status, finishedAt := some caller.now, errorMessage := some message }) runnerId caller.now)
          runnerId { runner with status := status, finishedAt := some caller.now, errorMessage := some message }
        status caller.now noEvidence [] = .ok next) : FinishEffect store next caller runnerId status message true

theorem finish_effect (caller : Caller) (runnerId : RunnerId) (status : RunnerStatus) (message : String) (accepted : Bool)
    (done : finishRunner store caller runnerId status message = .ok (next, accepted)) :
    FinishEffect store next caller runnerId status message accepted := by
  unfold finishRunner at done
  split at done
  · cases done
  · rename_i supported
    have ends : status = .failed ∨ status = .cancelled := by
      by_contra other
      exact supported (not_or.mp other)
    obtain ⟨_, _, opened⟩ := (bind_ok _ _ _).mp done
    split at opened
    · cases opened
      exact .refused rfl
    · rename_i runner found
      obtain ⟨read, running⟩ := Option.filter_eq_some_iff.mp found
      obtain ⟨after, settled, final⟩ := (bind_ok _ _ _).mp opened
      cases final
      exact .finished runner read (of_decide_eq_true running) ends settled

inductive CancelEffect (store next : Store Digest) (now : Instant) (runnerId : RunnerId) : Prop where
  | refused (same : next = store)
  | unstarted (runner : Runner) (read : store.runners.get runnerId = some runner) (queued : runner.status = .queued)
      (settled : checkpointTaskResult (setRunner store runnerId
          { runner with cancelRequested := true, status := .cancelled, finishedAt := some now }) runnerId
          { runner with cancelRequested := true, status := .cancelled, finishedAt := some now }
        .cancelled now noEvidence [] = .ok next)
  | requested (runner : Runner) (read : store.runners.get runnerId = some runner) (running : runner.status = .running)
      (same : next = setRunner store runnerId { runner with cancelRequested := true })

theorem cancel_effect (now : Instant) (runnerId : RunnerId) (done : requestCancel store now runnerId = .ok next) :
    CancelEffect store next now runnerId := by
  unfold requestCancel at done
  split at done
  · cases done
    exact .refused rfl
  · rename_i runner found
    obtain ⟨read, live⟩ := Option.filter_eq_some_iff.mp found
    split at done
    · rename_i queued
      exact .unstarted runner read queued done
    · rename_i started
      cases done
      refine .requested runner read ?_ rfl
      cases status : runner.status with
      | queued => exact absurd status started
      | running => rfl
      | succeeded | failed | cancelled => simp [status, RunnerStatus.terminal] at live

end

section

variable {Digest : Type} [DecidableEq Digest]

theorem create_workers_effect (store next : Store Digest) (caller : Caller) (runnerId : RunnerId) (steps : List RequestStep)
    (done : createWorkers store caller runnerId steps = .ok next) :
    next = store ∨ ∃ fresh : List RequestStep, (∀ row ∈ fresh, store.workers.get (runnerId, row.stepId) = none) ∧
      next = { store with workers :=
        store.workers.insertAll (fresh.map fun row => ((runnerId, row.stepId), newWorker caller row)) } := by
  unfold createWorkers at done
  split at done
  · cases done
    exact .inl rfl
  · split at done
    · cases done
    · split at done
      · cases done
      · obtain ⟨_, _, opened⟩ := (bind_ok _ _ _).mp done
        split at opened
        · cases opened
        · dsimp only at opened
          split at opened
          · cases opened
          · cases opened
            exact .inr ⟨_, fun row member => of_decide_eq_true (List.mem_filter.mp member).2, rfl⟩

theorem reserve_worker_effect (store next : Store Digest) (caller : Caller) (runnerId : RunnerId) (stepId : String)
    (window : Option Int) (granted : Bool) (done : reserveWorker store caller runnerId stepId window = .ok (next, granted)) :
    (granted = false ∧ next = store) ∨
      (granted = true ∧ ∃ worker, store.workers.get (runnerId, stepId) = some worker ∧ worker.state = .created ∧
        (∀ bound ∈ window, (submittedWorkers store runnerId : Int) < bound) ∧
        next = { store with workers := store.workers.put (runnerId, stepId) (submittedWorker caller worker) }) := by
  unfold reserveWorker at done
  split at done
  · cases done
  · obtain ⟨_, _, opened⟩ := (bind_ok _ _ _).mp done
    split at opened
    · cases opened
      exact .inl ⟨rfl, rfl⟩
    · split at opened
      · cases opened
      · rename_i worker read
        split at opened
        · cases opened
          exact .inl ⟨rfl, rfl⟩
        · rename_i fit
          split at opened
          · cases opened
          · rename_i room
            cases opened
            simp only [ne_eq, not_or, Decidable.not_not] at fit
            refine .inr ⟨rfl, worker, read, fit.1, fun bound member => ?_, rfl⟩
            by_contra full
            exact room ⟨bound, member, Int.not_lt.mp full⟩

inductive CommitEffect (store next : Store Digest) (caller : Caller) (runnerId : RunnerId) (result : WorkerResult)
    (payload : Json) (hash : Digest) : Option (RunnerMessage Digest) → Prop where
  | refused (same : next = store) : CommitEffect store next caller runnerId result payload hash none
  | repeated (same : next = store) (record : Worker Digest) (stored : Message Digest)
      (read : store.workers.get (runnerId, result.stepId) = some record) (ended : record.state ≠ .submitted)
      (equal : record.completionHash = some hash)
      (found : store.messages.get (.completed (runnerId, result.stepId)) = some stored) :
      CommitEffect store next caller runnerId result payload hash
        (some ⟨runnerId, .completed (runnerId, result.stepId), stored.topic, .document payload, stored.source,
          stored.destination, stored.createdAt⟩)
  | recorded (record : Worker Digest) (read : store.workers.get (runnerId, result.stepId) = some record)
      (open_ : record.state = .submitted) (free : store.messages.get (.completed (runnerId, result.stepId)) = none)
      (same : next = { store with
        workers := store.workers.put (runnerId, result.stepId) (committedWorker runnerId result hash record)
        messages := store.messages.put (.completed (runnerId, result.stepId))
          (completionRecord (runnerId, result.stepId) hash result.completedAt) }) :
      CommitEffect store next caller runnerId result payload hash (some (committedMessage runnerId result payload))

theorem commit_effect (store next : Store Digest) (caller : Caller) (runnerId : RunnerId) (result : WorkerResult)
    (payload : Json) (hash : Digest) (message : Option (RunnerMessage Digest))
    (done : commitTransaction store caller runnerId result payload hash = .ok (next, message)) :
    CommitEffect store next caller runnerId result payload hash message := by
  unfold commitTransaction at done
  obtain ⟨_, _, opened⟩ := (bind_ok _ _ _).mp done
  split at opened
  · cases opened
    exact .refused rfl
  · split at opened
    · cases opened
      exact .refused rfl
    · rename_i record found
      have read := (Option.filter_eq_some_iff.mp found).1
      split at opened
      · rename_i ended
        split at opened
        · cases opened
          exact .refused rfl
        · rename_i equal
          split at opened
          · cases opened
            exact .refused rfl
          · rename_i stored kept
            cases opened
            exact .repeated rfl record stored read ended (Decidable.not_not.mp equal) kept
      · rename_i open_
        split at opened
        · cases opened
        · rename_i free
          cases opened
          exact .recorded record read (Decidable.not_not.mp open_) free rfl

inductive PublishEffect (store next : Store Digest) (message : RunnerMessage Digest) : Prop where
  | untouched (same : next = store)
  | added (free : store.messages.get message.id = none)
      (same : next = { store with messages := store.messages.put message.id message.record })
  | cancelled (stepId : String) (worker : Worker Digest) (metadata : WorkerMetadata)
      (read : store.workers.get (message.runner, stepId) = some worker) (unsubmitted : worker.state = .created)
      (free : store.messages.get message.id = none)
      (same : next = { store with
        workers := store.workers.put (message.runner, stepId)
          { worker with state := .cancelled, completedAt := some message.createdAt, metadata := metadata }
        messages := store.messages.put message.id message.record })

theorem publish_effect (store next : Store Digest) (caller : Caller) (message : RunnerMessage Digest) (accepted : Bool)
    (done : publishMessage store caller message = .ok (next, accepted)) : PublishEffect store next message := by
  unfold publishMessage at done
  obtain ⟨_, _, opened⟩ := (bind_ok _ _ _).mp done
  split at opened
  · cases opened
    exact .untouched rfl
  · split at opened
    · split at opened
      · cases opened
      · cases opened
        exact .untouched rfl
    · rename_i free
      split at opened
      · split at opened
        · cases opened
        · rename_i stepId _
          split at opened
          · cases opened
          · rename_i worker found
            cases opened
            obtain ⟨read, unsubmitted⟩ := Option.filter_eq_some_iff.mp found
            exact .cancelled stepId worker _ read (of_decide_eq_true unsubmitted) free rfl
      · cases opened
        exact .added free rfl

end

end LlmperfOrchestrator.Storage

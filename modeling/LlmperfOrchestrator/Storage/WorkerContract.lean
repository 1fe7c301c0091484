import LlmperfOrchestrator.Storage.Completions

set_option autoImplicit false

namespace LlmperfOrchestrator.Storage

open Tables Runs Outcomes

variable {Digest : Type} [DecidableEq Digest] (digest : Json → Digest) (store : Store Digest)

theorem perform_messages (call : Call Digest) : MessagesStay store (perform digest store call).1 := by
  cases kind : workerCall call with
  | false =>
      rcases closing_effect digest store call kind with ⟨_, messages⟩ | ⟨_, _, _, messages⟩
      · exact stay_same store _ messages
      · exact stay_same store _ messages
  | true =>
      cases call with
      | createWorkers caller runner steps =>
          rcases transact_unit_cases store (createWorkers store caller runner steps) with ⟨_, _, same⟩ | ⟨next, done, same⟩
          · exact stay_same store _ (by rw [perform, same])
          · rw [perform, same]
            rcases create_workers_effect store next caller runner steps done with eq | ⟨_, _, eq⟩
            · exact stay_same store next (by rw [eq])
            · exact stay_same store next (by rw [eq])
      | reserveWorker caller runner stepId window =>
          rcases transact_cases store .flag (reserveWorker store caller runner stepId window) with
            ⟨_, _, same⟩ | ⟨next, reply, done, same⟩
          · exact stay_same store _ (by rw [perform, same])
          · rw [perform, same]
            rcases reserve_worker_effect store next caller runner stepId window reply done with
              ⟨_, eq⟩ | ⟨_, _, _, _, _, eq⟩
            · exact stay_same store next (by rw [eq])
            · exact stay_same store next (by rw [eq])
      | commitWorker caller runner result =>
          rcases perform_commit digest store caller runner result with ⟨_, same⟩ | ⟨next, message, same, effect⟩
          · exact stay_same store _ (by rw [same]; rfl)
          · rw [same]
            cases effect with
            | refused eq => exact stay_same store next (by rw [eq]; rfl)
            | repeated eq => exact stay_same store next (by rw [eq]; rfl)
            | recorded record read open_ free eq => exact stay_put store next _ _ free (by rw [eq]; rfl)
      | publishMessage caller message =>
          rcases transact_cases store .flag (publishMessage store caller message) with
            ⟨_, _, same⟩ | ⟨next, reply, done, same⟩
          · exact stay_same store _ (by rw [perform, same])
          · rw [perform, same]
            cases publish_effect store next caller message reply done with
            | untouched eq => exact stay_same store next (by rw [eq])
            | added free eq => exact stay_put store next _ _ free (by rw [eq])
            | cancelled stepId worker metadata read created free eq => exact stay_put store next _ _ free (by rw [eq])
      | activateNode | startSelected | completeRunner | finishRunner | requestCancel | requestCancelCampaign | changeLease =>
          cases kind

def Kept (key : WorkerId) (hash : Digest) (instant : Instant) (store : Store Digest) : Prop :=
  ∃ row, store.workers.get key = some row ∧ ended row ∧ row.completionHash = some hash ∧
    store.messages.get (.completed key) = some (completionRecord key hash instant)

omit [DecidableEq Digest] in
theorem ended_moves (before after : Worker Digest) (past : ended before) (moved : Moves before after) : after = before := by
  rcases moved with same | ⟨created, _⟩ | ⟨submitted, _⟩
  · exact same
  · rcases past with state | state <;> rw [state] at created <;> cases created
  · rcases past with state | state <;> rw [state] at submitted <;> cases submitted

theorem kept_stays (key : WorkerId) (hash : Digest) (instant : Instant) (store : Store Digest) (call : Call Digest)
    (next : Store Digest) (kept : Kept key hash instant store) (taken : step digest store call = some next) :
    Kept key hash instant next := by
  obtain rfl : (perform digest store call).1 = next := Option.some.inj taken
  obtain ⟨row, read, past, hashed, found⟩ := kept
  obtain ⟨after, read', moved⟩ := perform_moves digest store call key row read
  obtain rfl := ended_moves row after past moved
  exact ⟨after, read', past, hashed, perform_messages digest store call _ _ found⟩

def sameRows (store next : Store Digest) : Prop := next.workers = store.workers ∧ next.messages = store.messages

variable (caller : Caller) (runnerId : RunnerId) (result : WorkerResult)

theorem commit_again (hash : Digest) (instant : Instant) (kept : Kept (runnerId, result.stepId) hash instant store) :
    sameRows store (perform digest store (.commitWorker caller runnerId result)).1 ∧
      ∀ message, (perform digest store (.commitWorker caller runnerId result)).2 = .message (some message) →
        digest (forStorage result.completion) = hash ∧
          message = ⟨runnerId, .completed (runnerId, result.stepId), "worker.completed",
            .document (forStorage result.completion), some result.stepId, "runner", instant⟩ := by
  obtain ⟨row, read, past, hashed, found⟩ := kept
  rcases perform_commit digest store caller runnerId result with ⟨_, same⟩ | ⟨next, message, same, effect⟩
  · rw [same]
    exact ⟨⟨rfl, rfl⟩, fun message replied => by cases replied⟩
  · rw [same]
    cases effect with
    | refused eq => exact ⟨by rw [eq]; exact ⟨rfl, rfl⟩, fun message replied => by cases replied⟩
    | repeated eq record stored read' ended' equal found' =>
        cases Option.some.inj (read.symm.trans read')
        cases Option.some.inj (found.symm.trans found')
        refine ⟨by rw [eq]; exact ⟨rfl, rfl⟩, fun message replied => ?_⟩
        cases replied
        exact ⟨Option.some.inj (equal.symm.trans hashed), rfl⟩
    | recorded record read' open_ free eq =>
        cases Option.some.inj (read.symm.trans read')
        rcases past with state | state <;> rw [state] at open_ <;> cases open_

def RunnerRunning (store : Store Digest) (runnerId : RunnerId) : Prop :=
  ∃ runner, store.runners.get runnerId = some runner ∧ runner.status = .running

theorem transaction_over (payload : Json) (hash : Digest) (fenced : checkRuntime store caller = .ok ())
    (past : ¬ RunnerRunning store runnerId) : commitTransaction store caller runnerId result payload hash = .ok (store, none) := by
  have none : (store.runners.get runnerId).filter (fun runner => runner.status = .running) = none := by
    cases read : store.runners.get runnerId with
    | none => rfl
    | some runner =>
        have idle : runner.status ≠ .running := fun running => past ⟨runner, read, running⟩
        simp [Option.filter, idle]
  rw [commitTransaction, fenced, none]
  rfl

theorem transaction_kept (payload : Json) (hash kept : Digest) (instant : Instant) (fenced : checkRuntime store caller = .ok ())
    (held : Kept (runnerId, result.stepId) kept instant store) (differ : hash ≠ kept) :
    commitTransaction store caller runnerId result payload hash = .ok (store, none) := by
  obtain ⟨row, read, past, hashed, _⟩ := held
  have past : row.state ≠ .submitted := by
    rcases past with state | state <;> simp [state]
  have other : row.completionHash ≠ some hash := by simp [hashed, Ne.symm differ]
  rw [commitTransaction, fenced, read]
  cases (store.runners.get runnerId).filter fun runner => runner.status = .running with
  | none => rfl
  | some runner =>
      by_cases generation : row.generation = caller.runtimeGeneration
      · simp [bind, Except.bind, Option.filter, generation, past, other]
      · simp [bind, Except.bind, Option.filter, generation]

theorem transaction_repeats (payload : Json) (hash : Digest) (row : Worker Digest) (instant : Instant)
    (fenced : checkRuntime store caller = .ok ()) (held : Kept (runnerId, result.stepId) hash instant store)
    (running : RunnerRunning store runnerId) (read : store.workers.get (runnerId, result.stepId) = some row)
    (generation : row.generation = caller.runtimeGeneration) :
    commitTransaction store caller runnerId result payload hash = .ok (store, some
      ⟨runnerId, .completed (runnerId, result.stepId), "worker.completed", .document payload, some result.stepId, "runner",
        instant⟩) := by
  obtain ⟨runner, stored, status⟩ := running
  obtain ⟨other, read', past, hashed, found⟩ := held
  cases Option.some.inj (read.symm.trans read')
  have past : row.state ≠ .submitted := by
    rcases past with state | state <;> simp [state]
  rw [commitTransaction, fenced, read, stored, found]
  simp [bind, Except.bind, Option.filter, status, generation, past, hashed, completionRecord]

theorem perform_transaction (store next : Store Digest) (caller : Caller) (runnerId : RunnerId) (result : WorkerResult)
    (message : Option (RunnerMessage Digest))
    (done : commitTransaction (writeWorker store ⟨(runnerId, result.stepId), digest (forStorage result.completion)⟩ (forStorage result.completion)) caller runnerId result (forStorage result.completion) (digest (forStorage result.completion)) = .ok (next, message)) :
    perform digest store (.commitWorker caller runnerId result) = (next, .message message) := by
  rw [perform, commitWorker]
  dsimp only
  rw [done]
  rfl

theorem commit_over (fenced : checkRuntime store caller = .ok ()) (past : ¬ RunnerRunning store runnerId) :
    (perform digest store (.commitWorker caller runnerId result)).2 = .message none ∧
      sameRows store (perform digest store (.commitWorker caller runnerId result)).1 := by
  have done := transaction_over (writeWorker store ⟨(runnerId, result.stepId), digest (forStorage result.completion)⟩
    (forStorage result.completion)) caller runnerId result (forStorage result.completion)
    (digest (forStorage result.completion)) fenced past
  rw [perform_transaction digest store _ caller runnerId result none done]
  exact ⟨rfl, rfl, rfl⟩

structure Settled (digest : Json → Digest) (runnerId : RunnerId) (result : WorkerResult) (message : RunnerMessage Digest)
    (last : Store Digest) : Prop where
  stored : last.messages.get message.id =
    some (completionRecord (runnerId, result.stepId) (digest (forStorage result.completion)) message.createdAt)
  unchanged : ∀ caller other, other.stepId = result.stepId →
    sameRows last (perform digest last (.commitWorker caller runnerId other)).1
  repeats : ∀ caller other row, other.stepId = result.stepId →
    forStorage other.completion = forStorage result.completion → checkRuntime last caller = .ok () →
    RunnerRunning last runnerId → last.workers.get (runnerId, result.stepId) = some row →
    row.generation = caller.runtimeGeneration →
    (perform digest last (.commitWorker caller runnerId other)).2 = .message (some message)
  refuses : ∀ caller other, other.stepId = result.stepId →
    digest (forStorage other.completion) ≠ digest (forStorage result.completion) → checkRuntime last caller = .ok () →
    (perform digest last (.commitWorker caller runnerId other)).2 = .message none

theorem kept_settled (instant : Instant) (last : Store Digest)
    (kept : Kept (runnerId, result.stepId) (digest (forStorage result.completion)) instant last) :
    Settled digest runnerId result ⟨runnerId, .completed (runnerId, result.stepId), "worker.completed",
      .document (forStorage result.completion), some result.stepId, "runner", instant⟩ last := by
  refine ⟨kept.choose_spec.2.2.2, fun caller other step => ?_, fun caller other row step equal fenced running read generation => ?_,
    fun caller other step differ fenced => ?_⟩
  · have held : Kept (runnerId, other.stepId) (digest (forStorage result.completion)) instant last := step ▸ kept
    exact (commit_again digest last caller runnerId other _ instant held).1
  · have held : Kept (runnerId, other.stepId) (digest (forStorage other.completion)) instant last := by
      rw [step, equal]
      exact kept
    have done := transaction_repeats (writeWorker last ⟨(runnerId, other.stepId), digest (forStorage other.completion)⟩
      (forStorage other.completion)) caller runnerId other (forStorage other.completion)
      (digest (forStorage other.completion)) row instant fenced held running (step ▸ read) generation
    rw [perform_transaction digest last _ caller runnerId other _ done, step, equal]
  · have held : Kept (runnerId, other.stepId) (digest (forStorage result.completion)) instant last := step ▸ kept
    have done := transaction_kept (writeWorker last ⟨(runnerId, other.stepId), digest (forStorage other.completion)⟩
      (forStorage other.completion)) caller runnerId other (forStorage other.completion)
      (digest (forStorage other.completion)) _ instant fenced held differ
    rw [perform_transaction digest last _ caller runnerId other _ done]

theorem commit_kept (message : RunnerMessage Digest) (inv : WorkInvariant store)
    (replied : (perform digest store (.commitWorker caller runnerId result)).2 = .message (some message)) :
    ∃ instant, Kept (runnerId, result.stepId) (digest (forStorage result.completion)) instant
        (perform digest store (.commitWorker caller runnerId result)).1 ∧
      message = ⟨runnerId, .completed (runnerId, result.stepId), "worker.completed",
        .document (forStorage result.completion), some result.stepId, "runner", instant⟩ := by
  rcases perform_commit digest store caller runnerId result with ⟨_, same⟩ | ⟨next, answer, same, effect⟩
  · rw [same] at replied
    cases replied
  · rw [same] at replied ⊢
    cases replied
    cases effect with
    | repeated eq record stored read past equal found =>
        have past : ended record := by
          by_contra unended
          have blank := (inv.rows _ record read).blank unended
          rw [blank] at equal
          cases equal
        obtain ⟨hash, instant, hashed, carried⟩ := (inv.rows _ record read).carried past
        cases Option.some.inj (hashed.symm.trans equal)
        cases Option.some.inj (carried.symm.trans found)
        rw [eq]
        exact ⟨instant, ⟨record, read, past, equal, carried⟩, rfl⟩
    | recorded record read open_ free eq =>
        have past : ended (committedWorker runnerId result (digest (forStorage result.completion)) record) := by
          cases won : result.succeeded <;> simp [ended, committedWorker, won]
        rw [eq]
        exact ⟨result.completedAt, ⟨_, table_get_put_self _ _ _, past, rfl, table_get_put_self _ _ _⟩, rfl⟩

theorem reserve_window (stepId : String) (bound : Int)
    (replied : (perform digest store (.reserveWorker caller runnerId stepId (some bound))).2 = .flag true) :
    (submittedWorkers (perform digest store (.reserveWorker caller runnerId stepId (some bound))).1 runnerId : Int) ≤ bound := by
  rcases transact_cases store .flag (reserveWorker store caller runnerId stepId (some bound)) with
    ⟨_, _, same⟩ | ⟨next, reply, done, same⟩
  · rw [perform, same] at replied
    cases replied
  · rw [perform, same] at replied ⊢
    cases replied
    rcases reserve_worker_effect store next caller runnerId stepId (some bound) true done with
      ⟨off, _⟩ | ⟨_, worker, read, created, room, eq⟩
    · cases off
    · have counted := table_count_put store.workers
        (fun key row => key.1 = runnerId ∧ row.state = .submitted) _ worker (submittedWorker caller worker) read
      have below := room bound rfl
      simp only [created, submittedWorker, reduceCtorEq, and_false, and_true, decide_false, decide_true, if_true,
        Bool.false_eq_true, if_false] at counted
      rw [eq]
      simp only [submittedWorkers, submittedWorker] at below ⊢
      omega

structure WorkerContract (digest : Json → Digest) (store : Store Digest) : Prop where
  moves : ∀ call, RowsMove store (perform digest store call).1
  window : ∀ caller runner stepId bound,
    (perform digest store (.reserveWorker caller runner stepId (some bound))).2 = .flag true →
      (submittedWorkers (perform digest store (.reserveWorker caller runner stepId (some bound))).1 runner : Int) ≤ bound
  single : ∀ first second a b, store.messages.get first = some a → store.messages.get second = some b →
    a.topic = "worker.completed" → b.topic = "worker.completed" → a.runner = b.runner → a.source = b.source → first = second
  past : ∀ caller runner result, checkRuntime store caller = .ok () → ¬ RunnerRunning store runner →
    (perform digest store (.commitWorker caller runner result)).2 = .message none ∧
      sameRows store (perform digest store (.commitWorker caller runner result)).1
  settles : ∀ caller runner result message,
    (perform digest store (.commitWorker caller runner result)).2 = .message (some message) →
      ∀ later last, run (step digest) (perform digest store (.commitWorker caller runner result)).1 later = some last →
        Settled digest runner result message last

theorem invariant_contract (inv : WorkInvariant store) : WorkerContract digest store := by
  refine ⟨perform_moves digest store, reserve_window digest store, fun first second a b foundA foundB topicA topicB runner source => ?_,
    fun caller runner result fenced past => commit_over digest store caller runner result fenced past,
    fun caller runner result message replied later last reached => ?_⟩
  · obtain ⟨keyA, _, namedA, runnerA, sourceA, _⟩ := inv.topics first a foundA topicA
    obtain ⟨keyB, _, namedB, runnerB, sourceB, _⟩ := inv.topics second b foundB topicB
    have same : keyA = keyB := Prod.ext (runnerA.symm.trans (runner.trans runnerB))
      (Option.some.inj (sourceA.symm.trans (source.trans sourceB)))
    rw [namedA, namedB, same]
  · obtain ⟨instant, kept, same⟩ := commit_kept digest store caller runner result message inv replied
    have held := run_invariant (step digest) (Kept (runner, result.stepId) (digest (forStorage result.completion)) instant)
      (kept_stays digest _ _ instant) later _ last kept reached
    exact same ▸ kept_settled digest runner result instant last held

def Unworked (store : Store Digest) : Prop := store.workers = Table.empty ∧ store.messages = Table.empty

theorem workers_run_once (digest : Json → Digest) (origin store : Store Digest) (calls : List (Call Digest))
    (unworked : Unworked origin) (unforged : ∀ call ∈ calls, Unforged call)
    (reached : run (step digest) origin calls = some store) :
    (∀ key, occurrences (step digest) (granted digest key) origin calls ≤ 1 ∧
      occurrences (step digest) (submits digest key) origin calls ≤ 1) ∧ WorkerContract digest store := by
  refine ⟨fun key => ⟨granted_once digest key calls origin, submits_once digest key calls origin⟩, ?_⟩
  have start : WorkInvariant origin := by
    refine ⟨fun key row read => ?_, fun id message found => ?_⟩
    · rw [unworked.1] at read
      cases read
    · rw [unworked.2] at found
      cases found
  have held : WorkInvariant store := by
    clear unworked
    induction calls generalizing origin with
    | nil => exact Option.some.inj reached ▸ start
    | cons call rest ih =>
        obtain ⟨next, taken, remaining⟩ := (run_cons _ origin store call rest).mp reached
        exact ih next (fun other member => unforged other (List.mem_cons_of_mem _ member)) remaining
          (work_step digest origin call next start (unforged call List.mem_cons_self) taken)
  exact invariant_contract digest store held

def runningRunner : Runner := ⟨none, .running, false, queuedTemplate none none .blank, some 0, none, some "scheduler", none⟩

def runningStore : Store Json where
  lease := some ⟨"scheduler", 1, 100⟩
  campaigns := []
  runners := Table.empty.put "r" runningRunner
  instances := Table.empty
  nodes := Table.empty
  workers := Table.empty
  messages := Table.empty
  logs := []

def firstCaller : Caller := ⟨some "scheduler", 1, 1⟩

def firstResult : WorkerResult := ⟨"0", [], "answer", .dict [("prompt", .list [.text "hello", .number 1])], 2⟩

def firstCalls : List (Call Json) :=
  [.createWorkers firstCaller "r" [⟨"0", [], [], 0, none, none⟩], .reserveWorker firstCaller "r" "0" (some 1),
    .commitWorker firstCaller "r" firstResult]

theorem workers_run_once_committed :
    ∃ store, run (step id) runningStore firstCalls = some store ∧ WorkerContract id store ∧
      ∃ message, (perform id store (.commitWorker firstCaller "r" firstResult)).2 = .message (some message) :=
  ⟨_, rfl, (workers_run_once id runningStore _ firstCalls ⟨rfl, rfl⟩ (by simp [firstCalls, Unforged]) rfl).2, _, rfl⟩

-- The stored document leaves out the completion time, so a result that differs
-- from the committed one in nothing else is answered with its message.
theorem later_result_repeats :
    ∃ store message, run (step id) runningStore firstCalls = some store ∧
      { firstResult with completedAt := 3 } ≠ firstResult ∧
      (perform id store (.commitWorker firstCaller "r" { firstResult with completedAt := 3 })).2 = .message (some message) :=
  ⟨_, _, rfl, by decide, rfl⟩

end LlmperfOrchestrator.Storage

import LlmperfOrchestrator.Storage.Effects

set_option autoImplicit false

namespace LlmperfOrchestrator.Storage

open Tables Runs Outcomes

variable {Digest : Type} [DecidableEq Digest]

def Moves (before after : Worker Digest) : Prop :=
  after = before ∨
    (before.state = .created ∧ (after.state = .submitted ∨ after.state = .cancelled)) ∨
    (before.state = .submitted ∧ (after.state = .succeeded ∨ after.state = .failed ∨ after.state = .indeterminate))

def RowsMove (store next : Store Digest) : Prop :=
  ∀ key before, store.workers.get key = some before → ∃ after, next.workers.get key = some after ∧ Moves before after

theorem rows_same (store next : Store Digest) (same : next.workers = store.workers) : RowsMove store next := by
  intro key before read
  exact ⟨before, same ▸ read, .inl rfl⟩

theorem rows_put (store next : Store Digest) (key : WorkerId) (old fresh : Worker Digest)
    (read : store.workers.get key = some old) (moved : Moves old fresh)
    (same : next.workers = store.workers.put key fresh) : RowsMove store next := by
  intro query before found
  rw [same, table_get_put]
  by_cases here : query = key
  · subst here
    cases Option.some.inj (read.symm.trans found)
    exact ⟨fresh, by simp, moved⟩
  · exact ⟨before, by simpa [here] using found, .inl rfl⟩

omit [DecidableEq Digest] in
theorem close_moves (instant : Instant) (worker : Worker Digest) : Moves worker (closeWorker instant worker) := by
  unfold closeWorker
  cases state : worker.state with
  | created => exact .inr (.inl ⟨state, .inr rfl⟩)
  | submitted => exact .inr (.inr ⟨state, .inr (.inr rfl)⟩)
  | succeeded | failed | cancelled | indeterminate => exact .inl rfl

theorem rows_close (store : Store Digest) (runnerId : RunnerId) (instant : Instant) :
    RowsMove store (closeWorkers store runnerId instant) := by
  intro key before read
  refine ⟨if key.1 = runnerId then closeWorker instant before else before, by simp [closeWorkers, read], ?_⟩
  split
  · exact close_moves instant before
  · exact .inl rfl

inductive ClosingEffect (store next : Store Digest) : Prop where
  | untouched (workers : next.workers = store.workers) (messages : next.messages = store.messages)
  | closed (runnerId : RunnerId) (instant : Instant) (workers : next.workers = (closeWorkers store runnerId instant).workers)
      (messages : next.messages = store.messages)

def workerCall : Call Digest → Bool
  | .createWorkers .. | .reserveWorker .. | .commitWorker .. | .publishMessage .. => true
  | _ => false

variable (digest : Json → Digest)

theorem closing_effect (store : Store Digest) (call : Call Digest) (other : workerCall call = false) :
    ClosingEffect store (perform digest store call).1 := by
  cases call with
  | createWorkers | reserveWorker | commitWorker | publishMessage => cases other
  | activateNode caller node dueAt fresh =>
      rcases transact_cases store .emitted (activateNode store caller node dueAt fresh) with ⟨_, _, same⟩ | ⟨next, reply, done, same⟩
      · exact .untouched (by rw [perform, same]) (by rw [perform, same])
      · rw [perform, same]
        cases activate_effect store next caller node dueAt fresh reply done with
        | refused eq => exact .untouched (by rw [eq]) (by rw [eq])
        | emitted _ _ _ _ _ _ _ eq => exact .untouched (by rw [eq]) (by rw [eq])
  | startSelected caller runner owner =>
      rcases transact_cases store .admitted (startSelected store caller runner owner) with ⟨_, _, same⟩ | ⟨next, reply, done, same⟩
      · exact .untouched (by rw [perform, same]) (by rw [perform, same])
      · rw [perform, same]
        cases start_effect store next caller runner owner reply done with
        | refused eq => exact .untouched (by rw [eq]) (by rw [eq])
        | dropped _ _ _ eq => exact .untouched (by rw [eq]; rfl) (by rw [eq]; rfl)
        | started _ _ _ _ _ eq => exact .untouched (by rw [eq]; rfl) (by rw [eq]; rfl)
  | completeRunner caller runner requests status errorMessage =>
      rcases transact_cases store .flag (completeRunner store caller runner requests status errorMessage) with
        ⟨_, _, same⟩ | ⟨next, reply, done, same⟩
      · exact .untouched (by rw [perform, same]) (by rw [perform, same])
      · rw [perform, same]
        cases complete_effect store next caller runner requests status errorMessage reply done with
        | refused eq => exact .untouched (by rw [eq]) (by rw [eq])
        | completed _ _ _ _ _ _ settled =>
            have work := checkpoint_same_work _ _ _ _ _ _ _ _ settled
            exact .closed runner caller.now work.workers work.messages
  | finishRunner caller runner status message =>
      rcases transact_cases store .flag (finishRunner store caller runner status message) with ⟨_, _, same⟩ | ⟨next, reply, done, same⟩
      · exact .untouched (by rw [perform, same]) (by rw [perform, same])
      · rw [perform, same]
        cases finish_effect store next caller runner status message reply done with
        | refused eq => exact .untouched (by rw [eq]) (by rw [eq])
        | finished _ _ _ _ settled =>
            have work := checkpoint_same_work _ _ _ _ _ _ _ _ settled
            exact .closed runner caller.now work.workers work.messages
  | requestCancel now runner =>
      rcases transact_unit_cases store (requestCancel store now runner) with ⟨_, _, same⟩ | ⟨next, done, same⟩
      · exact .untouched (by rw [perform, same]) (by rw [perform, same])
      · rw [perform, same]
        cases cancel_effect store next now runner done with
        | refused eq => exact .untouched (by rw [eq]) (by rw [eq])
        | unstarted _ _ _ settled =>
            have work := checkpoint_same_work _ _ _ _ _ _ _ _ settled
            exact .untouched work.workers work.messages
        | requested _ _ _ eq => exact .untouched (by rw [eq]; rfl) (by rw [eq]; rfl)
  | requestCancelCampaign now campaign =>
      rw [perform, requestCancelCampaign]
      split <;> exact .untouched rfl rfl
  | changeLease lease => exact .untouched rfl rfl

theorem closing_moves (store : Store Digest) (call : Call Digest) (other : workerCall call = false) :
    RowsMove store (perform digest store call).1 := by
  rcases closing_effect digest store call other with ⟨workers, _⟩ | ⟨runnerId, instant, workers, _⟩
  · exact rows_same store _ workers
  · intro key before read
    obtain ⟨after, found, moved⟩ := rows_close store runnerId instant key before read
    exact ⟨after, by rw [workers]; exact found, moved⟩

theorem perform_commit (store : Store Digest) (caller : Caller) (runnerId : RunnerId) (result : WorkerResult) :
    (∃ error, perform digest store (.commitWorker caller runnerId result) =
      (writeWorker store ⟨(runnerId, result.stepId), digest (forStorage result.completion)⟩ (forStorage result.completion),
        .raised error)) ∨
    ∃ next message, perform digest store (.commitWorker caller runnerId result) = (next, .message message) ∧
      CommitEffect (writeWorker store ⟨(runnerId, result.stepId), digest (forStorage result.completion)⟩
        (forStorage result.completion)) next caller runnerId result (forStorage result.completion)
        (digest (forStorage result.completion)) message := by
  rw [perform, commitWorker]
  dsimp only
  split
  · rename_i next message done
    exact .inr ⟨next, message, rfl, commit_effect _ next caller runnerId result _ _ message done⟩
  · rename_i error _
    exact .inl ⟨error, rfl⟩

theorem perform_moves (store : Store Digest) (call : Call Digest) : RowsMove store (perform digest store call).1 := by
  cases kind : workerCall call with
  | false => exact closing_moves digest store call kind
  | true =>
      cases call with
      | createWorkers caller runner steps =>
          rcases transact_unit_cases store (createWorkers store caller runner steps) with ⟨_, _, same⟩ | ⟨next, done, same⟩
          · exact rows_same store _ (by rw [perform, same])
          · rw [perform, same]
            rcases create_workers_effect store next caller runner steps done with eq | ⟨fresh, absent, eq⟩
            · exact rows_same store next (by rw [eq])
            · intro key before read
              refine ⟨before, ?_, .inl rfl⟩
              rw [eq, table_get_insert_all _ _ key, read]
              intro member
              simp only [List.map_map, List.mem_map] at member
              obtain ⟨row, chosen, named⟩ := member
              have blank := absent row chosen
              rw [show (runner, row.stepId) = key from named, read] at blank
              cases blank
      | reserveWorker caller runner stepId window =>
          rcases transact_cases store .flag (reserveWorker store caller runner stepId window) with
            ⟨_, _, same⟩ | ⟨next, reply, done, same⟩
          · exact rows_same store _ (by rw [perform, same])
          · rw [perform, same]
            rcases reserve_worker_effect store next caller runner stepId window reply done with
              ⟨_, eq⟩ | ⟨_, worker, read, created, _, eq⟩
            · exact rows_same store next (by rw [eq])
            · exact rows_put store next _ worker _ read (.inr (.inl ⟨created, .inl rfl⟩)) (by rw [eq])
      | commitWorker caller runner result =>
          rcases perform_commit digest store caller runner result with ⟨_, same⟩ | ⟨next, message, same, effect⟩
          · exact rows_same store _ (by rw [same]; rfl)
          · rw [same]
            cases effect with
            | refused eq => exact rows_same store next (by rw [eq]; rfl)
            | repeated eq => exact rows_same store next (by rw [eq]; rfl)
            | recorded record read open_ _ eq =>
                refine rows_put store next _ record _ read (.inr (.inr ⟨open_, ?_⟩)) (by rw [eq]; rfl)
                cases won : result.succeeded with
                | true => exact .inl (by simp [committedWorker, won])
                | false => exact .inr (.inl (by simp [committedWorker, won]))
      | publishMessage caller message =>
          rcases transact_cases store .flag (publishMessage store caller message) with ⟨_, _, same⟩ | ⟨next, reply, done, same⟩
          · exact rows_same store _ (by rw [perform, same])
          · rw [perform, same]
            cases publish_effect store next caller message reply done with
            | untouched eq => exact rows_same store next (by rw [eq])
            | added _ eq => exact rows_same store next (by rw [eq])
            | cancelled stepId worker metadata read created _ eq =>
                exact rows_put store next _ worker _ read (.inr (.inl ⟨created, .inr rfl⟩)) (by rw [eq])
      | activateNode | startSelected | completeRunner | finishRunner | requestCancel | requestCancelCampaign | changeLease =>
          cases kind

def left (key : WorkerId) (store : Store Digest) : Prop :=
  ∃ row, store.workers.get key = some row ∧ row.state ≠ .created

theorem left_stays (key : WorkerId) (store next : Store Digest) (call : Call Digest) (gone : left key store)
    (taken : step digest store call = some next) : left key next := by
  obtain ⟨row, read, beyond⟩ := gone
  obtain rfl : (perform digest store call).1 = next := Option.some.inj taken
  obtain ⟨after, found, same | ⟨created, _⟩ | ⟨_, ended⟩⟩ := perform_moves digest store call key row read
  · exact ⟨after, found, same ▸ beyond⟩
  · exact absurd created beyond
  · refine ⟨after, found, ?_⟩
    rcases ended with state | state | state <;> simp [state]

def granted (digest : Json → Digest) (key : WorkerId) (store : Store Digest) (call : Call Digest) : Bool :=
  match call with
  | .reserveWorker _ runner stepId _ => (runner, stepId) = key ∧ (perform digest store call).2 = .flag true
  | _ => false

def stateOf (key : WorkerId) (store : Store Digest) : Option WorkerState := (store.workers.get key).map Worker.state

def submits (digest : Json → Digest) (key : WorkerId) (store : Store Digest) (call : Call Digest) : Bool :=
  stateOf key store = some .created ∧ stateOf key (perform digest store call).1 = some .submitted

theorem granted_row (key : WorkerId) (store : Store Digest) (call : Call Digest) (fired : granted digest key store call = true) :
    ∃ row, store.workers.get key = some row ∧ row.state = .created ∧ left key (perform digest store call).1 := by
  cases call with
  | reserveWorker caller runner stepId window =>
      obtain ⟨named, replied⟩ := of_decide_eq_true fired
      rcases transact_cases store .flag (reserveWorker store caller runner stepId window) with
        ⟨error, _, same⟩ | ⟨next, reply, done, same⟩
      · rw [perform, same] at replied
        cases replied
      · rw [perform, same] at replied ⊢
        cases replied
        rcases reserve_worker_effect store next caller runner stepId window true done with
          ⟨off, _⟩ | ⟨_, worker, read, created, _, eq⟩
        · cases off
        · refine ⟨worker, named ▸ read, created, submittedWorker caller worker, ?_, by simp [submittedWorker]⟩
          rw [eq, ← named]
          exact table_get_put_self _ _ _
  | createWorkers | commitWorker | publishMessage | activateNode | startSelected | completeRunner | finishRunner
    | requestCancel | requestCancelCampaign | changeLease => cases fired

theorem granted_once (key : WorkerId) (calls : List (Call Digest)) (store : Store Digest) :
    occurrences (step digest) (granted digest key) store calls ≤ 1 := by
  refine at_most_once (step digest) (granted digest key) (fun _ => True) (left key) (fun _ _ _ _ _ => trivial)
    (fun s call next _ => left_stays digest key s next call) (fun s call fired gone => ?_)
    (fun s call next _ fired taken => ?_) calls store trivial
  · obtain ⟨row, read, created, _⟩ := granted_row digest key s call fired
    obtain ⟨other, found, beyond⟩ := gone
    cases Option.some.inj (read.symm.trans found)
    exact beyond created
  · obtain ⟨_, _, _, after⟩ := granted_row digest key s call fired
    exact Option.some.inj taken ▸ after

theorem submits_once (key : WorkerId) (calls : List (Call Digest)) (store : Store Digest) :
    occurrences (step digest) (submits digest key) store calls ≤ 1 := by
  refine at_most_once (step digest) (submits digest key) (fun _ => True) (left key) (fun _ _ _ _ _ => trivial)
    (fun s call next _ => left_stays digest key s next call) (fun s call fired gone => ?_)
    (fun s call next _ fired taken => ?_) calls store trivial
  · obtain ⟨row, found, beyond⟩ := gone
    have before := (of_decide_eq_true fired).1
    simp only [stateOf, found, Option.map_some, Option.some.injEq] at before
    exact beyond before
  · obtain ⟨row, found, state⟩ := Option.map_eq_some_iff.mp (of_decide_eq_true fired).2
    exact Option.some.inj taken ▸ ⟨row, found, by simp [state]⟩

end LlmperfOrchestrator.Storage

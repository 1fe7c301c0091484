import LlmperfOrchestrator.Storage.AtMostOnce

set_option autoImplicit false

namespace LlmperfOrchestrator.Storage

open Tables Runs Outcomes

variable {Digest : Type} [DecidableEq Digest]

def ended (row : Worker Digest) : Prop := row.state = .succeeded ∨ row.state = .failed

structure Recorded (messages : Table MessageId (Message Digest)) (key : WorkerId) (row : Worker Digest) : Prop where
  carried : ended row → ∃ hash instant, row.completionHash = some hash ∧
    messages.get (.completed key) = some (completionRecord key hash instant)
  blank : ¬ ended row → row.completionHash = none

structure WorkInvariant (store : Store Digest) : Prop where
  rows : ∀ key row, store.workers.get key = some row → Recorded store.messages key row
  topics : ∀ id message, store.messages.get id = some message → message.topic = "worker.completed" →
    ∃ key row, id = .completed key ∧ message.runner = key.1 ∧ message.source = some key.2 ∧
      store.workers.get key = some row ∧ ended row

def Unforged : Call Digest → Prop
  | .publishMessage _ message => message.topic ≠ "worker.completed"
  | _ => True

def MessagesStay (store next : Store Digest) : Prop :=
  ∀ id message, store.messages.get id = some message → next.messages.get id = some message

variable (store next : Store Digest)

theorem stay_same (same : next.messages = store.messages) : MessagesStay store next := by
  intro id message read
  rw [same]
  exact read

theorem stay_put (id : MessageId) (fresh : Message Digest) (free : store.messages.get id = none)
    (same : next.messages = store.messages.put id fresh) : MessagesStay store next := by
  intro query message read
  have other : query ≠ id := by
    rintro rfl
    rw [free] at read
    cases read
  rw [same, table_get_put_other _ _ _ _ other]
  exact read

theorem recorded_stays (key : WorkerId) (row : Worker Digest) (stay : MessagesStay store next)
    (held : Recorded store.messages key row) : Recorded next.messages key row := by
  refine ⟨fun past => ?_, held.blank⟩
  obtain ⟨hash, instant, hashed, found⟩ := held.carried past
  exact ⟨hash, instant, hashed, stay _ _ found⟩

omit [DecidableEq Digest] in
theorem fresh_recorded (messages : Table MessageId (Message Digest)) (key : WorkerId) (row : Worker Digest)
    (unended : ¬ ended row) (blank : row.completionHash = none) : Recorded messages key row :=
  ⟨fun past => absurd past unended, fun _ => blank⟩

theorem invariant_rows (inv : WorkInvariant store) (messages : next.messages = store.messages)
    (old : ∀ key row, next.workers.get key = some row → store.workers.get key = some row ∨ (¬ ended row ∧ row.completionHash = none))
    (kept : ∀ key row, store.workers.get key = some row → ended row → next.workers.get key = some row) : WorkInvariant next := by
  refine ⟨fun key row read => ?_, fun id message found topic => ?_⟩
  · rcases old key row read with same | ⟨unended, blank⟩
    · exact recorded_stays store next key row (stay_same store next messages) (inv.rows key row same)
    · exact fresh_recorded next.messages key row unended blank
  · rw [messages] at found
    obtain ⟨key, row, named, runner, source, read, past⟩ := inv.topics id message found topic
    exact ⟨key, row, named, runner, source, kept key row read past, past⟩

omit [DecidableEq Digest] in
theorem close_old (instant : Instant) (row : Worker Digest) :
    closeWorker instant row = row ∨
      (¬ ended row ∧ ¬ ended (closeWorker instant row) ∧ (closeWorker instant row).completionHash = row.completionHash) := by
  unfold closeWorker
  cases state : row.state with
  | created | submitted => exact .inr (by simp [ended, state])
  | succeeded | failed | cancelled | indeterminate => exact .inl rfl

theorem close_invariant (store : Store Digest) (runnerId : RunnerId) (instant : Instant) (inv : WorkInvariant store) :
    WorkInvariant (closeWorkers store runnerId instant) := by
  refine invariant_rows store _ inv rfl (fun key row read => ?_) (fun key row read past => ?_)
  · simp only [closeWorkers, table_get_update, Option.map_eq_some_iff] at read
    obtain ⟨before, found, same⟩ := read
    split at same
    · rcases close_old instant before with still | ⟨unended, after, hash⟩
      · exact .inl (same ▸ still.symm ▸ found)
      · exact .inr ⟨same ▸ after, same ▸ hash.trans ((inv.rows key before found).blank unended)⟩
    · exact .inl (same ▸ found)
  · simp only [closeWorkers, table_get_update, read, Option.map_some, Option.some.injEq]
    split
    · rcases close_old instant row with still | ⟨unended, _⟩
      · exact still
      · exact absurd past unended
    · rfl

theorem put_old (store : Store Digest) (key query : WorkerId) (old fresh row : Worker Digest) (inv : WorkInvariant store)
    (read : store.workers.get key = some old) (found : (store.workers.put key fresh).get query = some row)
    (unended : ¬ ended old) (after : ¬ ended fresh) (hash : fresh.completionHash = old.completionHash) :
    store.workers.get query = some row ∨ (¬ ended row ∧ row.completionHash = none) := by
  by_cases here : query = key
  · subst here
    rw [table_get_put_self] at found
    cases found
    exact .inr ⟨after, hash.trans ((inv.rows query old read).blank unended)⟩
  · rw [table_get_put_other _ _ _ _ here] at found
    exact .inl found

theorem put_kept (store : Store Digest) (key query : WorkerId) (old fresh row : Worker Digest)
    (read : store.workers.get key = some old) (unended : ¬ ended old) (found : store.workers.get query = some row)
    (past : ended row) : (store.workers.put key fresh).get query = some row := by
  have other : query ≠ key := by
    rintro rfl
    cases Option.some.inj (read.symm.trans found)
    exact unended past
  rw [table_get_put_other _ _ _ _ other]
  exact found

theorem create_invariant (caller : Caller) (runnerId : RunnerId) (steps : List RequestStep) (inv : WorkInvariant store)
    (done : createWorkers store caller runnerId steps = .ok next) : WorkInvariant next := by
  rcases create_workers_effect store next caller runnerId steps done with eq | ⟨fresh, absent, eq⟩
  · exact eq ▸ inv
  · subst eq
    refine invariant_rows store _ inv rfl (fun key row read => ?_) (fun key row read _ => ?_)
    · rcases table_insert_all_new _ _ key row read with member | found
      · simp only [List.mem_map, Prod.mk.injEq] at member
        obtain ⟨step, _, _, made⟩ := member
        exact .inr (made ▸ ⟨by simp [ended, newWorker], rfl⟩)
      · exact .inl found
    · show (store.workers.insertAll _).get key = some row
      rw [table_get_insert_all _ _ key, read]
      intro member
      simp only [List.map_map, List.mem_map] at member
      obtain ⟨step, chosen, named⟩ := member
      have blank := absent step chosen
      rw [show (runnerId, step.stepId) = key from named, read] at blank
      cases blank

theorem reserve_invariant (caller : Caller) (runnerId : RunnerId) (stepId : String) (window : Option Int) (flag : Bool)
    (inv : WorkInvariant store) (done : reserveWorker store caller runnerId stepId window = .ok (next, flag)) : WorkInvariant next := by
  rcases reserve_worker_effect store next caller runnerId stepId window flag done with
    ⟨_, eq⟩ | ⟨_, worker, read, created, _, eq⟩
  · exact eq ▸ inv
  · subst eq
    have unended : ¬ ended worker := by simp [ended, created]
    exact invariant_rows store _ inv rfl
      (fun key row found => put_old store _ key worker _ row inv read found unended (by simp [ended, submittedWorker]) rfl)
      (fun key row found past => put_kept store _ key worker _ row read unended found past)

theorem added_invariant (id : MessageId) (fresh : Message Digest) (inv : WorkInvariant store)
    (free : store.messages.get id = none) (foreign : fresh.topic ≠ "worker.completed") (workers : next.workers = store.workers)
    (messages : next.messages = store.messages.put id fresh) : WorkInvariant next := by
  refine ⟨fun key row read => ?_, fun query message found topic => ?_⟩
  · rw [workers] at read
    exact recorded_stays store next key row (stay_put store next id fresh free messages) (inv.rows key row read)
  · rw [messages, table_get_put] at found
    split at found
    · cases found
      exact absurd topic foreign
    · rw [workers]
      exact inv.topics query message found topic

theorem publish_invariant (caller : Caller) (message : RunnerMessage Digest) (flag : Bool) (inv : WorkInvariant store)
    (foreign : message.topic ≠ "worker.completed") (done : publishMessage store caller message = .ok (next, flag)) :
    WorkInvariant next := by
  cases publish_effect store next caller message flag done with
  | untouched eq => exact eq ▸ inv
  | added free eq => exact added_invariant store next message.id message.record inv free foreign (by rw [eq]) (by rw [eq])
  | cancelled stepId worker metadata read created free eq =>
      have unended : ¬ ended worker := by simp [ended, created]
      -- First the row, then the message.
      have rows : WorkInvariant { store with workers := next.workers } := by
        subst eq
        exact invariant_rows store _ inv rfl
          (fun key row found => put_old store _ key worker _ row inv read found unended (by simp [ended]) rfl)
          (fun key row found past => put_kept store _ key worker _ row read unended found past)
      exact added_invariant { store with workers := next.workers } next message.id message.record rows free foreign rfl
        (by rw [eq])

theorem commit_invariant (caller : Caller) (runnerId : RunnerId) (result : WorkerResult) (payload : Json) (hash : Digest)
    (message : Option (RunnerMessage Digest)) (inv : WorkInvariant store)
    (effect : CommitEffect store next caller runnerId result payload hash message) : WorkInvariant next := by
  cases effect with
  | refused eq => exact eq ▸ inv
  | repeated eq => exact eq ▸ inv
  | recorded record read open_ free eq =>
      have stay : MessagesStay store next := stay_put store next _ _ free (by rw [eq])
      have unended : ¬ ended record := by simp [ended, open_]
      have past : ended (committedWorker runnerId result hash record) := by
        cases won : result.succeeded <;> simp [ended, committedWorker, won]
      subst eq
      refine ⟨fun key row found => ?_, fun query other found topic => ?_⟩
      · by_cases here : key = (runnerId, result.stepId)
        · subst here
          rw [table_get_put_self] at found
          cases found
          exact ⟨fun _ => ⟨hash, result.completedAt, rfl, table_get_put_self _ _ _⟩, fun open' => absurd past open'⟩
        · rw [table_get_put_other _ _ _ _ here] at found
          exact recorded_stays store _ key row stay (inv.rows key row found)
      · rw [table_get_put] at found
        split at found
        · rename_i named
          cases found
          exact ⟨_, _, named, rfl, rfl, table_get_put_self _ _ _, past⟩
        · obtain ⟨key, row, named, runner, source, read', over'⟩ := inv.topics query other found topic
          exact ⟨key, row, named, runner, source, put_kept store _ key record _ row read unended read' over', over'⟩

theorem work_step (digest : Json → Digest) (store : Store Digest) (call : Call Digest) (next : Store Digest)
    (inv : WorkInvariant store) (unforged : Unforged call) (taken : step digest store call = some next) :
    WorkInvariant next := by
  obtain rfl : (perform digest store call).1 = next := Option.some.inj taken
  cases kind : workerCall call with
  | false =>
      rcases closing_effect digest store call kind with ⟨workers, messages⟩ | ⟨runnerId, instant, workers, messages⟩
      · exact ⟨by rw [workers, messages]; exact inv.rows, by rw [workers, messages]; exact inv.topics⟩
      · have closed := close_invariant store runnerId instant inv
        exact ⟨by rw [workers, messages]; exact closed.rows, by rw [workers, messages]; exact closed.topics⟩
  | true =>
      cases call with
      | createWorkers caller runner steps =>
          rcases transact_unit_cases store (createWorkers store caller runner steps) with ⟨_, _, same⟩ | ⟨next, done, same⟩
          · rw [perform, same]
            exact inv
          · rw [perform, same]
            exact create_invariant store next caller runner steps inv done
      | reserveWorker caller runner stepId window =>
          rcases transact_cases store .flag (reserveWorker store caller runner stepId window) with
            ⟨_, _, same⟩ | ⟨next, reply, done, same⟩
          · rw [perform, same]
            exact inv
          · rw [perform, same]
            exact reserve_invariant store next caller runner stepId window reply inv done
      | commitWorker caller runner result =>
          have logged : WorkInvariant (writeWorker store
              ⟨(runner, result.stepId), digest (forStorage result.completion)⟩ (forStorage result.completion)) :=
            ⟨inv.rows, inv.topics⟩
          rcases perform_commit digest store caller runner result with ⟨_, same⟩ | ⟨next, message, same, effect⟩
          · rw [same]
            exact logged
          · rw [same]
            exact commit_invariant _ next caller runner result _ _ message logged effect
      | publishMessage caller message =>
          rcases transact_cases store .flag (publishMessage store caller message) with
            ⟨_, _, same⟩ | ⟨next, reply, done, same⟩
          · rw [perform, same]
            exact inv
          · rw [perform, same]
            exact publish_invariant store next caller message reply inv unforged done
      | activateNode | startSelected | completeRunner | finishRunner | requestCancel | requestCancelCampaign | changeLease =>
          cases kind

end LlmperfOrchestrator.Storage

import LlmperfOrchestrator.Campaign.PendingWork

set_option autoImplicit false

namespace LlmperfOrchestrator.Campaign

open Tables Outcomes Runs Storage Plans
open Compiler (Sha256 NodeId CompilationTable CompiledNodeRow CompiledInstanceRow)
open Runtime.Recurrence (Zones)

variable {Digest : Type} [DecidableEq Digest]

def sent : WorkerState → Bool
  | .submitted | .succeeded | .failed | .indeterminate => true
  | .created | .cancelled => false

def Stamped (worker : Worker Digest) : Prop := worker.submittedAt.isSome = sent worker.state

structure WorkerRows (s : Store Digest) : Prop where
  stamped : ∀ key worker, s.workers.get key = some worker → Stamped worker
  owned : ∀ key worker, s.workers.get key = some worker → s.runners.get key.1 ≠ none
  room : ∀ id runner, s.runners.get id = some runner → ownedWorkers s id ≤ runner.template.plannedWorkers

def Counted (template : Template) : Prop := template.plannedWorkers = plannedWorkerCount template.benchmark

-- Runners and nodes that are waiting to become one.
structure FactoryRows (s : Store Digest) : Prop where
  runners : ∀ id runner, s.runners.get id = some runner → Counted runner.template
  nodes : ∀ id node, s.nodes.get id = some node → Counted node.template

structure Inserted (s next : Store Digest) : Prop where
  workers : next.workers = s.workers
  factory : FactoryRows s → FactoryRows next

def RunnersKeep (s next : Store Digest) : Prop :=
  ∀ id before, s.runners.get id = some before → ∃ after, next.runners.get id = some after ∧ after.template = before.template

inductive WorkerChange (s next : Store Digest) : Prop where
  | same (workers : next.workers = s.workers)
  | updated (change : WorkerId → Worker Digest → Worker Digest) (workers : next.workers = s.workers.update change)
      (keeps : ∀ key worker, Stamped worker → Stamped (change key worker))
  | replaced (key : WorkerId) (old fresh : Worker Digest) (read : s.workers.get key = some old)
      (workers : next.workers = s.workers.put key fresh) (stamped : Stamped fresh)
  | inserted (id : RunnerId) (runner : Runner) (read : s.runners.get id = some runner) (caller : Caller) (steps : List RequestStep)
      (fits : ownedWorkers s id + steps.length ≤ runner.template.plannedWorkers)
      (workers : next.workers = s.workers.insertAll (steps.map fun step => ((id, step.stepId), newWorker caller step)))

theorem count_put_le {Key Row : Type} [DecidableEq Key] (table : Table Key Row) (counted : Key → Row → Bool) (key : Key) (row : Row) :
    (table.put key row).count counted ≤ table.count counted + (if counted key row then 1 else 0) := by
  have change := dict_total_put (fun entry : Key × Row => if counted entry.1 entry.2 then 1 else 0) table.rows key row
  simp only [Table.count, Table.put] at change ⊢
  omega

theorem count_insert_le {Key Row : Type} [DecidableEq Key] (entries : List (Key × Row)) (table : Table Key Row)
    (counted : Key → Row → Bool) :
    (table.insertAll entries).count counted ≤ table.count counted + entries.countP fun entry => counted entry.1 entry.2 := by
  induction entries generalizing table with
  | nil => exact Nat.le_refl _
  | cons entry rest ih =>
      have here := count_put_le table counted entry.1 entry.2
      have later := ih (table.put entry.1 entry.2)
      rw [List.countP_cons]
      change ((table.put entry.1 entry.2).insertAll rest).count counted ≤ _
      omega

theorem change_counts (s next : Store Digest) (change : WorkerChange s next) (id : RunnerId) :
    ownedWorkers next id ≤ ownedWorkers s id ∨ ∃ runner, s.runners.get id = some runner ∧
      ownedWorkers next id ≤ runner.template.plannedWorkers := by
  cases change with
  | same workers => exact .inl (by rw [ownedWorkers, ownedWorkers, workers])
  | updated change workers keeps =>
      apply Or.inl
      rw [ownedWorkers, ownedWorkers, workers]
      exact Nat.le_of_eq (total_map _ _ s.workers.rows fun entry _ => rfl)
  | replaced key old fresh read workers stamped =>
      apply Or.inl
      have counts := table_count_put s.workers (fun key _ => key.1 = id) key old fresh read
      rw [ownedWorkers, ownedWorkers, workers]
      omega
  | inserted owner runner read caller steps fits workers =>
      let rows : List (WorkerId × Worker Digest) := steps.map fun step => ((owner, step.stepId), newWorker caller step)
      have grown : ownedWorkers next id ≤ ownedWorkers s id + rows.countP fun entry => entry.1.1 = id := by
        rw [ownedWorkers, ownedWorkers, workers]
        exact count_insert_le rows s.workers fun key _ => key.1 = id
      by_cases same : owner = id
      · subst same
        have few : (rows.countP fun entry => entry.1.1 = owner) ≤ steps.length :=
          Nat.le_trans List.countP_le_length (Nat.le_of_eq (List.length_map _))
        exact .inr ⟨runner, read, Nat.le_trans grown (Nat.le_trans (Nat.add_le_add_left few _) fits)⟩
      · apply Or.inl
        have none : (rows.countP fun entry => entry.1.1 = id) = 0 := by
          rw [List.countP_eq_zero]
          intro entry member
          obtain ⟨step, _, rfl⟩ := List.mem_map.mp member
          simpa using same
        rw [none] at grown
        exact grown

theorem change_keeps (s next : Store Digest) (inv : WorkerRows s) (keep : RunnersKeep s next) (change : WorkerChange s next) :
    WorkerRows next := by
  have owners : ∀ id, s.runners.get id ≠ none → next.runners.get id ≠ none := by
    intro id known
    obtain ⟨before, read⟩ := Option.ne_none_iff_exists'.mp known
    obtain ⟨after, found, _⟩ := keep id before read
    rw [found]
    exact fun absent => by cases absent
  have rows : ∀ key worker, next.workers.get key = some worker → Stamped worker ∧ s.runners.get key.1 ≠ none := by
    intro key worker read
    cases change with
    | same workers =>
        rw [workers] at read
        exact ⟨inv.stamped key worker read, inv.owned key worker read⟩
    | updated change workers keeps =>
        rw [workers, table_get_update] at read
        obtain ⟨old, found, same⟩ := Option.map_eq_some_iff.mp read
        exact ⟨same ▸ keeps key old (inv.stamped key old found), inv.owned key old found⟩
    | replaced target old fresh found workers stamped =>
        rw [workers] at read
        rcases table_put_cases _ _ _ _ _ read with ⟨same, new⟩ | ⟨_, older⟩
        · exact ⟨new ▸ stamped, same ▸ inv.owned target old found⟩
        · exact ⟨inv.stamped key worker older, inv.owned key worker older⟩
    | inserted id runner found caller steps fits workers =>
        rw [workers] at read
        rcases table_insert_all_new _ _ _ _ read with fresh | older
        · obtain ⟨step, _, same⟩ := List.mem_map.mp fresh
          cases same
          refine ⟨rfl, ?_⟩
          rw [found]
          exact fun absent => by cases absent
        · exact ⟨inv.stamped key worker older, inv.owned key worker older⟩
  refine ⟨fun key worker read => (rows key worker read).1, fun key worker read => owners key.1 (rows key worker read).2, ?_⟩
  intro id after read
  cases known : s.runners.get id with
  | none =>
      -- a Runner that was just inserted has no row yet
      have empty := table_count_le next.workers (fun key _ => key.1 = id) [] (by
        intro key worker found counted
        have owner := (rows key worker found).2
        rw [of_decide_eq_true counted] at owner
        exact absurd known owner)
      exact Nat.le_trans empty (Nat.zero_le _)
  | some before =>
      obtain ⟨kept, found, template⟩ := keep id before known
      cases Option.some.inj (read.symm.trans found)
      rw [template]
      rcases change_counts s next change id with fewer | ⟨runner, stored, fits⟩
      · exact Nat.le_trans fewer (inv.room id before known)
      · cases Option.some.inj (known.symm.trans stored)
        exact fits

theorem create_workers_room (store next : Store Digest) (caller : Caller) (id : RunnerId) (steps : List RequestStep)
    (done : createWorkers store caller id steps = .ok next) :
    next = store ∨ ∃ (runner : Runner) (fresh : List RequestStep), store.runners.get id = some runner ∧
      ownedWorkers store id + fresh.length ≤ runner.template.plannedWorkers ∧
      next.workers = store.workers.insertAll (fresh.map fun step => ((id, step.stepId), newWorker caller step)) := by
  unfold createWorkers at done
  split at done
  · cases done
    exact .inl rfl
  · split at done
    · cases done
    · split at done
      · cases done
      · obtain ⟨_, _, opened⟩ := (bind_ok _ _ _).mp done
        split at opened
        · cases opened
        · rename_i runner found
          dsimp only at opened
          split at opened
          · cases opened
          · rename_i room
            cases opened
            exact .inr ⟨runner, _, (accepting_some store id runner found).1, Nat.not_lt.mp room, rfl⟩

omit [DecidableEq Digest] in
theorem close_stamped (instant : Instant) (worker : Worker Digest) (stamped : Stamped worker) :
    Stamped (closeWorker instant worker) := by
  unfold closeWorker
  cases state : worker.state <;> simp only [Stamped, state, sent] at stamped ⊢ <;> exact stamped

theorem call_change (digest : Json → Digest) (s : Store Digest) (call : Call Digest) (inv : WorkerRows s) :
    WorkerChange s (perform digest s call).1 := by
  cases kind : workerCall call with
  | false =>
      rcases closing_effect digest s call kind with ⟨workers, _⟩ | ⟨id, instant, workers, _⟩
      · exact .same workers
      · refine .updated (fun key worker => if key.1 = id then closeWorker instant worker else worker) workers ?_
        intro key worker stamped
        by_cases own : key.1 = id
        · rw [if_pos own]
          exact close_stamped instant worker stamped
        · rw [if_neg own]
          exact stamped
  | true =>
      cases call with
      | createWorkers caller id steps =>
          rcases transact_unit_cases s (createWorkers s caller id steps) with ⟨_, _, same⟩ | ⟨next, done, same⟩
          · exact .same (by rw [perform, same])
          · rw [perform, same]
            rcases create_workers_room s next caller id steps done with eq | ⟨runner, fresh, read, fits, workers⟩
            · exact .same (by rw [eq])
            · exact .inserted id runner read caller fresh fits workers
      | reserveWorker caller id stepId window =>
          rcases transact_cases s .flag (reserveWorker s caller id stepId window) with ⟨_, _, same⟩ | ⟨next, reply, done, same⟩
          · exact .same (by rw [perform, same])
          · rw [perform, same]
            rcases reserve_worker_effect s next caller id stepId window reply done with ⟨_, eq⟩ | ⟨_, worker, read, _, _, eq⟩
            · exact .same (by rw [eq])
            · exact .replaced (id, stepId) worker (submittedWorker caller worker) read (by rw [eq]) rfl
      | commitWorker caller id result =>
          rcases perform_commit digest s caller id result with ⟨_, same⟩ | ⟨next, message, same, effect⟩
          · exact .same (by rw [same]; rfl)
          · rw [same]
            cases effect with
            | refused eq => exact .same (by rw [eq]; rfl)
            | repeated eq => exact .same (by rw [eq]; rfl)
            | recorded record read open_ _ eq =>
                refine .replaced _ record _ read (by rw [eq]; rfl) ?_
                have stamped := inv.stamped _ record read
                rw [Stamped, open_] at stamped
                cases won : result.succeeded <;> simpa [Stamped, committedWorker, won, sent] using stamped
      | publishMessage caller message =>
          rcases transact_cases s .flag (publishMessage s caller message) with ⟨_, _, same⟩ | ⟨next, reply, done, same⟩
          · exact .same (by rw [perform, same])
          · rw [perform, same]
            cases publish_effect s next caller message reply done with
            | untouched eq => exact .same (by rw [eq])
            | added _ eq => exact .same (by rw [eq])
            | cancelled stepId worker metadata read created _ eq =>
                refine .replaced _ worker _ read (by rw [eq]) ?_
                have stamped := inv.stamped _ worker read
                rw [Stamped, created] at stamped
                exact stamped
      | activateNode | startSelected | completeRunner | finishRunner | requestCancel | requestCancelCampaign | changeLease =>
          cases kind

section Insertions

variable (sha256 : Sha256) (campaign : CampaignId) (now : Instant)

theorem inserted_trans (a b c : Store Digest) (first : Inserted a b) (second : Inserted b c) : Inserted a c :=
  ⟨second.workers.trans first.workers, fun factory => second.factory (first.factory factory)⟩

theorem inserted_refl (s : Store Digest) : Inserted s s := ⟨rfl, id⟩

theorem insert_runner_inserted (owner : Option CampaignId) (s next : Store Digest) (runner : PlainRunner)
    (done : insertRunner owner s runner = .ok next) : Inserted s next := by
  unfold insertRunner at done
  split at done
  · cases done
  · cases done
    refine ⟨rfl, fun factory => ⟨fun id row read => ?_, factory.nodes⟩⟩
    rcases table_put_cases _ _ _ _ _ read with ⟨_, rfl⟩ | ⟨_, older⟩
    · exact rfl
    · exact factory.runners id row older

theorem insert_runners_inserted (owner : Option CampaignId) (runners : List PlainRunner) (s next : Store Digest)
    (done : runners.foldlM (insertRunner owner) s = .ok next) : Inserted s next :=
  fold_keeps (insertRunner owner) (Inserted s)
    (fun state runner after kept taken => inserted_trans s state after kept (insert_runner_inserted owner state after runner taken))
    runners s next (inserted_refl s) done

theorem insert_node_inserted (document : StoredBenchmark) (instanceId : InstanceId) (ids : Dict NodeId DispatchId)
    (s next : Store Digest) (row : CompiledNodeRow) (done : insertNode campaign now document instanceId ids s row = .ok next) :
    Inserted s next := by
  obtain ⟨⟨id, node⟩, assembled, opened⟩ := (bind_ok _ _ _).mp done
  obtain ⟨_, _, assembled⟩ := (bind_ok _ _ _).mp assembled
  obtain ⟨_, _, assembled⟩ := (bind_ok _ _ _).mp assembled
  cases assembled
  dsimp only at opened
  split at opened
  · cases opened
  · cases opened
    refine ⟨rfl, fun factory => ⟨factory.runners, fun id row read => ?_⟩⟩
    rcases table_put_cases _ _ _ _ _ read with ⟨_, rfl⟩ | ⟨_, older⟩
    · exact rfl
    · exact factory.nodes id row older

theorem insert_instance_inserted (definition : TaskDefinition) (table : CompilationTable) (s next : Store Digest × Nat)
    (row : CompiledInstanceRow) (done : insertInstance campaign now definition table s row = .ok next) :
    Inserted s.1 next.1 := by
  unfold insertInstance at done
  dsimp only at done
  split at done
  · cases done
  · obtain ⟨store, placed, opened⟩ := (bind_ok _ _ _).mp done
    cases opened
    exact fold_keeps (insertNode campaign now definition.document _ _) (Inserted s.1)
      (fun state row after kept taken => inserted_trans _ state after kept (insert_node_inserted campaign now _ _ _ state after row taken))
      _ (setInstance s.1 (definition.identifiers s.2) (plannedInstance campaign now)) store
      ⟨rfl, fun factory => ⟨factory.runners, factory.nodes⟩⟩ placed

theorem insert_definition_inserted (s next : Store Digest) (definition : TaskDefinition)
    (done : insertDefinition sha256 campaign now s definition = .ok next) : Inserted s next := by
  unfold insertDefinition at done
  split at done
  · cases done
  · obtain ⟨_, _, opened⟩ := (bind_ok _ _ _).mp done
    obtain ⟨table, _, opened⟩ := (bind_ok _ _ _).mp opened
    obtain ⟨⟨store, count⟩, placed, opened⟩ := (bind_ok _ _ _).mp opened
    have kept := fold_keeps (insertInstance campaign now definition table) (fun after => Inserted s after.1)
      (fun state row after kept taken => inserted_trans s state.1 after.1 kept
        (insert_instance_inserted campaign now definition table state after row taken)) _ (s, 0) (store, count) (inserted_refl s) placed
    cases opened
    exact kept

theorem create_workload_inserted (s next : Store Digest) (runners : List PlainRunner) (definitions : List TaskDefinition)
    (done : createWorkload sha256 s campaign now runners definitions = .ok next) : Inserted s next := by
  obtain ⟨created, inserted, opened⟩ := (bind_ok _ _ _).mp done
  obtain ⟨staffed, manned, opened⟩ := (bind_ok _ _ _).mp opened
  have first : Inserted s created := by
    unfold insertCampaign at inserted
    split at inserted
    · cases inserted
    · cases inserted
      exact ⟨rfl, fun factory => ⟨factory.runners, factory.nodes⟩⟩
  have second := insert_runners_inserted (some campaign) runners created staffed manned
  have third := fold_keeps (insertDefinition sha256 campaign now) (Inserted staffed)
    (fun state definition after kept taken => inserted_trans staffed state after kept
      (insert_definition_inserted sha256 campaign now state after definition taken)) definitions staffed next (inserted_refl staffed) opened
  exact inserted_trans s staffed next (inserted_trans s created staffed first second) third

end Insertions

section Steps

variable (sha256 : Sha256) (zones : Zones) (digest : Json → Digest)

theorem keeps_same (s next : Store Digest)
    (kept : ∀ id runner, s.runners.get id = some runner → next.runners.get id = some runner) : RunnersKeep s next :=
  fun id before read => ⟨before, kept id before read, rfl⟩

theorem call_keeps (s : Store Digest) (call : Call Digest) (inv : TaskInvariant s) : RunnersKeep s (perform digest s call).1 := by
  intro id before read
  obtain ⟨after, found, moved⟩ := (call_goes digest s call inv).runners id before read
  exact ⟨after, found, moved.template⟩

theorem call_factory (s : Store Digest) (call : Call Digest) (inv : TaskInvariant s) (factory : FactoryRows s) :
    FactoryRows (perform digest s call).1 := by
  have goes := call_goes digest s call inv
  constructor
  · intro id after read
    cases known : s.runners.get id with
    | some before =>
        obtain ⟨kept, found, moved⟩ := goes.runners id before known
        cases Option.some.inj (read.symm.trans found)
        rw [moved.template]
        exact factory.runners id before known
    | none =>
        obtain ⟨nid, node, found, template⟩ := goes.origins id after read known
        rw [template]
        exact factory.nodes nid node found
  · intro id after read
    obtain ⟨before, found, gone⟩ := goes.places id after read
    rw [gone.template]
    exact factory.nodes id before found

def RowsSound (s : Store Digest) : Prop := WorkerRows s ∧ FactoryRows s

theorem campaign_worker_rows (s next : CampaignState Digest) (event : CampaignEvent Digest) (inv : CampaignInvariant s)
    (rows : RowsSound s.store) (taken : campaignStep sha256 zones digest s event = some next) : RowsSound next.store := by
  obtain ⟨rank, sound⟩ := inv.sound
  obtain ⟨workers, factory⟩ := rows
  have inserts (kept : ∀ id runner, s.store.runners.get id = some runner → next.store.runners.get id = some runner)
      (inserted : Inserted s.store next.store) : RowsSound next.store :=
    ⟨change_keeps s.store next.store workers (keeps_same s.store next.store kept) (.same inserted.workers), inserted.factory factory⟩
  have calls (call : Call Digest) (same : next.store = (perform digest s.store call).1) : RowsSound next.store := by
    rw [same]
    exact ⟨change_keeps s.store _ workers (call_keeps digest s.store call sound.tasks) (call_change digest s.store call workers),
      call_factory digest s.store call sound.tasks factory⟩
  cases store_effect sha256 zones digest s next event taken with
  | kept _ same =>
      rw [same]
      exact ⟨workers, factory⟩
  | created campaign done =>
      obtain ⟨_, same, _⟩ := campaign_inserted campaign s.store next.store ⟨rank, sound⟩ done
      rw [same]
      exact ⟨⟨workers.stamped, workers.owned, workers.room⟩, ⟨factory.runners, factory.nodes⟩⟩
  | submitted campaign now createdBy runners plans definitions done =>
      obtain ⟨_, _, _, adds, _⟩ := workload_created sha256 campaign now s.store next.store runners definitions ⟨rank, sound⟩ done
      exact inserts adds.runners (create_workload_inserted sha256 campaign now s.store next.store runners definitions done)
  | requested owner runners done =>
      obtain ⟨_, _, _, _, kept, _⟩ := runners_inserted owner runners s.store next.store ⟨rank, sound⟩ done
      exact inserts kept (insert_runners_inserted owner runners s.store next.store done)
  | emitted id index runner now row dispatch _ _ done =>
      have inserted : [runner].foldlM (insertRunner (some dispatch.campaign)) s.store = .ok next.store :=
        (fold_ok _ _ _ _ _).mpr ⟨next.store, done, rfl⟩
      obtain ⟨_, _, _, _, kept, _⟩ := runners_inserted (some dispatch.campaign) [runner] s.store next.store ⟨rank, sound⟩ inserted
      exact inserts kept (insert_runners_inserted _ [runner] s.store next.store inserted)
  | cancelled campaign now same => exact calls (.requestCancelCampaign now campaign) same
  | called call _ same => exact calls call same

theorem run_worker_rows (events : List (CampaignEvent Digest)) (s : CampaignState Digest)
    (reached : run (campaignStep sha256 zones digest) emptyState events = some s) : RowsSound s.store := by
  have kept := run_invariant (campaignStep sha256 zones digest) (fun s => CampaignInvariant s ∧ RowsSound s.store)
    (fun state event next held taken => ⟨(campaign_step_sound sha256 zones digest state next held.1 event taken).1,
      campaign_worker_rows sha256 zones digest state next event held.1 held.2 taken⟩)
    events emptyState s
    ⟨empty_invariant, ⟨(fun key worker read => by cases read), (fun key worker read => by cases read), fun id runner read => by cases read⟩,
      ⟨(fun id runner read => by cases read), fun id node read => by cases read⟩⟩
    reached
  exact kept.2

end Steps

end LlmperfOrchestrator.Campaign

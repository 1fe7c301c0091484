import LlmperfOrchestrator.Campaign.PendingWork
import LlmperfOrchestrator.Storage.OverlapSteps

set_option autoImplicit false

namespace LlmperfOrchestrator.Campaign

open Tables Outcomes Storage Plans Runs

open Compiler (Sha256)
open Runtime.Recurrence (Zones)

structure PlannedState (Digest : Type) [DecidableEq Digest] where
  database : Concurrent.Database
  store : Store Digest

inductive PlannedEvent (Digest : Type) where
  | planner (event : Concurrent.Event)
  | createCampaign (campaign : CampaignId)
  | createWorkload (campaign : CampaignId) (now : Instant) (runners : List PlainRunner) (definitions : List TaskDefinition)
  | createRunners (campaign : Option CampaignId) (runners : List PlainRunner)
  | call (call : Call Digest)

section State

variable {Digest : Type} [DecidableEq Digest]

def plannedStart : PlannedState Digest :=
  ⟨Concurrent.empty, ⟨none, [], Table.empty, Table.empty, Table.empty, Table.empty, Table.empty, []⟩⟩

def syncRunner (store : Store Digest) (runner : PlanRunner) : PlanRunner :=
  { runner with status := ((store.runners.get runner.id).map Runner.status).getD runner.status }

def syncRows (store : Store Digest) (rows : PlanRows) : PlanRows :=
  { rows with runners := rows.runners.map (syncRunner store) }

def syncPlans (store : Store Digest) (plans : PlanTable) : PlanTable :=
  plans.map fun entry => (entry.1, syncRows store entry.2)

def newRunners (db : Concurrent.Database) (sid : Concurrent.SessionId) : List PlanRunner :=
  match db.sessions sid with
  | .planning planning => planning.work.flatMap fun entry => entry.2.runners
  | .idle | .changing _ => []

-- The round of the metadata and the benchmark of the template are
-- columns of the row too.
def insertPlanRunner (columns : PlanRunner → Option Nat × StoredBenchmark) (store : Store Digest) (runner : PlanRunner) :
    Except String (Store Digest) :=
  insertRunner (some runner.campaign) store ⟨runner.id, (columns runner).1, (columns runner).2⟩

-- A commit of materialize_due_work inserts its Runner rows or rolls back.
def plannerStep (zones : Zones) (columns : PlanRunner → Option Nat × StoredBenchmark) (s : PlannedState Digest) (event : Concurrent.Event) :
    Option (PlannedState Digest) :=
  match event with
  | .runnerStatus _ _ _ => none
  | .commitPlanning sid =>
      match Concurrent.step zones s.database (.commitPlanning sid) with
      | none => none
      | some database =>
          match (newRunners s.database sid).foldlM (insertPlanRunner columns) s.store with
          | .error _ => some { s with database := s.database.finish sid }
          | .ok store => some ⟨database, store⟩
  | event => (Concurrent.step zones s.database event).map fun database => { s with database := database }

def onStore (s : PlannedState Digest) (outcome : Except String (Store Digest)) : PlannedState Digest :=
  match outcome with
  | .error _ => s
  | .ok store => ⟨{ s.database with committed := syncPlans store s.database.committed }, store⟩

def plannedStep (sha256 : Sha256) (zones : Zones) (digest : Json → Digest) (columns : PlanRunner → Option Nat × StoredBenchmark)
    (s : PlannedState Digest) : PlannedEvent Digest → Option (PlannedState Digest)
  | .planner event => plannerStep zones columns s event
  | .createCampaign campaign => some (onStore s (insertCampaign s.store campaign))
  | .createWorkload campaign now runners definitions =>
      some (onStore s (createWorkload sha256 s.store campaign now runners definitions))
  | .createRunners campaign runners =>
      if ∃ owner ∈ campaign, owner ∉ s.store.campaigns then some s
      else some (onStore s (runners.foldlM (insertRunner campaign) s.store))
  | .call call => some (onStore s (.ok (perform digest s.store call).1))

end State

section

open Compiler (Sha256)
open Runtime.Recurrence (Zones)

variable {Digest : Type} [DecidableEq Digest]

structure Lasting (s next : Store Digest) : Prop where
  sound : Sound next
  runners : ∀ id before, s.runners.get id = some before → ∃ after, next.runners.get id = some after ∧
    (before.status.terminal = true → after.status.terminal = true)

def Synced (store : Store Digest) (plans : PlanTable) : Prop :=
  ∀ id rows, Dict.get id plans = some rows → ∀ runner ∈ rows.runners,
    ∃ stored, store.runners.get runner.id = some stored ∧ stored.status = runner.status

variable (store : Store Digest)

theorem sync_status (runner : PlanRunner) (stored : Runner) (read : store.runners.get runner.id = some stored) :
    (syncRunner store runner).status = stored.status := by
  rw [syncRunner, read]
  rfl

theorem sync_plans_get (plans : PlanTable) (id : PlanId) :
    Dict.get id (syncPlans store plans) = (Dict.get id plans).map (syncRows store) :=
  dict_get_map (fun (_ : PlanId) rows => syncRows store rows) plans id

theorem sync_plans_keys (plans : PlanTable) : Dict.keys (syncPlans store plans) = Dict.keys plans := by
  rw [syncPlans, Dict.keys, List.map_map]
  rfl

theorem sync_same_books (rows : PlanRows) : Concurrent.SameBooks rows (syncRows store rows) := by
  refine ⟨rfl, rfl, rfl, rfl, rfl, rfl, ?_⟩
  rw [syncRows, List.map_map]
  rfl

section Lasts

variable (sha256 : Sha256) (digest : Json → Digest) (s next : Store Digest) (sound : Sound s)
include sound

omit sound in
theorem kept_lasting (after : Sound next) (kept : ∀ id runner, s.runners.get id = some runner → next.runners.get id = some runner) :
    Lasting s next :=
  ⟨after, fun id before read => ⟨before, kept id before read, fun ended => ended⟩⟩

theorem campaign_lasting (campaign : CampaignId) (done : insertCampaign s campaign = .ok next) : Lasting s next := by
  obtain ⟨_, _, after, adds⟩ := campaign_inserted campaign s next sound done
  exact kept_lasting s next after adds.runners

theorem workload_lasting (campaign : CampaignId) (now : Instant) (runners : List PlainRunner) (definitions : List TaskDefinition)
    (done : createWorkload sha256 s campaign now runners definitions = .ok next) : Lasting s next := by
  obtain ⟨_, _, after, adds, _⟩ := workload_created sha256 campaign now s next runners definitions sound done
  exact kept_lasting s next after adds.runners

theorem runners_lasting (owner : Option CampaignId) (runners : List PlainRunner)
    (done : runners.foldlM (insertRunner owner) s = .ok next) : Lasting s next := by
  obtain ⟨after, _, _, _, kept, _⟩ := runners_inserted owner runners s next sound done
  exact kept_lasting s next after kept

theorem call_lasting (call : Call Digest) : Lasting s (perform digest s call).1 := by
  obtain ⟨rank, progress⟩ := sound
  refine ⟨⟨rank, progress_step digest s rank call progress⟩, ?_⟩
  intro id before read
  obtain ⟨after, found, moves⟩ := (call_goes digest s call progress.tasks).runners id before read
  refine ⟨after, found, ?_⟩
  intro ended
  rw [moves.terminal ended]
  exact ended

end Lasts

theorem active_status (status : RunnerStatus) : (status = .queued ∨ status = .running) ↔ status.terminal = false := by
  cases status <;> simp [RunnerStatus.terminal]

theorem sync_calmer (s next : Store Digest) (lasting : Lasting s next) (plans : PlanTable) (synced : Synced s plans) (id : PlanId)
    (rows : PlanRows) (there : Dict.get id plans = some rows) : Concurrent.Calmer rows (syncRows next rows) := by
  refine ⟨rfl, rfl, ?_⟩
  rw [PlanRows.activeRunners, PlanRows.activeRunners, syncRows, List.countP_map]
  apply List.countP_mono_left
  intro runner member active
  obtain ⟨stored, read, same⟩ := synced id rows there runner member
  obtain ⟨after, found, ended⟩ := lasting.runners runner.id stored read
  rw [Function.comp_apply, sync_status next runner after found, decide_eq_true_eq, active_status] at active
  rw [decide_eq_true_eq, active_status, ← same]
  cases terminal : stored.status.terminal with
  | false => rfl
  | true =>
      rw [ended terminal] at active
      cases active

theorem sync_synced (s next : Store Digest) (lasting : Lasting s next) (plans : PlanTable) (synced : Synced s plans) :
    Synced next (syncPlans next plans) := by
  intro id rows read
  rw [sync_plans_get] at read
  obtain ⟨before, there, rfl⟩ := Option.map_eq_some_iff.mp read
  intro runner member
  obtain ⟨old, listed, rfl⟩ := List.mem_map.mp member
  obtain ⟨stored, held, _⟩ := synced id before there old listed
  obtain ⟨after, found, _⟩ := lasting.runners old.id stored held
  exact ⟨after, found, (sync_status next old after found).symm⟩

theorem plan_runners_inserted (columns : PlanRunner → Option Nat × StoredBenchmark) (runners : List PlanRunner) (s next : Store Digest)
    (sound : Sound s) (done : runners.foldlM (insertPlanRunner columns) s = .ok next) :
    Sound next ∧ (∀ id runner, s.runners.get id = some runner → next.runners.get id = some runner) ∧
      ∀ runner ∈ runners, ∃ stored, next.runners.get runner.id = some stored ∧ stored.status = .queued := by
  induction runners generalizing s with
  | nil =>
      cases (fold_nil _ _ _).mp done
      exact ⟨sound, fun _ _ read => read, fun runner member => by cases member⟩
  | cons first rest ih =>
      obtain ⟨middle, inserted, done⟩ := (fold_ok _ _ _ _ _).mp done
      obtain ⟨soundMiddle, free, same⟩ := runner_inserted (some first.campaign) s middle _ sound inserted
      obtain ⟨soundNext, kept, queued⟩ := ih middle soundMiddle done
      refine ⟨soundNext, ?_, ?_⟩
      · intro id runner read
        apply kept
        rw [same]
        exact (table_get_put_other _ _ _ _ (other_than_free s.runners first.id id runner free read)).trans read
      · intro runner member
        cases List.mem_cons.mp member with
        | inl here =>
            refine ⟨plainRow (some first.campaign) ⟨first.id, (columns first).1, (columns first).2⟩, ?_, rfl⟩
            apply kept
            rw [same, here]
            exact table_get_put_self _ _ _
        | inr later => exact queued runner later

structure PlannedInvariant (zones : Zones) (s : PlannedState Digest) : Prop where
  consistent : Concurrent.Consistent zones s.database
  single : Concurrent.Single s.database
  sound : Sound s.store
  synced : Synced s.store s.database.committed

theorem planned_start (zones : Zones) : PlannedInvariant zones (plannedStart : PlannedState Digest) := by
  refine ⟨Concurrent.empty_consistent zones, ⟨?_, ?_⟩, empty_invariant.sound, ?_⟩
  · intro id rows read
    cases read
  · intro sid planning active
    cases active
  · intro id rows read
    cases read

section Steps

variable (sha256 : Sha256) (zones : Zones) (digest : Json → Digest) (columns : PlanRunner → Option Nat × StoredBenchmark)
  (s : PlannedState Digest)

theorem on_store_planned (inv : PlannedInvariant zones s) (next : Store Digest) (lasting : Lasting s.store next) :
    PlannedInvariant zones (onStore s (.ok next)) := by
  have calm : ∀ id rows, Dict.get id s.database.committed = some rows → Concurrent.Calmer rows (syncRows next rows) :=
    fun id rows there => sync_calmer s.store next lasting s.database.committed inv.synced id rows there
  refine ⟨⟨⟨⟨?_, ?_⟩, ?_⟩, ?_⟩, ⟨?_, ?_⟩, lasting.sound, sync_synced s.store next lasting _ inv.synced⟩
  · intro id later read
    rw [onStore, sync_plans_get] at read
    obtain ⟨rows, there, rfl⟩ := Option.map_eq_some_iff.mp read
    obtain ⟨zone, accounted⟩ := inv.consistent.committed.sound.accounted id rows there
    exact ⟨zone, Concurrent.same_books_accounted zones zone rows _ (sync_same_books next rows) accounted⟩
  · rw [onStore, sync_plans_keys]
    exact inv.consistent.committed.sound.unique
  · intro id later read
    rw [onStore, sync_plans_get] at read
    obtain ⟨rows, there, rfl⟩ := Option.map_eq_some_iff.mp read
    exact inv.consistent.committed.settled id rows there
  · intro sid
    apply Concurrent.session_undisturbed zones s.database _ sid _ _ (inv.consistent.sessions sid)
    refine ⟨fun _ held => held, ?_⟩
    intro id rows _ there
    refine ⟨syncRows next rows, ?_, sync_same_books next rows⟩
    rw [onStore, sync_plans_get, there]
    rfl
  · intro id later read policy
    rw [onStore, sync_plans_get] at read
    obtain ⟨rows, there, rfl⟩ := Option.map_eq_some_iff.mp read
    exact Nat.le_trans (Concurrent.calmer_outstanding _ _ (calm id rows there)) (inv.single.committed id rows there policy)
  · intro sid planning active
    apply Concurrent.planning_calmer s.database _ planning (inv.single.sessions sid planning active)
    intro id work later _ read
    rw [onStore, sync_plans_get] at read
    obtain ⟨rows, there, rfl⟩ := Option.map_eq_some_iff.mp read
    exact ⟨rows, there, calm id rows there⟩

theorem outcome_planned (inv : PlannedInvariant zones s) (outcome : Except String (Store Digest))
    (lasts : ∀ next, outcome = .ok next → Lasting s.store next) : PlannedInvariant zones (onStore s outcome) := by
  cases outcome with
  | error message => exact inv
  | ok next => exact on_store_planned zones s inv next (lasts next rfl)

theorem brought_new (db : Concurrent.Database) (sid : Concurrent.SessionId) (id : PlanId) (runner : PlanRunner)
    (brings : Concurrent.Brings db (.commitPlanning sid) id runner) : runner ∈ newRunners db sid := by
  obtain ⟨other, planning, work, same, active, own, member⟩ := brings
  cases same
  rw [newRunners, active]
  exact List.mem_flatMap.mpr ⟨(id, work), dict_get_mem planning.work id work own, member⟩

theorem brought_queued (single : Concurrent.Single s.database) (consistent : Concurrent.Consistent zones s.database)
    (event : Concurrent.Event) (id : PlanId) (runner : PlanRunner) (brings : Concurrent.Brings s.database event id runner) :
    runner.status = .queued := by
  obtain ⟨sid, planning, work, _, active, own, member⟩ := brings
  have sound : Concurrent.PlanningSound zones s.database sid planning := by
    have here := consistent.sessions sid
    rw [active] at here
    exact here
  obtain ⟨rows, there, _⟩ := sound.works id work own
  exact ((single.sessions sid planning active).works id work rows own there).queued runner member

theorem planner_planned (inv : PlannedInvariant zones s) (next : PlannedState Digest) (event : Concurrent.Event)
    (taken : plannerStep zones columns s event = some next) : PlannedInvariant zones next := by
  have quiet : ∀ database, (∀ id index status, event ≠ .runnerStatus id index status) → (∀ sid, event ≠ .commitPlanning sid) →
      Concurrent.step zones s.database event = some database → PlannedInvariant zones { s with database := database } := by
    intro database planned uncommitted moved
    refine ⟨Concurrent.step_consistent zones s.database database inv.consistent event moved,
      Concurrent.step_single zones s.database database inv.consistent inv.single event planned moved, inv.sound, ?_⟩
    intro id later read runner member
    cases Concurrent.step_runners zones s.database database event planned moved id later read runner member with
    | inl older =>
        obtain ⟨rows, there, listed⟩ := older
        exact inv.synced id rows there runner listed
    | inr brings =>
        obtain ⟨sid, _, _, commits, _⟩ := brings
        exact absurd commits (uncommitted sid)
  cases event with
  | runnerStatus => cases taken
  | commitPlanning sid =>
      rw [plannerStep] at taken
      cases moved : Concurrent.step zones s.database (.commitPlanning sid) with
      | none => rw [moved] at taken; cases taken
      | some database =>
          rw [moved] at taken
          cases inserted : (newRunners s.database sid).foldlM (insertPlanRunner columns) s.store with
          | error message =>
              rw [inserted] at taken
              cases taken
              exact ⟨Concurrent.finish_consistent zones s.database sid inv.consistent,
                Concurrent.single_finish s.database sid inv.single, inv.sound, inv.synced⟩
          | ok store =>
              rw [inserted] at taken
              cases taken
              obtain ⟨sound, kept, queued⟩ := plan_runners_inserted columns _ s.store store inv.sound inserted
              have planned : ∀ id index status, Concurrent.Event.commitPlanning sid ≠ .runnerStatus id index status :=
                fun _ _ _ same => by cases same
              refine ⟨Concurrent.step_consistent zones s.database database inv.consistent _ moved,
                Concurrent.step_single zones s.database database inv.consistent inv.single _ planned moved, sound, ?_⟩
              intro id later read runner member
              cases Concurrent.step_runners zones s.database database _ planned moved id later read runner member with
              | inl older =>
                  obtain ⟨rows, there, listed⟩ := older
                  obtain ⟨stored, found, same⟩ := inv.synced id rows there runner listed
                  exact ⟨stored, kept runner.id stored found, same⟩
              | inr brings =>
                  obtain ⟨stored, found, waits⟩ := queued runner (brought_new s.database sid id runner brings)
                  exact ⟨stored, found,
                    waits.trans (brought_queued zones s inv.single inv.consistent _ id runner brings).symm⟩
  | create | beginPlanning | selectPlans | countRunners | materialize | selectDispatches | emit | flush | beginChange | lockPlan
  | updateDispatches | commitChange | abort =>
      obtain ⟨database, moved, rfl⟩ := Option.map_eq_some_iff.mp taken
      exact quiet database (fun _ _ _ same => by cases same) (fun _ same => by cases same) moved

theorem planned_step_invariant (inv : PlannedInvariant zones s) (next : PlannedState Digest) (event : PlannedEvent Digest)
    (taken : plannedStep sha256 zones digest columns s event = some next) : PlannedInvariant zones next := by
  cases event with
  | planner event => exact planner_planned zones columns s inv next event taken
  | createCampaign campaign =>
      cases taken
      exact outcome_planned zones s inv _ fun after done => campaign_lasting s.store after inv.sound campaign done
  | createWorkload campaign now runners definitions =>
      cases taken
      exact outcome_planned zones s inv _ fun after done =>
        workload_lasting sha256 s.store after inv.sound campaign now runners definitions done
  | createRunners campaign runners =>
      rw [plannedStep] at taken
      split at taken
      · cases taken
        exact inv
      · cases taken
        exact outcome_planned zones s inv _ fun after done => runners_lasting s.store after inv.sound campaign runners done
  | call call =>
      cases taken
      exact on_store_planned zones s inv _ (call_lasting digest s.store inv.sound call)

end Steps

theorem planned_run (sha256 : Sha256) (zones : Zones) (digest : Json → Digest) (columns : PlanRunner → Option Nat × StoredBenchmark)
    (events : List (PlannedEvent Digest)) (s : PlannedState Digest)
    (reached : run (plannedStep sha256 zones digest columns) plannedStart events = some s) : PlannedInvariant zones s :=
  run_invariant (plannedStep sha256 zones digest columns) (PlannedInvariant zones)
    (fun state event next inv taken => planned_step_invariant sha256 zones digest columns state inv next event taken)
    events plannedStart s (planned_start zones) reached

def openRunners (store : Store Digest) (rows : PlanRows) : Nat :=
  rows.runners.countP fun runner => (store.runners.get runner.id).any fun stored => !stored.status.terminal

theorem open_runners_active (plans : PlanTable) (synced : Synced store plans) (id : PlanId) (rows : PlanRows)
    (there : Dict.get id plans = some rows) : openRunners store rows = rows.activeRunners := by
  rw [openRunners, PlanRows.activeRunners]
  apply List.countP_congr
  intro runner member
  obtain ⟨stored, read, same⟩ := synced id rows there runner member
  rw [read, Option.any_some, same, decide_eq_true_eq, active_status]
  simp

structure OneOutstanding (store : Store Digest) (rows : PlanRows) : Prop where
  single : openRunners store rows + rows.inState .pending ≤ 1
  skipped : rows.plan.skippedCount = (skippedIndices rows.events).length
  once : (skippedIndices rows.events ++ rows.dispatches.map Dispatch.planOccurrence).Perm (List.range rows.plan.occurrenceCursor)

-- What the two queries of a plan's turn find is at least what there is, and a
-- turn that finds something skips each occurrence it passes.
structure SkipsOverlap (store : Store Digest) (rows : PlanRows) (work : Concurrent.Work) (activeRunners : Nat) (done : Materialized) :
    Prop where
  seen : openRunners store rows + Concurrent.activeOwn work ≤ activeRunners
  skips : 0 < activeRunners + (rows.inState .pending + Concurrent.pendingOwn work) →
    done.dispatch = none ∧ done.plan.skippedCount = work.plan.skippedCount + done.consumed.length ∧
      skippedIndices done.events = List.range' work.plan.occurrenceCursor done.consumed.length

theorem turn_skips (zones : Zones) (s : PlannedState Digest) (inv : PlannedInvariant zones s) (sid : Concurrent.SessionId)
    (planning : Concurrent.Planning) (active : s.database.sessions sid = .planning planning) (id : PlanId) (activeRunners : Nat)
    (rest : List PlanId) (phase : planning.phase = .counted id activeRunners rest) (rows : PlanRows) (work : Concurrent.Work)
    (there : Dict.get id s.database.committed = some rows) (own : Dict.get id planning.work = some work)
    (policy : rows.plan.overlapPolicy = .skip) (done : Materialized)
    (result : materializePlan zones id work.plan planning.now activeRunners (rows.inState .pending + Concurrent.pendingOwn work)
      planning.plannerId = .ok done) : SkipsOverlap s.store rows work activeRunners done := by
  have sound : Concurrent.PlanningSound zones s.database sid planning := by
    have here := inv.consistent.sessions sid
    rw [active] at here
    exact here
  have single := inv.single.sessions sid planning active
  have waiting := sound.phase
  rw [phase] at waiting
  obtain ⟨live, _⟩ := waiting.untouched id List.mem_cons_self work own
  obtain ⟨found, here, fine⟩ := sound.works id work own
  cases Option.some.inj (there.symm.trans here)
  obtain ⟨zone, accounted⟩ := fine.accounted
  have spec := materialize_plan_spec ((Concurrent.applied rows work).preview zones zone) id work.plan
    (Concurrent.applied rows work).consumed planning.now activeRunners _ planning.plannerId accounted.timed live done result
  constructor
  · rw [open_runners_active s.store s.database.committed inv.synced id rows there]
    exact single.counted id activeRunners rest phase work rows own there
  · intro outstanding
    have skips : work.plan.overlapPolicy = .skip := ((single.works id work rows own there).policy).trans policy
    have none := (materialize_overlap zones planning.plannerId id work.plan planning.now activeRunners _ done result).2 skips outstanding
    have counted := spec.counted
    have cursor := spec.cursor
    have split := spec.split
    rw [none] at counted split
    simp only [Option.toList_none, List.length_nil, List.map_nil, List.append_nil] at counted split
    exact ⟨none, by omega, split⟩

theorem overlap_skip (sha256 : Sha256) (zones : Zones) (digest : Json → Digest) (columns : PlanRunner → Option Nat × StoredBenchmark)
    (events : List (PlannedEvent Digest)) (s : PlannedState Digest)
    (reached : run (plannedStep sha256 zones digest columns) plannedStart events = some s) :
    (∀ id rows, Dict.get id s.database.committed = some rows → rows.plan.overlapPolicy = .skip → OneOutstanding s.store rows) ∧
    ∀ sid planning, s.database.sessions sid = .planning planning → ∀ id activeRunners rest,
      planning.phase = .counted id activeRunners rest → ∀ rows work, Dict.get id s.database.committed = some rows →
        Dict.get id planning.work = some work → rows.plan.overlapPolicy = .skip → ∀ done,
          materializePlan zones id work.plan planning.now activeRunners (rows.inState .pending + Concurrent.pendingOwn work)
            planning.plannerId = .ok done → SkipsOverlap s.store rows work activeRunners done := by
  have inv := planned_run sha256 zones digest columns events s reached
  constructor
  · intro id rows there policy
    obtain ⟨zone, accounted⟩ := inv.consistent.committed.sound.accounted id rows there
    refine ⟨?_, Concurrent.skipped_counted zones zone rows accounted, accounted.split⟩
    rw [open_runners_active s.store s.database.committed inv.synced id rows there]
    exact inv.single.committed id rows there policy
  · intro sid planning active id activeRunners rest phase rows work there own policy done result
    exact turn_skips zones s inv sid planning active id activeRunners rest phase rows work there own policy done result

def planningPass (now : Int) (targets : List Concurrent.Target) (runner : RunnerId) : List (PlannedEvent Json) :=
  ([.beginPlanning 0 now 10 none, .selectPlans 0 ["plan"], .countRunners 0, .materialize 0, .selectDispatches 0 targets] ++
    targets.map (fun _ => .emit 0 runner) ++ [.flush 0 "plan", .commitPlanning 0] : List Concurrent.Event).map .planner

def overlappingRun : List (PlannedEvent Json) :=
  [.planner (.create "plan" "campaign" ⟨"Etc/UTC", none, none, some 4, ⟨.interval, some 1, none, none, none, none⟩, .skip, 60⟩
      (.dict [("benchmark", .dict [])]) "1" "operator" none 0 0)] ++
    planningPass 0 [.own "plan" 0] "first" ++
    [.planner (.beginChange 1 "plan" .pause 0), .planner (.lockPlan 1), .planner (.updateDispatches 1), .planner (.commitChange 1),
      .call (.startSelected ⟨none, 0, 0⟩ "first" "scheduler"),
      .planner (.beginChange 1 "plan" .resume 0), .planner (.lockPlan 1), .planner (.updateDispatches 1), .planner (.commitChange 1)] ++
    planningPass 1000000 [] "second" ++
    [.call (.finishRunner ⟨none, 0, 0⟩ "first" .failed "stopped")] ++
    planningPass 2000000 [.own "plan" 0] "second"

theorem overlap_skip_overlapping :
    ∃ s, run (plannedStep (fun _ => 0) Runtime.Recurrence.utcOnly id fun _ => (none, .blank)) plannedStart overlappingRun = some s ∧
      (s.database.committed.map fun entry => (entry.1, entry.2.plan.occurrenceCursor, entry.2.plan.emittedCount,
        entry.2.plan.skippedCount, openRunners s.store entry.2)) = [("plan", 3, 2, 1, 1)] ∧
      ∀ id rows, Dict.get id s.database.committed = some rows → rows.plan.overlapPolicy = .skip → OneOutstanding s.store rows := by
  have counted : (run (plannedStep (fun _ => 0) Runtime.Recurrence.utcOnly id fun _ => (none, .blank)) plannedStart overlappingRun).map
      (fun s => s.database.committed.map fun entry => (entry.1, entry.2.plan.occurrenceCursor, entry.2.plan.emittedCount,
        entry.2.plan.skippedCount, openRunners s.store entry.2)) = some [("plan", 3, 2, 1, 1)] := by decide +kernel
  obtain ⟨s, reached, shown⟩ := Option.map_eq_some_iff.mp counted
  exact ⟨s, reached, shown, (overlap_skip (fun _ => 0) Runtime.Recurrence.utcOnly id (fun _ => (none, .blank)) overlappingRun s reached).1⟩

end

end LlmperfOrchestrator.Campaign

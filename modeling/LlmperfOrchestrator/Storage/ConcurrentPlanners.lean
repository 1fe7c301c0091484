import LlmperfOrchestrator.Storage.PlanRuns

set_option autoImplicit false

namespace LlmperfOrchestrator.Storage.Plans

open Tables Runtime.Recurrence

namespace Concurrent

abbrev SessionId := Nat

inductive Target where
  | own (id : PlanId) (index : Nat)
  | stored (id : PlanId) (index : Nat)
deriving DecidableEq, Repr

-- A plan in the identity map of a session, with the rows the session inserts for it. locked tells
-- whether the FOR UPDATE query loaded it; updates are the committed dispatches it has emitted.
structure Work where
  locked : Bool
  plan : RunnerPlan
  dispatches : List Dispatch
  runners : List PlanRunner
  events : List PlanEvent
  consumed : List Int
  updates : List (Nat × RunnerId)

inductive Phase where
  | begun
  | materializing (rest : List PlanId)
  | counted (id : PlanId) (activeRunners : Nat) (rest : List PlanId)
  | emitting (rest : List Target)

-- A transaction of materialize_due_work; func.now() is its start.
structure Planning where
  now : Int
  limit : Nat
  plannerId : Option String
  phase : Phase
  work : Dict PlanId Work

-- A transaction of change_runner_plan: the plan once it is locked and
-- changed, the dispatches once the update of the pending ones has run.
structure Changing where
  id : PlanId
  action : PlanAction
  now : Int
  plan : Option RunnerPlan
  cancels : Option (List Nat)

inductive Session where
  | idle
  | planning (planning : Planning)
  | changing (changing : Changing)

structure Database where
  committed : PlanTable
  planLocks : PlanId → Option SessionId
  dispatchLocks : PlanId × Nat → Option SessionId
  sessions : SessionId → Session

def empty : Database := ⟨[], fun _ => none, fun _ => none, fun _ => .idle⟩

def Database.put (db : Database) (sid : SessionId) (session : Session) : Database :=
  { db with sessions := fun other => if other = sid then session else db.sessions other }

def release {Key : Type} (locks : Key → Option SessionId) (sid : SessionId) : Key → Option SessionId :=
  fun key => if locks key = some sid then none else locks key

def Database.finish (db : Database) (sid : SessionId) : Database :=
  { db.put sid .idle with planLocks := release db.planLocks sid, dispatchLocks := release db.dispatchLocks sid }

def lockable {Key : Type} (locks : Key → Option SessionId) (sid : SessionId) (key : Key) : Bool :=
  locks key = none ∨ locks key = some sid

def lockAll {Key : Type} [DecidableEq Key] (locks : Key → Option SessionId) (sid : SessionId) (keys : List Key) :
    Key → Option SessionId :=
  fun key => if key ∈ keys then some sid else locks key

-- FOR UPDATE SKIP LOCKED sees the rows no other transaction has locked.
def freePlans (db : Database) (sid : SessionId) (now : Int) : List PlanId :=
  (duePlans now db.committed).filter (lockable db.planLocks sid)

def loaded (rows : PlanRows) : Work :=
  ⟨true, rows.plan, [], [], [], [], []⟩

def loadAll (plans : PlanTable) (chosen : List PlanId) : Dict PlanId Work :=
  chosen.filterMap fun id => (Dict.get id plans).map fun rows => (id, loaded rows)

def Work.dueDispatches (now : Int) (work : Work) : List Nat :=
  (List.range work.dispatches.length).filter fun index => ∃ dispatch ∈ work.dispatches[index]?, dispatch.due now

def ownTargets (now : Int) (work : Dict PlanId Work) : List Target :=
  work.flatMap fun entry => (entry.2.dueDispatches now).map (Target.own entry.1)

def storedTargets (db : Database) (sid : SessionId) (now : Int) : List Target :=
  ((Plans.dueDispatches now db.committed).filter (lockable db.dispatchLocks sid)).map fun row => .stored row.1 row.2

def targetOrder (plans : PlanTable) (work : Dict PlanId Work) : Target → Int
  | .own id index => (((Dict.get id work).bind fun own => own.dispatches[index]?).map Dispatch.dueAt).getD 0
  | .stored id index => dueOrder plans (id, index)

def storedRows : List Target → List (PlanId × Nat)
  | [] => []
  | .own _ _ :: rest => storedRows rest
  | .stored id index :: rest => (id, index) :: storedRows rest

def Work.absorb (work : Work) (done : Materialized) : Work :=
  { work with
    plan := done.plan
    dispatches := work.dispatches ++ done.dispatch.toList
    events := work.events ++ done.events
    consumed := work.consumed ++ done.consumed }

def pendingOwn (work : Work) : Nat :=
  work.dispatches.countP fun dispatch => dispatch.state = .pending

def activeOwn (work : Work) : Nat :=
  work.runners.countP fun runner => runner.status = .queued ∨ runner.status = .running

def Work.emitted (work : Work) (dispatch : Dispatch) (runner : PlanRunner) (now : Int) (plannerId : Option String) : Work :=
  { work with
    plan := countEmitted work.plan now
    runners := work.runners ++ [runner]
    events := work.events ++ [emittedEvent runner dispatch plannerId] }

-- _emit_dispatch: session.get finds a plan of the identity map, and reads any other without a lock.
def emitTarget (plans : PlanTable) (planning : Planning) (target : Target) (runner : RunnerId) :
    Except String (Dict PlanId Work) :=
  match target with
  | .own id index =>
      match Dict.get id planning.work with
      | none => .error "Dispatch has no owning RunnerPlan"
      | some work =>
          match work.dispatches[index]? with
          | none => .error "no such dispatch"
          | some dispatch => (fromDispatch dispatch runner work.plan.runtime).map fun made =>
              Dict.put id { work.emitted dispatch made planning.now planning.plannerId with
                dispatches := work.dispatches.set index (emittedDispatch dispatch made.id planning.now) } planning.work
  | .stored id index =>
      match Dict.get id plans with
      | none => .error "Dispatch has no owning RunnerPlan"
      | some rows =>
          let work := (Dict.get id planning.work).getD { loaded rows with locked := false }
          match rows.dispatches[index]? with
          | none => .error "no such dispatch"
          | some dispatch => (fromDispatch dispatch runner work.plan.runtime).map fun made =>
              Dict.put id { work.emitted dispatch made planning.now planning.plannerId with
                updates := work.updates ++ [(index, made.id)] } planning.work

def writtenPlan (current : RunnerPlan) (work : Work) : RunnerPlan :=
  if work.locked then work.plan
  else { current with emittedCount := work.plan.emittedCount, updatedAt := work.plan.updatedAt }

def applyUpdates (now : Int) (updates : List (Nat × RunnerId)) (dispatches : List Dispatch) : List Dispatch :=
  updates.foldl (fun rows update => rows.modify update.1 fun dispatch => emittedDispatch dispatch update.2 now) dispatches

def publish (now : Int) (rows : PlanRows) (work : Work) : PlanRows :=
  { rows with
    plan := writtenPlan rows.plan work
    dispatches := applyUpdates now work.updates rows.dispatches ++ work.dispatches
    runners := rows.runners ++ work.runners
    events := rows.events ++ work.events
    consumed := rows.consumed ++ work.consumed }

def publishAll (plans : PlanTable) (planning : Planning) : PlanTable :=
  plans.map fun entry => (entry.1, match Dict.get entry.1 planning.work with
    | none => entry.2
    | some work => publish planning.now entry.2 work)

def pendingRows (rows : PlanRows) : List Nat :=
  (List.range rows.dispatches.length).filter fun index => ∃ dispatch ∈ rows.dispatches[index]?, dispatch.state = .pending

def publishChange (rows : PlanRows) (changing : Changing) (plan : RunnerPlan) (cancels : List Nat) : PlanRows :=
  { rows with
    plan := { rows.plan with status := plan.status, updatedAt := plan.updatedAt }
    dispatches := cancels.foldl (fun dispatches index => dispatches.modify index cancelPending) rows.dispatches
    events := rows.events ++ [changeEvent plan changing.action] }

inductive Event where
  | create (id : PlanId) (campaign : CampaignId) (timing : RunnerPlanTiming) (runnerTemplate : Json)
      (templateVersion createdBy : String) (runtime : Option String) (defaultStartsAt now : Int)
  | runnerStatus (id : PlanId) (index : Nat) (status : RunnerStatus)
  | beginPlanning (sid : SessionId) (now : Int) (limit : Nat) (plannerId : Option String)
  | selectPlans (sid : SessionId) (chosen : List PlanId)
  | countRunners (sid : SessionId)
  | materialize (sid : SessionId)
  | selectDispatches (sid : SessionId) (chosen : List Target)
  | emit (sid : SessionId) (runner : RunnerId)
  | flush (sid : SessionId) (id : PlanId)
  | commitPlanning (sid : SessionId)
  | beginChange (sid : SessionId) (id : PlanId) (action : PlanAction) (now : Int)
  | lockPlan (sid : SessionId)
  | updateDispatches (sid : SessionId)
  | commitChange (sid : SessionId)
  | abort (sid : SessionId)

-- A statement of a materialize_due_work transaction. An exception aborts it.
def planningStep (zones : Zones) (db : Database) (sid : SessionId) (planning : Planning) : Event → Option Database
  | .selectPlans _ chosen =>
      match planning.phase with
      | .begun =>
          if Selects (fireOrder db.committed) planning.limit (freePlans db sid planning.now) chosen then
            some { db.put sid (.planning { planning with
                phase := .materializing chosen, work := loadAll db.committed chosen }) with
              planLocks := lockAll db.planLocks sid chosen }
          else none
      | _ => none
  | .countRunners _ =>
      match planning.phase with
      | .materializing (id :: rest) =>
          match Dict.get id db.committed, Dict.get id planning.work with
          | some rows, some work =>
              some (db.put sid (.planning { planning with phase := .counted id (rows.activeRunners + activeOwn work) rest }))
          | _, _ => none
      | _ => none
  | .materialize _ =>
      match planning.phase with
      | .counted id activeRunners rest =>
          match Dict.get id db.committed, Dict.get id planning.work with
          | some rows, some work =>
              match materializePlan zones id work.plan planning.now activeRunners
                  (rows.inState .pending + pendingOwn work) planning.plannerId with
              | .error _ => some (db.finish sid)
              | .ok done => some (db.put sid (.planning { planning with
                  phase := .materializing rest, work := Dict.put id (work.absorb done) planning.work }))
          | _, _ => none
      | _ => none
  | .selectDispatches _ chosen =>
      match planning.phase with
      | .materializing [] =>
          if Selects (targetOrder db.committed planning.work) planning.limit
              (ownTargets planning.now planning.work ++ storedTargets db sid planning.now) chosen then
            some { db.put sid (.planning { planning with phase := .emitting chosen }) with
              dispatchLocks := lockAll db.dispatchLocks sid (storedRows chosen) }
          else none
      | _ => none
  | .emit _ runner =>
      match planning.phase with
      | .emitting (target :: rest) =>
          match emitTarget db.committed planning target runner with
          | .error _ => some (db.finish sid)
          | .ok work => some (db.put sid (.planning { planning with phase := .emitting rest, work }))
      | _ => none
  | .flush _ id =>
      if Dict.get id planning.work ≠ none ∧ lockable db.planLocks sid id then
        some { db with planLocks := lockAll db.planLocks sid [id] }
      else none
  | .commitPlanning _ =>
      match planning.phase with
      | .emitting [] =>
          if ∀ id ∈ Dict.keys planning.work, db.planLocks id = some sid then
            some { db.finish sid with committed := publishAll db.committed planning }
          else none
      | _ => none
  | _ => none

-- A statement of a change_runner_plan transaction; one that is not allowed ends it.
def changingStep (db : Database) (sid : SessionId) (changing : Changing) : Event → Option Database
  | .lockPlan _ =>
      match changing.plan, Dict.get changing.id db.committed with
      | some _, _ => none
      | none, none => some (db.finish sid)
      | none, some rows =>
          if lockable db.planLocks sid changing.id then
            if rows.plan.status ∈ changing.action.allowed then
              some { db.put sid (.changing { changing with plan := some (changedPlan rows.plan changing.action changing.now) })
                with planLocks := lockAll db.planLocks sid [changing.id] }
            else some (db.finish sid)
          else none
  | .updateDispatches _ =>
      match changing.plan, changing.cancels, Dict.get changing.id db.committed with
      | some _, none, some rows =>
          let indices := if changing.action = .cancel then pendingRows rows else []
          let keys := indices.map fun index => (changing.id, index)
          if ∀ key ∈ keys, lockable db.dispatchLocks sid key then
            some { db.put sid (.changing { changing with cancels := some indices }) with
              dispatchLocks := lockAll db.dispatchLocks sid keys }
          else none
      | _, _, _ => none
  | .commitChange _ =>
      match changing.plan, changing.cancels, Dict.get changing.id db.committed with
      | some plan, some cancels, some rows =>
          some { db.finish sid with
            committed := Dict.put changing.id (publishChange rows changing plan cancels) db.committed }
      | _, _, _ => none
  | _ => none

def Event.session : Event → Option SessionId
  | .create .. => none
  | .runnerStatus .. => none
  | .beginPlanning sid .. => some sid
  | .selectPlans sid _ => some sid
  | .countRunners sid => some sid
  | .materialize sid => some sid
  | .selectDispatches sid _ => some sid
  | .emit sid _ => some sid
  | .flush sid _ => some sid
  | .commitPlanning sid => some sid
  | .beginChange sid .. => some sid
  | .lockPlan sid => some sid
  | .updateDispatches sid => some sid
  | .commitChange sid => some sid
  | .abort sid => some sid

def step (zones : Zones) (db : Database) (event : Event) : Option Database :=
  match event with
  | .create id campaign timing runnerTemplate templateVersion createdBy runtime defaultStartsAt now =>
      (Plans.step zones db.committed
        (.create id campaign timing runnerTemplate templateVersion createdBy runtime defaultStartsAt now)).map
          fun committed => { db with committed }
  | .runnerStatus id index status =>
      (Plans.step zones db.committed (.runnerStatus id index status)).map fun committed => { db with committed }
  | .beginPlanning sid now limit plannerId =>
      match db.sessions sid with
      | .idle => some (db.put sid (.planning ⟨now, limit, plannerId, .begun, []⟩))
      | _ => none
  | .beginChange sid id action now =>
      match db.sessions sid with
      | .idle => some (db.put sid (.changing ⟨id, action, now, none, none⟩))
      | _ => none
  | .abort sid =>
      match db.sessions sid with
      | .idle => none
      | _ => some (db.finish sid)
  | event =>
      match event.session with
      | none => none
      | some sid =>
          match db.sessions sid with
          | .idle => none
          | .planning planning => planningStep zones db sid planning event
          | .changing changing => changingStep db sid changing event

end Concurrent

end LlmperfOrchestrator.Storage.Plans

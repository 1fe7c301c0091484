import LlmperfOrchestrator.Library.Outcomes
import LlmperfOrchestrator.Storage.LostUpdates

set_option autoImplicit false

namespace LlmperfOrchestrator.Storage.Plans

open Tables Outcomes Runtime.Recurrence

section Policy
variable (zones : Zones) (plannerId : Option String)

theorem advance_overlap (progress next : Progress) (result : advance zones plannerId progress = .ok next) :
    next.plan.overlapPolicy = progress.plan.overlapPolicy := by
  rw [advance] at result
  by_cases exhausted : planExhausted progress.plan
  · rw [if_pos exhausted] at result
    cases result
    rfl
  · rw [if_neg exhausted] at result
    obtain ⟨⟨candidate, adjustments⟩, _, result⟩ := (bind_ok _ _ _).mp result
    dsimp only at result
    split at result
    · cases result
      rfl
    · cases result
      rfl

theorem skip_misfires_overlap (graceBoundary : Int) (fuel : Nat) (progress next : Progress)
    (result : skipMisfires zones plannerId graceBoundary fuel progress = .ok next) :
    next.plan.overlapPolicy = progress.plan.overlapPolicy := by
  induction fuel generalizing progress with
  | zero =>
      rw [skipMisfires] at result
      split at result
      · cases result
      · cases result
        rfl
  | succ fuel ih =>
      rw [skipMisfires] at result
      split at result
      · obtain ⟨middle, advanced, result⟩ := (bind_ok _ _ _).mp result
        have first := advance_overlap zones plannerId _ middle advanced
        split at result
        · cases result
          exact first
        · exact (ih middle result).trans first
      · cases result
        rfl

theorem materialize_overlap (id : PlanId) (plan : RunnerPlan) (now : Int) (activeRunners pendingDispatches : Nat)
    (done : Materialized)
    (result : materializePlan zones id plan now activeRunners pendingDispatches plannerId = .ok done) :
    done.plan.overlapPolicy = plan.overlapPolicy ∧
      (plan.overlapPolicy = .skip → 0 < activeRunners + pendingDispatches → done.dispatch = none) := by
  rw [materializePlan] at result
  cases due : plan.nextFireAt with
  | none =>
      rw [due] at result
      cases result
  | some nextFireAt =>
      rw [due] at result
      obtain ⟨skipping, skipped, result⟩ := (bind_ok _ _ _).mp result
      have kept := skip_misfires_overlap zones plannerId _ _ _ skipping skipped
      dsimp only at result
      split at result
      · cases result
        exact ⟨kept, fun _ _ => rfl⟩
      · obtain ⟨next, advanced, result⟩ := (bind_ok _ _ _).mp result
        cases result
        refine ⟨(advance_overlap zones plannerId _ next advanced).trans kept, ?_⟩
        intro policy found
        have blocked : shouldEmit plan.overlapPolicy activeRunners pendingDispatches = false := by
          rw [shouldEmit, policy]
          simp
          omega
        rw [blocked]
        rfl

end Policy

def PlanRows.outstanding (rows : PlanRows) : Nat := rows.activeRunners + rows.inState .pending

namespace Concurrent

section Outstanding
variable (rows : PlanRows) (work : Work)

theorem applied_outstanding : (applied rows work).outstanding =
    rows.activeRunners + activeOwn work + (rows.inState .pending + pendingOwn work) := by
  simp only [PlanRows.outstanding, PlanRows.activeRunners, PlanRows.inState, applied, List.countP_append, activeOwn, pendingOwn]

theorem absorbed_outstanding (done : Materialized) (waits : ∀ dispatch ∈ done.dispatch, dispatch.state = .pending) :
    (applied rows (work.absorb done)).outstanding = (applied rows work).outstanding + done.dispatch.toList.length := by
  have all : done.dispatch.toList.countP (fun dispatch => dispatch.state = .pending) = done.dispatch.toList.length := by
    rw [List.countP_eq_length]
    intro dispatch member
    exact decide_eq_true (waits dispatch (Option.mem_toList.mp member))
  have pending : pendingOwn (work.absorb done) = pendingOwn work + done.dispatch.toList.length := by
    rw [pendingOwn, Work.absorb, List.countP_append, all, pendingOwn]
  have active : activeOwn (work.absorb done) = activeOwn work := rfl
  rw [applied_outstanding, applied_outstanding, pending, active]
  omega

theorem emit_own_outstanding (index : Nat) (dispatch : Dispatch) (made : PlanRunner) (now : Int) (plannerId : Option String)
    (read : work.dispatches[index]? = some dispatch) (waits : dispatch.state = .pending) (queued : made.status = .queued) :
    (applied rows (work.emitOwn index dispatch made now plannerId)).outstanding = (applied rows work).outstanding := by
  obtain ⟨inside, here⟩ := List.getElem?_eq_some_iff.mp read
  have waiting : 0 < pendingOwn work := List.countP_pos_iff.mpr ⟨dispatch, List.mem_of_getElem? read, decide_eq_true waits⟩
  have fewer : pendingOwn (work.emitOwn index dispatch made now plannerId) = pendingOwn work - 1 := by
    rw [pendingOwn, Work.emitOwn, List.countP_set inside, here, pendingOwn]
    simp [waits, emittedDispatch]
  have more : activeOwn (work.emitOwn index dispatch made now plannerId) = activeOwn work + 1 := by
    rw [activeOwn, Work.emitOwn, Work.emitted, List.countP_append, List.countP_singleton, activeOwn]
    simp [queued]
  rw [applied_outstanding, applied_outstanding, fewer, more]
  omega

end Outstanding

structure WorkSingle (rows : PlanRows) (work : Work) : Prop where
  policy : work.plan.overlapPolicy = rows.plan.overlapPolicy
  single : rows.plan.overlapPolicy = .skip → (applied rows work).outstanding ≤ 1
  queued : ∀ runner ∈ work.runners, runner.status = .queued

structure PlanningSingle (db : Database) (planning : Planning) : Prop where
  works : ∀ id work rows, Dict.get id planning.work = some work → Dict.get id db.committed = some rows → WorkSingle rows work
  counted : ∀ id activeRunners rest, planning.phase = .counted id activeRunners rest →
    ∀ work rows, Dict.get id planning.work = some work → Dict.get id db.committed = some rows →
      rows.activeRunners + activeOwn work ≤ activeRunners

structure Single (db : Database) : Prop where
  committed : ∀ id rows, Dict.get id db.committed = some rows → rows.plan.overlapPolicy = .skip → rows.outstanding ≤ 1
  sessions : ∀ sid planning, db.sessions sid = .planning planning → PlanningSingle db planning

structure Calmer (rows later : PlanRows) : Prop where
  policy : later.plan.overlapPolicy = rows.plan.overlapPolicy
  pending : later.inState .pending = rows.inState .pending
  active : later.activeRunners ≤ rows.activeRunners

theorem calmer_refl (rows : PlanRows) : Calmer rows rows := ⟨rfl, rfl, Nat.le_refl _⟩

theorem calmer_outstanding (rows later : PlanRows) (calmer : Calmer rows later) : later.outstanding ≤ rows.outstanding := by
  have pending := calmer.pending
  have active := calmer.active
  rw [PlanRows.outstanding, PlanRows.outstanding]
  omega

theorem work_calmer (rows later : PlanRows) (calmer : Calmer rows later) (work : Work) (single : WorkSingle rows work) :
    WorkSingle later work := by
  refine ⟨single.policy.trans calmer.policy.symm, ?_, single.queued⟩
  intro policy
  have bound := single.single (calmer.policy.symm.trans policy)
  have pending := calmer.pending
  have active := calmer.active
  rw [applied_outstanding] at bound ⊢
  omega

theorem planning_calmer (db next : Database) (planning : Planning) (single : PlanningSingle db planning)
    (calm : ∀ id work later, Dict.get id planning.work = some work → Dict.get id next.committed = some later →
      ∃ rows, Dict.get id db.committed = some rows ∧ Calmer rows later) : PlanningSingle next planning := by
  constructor
  · intro id work later own there
    obtain ⟨rows, here, calmer⟩ := calm id work later own there
    exact work_calmer rows later calmer work (single.works id work rows own here)
  · intro id activeRunners rest phase work later own there
    obtain ⟨rows, here, calmer⟩ := calm id work later own there
    exact Nat.le_trans (Nat.add_le_add_right calmer.active _) (single.counted id activeRunners rest phase work rows own here)

theorem planning_same (db next : Database) (planning : Planning) (single : PlanningSingle db planning)
    (same : next.committed = db.committed) : PlanningSingle next planning := by
  apply planning_calmer db next planning single
  intro id work later _ there
  rw [same] at there
  exact ⟨later, there, calmer_refl later⟩

section Steps
variable (db next : Database) (sid : SessionId) (single : Single db)
include single

theorem single_quiet (same : next.committed = db.committed)
    (sessions : ∀ other, other ≠ sid → next.sessions other = db.sessions other)
    (here : ∀ planning, next.sessions sid = .planning planning → PlanningSingle db planning) : Single next := by
  constructor
  · rw [same]
    exact single.committed
  · intro other planning active
    by_cases mine : other = sid
    · exact planning_same db next planning (here planning (mine ▸ active)) same
    · rw [sessions other mine] at active
      exact planning_same db next planning (single.sessions other planning active) same

theorem single_put (session : Session) (here : ∀ planning, session = .planning planning → PlanningSingle db planning)
    (same : next.committed = db.committed) (sessions : next.sessions = (db.put sid session).sessions) : Single next := by
  apply single_quiet db next sid single same
  · intro other apart
    rw [sessions]
    exact put_session_other db sid other session apart
  · intro planning active
    rw [sessions, put_session] at active
    exact here planning active

theorem single_finish : Single (db.finish sid) := by
  apply single_put db (db.finish sid) sid single .idle
  · intro planning active
    cases active
  · rfl
  · rfl

theorem single_commit (zones : Zones) (consistent : Consistent zones db) (plans : PlanTable)
    (written : ∀ id rows, Dict.get id plans = some rows → rows.plan.overlapPolicy = .skip → rows.outstanding ≤ 1)
    (untouched : ∀ id, db.planLocks id ≠ some sid → Dict.get id plans = Dict.get id db.committed) :
    Single { db.finish sid with committed := plans } := by
  constructor
  · exact written
  · intro other planning active
    by_cases mine : other = sid
    · have idle : (db.finish sid).sessions sid = .idle := put_session db sid .idle
      rw [mine] at active
      cases idle.symm.trans active
    · have before : db.sessions other = .planning planning :=
        (put_session_other db sid other .idle mine).symm.trans active
      have sound : PlanningSound zones db other planning := by
        have here := consistent.sessions other
        rw [before] at here
        exact here
      apply planning_calmer db _ planning (single.sessions other planning before)
      intro id work later own there
      have elsewhere : db.planLocks id ≠ some sid := fun held =>
        mine (Option.some.inj ((sound.held id work own).symm.trans held))
      exact ⟨later, (untouched id elsewhere).symm.trans there, calmer_refl later⟩

end Steps

end Concurrent

end LlmperfOrchestrator.Storage.Plans

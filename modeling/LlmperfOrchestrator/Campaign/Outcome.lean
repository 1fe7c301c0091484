import LlmperfOrchestrator.Campaign.Lifecycle

set_option autoImplicit false

namespace LlmperfOrchestrator.Campaign

open Tables Storage Plans

inductive CampaignStatus where
  | running
  | queued
  | planned
  | paused
  | completed
  | cancelled
  | empty
deriving DecidableEq, Repr

def CampaignStatus.pending : CampaignStatus → Bool
  | .running | .queued | .planned | .paused => true
  | .completed | .cancelled | .empty => false

inductive CampaignOutcome where
  | pending
  | failed
  | partialFailed
  | cancelled
  | noRuns
  | succeeded
deriving DecidableEq, Repr

structure CampaignRuntime where
  status : CampaignStatus
  outcome : CampaignOutcome
  hasFailures : Bool
  runnerCount : Nat
  statusCounts : Dict RunnerStatus Nat
  runnerPlanCount : Nat
  runnerPlanStatusCounts : Dict PlanStatus Nat
  taskInstanceCount : Nat
  taskInstanceStatusCounts : Dict InstanceState Nat
  dispatchCount : Nat
  dispatchStatusCounts : Dict NodeState Nat
deriving DecidableEq, Repr

section Counters

variable (statuses : List RunnerStatus) (planStatuses : List PlanStatus) (taskStatuses : List InstanceState)
  (dispatchStatuses : List NodeState)

def counted {Status : Type} [DecidableEq Status] (states statuses : List Status) : Dict Status Nat :=
  states.map fun state => (state, statuses.count state)

def pendingTaskInstances : Nat := taskStatuses.count .planned + taskStatuses.count .active

def pendingDispatches : Nat := dispatchStatuses.count .blocked + dispatchStatuses.count .pending

def runtimeStatus : CampaignStatus :=
  if statuses.count .running ≠ 0 then .running
  else if statuses.count .queued ≠ 0 then .queued
  else if pendingTaskInstances taskStatuses ≠ 0 ∨ pendingDispatches dispatchStatuses ≠ 0 then .planned
  else if planStatuses.count .active ≠ 0 then .planned
  else if planStatuses.count .paused ≠ 0 then .paused
  else if statuses.length = 0 ∧ planStatuses.length = 0 then
    if taskStatuses.length ≠ 0 then
      if taskStatuses.count .cancelled = taskStatuses.length then .cancelled else .completed
    else if dispatchStatuses.length ≠ 0 then
      if dispatchStatuses.count .cancelled = dispatchStatuses.length then .cancelled else .completed
    else .empty
  else if statuses.length = 0 then
    if planStatuses.count .cancelled = planStatuses.length then .cancelled else .completed
  else if statuses.count .cancelled = statuses.length ∧ (statuses.length ≠ 0 ∨ planStatuses.count .cancelled ≠ 0) then
    .cancelled
  else .completed

def runtimeOutcome (status : CampaignStatus) : CampaignOutcome :=
  if status.pending then .pending
  else if taskStatuses.count .failed ≠ 0 then
    if taskStatuses.count .failed = taskStatuses.length then .failed else .partialFailed
  else if statuses.length = 0 then
    if status = .cancelled then .cancelled else .noRuns
  else if statuses.count .failed = statuses.length then .failed
  else if statuses.count .failed ≠ 0 then .partialFailed
  else if statuses.count .succeeded = statuses.length then .succeeded
  else if statuses.count .cancelled ≠ 0 then .cancelled
  else .noRuns

-- _campaign_runtime
def campaignRuntime : CampaignRuntime :=
  let status := runtimeStatus statuses planStatuses taskStatuses dispatchStatuses
  { status := status
    outcome := runtimeOutcome statuses taskStatuses status
    hasFailures := statuses.count .failed ≠ 0 ∨ taskStatuses.count .failed ≠ 0
    runnerCount := statuses.length
    statusCounts := counted [.queued, .running, .succeeded, .failed, .cancelled] statuses
    runnerPlanCount := planStatuses.length
    runnerPlanStatusCounts := counted [.active, .paused, .completed, .cancelled] planStatuses
    taskInstanceCount := taskStatuses.length
    taskInstanceStatusCounts := counted [.planned, .active, .completed, .failed, .cancelled] taskStatuses
    dispatchCount := dispatchStatuses.length
    dispatchStatusCounts := counted [.blocked, .pending, .emitted, .cancelled] dispatchStatuses }

theorem count_listed {Status : Type} [DecidableEq Status] (status : Status) (listed : List Status) :
    listed.count status ≠ 0 ↔ status ∈ listed := Nat.pos_iff_ne_zero.symm.trans List.count_pos_iff

theorem count_all {Status : Type} [DecidableEq Status] (status : Status) (listed : List Status) :
    listed.count status = listed.length ↔ ∀ other ∈ listed, other = status := by
  rw [List.count_eq_length]
  constructor
  · intro all other member
    exact (all other member).symm
  · intro all other member
    exact (all other member).symm

theorem pending_tasks : pendingTaskInstances taskStatuses ≠ 0 ↔ ∃ state ∈ taskStatuses, state.terminal = false := by
  have both : pendingTaskInstances taskStatuses ≠ 0 ↔ .planned ∈ taskStatuses ∨ .active ∈ taskStatuses := by
    rw [← count_listed, ← count_listed, pendingTaskInstances]
    omega
  rw [both]
  constructor
  · intro either
    cases either with
    | inl planned => exact ⟨.planned, planned, rfl⟩
    | inr active => exact ⟨.active, active, rfl⟩
  · intro found
    obtain ⟨state, member, live⟩ := found
    cases state with
    | planned => exact .inl member
    | active => exact .inr member
    | completed | failed | cancelled => cases live

theorem pending_dispatches : pendingDispatches dispatchStatuses ≠ 0 ↔ ∃ state ∈ dispatchStatuses, state.waiting = true := by
  have both : pendingDispatches dispatchStatuses ≠ 0 ↔ .blocked ∈ dispatchStatuses ∨ .pending ∈ dispatchStatuses := by
    rw [← count_listed, ← count_listed, pendingDispatches]
    omega
  rw [both]
  constructor
  · intro either
    cases either with
    | inl blocked => exact ⟨.blocked, blocked, rfl⟩
    | inr pending => exact ⟨.pending, pending, rfl⟩
  · intro found
    obtain ⟨state, member, waiting⟩ := found
    cases state with
    | blocked => exact .inl member
    | pending => exact .inr member
    | emitted | cancelled => cases waiting

theorem pending_status : (runtimeStatus statuses planStatuses taskStatuses dispatchStatuses).pending = true ↔
    (∃ status ∈ statuses, status.terminal = false) ∨ (∃ state ∈ taskStatuses, state.terminal = false) ∨
      (∃ state ∈ dispatchStatuses, state.waiting = true) ∨ .active ∈ planStatuses ∨ .paused ∈ planStatuses := by
  rw [← pending_tasks, ← pending_dispatches, ← count_listed PlanStatus.active, ← count_listed PlanStatus.paused, runtimeStatus]
  by_cases running : statuses.count .running ≠ 0
  · rw [if_pos running]
    exact ⟨fun _ => .inl ⟨.running, (count_listed _ _).mp running, rfl⟩, fun _ => rfl⟩
  rw [if_neg running]
  by_cases queued : statuses.count .queued ≠ 0
  · rw [if_pos queued]
    exact ⟨fun _ => .inl ⟨.queued, (count_listed _ _).mp queued, rfl⟩, fun _ => rfl⟩
  rw [if_neg queued]
  have ended : ¬ ∃ status ∈ statuses, status.terminal = false := by
    intro found
    obtain ⟨status, member, live⟩ := found
    cases status with
    | queued => exact queued ((count_listed _ _).mpr member)
    | running => exact running ((count_listed _ _).mpr member)
    | succeeded | failed | cancelled => cases live
  by_cases waiting : pendingTaskInstances taskStatuses ≠ 0 ∨ pendingDispatches dispatchStatuses ≠ 0
  · rw [if_pos waiting]
    exact ⟨fun _ => .inr (waiting.imp_right .inl), fun _ => rfl⟩
  rw [if_neg waiting]
  by_cases active : planStatuses.count .active ≠ 0
  · rw [if_pos active]
    exact ⟨fun _ => .inr (.inr (.inr (.inl active))), fun _ => rfl⟩
  rw [if_neg active]
  by_cases paused : planStatuses.count .paused ≠ 0
  · rw [if_pos paused]
    exact ⟨fun _ => .inr (.inr (.inr (.inr paused))), fun _ => rfl⟩
  rw [if_neg paused]
  have settled : ¬ ((∃ status ∈ statuses, status.terminal = false) ∨ pendingTaskInstances taskStatuses ≠ 0 ∨
      pendingDispatches dispatchStatuses ≠ 0 ∨ planStatuses.count .active ≠ 0 ∨ planStatuses.count .paused ≠ 0) := by
    rw [not_or, not_or, not_or, not_or]
    obtain ⟨tasks, dispatches⟩ := not_or.mp waiting
    exact ⟨ended, tasks, dispatches, active, paused⟩
  constructor
  · intro held
    split_ifs at held <;> cases held
  · intro found
    exact absurd found settled

theorem succeeded_outcome : (campaignRuntime statuses planStatuses taskStatuses dispatchStatuses).outcome = .succeeded ↔
    (runtimeStatus statuses planStatuses taskStatuses dispatchStatuses).pending = false ∧ statuses ≠ [] ∧
      (∀ status ∈ statuses, status = .succeeded) ∧ .failed ∉ taskStatuses := by
  change runtimeOutcome statuses taskStatuses (runtimeStatus statuses planStatuses taskStatuses dispatchStatuses) = _ ↔ _
  rw [← count_all, ← count_listed, ← List.length_pos_iff, runtimeOutcome]
  constructor
  · intro same
    by_cases pending : (runtimeStatus statuses planStatuses taskStatuses dispatchStatuses).pending = true
    · rw [if_pos pending] at same
      cases same
    rw [if_neg pending] at same
    by_cases broken : taskStatuses.count .failed ≠ 0
    · rw [if_pos broken] at same
      split at same <;> cases same
    rw [if_neg broken] at same
    by_cases unmanned : statuses.length = 0
    · rw [if_pos unmanned] at same
      split at same <;> cases same
    rw [if_neg unmanned] at same
    by_cases failed : statuses.count .failed ≠ 0
    · rw [if_pos failed] at same
      split at same <;> cases same
    rw [if_neg failed, if_neg (by omega)] at same
    by_cases all : statuses.count .succeeded = statuses.length
    · exact ⟨Bool.eq_false_iff.mpr pending, Nat.pos_of_ne_zero unmanned, all, broken⟩
    · rw [if_neg all] at same
      split at same <;> cases same
  · intro held
    obtain ⟨done, manned, all, unbroken⟩ := held
    have unfailed : statuses.count .failed = 0 := by
      apply List.count_eq_zero.mpr
      intro member
      cases (count_all _ _).mp all .failed member
    rw [if_neg (by simp [done]), if_neg unbroken, if_neg (by omega), if_neg (by omega), if_neg (by omega), if_pos all]

end Counters

section Rows

variable {Digest : Type} [DecidableEq Digest]

def runnerStatuses (store : Store Digest) (campaign : CampaignId) : List RunnerStatus :=
  (store.runners.filter fun _ runner => runner.campaign = some campaign).map fun entry => entry.2.status

def planStatuses (plans : Table PlanId PlanRow) (campaign : CampaignId) : List PlanStatus :=
  (plans.filter fun _ row => row.plan.campaign = campaign).map fun entry => entry.2.plan.status

def taskStatuses (store : Store Digest) (campaign : CampaignId) : List InstanceState :=
  (store.instances.filter fun _ task => task.campaign = campaign).map fun entry => entry.2.state

-- ExecutionNodeRecord holds the nodes of tasks and the dispatches of plans.
def dispatchStatuses (s : CampaignState Digest) (campaign : CampaignId) : List NodeState :=
  ((s.store.nodes.filter fun _ node => node.campaign = campaign).map fun entry => entry.2.state) ++
    ((s.plans.rows.flatMap fun entry => entry.2.dispatches).filter fun dispatch => dispatch.campaign = campaign).map
      Dispatch.state

def getCampaignStatus (s : CampaignState Digest) (campaign : CampaignId) : Option CampaignRuntime :=
  if campaign ∉ s.store.campaigns then none
  else some (campaignRuntime (runnerStatuses s.store campaign) (planStatuses s.plans campaign) (taskStatuses s.store campaign)
    (dispatchStatuses s campaign))

end Rows

end LlmperfOrchestrator.Campaign

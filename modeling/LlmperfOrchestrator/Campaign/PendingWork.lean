import LlmperfOrchestrator.Campaign.CampaignSteps

set_option autoImplicit false

namespace LlmperfOrchestrator.Campaign

open Tables Outcomes Runs Storage Plans
open Compiler (Sha256)
open Runtime.Recurrence (Zones)

variable {Digest : Type} [DecidableEq Digest]

structure CampaignInvariant (s : CampaignState Digest) : Prop where
  sound : Sound s.store
  owners : ∀ id task, s.store.instances.get id = some task → task.campaign ∈ s.store.campaigns
  selectable : ∀ rid runner, s.store.runners.get rid = some runner → Selectable runner
  scheduled : AllScheduled s.plans

theorem empty_invariant : CampaignInvariant (emptyState : CampaignState Digest) := by
  have instances : ∀ id task, (emptyStore : Store Digest).instances.get id ≠ some task := by
    intro id task read
    cases read
  have nodes : ∀ id node, (emptyStore : Store Digest).nodes.get id ≠ some node := by
    intro id node read
    cases read
  have runners : ∀ id runner, (emptyStore : Store Digest).runners.get id ≠ some runner := by
    intro id runner read
    cases read
  have linked : Linked (emptyStore : Store Digest) :=
    ⟨fun _ _ read => absurd read (nodes _ _), fun _ _ read => absurd read (nodes _ _), fun _ _ read => absurd read (nodes _ _),
      fun _ _ _ read => absurd read (nodes _ _), fun _ _ read => absurd read (runners _ _),
      fun _ _ _ _ _ read => absurd read (nodes _ _), fun _ _ read => absurd read (nodes _ _)⟩
  have tasks : TaskInvariant (emptyStore : Store Digest) :=
    ⟨linked, fun _ _ read => absurd read (instances _ _), fun _ _ read => absurd read (instances _ _)⟩
  refine ⟨⟨fun _ => 0, ⟨tasks, ?_, ?_⟩⟩, ?_, ?_, ?_⟩
  · intro id task read
    exact absurd read (instances id task)
  · intro id node read
    exact absurd read (nodes id node)
  · intro id task read
    exact absurd read (instances id task)
  · intro id runner read
    exact absurd read (runners id runner)
  · intro id row read
    cases read

theorem empty_populated : Populated (emptyStore : Store Digest) := by
  intro id task read
  cases read

section Cancellation

variable (s : Store Digest) (now : Instant) (campaign : CampaignId)

theorem cancelled_campaigns : (requestCancelCampaign s now campaign).campaigns = s.campaigns := by
  rw [requestCancelCampaign]
  split <;> rfl

theorem cancelled_instances (id : InstanceId) (after : TaskInstance)
    (read : (requestCancelCampaign s now campaign).instances.get id = some after) :
    ∃ before, s.instances.get id = some before ∧ after.campaign = before.campaign ∧ (after = before ∨
      (before.campaign = campaign ∧ before.state.terminal = false ∧ after.state = .cancelled)) := by
  rw [requestCancelCampaign] at read
  split at read
  · exact ⟨after, read, rfl, .inl rfl⟩
  · change (s.instances.update _).get id = some after at read
    rw [table_get_update, Option.map_eq_some_iff] at read
    obtain ⟨before, found, same⟩ := read
    rw [← same]
    cases cancel_instance_state campaign before with
    | inl kept => exact ⟨before, found, by rw [kept], .inl kept⟩
    | inr ended => exact ⟨before, found, ended.2.2.2, .inr ⟨ended.1, ended.2.1, ended.2.2.1⟩⟩

theorem cancelled_runners (rid : RunnerId) (after : Runner)
    (read : (requestCancelCampaign s now campaign).runners.get rid = some after) :
    ∃ before, s.runners.get rid = some before ∧ RunnerStep before after := by
  rw [requestCancelCampaign] at read
  split at read
  · exact ⟨after, read, runner_step_refl after⟩
  · change (s.runners.update _).get rid = some after at read
    rw [table_get_update, Option.map_eq_some_iff] at read
    obtain ⟨before, found, same⟩ := read
    exact ⟨before, found, same ▸ cancel_runner_step campaign now before⟩

end Cancellation

section Steps

variable (sha256 : Sha256) (zones : Zones) (digest : Json → Digest) (s next : CampaignState Digest)

def FullSubmission : CampaignEvent Digest → Prop
  | .createWorkload _ _ _ _ _ definitions => ∀ definition ∈ definitions, Fills sha256 definition
  | _ => True

theorem staffed_sound (owner : Option CampaignId) (runners : List PlainRunner) (inv : CampaignInvariant s)
    (scheduled : AllScheduled next.plans) (done : runners.foldlM (insertRunner owner) s.store = .ok next.store) :
    CampaignInvariant next ∧ (Populated s.store → Populated next.store) := by
  obtain ⟨sound, instances, nodes, campaigns, _, fresh⟩ := runners_inserted owner runners s.store next.store inv.sound done
  refine ⟨⟨sound, ?_, ?_, scheduled⟩, ?_⟩
  · rw [instances, campaigns]
    exact inv.owners
  · intro rid runner read
    cases fresh rid runner read with
    | inl older => exact inv.selectable rid runner older
    | inr new => exact fun _ => new.2.2
  · intro populated
    rw [Populated, instances, nodes]
    exact populated

theorem campaign_step_sound (inv : CampaignInvariant s) (event : CampaignEvent Digest)
    (taken : campaignStep sha256 zones digest s event = some next) :
    CampaignInvariant next ∧ (FullSubmission sha256 event → Populated s.store → Populated next.store) := by
  have scheduled := scheduled_step sha256 zones digest s next event inv.scheduled taken
  cases store_effect sha256 zones digest s next event taken with
  | kept _ same =>
      refine ⟨⟨?_, ?_, ?_, scheduled⟩, ?_⟩
      · rw [same]
        exact inv.sound
      · rw [same]
        exact inv.owners
      · rw [same]
        exact inv.selectable
      · intro _ populated
        rw [same]
        exact populated
  | created campaign done =>
      obtain ⟨_, same, sound, _⟩ := campaign_inserted campaign s.store next.store inv.sound done
      refine ⟨⟨sound, ?_, ?_, scheduled⟩, ?_⟩
      · rw [same]
        intro id task read
        exact List.mem_cons_of_mem campaign (inv.owners id task read)
      · rw [same]
        exact inv.selectable
      · intro _ populated
        rw [same]
        exact populated
  | submitted campaign now createdBy runners plans definitions done =>
      obtain ⟨_, known, sound, adds, fills⟩ := workload_created sha256 campaign now s.store next.store runners definitions
        inv.sound done
      refine ⟨⟨sound, ?_, ?_, scheduled⟩, fills⟩
      · intro id task read
        cases adds.newInstances id task read with
        | inl older => exact adds.campaigns _ (inv.owners id task older)
        | inr fresh => exact fresh.1 ▸ known
      · intro rid runner read
        cases adds.newRunners rid runner read with
        | inl older => exact inv.selectable rid runner older
        | inr fresh => exact fun _ => fresh.2
  | requested owner runners done =>
      obtain ⟨inv, populated⟩ := staffed_sound s next owner runners inv scheduled done
      exact ⟨inv, fun _ => populated⟩
  | emitted id index runner now row dispatch read found done =>
      have single : [runner].foldlM (insertRunner (some dispatch.campaign)) s.store = .ok next.store :=
        (fold_ok _ _ _ _ _).mpr ⟨next.store, done, (fold_nil _ _ _).mpr rfl⟩
      obtain ⟨inv, populated⟩ := staffed_sound s next (some dispatch.campaign) [runner] inv scheduled single
      exact ⟨inv, fun _ => populated⟩
  | cancelled campaign now same =>
      obtain ⟨rank, progress⟩ := inv.sound
      refine ⟨⟨⟨rank, ?_⟩, ?_, ?_, scheduled⟩, ?_⟩
      · rw [same]
        exact progress_step digest s.store rank (.requestCancelCampaign now campaign) progress
      · rw [same, cancelled_campaigns]
        intro id task read
        obtain ⟨before, found, kept, _⟩ := cancelled_instances s.store now campaign id task read
        exact kept ▸ inv.owners id before found
      · rw [same]
        intro rid runner read
        obtain ⟨before, found, step⟩ := cancelled_runners s.store now campaign rid runner read
        exact step.selectable (inv.selectable rid before found)
      · intro _ populated
        rw [same]
        exact populated_step digest s.store (.requestCancelCampaign now campaign) progress.tasks populated
  | called call other same =>
      obtain ⟨rank, progress⟩ := inv.sound
      have fates := call_fate digest s.store call progress.tasks other
      refine ⟨⟨⟨rank, ?_⟩, ?_, ?_, scheduled⟩, ?_⟩
      · rw [same]
        exact progress_step digest s.store rank call progress
      · rw [same, call_campaigns]
        intro id task read
        obtain ⟨before, found, campaign, _⟩ := fates.instances id task read
        exact campaign ▸ inv.owners id before found
      · rw [same]
        intro rid after read
        cases found : s.store.runners.get rid with
        | none => exact (fates.fresh rid after read found).1
        | some before =>
            obtain ⟨stepped, there, step⟩ := fates.runners rid before found
            cases Option.some.inj (read.symm.trans there)
            exact step.selectable (inv.selectable rid before found)
      · intro _ populated
        rw [same]
        exact populated_step digest s.store call progress.tasks populated

end Steps

theorem waiting_open (s : Store Digest) (inv : TaskInvariant s) (id : DispatchId) (node : ExecutionNode) (task : TaskInstance)
    (read : s.nodes.get id = some node) (owner : s.instances.get node.taskInstance = some task)
    (waiting : node.state.waiting = true) : task.state.terminal = false := by
  have unstopped : ¬ stopped task := by
    intro halted
    rw [(inv.closed _ task owner halted id node read rfl).1] at waiting
    cases waiting
  cases state : task.state with
  | planned | active => rfl
  | failed => exact absurd (.inl state) unstopped
  | cancelled => exact absurd (.inr state) unstopped
  | completed =>
      rw [(inv.finished _ task owner state id node read rfl).1] at waiting
      cases waiting

section Work

variable (s : CampaignState Digest) (campaign : CampaignId)

inductive CanWork : Prop where
  | runner (rid : RunnerId) (runner : Runner) (read : s.store.runners.get rid = some runner)
      (mine : runner.campaign = some campaign)
      (live : runner.status = .running ∨ (runner.status = .queued ∧ runner.cancelRequested = false)) : CanWork
  | plan (id : PlanId) (row : PlanRow) (read : s.plans.get id = some row) (mine : row.plan.campaign = campaign)
      (live : row.plan.status = .active ∨ row.plan.status = .paused) (due : row.plan.nextFireAt ≠ none) : CanWork
  | dispatch (id : PlanId) (row : PlanRow) (dispatch : Dispatch) (read : s.plans.get id = some row)
      (member : dispatch ∈ row.dispatches) (mine : dispatch.campaign = campaign) (waiting : dispatch.state.waiting = true) :
      CanWork
  | node (id : DispatchId) (node : ExecutionNode) (task : TaskInstance) (read : s.store.nodes.get id = some node)
      (mine : node.campaign = campaign) (waiting : node.state.waiting = true)
      (owner : s.store.instances.get node.taskInstance = some task) (live : task.state.terminal = false) : CanWork
  | task (id : InstanceId) (task : TaskInstance) (read : s.store.instances.get id = some task)
      (mine : task.campaign = campaign) (live : task.state.terminal = false) (moving : Moving s.store id) : CanWork

theorem runner_listed (status : RunnerStatus) : status ∈ runnerStatuses s.store campaign ↔
    ∃ rid runner, s.store.runners.get rid = some runner ∧ runner.campaign = some campaign ∧ runner.status = status := by
  rw [runnerStatuses, table_column s.store.runners _ Runner.status]
  simp only [decide_eq_true_eq]

theorem plan_listed (status : PlanStatus) : status ∈ planStatuses s.plans campaign ↔
    ∃ id row, s.plans.get id = some row ∧ row.plan.campaign = campaign ∧ row.plan.status = status := by
  rw [planStatuses, table_column s.plans _ fun row => row.plan.status]
  simp only [decide_eq_true_eq]

theorem task_listed (state : InstanceState) : state ∈ taskStatuses s.store campaign ↔
    ∃ id task, s.store.instances.get id = some task ∧ task.campaign = campaign ∧ task.state = state := by
  rw [taskStatuses, table_column s.store.instances _ TaskInstance.state]
  simp only [decide_eq_true_eq]

theorem dispatch_listed (state : NodeState) : state ∈ dispatchStatuses s campaign ↔
    (∃ id node, s.store.nodes.get id = some node ∧ node.campaign = campaign ∧ node.state = state) ∨
      ∃ id row dispatch, s.plans.get id = some row ∧ dispatch ∈ row.dispatches ∧ dispatch.campaign = campaign ∧
        dispatch.state = state := by
  rw [dispatchStatuses, List.mem_append]
  apply or_congr
  · rw [table_column s.store.nodes _ ExecutionNode.state]
    simp only [decide_eq_true_eq]
  · rw [List.mem_map]
    constructor
    · intro found
      obtain ⟨dispatch, member, same⟩ := found
      obtain ⟨listed, mine⟩ := List.mem_filter.mp member
      obtain ⟨⟨id, row⟩, stored, inside⟩ := List.mem_flatMap.mp listed
      exact ⟨id, row, dispatch, (table_mem _ _ _).mp stored, inside, of_decide_eq_true mine, same⟩
    · intro found
      obtain ⟨id, row, dispatch, read, inside, mine, same⟩ := found
      refine ⟨dispatch, List.mem_filter.mpr ⟨?_, decide_eq_true mine⟩, same⟩
      exact List.mem_flatMap.mpr ⟨(id, row), (table_mem _ _ _).mpr read, inside⟩

def campaignPending : Bool :=
  (runtimeStatus (runnerStatuses s.store campaign) (planStatuses s.plans campaign) (taskStatuses s.store campaign)
    (dispatchStatuses s campaign)).pending

theorem pending_outcome (runtime : CampaignRuntime) (shown : getCampaignStatus s campaign = some runtime)
    (pending : runtime.outcome = .pending) : campaignPending s campaign = true := by
  rw [getCampaignStatus] at shown
  split at shown
  · cases shown
  · cases shown
    rw [campaignPending]
    cases held : (runtimeStatus (runnerStatuses s.store campaign) (planStatuses s.plans campaign) (taskStatuses s.store campaign)
      (dispatchStatuses s campaign)).pending with
    | true => rfl
    | false =>
        rw [campaignRuntime] at pending
        dsimp only at pending
        rw [runtimeOutcome, if_neg (by simp [held])] at pending
        split_ifs at pending

theorem working_pending (works : CanWork s campaign) : campaignPending s campaign = true := by
  apply (pending_status _ _ _ _).mpr
  cases works with
  | runner rid runner read mine live =>
      left
      refine ⟨runner.status, (runner_listed s campaign _).mpr ⟨rid, runner, read, mine, rfl⟩, ?_⟩
      cases live with
      | inl running => rw [running]; rfl
      | inr queued => rw [queued.1]; rfl
  | plan id row read mine live due =>
      right; right; right
      cases live with
      | inl active => exact .inl ((plan_listed s campaign _).mpr ⟨id, row, read, mine, active⟩)
      | inr paused => exact .inr ((plan_listed s campaign _).mpr ⟨id, row, read, mine, paused⟩)
  | dispatch id row dispatch read member mine waiting =>
      right; right; left
      exact ⟨dispatch.state, (dispatch_listed s campaign _).mpr (.inr ⟨id, row, dispatch, read, member, mine, rfl⟩), waiting⟩
  | node id node task read mine waiting owner live =>
      right; right; left
      exact ⟨node.state, (dispatch_listed s campaign _).mpr (.inl ⟨id, node, read, mine, rfl⟩), waiting⟩
  | task id task read mine live moving =>
      right; left
      exact ⟨task.state, (task_listed s campaign _).mpr ⟨id, task, read, mine, rfl⟩, live⟩

theorem pending_works (inv : CampaignInvariant s) (populated : Populated s.store) (pending : campaignPending s campaign = true) :
    CanWork s campaign := by
  obtain ⟨rank, progress⟩ := inv.sound
  cases (pending_status _ _ _ _).mp pending with
  | inl found =>
      obtain ⟨status, listed, live⟩ := found
      obtain ⟨rid, runner, read, mine, same⟩ := (runner_listed s campaign status).mp listed
      subst same
      apply CanWork.runner rid runner read mine
      cases state : runner.status with
      | running => exact .inl rfl
      | queued => exact .inr ⟨rfl, inv.selectable rid runner read state⟩
      | succeeded | failed | cancelled =>
          rw [state] at live
          cases live
  | inr rest =>
      cases rest with
      | inl found =>
          obtain ⟨state, listed, live⟩ := found
          obtain ⟨id, task, read, mine, same⟩ := (task_listed s campaign state).mp listed
          subst same
          exact .task id task read mine live (progress_unstuck s.store rank progress populated id task read live)
      | inr rest =>
          cases rest with
          | inl found =>
              obtain ⟨state, listed, waiting⟩ := found
              cases (dispatch_listed s campaign state).mp listed with
              | inr planned =>
                  obtain ⟨id, row, dispatch, read, member, mine, same⟩ := planned
                  exact .dispatch id row dispatch read member mine (same ▸ waiting)
              | inl node =>
                  obtain ⟨id, node, read, mine, same⟩ := node
                  subst same
                  obtain ⟨task, owner, _⟩ := progress.tasks.linked.owner id node read
                  apply CanWork.node id node task read mine waiting owner
                  exact waiting_open s.store progress.tasks id node task read owner waiting
          | inr planned =>
              have found : ∃ id row, s.plans.get id = some row ∧ row.plan.campaign = campaign ∧
                  (row.plan.status = .active ∨ row.plan.status = .paused) := by
                cases planned with
                | inl active =>
                    obtain ⟨id, row, read, mine, same⟩ := (plan_listed s campaign _).mp active
                    exact ⟨id, row, read, mine, .inl same⟩
                | inr paused =>
                    obtain ⟨id, row, read, mine, same⟩ := (plan_listed s campaign _).mp paused
                    exact ⟨id, row, read, mine, .inr same⟩
              obtain ⟨id, row, read, mine, live⟩ := found
              exact .plan id row read mine live (inv.scheduled id row read live)

end Work

end LlmperfOrchestrator.Campaign

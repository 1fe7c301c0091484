import LlmperfOrchestrator.Storage.Progress

set_option autoImplicit false

namespace LlmperfOrchestrator.Storage

open Tables Runs Outcomes

variable {Digest : Type} [DecidableEq Digest]

def Marked (runner : Runner) : Prop :=
  runner.status = .failed ∨ runner.status = .cancelled ∨ (runner.status = .running ∧ runner.cancelRequested = true)

def Selectable (runner : Runner) : Prop := runner.status = .queued → runner.cancelRequested = false

structure RunnerStep (before after : Runner) : Prop where
  campaign : after.campaign = before.campaign
  marked : Marked before → Marked after
  selectable : Selectable before → Selectable after

theorem runner_step_refl (runner : Runner) : RunnerStep runner runner := ⟨rfl, id, id⟩

theorem runner_step_trans (a b c : Runner) (first : RunnerStep a b) (second : RunnerStep b c) : RunnerStep a c :=
  ⟨second.campaign.trans first.campaign, fun marked => second.marked (first.marked marked),
    fun selectable => second.selectable (first.selectable selectable)⟩

theorem started_step (runner : Runner) (now : Instant) (owner : String) (queued : runner.status = .queued) :
    RunnerStep runner { runner with status := .running, startedAt := some now, schedulerId := some owner } := by
  refine ⟨rfl, ?_, ?_⟩
  · intro marked
    rw [Marked, queued] at marked
    simp at marked
  · intro _ bad
    cases bad

theorem stopped_step (before after : Runner) (campaign : after.campaign = before.campaign)
    (ends : after.status = .failed ∨ after.status = .cancelled) : RunnerStep before after := by
  refine ⟨campaign, fun _ => ends.imp_right .inl, ?_⟩
  intro _ queued
  cases ends with
  | inl failed => cases queued.symm.trans failed
  | inr cancelled => cases queued.symm.trans cancelled

theorem completed_step (before after : Runner) (campaign : after.campaign = before.campaign)
    (running : before.status = .running) (open_ : before.cancelRequested = false) (ends : after.status.terminal = true) :
    RunnerStep before after := by
  refine ⟨campaign, ?_, ?_⟩
  · intro marked
    rw [Marked, running, open_] at marked
    simp at marked
  · intro _ queued
    rw [queued] at ends
    cases ends

theorem requested_step (runner : Runner) (running : runner.status = .running) :
    RunnerStep runner { runner with cancelRequested := true } := by
  refine ⟨rfl, fun _ => .inr (.inr ⟨running, rfl⟩), ?_⟩
  intro _ queued
  cases running.symm.trans queued

theorem cancel_queued_step (store : Store Digest) (id : InstanceId) (now : Instant) (rid : RunnerId) (runner : Runner) :
    RunnerStep runner (cancelQueued store id now rid runner) := by
  rw [cancelQueued]
  split
  · exact stopped_step runner _ rfl (.inr rfl)
  · exact runner_step_refl runner

theorem cancel_runner_step (campaign : CampaignId) (now : Instant) (runner : Runner) :
    RunnerStep runner (cancelRunner campaign now runner) := by
  rw [cancelRunner]
  split
  · exact runner_step_refl runner
  · rename_i live
    split
    · exact stopped_step runner _ rfl (.inr rfl)
    · rename_i started
      apply requested_step
      cases status : runner.status with
      | queued => exact absurd status started
      | running => rfl
      | succeeded | failed | cancelled => exact absurd (.inr (by rw [status]; rfl)) live

structure Fates (s next : Store Digest) : Prop where
  runners : ∀ rid before, s.runners.get rid = some before → ∃ after, next.runners.get rid = some after ∧ RunnerStep before after
  fresh : ∀ rid after, next.runners.get rid = some after → s.runners.get rid = none → Selectable after ∧ ∃ id task,
    s.instances.get id = some task ∧ task.state.terminal = false ∧ after.campaign = some task.campaign
  instances : ∀ id after, next.instances.get id = some after → ∃ before, s.instances.get id = some before ∧
    after.campaign = before.campaign ∧ (after.state = .cancelled → before.state = .cancelled ∨
      ∃ rid runner, next.runners.get rid = some runner ∧ runner.campaign = some after.campaign ∧ runner.status = .cancelled)

theorem fates_same (s next : Store Digest) (runners : next.runners = s.runners) (instances : next.instances = s.instances) :
    Fates s next := by
  refine ⟨?_, ?_, ?_⟩
  · intro rid before read
    exact ⟨before, runners ▸ read, runner_step_refl before⟩
  · intro rid after read absent
    rw [runners, absent] at read
    cases read
  · intro id after read
    exact ⟨after, instances ▸ read, rfl, .inl⟩

theorem fates_runner (s next : Store Digest) (rid : RunnerId) (old fresh : Runner) (read : s.runners.get rid = some old)
    (step : RunnerStep old fresh) (runners : next.runners = s.runners.put rid fresh) (instances : next.instances = s.instances) :
    Fates s next := by
  refine ⟨?_, ?_, ?_⟩
  · intro query before found
    rw [runners]
    by_cases here : query = rid
    · subst here
      cases Option.some.inj (read.symm.trans found)
      exact ⟨fresh, table_get_put_self _ _ _, step⟩
    · exact ⟨before, (table_get_put_other _ _ _ _ here).trans found, runner_step_refl before⟩
  · intro query after found absent
    rw [runners] at found
    cases table_put_cases _ _ _ _ _ found with
    | inl here =>
        rw [here.1, read] at absent
        cases absent
    | inr older =>
        rw [older.2] at absent
        cases absent
  · intro id after found
    exact ⟨after, instances ▸ found, rfl, .inl⟩

theorem fates_emitted (s : Store Digest) (id : DispatchId) (node : ExecutionNode) (task : TaskInstance) (fresh : RunnerId)
    (dueAt now : Instant) (inv : TaskInvariant s) (read : s.nodes.get id = some node)
    (owner : s.instances.get node.taskInstance = some task) (live : task.state.terminal = false)
    (free : s.runners.get fresh = none) :
    Fates s { s with
      runners := s.runners.put fresh (fromDispatch node)
      nodes := s.nodes.put id { node with dueAt := some dueAt, state := .emitted, runner := some fresh, emittedAt := some now }
      instances := s.instances.put node.taskInstance { task with state := .active } } := by
  refine ⟨?_, ?_, ?_⟩
  · intro rid before held
    have other : rid ≠ fresh := by
      intro same
      rw [same, free] at held
      cases held
    exact ⟨before, (table_get_put_other _ _ _ _ other).trans held, runner_step_refl before⟩
  · intro rid after held absent
    cases table_put_cases _ _ _ _ _ held with
    | inr older =>
        rw [older.2] at absent
        cases absent
    | inl here =>
        obtain ⟨owns, found, campaign⟩ := inv.linked.owner id node read
        cases Option.some.inj (owner.symm.trans found)
        rw [here.2]
        exact ⟨fun _ => rfl, node.taskInstance, task, owner, live, congrArg some campaign.symm⟩
  · intro iid after held
    cases table_put_cases _ _ _ _ _ held with
    | inr older => exact ⟨after, older.2, rfl, .inl⟩
    | inl here =>
        rw [here.1, here.2]
        refine ⟨task, owner, rfl, ?_⟩
        intro cancelled
        cases cancelled

theorem settle_tables (s : Store Digest) (context : TaskContext) (task : TaskInstance) (status : RunnerStatus)
    (evidence : Evidence) (now : Instant) :
    ∃ fresh : TaskInstance, (settleInstance s context task status evidence now).instances =
        s.instances.put context.instanceId fresh ∧
      fresh.campaign = task.campaign ∧ (fresh.state = .cancelled → task.state = .cancelled ∨ status = .cancelled) ∧
      ((settleInstance s context task status evidence now).runners = s.runners ∨ ∃ place : Store Digest,
        (settleInstance s context task status evidence now).runners =
          s.runners.update (cancelQueued place context.instanceId now)) := by
  rw [settleInstance]
  split
  · exact ⟨task, rfl, rfl, .inl, .inl rfl⟩
  split
  · refine ⟨_, rfl, rfl, ?_, .inr ⟨_, rfl⟩⟩
    intro cancelled
    by_cases same : status = .cancelled
    · exact .inr same
    · rw [if_neg same] at cancelled
      cases cancelled
  have advanced : ∀ fresh : TaskInstance, fresh.campaign = task.campaign → ∃ row : TaskInstance,
      (advanceInstance s context.instanceId fresh).instances = s.instances.put context.instanceId row ∧
        row.campaign = task.campaign ∧ (row.state = .cancelled → task.state = .cancelled ∨ status = .cancelled) ∧
        ((advanceInstance s context.instanceId fresh).runners = s.runners ∨ ∃ place : Store Digest,
          (advanceInstance s context.instanceId fresh).runners =
            s.runners.update (cancelQueued place context.instanceId now)) := by
    intro fresh campaign
    refine ⟨_, rfl, campaign, ?_, .inl rfl⟩
    intro cancelled
    dsimp only at cancelled
    split at cancelled <;> cases cancelled
  split
  · exact advanced task rfl
  split
  · refine ⟨_, rfl, rfl, ?_, .inr ⟨_, rfl⟩⟩
    intro cancelled
    cases cancelled
  · exact advanced _ rfl

theorem fates_ended (s closed next : Store Digest) (rid : RunnerId) (old fresh runner : Runner) (status : RunnerStatus)
    (now : Instant) (evidence : Evidence) (requests : List RequestMetrics) (inv : TaskInvariant s)
    (read : s.runners.get rid = some old)
    (done : checkpointTaskResult closed rid runner status now evidence requests = .ok next)
    (runners : closed.runners = s.runners.put rid fresh) (instances : closed.instances = s.instances)
    (nodes : closed.nodes = s.nodes) (live : old.status.terminal = false) (final : fresh.status = status)
    (terminal : status.terminal = true) (template : fresh.template = old.template)
    (same : runner.template = old.template) (step : RunnerStep old fresh) : Fates s next := by
  have placed := end_runner_placed s closed rid old fresh inv read live (final ▸ terminal) template step.campaign runners
    instances nodes
  have ended : closed.runners.get rid = some fresh := by
    rw [runners]
    exact table_get_put_self _ _ _
  have first := fates_runner s closed rid old fresh read step runners instances
  cases checkpoint_cases closed next rid runner fresh status now evidence requests placed.linked ended
    (same.trans template.symm) done with
  | inl void =>
      rw [void.2]
      exact first
  | inr settled =>
      obtain ⟨context, nid, node, task, _, stored, owned, place, found, result⟩ := settled
      obtain ⟨row, sameInstances, campaign, cancels, sameRunners⟩ := settle_tables
        (markedNode closed nid node runner context status evidence now) context
        (recordedTask task runner context status evidence now) status evidence now
      rw [← result] at sameInstances sameRunners
      change next.instances = closed.instances.put _ _ at sameInstances
      change next.runners = closed.runners ∨ ∃ place : Store Digest, next.runners = closed.runners.update _ at sameRunners
      have moved : ∀ query before, closed.runners.get query = some before →
          ∃ after, next.runners.get query = some after ∧ RunnerStep before after ∧
            (before.status.terminal = true → after.status = before.status) := by
        intro query before held
        cases sameRunners with
        | inl kept => exact ⟨before, kept ▸ held, runner_step_refl before, fun _ => rfl⟩
        | inr updated =>
            obtain ⟨place, updated⟩ := updated
            refine ⟨cancelQueued place context.instanceId now query before, ?_, cancel_queued_step _ _ _ _ _,
              (cancel_queued_moves place _ _ _ _).terminal⟩
            rw [updated, table_get_update, held]
            rfl
      refine ⟨?_, ?_, ?_⟩
      · intro query before held
        obtain ⟨middle, there, early⟩ := first.runners query before held
        obtain ⟨after, here, late, _⟩ := moved query middle there
        exact ⟨after, here, runner_step_trans _ _ _ early late⟩
      · intro query after held absent
        have missing := (settle_runner_rows (markedNode closed nid node runner context status evidence now) context
          (recordedTask task runner context status evidence now) status evidence now).2 query
          (no_new_put s closed rid old fresh read runners query absent)
        rw [← result, held] at missing
        cases missing
      · intro id after held
        rw [sameInstances] at held
        cases table_put_cases _ _ _ _ _ held with
        | inr older => exact ⟨after, instances ▸ older.2, rfl, .inl⟩
        | inl here =>
            rw [here.1, ← instances]
            refine ⟨task, found, ?_, ?_⟩
            · rw [here.2]
              exact campaign
            · intro cancelled
              rw [here.2] at cancelled ⊢
              cases cancels cancelled with
              | inl before => exact .inl before
              | inr stopped =>
                  obtain ⟨record, again, _, paid⟩ := placed.linked.runner nid node rid stored owned
                  cases Option.some.inj (ended.symm.trans again)
                  obtain ⟨owner, owns, campaigns⟩ := placed.linked.owner nid node stored
                  rw [place, found] at owns
                  cases owns
                  obtain ⟨after, there, kept, past⟩ := moved rid fresh ended
                  refine .inr ⟨rid, after, there, ?_, ?_⟩
                  · rw [kept.campaign, paid, ← campaigns, campaign]
                    rfl
                  · rw [past (final ▸ terminal), final, stopped]

theorem transact_keeps {Value : Type} (holds : Store Digest → Prop) (s : Store Digest) (reply : Value → Reply Digest)
    (outcome : Except String (Store Digest × Value)) (start : holds s)
    (returned : ∀ next value, outcome = .ok (next, value) → holds next) : holds (transact s reply outcome).1 := by
  cases transact_cases s reply outcome with
  | inl raised =>
      obtain ⟨_, _, same⟩ := raised
      rw [same]
      exact start
  | inr done =>
      obtain ⟨next, value, done, same⟩ := done
      rw [same]
      exact returned next value done

theorem transact_unit_keeps (holds : Store Digest → Prop) (s : Store Digest) (outcome : Except String (Store Digest))
    (start : holds s) (returned : ∀ next, outcome = .ok next → holds next) : holds (transactUnit s outcome).1 := by
  cases transact_unit_cases s outcome with
  | inl raised =>
      obtain ⟨_, _, same⟩ := raised
      rw [same]
      exact start
  | inr done =>
      obtain ⟨next, done, same⟩ := done
      rw [same]
      exact returned next done

theorem call_fate (digest : Json → Digest) (s : Store Digest) (call : Call Digest) (inv : TaskInvariant s)
    (other : ∀ now campaign, call ≠ .requestCancelCampaign now campaign) : Fates s (perform digest s call).1 := by
  have still : Fates s s := fates_same s s rfl rfl
  have worker : workerCall call = true → Fates s (perform digest s call).1 := by
    intro kind
    have same := worker_call_tasks digest s call kind
    exact fates_same s _ same.runners same.instances
  cases call with
  | createWorkers | reserveWorker | commitWorker | publishMessage => exact worker rfl
  | changeLease lease => exact fates_same s _ rfl rfl
  | requestCancelCampaign now campaign => exact absurd rfl (other now campaign)
  | activateNode caller id dueAt fresh =>
      apply transact_keeps (Fates s) s .emitted _ still
      intro next reply done
      cases activate_effect s next caller id dueAt fresh reply done with
      | refused same => exact same ▸ still
      | emitted node task read waiting owner live free same =>
          subst same
          exact fates_emitted s id node task fresh dueAt caller.now inv read owner live free
  | startSelected caller rid owner =>
      apply transact_keeps (Fates s) s .admitted _ still
      intro next reply done
      cases start_effect s next caller rid owner reply done with
      | refused same => exact same ▸ still
      | dropped old read queued same =>
          subst same
          have step : RunnerStep old { old with status := .cancelled, finishedAt := some caller.now } :=
            stopped_step old _ rfl (.inr rfl)
          exact fates_runner s _ rid old _ read step rfl rfl
      | started old messages read queued live same =>
          subst same
          exact fates_runner s _ rid old _ read (started_step old caller.now owner queued) rfl rfl
  | completeRunner caller rid requests status errorMessage =>
      apply transact_keeps (Fates s) s .flag _ still
      intro next reply done
      cases complete_effect s next caller rid requests status errorMessage reply done with
      | refused same => exact same ▸ still
      | completed old read running open_ ends one settled =>
          have terminal : status.terminal = true := by
            cases ends with
            | inl same => rw [same]; rfl
            | inr same => rw [same]; rfl
          have step : RunnerStep old
              { old with status := status, finishedAt := some caller.now, errorMessage := errorMessage } :=
            completed_step old _ rfl running open_ terminal
          exact fates_ended s _ next rid old _ old status caller.now _ requests inv read settled rfl rfl rfl
            (by rw [running]; rfl) rfl terminal rfl rfl step
  | finishRunner caller rid status message =>
      apply transact_keeps (Fates s) s .flag _ still
      intro next reply done
      cases finish_effect s next caller rid status message reply done with
      | refused same => exact same ▸ still
      | finished old read running ends settled =>
          have terminal : status.terminal = true := by
            cases ends with
            | inl same => rw [same]; rfl
            | inr same => rw [same]; rfl
          exact fates_ended s _ next rid old _ _ status caller.now _ [] inv read settled rfl rfl rfl
            (by rw [running]; rfl) rfl terminal rfl rfl (stopped_step old _ rfl ends)
  | requestCancel now rid =>
      apply transact_unit_keeps (Fates s) s _ still
      intro next done
      cases cancel_effect s next now rid done with
      | refused same => exact same ▸ still
      | unstarted old read queued settled =>
          exact fates_ended s _ next rid old _ _ .cancelled now _ [] inv read settled rfl rfl rfl
            (by rw [queued]; rfl) rfl rfl rfl rfl (stopped_step old _ rfl (.inr rfl))
      | requested old read running same =>
          subst same
          exact fates_runner s _ rid old _ read (requested_step old running) rfl rfl

theorem call_campaigns (digest : Json → Digest) (s : Store Digest) (call : Call Digest) :
    (perform digest s call).1.campaigns = s.campaigns := by
  cases call with
  | createWorkers caller rid steps =>
      apply transact_unit_keeps (fun next => next.campaigns = s.campaigns) s _ rfl
      intro next done
      cases create_workers_effect s next caller rid steps done with
      | inl same => rw [same]
      | inr created =>
          obtain ⟨_, _, same⟩ := created
          rw [same]
  | reserveWorker caller rid stepId window =>
      apply transact_keeps (fun next => next.campaigns = s.campaigns) s .flag _ rfl
      intro next reply done
      cases reserve_worker_effect s next caller rid stepId window reply done with
      | inl same => rw [same.2]
      | inr reserved =>
          obtain ⟨_, _, _, _, _, same⟩ := reserved
          rw [same]
  | commitWorker caller rid result =>
      cases perform_commit digest s caller rid result with
      | inl raised =>
          obtain ⟨_, same⟩ := raised
          rw [same]
          rfl
      | inr committed =>
          obtain ⟨next, message, same, effect⟩ := committed
          rw [same]
          cases effect with
          | refused eq => rw [eq]; rfl
          | repeated eq => rw [eq]; rfl
          | recorded record read open_ free eq => rw [eq]; rfl
  | publishMessage caller message =>
      apply transact_keeps (fun next => next.campaigns = s.campaigns) s .flag _ rfl
      intro next reply done
      cases publish_effect s next caller message reply done with
      | untouched same => rw [same]
      | added _ same => rw [same]
      | cancelled stepId worker metadata read created _ same => rw [same]
  | activateNode caller id dueAt fresh =>
      apply transact_keeps (fun next => next.campaigns = s.campaigns) s .emitted _ rfl
      intro next reply done
      cases activate_effect s next caller id dueAt fresh reply done with
      | refused same => rw [same]
      | emitted node task read waiting owner live free same => rw [same]
  | startSelected caller rid owner =>
      apply transact_keeps (fun next => next.campaigns = s.campaigns) s .admitted _ rfl
      intro next reply done
      cases start_effect s next caller rid owner reply done with
      | refused same => rw [same]
      | dropped old read queued same => rw [same]; rfl
      | started old messages read queued live same => rw [same]; rfl
  | completeRunner caller rid requests status errorMessage =>
      apply transact_keeps (fun next => next.campaigns = s.campaigns) s .flag _ rfl
      intro next reply done
      cases complete_effect s next caller rid requests status errorMessage reply done with
      | refused same => rw [same]
      | completed old read running open_ ends one settled => exact (checkpoint_same_work _ _ _ _ _ _ _ _ settled).campaigns
  | finishRunner caller rid status message =>
      apply transact_keeps (fun next => next.campaigns = s.campaigns) s .flag _ rfl
      intro next reply done
      cases finish_effect s next caller rid status message reply done with
      | refused same => rw [same]
      | finished old read running ends settled => exact (checkpoint_same_work _ _ _ _ _ _ _ _ settled).campaigns
  | requestCancel now rid =>
      apply transact_unit_keeps (fun next => next.campaigns = s.campaigns) s _ rfl
      intro next done
      cases cancel_effect s next now rid done with
      | refused same => rw [same]
      | unstarted old read queued settled => exact (checkpoint_same_work _ _ _ _ _ _ _ _ settled).campaigns
      | requested old read running same => rw [same]; rfl
  | requestCancelCampaign now campaign =>
      change (requestCancelCampaign s now campaign).campaigns = s.campaigns
      rw [requestCancelCampaign]
      split <;> rfl
  | changeLease lease => rfl

end LlmperfOrchestrator.Storage

import LlmperfOrchestrator.Storage.TaskInstances

set_option autoImplicit false

namespace LlmperfOrchestrator.Storage

open Tables Runs Outcomes

variable {Digest : Type} [DecidableEq Digest] (digest : Json → Digest)

theorem task_step (s : Store Digest) (call : Call Digest) (next : Store Digest) (inv : TaskInvariant s)
    (taken : step digest s call = some next) : TaskInvariant next := by
  obtain rfl : (perform digest s call).1 = next := Option.some.inj taken
  generalize after : (perform digest s call).1 = next, replied : (perform digest s call).2 = reply
  have effect := task_effect digest s call
  rw [after, replied] at effect
  cases effect with
  | untouched _ _ same => exact invariant_tables s next inv same.runners same.instances same.nodes
  | emitted caller id dueAt fresh effect =>
      cases effect with
      | emitted node task read waiting owned live free same =>
          rw [same]
          exact activate_keeps s caller id dueAt fresh node task inv read waiting owned free
  | dropped caller rid owner runner read queued same =>
      rw [same]
      exact set_runner_keeps s rid runner _ inv read ⟨rfl, rfl, (fun bad => by cases bad), fun past => by rw [queued] at past; cases past⟩
  | started caller rid owner runner messages read queued live same =>
      rw [same]
      exact set_runner_keeps s rid runner _ inv read ⟨rfl, rfl, (fun bad => by cases bad), fun past => by rw [queued] at past; cases past⟩
  | requested now rid runner read running same =>
      rw [same]
      exact set_runner_keeps s rid runner _ inv read ⟨rfl, rfl, id, fun _ => rfl⟩
  | ended _ _ closed rid old fresh runner status now evidence requests read done runners instances nodes open_ final terminal
      template campaign same =>
      exact end_runner_keeps s closed next rid old fresh runner status now evidence requests inv read open_ (final ▸ terminal)
        template campaign same runners instances nodes done
  | campaign now campaign same =>
      rw [same]
      exact campaign_keeps s now campaign inv

def InstancesStay (s next : Store Digest) : Prop :=
  ∀ id task, s.instances.get id = some task → task.state.terminal = true →
    ∃ after, next.instances.get id = some after ∧ after.state = task.state

def RunnersStay (s next : Store Digest) : Prop :=
  ∀ rid after, next.runners.get rid = some after → after.status = .running →
    ∃ before, s.runners.get rid = some before ∧ before.status = .running ∧ before.template = after.template

theorem instances_same (s next : Store Digest) (same : next.instances = s.instances) : InstancesStay s next := by
  intro id task read _
  exact ⟨task, same ▸ read, rfl⟩

theorem instances_put (s next : Store Digest) (id : InstanceId) (old fresh : TaskInstance)
    (read : s.instances.get id = some old) (same : next.instances = s.instances.put id fresh)
    (kept : old.state.terminal = true → fresh.state = old.state) : InstancesStay s next := by
  intro query task found past
  rw [same]
  by_cases here : query = id
  · subst here
    cases Option.some.inj (read.symm.trans found)
    exact ⟨fresh, table_get_put_self _ _ _, kept past⟩
  · exact ⟨task, by rw [table_get_put_other _ _ _ _ here]; exact found, rfl⟩

variable (s : Store Digest)

theorem settle_instances (context : TaskContext) (old task : TaskInstance) (status : RunnerStatus) (evidence : Evidence)
    (now : Instant) (read : s.instances.get context.instanceId = some old) (state : task.state = old.state) :
    InstancesStay s (settleInstance s context task status evidence now) := by
  cases past : old.state.terminal with
  | true =>
      rw [settleInstance, if_pos (state ▸ past)]
      exact instances_put s _ context.instanceId old task read rfl fun _ => state
  | false =>
      have open_ : ∀ fresh : TaskInstance, old.state.terminal = true → fresh.state = old.state := by
        intro fresh bad
        rw [past] at bad
        cases bad
      unfold settleInstance
      split
      · exact instances_put s _ context.instanceId old _ read rfl (open_ _)
      · split
        · exact instances_put s _ context.instanceId old _ read rfl (open_ _)
        · split
          · exact instances_put s _ context.instanceId old _ read rfl (open_ _)
          · split <;> exact instances_put s _ context.instanceId old _ read rfl (open_ _)

theorem runners_same (s next : Store Digest) (same : next.runners = s.runners) : RunnersStay s next := by
  intro rid after read running
  exact ⟨after, same ▸ read, running, rfl⟩

theorem runners_update (s next : Store Digest) (change : RunnerId → Runner → Runner)
    (kept : ∀ rid runner, (change rid runner).status = .running → runner.status = .running)
    (moves : ∀ rid runner, RunnerMoves runner (change rid runner)) (same : next.runners = s.runners.update change) : RunnersStay s next := by
  intro rid after read running
  rw [same, table_get_update, Option.map_eq_some_iff] at read
  obtain ⟨before, found, changed⟩ := read
  exact ⟨before, found, kept rid before (changed ▸ running), changed ▸ (moves rid before).template.symm⟩

theorem runners_put (s next : Store Digest) (id : RunnerId) (fresh : Runner) (same : next.runners = s.runners.put id fresh)
    (kept : fresh.status = .running →
      ∃ old, s.runners.get id = some old ∧ old.status = .running ∧ old.template = fresh.template) : RunnersStay s next := by
  intro rid after read running
  rw [same] at read
  rcases table_put_cases _ _ _ _ _ read with ⟨rfl, rfl⟩ | ⟨_, found⟩
  · exact kept running
  · exact ⟨after, found, running, rfl⟩

theorem cancel_queued_running (id : InstanceId) (now : Instant) (rid : RunnerId) (runner : Runner)
    (running : (cancelQueued s id now rid runner).status = .running) : runner.status = .running := by
  unfold cancelQueued at running
  split at running
  · cases running
  · exact running

theorem cancel_runner_running (campaign : CampaignId) (now : Instant) (runner : Runner)
    (running : (cancelRunner campaign now runner).status = .running) : runner.status = .running := by
  unfold cancelRunner at running
  split at running
  · exact running
  · split at running
    · cases running
    · exact running

theorem settle_runners (context : TaskContext) (task : TaskInstance) (status : RunnerStatus) (evidence : Evidence) (now : Instant) :
    RunnersStay s (settleInstance s context task status evidence now) := by
  have ending : ∀ state error, RunnersStay s (endInstance s context.instanceId task state error now) := fun state error =>
    runners_update s _ _ (fun rid runner running => cancel_queued_running _ _ _ rid runner running)
      (fun rid runner => cancel_queued_moves _ _ _ rid runner) rfl
  unfold settleInstance
  split
  · exact runners_same s _ rfl
  · split
    · exact ending _ _
    · split
      · exact runners_same s _ rfl
      · split
        · exact ending _ _
        · exact runners_same s _ rfl

theorem call_fates (s : Store Digest) (call : Call Digest) (inv : TaskInvariant s) :
    InstancesStay s (perform digest s call).1 ∧
      ∀ rid after, (perform digest s call).1.runners.get rid = some after → after.status = .running →
        (∃ before, s.runners.get rid = some before ∧ before.status = .running ∧ before.template = after.template) ∨
          ∀ context ∈ after.template.taskContext, ∃ task, s.instances.get context.instanceId = some task ∧
            task.state.terminal = false := by
  generalize same : (perform digest s call).1 = next, replied : (perform digest s call).2 = reply
  have effect := task_effect digest s call
  rw [same, replied] at effect
  cases effect with
  | untouched _ _ eq =>
      exact ⟨instances_same s next eq.instances, fun rid after read running =>
        .inl (runners_same s next eq.runners rid after read running)⟩
  | emitted caller id dueAt fresh effect =>
      cases effect with
      | emitted node task read waiting owned live free eq =>
          subst eq
          refine ⟨instances_put s _ _ task _ owned rfl (fun past => by rw [live] at past; cases past), fun rid after found running => .inl ?_⟩
          exact runners_put s _ fresh _ rfl (fun bad => by cases bad) rid after found running
  | dropped caller rid owner runner read queued eq =>
      subst eq
      refine ⟨instances_same s _ rfl, fun other after found running => .inl ?_⟩
      exact runners_put s _ rid _ rfl (fun bad => by cases bad) other after found running
  | started caller rid owner runner messages read queued live eq =>
      subst eq
      refine ⟨instances_same s _ rfl, fun other after found running => ?_⟩
      rcases table_put_cases _ _ _ _ _ found with ⟨rfl, rfl⟩ | ⟨_, old⟩
      · exact .inr live
      · exact .inl ⟨after, old, running, rfl⟩
  | requested now rid runner read running eq =>
      subst eq
      refine ⟨instances_same s _ rfl, fun other after found running' => .inl ?_⟩
      exact runners_put s _ rid { runner with cancelRequested := true } rfl (fun _ => ⟨runner, read, running, rfl⟩) other after found running'
  | ended _ _ closed rid old fresh runner status now evidence requests read done runners instances nodes open_ final terminal
      template campaign eq =>
      have placed := end_runner_placed s closed rid old fresh inv read open_ (final ▸ terminal) template campaign runners
        instances nodes
      have stays : RunnersStay s closed := runners_put s closed rid fresh runners
        fun bad => by rw [← final, bad] at terminal; cases terminal
      rcases checkpoint_cases closed next rid runner fresh status now evidence requests placed.linked (by rw [runners]; simp)
          (eq.trans template.symm) done with ⟨_, still⟩ | ⟨context, id, node, task, _, _, _, _, owned, settled⟩
      · rw [still]
        exact ⟨instances_same s closed instances, fun other after found running => .inl (stays other after found running)⟩
      · rw [settled]
        refine ⟨fun iid t found past => ?_, fun other after found running => ?_⟩
        · exact settle_instances (markedNode closed id node runner context status evidence now) context task
            (recordedTask task runner context status evidence now) status evidence now owned rfl iid t (instances ▸ found) past
        · obtain ⟨before, kept, was, form⟩ := settle_runners (markedNode closed id node runner context status evidence now)
            context (recordedTask task runner context status evidence now) status evidence now other after found running
          obtain ⟨first, read', was', form'⟩ := stays other before kept was
          exact .inl ⟨first, read', was', form'.trans form⟩
  | campaign now campaign eq =>
      by_cases known : campaign ∈ s.campaigns
      · refine ⟨fun id task found past => ?_, fun rid after found running => .inl ?_⟩
        · refine ⟨cancelInstance campaign task, by rw [eq]; simp [requestCancelCampaign, known, found], ?_⟩
          rcases cancel_instance_state campaign task with kept | ⟨_, live, _⟩
          · rw [kept]
          · rw [live] at past
            cases past
        · exact runners_update s next (fun _ runner => cancelRunner campaign now runner)
            (fun _ runner => cancel_runner_running campaign now runner) (fun _ runner => cancel_runner_moves campaign now runner)
            (by rw [eq]; simp [requestCancelCampaign, known]) rid after found running
      · rw [requestCancelCampaign, if_pos known] at eq
        rw [eq]
        exact ⟨instances_same s s rfl, fun rid after found running => .inl ⟨after, found, running, rfl⟩⟩

theorem finished_unfinished (id : InstanceId)
    (all : ∀ nid node, s.nodes.get nid = some node → node.taskInstance = id → node.state = .emitted ∧ node.terminalStatus = some .succeeded) :
    unfinishedNode s id = false := by
  cases found : unfinishedNode s id with
  | false => rfl
  | true =>
      obtain ⟨nid, node, read, open_⟩ := (table_any s.nodes _).mp found
      obtain ⟨named, unfinished⟩ := of_decide_eq_true open_
      obtain ⟨emitted, succeeded⟩ := all nid node read named
      rcases unfinished with bad | bad
      · exact absurd emitted bad
      · exact absurd succeeded bad

theorem advance_completes (id : InstanceId) (task : TaskInstance)
    (all : ∀ nid node, s.nodes.get nid = some node → node.taskInstance = id → node.state = .emitted ∧ node.terminalStatus = some .succeeded) :
    ∃ after, (advanceInstance s id task).instances.get id = some after ∧ after.state = .completed := by
  refine ⟨_, table_get_put_self _ _ _, ?_⟩
  simp [finished_unfinished s id all]

theorem settle_completes (context : TaskContext) (task : TaskInstance) (evidence : Evidence) (now : Instant)
    (live : task.state.terminal = false) (accepted : context.executionKind = .batch ∨ replayError task context evidence = none)
    (all : ∀ nid node, s.nodes.get nid = some node → node.taskInstance = context.instanceId → node.state = .emitted ∧ node.terminalStatus = some .succeeded) :
    ∃ after, (settleInstance s context task .succeeded evidence now).instances.get context.instanceId = some after ∧
      after.state = .completed := by
  unfold settleInstance
  rw [if_neg (by simp [live]), if_neg (by simp)]
  by_cases batch : context.executionKind = .batch
  · rw [if_pos batch]
    exact advance_completes s context.instanceId task all
  · rw [if_neg batch]
    rcases accepted with same | unchanged
    · exact absurd same batch
    · rw [unchanged]
      exact advance_completes s context.instanceId _ all

def Last (s : Store Digest) (rid : RunnerId) (instanceId : InstanceId) : Prop :=
  ∀ nid node, s.nodes.get nid = some node → node.taskInstance = instanceId → node.runner ≠ some rid →
    node.state = .emitted ∧ node.terminalStatus = some .succeeded

theorem complete_last (s : Store Digest) (caller : Caller) (rid : RunnerId) (requests : List RequestMetrics)
    (errorMessage : Option String) (runner : Runner) (context : TaskContext) (task : TaskInstance) (inv : TaskInvariant s)
    (accepted : (perform digest s (.completeRunner caller rid requests .succeeded errorMessage)).2 = .flag true)
    (read : s.runners.get rid = some runner) (carried : runner.template.taskContext = some context)
    (owned : s.instances.get context.instanceId = some task) (live : task.state.terminal = false)
    (last : Last s rid context.instanceId)
    (unchanged : context.executionKind = .batch ∨ replayError task context (requestEvidence requests) = none) :
    ∃ after, (perform digest s (.completeRunner caller rid requests .succeeded errorMessage)).1.instances.get
      context.instanceId = some after ∧ after.state = .completed := by
  rcases transact_cases s .flag (completeRunner s caller rid requests .succeeded errorMessage) with
    ⟨_, _, same⟩ | ⟨next, reply, done, same⟩
  · rw [perform, same] at accepted
    cases accepted
  · rw [perform, same] at accepted ⊢
    cases accepted
    cases complete_effect s next caller rid requests .succeeded errorMessage true done with
    | completed old read' running open_ ends one settled =>
        cases Option.some.inj (read.symm.trans read')
        have unended : runner.status.terminal = false := by
          rw [running]
          rfl
        have placed := end_runner_placed s (setRunner (closeWorkers s rid caller.now) rid
          { runner with status := .succeeded, finishedAt := some caller.now, errorMessage := errorMessage }) rid runner
          { runner with status := .succeeded, finishedAt := some caller.now, errorMessage := errorMessage } inv read unended rfl
          rfl rfl rfl rfl rfl
        rcases checkpoint_cases _ next rid runner _ .succeeded caller.now _ requests placed.linked
            (table_get_put_self _ _ _) rfl settled with ⟨none, _⟩ | ⟨own, id, node, found, held, stored, named, place, owned', final⟩
        · rw [carried] at none
          cases none
        · cases Option.some.inj (carried.symm.trans held)
          cases Option.some.inj (owned.symm.trans owned')
          rw [final]
          refine settle_completes _ context _ _ caller.now live ?_ fun nid other read' named' => ?_
          · rcases unchanged with batch | kept
            · exact .inl batch
            · by_cases batch : context.executionKind = .batch
              · exact .inl batch
              · have atomic : atomicExecution runner = true := by
                  refine decide_eq_true ⟨context, carried, ?_⟩
                  cases kind : context.executionKind with
                  | atomic => rfl
                  | batch => exact absurd kind batch
                rw [if_pos atomic]
                exact .inr kept
          · rcases table_put_cases _ _ _ _ _ read' with ⟨_, rfl⟩ | ⟨different, old⟩
            · exact ⟨(inv.linked.emitted id node stored).mpr (by simp [named]), rfl⟩
            · exact last nid other old named' fun mine => different (inv.linked.apart nid id other node rid old stored mine named)

structure InstanceContract (digest : Json → Digest) (s : Store Digest) : Prop where
  absorbing : ∀ call, InstancesStay s (perform digest s call).1
  completed : Finished s
  completes : ∀ caller rid requests errorMessage runner context task,
    (perform digest s (.completeRunner caller rid requests .succeeded errorMessage)).2 = .flag true →
    s.runners.get rid = some runner → runner.template.taskContext = some context →
    s.instances.get context.instanceId = some task → task.state.terminal = false → Last s rid context.instanceId →
    (context.executionKind = .batch ∨ replayError task context (requestEvidence requests) = none) →
    ∃ after, (perform digest s (.completeRunner caller rid requests .succeeded errorMessage)).1.instances.get
      context.instanceId = some after ∧ after.state = .completed
  nodes : ∀ id task, s.instances.get id = some task → stopped task → ∀ nid node, s.nodes.get nid = some node →
    node.taskInstance = id → node.state ≠ .pending ∧ node.state ≠ .blocked
  runners : ∀ id task, s.instances.get id = some task → stopped task → ∀ rid runner context,
    s.runners.get rid = some runner → runner.template.taskContext = some context → context.instanceId = id →
    runner.status ≠ .queued
  afterwards : ∀ id task, s.instances.get id = some task → stopped task → ∀ later last,
    run (step digest) s later = some last → (∃ after, last.instances.get id = some after ∧ after.state = task.state) ∧
      ∀ rid runner context, last.runners.get rid = some runner → runner.template.taskContext = some context →
        context.instanceId = id → runner.status = .running →
        ∃ before, s.runners.get rid = some before ∧ before.status = .running ∧ before.template = runner.template

theorem stopped_runners (inv : TaskInvariant s) (id : InstanceId) (task : TaskInstance) (read : s.instances.get id = some task)
    (halted : stopped task) (rid : RunnerId) (runner : Runner) (context : TaskContext) (found : s.runners.get rid = some runner)
    (carried : runner.template.taskContext = some context) (named : context.instanceId = id) : runner.status ≠ .queued := by
  obtain ⟨nid, node, stored, owner, _, place⟩ := source_found s rid runner context inv.linked found carried
  exact (inv.closed id task read halted nid node stored (place.trans named)).2 rid runner owner found

def Quiet (id : InstanceId) (s last : Store Digest) : Prop :=
  ∀ task, s.instances.get id = some task → stopped task →
    (∃ after, last.instances.get id = some after ∧ after.state = task.state) ∧
      ∀ rid runner context, last.runners.get rid = some runner → runner.template.taskContext = some context →
        context.instanceId = id → runner.status = .running →
        ∃ before, s.runners.get rid = some before ∧ before.status = .running ∧ before.template = runner.template

theorem stopped_terminal (task : TaskInstance) (halted : stopped task) : task.state.terminal = true := by
  rcases halted with state | state <;> rw [state] <;> rfl

theorem quiet_step (id : InstanceId) (s : Store Digest) (call : Call Digest) (next : Store Digest) (inv : TaskInvariant s)
    (taken : step digest s call = some next) : Quiet id s next := by
  obtain rfl : (perform digest s call).1 = next := Option.some.inj taken
  intro task read halted
  obtain ⟨stays, fates⟩ := call_fates digest s call inv
  refine ⟨stays id task read (stopped_terminal task halted), fun rid runner context found carried named running => ?_⟩
  rcases fates rid runner found running with before | live
  · exact before
  · obtain ⟨other, owned, open_⟩ := live context carried
    rw [named, read] at owned
    cases owned
    rw [stopped_terminal task halted] at open_
    cases open_

theorem invariant_contracts (s : Store Digest) (inv : TaskInvariant s) : InstanceContract digest s := by
  refine ⟨fun call => (call_fates digest s call inv).1, inv.finished,
    fun caller rid requests errorMessage runner context task accepted read carried owned live last unchanged =>
      complete_last digest s caller rid requests errorMessage runner context task inv accepted read carried owned live last unchanged,
    fun id task read halted nid node stored named => ?_,
    fun id task read halted rid runner context found carried named =>
      stopped_runners s inv id task read halted rid runner context found carried named,
    fun id task read halted later last reached => ?_⟩
  · have idle := (inv.closed id task read halted nid node stored named).1
    constructor <;> intro state <;> rw [state] at idle <;> cases idle
  · exact run_relates (step digest) TaskInvariant (Quiet id)
      (fun state task read _ => ⟨⟨task, read, rfl⟩, fun rid runner _ found _ _ running => ⟨runner, found, running, rfl⟩⟩)
      (fun a b c first second task read halted => by
        obtain ⟨⟨middle, readB, stateB⟩, early⟩ := first task read halted
        have haltedB : stopped middle := by
          rw [stopped, stateB]
          exact halted
        obtain ⟨⟨final, readC, stateC⟩, lateRunners⟩ := second middle readB haltedB
        refine ⟨⟨final, readC, stateC.trans stateB⟩, fun rid runner context found carried named running => ?_⟩
        obtain ⟨between, foundB, runningB, formB⟩ := lateRunners rid runner context found carried named running
        obtain ⟨before, foundA, runningA, formA⟩ := early rid between context foundB (formB ▸ carried) named runningB
        exact ⟨before, foundA, runningA, formA.trans formB⟩)
      (fun state call next held taken => task_step digest state call next held taken)
      (fun state call next held taken => quiet_step digest id state call next held taken) later s last inv reached task read halted

structure Submitted (s : Store Digest) : Prop where
  instances : ∀ id task, s.instances.get id = some task → task.state = .planned
  owner : ∀ id node, s.nodes.get id = some node →
    ∃ task, s.instances.get node.taskInstance = some task ∧ task.campaign = node.campaign
  nodes : ∀ id node, s.nodes.get id = some node →
    NodeContext node ∧ node.state.waiting = true ∧ node.runner = none ∧ node.terminalStatus = none
  runners : ∀ rid runner, s.runners.get rid = some runner →
    runner.template.groupedContexts = [] ∧ runner.template.taskContext = none

theorem submitted_invariant (submitted : Submitted s) : TaskInvariant s := by
  have unowned : ∀ id node rid, s.nodes.get id = some node → node.runner = some rid → False := by
    intro id node rid read named
    rw [(submitted.nodes id node read).2.2.1] at named
    cases named
  refine ⟨⟨submitted.owner, fun id node read => (submitted.nodes id node read).1, fun id node read => ?_,
    fun id node rid read named => (unowned id node rid read named).elim, fun rid runner read => ?_,
    fun a b n m rid read _ named _ => (unowned a n rid read named).elim, fun id node read past => ?_⟩,
    fun id task read halted => ?_, fun id task read complete => ?_⟩
  · obtain ⟨_, waiting, none, _⟩ := submitted.nodes id node read
    rw [none]
    refine ⟨fun state => ?_, fun bad => absurd rfl bad⟩
    rw [state] at waiting
    cases waiting
  · obtain ⟨ungrouped, plain⟩ := submitted.runners rid runner read
    refine ⟨ungrouped, fun context carried => ?_⟩
    rw [plain] at carried
    cases carried
  · exact absurd (submitted.nodes id node read).2.2.2 past
  · have planned := submitted.instances id task read
    rcases halted with state | state <;> rw [state] at planned <;> cases planned
  · have planned := submitted.instances id task read
    rw [planned] at complete
    cases complete

theorem instances_settle (digest : Json → Digest) (origin s : Store Digest) (calls : List (Call Digest))
    (submitted : Submitted origin) (reached : run (step digest) origin calls = some s) : InstanceContract digest s :=
  invariant_contracts digest s (run_invariant (step digest) TaskInvariant (task_step digest) calls origin s
    (submitted_invariant origin submitted) reached)

def batchContext (nodeId : String) : TaskContext := ⟨"i", nodeId, none, .batch, none, []⟩

def batchNode (nodeId : String) (state : NodeState) (dependencies : List DispatchId) : ExecutionNode :=
  ⟨"c", "i", nodeId, state, none, queuedTemplate (some (batchContext nodeId)) none .blank, dependencies, 0, none, none, none, none, none⟩

def batchStore : Store Json where
  lease := none
  campaigns := ["c"]
  runners := Table.empty
  instances := Table.empty.put "i" ⟨"c", .planned, 0, [], [], [], none⟩
  nodes := (Table.empty.put "first" (batchNode "first" .pending [])).put "second" (batchNode "second" .blocked ["first"])
  workers := Table.empty
  messages := Table.empty
  logs := []

def anyCaller : Caller := ⟨none, 1, 5⟩

def failingCalls : List (Call Json) :=
  [.activateNode anyCaller "first" 0 "r", .startSelected anyCaller "r" "scheduler",
    .completeRunner anyCaller "r" [] .failed (some "error")]

theorem batch_submitted : Submitted batchStore := by
  refine ⟨fun id task read => ?_, fun id node read => ?_, fun id node read => ?_, fun rid runner read => ?_⟩
  · rcases table_put_cases _ _ _ _ _ read with ⟨_, rfl⟩ | ⟨_, bad⟩
    · rfl
    · cases bad
  · rcases table_put_cases _ _ _ _ _ read with ⟨_, rfl⟩ | ⟨_, older⟩
    · exact ⟨_, rfl, rfl⟩
    · rcases table_put_cases _ _ _ _ _ older with ⟨_, rfl⟩ | ⟨_, bad⟩
      · exact ⟨_, rfl, rfl⟩
      · cases bad
  · rcases table_put_cases _ _ _ _ _ read with ⟨_, rfl⟩ | ⟨_, older⟩
    · exact ⟨⟨rfl, _, rfl, rfl, rfl, .inl rfl⟩, rfl, rfl, rfl⟩
    · rcases table_put_cases _ _ _ _ _ older with ⟨_, rfl⟩ | ⟨_, bad⟩
      · exact ⟨⟨rfl, _, rfl, rfl, rfl, .inl rfl⟩, rfl, rfl, rfl⟩
      · cases bad
  · cases read

theorem instances_settle_failing :
    ∃ s task, run (step id) batchStore failingCalls = some s ∧ InstanceContract id s ∧
      s.instances.get "i" = some task ∧ task.state = .failed :=
  ⟨_, _, rfl, instances_settle id batchStore _ failingCalls batch_submitted rfl, rfl, rfl⟩

end LlmperfOrchestrator.Storage

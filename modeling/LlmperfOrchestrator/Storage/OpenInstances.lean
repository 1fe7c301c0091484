import LlmperfOrchestrator.Storage.Growth

set_option autoImplicit false

namespace LlmperfOrchestrator.Storage

open Tables Runs Outcomes

variable {Digest : Type} [DecidableEq Digest]

def nodeDone (node : ExecutionNode) : Prop := node.state = .emitted ∧ node.terminalStatus = some .succeeded

structure Open (s : Store Digest) (id : InstanceId) : Prop where
  alive : ∀ nid node, s.nodes.get nid = some node → node.taskInstance = id → node.state ≠ .cancelled
  settled : ∀ nid node rid runner, s.nodes.get nid = some node → node.taskInstance = id → node.runner = some rid →
    s.runners.get rid = some runner → runner.status.terminal = true → node.terminalStatus = some .succeeded
  unfinished : (∃ nid node, s.nodes.get nid = some node ∧ node.taskInstance = id) →
    ∃ nid node, s.nodes.get nid = some node ∧ node.taskInstance = id ∧ ¬ nodeDone node

def OpenInstances (s : Store Digest) : Prop :=
  ∀ id task, s.instances.get id = some task → task.state.terminal = false → Open s id

structure Untouched (s next : Store Digest) (id : InstanceId) : Prop where
  nodes : ∀ nid node, node.taskInstance = id → (next.nodes.get nid = some node ↔ s.nodes.get nid = some node)
  runners : ∀ nid node rid runner, s.nodes.get nid = some node → node.taskInstance = id → node.runner = some rid →
    next.runners.get rid = some runner → runner.status.terminal = true →
    ∃ before, s.runners.get rid = some before ∧ before.status.terminal = true

theorem open_untouched (s next : Store Digest) (id : InstanceId) (open_ : Open s id) (same : Untouched s next id) :
    Open next id := by
  refine ⟨?_, ?_, ?_⟩
  · intro nid node read named
    exact open_.alive nid node ((same.nodes nid node named).mp read) named
  · intro nid node rid runner read named owned found ended
    have before := (same.nodes nid node named).mp read
    obtain ⟨old, stored, past⟩ := same.runners nid node rid runner before named owned found ended
    exact open_.settled nid node rid old before named owned stored past
  · intro some_
    obtain ⟨nid, node, read, named⟩ := some_
    obtain ⟨other, left, there, mine, open_⟩ := open_.unfinished ⟨nid, node, (same.nodes nid node named).mp read, named⟩
    exact ⟨other, left, (same.nodes other left mine).mpr there, mine, open_⟩

theorem open_tables (s next : Store Digest) (same : SameTasks s next) (open_ : OpenInstances s) : OpenInstances next := by
  intro id task read live
  rw [same.instances] at read
  apply open_untouched s next id (open_ id task read live)
  refine ⟨?_, ?_⟩
  · intro nid node _
    rw [same.nodes]
  · intro nid node rid runner _ _ _ found ended
    rw [same.runners] at found
    exact ⟨runner, found, ended⟩

theorem open_runner (s : Store Digest) (rid : RunnerId) (old fresh : Runner) (read : s.runners.get rid = some old)
    (open_ : OpenInstances s)
    (ends : fresh.status.terminal = true → old.status.terminal = true ∨ ∀ nid node task, s.nodes.get nid = some node →
      node.runner = some rid → s.instances.get node.taskInstance = some task → task.state.terminal = true) :
    OpenInstances (setRunner s rid fresh) := by
  intro id task found live
  apply open_untouched s _ id (open_ id task found live)
  refine ⟨fun _ _ _ => Iff.rfl, ?_⟩
  intro nid node query runner stored named owned there ended
  cases table_put_cases _ _ _ _ _ there with
  | inr older => exact ⟨runner, older.2, ended⟩
  | inl here =>
      obtain ⟨rfl, rfl⟩ := here
      cases ends ended with
      | inl past => exact ⟨old, read, past⟩
      | inr elsewhere =>
          have past := elsewhere nid node task stored owned (named ▸ found)
          rw [live] at past
          cases past

theorem open_activate (s next : Store Digest) (caller : Caller) (id : DispatchId) (dueAt : Instant) (fresh : RunnerId)
    (inv : TaskInvariant s) (open_ : OpenInstances s) (effect : ActivateEffect s next caller id dueAt fresh (some fresh)) :
    OpenInstances next := by
  cases effect with
  | emitted node task read waiting owner live free same =>
      subst same
      have unowned : node.runner = none := by
        by_contra held
        rw [(inv.linked.emitted id node read).mpr held] at waiting
        cases waiting
      have blank : node.terminalStatus = none := by
        by_contra past
        obtain ⟨_, rid, _, named, _⟩ := inv.linked.checkpoint id node read past
        rw [unowned] at named
        cases named
      intro iid after found running
      have before : Open s iid := by
        cases table_put_cases _ _ _ _ _ found with
        | inl here => exact here.1 ▸ open_ _ task owner live
        | inr older => exact open_ iid after older.2 running
      refine ⟨?_, ?_, ?_⟩
      · intro nid other there named
        cases table_put_cases _ _ _ _ _ there with
        | inl here =>
            rw [here.2]
            intro bad
            cases bad
        | inr older => exact before.alive nid other older.2 named
      · intro nid other rid runner there named owned stored ended
        cases table_put_cases _ _ _ _ _ there with
        | inl here =>
            rw [here.2] at owned
            cases owned
            rw [table_get_put_self] at stored
            cases stored
            cases ended
        | inr older =>
            cases table_put_cases _ _ _ _ _ stored with
            | inr held => exact before.settled nid other rid runner older.2 named owned held.2 ended
            | inl new =>
                obtain ⟨_, taken, _⟩ := inv.linked.runner nid other rid older.2 owned
                rw [new.1, free] at taken
                cases taken
      · intro some_
        have inside : ∃ nid other, s.nodes.get nid = some other ∧ other.taskInstance = iid := by
          obtain ⟨nid, other, there, named⟩ := some_
          cases table_put_cases _ _ _ _ _ there with
          | inl here =>
              rw [here.2] at named
              exact ⟨id, node, read, named⟩
          | inr older => exact ⟨nid, other, older.2, named⟩
        obtain ⟨nid, other, there, named, left⟩ := before.unfinished inside
        by_cases here : nid = id
        · subst here
          cases Option.some.inj (read.symm.trans there)
          refine ⟨nid, _, table_get_put_self _ _ _, named, ?_⟩
          intro done
          have past : node.terminalStatus = some .succeeded := done.2
          rw [blank] at past
          cases past
        · exact ⟨nid, other, (table_get_put_other _ _ _ _ here).trans there, named, left⟩

theorem start_drops (s next : Store Digest) (caller : Caller) (rid : RunnerId) (owner : String)
    (done : startSelected s caller rid owner = .ok (next, none)) :
    next = s ∨ ∃ runner context, s.runners.get rid = some runner ∧ runner.template.taskContext = some context ∧
      (∀ task, s.instances.get context.instanceId = some task → task.state.terminal = true) ∧
      next = setRunner s rid { runner with status := .cancelled, finishedAt := some caller.now } := by
  rw [startSelected] at done
  obtain ⟨_, _, opened⟩ := (bind_ok _ _ _).mp done
  cases found : (s.runners.get rid).filter fun runner => runner.status = .queued ∧ runner.cancelRequested = false with
  | none =>
      simp only [found] at opened
      cases opened
      exact .inl rfl
  | some runner =>
      obtain ⟨read, _⟩ := Option.filter_eq_some_iff.mp found
      simp only [found] at opened
      cases named : runner.template.taskContext with
      | none =>
          simp only [named] at opened
          cases opened
      | some context =>
          simp only [named] at opened
          cases live : (s.instances.get context.instanceId).filter fun task => ¬ task.state.terminal with
          | none =>
              simp only [live] at opened
              cases opened
              refine .inr ⟨runner, context, read, named, ?_, rfl⟩
              intro task owned
              rw [owned] at live
              simpa using live
          | some task =>
              simp only [live] at opened
              split at opened
              · cases opened
              · obtain ⟨_, _, final⟩ := (bind_ok _ _ _).mp opened
                cases final

theorem open_dropped (s next : Store Digest) (caller : Caller) (rid : RunnerId) (owner : String) (inv : TaskInvariant s)
    (open_ : OpenInstances s) (done : startSelected s caller rid owner = .ok (next, none)) : OpenInstances next := by
  cases start_drops s next caller rid owner done with
  | inl same => exact same ▸ open_
  | inr dropped =>
      obtain ⟨runner, context, read, carried, ended, same⟩ := dropped
      subst same
      apply open_runner s rid runner _ read open_
      intro _
      right
      intro nid node task stored owned found
      obtain ⟨other, again, template, _⟩ := inv.linked.runner nid node rid stored owned
      cases Option.some.inj (read.symm.trans again)
      obtain ⟨_, own, held, place, _⟩ := inv.linked.context nid node stored
      rw [← template, carried] at held
      cases held
      exact ended task (place ▸ found)

-- What a settled checkpoint does outside its own instance: nothing to the nodes,
-- and to a Runner only where a node of that instance owns it.
structure Confined (m next : Store Digest) (id : InstanceId) : Prop where
  instances : ∀ other, other ≠ id → next.instances.get other = m.instances.get other
  nodes : ∀ nid node, node.taskInstance ≠ id → (next.nodes.get nid = some node ↔ m.nodes.get nid = some node)
  runners : ∀ rid runner, next.runners.get rid = some runner → m.runners.get rid = some runner ∨
    ∃ nid node, m.nodes.get nid = some node ∧ node.taskInstance = id ∧ node.runner = some rid

theorem confined_instance (m : Store Digest) (id : InstanceId) (task : TaskInstance) : Confined m (setInstance m id task) id :=
  ⟨fun _ other => table_get_put_other _ _ _ _ other, fun _ _ _ => Iff.rfl, fun _ _ found => .inl found⟩

theorem confined_end (m : Store Digest) (id : InstanceId) (task : TaskInstance) (state : InstanceState) (error : String)
    (now : Instant) : Confined m (endInstance m id task state error now) id := by
  refine ⟨fun _ other => table_get_put_other _ _ _ _ other, ?_, ?_⟩
  · intro nid node elsewhere
    change (m.nodes.update _).get nid = some node ↔ _
    rw [table_get_update, Option.map_eq_some_iff]
    constructor
    · intro found
      obtain ⟨before, read, same⟩ := found
      have place : before.taskInstance = node.taskInstance := by
        rw [← same]
        exact (cancel_waiting_moves _ before).taskInstance.symm
      rw [cancelWaiting, if_neg (by simp [place, elsewhere])] at same
      exact same ▸ read
    · intro read
      exact ⟨node, read, by rw [cancelWaiting, if_neg (by simp [elsewhere])]⟩
  · intro rid runner found
    change (m.runners.update _).get rid = some runner at found
    rw [table_get_update, Option.map_eq_some_iff] at found
    obtain ⟨before, read, same⟩ := found
    by_cases owned : m.nodes.any (fun _ node => node.taskInstance = id ∧ node.runner = some rid) = true
    · obtain ⟨nid, node, stored, both⟩ := (table_any m.nodes _).mp owned
      exact .inr ⟨nid, node, stored, of_decide_eq_true both⟩
    · rw [cancelQueued, if_neg fun both => owned both.2] at same
      exact .inl (same ▸ read)

theorem settle_confined (m : Store Digest) (context : TaskContext) (task : TaskInstance) (status : RunnerStatus)
    (evidence : Evidence) (now : Instant) :
    Confined m (settleInstance m context task status evidence now) context.instanceId ∧
      ∀ after, (settleInstance m context task status evidence now).instances.get context.instanceId = some after →
        after.state.terminal = false → status = .succeeded ∧ task.state.terminal = false ∧
        unfinishedNode m context.instanceId = true ∧
        (settleInstance m context task status evidence now).nodes = m.nodes ∧
        (settleInstance m context task status evidence now).runners = m.runners := by
  have ends (state : InstanceState) (error : String) (past : state.terminal = true) (after : TaskInstance)
      (found : (endInstance m context.instanceId task state error now).instances.get context.instanceId = some after) :
      after.state.terminal = true := by
    change (m.instances.put _ _).get _ = _ at found
    rw [table_get_put_self] at found
    cases found
    exact past
  have advances (fresh : TaskInstance) (after : TaskInstance)
      (found : (advanceInstance m context.instanceId fresh).instances.get context.instanceId = some after)
      (live : after.state.terminal = false) : unfinishedNode m context.instanceId = true := by
    change (m.instances.put _ _).get _ = _ at found
    rw [table_get_put_self] at found
    cases found
    cases unfinished : unfinishedNode m context.instanceId with
    | true => rfl
    | false => simp [unfinished, InstanceState.terminal] at live
  rw [settleInstance]
  by_cases past : task.state.terminal = true
  · rw [if_pos past]
    refine ⟨confined_instance m _ task, ?_⟩
    intro after found live
    change (m.instances.put _ _).get _ = _ at found
    rw [table_get_put_self] at found
    cases found
    rw [past] at live
    cases live
  rw [if_neg past]
  have running : task.state.terminal = false := by simpa using past
  by_cases failed : status ≠ .succeeded
  · rw [if_pos failed]
    refine ⟨confined_end m _ task _ _ now, ?_⟩
    intro after found live
    rw [ends _ _ (by split <;> rfl) after found] at live
    cases live
  rw [if_neg failed]
  have succeeded := not_not.mp failed
  by_cases batch : context.executionKind = .batch
  · rw [if_pos batch]
    exact ⟨confined_instance m _ _, fun after found live => ⟨succeeded, running, advances task after found live, rfl, rfl⟩⟩
  rw [if_neg batch]
  cases replayError task context evidence with
  | some error =>
      refine ⟨confined_end m _ task _ _ now, ?_⟩
      intro after found live
      rw [ends .failed error rfl after found] at live
      cases live
  | none => exact ⟨confined_instance m _ _, fun after found live => ⟨succeeded, running, advances _ after found live, rfl, rfl⟩⟩

section Ended

variable {s closed next : Store Digest} {rid : RunnerId} {old fresh runner : Runner} {status : RunnerStatus} {now : Instant}
  {evidence : Evidence} {requests : List RequestMetrics} {nid : DispatchId} {node : ExecutionNode} {context : TaskContext}

theorem marked_other (nodes : closed.nodes = s.nodes) (query : DispatchId) (other : query ≠ nid) :
    (markedNode closed nid node runner context status evidence now).nodes.get query = s.nodes.get query := by
  rw [markedNode, setNode, nodes]
  exact table_get_put_other _ _ _ _ other

theorem marked_self : (markedNode closed nid node runner context status evidence now).nodes.get nid = some
    { node with
      actualStartedAt := some (startedInstant runner context evidence now)
      actualCompletedAt := some (completedInstant context evidence now)
      terminalStatus := some status } := table_get_put_self _ _ _

theorem open_void (inv : TaskInvariant s) (open_ : OpenInstances s) (read : s.runners.get rid = some old)
    (runners : closed.runners = s.runners.put rid fresh) (instances : closed.instances = s.instances)
    (nodes : closed.nodes = s.nodes) (template : fresh.template = old.template) (plain : fresh.template.taskContext = none) :
    OpenInstances closed := by
  apply open_tables (setRunner s rid fresh) closed ⟨runners, instances, nodes⟩
  apply open_runner s rid old fresh read open_
  intro _
  right
  intro nid node _ stored owned _
  obtain ⟨other, again, carried, _⟩ := inv.linked.runner nid node rid stored owned
  cases Option.some.inj (read.symm.trans again)
  obtain ⟨_, context, held, _⟩ := inv.linked.context nid node stored
  rw [← carried, ← template, plain] at held
  cases held

theorem open_advanced (inv : TaskInvariant s) (held : Open s context.instanceId)
    (runners : closed.runners = s.runners.put rid fresh) (nodes : closed.nodes = s.nodes)
    (stored : s.nodes.get nid = some node) (owned : node.runner = some rid) (place : node.taskInstance = context.instanceId)
    (succeeded : status = .succeeded)
    (unfinished : unfinishedNode (markedNode closed nid node runner context status evidence now) context.instanceId = true)
    (sameNodes : next.nodes = (markedNode closed nid node runner context status evidence now).nodes)
    (sameRunners : next.runners = closed.runners) : Open next context.instanceId := by
  refine ⟨?_, ?_, ?_⟩
  · intro query other there named
    rw [sameNodes] at there
    by_cases here : query = nid
    · subst here
      rw [marked_self] at there
      cases there
      exact held.alive query node stored place
    · rw [marked_other nodes query here] at there
      exact held.alive query other there named
  · intro query other id record there named owns known ended
    rw [sameNodes] at there
    rw [sameRunners, runners] at known
    by_cases here : query = nid
    · subst here
      rw [marked_self] at there
      cases there
      exact congrArg some succeeded
    · rw [marked_other nodes query here] at there
      cases table_put_cases _ _ _ _ _ known with
      | inl same => exact absurd (inv.linked.apart query nid other node rid there stored (same.1 ▸ owns) owned) here
      | inr older => exact held.settled query other id record there named owns older.2 ended
  · intro _
    obtain ⟨query, other, there, left⟩ := (table_any _ _).mp unfinished
    obtain ⟨named, open_⟩ := of_decide_eq_true left
    refine ⟨query, other, by rw [sameNodes]; exact there, named, ?_⟩
    intro done
    cases open_ with
    | inl state => exact state done.1
    | inr blank => exact blank done.2

theorem other_untouched (inv : TaskInvariant s) (runners : closed.runners = s.runners.put rid fresh)
    (nodes : closed.nodes = s.nodes) (stored : s.nodes.get nid = some node) (owned : node.runner = some rid)
    (place : node.taskInstance = context.instanceId)
    (confined : Confined (markedNode closed nid node runner context status evidence now) next context.instanceId)
    (iid : InstanceId) (elsewhere : iid ≠ context.instanceId) : Untouched s next iid := by
  have apart (query : DispatchId) (other : ExecutionNode) (there : s.nodes.get query = some other)
      (named : other.taskInstance = iid) (owns : other.runner = some rid) : False := by
    cases inv.linked.apart query nid other node rid there stored owns owned
    cases Option.some.inj (there.symm.trans stored)
    exact elsewhere (named.symm.trans place)
  refine ⟨?_, ?_⟩
  · intro query other named
    rw [confined.nodes query other (named ▸ elsewhere)]
    by_cases here : query = nid
    · subst here
      rw [marked_self, stored]
      constructor <;> intro same <;> cases same
      · exact absurd (named.symm.trans place) elsewhere
      · exact absurd (named.symm.trans place) elsewhere
    · rw [marked_other nodes query here]
  · intro query other id record there named owns known ended
    cases confined.runners id record known with
    | inl kept =>
        change closed.runners.get id = some record at kept
        rw [runners] at kept
        cases table_put_cases _ _ _ _ _ kept with
        | inr older => exact ⟨record, older.2, ended⟩
        | inl same => exact absurd (same.1 ▸ owns) (apart query other there named)
    | inr taken =>
        obtain ⟨peer, peerNode, listed, theirs, shared⟩ := taken
        by_cases here : peer = nid
        · subst here
          rw [marked_self] at listed
          cases listed
          exact absurd (Option.some.inj (owned.symm.trans shared) ▸ owns) (apart query other there named)
        · rw [marked_other nodes peer here] at listed
          cases inv.linked.apart query peer other peerNode id there listed owns shared
          cases Option.some.inj (there.symm.trans listed)
          exact absurd (named.symm.trans theirs) elsewhere

theorem open_ended (inv : TaskInvariant s) (open_ : OpenInstances s) (read : s.runners.get rid = some old)
    (done : checkpointTaskResult closed rid runner status now evidence requests = .ok next)
    (runners : closed.runners = s.runners.put rid fresh) (instances : closed.instances = s.instances)
    (nodes : closed.nodes = s.nodes) (live : old.status.terminal = false) (terminal : fresh.status.terminal = true)
    (template : fresh.template = old.template) (campaign : fresh.campaign = old.campaign)
    (same : runner.template = old.template) : OpenInstances next := by
  have placed := end_runner_placed s closed rid old fresh inv read live terminal template campaign runners instances nodes
  cases checkpoint_cases closed next rid runner fresh status now evidence requests placed.linked (by rw [runners]; simp)
    (same.trans template.symm) done with
  | inl void =>
      obtain ⟨plain, still⟩ := void
      rw [still]
      exact open_void inv open_ read runners instances nodes template plain
  | inr settled =>
      obtain ⟨context, nid, node, task, _, stored, owned, place, found, result⟩ := settled
      rw [nodes] at stored
      rw [instances] at found
      obtain ⟨confined, advanced⟩ := settle_confined (markedNode closed nid node runner context status evidence now) context
        (recordedTask task runner context status evidence now) status evidence now
      rw [← result] at confined advanced
      intro iid after there running
      by_cases mine : iid = context.instanceId
      · subst mine
        obtain ⟨succeeded, before, unfinished, sameNodes, sameRunners⟩ := advanced after there running
        exact open_advanced inv (open_ _ task found before) runners nodes stored owned place succeeded unfinished sameNodes
          sameRunners
      · rw [confined.instances iid mine] at there
        change closed.instances.get iid = some after at there
        rw [instances] at there
        exact open_untouched s next iid (open_ iid after there running)
          (other_untouched inv runners nodes stored owned place confined iid mine)

end Ended

theorem open_campaign (s : Store Digest) (now : Instant) (campaign : CampaignId) (inv : TaskInvariant s)
    (open_ : OpenInstances s) : OpenInstances (requestCancelCampaign s now campaign) := by
  by_cases known : campaign ∈ s.campaigns
  · rw [requestCancelCampaign, if_neg (not_not.mpr known)]
    intro id after found live
    change (s.instances.update _).get id = some after at found
    rw [table_get_update, Option.map_eq_some_iff] at found
    obtain ⟨task, read, same⟩ := found
    cases cancel_instance_state campaign task with
    | inr cancelled =>
        rw [← same, cancelled.2.2.1] at live
        cases live
    | inl kept =>
        rw [kept] at same
        subst same
        have other : task.campaign ≠ campaign := by
          intro mine
          rw [cancelInstance, if_neg (by simp [mine, live])] at kept
          rw [← kept] at live
          cases live
        have elsewhere : ∀ nid node, s.nodes.get nid = some node → node.taskInstance = id → node.campaign ≠ campaign := by
          intro nid node stored named
          obtain ⟨owner, owned, campaigns⟩ := inv.linked.owner nid node stored
          rw [named, read] at owned
          cases owned
          exact campaigns ▸ other
        apply open_untouched s _ id (open_ id task read live)
        refine ⟨?_, ?_⟩
        · intro nid node named
          change (s.nodes.update _).get nid = some node ↔ _
          rw [table_get_update, Option.map_eq_some_iff]
          constructor
          · intro found
            obtain ⟨before, stored, same⟩ := found
            have place : before.taskInstance = id := by
              rw [← named, ← same]
              exact (cancel_waiting_moves _ before).taskInstance.symm
            rw [cancelWaiting, if_neg (by simp [elsewhere nid before stored place])] at same
            exact same ▸ stored
          · intro stored
            exact ⟨node, stored, by rw [cancelWaiting, if_neg (by simp [elsewhere nid node stored named])]⟩
        · intro nid node rid runner stored named owned found ended
          change (s.runners.update _).get rid = some runner at found
          rw [table_get_update, Option.map_eq_some_iff] at found
          obtain ⟨before, held, same⟩ := found
          obtain ⟨record, again, _, paid⟩ := inv.linked.runner nid node rid stored owned
          cases Option.some.inj (held.symm.trans again)
          have apart : before.campaign ≠ some campaign := by
            rw [paid]
            intro mine
            exact elsewhere nid node stored named (Option.some.inj mine)
          rw [cancelRunner, if_pos (.inl apart)] at same
          exact ⟨before, held, same ▸ ended⟩
  · rw [requestCancelCampaign, if_pos known]
    exact open_

theorem open_step (digest : Json → Digest) (s : Store Digest) (call : Call Digest) (inv : TaskInvariant s)
    (open_ : OpenInstances s) : OpenInstances (perform digest s call).1 := by
  generalize same : (perform digest s call).1 = next, replied : (perform digest s call).2 = reply
  have effect := task_effect digest s call
  rw [same, replied] at effect
  cases effect with
  | untouched _ _ eq _ => exact open_tables s next eq open_
  | emitted caller id dueAt fresh effect => exact open_activate s next caller id dueAt fresh inv open_ effect
  | dropped caller rid owner _ _ _ _ =>
      cases transact_cases s .admitted (startSelected s caller rid owner) with
      | inl raised =>
          obtain ⟨_, _, result⟩ := raised
          rw [perform, result] at replied
          cases replied
      | inr returned =>
          obtain ⟨after, value, done, result⟩ := returned
          rw [perform, result] at same replied
          cases replied
          exact open_dropped s next caller rid owner inv open_ (same ▸ done)
  | started caller rid owner runner messages read queued live eq =>
      subst eq
      apply open_runner s rid runner _ read open_
      intro bad
      cases bad
  | requested now rid runner read running eq =>
      subst eq
      exact open_runner s rid runner _ read open_ fun past => .inl past
  | ended _ _ closed rid old fresh runner status now evidence requests read done runners instances nodes live final terminal
      template campaign eq _ =>
      exact open_ended inv open_ read done runners instances nodes live (final ▸ terminal) template campaign eq
  | campaign now campaign eq =>
      subst eq
      exact open_campaign s now campaign inv open_

end LlmperfOrchestrator.Storage

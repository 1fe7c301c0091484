import LlmperfOrchestrator.Storage.InstanceContract

set_option autoImplicit false

namespace LlmperfOrchestrator.Storage

open Tables Runs Outcomes

variable {Digest : Type} [DecidableEq Digest]

structure NodeGoes (before after : ExecutionNode) : Prop where
  taskInstance : after.taskInstance = before.taskInstance
  dependencies : after.dependencies = before.dependencies
  delay : after.delay = before.delay
  template : after.template = before.template
  checkpoint : before.terminalStatus ≠ none →
    after.terminalStatus = before.terminalStatus ∧ after.actualCompletedAt = before.actualCompletedAt
  emission : before.state = .emitted → after.state = .emitted ∧ after.runner = before.runner

theorem node_moves_goes (before after : ExecutionNode) (moved : NodeMoves before after) : NodeGoes before after := by
  refine ⟨moved.taskInstance, moved.dependencies, moved.delay, moved.template, fun past => ?_, fun state => ?_⟩
  · rcases moved.checkpoint with kept | blank
    · exact kept
    · exact absurd blank past
  · exact ⟨(waiting_rewriting before after moved (by rw [state]; rfl)).trans state, moved.runner⟩

theorem node_moves_trans (a b c : ExecutionNode) (first : NodeMoves a b) (second : NodeMoves b c) : NodeMoves a c := by
  refine ⟨second.campaign.trans first.campaign, second.taskInstance.trans first.taskInstance, second.nodeId.trans first.nodeId,
    second.template.trans first.template, second.runner.trans first.runner, second.dependencies.trans first.dependencies,
    second.delay.trans first.delay, ?_, ?_⟩
  · rcases second.state with same | ⟨waiting, dropped⟩
    · rw [same]
      exact first.state
    · rcases first.state with same | ⟨_, cancelled⟩
      · exact .inr ⟨same ▸ waiting, dropped⟩
      · rw [cancelled] at waiting
        cases waiting
  · rcases first.checkpoint with ⟨status, instant⟩ | blank
    · rcases second.checkpoint with ⟨status', instant'⟩ | blank
      · exact .inl ⟨status'.trans status, instant'.trans instant⟩
      · exact .inr (status ▸ blank)
    · exact .inr blank

structure NodesMove (s next : Store Digest) : Prop where
  moves : ∀ id before, s.nodes.get id = some before → ∃ after, next.nodes.get id = some after ∧ NodeMoves before after
  known : ∀ id, s.nodes.get id = none → next.nodes.get id = none

variable (s next : Store Digest)

theorem nodes_same (same : next.nodes = s.nodes) : NodesMove s next :=
  ⟨fun _ before read => ⟨before, same ▸ read, node_moves_refl before⟩, fun _ absent => same ▸ absent⟩

theorem nodes_cancelled (owned : ExecutionNode → Bool) (same : next.nodes = s.nodes.update fun _ node => cancelWaiting owned node) :
    NodesMove s next :=
  ⟨fun _ before read => ⟨cancelWaiting owned before, by rw [same]; simp [read], cancel_waiting_moves owned before⟩,
    fun _ absent => by rw [same]; simp [absent]⟩

theorem nodes_move_trans (a b c : Store Digest) (first : NodesMove a b) (second : NodesMove b c) : NodesMove a c := by
  refine ⟨fun id before read => ?_, fun id absent => second.known id (first.known id absent)⟩
  obtain ⟨middle, found, early⟩ := first.moves id before read
  obtain ⟨after, found', late⟩ := second.moves id middle found
  exact ⟨after, found', node_moves_trans before middle after early late⟩

theorem settle_nodes (s : Store Digest) (context : TaskContext) (task : TaskInstance) (status : RunnerStatus)
    (evidence : Evidence) (now : Instant) : NodesMove s (settleInstance s context task status evidence now) := by
  have ending : ∀ state error, NodesMove s (endInstance s context.instanceId task state error now) :=
    fun state error => nodes_cancelled s _ _ rfl
  unfold settleInstance
  split
  · exact nodes_same s _ rfl
  · split
    · exact ending _ _
    · split
      · exact nodes_same s _ rfl
      · split
        · exact ending _ _
        · exact nodes_same s _ rfl

def CreationsStay (s next : Store Digest) : Prop :=
  ∀ id task, s.instances.get id = some task → ∃ after, next.instances.get id = some after ∧ after.createdAt = task.createdAt

theorem creations_put (id : InstanceId) (old fresh : TaskInstance) (read : s.instances.get id = some old)
    (same : next.instances = s.instances.put id fresh) (kept : fresh.createdAt = old.createdAt) : CreationsStay s next := by
  intro query task found
  rw [same]
  by_cases here : query = id
  · subst here
    cases Option.some.inj (read.symm.trans found)
    exact ⟨fresh, table_get_put_self _ _ _, kept⟩
  · exact ⟨task, by rw [table_get_put_other _ _ _ _ here]; exact found, rfl⟩

theorem creations_same (same : next.instances = s.instances) : CreationsStay s next := by
  intro id task read
  exact ⟨task, same ▸ read, rfl⟩

theorem settle_creations (s : Store Digest) (context : TaskContext) (old task : TaskInstance) (status : RunnerStatus)
    (evidence : Evidence) (now : Instant) (read : s.instances.get context.instanceId = some old)
    (kept : task.createdAt = old.createdAt) : CreationsStay s (settleInstance s context task status evidence now) := by
  unfold settleInstance
  split
  · exact creations_put s _ _ old _ read rfl kept
  · split
    · exact creations_put s _ _ old _ read rfl kept
    · split
      · exact creations_put s _ _ old _ read rfl kept
      · split <;> exact creations_put s _ _ old _ read rfl kept

def RunnersMove (s next : Store Digest) : Prop :=
  ∀ rid before, s.runners.get rid = some before → ∃ after, next.runners.get rid = some after ∧ RunnerMoves before after ∧
    (after.status = .running → before.status = .running)

def NoNewRunner (s next : Store Digest) : Prop := ∀ rid, s.runners.get rid = none → next.runners.get rid = none

theorem runners_move_same (same : next.runners = s.runners) : RunnersMove s next := by
  intro rid before read
  exact ⟨before, same ▸ read, runner_moves_refl before, id⟩

theorem runners_move_put (id : RunnerId) (old fresh : Runner) (read : s.runners.get id = some old)
    (same : next.runners = s.runners.put id fresh) (moved : RunnerMoves old fresh)
    (idle : fresh.status = .running → old.status = .running) : RunnersMove s next := by
  intro rid before found
  rw [same]
  by_cases here : rid = id
  · subst here
    cases Option.some.inj (read.symm.trans found)
    exact ⟨fresh, table_get_put_self _ _ _, moved, idle⟩
  · exact ⟨before, by rw [table_get_put_other _ _ _ _ here]; exact found, runner_moves_refl before, (·)⟩

theorem runners_move_update (change : RunnerId → Runner → Runner) (same : next.runners = s.runners.update change)
    (moved : ∀ rid runner, RunnerMoves runner (change rid runner))
    (idle : ∀ rid runner, (change rid runner).status = .running → runner.status = .running) : RunnersMove s next := by
  intro rid before read
  exact ⟨change rid before, by rw [same]; simp [read], moved rid before, idle rid before⟩

theorem no_new_put (id : RunnerId) (old fresh : Runner) (read : s.runners.get id = some old)
    (same : next.runners = s.runners.put id fresh) : NoNewRunner s next := by
  intro rid absent
  have other : rid ≠ id := by
    rintro rfl
    rw [read] at absent
    cases absent
  rw [same, table_get_put_other _ _ _ _ other]
  exact absent

theorem settle_runner_rows (s : Store Digest) (context : TaskContext) (task : TaskInstance) (status : RunnerStatus)
    (evidence : Evidence) (now : Instant) :
    RunnersMove s (settleInstance s context task status evidence now) ∧
      NoNewRunner s (settleInstance s context task status evidence now) := by
  have ending : ∀ state error, RunnersMove s (endInstance s context.instanceId task state error now) ∧
      NoNewRunner s (endInstance s context.instanceId task state error now) := by
    intro state error
    refine ⟨runners_move_update s _ _ rfl (fun rid runner => cancel_queued_moves _ _ _ rid runner)
      fun rid runner running => cancel_queued_running _ _ _ rid runner running, fun rid absent => ?_⟩
    show ((s.runners.update _).get rid) = none
    rw [table_get_update, absent, Option.map_none]
  have still : ∀ fresh, RunnersMove s (setInstance s context.instanceId fresh) ∧
      NoNewRunner s (setInstance s context.instanceId fresh) :=
    fun fresh => ⟨runners_move_same s _ rfl, fun rid absent => absent⟩
  unfold settleInstance
  split
  · exact still _
  · split
    · exact ending _ _
    · split
      · exact still _
      · split
        · exact ending _ _
        · exact still _

structure InPlace (s next : Store Digest) : Prop where
  nodes : NodesMove s next
  runners : RunnersMove s next
  fresh : NoNewRunner s next
  creations : CreationsStay s next

theorem end_in_place (s closed next : Store Digest) (rid : RunnerId) (old fresh runner : Runner) (status : RunnerStatus)
    (now : Instant) (evidence : Evidence) (requests : List RequestMetrics) (inv : TaskInvariant s)
    (read : s.runners.get rid = some old)
    (done : checkpointTaskResult closed rid runner status now evidence requests = .ok next)
    (runners : closed.runners = s.runners.put rid fresh) (instances : closed.instances = s.instances)
    (nodes : closed.nodes = s.nodes) (open_ : old.status.terminal = false) (terminal : fresh.status.terminal = true)
    (template : fresh.template = old.template) (campaign : fresh.campaign = old.campaign)
    (same : runner.template = old.template) : InPlace s next := by
  have placed := end_runner_placed s closed rid old fresh inv read open_ terminal template campaign runners instances nodes
  have unqueued : fresh.status ≠ .queued ∧ fresh.status ≠ .running := by
    constructor <;> intro bad <;> rw [bad] at terminal <;> cases terminal
  have moved : RunnersMove s closed := runners_move_put s closed rid old fresh read runners
    ⟨template, campaign, fun bad => absurd bad unqueued.1, fun past => by rw [open_] at past; cases past⟩
    fun bad => absurd bad unqueued.2
  have none := no_new_put s closed rid old fresh read runners
  rcases checkpoint_cases closed next rid runner fresh status now evidence requests placed.linked (by rw [runners]; simp)
      (same.trans template.symm) done with ⟨_, still⟩ | ⟨context, id, node, task, _, stored, named, _, owned, settled⟩
  · rw [still]
    exact ⟨nodes_same s closed nodes, moved, none, creations_same s closed instances⟩
  · have blank := unended_blank s rid old inv.linked read open_ id node (nodes ▸ stored) named
    rw [nodes] at stored
    have marks : NodesMove s (markedNode closed id node runner context status evidence now) := by
      refine ⟨fun query before found => ?_, fun query absent => ?_⟩
      · by_cases here : query = id
        · subst here
          cases Option.some.inj (stored.symm.trans found)
          exact ⟨_, table_get_put_self _ _ _, rfl, rfl, rfl, rfl, rfl, rfl, rfl, .inl rfl, .inr blank⟩
        · exact ⟨before, by rw [markedNode, setNode, nodes, table_get_put_other _ _ _ _ here]; exact found, node_moves_refl before⟩
      · have other : query ≠ id := by
          rintro rfl
          rw [stored] at absent
          cases absent
        rw [markedNode, setNode, nodes, table_get_put_other _ _ _ _ other]
        exact absent
    obtain ⟨later, fresher⟩ := settle_runner_rows (markedNode closed id node runner context status evidence now) context
      (recordedTask task runner context status evidence now) status evidence now
    rw [settled]
    refine ⟨nodes_move_trans _ _ _ marks (settle_nodes _ context (recordedTask task runner context status evidence now) status
        evidence now), fun query before found => ?_, fun query absent => fresher query (none query absent), fun query t found => ?_⟩
    · obtain ⟨middle, readM, first, idle⟩ := moved query before found
      obtain ⟨after, readA, second, idle'⟩ := later query middle readM
      refine ⟨after, readA, ⟨second.template.trans first.template, second.campaign.trans first.campaign,
        fun queued => first.queued (second.queued queued), fun past => ?_⟩, fun running => idle (idle' running)⟩
      have kept := first.terminal past
      exact (second.terminal (by rw [kept]; exact past)).trans kept
    · exact settle_creations (markedNode closed id node runner context status evidence now) context task
        (recordedTask task runner context status evidence now) status evidence now owned rfl query t (instances ▸ found)

def startedRunner (runner : Runner) (now : Instant) (owner : String) : Runner :=
  { runner with status := .running, startedAt := some now, schedulerId := some owner }

inductive Progress (s next : Store Digest) (call : Call Digest) (reply : Reply Digest) : Prop where
  | inPlace (rows : InPlace s next) (silent : Silent reply)
  | emitted (caller : Caller) (id : DispatchId) (dueAt : Instant) (fresh : RunnerId)
      (called : call = .activateNode caller id dueAt fresh) (replied : reply = .emitted (some fresh))
      (effect : ActivateEffect s next caller id dueAt fresh (some fresh))
  | started (caller : Caller) (rid : RunnerId) (owner : String) (runner : Runner) (messages : Option (List Json))
      (called : call = .startSelected caller rid owner) (replied : reply = .admitted (some ⟨rid, messages⟩))
      (read : s.runners.get rid = some runner) (queued : runner.status = .queued)
      (same : next = setRunner s rid (startedRunner runner caller.now owner))

theorem put_in_place (s : Store Digest) (rid : RunnerId) (old fresh : Runner) (read : s.runners.get rid = some old)
    (moved : RunnerMoves old fresh) (idle : fresh.status = .running → old.status = .running) :
    InPlace s (setRunner s rid fresh) :=
  ⟨nodes_same s _ rfl, runners_move_put s _ rid old fresh read rfl moved idle, no_new_put s _ rid old fresh read rfl,
    creations_same s _ rfl⟩

theorem campaign_in_place (s : Store Digest) (now : Instant) (campaign : CampaignId) :
    InPlace s (requestCancelCampaign s now campaign) := by
  by_cases known : campaign ∈ s.campaigns
  · refine ⟨nodes_cancelled s _ (fun n => n.campaign = campaign) (by simp [requestCancelCampaign, known]),
      runners_move_update s _ (fun _ runner => cancelRunner campaign now runner) (by simp [requestCancelCampaign, known])
        (fun _ runner => cancel_runner_moves campaign now runner) (fun _ runner => cancel_runner_running campaign now runner),
      fun rid absent => by simp [requestCancelCampaign, known, absent], fun id task read => ?_⟩
    refine ⟨cancelInstance campaign task, by simp [requestCancelCampaign, known, read], ?_⟩
    unfold cancelInstance
    split <;> rfl
  · rw [requestCancelCampaign, if_pos known]
    exact ⟨nodes_same s s rfl, runners_move_same s s rfl, fun _ absent => absent, creations_same s s rfl⟩

variable (digest : Json → Digest)

theorem call_progress (s : Store Digest) (call : Call Digest) (inv : TaskInvariant s) :
    Progress s (perform digest s call).1 call (perform digest s call).2 := by
  generalize same : (perform digest s call).1 = next, replied : (perform digest s call).2 = reply
  have effect := task_effect digest s call
  rw [same, replied] at effect
  cases effect with
  | untouched _ _ eq silent =>
      exact .inPlace ⟨nodes_same s next eq.nodes, runners_move_same s next eq.runners,
        fun rid absent => eq.runners ▸ absent, creations_same s next eq.instances⟩ silent
  | emitted caller id dueAt fresh effect => exact .emitted caller id dueAt fresh rfl rfl effect
  | dropped caller rid owner runner read queued eq =>
      subst eq
      refine .inPlace (put_in_place s rid runner _ read ⟨rfl, rfl, (fun bad => by cases bad), fun past => ?_⟩ fun bad => ?_)
        fun _ => ⟨by simp, by simp⟩
      · rw [queued] at past
        cases past
      · cases bad
  | started caller rid owner runner messages read queued live eq =>
      exact .started caller rid owner runner messages rfl rfl read queued eq
  | requested now rid runner read running eq =>
      subst eq
      exact .inPlace (put_in_place s rid runner { runner with cancelRequested := true } read ⟨rfl, rfl, id, fun _ => rfl⟩ id)
        fun _ => ⟨by simp, by simp⟩
  | ended _ _ closed rid old fresh runner status now evidence requests read done runners instances nodes open_ final terminal
      template campaign eq silent =>
      exact .inPlace (end_in_place s closed next rid old fresh runner status now evidence requests inv read done runners
        instances nodes open_ (final ▸ terminal) template campaign eq) silent
  | campaign now campaign eq =>
      subst eq
      exact .inPlace (campaign_in_place s now campaign) fun _ => ⟨by simp, by simp⟩

theorem call_nodes_go (s : Store Digest) (call : Call Digest) (inv : TaskInvariant s) (id : DispatchId) (before : ExecutionNode)
    (read : s.nodes.get id = some before) : ∃ after, (perform digest s call).1.nodes.get id = some after ∧ NodeGoes before after := by
  cases call_progress digest s call inv with
  | inPlace rows _ =>
      obtain ⟨after, found, moved⟩ := rows.nodes.moves id before read
      exact ⟨after, found, node_moves_goes before after moved⟩
  | emitted caller nid dueAt fresh _ _ effect =>
      cases effect with
      | emitted node task read' waiting owner live free same =>
          rw [same]
          by_cases here : id = nid
          · subst here
            cases Option.some.inj (read.symm.trans read')
            refine ⟨_, table_get_put_self _ _ _, rfl, rfl, rfl, rfl, fun _ => ⟨rfl, rfl⟩, fun bad => ?_⟩
            rw [bad] at waiting
            cases waiting
          · exact ⟨before, by rw [table_get_put_other _ _ _ _ here]; exact read, node_moves_goes _ _ (node_moves_refl before)⟩
  | started caller rid owner runner messages _ _ _ _ same =>
      rw [same]
      exact ⟨before, read, node_moves_goes _ _ (node_moves_refl before)⟩

theorem call_runners_go (s : Store Digest) (call : Call Digest) (inv : TaskInvariant s) (rid : RunnerId) (before : Runner)
    (read : s.runners.get rid = some before) :
    ∃ after, (perform digest s call).1.runners.get rid = some after ∧ RunnerMoves before after := by
  cases call_progress digest s call inv with
  | inPlace rows _ =>
      obtain ⟨after, found, moved, _⟩ := rows.runners rid before read
      exact ⟨after, found, moved⟩
  | emitted caller nid dueAt fresh _ _ effect =>
      cases effect with
      | emitted node task read' waiting owner live free same =>
          have other : rid ≠ fresh := by
            rintro rfl
            rw [free] at read
            cases read
          rw [same]
          exact ⟨before, by rw [table_get_put_other _ _ _ _ other]; exact read, runner_moves_refl before⟩
  | started caller id owner runner messages _ _ read' queued same =>
      rw [same]
      by_cases here : rid = id
      · subst here
        cases Option.some.inj (read.symm.trans read')
        refine ⟨_, table_get_put_self _ _ _, rfl, rfl, (fun bad => by cases bad), fun past => ?_⟩
        rw [queued] at past
        cases past
      · exact ⟨before, by rw [setRunner, table_get_put_other _ _ _ _ here]; exact read, runner_moves_refl before⟩

theorem call_creations (s : Store Digest) (call : Call Digest) (inv : TaskInvariant s) : CreationsStay s (perform digest s call).1 := by
  cases call_progress digest s call inv with
  | inPlace rows _ => exact rows.creations
  | emitted caller nid dueAt fresh _ _ effect =>
      cases effect with
      | emitted node task read waiting owner live free same => exact same ▸ creations_put s _ _ task _ owner rfl rfl
  | started caller rid owner runner messages _ _ _ _ same => exact same ▸ creations_same s _ rfl

end LlmperfOrchestrator.Storage

import LlmperfOrchestrator.Storage.Instances

set_option autoImplicit false

namespace LlmperfOrchestrator.Storage

open Tables Outcomes

variable {Digest : Type} [DecidableEq Digest] (s : Store Digest)

theorem unfinished_none (id : InstanceId) (none : unfinishedNode s id = false) (nid : DispatchId) (node : ExecutionNode)
    (read : s.nodes.get nid = some node) (named : node.taskInstance = id) :
    node.state = .emitted ∧ node.terminalStatus = some .succeeded := by
  by_contra open_
  have found : unfinishedNode s id = true := by
    refine (table_any s.nodes _).mpr ⟨nid, node, read, decide_eq_true ⟨named, ?_⟩⟩
    by_contra both
    exact open_ (by simpa only [not_or, not_not] using both)
  rw [none] at found
  cases found

theorem advance_keeps (id : InstanceId) (old fresh : TaskInstance) (inv : TaskInvariant s) (read : s.instances.get id = some old)
    (campaign : fresh.campaign = old.campaign) : TaskInvariant (advanceInstance s id fresh) := by
  refine set_instance_keeps s id old _ inv read campaign (fun halted => ?_) (fun complete => ?_)
  · cases unfinished : unfinishedNode s id <;> simp [stopped, unfinished] at halted
  · cases unfinished : unfinishedNode s id with
    | true => simp [unfinished] at complete
    | false => exact .inr (unfinished_none s id unfinished)

theorem settle_keeps (context : TaskContext) (old task : TaskInstance) (status : RunnerStatus) (evidence : Evidence)
    (now : Instant) (inv : TaskInvariant s) (read : s.instances.get context.instanceId = some old)
    (campaign : task.campaign = old.campaign) (state : task.state = old.state) :
    TaskInvariant (settleInstance s context task status evidence now) := by
  unfold settleInstance
  split
  · refine set_instance_keeps s context.instanceId old task inv read campaign (fun halted => ?_) (fun complete => ?_)
    · rw [stopped, ← state]
      exact halted
    · exact .inl (state.symm.trans complete)
  · split
    · refine end_keeps s context.instanceId old _ now inv read campaign ?_
      split <;> simp
    · split
      · exact advance_keeps s context.instanceId old task inv read campaign
      · split
        · exact end_keeps s context.instanceId old _ now inv read campaign (by simp)
        · exact advance_keeps s context.instanceId old _ inv read campaign

theorem one_or_none_nil {Row : Type} (rows : List Row) (found : oneOrNone rows = .ok none) : rows = [] := by
  match rows with
  | [] => rfl
  | [_] => cases found
  | _ :: _ :: _ => cases found

theorem one_or_none_some {Row : Type} (rows : List Row) (row : Row) (found : oneOrNone rows = .ok (some row)) : rows = [row] := by
  match rows with
  | [] => cases found
  | [_] =>
      cases found
      rfl
  | _ :: _ :: _ => cases found

theorem source_found (rid : RunnerId) (runner : Runner) (context : TaskContext) (linked : Linked s)
    (read : s.runners.get rid = some runner) (carried : runner.template.taskContext = some context) :
    ∃ id node, s.nodes.get id = some node ∧ node.runner = some rid ∧ node.nodeId = context.nodeId ∧
      node.taskInstance = context.instanceId := by
  obtain ⟨id, node, stored, named⟩ := (linked.source rid runner read).2 context carried
  obtain ⟨other, read', template, _⟩ := linked.runner id node rid stored named
  cases Option.some.inj (read.symm.trans read')
  obtain ⟨_, own, held, instanceId, nodeId, _⟩ := linked.context id node stored
  rw [← template, carried] at held
  cases held
  exact ⟨id, node, stored, named, nodeId.symm, instanceId.symm⟩

def markedNode (s : Store Digest) (id : DispatchId) (node : ExecutionNode) (runner : Runner) (context : TaskContext)
    (status : RunnerStatus) (evidence : Evidence) (now : Instant) : Store Digest :=
  setNode s id { node with
    actualStartedAt := some (startedInstant runner context evidence now)
    actualCompletedAt := some (completedInstant context evidence now)
    terminalStatus := some status }

def recordedTask (task : TaskInstance) (runner : Runner) (context : TaskContext) (status : RunnerStatus)
    (evidence : Evidence) (now : Instant) : TaskInstance :=
  { task with outcome := Dict.put context.nodeId (nodeOutcome context status evidence
      (startedInstant runner context evidence now) (completedInstant context evidence now)) task.outcome }

theorem checkpoint_context_cases (s next : Store Digest) (rid : RunnerId) (runner stored : Runner) (context : TaskContext)
    (status : RunnerStatus) (now : Instant) (evidence : Evidence) (linked : Linked s)
    (read : s.runners.get rid = some stored) (carried : stored.template.taskContext = some context)
    (done : checkpointContext s rid runner context status now evidence = .ok next) :
    ∃ id node task, s.nodes.get id = some node ∧ node.runner = some rid ∧ node.taskInstance = context.instanceId ∧
      s.instances.get context.instanceId = some task ∧
      next = settleInstance (markedNode s id node runner context status evidence now) context
        (recordedTask task runner context status evidence now) status evidence now := by
  obtain ⟨id, node, readNode, named, nodeId, instanceId⟩ := source_found s rid stored context linked read carried
  obtain ⟨task, owned, _⟩ := linked.owner id node readNode
  rw [instanceId] at owned
  obtain ⟨_, own, held, _, _, payload⟩ := linked.context id node readNode
  obtain ⟨other, read', template, _⟩ := linked.runner id node rid readNode named
  cases Option.some.inj (read.symm.trans read')
  rw [← template, carried] at held
  cases held
  unfold checkpointContext at done
  rw [if_neg (by
    rintro ⟨atomic, missing⟩
    rcases payload with batch | present
    · exact atomic batch
    · exact present missing), owned] at done
  obtain ⟨source, looked, placed⟩ := (bind_ok _ _ _).mp done
  have member : (id, node) ∈ s.nodes.filter fun _ n => n.runner = some rid ∧ n.nodeId = context.nodeId :=
    (table_filter s.nodes _ id node).mpr ⟨readNode, decide_eq_true ⟨named, nodeId⟩⟩
  cases source with
  | none =>
      rw [one_or_none_nil _ looked] at member
      cases member
  | some found =>
      rw [one_or_none_some _ _ looked] at member
      obtain rfl := List.mem_singleton.mp member
      cases placed
      exact ⟨id, node, task, readNode, named, instanceId, owned, rfl⟩

theorem checkpoint_cases (s next : Store Digest) (rid : RunnerId) (runner stored : Runner) (status : RunnerStatus)
    (now : Instant) (evidence : Evidence) (requests : List RequestMetrics) (linked : Linked s)
    (read : s.runners.get rid = some stored) (template : runner.template = stored.template)
    (done : checkpointTaskResult s rid runner status now evidence requests = .ok next) :
    (stored.template.taskContext = none ∧ next = s) ∨
      ∃ context id node task, stored.template.taskContext = some context ∧ s.nodes.get id = some node ∧
        node.runner = some rid ∧ node.taskInstance = context.instanceId ∧
        s.instances.get context.instanceId = some task ∧
        next = settleInstance (markedNode s id node runner context status evidence now) context
          (recordedTask task runner context status evidence now) status evidence now := by
  have ungrouped := (linked.source rid stored read).1
  unfold checkpointTaskResult at done
  rw [template, if_neg (by simp [ungrouped])] at done
  cases carried : stored.template.taskContext with
  | none =>
      rw [carried] at done
      cases done
      exact .inl ⟨rfl, rfl⟩
  | some context =>
      rw [carried] at done
      obtain ⟨id, node, task, readNode, named, place, owned, same⟩ :=
        checkpoint_context_cases s next rid runner stored context status now evidence linked read carried done
      exact .inr ⟨context, id, node, task, rfl, readNode, named, place, owned, same⟩

theorem checkpoint_keeps (s next : Store Digest) (rid : RunnerId) (runner stored : Runner) (status : RunnerStatus)
    (now : Instant) (evidence : Evidence) (requests : List RequestMetrics) (inv : TaskInvariant s)
    (read : s.runners.get rid = some stored) (template : runner.template = stored.template)
    (terminal : stored.status.terminal = true)
    (blank : ∀ id node, s.nodes.get id = some node → node.runner = some rid → node.terminalStatus = none)
    (done : checkpointTaskResult s rid runner status now evidence requests = .ok next) : TaskInvariant next := by
  rcases checkpoint_cases s next rid runner stored status now evidence requests inv.linked read template done with
    ⟨_, same⟩ | ⟨context, id, node, task, _, readNode, named, _, owned, same⟩
  · exact same ▸ inv
  · rw [same]
    refine settle_keeps _ context task _ status evidence now ?_ owned rfl rfl
    exact mark_keeps s id node _ rid stored inv readNode
      ⟨rfl, rfl, rfl, rfl, rfl, rfl, rfl, .inl rfl, .inr (blank id node readNode named)⟩ (by simp) named read terminal

theorem unended_blank (rid : RunnerId) (runner : Runner) (linked : Linked s) (read : s.runners.get rid = some runner)
    (open_ : runner.status.terminal = false) (id : DispatchId) (node : ExecutionNode) (stored : s.nodes.get id = some node)
    (named : node.runner = some rid) : node.terminalStatus = none := by
  by_contra past
  obtain ⟨_, other, final, named', read', terminal⟩ := linked.checkpoint id node stored past
  cases Option.some.inj (named.symm.trans named')
  cases Option.some.inj (read.symm.trans read')
  rw [open_] at terminal
  cases terminal

theorem end_runner_placed (s closed : Store Digest) (rid : RunnerId) (old fresh : Runner) (inv : TaskInvariant s)
    (read : s.runners.get rid = some old) (open_ : old.status.terminal = false) (terminal : fresh.status.terminal = true)
    (template : fresh.template = old.template) (campaign : fresh.campaign = old.campaign)
    (runners : closed.runners = s.runners.put rid fresh) (instances : closed.instances = s.instances)
    (nodes : closed.nodes = s.nodes) : TaskInvariant closed := by
  have moved : RunnerMoves old fresh := by
    refine ⟨template, campaign, fun queued => ?_, fun past => ?_⟩
    · rw [queued] at terminal
      cases terminal
    · rw [open_] at past
      cases past
  exact invariant_tables (setRunner s rid fresh) closed (set_runner_keeps s rid old fresh inv read moved) runners instances nodes

theorem end_runner_keeps (s closed next : Store Digest) (rid : RunnerId) (old fresh runner : Runner) (status : RunnerStatus)
    (now : Instant) (evidence : Evidence) (requests : List RequestMetrics) (inv : TaskInvariant s)
    (read : s.runners.get rid = some old) (open_ : old.status.terminal = false) (terminal : fresh.status.terminal = true)
    (template : fresh.template = old.template) (campaign : fresh.campaign = old.campaign)
    (same : runner.template = old.template) (runners : closed.runners = s.runners.put rid fresh)
    (instances : closed.instances = s.instances) (nodes : closed.nodes = s.nodes)
    (done : checkpointTaskResult closed rid runner status now evidence requests = .ok next) : TaskInvariant next := by
  have placed := end_runner_placed s closed rid old fresh inv read open_ terminal template campaign runners instances nodes
  refine checkpoint_keeps closed next rid runner fresh status now evidence requests placed (by rw [runners]; simp)
    (same.trans template.symm) terminal (fun id node stored named => ?_) done
  exact unended_blank s rid old inv.linked read open_ id node (nodes ▸ stored) named

theorem cancel_runner_moves (campaign : CampaignId) (now : Instant) (runner : Runner) :
    RunnerMoves runner (cancelRunner campaign now runner) := by
  unfold cancelRunner
  split
  · exact runner_moves_refl runner
  · rename_i live
    have open_ : runner.status.terminal = false := by
      cases past : runner.status.terminal with
      | false => rfl
      | true => exact absurd (.inr past) live
    split
    · exact ⟨rfl, rfl, (fun bad => by cases bad), fun past => by rw [open_] at past; cases past⟩
    · exact ⟨rfl, rfl, id, fun _ => rfl⟩

theorem cancel_runner_unqueued (campaign : CampaignId) (now : Instant) (runner : Runner)
    (mine : runner.campaign = some campaign) : (cancelRunner campaign now runner).status ≠ .queued := by
  unfold cancelRunner
  split
  · rename_i past
    rcases past with other | past
    · exact absurd mine other
    · intro queued
      rw [queued] at past
      cases past
  · split
    · simp
    · rename_i started
      exact started

theorem cancel_instance_state (campaign : CampaignId) (task : TaskInstance) :
    cancelInstance campaign task = task ∨
      (task.campaign = campaign ∧ task.state.terminal = false ∧ (cancelInstance campaign task).state = .cancelled ∧
        (cancelInstance campaign task).campaign = task.campaign) := by
  unfold cancelInstance
  split
  · exact .inl rfl
  · rename_i live
    simp only [not_or, ne_eq, Decidable.not_not, Bool.not_eq_true] at live
    exact .inr ⟨live.1, live.2, rfl, rfl⟩

def campaignRewriting (s : Store Digest) (now : Instant) (campaign : CampaignId) (known : campaign ∈ s.campaigns) :
    Rewriting s (requestCancelCampaign s now campaign) where
  onRunner := fun _ runner => cancelRunner campaign now runner
  onInstance := fun _ task => cancelInstance campaign task
  onNode := fun _ node => cancelWaiting (fun n => n.campaign = campaign) node
  runners := fun id => by simp [requestCancelCampaign, known]
  instances := fun id => by simp [requestCancelCampaign, known]
  nodes := fun id => by simp [requestCancelCampaign, known]
  runnerMoves := fun _ runner _ => cancel_runner_moves campaign now runner
  campaigns := by
    intro _ task _
    rcases cancel_instance_state campaign task with same | ⟨_, _, _, kept⟩
    · rw [same]
    · exact kept
  nodeMoves := fun _ node _ => cancel_waiting_moves _ node

theorem campaign_keeps (now : Instant) (campaign : CampaignId) (inv : TaskInvariant s) :
    TaskInvariant (requestCancelCampaign s now campaign) := by
  by_cases known : campaign ∈ s.campaigns
  · refine rewriting_keeps (campaignRewriting s now campaign known) inv (fun nid node _ blank past => ?_)
      (fun id task found before halted nid node readNode named => ?_) (fun id task found before complete => ?_)
    · exact absurd blank (by simpa only [campaignRewriting, cancel_waiting_checkpoint] using past)
    · rcases cancel_instance_state campaign task with same | ⟨mine, _, _, _⟩
      · exact absurd (by simpa only [campaignRewriting, same] using halted) before
      · obtain ⟨owner, owned, campaigns⟩ := inv.linked.owner nid node readNode
        rw [named, found] at owned
        cases owned
        have here : node.campaign = campaign := campaigns.symm.trans mine
        refine ⟨cancel_waiting_idle _ node (decide_eq_true here), fun rid runner held stored => ?_⟩
        obtain ⟨other, read, _, paid⟩ := inv.linked.runner nid node rid readNode held
        cases Option.some.inj (stored.symm.trans read)
        exact cancel_runner_unqueued campaign now runner (here ▸ paid)
    · rcases cancel_instance_state campaign task with same | ⟨_, _, cancelled, _⟩
      · exact absurd (by simpa only [campaignRewriting, same] using complete) before
      · rw [show (campaignRewriting s now campaign known).onInstance id task = cancelInstance campaign task from rfl,
          cancelled] at complete
        cases complete
  · rw [requestCancelCampaign, if_pos known]
    exact inv

theorem activate_keeps (caller : Caller) (id : DispatchId) (dueAt : Instant) (fresh : RunnerId) (node : ExecutionNode)
    (task : TaskInstance) (inv : TaskInvariant s) (read : s.nodes.get id = some node) (waiting : node.state.waiting = true)
    (owned : s.instances.get node.taskInstance = some task) (free : s.runners.get fresh = none) : TaskInvariant { s with
      runners := s.runners.put fresh (fromDispatch node)
      nodes := s.nodes.put id
        { node with dueAt := some dueAt, state := .emitted, runner := some fresh, emittedAt := some caller.now }
      instances := s.instances.put node.taskInstance { task with state := .active } } := by
  obtain ⟨linked, closed, finished⟩ := inv
  have unemitted : node.runner = none := by
    by_contra owner
    rw [(linked.emitted id node read).mpr owner] at waiting
    cases waiting
  have unused : ∀ nid other, s.nodes.get nid = some other → other.runner ≠ some fresh := by
    intro nid other stored named
    obtain ⟨_, taken, _⟩ := linked.runner nid other fresh stored named
    rw [free] at taken
    cases taken
  have older : ∀ rid runner, s.runners.get rid = some runner → rid ≠ fresh := by
    rintro rid runner stored rfl
    rw [free] at stored
    cases stored
  refine ⟨⟨fun nid n found => ?_, fun nid n found => ?_, fun nid n found => ?_, fun nid n rid found named => ?_,
    fun rid runner found => ?_, fun a b n m rid foundA foundB namedA namedB => ?_, fun nid n found past => ?_⟩,
    fun iid t found halted nid n foundNode named => ?_, fun iid t found complete nid n foundNode named => ?_⟩
  · rcases table_put_cases _ _ _ _ _ found with ⟨_, rfl⟩ | ⟨_, stored⟩
    · obtain ⟨owner, read', campaign⟩ := linked.owner id node read
      cases Option.some.inj (owned.symm.trans read')
      exact ⟨_, table_get_put_self _ _ _, campaign⟩
    · obtain ⟨owner, read', campaign⟩ := linked.owner nid n stored
      by_cases same : n.taskInstance = node.taskInstance
      · rw [same, owned] at read'
        cases read'
        exact ⟨{ task with state := .active }, by rw [same]; exact table_get_put_self s.instances _ _, campaign⟩
      · exact ⟨owner, by rw [table_get_put_other _ _ _ _ same]; exact read', campaign⟩
  · rcases table_put_cases _ _ _ _ _ found with ⟨_, rfl⟩ | ⟨_, stored⟩
    · exact ⟨(linked.context id node read).ungrouped, (linked.context id node read).named⟩
    · exact linked.context nid n stored
  · rcases table_put_cases _ _ _ _ _ found with ⟨_, rfl⟩ | ⟨_, stored⟩
    · simp
    · exact linked.emitted nid n stored
  · rcases table_put_cases _ _ _ _ _ found with ⟨_, rfl⟩ | ⟨_, stored⟩
    · cases named
      exact ⟨_, table_get_put_self _ _ _, rfl, rfl⟩
    · obtain ⟨runner, read', facts⟩ := linked.runner nid n rid stored named
      exact ⟨runner, by rw [table_get_put_other _ _ _ _ (older rid runner read')]; exact read', facts⟩
  · rcases table_put_cases _ _ _ _ _ found with ⟨same, rfl⟩ | ⟨_, stored⟩
    · exact ⟨(linked.context id node read).ungrouped, fun _ _ => ⟨id, _, table_get_put_self s.nodes id _, by rw [same]⟩⟩
    · obtain ⟨ungrouped, sourced⟩ := linked.source rid runner stored
      refine ⟨ungrouped, fun context carried => ?_⟩
      obtain ⟨nid, other, read', named⟩ := sourced context carried
      have different : nid ≠ id := by
        rintro rfl
        cases Option.some.inj (read.symm.trans read')
        rw [unemitted] at named
        cases named
      exact ⟨nid, other, by rw [table_get_put_other _ _ _ _ different]; exact read', named⟩
  · rcases table_put_cases _ _ _ _ _ foundA with ⟨sameA, rfl⟩ | ⟨_, storedA⟩
    · rcases table_put_cases _ _ _ _ _ foundB with ⟨sameB, _⟩ | ⟨_, storedB⟩
      · exact sameA.trans sameB.symm
      · exact absurd (namedB.trans namedA.symm) (unused b m storedB)
    · rcases table_put_cases _ _ _ _ _ foundB with ⟨_, rfl⟩ | ⟨_, storedB⟩
      · exact absurd (namedA.trans namedB.symm) (unused a n storedA)
      · exact linked.apart a b n m rid storedA storedB namedA namedB
  · rcases table_put_cases _ _ _ _ _ found with ⟨_, rfl⟩ | ⟨_, stored⟩
    · obtain ⟨_, rid, _, named, _⟩ := linked.checkpoint id node read past
      rw [unemitted] at named
      cases named
    · obtain ⟨instant, rid, runner, named, read', terminal⟩ := linked.checkpoint nid n stored past
      exact ⟨instant, rid, runner, named, by rw [table_get_put_other _ _ _ _ (older rid runner read')]; exact read', terminal⟩
  · rcases table_put_cases _ _ _ _ _ found with ⟨_, rfl⟩ | ⟨other, stored⟩
    · rcases halted with bad | bad <;> cases bad
    · rcases table_put_cases _ _ _ _ _ foundNode with ⟨_, rfl⟩ | ⟨_, storedNode⟩
      · exact absurd named.symm other
      · obtain ⟨idle, unqueued⟩ := closed iid t stored halted nid n storedNode named
        refine ⟨idle, fun rid runner held readRunner => ?_⟩
        rcases table_put_cases _ _ _ _ _ readRunner with ⟨rfl, _⟩ | ⟨_, read'⟩
        · exact absurd held (unused nid n storedNode)
        · exact unqueued rid runner held read'
  · rcases table_put_cases _ _ _ _ _ found with ⟨_, rfl⟩ | ⟨other, stored⟩
    · cases complete
    · rcases table_put_cases _ _ _ _ _ foundNode with ⟨_, rfl⟩ | ⟨_, storedNode⟩
      · exact absurd named.symm other
      · exact finished iid t stored complete nid n storedNode named

end LlmperfOrchestrator.Storage

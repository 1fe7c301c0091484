import LlmperfOrchestrator.Storage.Effects

set_option autoImplicit false

namespace LlmperfOrchestrator.Storage

open Tables Outcomes

section

variable {Digest : Type} [DecidableEq Digest]

def stopped (task : TaskInstance) : Prop := task.state = .failed ∨ task.state = .cancelled

structure NodeContext (node : ExecutionNode) : Prop where
  ungrouped : node.template.groupedContexts = []
  named : ∃ context, node.template.taskContext = some context ∧ context.instanceId = node.taskInstance ∧
    context.nodeId = node.nodeId ∧ (context.executionKind = .batch ∨ context.payloadId ≠ none)

structure Linked (s : Store Digest) : Prop where
  owner : ∀ id node, s.nodes.get id = some node →
    ∃ task, s.instances.get node.taskInstance = some task ∧ task.campaign = node.campaign
  context : ∀ id node, s.nodes.get id = some node → NodeContext node
  emitted : ∀ id node, s.nodes.get id = some node → (node.state = .emitted ↔ node.runner ≠ none)
  runner : ∀ id node rid, s.nodes.get id = some node → node.runner = some rid →
    ∃ runner, s.runners.get rid = some runner ∧ runner.template = node.template ∧ runner.campaign = some node.campaign
  source : ∀ rid runner, s.runners.get rid = some runner → runner.template.groupedContexts = [] ∧
    ∀ context, runner.template.taskContext = some context → ∃ id node, s.nodes.get id = some node ∧ node.runner = some rid
  apart : ∀ a b n m rid, s.nodes.get a = some n → s.nodes.get b = some m → n.runner = some rid → m.runner = some rid → a = b
  checkpoint : ∀ id node, s.nodes.get id = some node → node.terminalStatus ≠ none →
    node.actualCompletedAt ≠ none ∧ ∃ rid runner, node.runner = some rid ∧ s.runners.get rid = some runner ∧
      runner.status.terminal = true

def Closed (s : Store Digest) : Prop :=
  ∀ id task, s.instances.get id = some task → stopped task →
    ∀ nid node, s.nodes.get nid = some node → node.taskInstance = id →
      node.state.waiting = false ∧ ∀ rid runner, node.runner = some rid → s.runners.get rid = some runner → runner.status ≠ .queued

def Finished (s : Store Digest) : Prop :=
  ∀ id task, s.instances.get id = some task → task.state = .completed →
    ∀ nid node, s.nodes.get nid = some node → node.taskInstance = id →
      node.state = .emitted ∧ node.terminalStatus = some .succeeded

structure TaskInvariant (s : Store Digest) : Prop where
  linked : Linked s
  closed : Closed s
  finished : Finished s

structure RunnerMoves (before after : Runner) : Prop where
  template : after.template = before.template
  campaign : after.campaign = before.campaign
  queued : after.status = .queued → before.status = .queued
  terminal : before.status.terminal = true → after.status = before.status

structure NodeMoves (before after : ExecutionNode) : Prop where
  campaign : after.campaign = before.campaign
  taskInstance : after.taskInstance = before.taskInstance
  nodeId : after.nodeId = before.nodeId
  template : after.template = before.template
  runner : after.runner = before.runner
  dependencies : after.dependencies = before.dependencies
  delay : after.delay = before.delay
  state : after.state = before.state ∨ (before.state.waiting = true ∧ after.state = .cancelled)
  checkpoint : (after.terminalStatus = before.terminalStatus ∧ after.actualCompletedAt = before.actualCompletedAt) ∨
    before.terminalStatus = none

theorem runner_moves_refl (runner : Runner) : RunnerMoves runner runner := ⟨rfl, rfl, id, fun _ => rfl⟩

theorem node_moves_refl (node : ExecutionNode) : NodeMoves node node :=
  ⟨rfl, rfl, rfl, rfl, rfl, rfl, rfl, .inl rfl, .inl ⟨rfl, rfl⟩⟩

structure Rewriting (s next : Store Digest) where
  onRunner : RunnerId → Runner → Runner
  onInstance : InstanceId → TaskInstance → TaskInstance
  onNode : DispatchId → ExecutionNode → ExecutionNode
  runners : ∀ id, next.runners.get id = (s.runners.get id).map (onRunner id)
  instances : ∀ id, next.instances.get id = (s.instances.get id).map (onInstance id)
  nodes : ∀ id, next.nodes.get id = (s.nodes.get id).map (onNode id)
  runnerMoves : ∀ id runner, s.runners.get id = some runner → RunnerMoves runner (onRunner id runner)
  campaigns : ∀ id task, s.instances.get id = some task → (onInstance id task).campaign = task.campaign
  nodeMoves : ∀ id node, s.nodes.get id = some node → NodeMoves node (onNode id node)

section

variable {s next : Store Digest} (change : Rewriting s next)

theorem rewritten_runner (id : RunnerId) (after : Runner) (read : next.runners.get id = some after) :
    ∃ before, s.runners.get id = some before ∧ after = change.onRunner id before ∧ RunnerMoves before after := by
  rw [change.runners id, Option.map_eq_some_iff] at read
  obtain ⟨before, found, same⟩ := read
  exact ⟨before, found, same.symm, same ▸ change.runnerMoves id before found⟩

theorem rewritten_instance (id : InstanceId) (after : TaskInstance) (read : next.instances.get id = some after) :
    ∃ before, s.instances.get id = some before ∧ after = change.onInstance id before := by
  rw [change.instances id, Option.map_eq_some_iff] at read
  obtain ⟨before, found, same⟩ := read
  exact ⟨before, found, same.symm⟩

theorem rewritten_node (id : DispatchId) (after : ExecutionNode) (read : next.nodes.get id = some after) :
    ∃ before, s.nodes.get id = some before ∧ after = change.onNode id before ∧ NodeMoves before after := by
  rw [change.nodes id, Option.map_eq_some_iff] at read
  obtain ⟨before, found, same⟩ := read
  exact ⟨before, found, same.symm, same ▸ change.nodeMoves id before found⟩

theorem runner_rewrites (id : RunnerId) (before : Runner) (read : s.runners.get id = some before) :
    next.runners.get id = some (change.onRunner id before) := by
  rw [change.runners id, read, Option.map_some]

theorem instance_rewrites (id : InstanceId) (before : TaskInstance) (read : s.instances.get id = some before) :
    next.instances.get id = some (change.onInstance id before) := by
  rw [change.instances id, read, Option.map_some]

theorem node_rewrites (id : DispatchId) (before : ExecutionNode) (read : s.nodes.get id = some before) :
    next.nodes.get id = some (change.onNode id before) := by
  rw [change.nodes id, read, Option.map_some]

-- A node that gets its checkpoint here gets it whole, from an ended Runner.
def Marks : Prop :=
  ∀ id node, s.nodes.get id = some node → node.terminalStatus = none → (change.onNode id node).terminalStatus ≠ none →
    (change.onNode id node).actualCompletedAt ≠ none ∧
      ∃ rid runner, node.runner = some rid ∧ s.runners.get rid = some runner ∧ runner.status.terminal = true

theorem linked_rewriting (linked : Linked s) (marks : Marks change) : Linked next := by
  refine ⟨fun id after read => ?_, fun id after read => ?_, fun id after read => ?_, fun id after rid read named => ?_,
    fun rid after read => ?_, fun a b n m rid readA readB namedA namedB => ?_, fun id after read past => ?_⟩
  · obtain ⟨node, found, _, moved⟩ := rewritten_node change id after read
    obtain ⟨task, owned, campaign⟩ := linked.owner id node found
    refine ⟨change.onInstance node.taskInstance task, ?_, ?_⟩
    · rw [moved.taskInstance]
      exact instance_rewrites change _ task owned
    · rw [change.campaigns _ task owned, campaign, moved.campaign]
  · obtain ⟨node, found, _, moved⟩ := rewritten_node change id after read
    obtain ⟨ungrouped, context, carried, coordinates⟩ := linked.context id node found
    exact ⟨moved.template ▸ ungrouped, context, moved.template ▸ carried, moved.taskInstance ▸ moved.nodeId ▸ coordinates⟩
  · obtain ⟨node, found, _, moved⟩ := rewritten_node change id after read
    have before := linked.emitted id node found
    rw [moved.runner]
    rcases moved.state with same | ⟨waiting, dropped⟩
    · rw [same]
      exact before
    · have unemitted : node.state ≠ .emitted := by
        intro state
        rw [state] at waiting
        cases waiting
      rw [dropped]
      exact ⟨(fun bad => by cases bad), fun named => absurd (before.mpr named) unemitted⟩
  · obtain ⟨node, found, _, moved⟩ := rewritten_node change id after read
    rw [moved.runner] at named
    obtain ⟨runner, stored, template, campaign⟩ := linked.runner id node rid found named
    have step := change.runnerMoves rid runner stored
    exact ⟨_, runner_rewrites change rid runner stored, by rw [step.template, template, moved.template],
      by rw [step.campaign, campaign, moved.campaign]⟩
  · obtain ⟨runner, found, _, moved⟩ := rewritten_runner change rid after read
    rw [moved.template]
    obtain ⟨ungrouped, sourced⟩ := linked.source rid runner found
    refine ⟨ungrouped, fun context carried => ?_⟩
    obtain ⟨id, node, stored, named⟩ := sourced context carried
    exact ⟨id, _, node_rewrites change id node stored, by rw [(change.nodeMoves id node stored).runner, named]⟩
  · obtain ⟨node, foundA, _, movedA⟩ := rewritten_node change a n readA
    obtain ⟨other, foundB, _, movedB⟩ := rewritten_node change b m readB
    exact linked.apart a b node other rid foundA foundB (movedA.runner ▸ namedA) (movedB.runner ▸ namedB)
  · obtain ⟨node, found, same, moved⟩ := rewritten_node change id after read
    have ended : after.actualCompletedAt ≠ none ∧ ∃ rid runner, node.runner = some rid ∧ s.runners.get rid = some runner ∧
        runner.status.terminal = true := by
      by_cases fresh : node.terminalStatus = none
      · subst same
        exact marks id node found fresh past
      · rcases moved.checkpoint with ⟨kept, instant⟩ | blank
        · rw [instant]
          exact linked.checkpoint id node found (kept ▸ past)
        · exact absurd blank fresh
    obtain ⟨instant, rid, runner, named, stored, terminal⟩ := ended
    have step := change.runnerMoves rid runner stored
    exact ⟨instant, rid, _, moved.runner ▸ named, runner_rewrites change rid runner stored,
      by rw [step.terminal terminal]; exact terminal⟩

theorem waiting_rewriting (before after : ExecutionNode) (moved : NodeMoves before after)
    (idle : before.state.waiting = false) : after.state = before.state := by
  rcases moved.state with same | ⟨waiting, _⟩
  · exact same
  · rw [idle] at waiting
    cases waiting

theorem closed_rewriting (closed : Closed s)
    (newly : ∀ id task, s.instances.get id = some task → ¬ stopped task → stopped (change.onInstance id task) →
      ∀ nid node, s.nodes.get nid = some node → node.taskInstance = id → (change.onNode nid node).state.waiting = false ∧
        ∀ rid runner, node.runner = some rid → s.runners.get rid = some runner → (change.onRunner rid runner).status ≠ .queued) :
    Closed next := by
  intro id after read halted nid placed readNode named
  obtain ⟨task, found, same⟩ := rewritten_instance change id after read
  obtain ⟨node, foundNode, sameNode, moved⟩ := rewritten_node change nid placed readNode
  subst same
  rw [moved.taskInstance] at named
  by_cases before : stopped task
  · obtain ⟨idle, unqueued⟩ := closed id task found before nid node foundNode named
    refine ⟨by rw [waiting_rewriting node placed moved idle]; exact idle, fun rid final owned readRunner queued => ?_⟩
    obtain ⟨runner, stored, _, step⟩ := rewritten_runner change rid final readRunner
    exact unqueued rid runner (moved.runner ▸ owned) stored (step.queued queued)
  · obtain ⟨idle, unqueued⟩ := newly id task found before halted nid node foundNode named
    refine ⟨sameNode ▸ idle, fun rid final owned readRunner => ?_⟩
    obtain ⟨runner, stored, sameRunner, _⟩ := rewritten_runner change rid final readRunner
    rw [sameRunner]
    exact unqueued rid runner (moved.runner ▸ owned) stored

theorem finished_rewriting (finished : Finished s)
    (newly : ∀ id task, s.instances.get id = some task → task.state ≠ .completed →
      (change.onInstance id task).state = .completed → ∀ nid node, s.nodes.get nid = some node → node.taskInstance = id →
        (change.onNode nid node).state = .emitted ∧ (change.onNode nid node).terminalStatus = some .succeeded) :
    Finished next := by
  intro id after read complete nid placed readNode named
  obtain ⟨task, found, same⟩ := rewritten_instance change id after read
  obtain ⟨node, foundNode, sameNode, moved⟩ := rewritten_node change nid placed readNode
  subst same
  rw [moved.taskInstance] at named
  by_cases before : task.state = .completed
  · obtain ⟨emitted, succeeded⟩ := finished id task found before nid node foundNode named
    refine ⟨?_, ?_⟩
    · rw [waiting_rewriting node placed moved (by rw [emitted]; rfl), emitted]
    · rcases moved.checkpoint with ⟨kept, _⟩ | blank
      · rw [kept, succeeded]
      · rw [succeeded] at blank
        cases blank
  · subst sameNode
    exact newly id task found before complete nid node foundNode named

theorem rewriting_keeps (inv : TaskInvariant s) (marks : Marks change)
    (stops : ∀ id task, s.instances.get id = some task → ¬ stopped task → stopped (change.onInstance id task) →
      ∀ nid node, s.nodes.get nid = some node → node.taskInstance = id → (change.onNode nid node).state.waiting = false ∧
        ∀ rid runner, node.runner = some rid → s.runners.get rid = some runner → (change.onRunner rid runner).status ≠ .queued)
    (completes : ∀ id task, s.instances.get id = some task → task.state ≠ .completed →
      (change.onInstance id task).state = .completed → ∀ nid node, s.nodes.get nid = some node → node.taskInstance = id →
        (change.onNode nid node).state = .emitted ∧ (change.onNode nid node).terminalStatus = some .succeeded) :
    TaskInvariant next :=
  ⟨linked_rewriting change inv.linked marks, closed_rewriting change inv.closed stops,
    finished_rewriting change inv.finished completes⟩

end

end

section

variable {Digest : Type} [DecidableEq Digest]

theorem invariant_tables (s next : Store Digest) (inv : TaskInvariant s) (runners : next.runners = s.runners)
    (instances : next.instances = s.instances) (nodes : next.nodes = s.nodes) : TaskInvariant next := by
  obtain ⟨⟨owner, context, emitted, runner, source, apart, checkpoint⟩, closed, finished⟩ := inv
  refine ⟨⟨?_, ?_, ?_, ?_, ?_, ?_, ?_⟩, ?_, ?_⟩
  · rw [nodes, instances]
    exact owner
  · rw [nodes]
    exact context
  · rw [nodes]
    exact emitted
  · rw [nodes, runners]
    exact runner
  · rw [nodes, runners]
    exact source
  · rw [nodes]
    exact apart
  · rw [nodes, runners]
    exact checkpoint
  · unfold Closed
    rw [instances, nodes, runners]
    exact closed
  · unfold Finished
    rw [instances, nodes]
    exact finished

def runnerRewriting (s : Store Digest) (id : RunnerId) (old fresh : Runner) (read : s.runners.get id = some old)
    (moved : RunnerMoves old fresh) : Rewriting s (setRunner s id fresh) where
  onRunner := fun query runner => if query = id then fresh else runner
  onInstance := fun _ task => task
  onNode := fun _ node => node
  runners := fun query => table_get_put_map s.runners id query old fresh read
  instances := fun query => by simp [setRunner]
  nodes := fun query => by simp [setRunner]
  runnerMoves := by
    intro query runner found
    by_cases same : query = id
    · subst same
      cases Option.some.inj (read.symm.trans found)
      simpa using moved
    · simpa [same] using runner_moves_refl runner
  campaigns := fun _ _ _ => rfl
  nodeMoves := fun _ node _ => node_moves_refl node

theorem set_runner_keeps (s : Store Digest) (id : RunnerId) (old fresh : Runner) (inv : TaskInvariant s)
    (read : s.runners.get id = some old) (moved : RunnerMoves old fresh) : TaskInvariant (setRunner s id fresh) :=
  rewriting_keeps (runnerRewriting s id old fresh read moved) inv (fun _ _ _ blank past => absurd blank past)
    (fun _ _ _ open_ halted => absurd halted open_) (fun _ _ _ open_ complete => absurd complete open_)

def nodeRewriting (s : Store Digest) (id : DispatchId) (old fresh : ExecutionNode) (read : s.nodes.get id = some old)
    (moved : NodeMoves old fresh) : Rewriting s (setNode s id fresh) where
  onRunner := fun _ runner => runner
  onInstance := fun _ task => task
  onNode := fun query node => if query = id then fresh else node
  runners := fun query => by simp [setNode]
  instances := fun query => by simp [setNode]
  nodes := fun query => table_get_put_map s.nodes id query old fresh read
  runnerMoves := fun _ runner _ => runner_moves_refl runner
  campaigns := fun _ _ _ => rfl
  nodeMoves := by
    intro query node found
    by_cases same : query = id
    · subst same
      cases Option.some.inj (read.symm.trans found)
      simpa using moved
    · simpa [same] using node_moves_refl node

theorem mark_keeps (s : Store Digest) (id : DispatchId) (old fresh : ExecutionNode) (rid : RunnerId) (runner : Runner)
    (inv : TaskInvariant s) (read : s.nodes.get id = some old) (moved : NodeMoves old fresh)
    (instant : fresh.actualCompletedAt ≠ none) (named : old.runner = some rid) (stored : s.runners.get rid = some runner)
    (terminal : runner.status.terminal = true) : TaskInvariant (setNode s id fresh) := by
  refine rewriting_keeps (nodeRewriting s id old fresh read moved) inv (fun query node found blank past => ?_)
    (fun _ _ _ open_ halted => absurd halted open_) (fun _ _ _ open_ complete => absurd complete open_)
  by_cases same : query = id
  · subst same
    cases Option.some.inj (read.symm.trans found)
    exact ⟨by simpa [nodeRewriting] using instant, rid, runner, named, stored, terminal⟩
  · exact absurd blank (by simpa [nodeRewriting, same] using past)

def instanceRewriting (s : Store Digest) (id : InstanceId) (old fresh : TaskInstance) (read : s.instances.get id = some old)
    (campaign : fresh.campaign = old.campaign) : Rewriting s (setInstance s id fresh) where
  onRunner := fun _ runner => runner
  onInstance := fun query task => if query = id then fresh else task
  onNode := fun _ node => node
  runners := fun query => by simp [setInstance]
  instances := fun query => table_get_put_map s.instances id query old fresh read
  nodes := fun query => by simp [setInstance]
  runnerMoves := fun _ runner _ => runner_moves_refl runner
  campaigns := by
    intro query task found
    by_cases same : query = id
    · subst same
      cases Option.some.inj (read.symm.trans found)
      simpa using campaign
    · simp [same]
  nodeMoves := fun _ node _ => node_moves_refl node

theorem set_instance_keeps (s : Store Digest) (id : InstanceId) (old fresh : TaskInstance) (inv : TaskInvariant s)
    (read : s.instances.get id = some old) (campaign : fresh.campaign = old.campaign)
    (stops : stopped fresh → stopped old)
    (completes : fresh.state = .completed → old.state = .completed ∨ ∀ nid node, s.nodes.get nid = some node →
      node.taskInstance = id → node.state = .emitted ∧ node.terminalStatus = some .succeeded) :
    TaskInvariant (setInstance s id fresh) := by
  refine rewriting_keeps (instanceRewriting s id old fresh read campaign) inv (fun _ _ _ blank past => absurd blank past)
    (fun query task found open_ halted => ?_) (fun query task found open_ complete => ?_)
  · by_cases same : query = id
    · subst same
      cases Option.some.inj (read.symm.trans found)
      exact absurd (stops (by simpa [instanceRewriting] using halted)) open_
    · exact absurd (by simpa [instanceRewriting, same] using halted) open_
  · by_cases same : query = id
    · subst same
      cases Option.some.inj (read.symm.trans found)
      rcases completes (by simpa [instanceRewriting] using complete) with before | all
      · exact absurd before open_
      · exact all
    · exact absurd (by simpa [instanceRewriting, same] using complete) open_

theorem cancel_waiting_moves (owned : ExecutionNode → Bool) (node : ExecutionNode) : NodeMoves node (cancelWaiting owned node) := by
  unfold cancelWaiting
  split
  · rename_i both
    exact ⟨rfl, rfl, rfl, rfl, rfl, rfl, rfl, .inr ⟨both.2, rfl⟩, .inl ⟨rfl, rfl⟩⟩
  · exact node_moves_refl node

theorem cancel_waiting_idle (owned : ExecutionNode → Bool) (node : ExecutionNode) (mine : owned node = true) :
    (cancelWaiting owned node).state.waiting = false := by
  unfold cancelWaiting
  split
  · rfl
  · rename_i other
    cases waiting : node.state.waiting with
    | false => rfl
    | true => exact absurd ⟨mine, waiting⟩ other

theorem cancel_waiting_checkpoint (owned : ExecutionNode → Bool) (node : ExecutionNode) :
    (cancelWaiting owned node).terminalStatus = node.terminalStatus := by
  unfold cancelWaiting
  split <;> rfl

theorem cancel_queued_moves (s : Store Digest) (id : InstanceId) (now : Instant) (rid : RunnerId) (runner : Runner) :
    RunnerMoves runner (cancelQueued s id now rid runner) := by
  unfold cancelQueued
  split
  · rename_i both
    refine ⟨rfl, rfl, (fun bad => by cases bad), fun terminal => ?_⟩
    rw [both.1] at terminal
    cases terminal
  · exact runner_moves_refl runner

def endRewriting (s : Store Digest) (id : InstanceId) (old fresh : TaskInstance) (now : Instant)
    (read : s.instances.get id = some old) (campaign : fresh.campaign = old.campaign) :
    Rewriting s (cancelTaskDispatches (setInstance s id fresh) id now) where
  onRunner := cancelQueued s id now
  onInstance := fun query task => if query = id then fresh else task
  onNode := fun _ node => cancelWaiting (fun n => n.taskInstance = id) node
  runners := fun query => by
    rw [cancelTaskDispatches, table_get_update]
    rfl
  instances := fun query => table_get_put_map s.instances id query old fresh read
  nodes := fun query => by
    rw [cancelTaskDispatches, table_get_update]
    rfl
  runnerMoves := fun rid runner _ => cancel_queued_moves s id now rid runner
  campaigns := (instanceRewriting s id old fresh read campaign).campaigns
  nodeMoves := fun _ node _ => cancel_waiting_moves _ node

theorem cancel_queued_unqueued (s : Store Digest) (id : InstanceId) (now : Instant) (nid : DispatchId) (node : ExecutionNode)
    (rid : RunnerId) (runner : Runner) (read : s.nodes.get nid = some node) (named : node.taskInstance = id)
    (owned : node.runner = some rid) : (cancelQueued s id now rid runner).status ≠ .queued := by
  have found : s.nodes.any (fun _ n => n.taskInstance = id ∧ n.runner = some rid) = true :=
    (table_any s.nodes _).mpr ⟨nid, node, read, decide_eq_true ⟨named, owned⟩⟩
  unfold cancelQueued
  split
  · simp
  · rename_i other
    intro queued
    exact other ⟨queued, found⟩

theorem end_keeps (s : Store Digest) (id : InstanceId) (old fresh : TaskInstance) (now : Instant) (inv : TaskInvariant s)
    (read : s.instances.get id = some old) (campaign : fresh.campaign = old.campaign) (open_ : fresh.state ≠ .completed) :
    TaskInvariant (cancelTaskDispatches (setInstance s id fresh) id now) := by
  refine rewriting_keeps (endRewriting s id old fresh now read campaign) inv (fun nid node _ blank past => ?_)
    (fun query task found before halted nid node readNode named => ?_) (fun query task found before complete => ?_)
  · exact absurd blank (by simpa only [endRewriting, cancel_waiting_checkpoint] using past)
  · by_cases same : query = id
    · refine ⟨cancel_waiting_idle _ node (decide_eq_true (named.trans same)), fun rid runner owned _ => ?_⟩
      exact cancel_queued_unqueued s id now nid node rid runner readNode (named.trans same) owned
    · exact absurd (by simpa [endRewriting, same] using halted) before
  · by_cases same : query = id
    · exact absurd (by simpa [endRewriting, same] using complete) open_
    · exact absurd (by simpa [endRewriting, same] using complete) before

end

end LlmperfOrchestrator.Storage

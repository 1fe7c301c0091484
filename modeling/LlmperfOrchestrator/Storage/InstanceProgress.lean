import LlmperfOrchestrator.Storage.OpenInstances

set_option autoImplicit false

namespace LlmperfOrchestrator.Storage

open Tables Runs Outcomes

section

variable {Digest : Type} [DecidableEq Digest]

def Executing (s : Store Digest) (node : ExecutionNode) : Prop :=
  ∃ rid runner, node.runner = some rid ∧ s.runners.get rid = some runner ∧ runner.status.terminal = false

def Startable (s : Store Digest) (node : ExecutionNode) : Prop :=
  node.state.waiting = true ∧ ∀ parent ∈ node.dependencies, ∃ source,
    s.nodes.get parent = some source ∧ source.terminalStatus = some .succeeded

def Moving (s : Store Digest) (id : InstanceId) : Prop :=
  ∃ nid node, s.nodes.get nid = some node ∧ node.taskInstance = id ∧ (Executing s node ∨ Startable s node)

def NoStuckInstance (s : Store Digest) : Prop :=
  ∀ id task, s.instances.get id = some task → task.state.terminal = false → Moving s id

def Ranked (s : Store Digest) (rank : DispatchId → Nat) : Prop :=
  ∀ nid node, s.nodes.get nid = some node → ∀ parent ∈ node.dependencies,
    rank parent < rank nid ∧ ∃ source, s.nodes.get parent = some source ∧ source.taskInstance = node.taskInstance

def Populated (s : Store Digest) : Prop :=
  ∀ id task, s.instances.get id = some task → ∃ nid node, s.nodes.get nid = some node ∧ node.taskInstance = id

theorem ranked_goes (s next : Store Digest) (rank : DispatchId → Nat) (goes : StoreGoes s next) (ranked : Ranked s rank) :
    Ranked next rank := by
  intro nid after read parent member
  obtain ⟨node, found, gone⟩ := goes.places nid after read
  obtain ⟨below, source, there, same⟩ := ranked nid node found parent (gone.dependencies ▸ member)
  obtain ⟨later, known, moved⟩ := goes.nodes parent source there
  exact ⟨below, later, known, by rw [moved.taskInstance, gone.taskInstance, same]⟩

theorem undone_moves (s : Store Digest) (inv : TaskInvariant s) (rank : DispatchId → Nat) (ranked : Ranked s rank)
    (id : InstanceId) (open_ : Open s id) (bound : Nat) :
    ∀ nid node, rank nid < bound → s.nodes.get nid = some node → node.taskInstance = id → ¬ nodeDone node → Moving s id := by
  induction bound with
  | zero =>
      intro nid node below
      cases below
  | succ bound ih =>
      intro nid node below read named left
      by_cases blocked : ∃ parent ∈ node.dependencies, ∃ source, s.nodes.get parent = some source ∧ ¬ nodeDone source
      · obtain ⟨parent, member, source, there, undone⟩ := blocked
        obtain ⟨lower, other, again, same⟩ := ranked nid node read parent member
        cases Option.some.inj (there.symm.trans again)
        exact ih parent source (by omega) there (same.trans named) undone
      · have ready : ∀ parent ∈ node.dependencies, ∃ source,
            s.nodes.get parent = some source ∧ source.terminalStatus = some .succeeded := by
          intro parent member
          obtain ⟨_, source, there, _⟩ := ranked nid node read parent member
          have done : nodeDone source := by
            by_contra undone
            exact blocked ⟨parent, member, source, there, undone⟩
          exact ⟨source, there, done.2⟩
        cases state : node.state with
        | blocked => exact ⟨nid, node, read, named, .inr ⟨by rw [state]; rfl, ready⟩⟩
        | pending => exact ⟨nid, node, read, named, .inr ⟨by rw [state]; rfl, ready⟩⟩
        | cancelled => exact absurd state (open_.alive nid node read named)
        | emitted =>
            obtain ⟨rid, owned⟩ := Option.ne_none_iff_exists'.mp ((inv.linked.emitted nid node read).mp state)
            obtain ⟨runner, found, _⟩ := inv.linked.runner nid node rid read owned
            cases ended : runner.status.terminal with
            | false => exact ⟨nid, node, read, named, .inl ⟨rid, runner, owned, found, ended⟩⟩
            | true => exact absurd ⟨state, open_.settled nid node rid runner read named owned found ended⟩ left

theorem open_moves (s : Store Digest) (inv : TaskInvariant s) (rank : DispatchId → Nat) (ranked : Ranked s rank)
    (id : InstanceId) (open_ : Open s id) (some_ : ∃ nid node, s.nodes.get nid = some node ∧ node.taskInstance = id) :
    Moving s id := by
  obtain ⟨nid, node, read, named, left⟩ := open_.unfinished some_
  exact undone_moves s inv rank ranked id open_ (rank nid + 1) nid node (Nat.lt_succ_self _) read named left

theorem call_instance_known (digest : Json → Digest) (s : Store Digest) (call : Call Digest) (inv : TaskInvariant s)
    (id : InstanceId) (task : TaskInstance) (read : (perform digest s call).1.instances.get id = some task) :
    ∃ before, s.instances.get id = some before := by
  generalize same : (perform digest s call).1 = next, replied : (perform digest s call).2 = reply
  have effect := task_effect digest s call
  rw [same] at read
  rw [same, replied] at effect
  cases effect with
  | untouched _ _ eq _ => exact ⟨task, eq.instances ▸ read⟩
  | emitted caller nid dueAt fresh effect =>
      cases effect with
      | emitted node owner _ _ owned _ _ eq =>
          rw [eq] at read
          cases table_put_cases _ _ _ _ _ read with
          | inl here => exact ⟨owner, here.1 ▸ owned⟩
          | inr older => exact ⟨task, older.2⟩
  | dropped _ _ _ _ _ _ eq => exact ⟨task, by rw [eq] at read; exact read⟩
  | started _ _ _ _ _ _ _ _ eq => exact ⟨task, by rw [eq] at read; exact read⟩
  | requested _ _ _ _ _ eq => exact ⟨task, by rw [eq] at read; exact read⟩
  | ended _ _ closed rid old fresh runner status now evidence requests found done runners instances nodes live final terminal
      template campaign eq _ =>
      have placed := end_runner_placed s closed rid old fresh inv found live (final ▸ terminal) template campaign runners
        instances nodes
      cases checkpoint_cases closed next rid runner fresh status now evidence requests placed.linked (by rw [runners]; simp)
        (eq.trans template.symm) done with
      | inl void =>
          rw [void.2, instances] at read
          exact ⟨task, read⟩
      | inr settled =>
          obtain ⟨context, nid, node, owner, _, _, _, _, known, result⟩ := settled
          obtain ⟨confined, _⟩ := settle_confined (markedNode closed nid node runner context status evidence now) context
            (recordedTask owner runner context status evidence now) status evidence now
          by_cases mine : id = context.instanceId
          · exact ⟨owner, by rw [mine, ← instances]; exact known⟩
          · rw [result, confined.instances id mine] at read
            change closed.instances.get id = some task at read
            exact ⟨task, instances ▸ read⟩
  | campaign now campaign eq =>
      rw [eq, requestCancelCampaign] at read
      by_cases known : campaign ∈ s.campaigns
      · rw [if_neg (not_not.mpr known)] at read
        change (s.instances.update _).get id = some task at read
        rw [table_get_update, Option.map_eq_some_iff] at read
        obtain ⟨before, found, _⟩ := read
        exact ⟨before, found⟩
      · rw [if_pos known] at read
        exact ⟨task, read⟩

theorem populated_step (digest : Json → Digest) (s : Store Digest) (call : Call Digest) (inv : TaskInvariant s)
    (populated : Populated s) : Populated (perform digest s call).1 := by
  intro id task read
  obtain ⟨before, found⟩ := call_instance_known digest s call inv id task read
  obtain ⟨nid, node, stored, named⟩ := populated id before found
  obtain ⟨after, there, gone⟩ := (call_goes digest s call inv).nodes nid node stored
  exact ⟨nid, after, there, gone.taskInstance.trans named⟩

structure ProgressInvariant (s : Store Digest) (rank : DispatchId → Nat) : Prop where
  tasks : TaskInvariant s
  opens : OpenInstances s
  ranked : Ranked s rank

theorem progress_step (digest : Json → Digest) (s : Store Digest) (rank : DispatchId → Nat) (call : Call Digest)
    (inv : ProgressInvariant s rank) : ProgressInvariant (perform digest s call).1 rank :=
  ⟨task_step digest s call _ inv.tasks rfl, open_step digest s call inv.tasks inv.opens,
    ranked_goes s _ rank (call_goes digest s call inv.tasks) inv.ranked⟩

theorem progress_unstuck (s : Store Digest) (rank : DispatchId → Nat) (inv : ProgressInvariant s rank) (populated : Populated s) :
    NoStuckInstance s := by
  intro id task read live
  exact open_moves s inv.tasks rank inv.ranked id (inv.opens id task read live) (populated id task read)

end

section

variable {Digest : Type} [DecidableEq Digest]

theorem other_than_free {Key Row : Type} [DecidableEq Key] (table : Table Key Row) (key query : Key) (row : Row)
    (free : table.get key = none) (read : table.get query = some row) : query ≠ key := by
  intro same
  rw [same, free] at read
  cases read

theorem waiting_unemitted (node : ExecutionNode) (waiting : node.state.waiting = true) : node.state ≠ .emitted := by
  intro state
  rw [state] at waiting
  cases waiting

section Insertions

variable (s : Store Digest) (rank : DispatchId → Nat) (inv : ProgressInvariant s rank)
include inv

theorem owned_runner (rid : RunnerId) (free : s.runners.get rid = none) (nid : DispatchId) (node : ExecutionNode)
    (owned : RunnerId) (read : s.nodes.get nid = some node) (named : node.runner = some owned) : owned ≠ rid := by
  obtain ⟨_, taken, _⟩ := inv.tasks.linked.runner nid node owned read named
  exact other_than_free s.runners rid owned _ free taken

theorem runner_added (rid : RunnerId) (runner : Runner) (free : s.runners.get rid = none)
    (ungrouped : runner.template.groupedContexts = []) (plain : runner.template.taskContext = none) :
    ProgressInvariant (setRunner s rid runner) rank := by
  obtain ⟨⟨linked, closed, finished⟩, opens, ranked⟩ := inv
  have kept : ∀ nid node owned record, s.nodes.get nid = some node → node.runner = some owned →
      ((setRunner s rid runner).runners.get owned = some record ↔ s.runners.get owned = some record) := by
    intro nid node owned record read named
    have other := owned_runner s rank ⟨⟨linked, closed, finished⟩, opens, ranked⟩ rid free nid node owned read named
    rw [setRunner, table_get_put_other _ _ _ _ other]
  refine ⟨⟨⟨linked.owner, linked.context, linked.emitted, ?_, ?_, linked.apart, ?_⟩, ?_, finished⟩, ?_, ranked⟩
  · intro nid node owned read named
    obtain ⟨record, found, facts⟩ := linked.runner nid node owned read named
    exact ⟨record, (kept nid node owned record read named).mpr found, facts⟩
  · intro query record found
    cases table_put_cases _ _ _ _ _ found with
    | inr older => exact linked.source query record older.2
    | inl here =>
        rw [here.2]
        refine ⟨ungrouped, ?_⟩
        intro context carried
        rw [plain] at carried
        cases carried
  · intro nid node read past
    obtain ⟨instant, owned, record, named, found, ended⟩ := linked.checkpoint nid node read past
    exact ⟨instant, owned, record, named, (kept nid node owned record read named).mpr found, ended⟩
  · intro id task read halted nid node stored named
    obtain ⟨idle, unqueued⟩ := closed id task read halted nid node stored named
    refine ⟨idle, ?_⟩
    intro owned record mine found
    exact unqueued owned record mine ((kept nid node owned record stored mine).mp found)
  · intro id task read live
    apply open_untouched s _ id (opens id task read live)
    refine ⟨fun _ _ _ => Iff.rfl, ?_⟩
    intro nid node owned record stored _ mine found ended
    exact ⟨record, (kept nid node owned record stored mine).mp found, ended⟩

theorem instance_added (id : InstanceId) (task : TaskInstance) (free : s.instances.get id = none) :
    ProgressInvariant (setInstance s id task) rank := by
  obtain ⟨⟨linked, closed, finished⟩, opens, ranked⟩ := inv
  have elsewhere : ∀ nid node, s.nodes.get nid = some node → node.taskInstance ≠ id := by
    intro nid node read
    obtain ⟨_, owned, _⟩ := linked.owner nid node read
    exact other_than_free s.instances id _ _ free owned
  refine ⟨⟨⟨?_, linked.context, linked.emitted, linked.runner, linked.source, linked.apart, linked.checkpoint⟩, ?_, ?_⟩, ?_,
    ranked⟩
  · intro nid node read
    obtain ⟨owner, owned, campaign⟩ := linked.owner nid node read
    exact ⟨owner, (table_get_put_other _ _ _ _ (elsewhere nid node read)).trans owned, campaign⟩
  · intro query record found halted nid node stored named
    cases table_put_cases _ _ _ _ _ found with
    | inl here => exact absurd (named.trans here.1) (elsewhere nid node stored)
    | inr older => exact closed query record older.2 halted nid node stored named
  · intro query record found complete nid node stored named
    cases table_put_cases _ _ _ _ _ found with
    | inl here => exact absurd (named.trans here.1) (elsewhere nid node stored)
    | inr older => exact finished query record older.2 complete nid node stored named
  · intro query record found running
    cases table_put_cases _ _ _ _ _ found with
    | inr older =>
        have before := opens query record older.2 running
        exact ⟨before.alive, before.settled, before.unfinished⟩
    | inl here =>
        rw [here.1]
        refine ⟨?_, ?_, ?_⟩
        · intro nid node read named
          exact absurd named (elsewhere nid node read)
        · intro nid node _ _ read named
          exact absurd named (elsewhere nid node read)
        · intro some_
          obtain ⟨nid, node, read, named⟩ := some_
          exact absurd named (elsewhere nid node read)

section Nodes

variable (id : DispatchId) (node : ExecutionNode) (task : TaskInstance)

omit inv in
theorem node_kept (query : DispatchId) (other : ExecutionNode) (free : s.nodes.get id = none)
    (read : s.nodes.get query = some other) : (setNode s id node).nodes.get query = some other :=
  (table_get_put_other _ _ _ _ (other_than_free s.nodes id query other free read)).trans read

theorem node_linked (free : s.nodes.get id = none) (owned : s.instances.get node.taskInstance = some task)
    (campaign : task.campaign = node.campaign) (context : NodeContext node) (unemitted : node.state ≠ .emitted)
    (unowned : node.runner = none) (blank : node.terminalStatus = none) : Linked (setNode s id node) := by
  have linked := inv.tasks.linked
  refine ⟨?_, ?_, ?_, ?_, ?_, ?_, ?_⟩
  · intro query other found
    cases table_put_cases _ _ _ _ _ found with
    | inl here =>
        rw [here.2]
        exact ⟨task, owned, campaign⟩
    | inr older => exact linked.owner query other older.2
  · intro query other found
    cases table_put_cases _ _ _ _ _ found with
    | inl here => exact here.2 ▸ context
    | inr older => exact linked.context query other older.2
  · intro query other found
    cases table_put_cases _ _ _ _ _ found with
    | inl here =>
        rw [here.2, unowned]
        exact ⟨fun state => absurd state unemitted, fun none_ => absurd rfl none_⟩
    | inr older => exact linked.emitted query other older.2
  · intro query other rid found named
    cases table_put_cases _ _ _ _ _ found with
    | inl here =>
        rw [here.2, unowned] at named
        cases named
    | inr older => exact linked.runner query other rid older.2 named
  · intro rid runner found
    obtain ⟨ungrouped, sourced⟩ := linked.source rid runner found
    refine ⟨ungrouped, ?_⟩
    intro carried held
    obtain ⟨query, other, read, named⟩ := sourced carried held
    exact ⟨query, other, node_kept s id node query other free read, named⟩
  · intro a b n m rid foundA foundB namedA namedB
    cases table_put_cases _ _ _ _ _ foundA with
    | inl here =>
        rw [here.2, unowned] at namedA
        cases namedA
    | inr olderA =>
        cases table_put_cases _ _ _ _ _ foundB with
        | inl here =>
            rw [here.2, unowned] at namedB
            cases namedB
        | inr olderB => exact linked.apart a b n m rid olderA.2 olderB.2 namedA namedB
  · intro query other found past
    cases table_put_cases _ _ _ _ _ found with
    | inl here => exact absurd (here.2 ▸ blank) past
    | inr older => exact linked.checkpoint query other older.2 past

theorem node_closed (owned : s.instances.get node.taskInstance = some task) (live : task.state.terminal = false) :
    Closed (setNode s id node) := by
  intro query record found halted nid other stored named
  cases table_put_cases _ _ _ _ _ stored with
  | inr older => exact inv.tasks.closed query record found halted nid other older.2 named
  | inl here =>
      rw [← named, here.2] at found
      change s.instances.get node.taskInstance = some record at found
      rw [owned] at found
      cases found
      rw [stopped_terminal task halted] at live
      cases live

theorem node_finished (owned : s.instances.get node.taskInstance = some task) (live : task.state.terminal = false) :
    Finished (setNode s id node) := by
  intro query record found complete nid other stored named
  cases table_put_cases _ _ _ _ _ stored with
  | inr older => exact inv.tasks.finished query record found complete nid other older.2 named
  | inl here =>
      rw [← named, here.2] at found
      change s.instances.get node.taskInstance = some record at found
      rw [owned] at found
      cases found
      rw [complete] at live
      cases live

theorem node_opens (free : s.nodes.get id = none) (waiting : node.state.waiting = true) (unowned : node.runner = none) :
    OpenInstances (setNode s id node) := by
  have unemitted := waiting_unemitted node waiting
  intro query record found running
  have before := inv.opens query record found running
  refine ⟨?_, ?_, ?_⟩
  · intro nid other stored named
    cases table_put_cases _ _ _ _ _ stored with
    | inr older => exact before.alive nid other older.2 named
    | inl here =>
        rw [here.2]
        intro state
        rw [state] at waiting
        cases waiting
  · intro nid other rid runner stored named mine held ended
    cases table_put_cases _ _ _ _ _ stored with
    | inr older => exact before.settled nid other rid runner older.2 named mine held ended
    | inl here =>
        rw [here.2, unowned] at mine
        cases mine
  · intro some_
    by_cases mine : node.taskInstance = query
    · refine ⟨id, node, table_get_put_self _ _ _, mine, ?_⟩
      intro done
      exact unemitted done.1
    · obtain ⟨nid, other, stored, named⟩ := some_
      cases table_put_cases _ _ _ _ _ stored with
      | inl here => exact absurd (here.2 ▸ named) mine
      | inr older =>
          obtain ⟨left, undone, read, theirs, open_⟩ := before.unfinished ⟨nid, other, older.2, named⟩
          exact ⟨left, undone, node_kept s id node left undone free read, theirs, open_⟩

theorem node_ranked (free : s.nodes.get id = none)
    (above : ∀ parent ∈ node.dependencies, ∃ source, s.nodes.get parent = some source ∧ source.taskInstance = node.taskInstance) :
    Ranked (setNode s id node) fun query => if query = id then total rank node.dependencies + 1 else rank query := by
  intro query other found parent member
  cases table_put_cases _ _ _ _ _ found with
  | inl here =>
      obtain ⟨rfl, rfl⟩ := here
      obtain ⟨source, read, same⟩ := above parent member
      refine ⟨?_, source, node_kept s query other parent source free read, same⟩
      have different := other_than_free s.nodes query parent source free read
      have bounded := weight_le_total rank _ parent member
      simp only [if_neg different, if_true]
      omega
  | inr older =>
      obtain ⟨below, source, read, same⟩ := inv.ranked query other older.2 parent member
      refine ⟨?_, source, node_kept s _ node parent source free read, same⟩
      simp only [if_neg (other_than_free s.nodes id parent source free read), if_neg older.1]
      exact below

end Nodes

theorem node_added (id : DispatchId) (node : ExecutionNode) (task : TaskInstance) (free : s.nodes.get id = none)
    (owned : s.instances.get node.taskInstance = some task) (campaign : task.campaign = node.campaign)
    (live : task.state.terminal = false) (context : NodeContext node) (waiting : node.state.waiting = true)
    (unowned : node.runner = none) (blank : node.terminalStatus = none)
    (above : ∀ parent ∈ node.dependencies, ∃ source, s.nodes.get parent = some source ∧
      source.taskInstance = node.taskInstance) :
    ∃ next, ProgressInvariant (setNode s id node) next := by
  have linked := node_linked s rank inv id node task free owned campaign context (waiting_unemitted node waiting) unowned blank
  have closed := node_closed s rank inv id node task owned live
  have finished := node_finished s rank inv id node task owned live
  exact ⟨_, ⟨linked, closed, finished⟩, node_opens s rank inv id node free waiting unowned, node_ranked s rank inv id node free above⟩

end Insertions

end

end LlmperfOrchestrator.Storage

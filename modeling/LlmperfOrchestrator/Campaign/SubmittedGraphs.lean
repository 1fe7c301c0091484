import LlmperfOrchestrator.Campaign.Lifecycle
import LlmperfOrchestrator.Compiler.Submission
import LlmperfOrchestrator.Storage.InstanceProgress

set_option autoImplicit false

namespace LlmperfOrchestrator.Campaign

open Tables Outcomes Storage
open Compiler (NodeId Sha256 TaskRecipe WorkerTemplate CompiledNodeRow CompiledInstanceRow CompilationTable)

theorem expanded_payloads (sha256 : Sha256) (recipe : TaskRecipe) (dimensions : Compiler.Dimensions) (trial : Nat)
    (instanceKey : String) (rows : List CompiledNodeRow)
    (expanded : Compiler.expandGraph sha256 (Compiler.instanceContext recipe dimensions trial) instanceKey recipe.workflow =
      .ok rows) : ∀ row ∈ rows, row.executionKind = .batch ∨ row.payloadId ≠ none := by
  apply Compiler.expanded_rows sha256 recipe dimensions trial instanceKey rows
    (fun row => row.executionKind = .batch ∨ row.payloadId ≠ none) _ expanded
  intro row seed value _ _ batch
  by_cases absent : row.data.payloadId = none
  · exact .inl (batch absent)
  · exact .inr absent

section Rows

variable {Digest : Type} [DecidableEq Digest]

-- What inserting rows of one campaign leaves, and where new rows come from.
structure Adds (campaign : CampaignId) (s next : Store Digest) : Prop where
  instances : ∀ id task, s.instances.get id = some task → next.instances.get id = some task
  nodes : ∀ id node, s.nodes.get id = some node → next.nodes.get id = some node
  runners : ∀ id runner, s.runners.get id = some runner → next.runners.get id = some runner
  newInstances : ∀ id task, next.instances.get id = some task → s.instances.get id = some task ∨
    (task.campaign = campaign ∧ task.state = .planned)
  newRunners : ∀ id runner, next.runners.get id = some runner → s.runners.get id = some runner ∨
    (runner.campaign = some campaign ∧ runner.cancelRequested = false)
  campaigns : ∀ known ∈ s.campaigns, known ∈ next.campaigns

theorem adds_refl (campaign : CampaignId) (s : Store Digest) : Adds campaign s s :=
  ⟨fun _ _ read => read, fun _ _ read => read, fun _ _ read => read, fun _ _ read => .inl read, fun _ _ read => .inl read,
    fun _ known => known⟩

theorem adds_trans (campaign : CampaignId) (a b c : Store Digest) (first : Adds campaign a b) (second : Adds campaign b c) :
    Adds campaign a c := by
  refine ⟨fun id task read => second.instances id task (first.instances id task read),
    fun id node read => second.nodes id node (first.nodes id node read),
    fun id runner read => second.runners id runner (first.runners id runner read), ?_, ?_,
    fun known member => second.campaigns known (first.campaigns known member)⟩
  · intro id task read
    cases second.newInstances id task read with
    | inl before => exact first.newInstances id task before
    | inr fresh => exact .inr fresh
  · intro id runner read
    cases second.newRunners id runner read with
    | inl before => exact first.newRunners id runner before
    | inr fresh => exact .inr fresh

theorem adds_node (campaign : CampaignId) (s : Store Digest) (id : DispatchId) (node : ExecutionNode)
    (free : s.nodes.get id = none) : Adds campaign s (setNode s id node) := by
  refine ⟨fun _ _ read => read, ?_, fun _ _ read => read, fun _ _ read => .inl read, fun _ _ read => .inl read,
    fun _ known => known⟩
  intro query other read
  exact (table_get_put_other _ _ _ _ (other_than_free s.nodes id query other free read)).trans read

theorem adds_instance (campaign : CampaignId) (s : Store Digest) (id : InstanceId) (task : TaskInstance)
    (free : s.instances.get id = none) (mine : task.campaign = campaign) (planned : task.state = .planned) :
    Adds campaign s (setInstance s id task) := by
  refine ⟨?_, fun _ _ read => read, fun _ _ read => read, ?_, fun _ _ read => .inl read, fun _ known => known⟩
  · intro query other read
    exact (table_get_put_other _ _ _ _ (other_than_free s.instances id query other free read)).trans read
  · intro query other read
    cases table_put_cases _ _ _ _ _ read with
    | inl here => exact .inr (here.2 ▸ ⟨mine, planned⟩)
    | inr older => exact .inl older.2

def Sound (s : Store Digest) : Prop := ∃ rank, ProgressInvariant s rank

section Instance

variable (campaign : CampaignId) (now : Instant) (document : StoredBenchmark) (instanceId : InstanceId) (ids : Dict NodeId DispatchId)

def Listed (s : Store Digest) (name : NodeId) : Prop :=
  ∃ id node, Dict.get name ids = some id ∧ s.nodes.get id = some node ∧ node.taskInstance = instanceId

theorem listed_grows (s next : Store Digest) (adds : Adds campaign s next) (name : NodeId) (listed : Listed instanceId ids s name) :
    Listed instanceId ids next name := by
  obtain ⟨id, node, found, read, named⟩ := listed
  exact ⟨id, node, found, adds.nodes id node read, named⟩

theorem lookup_found (name : NodeId) (id : DispatchId) (done : lookupId ids name = .ok id) : Dict.get name ids = some id := by
  rw [lookupId] at done
  cases found : Dict.get name ids with
  | none =>
      rw [found] at done
      cases done
  | some value =>
      rw [found] at done
      cases done
      rfl

theorem node_inserted (s next : Store Digest) (row : CompiledNodeRow) (task : TaskInstance) (sound : Sound s)
    (owned : s.instances.get instanceId = some task) (mine : task.campaign = campaign) (live : task.state.terminal = false)
    (payload : row.executionKind = .batch ∨ row.payloadId ≠ none)
    (above : ∀ name ∈ row.dependencies, Listed instanceId ids s name)
    (done : insertNode campaign now document instanceId ids s row = .ok next) :
    Sound next ∧ Adds campaign s next ∧ next.instances = s.instances ∧ Listed instanceId ids next row.nodeId := by
  obtain ⟨rank, inv⟩ := sound
  obtain ⟨⟨id, node⟩, assembled, placed⟩ := (bind_ok _ _ _).mp done
  obtain ⟨dispatchId, looked, assembled⟩ := (bind_ok _ _ _).mp assembled
  obtain ⟨dependencies, mapped, assembled⟩ := (bind_ok _ _ _).mp assembled
  cases assembled
  dsimp only at placed
  cases free : s.nodes.get id with
  | some other =>
      rw [free] at placed
      cases placed
  | none =>
      rw [free] at placed
      cases placed
      have parents : ∀ parent ∈ dependencies, ∃ source, s.nodes.get parent = some source ∧ source.taskInstance = instanceId := by
        intro parent member
        obtain ⟨name, named, found⟩ := SeriesParallel.paired_right (mapM_pairs _ _ _ mapped) parent member
        obtain ⟨other, source, held, read, same⟩ := above name named
        cases (lookup_found ids name parent found).symm.trans held
        exact ⟨source, read, same⟩
      have context : NodeContext
          { campaign := campaign
            taskInstance := instanceId
            nodeId := row.nodeId
            state := if dependencies = [] then .pending else .blocked
            dueAt := if dependencies = [] then some (now + Runtime.Recurrence.timedelta row.afterSeconds) else none
            template := queuedTemplate (some (taskContext instanceId row)) none (nodeDocument document row.executionKind)
            dependencies := dependencies
            delay := (Runtime.Recurrence.timedelta row.afterSeconds).toNat
            actualStartedAt := none
            actualCompletedAt := none
            terminalStatus := none
            runner := none
            emittedAt := none } := by
        refine ⟨rfl, taskContext instanceId row, rfl, rfl, rfl, ?_⟩
        cases kind : row.executionKind with
        | batch => exact .inl (by simp [taskContext, kind, executionKind])
        | atomic =>
            right
            simp only [taskContext, kind]
            exact payload.resolve_left (by rw [kind]; simp)
      refine ⟨?_, adds_node campaign s id _ free, rfl, id, _, lookup_found ids _ _ looked, table_get_put_self _ _ _, rfl⟩
      apply node_added s rank inv id _ task free owned mine live context
      · dsimp only
        split <;> rfl
      · rfl
      · rfl
      · exact parents

theorem nodes_inserted (early late : List CompiledNodeRow) (s next : Store Digest) (task : TaskInstance) (sound : Sound s)
    (owned : s.instances.get instanceId = some task) (mine : task.campaign = campaign) (live : task.state.terminal = false)
    (payloads : ∀ row ∈ late, row.executionKind = .batch ∨ row.payloadId ≠ none)
    (ordered : ∀ before row after, early ++ late = before ++ row :: after →
      ∀ name ∈ row.dependencies, name ∈ before.map CompiledNodeRow.nodeId)
    (listed : ∀ row ∈ early, Listed instanceId ids s row.nodeId)
    (done : late.foldlM (insertNode campaign now document instanceId ids) s = .ok next) :
    Sound next ∧ Adds campaign s next ∧ next.instances = s.instances ∧ ∀ row ∈ early ++ late, Listed instanceId ids next row.nodeId := by
  induction late generalizing early s with
  | nil =>
      cases (fold_nil _ _ _).mp done
      rw [List.append_nil]
      exact ⟨sound, adds_refl campaign next, rfl, listed⟩
  | cons row rest ih =>
      obtain ⟨middle, inserted, done⟩ := (fold_ok _ _ _ _ _).mp done
      have above : ∀ name ∈ row.dependencies, Listed instanceId ids s name := by
        intro name needed
        obtain ⟨source, member, same⟩ := List.mem_map.mp (ordered early row rest rfl name needed)
        exact same ▸ listed source member
      obtain ⟨soundMiddle, first, sameFirst, here⟩ := node_inserted campaign now document instanceId ids s middle row task sound owned
        mine live (payloads row List.mem_cons_self) above inserted
      have shift : early ++ row :: rest = (early ++ [row]) ++ rest := by simp
      have known : ∀ other ∈ early ++ [row], Listed instanceId ids middle other.nodeId := by
        intro other member
        cases List.mem_append.mp member with
        | inl old => exact listed_grows campaign instanceId ids s middle first _ (listed other old)
        | inr new => exact List.mem_singleton.mp new ▸ here
      obtain ⟨soundNext, second, sameSecond, all⟩ := ih (early ++ [row]) middle soundMiddle (first.instances instanceId task owned)
        (fun other member => payloads other (List.mem_cons_of_mem row member)) (shift ▸ ordered) known done
      exact ⟨soundNext, adds_trans campaign s middle next first second, sameSecond.trans sameFirst, shift ▸ all⟩

end Instance

section Definition

variable (sha256 : Sha256) (campaign : CampaignId) (now : Instant)

def Populates (recipe : TaskRecipe) : Prop :=
  ∀ dimensions ∈ Compiler.matrixCoordinates recipe, ∃ placed name,
    Compiler.Inside sha256 recipe dimensions placed ∧ placed.node.leafName = some name

-- What the compiler accepts of a definition has an operation everywhere.
def Fills (definition : TaskDefinition) : Prop :=
  ∀ table, Compiler.compile sha256 definition.recipe definition.benchmark = .ok table → Populates sha256 definition.recipe

theorem populated_rows (recipe : TaskRecipe) (benchmark : WorkerTemplate) (table : CompilationTable)
    (compiled : Compiler.compile sha256 recipe benchmark = .ok table) (populates : Populates sha256 recipe)
    (row : CompiledInstanceRow) (member : row ∈ table.instances) : table.nodesFor row.instanceKey ≠ [] := by
  obtain ⟨inCompiled, _, _⟩ := Compiler.compiled_nodes sha256 recipe benchmark table compiled row member
  obtain ⟨dimensions, coordinate, inTrials⟩ := List.mem_flatMap.mp inCompiled
  obtain ⟨_, _, same⟩ := List.mem_map.mp inTrials
  have here : dimensions = row.dimensions := congrArg Prod.fst same
  obtain ⟨placed, name, inside, isLeaf⟩ := populates dimensions coordinate
  have named := (Compiler.compiled_names sha256 recipe benchmark table compiled row member _).mpr
    ⟨placed, name, here ▸ inside, isLeaf, rfl⟩
  intro empty
  rw [empty] at named
  cases named

variable (definition : TaskDefinition) (table : CompilationTable)

theorem instance_inserted (compiled : Compiler.compile sha256 definition.recipe definition.benchmark = .ok table)
    (state next : Store Digest × Nat) (row : CompiledInstanceRow) (member : row ∈ table.instances) (sound : Sound state.1)
    (done : insertInstance campaign now definition table state row = .ok next) :
    Sound next.1 ∧ Adds campaign state.1 next.1 ∧
      (table.nodesFor row.instanceKey ≠ [] → Populated state.1 → Populated next.1) := by
  obtain ⟨store, first⟩ := state
  rw [insertInstance] at done
  dsimp only at done
  cases free : store.instances.get (definition.identifiers first) with
  | some other =>
      rw [free] at done
      cases done
  | none =>
      rw [free] at done
      obtain ⟨grown, filled, same⟩ := (bind_ok _ _ _).mp done
      cases same
      obtain ⟨_, _, expanded⟩ := Compiler.compiled_nodes sha256 _ _ table compiled row member
      obtain ⟨_, _, _, _, ⟨state, referred⟩, _⟩ := Compiler.graph_tree sha256 _ _ _ _ _ expanded
      obtain ⟨rank, inv⟩ := sound
      have placed := instance_added store rank inv (definition.identifiers first) (plannedInstance campaign now) free
      obtain ⟨soundGrown, adds, instances, listed⟩ := nodes_inserted campaign now definition.document
        (definition.identifiers first) _ [] _ _ grown (plannedInstance campaign now) ⟨rank, placed⟩ (table_get_put_self _ _ _) rfl
        rfl (expanded_payloads sha256 definition.recipe _ _ _ _ expanded)
        (fun before row after split => Compiler.dependencies_earlier _ state referred before after row split)
        (fun _ absent => by cases absent) filled
      refine ⟨soundGrown, adds_trans campaign _ _ _ (adds_instance campaign store _ _ free rfl rfl) adds, ?_⟩
      intro filled populated id task read
      rw [instances] at read
      cases table_put_cases _ _ _ _ _ read with
      | inl here =>
          obtain ⟨head, rest, shape⟩ := List.exists_cons_of_ne_nil filled
          obtain ⟨nid, node, _, stored, named⟩ := listed head (by rw [shape]; exact List.mem_cons_self)
          exact ⟨nid, node, stored, named.trans here.1.symm⟩
      | inr older =>
          obtain ⟨nid, node, stored, named⟩ := populated id task older.2
          exact ⟨nid, node, adds.nodes nid node stored, named⟩

theorem instances_inserted (compiled : Compiler.compile sha256 definition.recipe definition.benchmark = .ok table)
    (rows : List CompiledInstanceRow) (within : ∀ row ∈ rows, row ∈ table.instances) (state next : Store Digest × Nat)
    (sound : Sound state.1) (done : rows.foldlM (insertInstance campaign now definition table) state = .ok next) :
    Sound next.1 ∧ Adds campaign state.1 next.1 ∧
      ((∀ row ∈ rows, table.nodesFor row.instanceKey ≠ []) → Populated state.1 → Populated next.1) := by
  induction rows generalizing state with
  | nil =>
      cases (fold_nil _ _ _).mp done
      exact ⟨sound, adds_refl campaign _, fun _ populated => populated⟩
  | cons row rest ih =>
      obtain ⟨middle, inserted, done⟩ := (fold_ok _ _ _ _ _).mp done
      obtain ⟨soundMiddle, first, fills⟩ := instance_inserted sha256 campaign now definition table compiled state middle row
        (within row List.mem_cons_self) sound inserted
      obtain ⟨soundNext, second, rests⟩ := ih (fun other listed => within other (List.mem_cons_of_mem row listed)) middle
        soundMiddle done
      refine ⟨soundNext, adds_trans campaign _ _ _ first second, ?_⟩
      intro filled populated
      apply rests (fun other listed => filled other (List.mem_cons_of_mem row listed))
      exact fills (filled row List.mem_cons_self) populated

theorem definition_inserted (s next : Store Digest) (sound : Sound s)
    (done : insertDefinition sha256 campaign now s definition = .ok next) :
    Sound next ∧ Adds campaign s next ∧ (Fills sha256 definition → Populated s → Populated next) := by
  rw [insertDefinition] at done
  by_cases invalid : definition.recipe.valid = false
  · rw [if_pos invalid] at done
    cases done
  · rw [if_neg invalid] at done
    obtain ⟨_, _, done⟩ := (bind_ok _ _ _).mp done
    obtain ⟨table, compiled, done⟩ := (bind_ok _ _ _).mp done
    obtain ⟨⟨grown, last⟩, inserted, same⟩ := (bind_ok _ _ _).mp done
    cases same
    obtain ⟨soundNext, adds, fills⟩ := instances_inserted sha256 campaign now definition table compiled table.instances
      (fun _ member => member) (s, 0) (next, last) sound inserted
    refine ⟨soundNext, adds, ?_⟩
    intro filled
    exact fills (populated_rows sha256 _ _ table compiled (filled table compiled))

end Definition

section Whole

variable (sha256 : Sha256) (campaign : CampaignId) (now : Instant)

theorem runner_inserted (owner : Option CampaignId) (s next : Store Digest) (runner : PlainRunner) (sound : Sound s)
    (done : insertRunner owner s runner = .ok next) :
    Sound next ∧ s.runners.get runner.id = none ∧ next = setRunner s runner.id (plainRow owner runner) := by
  rw [insertRunner] at done
  cases free : s.runners.get runner.id with
  | some other =>
      rw [free] at done
      cases done
  | none =>
      rw [free] at done
      cases done
      obtain ⟨rank, inv⟩ := sound
      exact ⟨⟨rank, runner_added s rank inv runner.id _ free rfl rfl⟩, rfl, rfl⟩

theorem runners_inserted (owner : Option CampaignId) (runners : List PlainRunner) (s next : Store Digest) (sound : Sound s)
    (done : runners.foldlM (insertRunner owner) s = .ok next) :
    Sound next ∧ next.instances = s.instances ∧ next.nodes = s.nodes ∧ next.campaigns = s.campaigns ∧
      (∀ rid runner, s.runners.get rid = some runner → next.runners.get rid = some runner) ∧
      ∀ rid runner, next.runners.get rid = some runner → s.runners.get rid = some runner ∨
        (runners ≠ [] ∧ runner.campaign = owner ∧ runner.cancelRequested = false) := by
  induction runners generalizing s with
  | nil =>
      cases (fold_nil _ _ _).mp done
      exact ⟨sound, rfl, rfl, rfl, fun _ _ read => read, fun _ _ read => .inl read⟩
  | cons first rest ih =>
      obtain ⟨middle, inserted, done⟩ := (fold_ok _ _ _ _ _).mp done
      obtain ⟨soundMiddle, free, same⟩ := runner_inserted owner s middle first sound inserted
      subst same
      obtain ⟨soundNext, instances, nodes, campaigns, kept, fresh⟩ := ih _ soundMiddle done
      refine ⟨soundNext, instances, nodes, campaigns, ?_, ?_⟩
      · intro rid runner read
        apply kept
        exact (table_get_put_other _ _ _ _ (other_than_free s.runners first.id rid runner free read)).trans read
      · intro rid runner read
        cases fresh rid runner read with
        | inr new => exact .inr ⟨List.cons_ne_nil _ _, new.2⟩
        | inl older =>
            cases table_put_cases _ _ _ _ _ older with
            | inl here => exact .inr ⟨List.cons_ne_nil _ _, by rw [here.2]; exact ⟨rfl, rfl⟩⟩
            | inr before => exact .inl before.2

theorem runners_add (runners : List PlainRunner) (s next : Store Digest) (sound : Sound s)
    (done : runners.foldlM (insertRunner (some campaign)) s = .ok next) : Adds campaign s next := by
  obtain ⟨_, instances, nodes, campaigns, kept, fresh⟩ := runners_inserted (some campaign) runners s next sound done
  refine ⟨?_, ?_, kept, ?_, ?_, ?_⟩
  · intro id task read
    exact instances ▸ read
  · intro id node read
    exact nodes ▸ read
  · intro id task read
    exact .inl (instances ▸ read)
  · intro id runner read
    exact (fresh id runner read).imp_right And.right
  · intro known member
    exact campaigns ▸ member

theorem campaign_inserted (s next : Store Digest) (sound : Sound s) (done : insertCampaign s campaign = .ok next) :
    campaign ∉ s.campaigns ∧ next = { s with campaigns := campaign :: s.campaigns } ∧ Sound next ∧ Adds campaign s next := by
  rw [insertCampaign] at done
  by_cases known : campaign ∈ s.campaigns
  · rw [if_pos known] at done
    cases done
  · rw [if_neg known] at done
    cases done
    obtain ⟨rank, inv⟩ := sound
    refine ⟨known, rfl, ⟨rank, ⟨invariant_tables s _ inv.tasks rfl rfl rfl, ?_, inv.ranked⟩⟩, ?_⟩
    · exact open_tables s _ ⟨rfl, rfl, rfl⟩ inv.opens
    · exact ⟨fun _ _ read => read, fun _ _ read => read, fun _ _ read => read, fun _ _ read => .inl read,
        fun _ _ read => .inl read, fun other listed => List.mem_cons_of_mem campaign listed⟩

theorem definitions_inserted (definitions : List TaskDefinition) (s next : Store Digest) (sound : Sound s)
    (done : definitions.foldlM (insertDefinition sha256 campaign now) s = .ok next) :
    Sound next ∧ Adds campaign s next ∧
      ((∀ definition ∈ definitions, Fills sha256 definition) → Populated s → Populated next) := by
  induction definitions generalizing s with
  | nil =>
      cases (fold_nil _ _ _).mp done
      exact ⟨sound, adds_refl campaign _, fun _ populated => populated⟩
  | cons definition rest ih =>
      obtain ⟨middle, placed, done⟩ := (fold_ok _ _ _ _ _).mp done
      obtain ⟨soundMiddle, early, fills⟩ := definition_inserted sha256 campaign now definition s middle sound placed
      obtain ⟨soundNext, late, rests⟩ := ih middle soundMiddle done
      refine ⟨soundNext, adds_trans campaign _ _ _ early late, ?_⟩
      intro all populated
      apply rests (fun other listed => all other (List.mem_cons_of_mem definition listed))
      exact fills (all definition List.mem_cons_self) populated

theorem workload_created (s next : Store Digest) (runners : List PlainRunner) (definitions : List TaskDefinition)
    (sound : Sound s) (done : createWorkload sha256 s campaign now runners definitions = .ok next) :
    campaign ∉ s.campaigns ∧ campaign ∈ next.campaigns ∧ Sound next ∧ Adds campaign s next ∧
      ((∀ definition ∈ definitions, Fills sha256 definition) → Populated s → Populated next) := by
  obtain ⟨created, inserted, done⟩ := (bind_ok _ _ _).mp done
  obtain ⟨staffed, manned, done⟩ := (bind_ok _ _ _).mp done
  obtain ⟨fresh, same, soundCreated, first⟩ := campaign_inserted campaign s created sound inserted
  obtain ⟨soundStaffed, instances, nodes, _⟩ := runners_inserted (some campaign) runners created staffed soundCreated manned
  have second := runners_add campaign runners created staffed soundCreated manned
  obtain ⟨soundNext, third, fills⟩ := definitions_inserted sha256 campaign now definitions staffed next soundStaffed done
  have adds := adds_trans campaign _ _ _ (adds_trans campaign _ _ _ first second) third
  refine ⟨fresh, ?_, soundNext, adds, ?_⟩
  · apply third.campaigns
    apply second.campaigns
    rw [same]
    exact List.mem_cons_self
  · intro all populated
    apply fills all
    rw [Populated, instances, nodes, same]
    exact populated

end Whole

end Rows

end LlmperfOrchestrator.Campaign

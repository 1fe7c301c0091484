import LlmperfOrchestrator.Compiler.Widths

set_option autoImplicit false

namespace LlmperfOrchestrator.Compiler

open Tables SeriesParallel Outcomes Relation

-- Rows of task_instances and execution_nodes as one submission inserts them.
structure TaskInstanceRow where
  id : String
  definitionId : String
  campaignId : String
  formatVersion : String
  instanceKey : String
  state : String
deriving DecidableEq, Repr

structure ExecutionNodeRow where
  id : String
  campaignId : String
  runnerPlanId : Option String
  dispatchKey : Option String
  taskInstanceId : Option String
  nodeId : Option String
  state : String
  runnerId : Option String
deriving DecidableEq, Repr

def taskFormatVersion : String := "1.0.0"

section Assembly

variable (identifiers : Nat → String) (definitionId campaignId : String)

def instanceRecord (next : Nat) (row : CompiledInstanceRow) : TaskInstanceRow :=
  { id := identifiers next, definitionId := definitionId, campaignId := campaignId,
    formatVersion := taskFormatVersion, instanceKey := row.instanceKey, state := "planned" }

def nodeRecord (instanceId : String) (numbered : CompiledNodeRow × Nat) : ExecutionNodeRow :=
  { id := identifiers numbered.2, campaignId := campaignId, runnerPlanId := none, dispatchKey := none,
    taskInstanceId := some instanceId, nodeId := some numbered.1.nodeId,
    state := if numbered.1.dependencies = [] then "pending" else "blocked", runnerId := none }

-- TaskAssembler.assemble: an instance takes one identifier, then each of its
-- nodes takes one.
def assemble (table : CompilationTable) : Nat → List CompiledInstanceRow → List (TaskInstanceRow × List ExecutionNodeRow)
  | _, [] => []
  | next, row :: rest =>
      let nodes := table.nodesFor row.instanceKey
      (instanceRecord identifiers definitionId campaignId next row,
        (nodes.zipIdx (next + 1)).map (nodeRecord identifiers campaignId (identifiers next))) ::
        assemble table (next + 1 + nodes.length) rest

def identifierCount (table : CompilationTable) : Nat :=
  (table.instances.map fun row => 1 + (table.nodesFor row.instanceKey).length).sum

end Assembly

-- Column types, CHECK, UNIQUE and FOREIGN KEY constraints of the two tables.

structure InstanceFits (row : TaskInstanceRow) : Prop where
  id : row.id.length ≤ 36
  definitionId : row.definitionId.length ≤ 36
  campaignId : row.campaignId.length ≤ 36
  formatVersion : row.formatVersion.length ≤ 16
  instanceKey : row.instanceKey.length ≤ 512
  state : row.state.length ≤ 20
  known : row.state ∈ ["planned", "active", "completed", "failed", "cancelled"]

structure NodeFits (row : ExecutionNodeRow) : Prop where
  id : row.id.length ≤ 36
  campaignId : row.campaignId.length ≤ 36
  runnerPlanId : ∀ text ∈ row.runnerPlanId, text.length ≤ 36
  dispatchKey : ∀ text ∈ row.dispatchKey, text.length ≤ 80
  taskInstanceId : ∀ text ∈ row.taskInstanceId, text.length ≤ 36
  nodeId : ∀ text ∈ row.nodeId, text.length ≤ 80
  state : row.state.length ≤ 20
  known : row.state ∈ ["blocked", "pending", "emitted", "cancelled"]
  runnerId : ∀ text ∈ row.runnerId, text.length ≤ 36
  owner : (row.runnerPlanId.isSome ∧ row.taskInstanceId = none ∧ row.dispatchKey.isSome ∧ row.nodeId = none) ∨
    (row.runnerPlanId = none ∧ row.taskInstanceId.isSome ∧ row.dispatchKey = none ∧ row.nodeId.isSome)

structure SchemaHolds (instances : List TaskInstanceRow) (nodes : List ExecutionNodeRow) : Prop where
  instanceColumns : ∀ row ∈ instances, InstanceFits row
  nodeColumns : ∀ row ∈ nodes, NodeFits row
  instanceIds : (instances.map TaskInstanceRow.id).Nodup
  nodeIds : (nodes.map ExecutionNodeRow.id).Nodup
  instanceKeys : (instances.map fun row => (row.definitionId, row.instanceKey)).Nodup
  nodeNames : (nodes.map fun row => (row.taskInstanceId, row.nodeId)).Nodup
  parents : ∀ row ∈ nodes, ∀ parent ∈ row.taskInstanceId, parent ∈ instances.map TaskInstanceRow.id

section Rows

variable (identifiers : Nat → String) (definitionId campaignId : String) (table : CompilationTable)

theorem assembled_identifiers (next : Nat) (rows : List CompiledInstanceRow) :
    (assemble identifiers definitionId campaignId table next rows).flatMap
        (fun entry => entry.1.id :: entry.2.map ExecutionNodeRow.id) =
      (List.range' next (rows.map fun row => 1 + (table.nodesFor row.instanceKey).length).sum).map identifiers := by
  induction rows generalizing next with
  | nil => rfl
  | cons row rest ih =>
      have numbered : ((table.nodesFor row.instanceKey).zipIdx (next + 1)).map
          (ExecutionNodeRow.id ∘ nodeRecord identifiers campaignId (identifiers next)) =
          (List.range' (next + 1) (table.nodesFor row.instanceKey).length).map identifiers := by
        rw [← List.zipIdx_map_snd, List.map_map]
        rfl
      simp only [assemble, List.flatMap_cons, ih, List.map_map, numbered, List.map_cons, List.sum_cons, instanceRecord]
      rw [← List.range'_append_1, Nat.add_comm 1 (table.nodesFor row.instanceKey).length, List.range'_succ, List.map_append,
        List.map_cons, Nat.add_assoc, Nat.add_comm 1 (table.nodesFor row.instanceKey).length]

theorem assembled_row (next : Nat) (rows : List CompiledInstanceRow) (entry : TaskInstanceRow × List ExecutionNodeRow)
    (member : entry ∈ assemble identifiers definitionId campaignId table next rows) :
    ∃ row ∈ rows, ∃ first, entry.1 = instanceRecord identifiers definitionId campaignId first row ∧
      entry.2 = ((table.nodesFor row.instanceKey).zipIdx (first + 1)).map
        (nodeRecord identifiers campaignId (identifiers first)) := by
  induction rows generalizing next with
  | nil => cases member
  | cons row rest ih =>
      rcases List.mem_cons.mp member with rfl | member
      · exact ⟨row, List.mem_cons_self, next, rfl, rfl⟩
      · obtain ⟨other, there, holds⟩ := ih _ member
        exact ⟨other, List.mem_cons_of_mem row there, holds⟩

theorem assembled_keys (next : Nat) (rows : List CompiledInstanceRow) :
    (assemble identifiers definitionId campaignId table next rows).map (fun entry => entry.1.instanceKey) =
      rows.map CompiledInstanceRow.instanceKey := by
  induction rows generalizing next with
  | nil => rfl
  | cons row rest ih =>
      rw [assemble, List.map_cons, List.map_cons, ih]
      rfl

theorem heads_sublist (entries : List (TaskInstanceRow × List ExecutionNodeRow)) :
    (entries.map fun entry => entry.1.id).Sublist
      (entries.flatMap fun entry => entry.1.id :: entry.2.map ExecutionNodeRow.id) := by
  induction entries with
  | nil => exact List.Sublist.refl _
  | cons entry rest ih =>
      rw [List.map_cons, List.flatMap_cons, List.cons_append]
      exact (ih.trans (List.sublist_append_right _ _)).cons_cons _

theorem tails_sublist (entries : List (TaskInstanceRow × List ExecutionNodeRow)) :
    ((entries.flatMap Prod.snd).map ExecutionNodeRow.id).Sublist
      (entries.flatMap fun entry => entry.1.id :: entry.2.map ExecutionNodeRow.id) := by
  induction entries with
  | nil => exact List.Sublist.refl _
  | cons entry rest ih =>
      rw [List.flatMap_cons, List.flatMap_cons, List.map_append]
      exact (List.sublist_cons_self _ _).append ih

def submittedInstances : List TaskInstanceRow :=
  (assemble identifiers definitionId campaignId table 0 table.instances).map Prod.fst

def submittedNodes : List ExecutionNodeRow :=
  (assemble identifiers definitionId campaignId table 0 table.instances).flatMap Prod.snd

-- uuid4 texts: 36 characters, no two alike among those one submission takes.
structure FreshIdentifiers : Prop where
  distinct : ∀ i j, i < identifierCount table → j < identifierCount table → identifiers i = identifiers j → i = j
  width : ∀ i, i < identifierCount table → (identifiers i).length = 36

theorem identifiers_nodup (fresh : FreshIdentifiers identifiers table) :
    ((List.range' 0 (identifierCount table)).map identifiers).Nodup := by
  refine List.Nodup.map_on (fun i inRange j inOther same => ?_) (List.nodup_range' ..)
  have first := (List.mem_range'_1.mp inRange).2
  have second := (List.mem_range'_1.mp inOther).2
  exact fresh.distinct i j (by omega) (by omega) same

theorem identifier_width (fresh : FreshIdentifiers identifiers table) (text : String)
    (member : text ∈ (List.range' 0 (identifierCount table)).map identifiers) : text.length = 36 := by
  obtain ⟨index, inRange, rfl⟩ := List.mem_map.mp member
  exact fresh.width index (by have bounds := (List.mem_range'_1.mp inRange).2; omega)

end Rows

section Schema

variable (sha256 : Sha256) (recipe : TaskRecipe) (benchmark : WorkerTemplate) (table : CompilationTable)
  (identifiers : Nat → String) (definitionId campaignId : String)

theorem nodes_unique (compiled : compile sha256 recipe benchmark = .ok table) (row : CompiledInstanceRow)
    (member : row ∈ table.instances) : ((table.nodesFor row.instanceKey).map CompiledNodeRow.nodeId).Nodup := by
  obtain ⟨_, _, expanded⟩ := compiled_nodes sha256 recipe benchmark table compiled row member
  obtain ⟨tree, _, outlines, fits, _⟩ := graph_tree sha256 recipe _ _ _ _ expanded
  rw [← outline_nodes, outlines, outlines_nodes, rows_nodes]
  exact fits.unique

theorem names_unique (compiled : compile sha256 recipe benchmark = .ok table)
    (fresh : FreshIdentifiers identifiers table) :
    ((submittedNodes identifiers definitionId campaignId table).map fun row => (row.taskInstanceId, row.nodeId)).Nodup := by
  have ids := identifiers_nodup identifiers table fresh
  rw [identifierCount, ← assembled_identifiers identifiers definitionId campaignId table 0 table.instances] at ids
  have heads := ids.sublist (heads_sublist _)
  rw [submittedNodes, List.map_flatMap, List.nodup_flatMap]
  refine ⟨fun entry member => ?_, (List.pairwise_map.mp heads).imp_of_mem fun {a b} inA inB different => ?_⟩
  · obtain ⟨row, inRows, first, _, nodes⟩ := assembled_row identifiers definitionId campaignId table 0 _ entry member
    have unique := nodes_unique sha256 recipe benchmark table compiled row inRows
    have shape : (entry.2.map fun row => (row.taskInstanceId, row.nodeId)) =
        ((table.nodesFor row.instanceKey).map CompiledNodeRow.nodeId).map fun name => (some (identifiers first), some name) := by
      rw [nodes, List.map_map, List.map_map, ← List.zipIdx_map_fst (first + 1) (table.nodesFor row.instanceKey), List.map_map,
        List.zipIdx_map_fst]
      rfl
    rw [shape]
    exact unique.map fun x y same => by simpa using same
  · obtain ⟨_, _, firstA, isA, nodesA⟩ := assembled_row identifiers definitionId campaignId table 0 _ a inA
    obtain ⟨_, _, firstB, isB, nodesB⟩ := assembled_row identifiers definitionId campaignId table 0 _ b inB
    change List.Disjoint (a.2.map _) (b.2.map _)
    rw [nodesA, nodesB]
    intro pair heldA heldB
    simp only [List.map_map, List.mem_map, Function.comp_apply] at heldA heldB
    obtain ⟨x, _, rfl⟩ := heldA
    obtain ⟨y, _, same⟩ := heldB
    have owner := congrArg Prod.fst same
    simp only [nodeRecord, Option.some.injEq] at owner
    exact different (by rw [isA, isB]; exact owner.symm)

theorem submitted_node (row : ExecutionNodeRow) (member : row ∈ submittedNodes identifiers definitionId campaignId table) :
    ∃ owner ∈ table.instances, ∃ node ∈ table.nodesFor owner.instanceKey, ∃ first index,
      row = nodeRecord identifiers campaignId (identifiers first) (node, index) ∧
      instanceRecord identifiers definitionId campaignId first owner ∈
        submittedInstances identifiers definitionId campaignId table := by
  obtain ⟨entry, inEntries, inNodes⟩ := List.mem_flatMap.mp member
  obtain ⟨owner, inInstances, first, isOwner, nodes⟩ := assembled_row identifiers definitionId campaignId table 0 _ entry inEntries
  rw [nodes] at inNodes
  obtain ⟨⟨node, index⟩, numbered, rfl⟩ := List.mem_map.mp inNodes
  exact ⟨owner, inInstances, node, List.fst_mem_of_mem_zipIdx numbered, first, index, rfl,
    isOwner ▸ List.mem_map_of_mem inEntries⟩

theorem node_submitted (next : Nat) (rows : List CompiledInstanceRow) (owner : CompiledInstanceRow) (inRows : owner ∈ rows)
    (node : CompiledNodeRow) (member : node ∈ table.nodesFor owner.instanceKey) :
    ∃ row ∈ (assemble identifiers definitionId campaignId table next rows).flatMap Prod.snd, row.nodeId = some node.nodeId := by
  induction rows generalizing next with
  | nil => cases inRows
  | cons row rest ih =>
      rw [assemble, List.flatMap_cons]
      rcases List.mem_cons.mp inRows with rfl | later
      · rw [← List.zipIdx_map_fst (next + 1) (table.nodesFor owner.instanceKey)] at member
        obtain ⟨numbered, there, rfl⟩ := List.mem_map.mp member
        exact ⟨_, List.mem_append_left _ (List.mem_map_of_mem there), rfl⟩
      · obtain ⟨found, there, named⟩ := ih _ later
        exact ⟨found, List.mem_append_right _ there, named⟩

theorem compiled_names (compiled : compile sha256 recipe benchmark = .ok table) (row : CompiledInstanceRow)
    (member : row ∈ table.instances) (nodeId : NodeId) :
    nodeId ∈ (table.nodesFor row.instanceKey).map CompiledNodeRow.nodeId ↔
      ∃ placed name, Inside sha256 recipe row.dimensions placed ∧ placed.node.leafName = some name ∧
        nodeId = qualifiedName placed.path name := by
  obtain ⟨_, _, expanded⟩ := compiled_nodes sha256 recipe benchmark table compiled row member
  obtain ⟨tree, isTree, outlines, _⟩ := graph_tree sha256 recipe _ _ _ _ expanded
  rw [← outline_nodes, outlines, outlines_nodes, rows_nodes]
  exact workflow_names sha256 recipe row.dimensions tree isTree nodeId

theorem instance_identifier (fresh : FreshIdentifiers identifiers table) (row : TaskInstanceRow)
    (member : row ∈ submittedInstances identifiers definitionId campaignId table) : row.id.length = 36 := by
  refine identifier_width identifiers table fresh row.id ?_
  rw [identifierCount, ← assembled_identifiers identifiers definitionId campaignId table 0 table.instances]
  obtain ⟨entry, inEntries, rfl⟩ := List.mem_map.mp member
  exact (heads_sublist _).subset (List.mem_map_of_mem inEntries)

theorem node_identifier (fresh : FreshIdentifiers identifiers table) (row : ExecutionNodeRow)
    (member : row ∈ submittedNodes identifiers definitionId campaignId table) : row.id.length = 36 := by
  refine identifier_width identifiers table fresh row.id ?_
  rw [identifierCount, ← assembled_identifiers identifiers definitionId campaignId table 0 table.instances]
  exact (tails_sublist _).subset (List.mem_map_of_mem member)

theorem schema_names_fit (valid : recipe.valid = true) (compiled : compile sha256 recipe benchmark = .ok table)
    (schema : SchemaHolds (submittedInstances identifiers definitionId campaignId table)
      (submittedNodes identifiers definitionId campaignId table)) : NamesFit sha256 recipe 80 := by
  intro dimensions coordinate placed inside name isLeaf
  have trials : 0 < recipe.instances.trials := by
    simp only [TaskRecipe.valid, TaskInstancesConfig.valid, Bool.and_eq_true, decide_eq_true_eq] at valid
    omega
  have entry : (dimensions, 0) ∈ compiledInstances recipe :=
    List.mem_flatMap.mpr ⟨dimensions, coordinate, List.mem_map.mpr ⟨0, List.mem_range.mpr trials, rfl⟩⟩
  have inInstances := compiled_instance sha256 recipe benchmark table compiled (dimensions, 0) entry
  have named := (compiled_names sha256 recipe benchmark table compiled _ inInstances _).mpr
    ⟨placed, name, inside, isLeaf, rfl⟩
  obtain ⟨node, inNodes, same⟩ := List.mem_map.mp named
  obtain ⟨row, submitted, isNode⟩ :=
    node_submitted table identifiers definitionId campaignId 0 table.instances _ inInstances node inNodes
  have fits := (schema.nodeColumns row submitted).nodeId node.nodeId isNode
  rwa [same, qualified_width] at fits

theorem schema_keys_fit (compiled : compile sha256 recipe benchmark = .ok table)
    (schema : SchemaHolds (submittedInstances identifiers definitionId campaignId table)
      (submittedNodes identifiers definitionId campaignId table)) : KeysFit recipe 512 := by
  intro entry member
  have inInstances := compiled_instance sha256 recipe benchmark table compiled entry member
  have inKeys : instanceKeyOf entry.1 entry.2 ∈ table.instances.map CompiledInstanceRow.instanceKey :=
    List.mem_map.mpr ⟨_, inInstances, rfl⟩
  rw [← assembled_keys identifiers definitionId campaignId table 0 table.instances] at inKeys
  obtain ⟨assembled, inEntries, same⟩ := List.mem_map.mp inKeys
  have fits := (schema.instanceColumns assembled.1 (List.mem_map_of_mem inEntries)).instanceKey
  rwa [same, key_width] at fits

theorem instance_fits (compiled : compile sha256 recipe benchmark = .ok table) (fresh : FreshIdentifiers identifiers table)
    (definition : definitionId.length = 36) (campaign : campaignId.length = 36) (widths : KeysFit recipe 512)
    (row : TaskInstanceRow) (member : row ∈ submittedInstances identifiers definitionId campaignId table) :
    InstanceFits row := by
  have width := instance_identifier table identifiers definitionId campaignId fresh row member
  obtain ⟨entry, inEntries, rfl⟩ := List.mem_map.mp member
  obtain ⟨owner, inInstances, first, isOwner, _⟩ := assembled_row identifiers definitionId campaignId table 0 _ entry inEntries
  obtain ⟨inCompiled, key, _⟩ := compiled_nodes sha256 recipe benchmark table compiled owner inInstances
  rw [isOwner] at width ⊢
  have format : taskFormatVersion.length ≤ 16 := by decide
  have planned : "planned".length ≤ 20 := by decide
  refine ⟨width.le, definition.le, campaign.le, format, ?_, planned, List.mem_cons_self⟩
  change owner.instanceKey.length ≤ 512
  rw [key, key_width (owner.dimensions, owner.trialIndex)]
  exact widths _ inCompiled

theorem node_fits (compiled : compile sha256 recipe benchmark = .ok table) (fresh : FreshIdentifiers identifiers table)
    (campaign : campaignId.length = 36) (names : NamesFit sha256 recipe 80) (row : ExecutionNodeRow)
    (member : row ∈ submittedNodes identifiers definitionId campaignId table) : NodeFits row := by
  have width := node_identifier table identifiers definitionId campaignId fresh row member
  obtain ⟨owner, inInstances, node, inNodes, first, index, rfl, isOwner⟩ :=
    submitted_node table identifiers definitionId campaignId row member
  have ownerWidth := instance_identifier table identifiers definitionId campaignId fresh _ isOwner
  obtain ⟨inCompiled, _, _⟩ := compiled_nodes sha256 recipe benchmark table compiled owner inInstances
  obtain ⟨dimensions, coordinate, inTrials⟩ := List.mem_flatMap.mp inCompiled
  obtain ⟨_, _, same⟩ := List.mem_map.mp inTrials
  have here : owner.dimensions = dimensions := (congrArg Prod.fst same).symm
  obtain ⟨placed, name, inside, isLeaf, named⟩ :=
    (compiled_names sha256 recipe benchmark table compiled owner inInstances node.nodeId).mp (List.mem_map_of_mem inNodes)
  have idWidth : node.nodeId.length ≤ 80 := by
    rw [named, qualified_width]
    exact names owner.dimensions (here ▸ coordinate) placed inside name isLeaf
  have state : (if node.dependencies = [] then "pending" else "blocked").length ≤ 20 ∧
      (if node.dependencies = [] then "pending" else "blocked") ∈ ["blocked", "pending", "emitted", "cancelled"] := by
    split <;> exact ⟨by decide, by decide⟩
  exact ⟨width.le, campaign.le, fun _ absent => (by cases absent), fun _ absent => (by cases absent),
    fun text isText => (by cases isText; exact ownerWidth.le), fun text isText => (by cases isText; exact idWidth),
    state.1, state.2, fun _ absent => (by cases absent), .inr ⟨rfl, rfl, rfl, rfl⟩⟩

-- The rows of an accepted recipe satisfy the schema exactly when its qualified
-- names and its coordinate texts are narrow enough; nothing checks that.
theorem submission_persists (accepted : Accepted sha256 recipe) (compiled : compile sha256 recipe benchmark = .ok table)
    (fresh : FreshIdentifiers identifiers table) (definition : definitionId.length = 36) (campaign : campaignId.length = 36) :
    SchemaHolds (submittedInstances identifiers definitionId campaignId table)
        (submittedNodes identifiers definitionId campaignId table) ↔
      NamesFit sha256 recipe 80 ∧ KeysFit recipe 512 := by
  have ids := identifiers_nodup identifiers table fresh
  rw [identifierCount, ← assembled_identifiers identifiers definitionId campaignId table 0 table.instances] at ids
  constructor
  · intro schema
    exact ⟨schema_names_fit sha256 recipe benchmark table identifiers definitionId campaignId accepted.1 compiled schema,
      schema_keys_fit sha256 recipe benchmark table identifiers definitionId campaignId compiled schema⟩
  · rintro ⟨names, widths⟩
    refine ⟨instance_fits sha256 recipe benchmark table identifiers definitionId campaignId compiled fresh definition campaign widths,
      node_fits sha256 recipe benchmark table identifiers definitionId campaignId compiled fresh campaign names, ?_,
      ids.sublist (tails_sublist _), ?_,
      names_unique sha256 recipe benchmark table identifiers definitionId campaignId compiled fresh, fun row member parent isParent => ?_⟩
    · rw [submittedInstances, List.map_map]
      exact ids.sublist (heads_sublist _)
    · have unique := table.unique
      rw [← assembled_keys identifiers definitionId campaignId table 0 table.instances] at unique
      rw [submittedInstances, List.map_map]
      refine List.Nodup.of_map Prod.snd ?_
      rw [List.map_map]
      exact unique
    · obtain ⟨owner, _, node, _, first, index, rfl, isOwner⟩ :=
        submitted_node table identifiers definitionId campaignId row member
      cases isParent
      exact List.mem_map.mpr ⟨_, isOwner, rfl⟩

end Schema

def plainTemplate : WorkerTemplate := { hasSteps := false, repeats := 1, adapter := none, samplingParams := [] }

theorem plain_template (nodes : List CompiledNodeRow) : validateWorkerTemplate nodes plainTemplate = .ok () := by
  simp [validateWorkerTemplate, plainTemplate]

theorem compile_total (sha256 : Sha256) (recipe : TaskRecipe) (accepted : validateRecipe sha256 recipe = .ok ())
    (unique : ((compiledInstances recipe).map fun entry => instanceKeyOf entry.1 entry.2).Nodup) :
    ∃ table, compile sha256 recipe plainTemplate = .ok table := by
  have graph := accepted_graph sha256 recipe accepted
  obtain ⟨results, mapped⟩ : ∃ results, (compiledInstances recipe).mapM (compileInstance sha256 recipe plainTemplate) = .ok results := by
    refine mapM_total _ _ fun entry member => ?_
    obtain ⟨dimensions, coordinate, inTrials⟩ := List.mem_flatMap.mp member
    obtain ⟨trial, _, rfl⟩ := List.mem_map.mp inTrials
    obtain ⟨_, rows, _, expanded, _⟩ :=
      accepted_trial sha256 recipe accepted dimensions coordinate trial (instanceKeyOf dimensions trial)
    refine ⟨_, (bind_ok _ _ _).mpr ⟨rows, expanded, (bind_ok _ _ _).mpr ⟨(), plain_template rows, rfl⟩⟩⟩
  have keys : (results.map Prod.fst).map CompiledInstanceRow.instanceKey =
      (compiledInstances recipe).map fun entry => instanceKeyOf entry.1 entry.2 := by
    rw [List.map_map]
    refine mapM_map _ _ _ _ _ mapped fun entry result done => ?_
    rw [Function.comp_apply, (instance_compiled sha256 recipe plainTemplate entry result done).1]
  have known : ∀ node ∈ results.flatMap Prod.snd,
      node.instanceKey ∈ (results.map Prod.fst).map CompiledInstanceRow.instanceKey := by
    intro node member
    obtain ⟨result, inResults, inNodes⟩ := List.mem_flatMap.mp member
    obtain ⟨entry, _, done⟩ := paired_right (mapM_pairs _ _ _ mapped) result inResults
    obtain ⟨isRow, expanded⟩ := instance_compiled sha256 recipe plainTemplate entry result done
    rw [List.map_map]
    refine List.mem_map.mpr ⟨result, inResults, ?_⟩
    rw [Function.comp_apply, isRow]
    exact (expanded_instance_key sha256 recipe entry.1 entry.2 _ _ expanded node inNodes).symm
  refine ⟨⟨_, _, keys.symm ▸ unique, known⟩, (bind_ok _ _ _).mpr ⟨(), graph, (bind_ok _ _ _).mpr ⟨results, mapped, ?_⟩⟩⟩
  rw [CompilationTable.build, dif_pos (keys.symm ▸ unique), dif_pos known]

def narrowRecipe : TaskRecipe := workflowRecipe .empty (callNode "a" []) []

def compiledTable {Table : Type} (result : Except String Table) (compiled : result.toOption.isSome) :
    { table // result = .ok table } :=
  match result, compiled with
  | .ok table, _ => ⟨table, rfl⟩

def narrowTable := compiledTable (compile (fun _ => 0) narrowRecipe plainTemplate) (by decide +kernel)

def numbered (index : Nat) : String := s!"00000000-0000-4000-8000-00000000000{index}"

theorem narrow_identifiers : FreshIdentifiers numbered narrowTable.1 := by
  have count : identifierCount narrowTable.1 = 4 := by decide +kernel
  refine ⟨?_, ?_⟩
  · rw [count]
    have apart : ∀ i < 4, ∀ j < 4, numbered i = numbered j → i = j := by decide
    exact fun i j first second => apart i first j second
  · rw [count]
    decide

theorem submission_persists_narrow :
    SchemaHolds (submittedInstances numbered (numbered 7) (numbered 8) narrowTable.1)
        (submittedNodes numbered (numbered 7) (numbered 8) narrowTable.1) ↔
      NamesFit (fun _ => 0) narrowRecipe 80 ∧ KeysFit narrowRecipe 512 :=
  submission_persists (fun _ => 0) narrowRecipe plainTemplate narrowTable.1 numbered (numbered 7) (numbered 8)
    ⟨by decide, by decide +kernel⟩ narrowTable.2 narrow_identifiers (by decide) (by decide)

def wideRecipe : TaskRecipe :=
  workflowRecipe .empty
    (.sequenceNode (String.ofList (List.replicate 50 's')) .zero (callNode (String.ofList (List.replicate 50 'c')) []) []) []

theorem wide_tree (sha256 : Sha256) : workflowTree sha256 wideRecipe [] = workflowTree (fun _ => 0) wideRecipe [] := by
  simp only [workflowTree, wideRecipe, workflowRecipe, TaskRecipe.workflow, maxGraphDepth, callNode, List.mapM_cons, List.mapM_nil,
    unfold]

theorem wide_accepted (sha256 : Sha256) : Accepted sha256 wideRecipe := by
  refine ⟨by decide, accepted_hash (fun _ => 0) sha256 wideRecipe (by decide +kernel) fun dimensions member => ?_⟩
  have only : dimensions = [] := by simpa [matrixCoordinates, wideRecipe, workflowRecipe, Table.empty, product] using member
  rw [only, wide_tree]

theorem wide_name_exceeds_column :
    wideRecipe.valid = true ∧ ∀ sha256, Accepted sha256 wideRecipe ∧ ∃ table, compile sha256 wideRecipe plainTemplate = .ok table ∧
      ∀ identifiers definitionId campaignId,
        ¬ SchemaHolds (submittedInstances identifiers definitionId campaignId table)
          (submittedNodes identifiers definitionId campaignId table) := by
  refine ⟨by decide, fun sha256 => ?_⟩
  have accepted := wide_accepted sha256
  obtain ⟨table, compiled⟩ := compile_total sha256 wideRecipe accepted.2 (by decide)
  refine ⟨accepted, table, compiled, fun identifiers definitionId campaignId schema => ?_⟩
  have names := schema_names_fit sha256 wideRecipe plainTemplate table identifiers definitionId campaignId accepted.1 compiled schema
  have edge : Child sha256 [] ⟨maxGraphDepth, wideRecipe.root, []⟩ _ :=
    .step 19 _ _ _ [] [] (callNode (String.ofList (List.replicate 50 'c')) []) List.mem_cons_self
  have fits := names [] (by decide) _ ⟨wideRecipe.root, List.mem_cons_self, .single edge⟩ _ rfl
  exact absurd fits (by decide)

end LlmperfOrchestrator.Compiler

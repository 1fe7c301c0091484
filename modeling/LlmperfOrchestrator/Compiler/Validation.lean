import LlmperfOrchestrator.Compiler.Placement

set_option autoImplicit false

namespace LlmperfOrchestrator.Compiler

open Tables SeriesParallel Outcomes Relation

theorem each_coordinate (items : List Dimensions) (start : Nat) (check : Dimensions × Nat → Except String Unit) :
    (items.zipIdx start).forM check = .ok () ↔
      ∀ index item, items[index]? = some item → check (item, start + index) = .ok () := by
  induction items generalizing start with
  | nil => simp [pure, Except.pure]
  | cons head rest ih =>
      rw [List.zipIdx_cons, List.forM_eq_forM, List.forM_cons, bind_ok]
      constructor
      · rintro ⟨_, taken, later⟩ index item read
        cases index with
        | zero =>
            cases Option.some.inj read
            exact taken
        | succ index =>
            have checked := (ih (start + 1)).mp later index item (by simpa using read)
            rwa [Nat.add_right_comm, Nat.add_assoc] at checked
      · intro all
        refine ⟨(), all 0 head rfl, (ih (start + 1)).mpr fun index item read => ?_⟩
        have checked := all (index + 1) item (by simpa using read)
        rwa [Nat.add_right_comm, Nat.add_assoc]

theorem expand_again (sha256 hash : Sha256) (recipe : TaskRecipe) (dimensions : Dimensions) (trial other : Nat)
    (instanceKey otherKey : String) (rows : List CompiledNodeRow)
    (same : workflowTree hash recipe dimensions = workflowTree sha256 recipe dimensions)
    (expanded : expandGraph sha256 (instanceContext recipe dimensions trial) instanceKey recipe.workflow = .ok rows) :
    ∃ again, expandGraph hash (instanceContext recipe dimensions other) otherKey recipe.workflow = .ok again ∧
      again.map CompiledNodeRow.outline = rows.map CompiledNodeRow.outline := by
  obtain ⟨tree, isTree, outlines, fits, ⟨state, referred⟩, _⟩ :=
    graph_tree sha256 recipe dimensions trial instanceKey rows expanded
  have fits : Fits hash (instanceContext recipe dimensions other) tree :=
    ⟨fun leaf member => emittable_trial sha256 hash recipe dimensions trial other leaf (fits.emittable leaf member),
      fits.unique, fits.ordered, fits.room⟩
  obtain ⟨builder, emitted⟩ := rows_of_fits hash otherKey tree (instanceContext recipe dimensions other)
    GraphBuilder.new [] 0 fits (workflow_nonneg sha256 recipe dimensions tree isTree) le_rfl
    (List.disjoint_nil_left _) (by simpa [GraphBuilder.new] using fits.room)
  have grown := (rows_emitted hash _ otherKey _ _ _ emitted).2
  have outline : builder.nodes.map CompiledNodeRow.outline = (tree.rows [] 0).map outlineOf := grown
  have rooted := (workflow_denotes hash (instanceContext recipe dimensions other) otherKey recipe builder
    (tree.exits [])).mpr ⟨tree, same.trans isTree, emitted, rfl⟩
  have references : checkReferences builder.nodes = .ok state :=
    (references_outline builder.nodes rows (outline.trans outlines.symm)).trans referred
  refine ⟨builder.nodes, ?_, outline.trans outlines.symm⟩
  rw [expandGraph, rooted]
  change (checkReferences builder.nodes >>= fun _ => _) = _
  rw [references]
  rfl

theorem validated_coordinate (sha256 : Sha256) (recipe : TaskRecipe) (accepted : validateRecipe sha256 recipe = .ok ())
    (dimensions : Dimensions) (coordinate : dimensions ∈ matrixCoordinates recipe) :
    ∃ index, validateCoordinate sha256 recipe index dimensions = .ok () := by
  rw [validateRecipe] at accepted
  split at accepted
  · cases accepted
  obtain ⟨_, _, checked⟩ := (bind_ok _ _ _).mp accepted
  obtain ⟨index, read⟩ := List.getElem?_of_mem coordinate
  exact ⟨0 + index, (each_coordinate _ 0 _).mp checked index dimensions read⟩

theorem accepted_graph (sha256 : Sha256) (recipe : TaskRecipe) (accepted : validateRecipe sha256 recipe = .ok ()) :
    validateGraph recipe = .ok () := by
  rw [validateRecipe] at accepted
  split at accepted
  · cases accepted
  · obtain ⟨_, graph, _⟩ := (bind_ok _ _ _).mp accepted
    exact graph

-- Validation expands the first trial only; every other trial expands as well,
-- to rows of the same outline.
theorem accepted_trial (sha256 : Sha256) (recipe : TaskRecipe) (accepted : validateRecipe sha256 recipe = .ok ())
    (dimensions : Dimensions) (coordinate : dimensions ∈ matrixCoordinates recipe) (trial : Nat) (instanceKey : String) :
    ∃ tree rows, workflowTree sha256 recipe dimensions = .ok tree ∧
      expandGraph sha256 (instanceContext recipe dimensions trial) instanceKey recipe.workflow = .ok rows ∧
      rows.map CompiledNodeRow.outline = (tree.rows [] 0).map outlineOf ∧
      Fits sha256 (instanceContext recipe dimensions trial) tree := by
  obtain ⟨index, validated⟩ := validated_coordinate sha256 recipe accepted dimensions coordinate
  obtain ⟨first, expanded, _⟩ := (bind_ok _ _ _).mp validated
  obtain ⟨rows, again, _⟩ := expand_again sha256 sha256 recipe dimensions 0 trial _ instanceKey first rfl expanded
  obtain ⟨tree, isTree, outlines, fits, _⟩ := graph_tree sha256 recipe dimensions trial instanceKey rows again
  exact ⟨tree, rows, isTree, again, outlines, fits⟩

theorem settle_outline (offsets : Dict NodeId Rat) (a b : CompiledNodeRow) (same : a.outline = b.outline) :
    settleOffset offsets a = settleOffset offsets b := by
  have node : a.nodeId = b.nodeId := congrArg Row.node same
  have dependencies : a.dependencies = b.dependencies := congrArg Row.dependencies same
  have after : a.afterSeconds = b.afterSeconds := congrArg Row.after same
  simp only [settleOffset, node, dependencies, after]

theorem span_outline (a b : List CompiledNodeRow)
    (same : a.map CompiledNodeRow.outline = b.map CompiledNodeRow.outline) : plannedSpan a = plannedSpan b := by
  have loop : ∀ (offsets : Dict NodeId Rat) (a b : List CompiledNodeRow),
      a.map CompiledNodeRow.outline = b.map CompiledNodeRow.outline →
      a.foldl settleOffset offsets = b.foldl settleOffset offsets := by
    intro offsets a
    induction a generalizing offsets with
    | nil =>
        intro b same
        rw [List.map_nil, eq_comm, List.map_eq_nil_iff] at same
        rw [same]
    | cons row rest ih =>
        intro b same
        cases b with
        | nil => cases same
        | cons other others =>
            simp only [List.map_cons, List.cons.injEq] at same
            rw [List.foldl_cons, List.foldl_cons, settle_outline offsets row other same.1]
            exact ih _ others same.2
  rw [plannedSpan, plannedSpan, completionOffsets, completionOffsets, loop [] a b same]

-- Acceptance sees the hash only through the value pools of for_each nodes.
theorem accepted_hash (sha256 hash : Sha256) (recipe : TaskRecipe) (accepted : validateRecipe sha256 recipe = .ok ())
    (same : ∀ dimensions ∈ matrixCoordinates recipe,
      workflowTree hash recipe dimensions = workflowTree sha256 recipe dimensions) :
    validateRecipe hash recipe = .ok () := by
  rw [validateRecipe] at accepted ⊢
  split at accepted
  · cases accepted
  rename_i few
  obtain ⟨_, graph, checked⟩ := (bind_ok _ _ _).mp accepted
  rw [if_neg few]
  refine (bind_ok _ _ _).mpr ⟨_, graph, (each_coordinate _ 0 _).mpr fun index dimensions read => ?_⟩
  have validated := (each_coordinate _ 0 _).mp checked index dimensions read
  obtain ⟨rows, expanded, checked⟩ := (bind_ok _ _ _).mp validated
  obtain ⟨again, expandedAgain, outlines⟩ := expand_again sha256 hash recipe dimensions 0 0 _ _ rows
    (same dimensions (List.mem_of_getElem? read)) expanded
  have kinds : again.any (fun node => node.executionKind != .batch) = rows.any fun node => node.executionKind != .batch := by
    have both := congrArg (List.any · fun outline : Outline => outline.data.1 != .batch) outlines
    simpa only [List.any_map, Function.comp_def, CompiledNodeRow.outline] using both
  refine (bind_ok _ _ _).mpr ⟨again, expandedAgain, ?_⟩
  rw [kinds, span_outline again rows outlines]
  exact checked

def DependsOn (rows : List CompiledNodeRow) (u v : NodeId) : Prop :=
  ∃ row ∈ rows, row.nodeId = v ∧ u ∈ row.dependencies

theorem depends_outline (rows : List CompiledNodeRow) (trees : List TreeRow)
    (same : rows.map CompiledNodeRow.outline = trees.map outlineOf) (u v : NodeId) :
    DependsOn rows u v ↔ Depends trees u v := by
  have left : DependsOn rows u v ↔ Depends (rows.map CompiledNodeRow.outline) u v := by
    simp [DependsOn, Depends, CompiledNodeRow.outline]
  have right : Depends trees u v ↔ Depends (trees.map outlineOf) u v := by
    simp [Depends, outlineOf]
  rw [left, right, same]

theorem task_graph_denotation (sha256 : Sha256) (recipe : TaskRecipe) (accepted : validateRecipe sha256 recipe = .ok ())
    (dimensions : Dimensions) (coordinate : dimensions ∈ matrixCoordinates recipe) (trial : Nat) (instanceKey : String) :
    ∃ tree rows, workflowTree sha256 recipe dimensions = .ok tree ∧
      expandGraph sha256 (instanceContext recipe dimensions trial) instanceKey recipe.workflow = .ok rows ∧
      rows.map CompiledNodeRow.nodeId = tree.nodes ∧
      (rows.map CompiledNodeRow.nodeId).Nodup ∧
      (∀ early row late, rows = early ++ row :: late →
        ∀ dependency ∈ row.dependencies, dependency ∈ early.map CompiledNodeRow.nodeId) ∧
      ∀ u v, TransGen (DependsOn rows) u v ↔ TransGen (fun a b => tree.Before a b ∨ tree.Explicit a b) u v := by
  obtain ⟨tree, rows, isTree, expanded, outlines, fits⟩ :=
    accepted_trial sha256 recipe accepted dimensions coordinate trial instanceKey
  obtain ⟨_, _, _, _, ⟨state, referred⟩, _⟩ := graph_tree sha256 recipe dimensions trial instanceKey rows expanded
  have named : rows.map CompiledNodeRow.nodeId = tree.nodes := by
    rw [← outline_nodes, outlines, outlines_nodes, rows_nodes]
  refine ⟨tree, rows, isTree, expanded, named, named ▸ fits.unique,
    fun early row late split => dependencies_earlier rows state referred early late row split, fun u v => ?_⟩
  have same : DependsOn rows = Depends (tree.rows [] 0) := by
    funext a b
    exact propext (depends_outline rows _ outlines a b)
  rw [same]
  exact expansion_order tree 0 u v

def callNode (name : String) (dependsOn : List RequestDependency) : TaskNodeSpec :=
  .invokeNode { name := name, payload := "p", role := none, after := .zero, dependsOn := dependsOn }

def workflowRecipe (matrix : Table String (List Int)) (root : TaskNodeSpec) (roots : List TaskNodeSpec) : TaskRecipe :=
  { name := "sample", instances := { matrix := matrix, trials := 2, seed := 11111, prefixSeedScope := .trial },
    payloads := ⟨[("p", ⟨"s", none⟩)], by decide⟩, root := root, roots := roots }

def forkRecipe : TaskRecipe :=
  workflowRecipe ⟨[("rounds", [0, 2])], by decide⟩
    (.parallelNode "fork" .zero (callNode "left" []) [.repeatNode "again" (.dimension "rounds") .zero (callNode "right" [])])
    [callNode "final" [⟨"fork.left", true⟩]]

theorem fork_accepted : validateRecipe (fun _ => 0) forkRecipe = .ok () := by decide +kernel

theorem task_graph_denotation_fork :
    ∃ tree rows, workflowTree (fun _ => 0) forkRecipe [("rounds", 0)] = .ok tree ∧
      expandGraph (fun _ => 0) (instanceContext forkRecipe [("rounds", 0)] 1) "rounds=0;trial=1" forkRecipe.workflow = .ok rows ∧
      rows.map CompiledNodeRow.nodeId = tree.nodes ∧
      (rows.map CompiledNodeRow.nodeId).Nodup ∧
      (∀ early row late, rows = early ++ row :: late →
        ∀ dependency ∈ row.dependencies, dependency ∈ early.map CompiledNodeRow.nodeId) ∧
      ∀ u v, TransGen (DependsOn rows) u v ↔ TransGen (fun a b => tree.Before a b ∨ tree.Explicit a b) u v :=
  task_graph_denotation (fun _ => 0) forkRecipe fork_accepted [("rounds", 0)] (by decide) 1 "rounds=0;trial=1"

end LlmperfOrchestrator.Compiler

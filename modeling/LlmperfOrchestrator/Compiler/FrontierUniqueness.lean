import LlmperfOrchestrator.Compiler.StructuralDelays
import LlmperfOrchestrator.Library.Antichains

set_option autoImplicit false

namespace LlmperfOrchestrator.Compiler

open Tables SeriesParallel Outcomes Relation

-- Entered with distinct ids, none of which it emits itself, a step returns distinct
-- ids; and no more of them than there are rows, when the ids it entered with are emitted.
def KeepsUnique (step : Step) : Prop :=
  ∀ (builder grown : GraphBuilder) (incoming outgoing : Frontier) (delay : Rat),
    incoming.Nodup →
    (∀ u ∈ incoming, u ∈ grown.nodes.map CompiledNodeRow.nodeId → u ∈ builder.nodes.map CompiledNodeRow.nodeId) →
    step builder incoming delay = .ok (grown, outgoing) →
    outgoing.Nodup ∧
      ((∀ u ∈ incoming, u ∈ builder.nodes.map CompiledNodeRow.nodeId) → outgoing.length ≤ grown.nodes.length)

section Frontiers

variable (sha256 : Sha256) (recipe : TaskRecipe) (dimensions : Dimensions) (trial : Nat) (instanceKey : String)

def FrontiersUnique : Prop :=
  ∀ placed, Inside sha256 recipe dimensions placed →
    KeepsUnique (placed.expand sha256 (instanceContext recipe dimensions trial) instanceKey)

-- Of the branches of each parallel node, and of the lanes of each for_each node, at most
-- one can hand its incoming frontier on without a node.
def BranchesFunnel : Prop := ∃ tree, workflowTree sha256 recipe dimensions = .ok tree ∧ tree.Funneled

theorem within_funneled (part tree : Tree) (within : Term.Within part tree) (funneled : tree.Funneled) : part.Funneled := by
  induction within with
  | refl => exact funneled
  | first first rest _ ih => exact ih funneled.1
  | rest first rest _ ih => exact ih funneled.2
  | left left right _ ih => exact ih funneled.1
  | right left right _ ih => exact ih funneled.2.1
  | delayed delay body _ ih => exact ih funneled

theorem funneled_keeps (funnel : BranchesFunnel sha256 recipe dimensions) :
    FrontiersUnique sha256 recipe dimensions trial instanceKey := by
  intro placed inside builder grown incoming outgoing delay unique fresh taken
  obtain ⟨whole, isWhole, funneled⟩ := funnel
  obtain ⟨part, isPart, within⟩ := inside_tree sha256 recipe dimensions placed inside whole isWhole
  obtain ⟨tree, isTree, _, named, exits⟩ := added_rows sha256 (instanceContext recipe dimensions trial) instanceKey placed
    builder grown incoming outgoing delay taken
  cases isPart.symm.trans isTree
  obtain ⟨_, treeUnique, separate⟩ := List.nodup_append'.mp (named ▸ grown.unique)
  have apart : List.Disjoint incoming part.nodes := by
    intro u entered held
    have emitted : u ∈ grown.nodes.map CompiledNodeRow.nodeId := named ▸ List.mem_append_right _ held
    exact separate (fresh u entered emitted) held
  have single := funneled_exits part incoming (within_funneled part whole within funneled) treeUnique unique apart
  rw [exits] at single
  refine ⟨single, fun earlier => ?_⟩
  have known : outgoing ⊆ grown.nodes.map CompiledNodeRow.nodeId := by
    intro u exit
    rw [named, List.mem_append]
    rw [← exits] at exit
    exact (exits_known part incoming u exit).imp_left (earlier u)
  have fewer := (single.subperm known).length_le
  rwa [List.length_map] at fewer

-- A frontier of one foreign id shows which branches hand it on.
theorem placed_exit (accepted : validateRecipe sha256 recipe = .ok ()) (coordinate : dimensions ∈ matrixCoordinates recipe)
    (keeps : FrontiersUnique sha256 recipe dimensions trial instanceKey) (placed : Placed)
    (inside : Inside sha256 recipe dimensions placed) (tree : Tree) (isTree : placed.tree sha256 dimensions = .ok tree) :
    (tree.exits [""]).Nodup := by
  obtain ⟨again, isAgain, fits, nonneg⟩ := inside_fits sha256 recipe dimensions trial accepted coordinate placed inside
  cases isTree.symm.trans isAgain
  obtain ⟨grown, emitted⟩ := rows_of_fits sha256 instanceKey tree (instanceContext recipe dimensions trial)
    GraphBuilder.new [""] 0 fits nonneg le_rfl (List.disjoint_nil_left _) (by simpa [GraphBuilder.new] using fits.room)
  have taken : placed.expand sha256 (instanceContext recipe dimensions trial) instanceKey GraphBuilder.new [""] 0 =
      .ok (grown, tree.exits [""]) :=
    (node_denotes sha256 _ instanceKey placed.levels placed.node placed.path _ _ _ _ _).mpr ⟨tree, isTree, emitted, rfl⟩
  refine (keeps placed inside GraphBuilder.new grown [""] _ 0 (List.nodup_singleton _) ?_ taken).1
  intro u entered held
  cases List.mem_singleton.mp entered
  obtain ⟨row, member, blank⟩ := List.mem_map.mp held
  exact absurd blank (grown.named row member).1

theorem keeps_funneled (accepted : validateRecipe sha256 recipe = .ok ()) (coordinate : dimensions ∈ matrixCoordinates recipe)
    (keeps : FrontiersUnique sha256 recipe dimensions trial instanceKey) (levels : Nat) (node : TaskNodeSpec) (path : Path)
    (inside : Inside sha256 recipe dimensions ⟨levels, node, path⟩) (tree : Tree)
    (isTree : unfold sha256 dimensions levels node path = .ok tree) : tree.Funneled := by
  let motive : Placed → Tree → Prop := fun placed tree =>
    placed.tree sha256 dimensions = .ok tree → Inside sha256 recipe dimensions placed → tree.Funneled
  have each : ∀ parent (parts : List Tree), Parts sha256 dimensions motive parent parts →
      Inside sha256 recipe dimensions parent → ∀ part ∈ parts, part.Funneled := by
    intro parent parts holds above part member
    obtain ⟨child, edge, isPart, funneled⟩ := holds part member
    exact funneled isPart (inside_child sha256 recipe dimensions parent child above edge)
  have joins : ∀ parent delay (parts : List Tree) tree, parallelTree delay parts = .ok tree →
      parent.tree sha256 dimensions = .ok tree → Inside sha256 recipe dimensions parent →
      (∀ part ∈ parts, part.Funneled) → tree.Funneled := by
    intro parent delay parts tree joined isTree above funneled
    have single := placed_exit sha256 recipe dimensions trial instanceKey accepted coordinate keeps parent above tree isTree
    cases parts with
    | nil => cases joined
    | cons branch others =>
        cases joined
        exact parallel_list_funneled branch others funneled "" single
  apply unfold_induction sha256 dimensions motive _ _ _ _ _ _ levels node path tree isTree isTree inside
  · exact fun _ _ _ _ _ _ _ => trivial
  · exact fun _ _ _ _ _ _ _ => trivial
  · intro parent interval parts _ holds _ above
    apply serial_list_funneled
    intro delayed member
    obtain ⟨part, inParts, rfl⟩ := List.mem_map.mp member
    exact each parent parts holds above part inParts
  · intro parent delay parts _ holds _ above
    exact serial_list_funneled parts (each parent parts holds above)
  · intro parent delay parts tree _ holds joined isTree above
    exact joins parent delay parts tree joined isTree above (each parent parts holds above)
  · intro parent delay lanes tree _ holds joined isTree above
    apply joins parent delay lanes tree joined isTree above
    intro lane inLanes
    obtain ⟨parts, below, rfl⟩ := holds lane inLanes
    apply serial_list_funneled
    intro wrapped inTrees
    obtain ⟨part, inParts, rfl⟩ := List.mem_map.mp inTrees
    exact ⟨each parent parts below above part inParts, trivial⟩

theorem duplicate_free_frontiers (accepted : validateRecipe sha256 recipe = .ok ())
    (coordinate : dimensions ∈ matrixCoordinates recipe) :
    FrontiersUnique sha256 recipe dimensions trial instanceKey ↔ BranchesFunnel sha256 recipe dimensions := by
  constructor
  · intro keeps
    obtain ⟨whole, _, isWhole, _⟩ := accepted_trial sha256 recipe accepted dimensions coordinate trial ""
    obtain ⟨roots, mapped, same⟩ := (bind_ok _ _ _).mp isWhole
    cases same
    refine ⟨_, isWhole, serial_list_funneled roots fun root inRoots => ?_⟩
    obtain ⟨spec, inWorkflow, isRoot⟩ := paired_right (mapM_pairs _ _ _ mapped) root inRoots
    exact keeps_funneled sha256 recipe dimensions trial instanceKey accepted coordinate keeps maxGraphDepth spec []
      ⟨spec, inWorkflow, .refl⟩ root isRoot
  · exact funneled_keeps sha256 recipe dimensions trial instanceKey

theorem duplicate_free_frontiers_fork :
    FrontiersUnique (fun _ => 0) forkRecipe [("rounds", 2)] 1 "rounds=2;trial=1" ↔
      BranchesFunnel (fun _ => 0) forkRecipe [("rounds", 2)] :=
  duplicate_free_frontiers (fun _ => 0) forkRecipe [("rounds", 2)] 1 "rounds=2;trial=1" fork_accepted (by decide)

end Frontiers

def idleBranches : TaskNodeSpec :=
  .parallelNode "idle" .zero (.repeatNode "r" (.literal 0) .zero (callNode "up" []))
    [.repeatNode "s" (.literal 0) .zero (callNode "up" [])]

def idleRecipe : TaskRecipe := workflowRecipe .empty (callNode "a" []) [idleBranches]

def idleLeaf : TreeRow :=
  { node := "a", dependencies := [], after := 0, data := ⟨"a", some "p", [], .atomic, none⟩ }

def idleBlock : Tree := .delayed 0 (.parallel (serialList []) (serialList []))

theorem idle_block (sha256 : Sha256) : unfold sha256 [] maxGraphDepth idleBranches [] = .ok idleBlock := by
  with_unfolding_all rfl

theorem idle_tree (sha256 : Sha256) : workflowTree sha256 idleRecipe [] = .ok (serialList [.leaf idleLeaf, idleBlock]) := by
  have first : unfold sha256 [] maxGraphDepth (callNode "a" []) [] = .ok (.leaf idleLeaf) := by
    with_unfolding_all rfl
  rw [workflowTree, show idleRecipe.workflow = [callNode "a" [], idleBranches] from rfl, List.mapM_cons, first,
    List.mapM_cons, idle_block]
  rfl

theorem idle_accepted (sha256 : Sha256) : validateRecipe sha256 idleRecipe = .ok () := by
  apply accepted_hash (fun _ => 0) sha256 idleRecipe (by decide +kernel)
  intro dimensions member
  have only : dimensions = [] := by simpa [matrixCoordinates, idleRecipe, workflowRecipe, Table.empty, product] using member
  rw [only, idle_tree, idle_tree]

-- The frontier holds the one emitted node twice, and one row was emitted.
theorem idle_branches_repeat_frontier :
    idleRecipe.valid = true ∧ ∀ sha256, validateRecipe sha256 idleRecipe = .ok () ∧ [] ∈ matrixCoordinates idleRecipe ∧
      (∃ builder, expandRoots sha256 (instanceContext idleRecipe [] 0) "trial=0" idleRecipe.workflow GraphBuilder.new =
        .ok (builder, ["a", "a"]) ∧ builder.nodes.length = 1) ∧
      ¬ FrontiersUnique sha256 idleRecipe [] 0 "trial=0" := by
  have coordinate : [] ∈ matrixCoordinates idleRecipe := by decide
  refine ⟨by decide, fun sha256 => ⟨idle_accepted sha256, coordinate, ?_, ?_⟩⟩
  · obtain ⟨tree, rows, isTree, expanded, outlines, _⟩ :=
      accepted_trial sha256 idleRecipe (idle_accepted sha256) [] coordinate 0 "trial=0"
    cases (idle_tree sha256).symm.trans isTree
    obtain ⟨⟨builder, frontier⟩, walked, checked⟩ := (bind_ok _ _ _).mp expanded
    obtain ⟨_, _, same⟩ := (bind_ok _ _ _).mp checked
    cases same
    obtain ⟨again, isAgain, _, exits⟩ := (workflow_denotes sha256 _ "trial=0" idleRecipe builder frontier).mp walked
    cases (idle_tree sha256).symm.trans isAgain
    cases exits
    have count := congrArg List.length outlines
    rw [List.length_map, List.length_map] at count
    exact ⟨builder, walked, count⟩
  · intro keeps
    have single := placed_exit sha256 idleRecipe [] 0 "trial=0" (idle_accepted sha256) coordinate keeps
      ⟨maxGraphDepth, idleBranches, []⟩ ⟨idleBranches, List.mem_cons_of_mem _ List.mem_cons_self, .refl⟩ _ (idle_block sha256)
    exact absurd single (by decide)

end LlmperfOrchestrator.Compiler

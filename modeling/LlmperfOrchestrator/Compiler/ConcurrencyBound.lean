import LlmperfOrchestrator.Compiler.Widths
import Mathlib.Algebra.BigOperators.Group.Finset.Piecewise

set_option autoImplicit false

namespace LlmperfOrchestrator.Compiler

open Tables SeriesParallel Outcomes Relation

mutual
-- A node without depends_on, itself or below.
def TaskNodeSpec.Unreferenced : TaskNodeSpec → Prop
  | .invokeNode config => config.dependsOn = []
  | .runNode config => config.dependsOn = []
  | .repeatNode _ _ _ node => node.Unreferenced
  | .parallelNode _ _ branch branches => branch.Unreferenced ∧ AllUnreferenced branches
  | .parallelCount _ _ _ node => node.Unreferenced
  | .sequenceNode _ _ step steps => step.Unreferenced ∧ AllUnreferenced steps
  | .forEachNode _ node => node.Unreferenced
def AllUnreferenced : List TaskNodeSpec → Prop
  | [] => True
  | node :: rest => node.Unreferenced ∧ AllUnreferenced rest
end

theorem all_unreferenced (nodes : List TaskNodeSpec) (all : AllUnreferenced nodes) : ∀ node ∈ nodes, node.Unreferenced := by
  induction nodes with
  | nil => exact fun _ absent => by cases absent
  | cons first rest ih =>
      intro node member
      rcases List.mem_cons.mp member with rfl | later
      · exact all.1
      · exact ih all.2 node later

mutual
theorem bound_unreferenced (variableName : String) (value : Nat) (node bound : TaskNodeSpec)
    (bind : bindLoopValue variableName value node = .ok bound) (free : node.Unreferenced) : bound.Unreferenced := by
  cases node with
  | invokeNode config =>
      cases bind
      exact free
  | runNode config =>
      cases bind
      exact free
  | repeatNode name count every node =>
      obtain ⟨inner, isInner, same⟩ := (bind_ok _ _ _).mp bind
      cases same
      exact bound_unreferenced variableName value node inner isInner free
  | parallelNode name after branch branches =>
      obtain ⟨first, isFirst, bind⟩ := (bind_ok _ _ _).mp bind
      obtain ⟨others, areOthers, same⟩ := (bind_ok _ _ _).mp bind
      cases same
      exact ⟨bound_unreferenced variableName value branch first isFirst free.1,
        all_bound_unreferenced variableName value branches others areOthers free.2⟩
  | parallelCount name after count node =>
      obtain ⟨inner, isInner, same⟩ := (bind_ok _ _ _).mp bind
      cases same
      exact bound_unreferenced variableName value node inner isInner free
  | sequenceNode name after step steps =>
      obtain ⟨first, isFirst, bind⟩ := (bind_ok _ _ _).mp bind
      obtain ⟨others, areOthers, same⟩ := (bind_ok _ _ _).mp bind
      cases same
      exact ⟨bound_unreferenced variableName value step first isFirst free.1,
        all_bound_unreferenced variableName value steps others areOthers free.2⟩
  | forEachNode config node =>
      rw [bindLoopValue] at bind
      by_cases shadows : config.variableName = variableName
      · rw [if_pos shadows] at bind
        cases bind
      · rw [if_neg shadows] at bind
        obtain ⟨inner, isInner, same⟩ := (bind_ok _ _ _).mp bind
        cases same
        exact bound_unreferenced variableName value node inner isInner free
theorem all_bound_unreferenced (variableName : String) (value : Nat) (nodes bounds : List TaskNodeSpec)
    (bind : bindLoopValues variableName value nodes = .ok bounds) (free : AllUnreferenced nodes) : AllUnreferenced bounds := by
  cases nodes with
  | nil =>
      cases bind
      trivial
  | cons node rest =>
      obtain ⟨first, isFirst, bind⟩ := (bind_ok _ _ _).mp bind
      obtain ⟨others, areOthers, same⟩ := (bind_ok _ _ _).mp bind
      cases same
      exact ⟨bound_unreferenced variableName value node first isFirst free.1,
        all_bound_unreferenced variableName value rest others areOthers free.2⟩
end

def TaskRecipe.Unreferenced (recipe : TaskRecipe) : Prop := ∀ root ∈ recipe.workflow, root.Unreferenced

section Bound

variable (sha256 : Sha256) (recipe : TaskRecipe) (dimensions : Dimensions)

theorem child_unreferenced (parent child : Placed) (edge : Child sha256 dimensions parent child)
    (free : parent.node.Unreferenced) : child.node.Unreferenced := by
  cases edge with
  | iteration => exact free
  | branch levels name after first others path node member => exact all_unreferenced (first :: others) free node member
  | copy => exact free
  | step levels name after first others path node member => exact all_unreferenced (first :: others) free node member
  | member levels config template path lane bound source inLanes inLane bind =>
      obtain ⟨node, isBound, same⟩ := (bind_ok _ _ _).mp bind
      cases same
      exact bound_unreferenced _ _ template node isBound free

theorem inside_unreferenced (free : recipe.Unreferenced) (placed : Placed) (inside : Inside sha256 recipe dimensions placed) :
    placed.node.Unreferenced := by
  obtain ⟨root, inWorkflow, below⟩ := inside
  induction below with
  | refl => exact free root inWorkflow
  | tail _ edge ih => exact child_unreferenced sha256 dimensions _ _ edge ih

theorem unreferenced_dependencies (node : TaskNodeSpec) (name : String) (isLeaf : node.leafName = some name)
    (free : node.Unreferenced) : node.dependsOn = [] := by
  cases node with
  | invokeNode config => exact free
  | runNode config => exact free
  | repeatNode => rfl
  | parallelNode => rfl
  | parallelCount => rfl
  | sequenceNode => rfl
  | forEachNode => rfl

theorem workflow_unreferenced (free : recipe.Unreferenced) (tree : Tree) (isTree : workflowTree sha256 recipe dimensions = .ok tree)
    (u v : NodeId) : ¬ tree.Explicit u v := by
  rintro ⟨leaf, member, _, refers⟩
  obtain ⟨roots, mapped, same⟩ := (bind_ok _ _ _).mp isTree
  cases same
  rw [serial_list_leaves] at member
  obtain ⟨root, inRoots, inRoot⟩ := List.mem_flatMap.mp member
  obtain ⟨spec, inWorkflow, isRoot⟩ := paired_right (mapM_pairs _ _ _ mapped) root inRoots
  obtain ⟨placed, name, reached, isLeaf, _, dependencies⟩ := leaf_origin sha256 dimensions _ _ _ root isRoot leaf inRoot
  have none := unreferenced_dependencies placed.node name isLeaf
    (inside_unreferenced sha256 recipe dimensions free placed ⟨spec, inWorkflow, reached⟩)
  rw [dependencies, none] at refers
  cases refers

def Incomparable (rows : List CompiledNodeRow) (chosen : Finset NodeId) : Prop :=
  (∀ u ∈ chosen, u ∈ rows.map CompiledNodeRow.nodeId) ∧ IsAntichain (TransGen (DependsOn rows)) (chosen : Set NodeId)

theorem weight_single (u v : NodeId) : weightOf [(u, 1)] v = if u = v then 1 else 0 := by
  rw [weightOf, Dict.get]
  by_cases same : u = v
  · rw [if_pos same, if_pos same]
    rfl
  · rw [if_neg same, if_neg same]
    rfl

theorem peak_single (tree : Tree) (unique : tree.nodes.Nodup) (u : NodeId) :
    tree.peak (weightOf [(u, 1)]) = if u ∈ tree.nodes then 1 else 0 := by
  obtain ⟨chosen, known, _, weighs⟩ := peak_attained (weightOf [(u, 1)]) tree unique
  have counted : ∑ v ∈ chosen, weightOf [(u, 1)] v = if u ∈ chosen then 1 else 0 := by
    rw [Finset.sum_congr rfl fun v _ => weight_single u v]
    exact Finset.sum_ite_eq chosen u fun _ => 1
  by_cases held : u ∈ tree.nodes
  · have least := unordered_peak (weightOf [(u, 1)]) tree {u} (fun v only => (Finset.mem_singleton.mp only) ▸ held) fun a inA b inB => by
      rw [Finset.mem_singleton.mp inA, Finset.mem_singleton.mp inB]
      exact before_irrefl tree unique u
    rw [Finset.sum_singleton, weight_single, if_pos rfl] at least
    rw [if_pos held]
    by_cases taken : u ∈ chosen
    · rw [← weighs, counted, if_pos taken]
    · rw [← weighs, counted, if_neg taken] at least
      omega
  · rw [if_neg held, ← weighs, counted, if_neg fun taken => held (known u taken)]

theorem expansion_tree (accepted : validateRecipe sha256 recipe = .ok ()) (coordinate : dimensions ∈ matrixCoordinates recipe)
    (trial : Nat) (instanceKey : String) :
    ∃ tree rows, workflowTree sha256 recipe dimensions = .ok tree ∧
      expandGraph sha256 (instanceContext recipe dimensions trial) instanceKey recipe.workflow = .ok rows ∧
      tree.nodes.Nodup ∧ rows.map CompiledNodeRow.nodeId = tree.nodes ∧
      rows.map CompiledNodeRow.outline = (tree.rows [] 0).map outlineOf ∧
      TransGen (DependsOn rows) = TransGen fun a b => tree.Before a b ∨ tree.Explicit a b := by
  obtain ⟨tree, rows, isTree, expanded, outlines, fits⟩ :=
    accepted_trial sha256 recipe accepted dimensions coordinate trial instanceKey
  have named : rows.map CompiledNodeRow.nodeId = tree.nodes := by
    rw [← outline_nodes, outlines, outlines_nodes, rows_nodes]
  refine ⟨tree, rows, isTree, expanded, fits.unique, named, outlines, ?_⟩
  have same : DependsOn rows = Depends (tree.rows [] 0) := by
    funext a b
    exact propext (depends_outline rows _ outlines a b)
  funext a b
  rw [same]
  exact propext (expansion_order tree 0 a b)

theorem incomparable_peak (tree : Tree) (rows : List CompiledNodeRow) (unique : tree.nodes.Nodup)
    (named : rows.map CompiledNodeRow.nodeId = tree.nodes)
    (order : TransGen (DependsOn rows) = TransGen fun a b => tree.Before a b ∨ tree.Explicit a b) (weight : NodeId → Nat)
    (chosen : Finset NodeId) (apart : Incomparable rows chosen) : ∑ u ∈ chosen, weight u ≤ tree.peak weight := by
  rw [Incomparable, named, order] at apart
  exact unordered_peak weight tree chosen apart.1 (antichain_unordered tree unique chosen apart.2)

theorem concurrency_bound (accepted : validateRecipe sha256 recipe = .ok ()) (coordinate : dimensions ∈ matrixCoordinates recipe)
    (trial : Nat) (instanceKey : String) (weights : Dict NodeId Nat) :
    ∃ rows peak, expandGraph sha256 (instanceContext recipe dimensions trial) instanceKey recipe.workflow = .ok rows ∧
      rootsPeak sha256 dimensions weights recipe = .ok peak ∧
      (∀ chosen, Incomparable rows chosen → ∑ u ∈ chosen, weightOf weights u ≤ peak) ∧
      (recipe.Unreferenced → ∃ chosen, Incomparable rows chosen ∧ ∑ u ∈ chosen, weightOf weights u = peak) ∧
      ∀ u, rootsPeak sha256 dimensions [(u, 1)] recipe = .ok (if u ∈ rows.map CompiledNodeRow.nodeId then 1 else 0) := by
  obtain ⟨tree, rows, isTree, expanded, unique, named, _, order⟩ :=
    expansion_tree sha256 recipe dimensions accepted coordinate trial instanceKey
  refine ⟨rows, _, expanded, roots_peak sha256 dimensions weights recipe tree isTree,
    incomparable_peak tree rows unique named order (weightOf weights), ?_, ?_⟩
  · intro free
    obtain ⟨chosen, known, unordered, weighs⟩ := peak_attained (weightOf weights) tree unique
    refine ⟨chosen, ⟨named ▸ known, ?_⟩, weighs⟩
    rw [order]
    intro a inA b inB _ precedes
    exact unordered a inA b inB
      ((order_before tree unique (workflow_unreferenced sha256 recipe dimensions free tree isTree) a b).mp precedes)
  · intro u
    rw [roots_peak sha256 dimensions _ recipe tree isTree, peak_single tree unique u, named]

theorem concurrency_bound_fork :
    ∃ rows peak, expandGraph (fun _ => 0) (instanceContext forkRecipe [("rounds", 2)] 1) "rounds=2;trial=1" forkRecipe.workflow =
        .ok rows ∧
      rootsPeak (fun _ => 0) [("rounds", 2)] [("fork.left", 3)] forkRecipe = .ok peak ∧
      (∀ chosen, Incomparable rows chosen → ∑ u ∈ chosen, weightOf [("fork.left", 3)] u ≤ peak) ∧
      (forkRecipe.Unreferenced → ∃ chosen, Incomparable rows chosen ∧ ∑ u ∈ chosen, weightOf [("fork.left", 3)] u = peak) ∧
      ∀ u, rootsPeak (fun _ => 0) [("rounds", 2)] [(u, 1)] forkRecipe =
        .ok (if u ∈ rows.map CompiledNodeRow.nodeId then 1 else 0) :=
  concurrency_bound (fun _ => 0) forkRecipe [("rounds", 2)] fork_accepted (by decide) 1 "rounds=2;trial=1" [("fork.left", 3)]

end Bound

end LlmperfOrchestrator.Compiler

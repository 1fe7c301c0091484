import LlmperfOrchestrator.Compiler.Trials

set_option autoImplicit false

namespace LlmperfOrchestrator.Compiler

open Tables SeriesParallel Outcomes Relation

-- A node where its parents put it: the levels that remain and its path.
structure Placed where
  levels : Nat
  node : TaskNodeSpec
  path : Path

inductive Child (sha256 : Sha256) (dimensions : Dimensions) : Placed → Placed → Prop where
  | iteration (levels : Nat) (name : String) (count : TaskValue) (every : TaskDuration) (node : TaskNodeSpec) (path : Path)
      (iterations index : Nat) (counted : repeatCount dimensions count = .ok iterations) (first : 1 ≤ index)
      (last : index ≤ iterations) :
      Child sha256 dimensions ⟨levels + 1, .repeatNode name count every node, path⟩
        ⟨levels, node, path ++ [name, toString index]⟩
  | branch (levels : Nat) (name : String) (after : TaskDuration) (first : TaskNodeSpec) (others : List TaskNodeSpec)
      (path : Path) (node : TaskNodeSpec) (member : node ∈ first :: others) :
      Child sha256 dimensions ⟨levels + 1, .parallelNode name after first others, path⟩ ⟨levels, node, path ++ [name]⟩
  | copy (levels : Nat) (name : String) (after : TaskDuration) (count : TaskValue) (node : TaskNodeSpec) (path : Path)
      (copies index : Nat) (counted : branchCount dimensions count = .ok copies) (first : 1 ≤ index)
      (last : index ≤ copies) :
      Child sha256 dimensions ⟨levels + 1, .parallelCount name after count node, path⟩
        ⟨levels, node, path ++ [name, toString index]⟩
  | step (levels : Nat) (name : String) (after : TaskDuration) (first : TaskNodeSpec) (others : List TaskNodeSpec)
      (path : Path) (node : TaskNodeSpec) (member : node ∈ first :: others) :
      Child sha256 dimensions ⟨levels + 1, .sequenceNode name after first others, path⟩ ⟨levels, node, path ++ [name]⟩
  | member (levels : Nat) (config : ForEachConfig) (template : TaskNodeSpec) (path : Path)
      (lane : String × List (String × Nat)) (bound : String × TaskNodeSpec) (source : String × Nat)
      (inLanes : lane ∈ expandedLanes sha256 config) (inLane : source ∈ lane.2)
      (bind : bindMember config template source = .ok bound) :
      Child sha256 dimensions ⟨levels + 1, .forEachNode config template, path⟩
        ⟨levels, bound.2, path ++ [config.name, lane.1, bound.1]⟩

def Placed.tree (sha256 : Sha256) (dimensions : Dimensions) (placed : Placed) : Except String Tree :=
  unfold sha256 dimensions placed.levels placed.node placed.path

def Placed.expand (sha256 : Sha256) (context : InstanceContext) (instanceKey : String) (placed : Placed) : Step :=
  (expandNode sha256 context instanceKey placed.levels placed.node).at_ placed.path

def Inside (sha256 : Sha256) (recipe : TaskRecipe) (dimensions : Dimensions) (placed : Placed) : Prop :=
  ∃ root ∈ recipe.workflow, ReflTransGen (Child sha256 dimensions) ⟨maxGraphDepth, root, []⟩ placed

theorem serial_list_leaves (trees : List Tree) : (serialList trees).leaves = trees.flatMap Term.leaves := by
  induction trees with
  | nil => rfl
  | cons tree rest ih =>
      change tree.leaves ++ (serialList rest).leaves = _
      rw [ih, List.flatMap_cons]

theorem parallel_list_leaves (branch : Tree) (others : List Tree) :
    (parallelList branch others).leaves = (branch :: others).flatMap Term.leaves := by
  induction others generalizing branch with
  | nil => simp [parallelList]
  | cons next others ih =>
      change branch.leaves ++ (parallelList next others).leaves = _
      rw [ih]
      simp only [List.flatMap_cons]

theorem parallel_tree_leaves (delay : Rat) (trees : List Tree) (tree : Tree) (joined : parallelTree delay trees = .ok tree) :
    tree.leaves = trees.flatMap Term.leaves := by
  cases trees with
  | nil => cases joined
  | cons branch others =>
      cases joined
      exact parallel_list_leaves branch others

theorem delayed_leaves (delay : Rat) (trees : List Tree) :
    (trees.map (Term.delayed delay)).flatMap Term.leaves = trees.flatMap Term.leaves := by
  rw [List.flatMap_map]
  rfl

theorem lane_leaves (parts : List Tree) :
    (sequenceTree 0 (parts.map fun part => sequenceTree 0 [part])).leaves = parts.flatMap Term.leaves := by
  change (serialList (parts.map fun part => sequenceTree 0 [part])).leaves = _
  rw [serial_list_leaves, List.flatMap_map]
  congr 1
  funext part
  change part.leaves ++ [] = part.leaves
  exact List.append_nil _

theorem parallel_tree_within (delay : Rat) (trees : List Tree) (tree part : Tree) (joined : parallelTree delay trees = .ok tree)
    (member : part ∈ trees) : Term.Within part tree := by
  cases trees with
  | nil => cases member
  | cons branch others =>
      cases joined
      exact .delayed _ _ (parallel_list_within branch others part member)

theorem child_tree (sha256 : Sha256) (dimensions : Dimensions) (parent child : Placed)
    (edge : Child sha256 dimensions parent child) (tree : Tree) (unfolded : parent.tree sha256 dimensions = .ok tree) :
    ∃ part, child.tree sha256 dimensions = .ok part ∧ Term.Within part tree := by
  cases edge with
  | iteration levels name count every node path iterations index counted first last =>
      obtain ⟨_, again, unfolded⟩ := (bind_ok _ _ _).mp unfolded
      cases counted.symm.trans again
      obtain ⟨interval, _, unfolded⟩ := (bind_ok _ _ _).mp unfolded
      obtain ⟨trees, mapped, same⟩ := (bind_ok _ _ _).mp unfolded
      cases same
      obtain ⟨part, inTrees, isPart⟩ := paired_left (mapM_pairs _ _ _ mapped) index
        (List.mem_range'_1.mpr ⟨first, by omega⟩)
      have iterated := serial_list_within (trees.map (Term.delayed interval)) _ (List.mem_map_of_mem inTrees)
      exact ⟨part, isPart, within_trans _ _ _ (.delayed interval part .refl) iterated⟩
  | branch levels name after first others path node member =>
      obtain ⟨own, _, unfolded⟩ := (bind_ok _ _ _).mp unfolded
      obtain ⟨trees, mapped, joined⟩ := (bind_ok _ _ _).mp unfolded
      obtain ⟨part, inTrees, isPart⟩ := paired_left (mapM_pairs _ _ _ mapped) node member
      exact ⟨part, isPart, parallel_tree_within own trees tree part joined inTrees⟩
  | copy levels name after count node path copies index counted first last =>
      obtain ⟨own, _, unfolded⟩ := (bind_ok _ _ _).mp unfolded
      obtain ⟨_, again, unfolded⟩ := (bind_ok _ _ _).mp unfolded
      cases counted.symm.trans again
      obtain ⟨trees, mapped, joined⟩ := (bind_ok _ _ _).mp unfolded
      obtain ⟨part, inTrees, isPart⟩ := paired_left (mapM_pairs _ _ _ mapped) index
        (List.mem_range'_1.mpr ⟨first, by omega⟩)
      exact ⟨part, isPart, parallel_tree_within own trees tree part joined inTrees⟩
  | step levels name after first others path node member =>
      obtain ⟨own, _, unfolded⟩ := (bind_ok _ _ _).mp unfolded
      obtain ⟨trees, mapped, same⟩ := (bind_ok _ _ _).mp unfolded
      cases same
      obtain ⟨part, inTrees, isPart⟩ := paired_left (mapM_pairs _ _ _ mapped) node member
      exact ⟨part, isPart, .delayed _ _ (serial_list_within trees part inTrees)⟩
  | member levels config template path lane bound source inLanes inLane bind =>
      obtain ⟨delay, _, unfolded⟩ := (bind_ok _ _ _).mp unfolded
      obtain ⟨lanes, mapped, joined⟩ := (bind_ok _ _ _).mp unfolded
      obtain ⟨laneTree, inTrees, isLane⟩ := paired_left (mapM_pairs _ _ _ mapped) lane inLanes
      obtain ⟨members, bounds, isLane⟩ := (bind_ok _ _ _).mp isLane
      obtain ⟨trees, mapped, same⟩ := (bind_ok _ _ _).mp isLane
      cases same
      obtain ⟨again, inMembers, rebound⟩ := paired_left (mapM_pairs _ _ _ bounds) source inLane
      cases bind.symm.trans rebound
      obtain ⟨wrapped, inLaneTrees, isMember⟩ := paired_left (mapM_pairs _ _ _ mapped) bound inMembers
      obtain ⟨part, isPart, same⟩ := (bind_ok _ _ _).mp isMember
      cases same
      have inMember : Term.Within part (sequenceTree 0 [part]) := .delayed _ _ (.first _ _ .refl)
      have inSeries : Term.Within (sequenceTree 0 [part]) (sequenceTree 0 trees) :=
        .delayed _ _ (serial_list_within trees _ inLaneTrees)
      have inTree := parallel_tree_within delay lanes tree _ joined inTrees
      exact ⟨part, isPart, within_trans _ _ _ inMember (within_trans _ _ _ inSeries inTree)⟩

theorem descendant_tree (sha256 : Sha256) (dimensions : Dimensions) (top placed : Placed)
    (below : ReflTransGen (Child sha256 dimensions) top placed) (tree : Tree)
    (unfolded : top.tree sha256 dimensions = .ok tree) :
    ∃ part, placed.tree sha256 dimensions = .ok part ∧ Term.Within part tree := by
  induction below with
  | refl => exact ⟨tree, unfolded, .refl⟩
  | tail _ edge ih =>
      obtain ⟨middle, isMiddle, within⟩ := ih
      obtain ⟨part, isPart, inner⟩ := child_tree sha256 dimensions _ _ edge middle isMiddle
      exact ⟨part, isPart, within_trans _ _ _ inner within⟩

theorem inside_tree (sha256 : Sha256) (recipe : TaskRecipe) (dimensions : Dimensions) (placed : Placed)
    (inside : Inside sha256 recipe dimensions placed) (tree : Tree)
    (unfolded : workflowTree sha256 recipe dimensions = .ok tree) :
    ∃ part, placed.tree sha256 dimensions = .ok part ∧ Term.Within part tree := by
  obtain ⟨root, member, below⟩ := inside
  obtain ⟨roots, mapped, same⟩ := (bind_ok _ _ _).mp unfolded
  cases same
  obtain ⟨rootTree, inRoots, isRoot⟩ := paired_left (mapM_pairs _ _ _ mapped) root member
  obtain ⟨part, isPart, within⟩ := descendant_tree sha256 dimensions _ placed below rootTree isRoot
  exact ⟨part, isPart, within_trans _ _ _ within (serial_list_within roots rootTree inRoots)⟩

theorem fits_part (sha256 : Sha256) (context : InstanceContext) (tree part : Tree) (within : Term.Within part tree)
    (fits : Fits sha256 context tree) : Fits sha256 context part := by
  have leaves := within_leaves part tree within
  exact ⟨fun leaf member => fits.emittable leaf (leaves.subset member), fits.unique.sublist (leaves.map Row.node),
    ordered_sublist _ _ leaves fits.ordered, leaves.length_le.trans fits.room⟩

section Unfolding

variable (sha256 : Sha256) (dimensions : Dimensions)

def Parts (motive : Placed → Tree → Prop) (parent : Placed) (parts : List Tree) : Prop :=
  ∀ part ∈ parts, ∃ child, Child sha256 dimensions parent child ∧ child.tree sha256 dimensions = .ok part ∧ motive child part

theorem unfold_induction (motive : Placed → Tree → Prop)
    (invoke : ∀ levels (config : InvokeConfig) path own, 0 ≤ own →
      motive ⟨levels + 1, .invokeNode config, path⟩ (.leaf (config.leaf path own)))
    (run : ∀ levels (config : RunConfig) path own, 0 ≤ own →
      motive ⟨levels + 1, .runNode config, path⟩ (.leaf (config.leaf path own)))
    (iterations : ∀ parent interval parts, 0 ≤ interval → Parts sha256 dimensions motive parent parts →
      motive parent (serialList (parts.map (.delayed interval))))
    (steps : ∀ parent delay parts, 0 ≤ delay → Parts sha256 dimensions motive parent parts →
      motive parent (sequenceTree delay parts))
    (branches : ∀ parent delay parts tree, 0 ≤ delay → Parts sha256 dimensions motive parent parts →
      parallelTree delay parts = .ok tree → motive parent tree)
    (lanes : ∀ parent delay lanes tree, 0 ≤ delay →
      (∀ lane ∈ lanes, ∃ parts, Parts sha256 dimensions motive parent parts ∧
        lane = sequenceTree 0 (parts.map fun part => sequenceTree 0 [part])) →
      parallelTree delay lanes = .ok tree → motive parent tree)
    (levels : Nat) (node : TaskNodeSpec) (path : Path) (tree : Tree)
    (unfolded : unfold sha256 dimensions levels node path = .ok tree) : motive ⟨levels, node, path⟩ tree := by
  induction levels generalizing node path tree with
  | zero => cases unfolded
  | succ levels ih =>
      cases node with
      | invokeNode config =>
          obtain ⟨own, resolved, same⟩ := (bind_ok _ _ _).mp unfolded
          cases same
          exact invoke levels config path own (duration_nonneg _ _ _ resolved)
      | runNode config =>
          obtain ⟨own, resolved, same⟩ := (bind_ok _ _ _).mp unfolded
          cases same
          exact run levels config path own (duration_nonneg _ _ _ resolved)
      | repeatNode name count every node =>
          obtain ⟨copies, counted, unfolded⟩ := (bind_ok _ _ _).mp unfolded
          obtain ⟨interval, resolved, unfolded⟩ := (bind_ok _ _ _).mp unfolded
          obtain ⟨trees, mapped, same⟩ := (bind_ok _ _ _).mp unfolded
          cases same
          apply iterations _ interval trees (duration_nonneg _ _ _ resolved)
          intro part inTrees
          obtain ⟨index, inRange, isPart⟩ := paired_right (mapM_pairs _ _ _ mapped) part inTrees
          have bounds := List.mem_range'_1.mp inRange
          exact ⟨_, .iteration levels name count every node path copies index counted bounds.1 (by omega), isPart,
            ih _ _ _ isPart⟩
      | parallelNode name after branch others =>
          obtain ⟨own, resolved, unfolded⟩ := (bind_ok _ _ _).mp unfolded
          obtain ⟨trees, mapped, joined⟩ := (bind_ok _ _ _).mp unfolded
          apply branches _ own trees tree (duration_nonneg _ _ _ resolved) _ joined
          intro part inTrees
          obtain ⟨child, member, isPart⟩ := paired_right (mapM_pairs _ _ _ mapped) part inTrees
          exact ⟨_, .branch levels name after branch others path child member, isPart, ih _ _ _ isPart⟩
      | parallelCount name after count node =>
          obtain ⟨own, resolved, unfolded⟩ := (bind_ok _ _ _).mp unfolded
          obtain ⟨copies, counted, unfolded⟩ := (bind_ok _ _ _).mp unfolded
          obtain ⟨trees, mapped, joined⟩ := (bind_ok _ _ _).mp unfolded
          apply branches _ own trees tree (duration_nonneg _ _ _ resolved) _ joined
          intro part inTrees
          obtain ⟨index, inRange, isPart⟩ := paired_right (mapM_pairs _ _ _ mapped) part inTrees
          have bounds := List.mem_range'_1.mp inRange
          exact ⟨_, .copy levels name after count node path copies index counted bounds.1 (by omega), isPart,
            ih _ _ _ isPart⟩
      | sequenceNode name after step others =>
          obtain ⟨own, resolved, unfolded⟩ := (bind_ok _ _ _).mp unfolded
          obtain ⟨trees, mapped, same⟩ := (bind_ok _ _ _).mp unfolded
          cases same
          apply steps _ own trees (duration_nonneg _ _ _ resolved)
          intro part inTrees
          obtain ⟨child, member, isPart⟩ := paired_right (mapM_pairs _ _ _ mapped) part inTrees
          exact ⟨_, .step levels name after step others path child member, isPart, ih _ _ _ isPart⟩
      | forEachNode config template =>
          obtain ⟨delay, resolved, unfolded⟩ := (bind_ok _ _ _).mp unfolded
          obtain ⟨laneTrees, mapped, joined⟩ := (bind_ok _ _ _).mp unfolded
          apply lanes _ delay laneTrees tree (duration_nonneg _ _ _ resolved) _ joined
          intro laneTree inLanes
          obtain ⟨lane, known, isLane⟩ := paired_right (mapM_pairs _ _ _ mapped) laneTree inLanes
          obtain ⟨members, bounds, isLane⟩ := (bind_ok _ _ _).mp isLane
          rw [mapM_mapped] at isLane
          obtain ⟨wrapped, isWrapped, same⟩ := (bind_ok _ _ _).mp isLane
          obtain ⟨parts, unfoldedParts, wraps⟩ := (bind_ok _ _ _).mp isWrapped
          cases same
          cases wraps
          refine ⟨parts, fun part inParts => ?_, rfl⟩
          obtain ⟨bound, inMembers, isPart⟩ := paired_right (mapM_pairs _ _ _ unfoldedParts) part inParts
          obtain ⟨source, inLane, bind⟩ := paired_right (mapM_pairs _ _ _ bounds) bound inMembers
          exact ⟨_, .member levels config template path lane bound source known inLane bind, isPart, ih _ _ _ isPart⟩

end Unfolding

theorem serial_list_nonneg (trees : List Tree) (all : ∀ tree ∈ trees, tree.Nonnegative) :
    (serialList trees).Nonnegative := by
  induction trees with
  | nil => trivial
  | cons tree rest ih =>
      exact ⟨all tree List.mem_cons_self, ih fun other member => all other (List.mem_cons_of_mem tree member)⟩

theorem parallel_list_nonneg (branch : Tree) (others : List Tree) (all : ∀ tree ∈ branch :: others, tree.Nonnegative) :
    (parallelList branch others).Nonnegative := by
  induction others generalizing branch with
  | nil => exact all branch List.mem_cons_self
  | cons next others ih =>
      exact ⟨all branch List.mem_cons_self, ih next fun other member => all other (List.mem_cons_of_mem branch member)⟩

theorem parallel_tree_nonneg (delay : Rat) (trees : List Tree) (tree : Tree) (joined : parallelTree delay trees = .ok tree)
    (positive : 0 ≤ delay) (all : ∀ tree ∈ trees, tree.Nonnegative) : tree.Nonnegative := by
  cases trees with
  | nil => cases joined
  | cons branch others =>
      cases joined
      exact ⟨positive, parallel_list_nonneg branch others all⟩

theorem unfold_nonneg (sha256 : Sha256) (dimensions : Dimensions) (levels : Nat) (node : TaskNodeSpec) (path : Path)
    (tree : Tree) (unfolded : unfold sha256 dimensions levels node path = .ok tree) : tree.Nonnegative := by
  have each : ∀ parent (parts : List Tree), Parts sha256 dimensions (fun _ tree => tree.Nonnegative) parent parts →
      ∀ part ∈ parts, part.Nonnegative := by
    intro parent parts holds part member
    obtain ⟨_, _, _, nonneg⟩ := holds part member
    exact nonneg
  apply unfold_induction sha256 dimensions (fun _ tree => tree.Nonnegative) _ _ _ _ _ _ levels node path tree unfolded
  · exact fun _ _ _ _ positive => positive
  · exact fun _ _ _ _ positive => positive
  · intro parent interval parts positive holds
    apply serial_list_nonneg
    intro delayed member
    obtain ⟨part, inParts, rfl⟩ := List.mem_map.mp member
    exact ⟨positive, each parent parts holds part inParts⟩
  · intro parent delay parts positive holds
    exact ⟨positive, serial_list_nonneg parts (each parent parts holds)⟩
  · intro parent delay parts tree positive holds joined
    exact parallel_tree_nonneg delay parts tree joined positive (each parent parts holds)
  · intro parent delay lanes tree positive holds joined
    apply parallel_tree_nonneg delay lanes tree joined positive
    intro lane inLanes
    obtain ⟨parts, below, rfl⟩ := holds lane inLanes
    refine ⟨le_rfl, serial_list_nonneg _ fun wrapped inTrees => ?_⟩
    obtain ⟨part, inParts, rfl⟩ := List.mem_map.mp inTrees
    exact ⟨le_rfl, each parent parts below part inParts, trivial⟩

theorem workflow_nonneg (sha256 : Sha256) (recipe : TaskRecipe) (dimensions : Dimensions) (tree : Tree)
    (unfolded : workflowTree sha256 recipe dimensions = .ok tree) : tree.Nonnegative := by
  obtain ⟨roots, mapped, same⟩ := (bind_ok _ _ _).mp unfolded
  cases same
  refine serial_list_nonneg _ fun root inRoots => ?_
  obtain ⟨spec, _, isRoot⟩ := paired_right (mapM_pairs _ _ _ mapped) root inRoots
  exact unfold_nonneg sha256 dimensions _ _ _ _ isRoot

theorem silent_parts {Item : Type} (tree other : Item → Except String Tree) (items : List Item) (trees others : List Tree)
    (mapped : items.mapM tree = .ok trees) (again : items.mapM other = .ok others)
    (each : ∀ item a b, tree item = .ok a → other item = .ok b → a.leaves = [] → b.leaves = [])
    (silent : trees.flatMap Term.leaves = []) : others.flatMap Term.leaves = [] := by
  refine List.flatMap_eq_nil_iff.mpr fun b inOthers => ?_
  obtain ⟨item, inItems, isOther⟩ := paired_right (mapM_pairs _ _ _ again) b inOthers
  obtain ⟨a, inTrees, isTree⟩ := paired_left (mapM_pairs _ _ _ mapped) item inItems
  exact each item a b isTree isOther (List.flatMap_eq_nil_iff.mp silent a inTrees)

theorem unfold_silent (sha256 : Sha256) (dimensions : Dimensions) (levels : Nat) (node : TaskNodeSpec) (path other : Path)
    (tree moved : Tree) (unfolded : unfold sha256 dimensions levels node path = .ok tree)
    (again : unfold sha256 dimensions levels node other = .ok moved) (silent : tree.leaves = []) : moved.leaves = [] := by
  induction levels generalizing node path other tree moved with
  | zero => cases unfolded
  | succ levels ih =>
      cases node with
      | invokeNode config =>
          obtain ⟨own, _, same⟩ := (bind_ok _ _ _).mp unfolded
          cases same
          cases silent
      | runNode config =>
          obtain ⟨own, _, same⟩ := (bind_ok _ _ _).mp unfolded
          cases same
          cases silent
      | repeatNode name count every node =>
          obtain ⟨iterations, counted, unfolded⟩ := (bind_ok _ _ _).mp unfolded
          obtain ⟨interval, _, unfolded⟩ := (bind_ok _ _ _).mp unfolded
          obtain ⟨trees, mapped, same⟩ := (bind_ok _ _ _).mp unfolded
          cases same
          obtain ⟨_, recounted, again⟩ := (bind_ok _ _ _).mp again
          cases counted.symm.trans recounted
          obtain ⟨_, _, again⟩ := (bind_ok _ _ _).mp again
          obtain ⟨others, remapped, same⟩ := (bind_ok _ _ _).mp again
          cases same
          rw [serial_list_leaves, delayed_leaves] at silent ⊢
          exact silent_parts _ _ _ _ _ mapped remapped (fun _ _ _ => ih _ _ _ _ _) silent
      | parallelNode name after branch branches =>
          obtain ⟨own, _, unfolded⟩ := (bind_ok _ _ _).mp unfolded
          obtain ⟨trees, mapped, joined⟩ := (bind_ok _ _ _).mp unfolded
          obtain ⟨own', _, again⟩ := (bind_ok _ _ _).mp again
          obtain ⟨others, remapped, rejoined⟩ := (bind_ok _ _ _).mp again
          rw [parallel_tree_leaves own trees tree joined] at silent
          rw [parallel_tree_leaves own' others moved rejoined]
          exact silent_parts _ _ _ _ _ mapped remapped (fun _ _ _ => ih _ _ _ _ _) silent
      | parallelCount name after count node =>
          obtain ⟨own, _, unfolded⟩ := (bind_ok _ _ _).mp unfolded
          obtain ⟨copies, counted, unfolded⟩ := (bind_ok _ _ _).mp unfolded
          obtain ⟨trees, mapped, joined⟩ := (bind_ok _ _ _).mp unfolded
          obtain ⟨own', _, again⟩ := (bind_ok _ _ _).mp again
          obtain ⟨_, recounted, again⟩ := (bind_ok _ _ _).mp again
          cases counted.symm.trans recounted
          obtain ⟨others, remapped, rejoined⟩ := (bind_ok _ _ _).mp again
          rw [parallel_tree_leaves own trees tree joined] at silent
          rw [parallel_tree_leaves own' others moved rejoined]
          exact silent_parts _ _ _ _ _ mapped remapped (fun _ _ _ => ih _ _ _ _ _) silent
      | sequenceNode name after step steps =>
          obtain ⟨own, _, unfolded⟩ := (bind_ok _ _ _).mp unfolded
          obtain ⟨trees, mapped, same⟩ := (bind_ok _ _ _).mp unfolded
          cases same
          obtain ⟨own', _, again⟩ := (bind_ok _ _ _).mp again
          obtain ⟨others, remapped, same⟩ := (bind_ok _ _ _).mp again
          cases same
          change (serialList trees).leaves = [] at silent
          change (serialList others).leaves = []
          rw [serial_list_leaves] at silent ⊢
          exact silent_parts _ _ _ _ _ mapped remapped (fun _ _ _ => ih _ _ _ _ _) silent
      | forEachNode config template =>
          obtain ⟨own, _, unfolded⟩ := (bind_ok _ _ _).mp unfolded
          obtain ⟨trees, mapped, joined⟩ := (bind_ok _ _ _).mp unfolded
          obtain ⟨own', _, again⟩ := (bind_ok _ _ _).mp again
          obtain ⟨others, remapped, rejoined⟩ := (bind_ok _ _ _).mp again
          rw [parallel_tree_leaves own trees tree joined] at silent
          rw [parallel_tree_leaves own' others moved rejoined]
          refine silent_parts _ _ _ _ _ mapped remapped (fun lane a b isA isB quiet => ?_) silent
          obtain ⟨members, bounds, isA⟩ := (bind_ok _ _ _).mp isA
          obtain ⟨aTrees, aMapped, same⟩ := (bind_ok _ _ _).mp isA
          cases same
          obtain ⟨_, rebounds, isB⟩ := (bind_ok _ _ _).mp isB
          cases bounds.symm.trans rebounds
          obtain ⟨bTrees, bMapped, same⟩ := (bind_ok _ _ _).mp isB
          cases same
          change (serialList aTrees).leaves = [] at quiet
          change (serialList bTrees).leaves = []
          rw [serial_list_leaves] at quiet ⊢
          refine silent_parts _ _ _ _ _ aMapped bMapped (fun member a b isA isB still => ?_) quiet
          obtain ⟨aTree, aUnfolded, same⟩ := (bind_ok _ _ _).mp isA
          cases same
          obtain ⟨bTree, bUnfolded, same⟩ := (bind_ok _ _ _).mp isB
          cases same
          change aTree.leaves ++ [] = [] at still
          change bTree.leaves ++ [] = []
          rw [List.append_nil] at still ⊢
          exact ih _ _ _ _ _ aUnfolded bUnfolded still

end LlmperfOrchestrator.Compiler

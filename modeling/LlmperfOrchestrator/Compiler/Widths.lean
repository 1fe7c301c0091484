import LlmperfOrchestrator.Compiler.Compilation
import LlmperfOrchestrator.Library.Antichains

set_option autoImplicit false

namespace LlmperfOrchestrator.Compiler

open Tables SeriesParallel Outcomes Relation

def TaskNodeSpec.leafName : TaskNodeSpec → Option String
  | .invokeNode config => some config.name
  | .runNode config => some config.name
  | _ => none

def pathWidth (path : Path) : Nat := (path.map fun part => part.length + 1).sum

def keyWidth (entry : Dimensions × Nat) : Nat :=
  (entry.1.map fun dimension => dimension.1.length + (toString dimension.2).length + 2).sum + 6 +
    (toString entry.2).length

def NamesFit (sha256 : Sha256) (recipe : TaskRecipe) (width : Nat) : Prop :=
  ∀ dimensions ∈ matrixCoordinates recipe, ∀ placed, Inside sha256 recipe dimensions placed →
    ∀ name, placed.node.leafName = some name → pathWidth placed.path + name.length ≤ width

def KeysFit (recipe : TaskRecipe) (width : Nat) : Prop :=
  ∀ entry ∈ compiledInstances recipe, keyWidth entry ≤ width

theorem intercalate_width (separator : String) (first : String) (rest : List String) :
    (separator.intercalate (first :: rest)).length =
      first.length + (rest.map fun part => separator.length + part.length).sum := by
  induction rest generalizing first with
  | nil => simp
  | cons next rest ih =>
      rw [String.intercalate_cons_cons, String.length_append, String.length_append, ih, List.map_cons, List.sum_cons]
      omega

theorem qualified_width (path : Path) (name : String) :
    (qualifiedName path name).length = pathWidth path + name.length := by
  cases path with
  | nil => simp [qualifiedName, pathWidth]
  | cons part rest =>
      rw [qualifiedName, List.cons_append, intercalate_width, pathWidth, List.map_append, List.sum_append]
      simp only [List.map_cons, List.map_nil, List.sum_cons, List.sum_nil]
      have dot : ".".length = 1 := by decide
      have same : (rest.map fun part => ".".length + part.length) = rest.map fun part => part.length + 1 :=
        List.map_congr_left fun part _ => by rw [dot, Nat.add_comm]
      rw [same]
      omega

def pairText (dimension : String × Int) : String := s!"{dimension.1}={dimension.2}"

theorem pair_width (dimension : String × Int) :
    (pairText dimension).length = dimension.1.length + (toString dimension.2).length + 1 := by
  have equals : "=".length = 1 := by decide
  simp only [pairText, String.length_append, toString, equals]
  omega

theorem coordinates_width (first : String × Int) (rest : Dimensions) :
    (coordinatesText (first :: rest)).length + 1 =
      ((first :: rest).map fun dimension => dimension.1.length + (toString dimension.2).length + 2).sum := by
  have sorted := List.perm_insertionSort (fun a b : String × Int => a.1 ≤ b.1) (first :: rest)
  rw [← (sorted.map _).sum_eq, coordinatesText]
  cases shape : (first :: rest).insertionSort fun a b => a.1 ≤ b.1 with
  | nil =>
      rw [shape] at sorted
      exact absurd sorted.symm (List.cons_ne_nil _ _ ∘ List.Perm.eq_nil)
  | cons head tail =>
      change (";".intercalate (pairText head :: tail.map pairText)).length + 1 = _
      have semicolon : ";".length = 1 := by decide
      rw [intercalate_width, List.map_map, List.map_cons, List.sum_cons, pair_width]
      have same : (tail.map ((fun part => ";".length + part.length) ∘ pairText)) =
          tail.map fun dimension => dimension.1.length + (toString dimension.2).length + 2 :=
        List.map_congr_left fun dimension _ => by
          rw [Function.comp_apply, semicolon, pair_width]
          omega
      rw [same]
      omega

theorem key_width (entry : Dimensions × Nat) : (instanceKeyOf entry.1 entry.2).length = keyWidth entry := by
  obtain ⟨dimensions, trial⟩ := entry
  rw [instanceKeyOf, keyWidth]
  cases dimensions with
  | nil =>
      have label : "trial=".length = 6 := by decide
      have blank : coordinatesText [] = "" := rfl
      rw [if_pos blank]
      simp [String.length_append, toString, label]
  | cons first rest =>
      have width := coordinates_width first rest
      have label : ";trial=".length = 7 := by decide
      have some_ : coordinatesText (first :: rest) ≠ "" := by
        intro blank
        rw [blank, List.map_cons, List.sum_cons] at width
        have nothing : "".length = 0 := by decide
        omega
      rw [if_neg some_, ← width]
      simp only [String.length_append, toString, label]

def TaskNodeSpec.dependsOn : TaskNodeSpec → List RequestDependency
  | .invokeNode config => config.dependsOn
  | .runNode config => config.dependsOn
  | _ => []

def Originates (sha256 : Sha256) (dimensions : Dimensions) (leaf : TreeRow) (top : Placed) : Prop :=
  ∃ placed name, ReflTransGen (Child sha256 dimensions) top placed ∧ placed.node.leafName = some name ∧
    leaf.node = qualifiedName placed.path name ∧
    leaf.dependencies = dependencyReferences placed.path placed.node.dependsOn

theorem leaf_origin (sha256 : Sha256) (dimensions : Dimensions) (levels : Nat) (node : TaskNodeSpec) (path : Path)
    (tree : Tree) (unfolded : unfold sha256 dimensions levels node path = .ok tree) :
    ∀ leaf ∈ tree.leaves, Originates sha256 dimensions leaf ⟨levels, node, path⟩ := by
  have below : ∀ parent (parts : List Tree) leaf,
      Parts sha256 dimensions (fun top tree => ∀ leaf ∈ tree.leaves, Originates sha256 dimensions leaf top) parent parts →
      leaf ∈ parts.flatMap Term.leaves → Originates sha256 dimensions leaf parent := by
    intro parent parts leaf holds member
    obtain ⟨part, inParts, inPart⟩ := List.mem_flatMap.mp member
    obtain ⟨child, edge, _, origin⟩ := holds part inParts
    obtain ⟨placed, name, reached, facts⟩ := origin leaf inPart
    exact ⟨placed, name, .head edge reached, facts⟩
  apply unfold_induction sha256 dimensions
    (fun top tree => ∀ leaf ∈ tree.leaves, Originates sha256 dimensions leaf top) _ _ _ _ _ _ levels node path tree unfolded
  · intro levels config path own _ leaf member
    cases List.mem_singleton.mp member
    exact ⟨_, config.name, .refl, rfl, rfl, rfl⟩
  · intro levels config path own _ leaf member
    cases List.mem_singleton.mp member
    exact ⟨_, config.name, .refl, rfl, rfl, rfl⟩
  · intro parent interval parts _ holds leaf member
    rw [serial_list_leaves, delayed_leaves] at member
    exact below parent parts leaf holds member
  · intro parent delay parts _ holds leaf member
    change leaf ∈ (serialList parts).leaves at member
    rw [serial_list_leaves] at member
    exact below parent parts leaf holds member
  · intro parent delay parts tree _ holds joined leaf member
    rw [parallel_tree_leaves delay parts tree joined] at member
    exact below parent parts leaf holds member
  · intro parent delay lanes tree _ holds joined leaf member
    rw [parallel_tree_leaves delay lanes tree joined] at member
    obtain ⟨lane, inLanes, inLane⟩ := List.mem_flatMap.mp member
    obtain ⟨parts, known, rfl⟩ := holds lane inLanes
    rw [lane_leaves] at inLane
    exact below parent parts leaf known inLane

theorem leaf_listed (sha256 : Sha256) (dimensions : Dimensions) (placed : Placed) (name : String) (part : Tree)
    (isPart : placed.tree sha256 dimensions = .ok part) (isLeaf : placed.node.leafName = some name) :
    qualifiedName placed.path name ∈ part.nodes := by
  obtain ⟨levels, node, path⟩ := placed
  cases levels with
  | zero => cases isPart
  | succ levels =>
      cases node with
      | invokeNode config =>
          cases isLeaf
          obtain ⟨own, _, same⟩ := (bind_ok _ _ _).mp isPart
          cases same
          exact List.mem_singleton_self _
      | runNode config =>
          cases isLeaf
          obtain ⟨own, _, same⟩ := (bind_ok _ _ _).mp isPart
          cases same
          exact List.mem_singleton_self _
      | repeatNode name count every node => cases isLeaf
      | parallelNode name after branch branches => cases isLeaf
      | parallelCount name after count node => cases isLeaf
      | sequenceNode name after step steps => cases isLeaf
      | forEachNode config template => cases isLeaf

theorem workflow_names (sha256 : Sha256) (recipe : TaskRecipe) (dimensions : Dimensions) (tree : Tree)
    (isTree : workflowTree sha256 recipe dimensions = .ok tree) (nodeId : NodeId) :
    nodeId ∈ tree.nodes ↔ ∃ placed name, Inside sha256 recipe dimensions placed ∧ placed.node.leafName = some name ∧
      nodeId = qualifiedName placed.path name := by
  constructor
  · intro held
    obtain ⟨leaf, member, rfl⟩ := List.mem_map.mp held
    obtain ⟨roots, mapped, same⟩ := (bind_ok _ _ _).mp isTree
    cases same
    rw [serial_list_leaves] at member
    obtain ⟨root, inRoots, inRoot⟩ := List.mem_flatMap.mp member
    obtain ⟨spec, inWorkflow, isRoot⟩ := paired_right (mapM_pairs _ _ _ mapped) root inRoots
    obtain ⟨placed, name, reached, isLeaf, named, _⟩ := leaf_origin sha256 dimensions _ _ _ root isRoot leaf inRoot
    exact ⟨placed, name, ⟨spec, inWorkflow, reached⟩, isLeaf, named⟩
  · rintro ⟨⟨levels, node, path⟩, name, inside, isLeaf, rfl⟩
    obtain ⟨part, isPart, within⟩ := inside_tree sha256 recipe dimensions _ inside tree isTree
    exact within_nodes part tree within _ (leaf_listed sha256 dimensions _ name part isPart isLeaf)

-- weights.get(node_id, 0)
def weightOf (weights : Dict NodeId Nat) (nodeId : NodeId) : Nat := (Dict.get nodeId weights).getD 0

-- max(peaks, default=0)
def highest (peaks : List Nat) : Nat := peaks.foldr max 0

section Peak

variable (sha256 : Sha256) (dimensions : Dimensions) (weights : Dict NodeId Nat)

-- One lane of a for_each node: a series of members, each a series of one step.
def lanePeak (config : ForEachConfig) (template : TaskNodeSpec) (peak : TaskNodeSpec → Path → Except String Nat)
    (path : Path) (lane : String × List (String × Nat)) : Except String Nat := do
  let members ← lane.2.mapM (bindMember config template)
  let peaks ← members.mapM fun member => do
    let step ← peak member.2 (path ++ [config.name, lane.1, member.1])
    .ok (highest [step])
  .ok (highest peaks)

-- _weighted_peak
def weightedPeak : Nat → TaskNodeSpec → Path → Except String Nat
  | 0, _, _ => .error depthExceeded
  | _ + 1, .invokeNode config, path => .ok (weightOf weights (qualifiedName path config.name))
  | _ + 1, .runNode config, path => .ok (weightOf weights (qualifiedName path config.name))
  | levels + 1, .forEachNode config template, path =>
      if config.parallelism = 0 ∨ (config.values.values sha256).length = 0 then
        .error "integer division or modulo by zero"
      else do
        let peaks ← (expandedLanes sha256 config).mapM (lanePeak config template (weightedPeak levels) path)
        .ok peaks.sum
  | levels + 1, .parallelNode name _ branch branches, path => do
      let peaks ← (branch :: branches).mapM fun child => weightedPeak levels child (path ++ [name])
      .ok peaks.sum
  | levels + 1, .parallelCount name _ count node, path => do
      let copies ← branchCount dimensions count
      let peaks ← (List.range' 1 copies).mapM fun index => weightedPeak levels node (path ++ [name, toString index])
      .ok peaks.sum
  | levels + 1, .sequenceNode name _ step steps, path => do
      let peaks ← (step :: steps).mapM fun child => weightedPeak levels child (path ++ [name])
      .ok (highest peaks)
  | levels + 1, .repeatNode name count _ node, path => do
      let iterations ← count.resolve dimensions
      let peaks ← (List.range' 1 iterations.toNat).mapM fun index =>
        weightedPeak levels node (path ++ [name, toString index])
      .ok (highest peaks)

-- max(_weighted_peak(root, dimensions, weights) for root in graph.roots, default=0)
def rootsPeak (recipe : TaskRecipe) : Except String Nat := do
  let peaks ← recipe.workflow.mapM fun root => weightedPeak sha256 dimensions weights maxGraphDepth root []
  .ok (highest peaks)

theorem serial_peak (trees : List Tree) :
    (serialList trees).peak (weightOf weights) = highest (trees.map (Term.peak (weightOf weights))) :=
  serial_list_peak (weightOf weights) trees

theorem parallel_peak (delay : Rat) (trees : List Tree) (tree : Tree) (joined : parallelTree delay trees = .ok tree) :
    tree.peak (weightOf weights) = (trees.map (Term.peak (weightOf weights))).sum := by
  cases trees with
  | nil => cases joined
  | cons branch others =>
      cases joined
      exact parallel_list_peak (weightOf weights) branch others

theorem lanes_exist (config : ForEachConfig) (lanes : List Tree) (delay : Rat) (tree : Tree)
    (built : lanes.length = (expandedLanes sha256 config).length) (joined : parallelTree delay lanes = .ok tree) :
    ¬ (config.parallelism = 0 ∨ (config.values.values sha256).length = 0) := by
  intro blank
  have noLanes : min config.parallelism (config.values.values sha256).length = 0 := by omega
  have empty : (expandedLanes sha256 config).length = 0 := by
    simp [expandedLanes, laneValues, noLanes, slices]
  cases lanes with
  | nil => cases joined
  | cons first others => simp [empty] at built

theorem lane_peak (config : ForEachConfig) (template : TaskNodeSpec) (levels : Nat) (path : Path)
    (ih : ∀ node path tree, unfold sha256 dimensions levels node path = .ok tree →
      weightedPeak sha256 dimensions weights levels node path = .ok (tree.peak (weightOf weights)))
    (lane : String × List (String × Nat)) (tree : Tree)
    (isLane : (do
      let members ← lane.2.mapM (bindMember config template)
      let trees ← members.mapM fun member => do
        let tree ← unfold sha256 dimensions levels member.2 (path ++ [config.name, lane.1, member.1])
        .ok (sequenceTree 0 [tree])
      .ok (sequenceTree 0 trees)) = Except.ok tree) :
    lanePeak config template (weightedPeak sha256 dimensions weights levels) path lane = .ok (tree.peak (weightOf weights)) := by
  obtain ⟨members, bounds, isLane⟩ := (bind_ok _ _ _).mp isLane
  obtain ⟨trees, mapped, same⟩ := (bind_ok _ _ _).mp isLane
  cases same
  refine (bind_ok _ _ _).mpr ⟨members, bounds, (bind_ok _ _ _).mpr ⟨trees.map (Term.peak (weightOf weights)), ?_, ?_⟩⟩
  · apply mapM_follow _ members trees _ _ mapped
    intro member _ wrapped isMember
    obtain ⟨part, isPart, same⟩ := (bind_ok _ _ _).mp isMember
    cases same
    exact (bind_ok _ _ _).mpr ⟨_, ih _ _ part isPart, rfl⟩
  · exact congrArg Except.ok (serial_peak weights trees).symm

theorem weighted_peak_tree (levels : Nat) (node : TaskNodeSpec) (path : Path) (tree : Tree)
    (unfolded : unfold sha256 dimensions levels node path = .ok tree) :
    weightedPeak sha256 dimensions weights levels node path = .ok (tree.peak (weightOf weights)) := by
  induction levels generalizing node path tree with
  | zero => cases unfolded
  | succ levels ih =>
      cases node with
      | invokeNode config =>
          obtain ⟨own, _, same⟩ := (bind_ok _ _ _).mp unfolded
          cases same
          rfl
      | runNode config =>
          obtain ⟨own, _, same⟩ := (bind_ok _ _ _).mp unfolded
          cases same
          rfl
      | repeatNode name count every node =>
          obtain ⟨copies, counted, unfolded⟩ := (bind_ok _ _ _).mp unfolded
          obtain ⟨interval, _, unfolded⟩ := (bind_ok _ _ _).mp unfolded
          obtain ⟨trees, mapped, same⟩ := (bind_ok _ _ _).mp unfolded
          cases same
          obtain ⟨resolved, isResolved, bounded⟩ := (bind_ok _ _ _).mp counted
          have same : copies = resolved.toNat := by
            by_cases inRange : 0 ≤ resolved ∧ resolved ≤ maxRepeatCount
            · rw [if_pos inRange] at bounded
              exact (Except.ok.inj bounded).symm
            · rw [if_neg inRange] at bounded
              cases bounded
          rw [same] at mapped
          have peaks := mapM_follow _ _ trees _ _ mapped fun index _ part isPart => ih node _ part isPart
          refine (bind_ok _ _ _).mpr ⟨resolved, isResolved, (bind_ok _ _ _).mpr ⟨_, peaks, ?_⟩⟩
          rw [serial_peak, List.map_map]
          rfl
      | parallelNode name after branch others =>
          obtain ⟨own, _, unfolded⟩ := (bind_ok _ _ _).mp unfolded
          obtain ⟨trees, mapped, joined⟩ := (bind_ok _ _ _).mp unfolded
          have peaks := mapM_follow _ _ trees _ _ mapped fun child _ part isPart => ih child _ part isPart
          rw [parallel_peak weights own trees tree joined]
          exact (bind_ok _ _ _).mpr ⟨_, peaks, rfl⟩
      | parallelCount name after count node =>
          obtain ⟨own, _, unfolded⟩ := (bind_ok _ _ _).mp unfolded
          obtain ⟨copies, counted, unfolded⟩ := (bind_ok _ _ _).mp unfolded
          obtain ⟨trees, mapped, joined⟩ := (bind_ok _ _ _).mp unfolded
          have peaks := mapM_follow _ _ trees _ _ mapped fun index _ part isPart => ih node _ part isPart
          rw [parallel_peak weights own trees tree joined]
          exact (bind_ok _ _ _).mpr ⟨copies, counted, (bind_ok _ _ _).mpr ⟨_, peaks, rfl⟩⟩
      | sequenceNode name after step others =>
          obtain ⟨own, _, unfolded⟩ := (bind_ok _ _ _).mp unfolded
          obtain ⟨trees, mapped, same⟩ := (bind_ok _ _ _).mp unfolded
          cases same
          have peaks := mapM_follow _ _ trees _ _ mapped fun child _ part isPart => ih child _ part isPart
          refine (bind_ok _ _ _).mpr ⟨_, peaks, ?_⟩
          exact congrArg Except.ok (serial_peak weights trees).symm
      | forEachNode config template =>
          obtain ⟨delay, _, unfolded⟩ := (bind_ok _ _ _).mp unfolded
          obtain ⟨lanes, mapped, joined⟩ := (bind_ok _ _ _).mp unfolded
          have peaks := mapM_follow _ _ lanes _ _ mapped fun lane _ part isPart =>
            lane_peak sha256 dimensions weights config template levels path ih lane part isPart
          have some := lanes_exist sha256 config lanes delay tree (mapM_pairs _ _ _ mapped).length_eq.symm joined
          rw [parallel_peak weights delay lanes tree joined, weightedPeak, if_neg some]
          exact (bind_ok _ _ _).mpr ⟨_, peaks, rfl⟩

theorem roots_peak (recipe : TaskRecipe) (tree : Tree) (isTree : workflowTree sha256 recipe dimensions = .ok tree) :
    rootsPeak sha256 dimensions weights recipe = .ok (tree.peak (weightOf weights)) := by
  obtain ⟨roots, mapped, same⟩ := (bind_ok _ _ _).mp isTree
  cases same
  have peaks := mapM_follow _ _ roots _ _ mapped fun root _ part isPart =>
    weighted_peak_tree sha256 dimensions weights maxGraphDepth root [] part isPart
  refine (bind_ok _ _ _).mpr ⟨_, peaks, ?_⟩
  exact congrArg Except.ok (serial_peak weights roots).symm

end Peak

end LlmperfOrchestrator.Compiler

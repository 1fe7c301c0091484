import LlmperfOrchestrator.Compiler.Lanes
import LlmperfOrchestrator.Library.Waves

set_option autoImplicit false

namespace LlmperfOrchestrator.Compiler

open Tables SeriesParallel Outcomes

structure SeededRun (config : ForEachConfig) (run : RunConfig) : Prop where
  entry : config.after = .zero
  seed : run.prefixSeed = some (.dimension config.variableName)
  delay : run.after = .zero
  free : run.dependsOn = []

def memberRun (run : RunConfig) (value : Nat) : RunConfig := { run with prefixSeed := some (.literal value) }

def memberLeaf (config : ForEachConfig) (run : RunConfig) (path : Path) (lane : String) (member : String × Nat) : TreeRow :=
  (memberRun run member.2).leaf (path ++ [config.name, lane, member.1]) 0

def memberTree (config : ForEachConfig) (run : RunConfig) (path : Path) (lane : String) (member : String × Nat) : Tree :=
  sequenceTree 0 [.leaf (memberLeaf config run path lane member)]

def laneTree (config : ForEachConfig) (run : RunConfig) (path : Path) (lane : String × List (String × Nat)) : Tree :=
  sequenceTree 0 (lane.2.map (memberTree config run path lane.1))

section Loop

variable (sha256 : Sha256) (dimensions : Dimensions) (config : ForEachConfig) (run : RunConfig) (seeded : SeededRun config run)

include seeded

theorem member_bound (member : String × Nat) :
    bindMember config (.runNode run) member = .ok (member.1, .runNode (memberRun run member.2)) := by
  simp [bindMember, bindLoopValue, seeded.delay, seeded.seed, bindDuration, bindPrefixSeed, TaskDuration.zero, memberRun,
    bind, Except.bind]

theorem member_unfolds (levels : Nat) (path : Path) (lane : String) (member : String × Nat) :
    unfold sha256 dimensions (levels + 1) (.runNode (memberRun run member.2)) (path ++ [config.name, lane, member.1]) =
      .ok (.leaf (memberLeaf config run path lane member)) := by
  have own : (memberRun run member.2).after.resolve dimensions = .ok 0 := by
    rw [memberRun, seeded.delay]
    exact zero_duration dimensions
  rw [unfold, own]
  rfl

theorem loop_unfolds (levels : Nat) (path : Path) :
    unfold sha256 dimensions (levels + 2) (.forEachNode config (.runNode run)) path =
      parallelTree 0 ((expandedLanes sha256 config).map (laneTree config run path)) := by
  have own : config.after.resolve dimensions = .ok 0 := by
    rw [seeded.entry]
    exact zero_duration dimensions
  have lanes : (expandedLanes sha256 config).mapM (fun lane : String × List (String × Nat) => do
      let members ← lane.2.mapM (bindMember config (.runNode run))
      let trees ← members.mapM fun member : String × TaskNodeSpec => do
        let tree ← unfold sha256 dimensions (levels + 1) member.2 (path ++ [config.name, lane.1, member.1])
        .ok (sequenceTree 0 [tree])
      .ok (sequenceTree 0 trees)) = .ok ((expandedLanes sha256 config).map (laneTree config run path)) := by
    apply mapM_values
    intro lane _
    have members := mapM_values (bindMember config (.runNode run)) _ lane.2 fun member _ => member_bound config run seeded member
    refine (bind_ok _ _ _).mpr ⟨_, members, (bind_ok _ _ _).mpr ⟨lane.2.map (memberTree config run path lane.1), ?_, rfl⟩⟩
    rw [List.mapM_map]
    apply mapM_values
    intro member _
    exact (bind_ok _ _ _).mpr ⟨_, member_unfolds sha256 dimensions config run seeded levels path lane.1 member, rfl⟩
  rw [unfold, own]
  exact congrArg (· >>= parallelTree 0) lanes

end Loop

-- A wave of run nodes: one for each value, as many at once as there are lanes,
-- all of them due `gap` after what is before the wave.
structure CohortWave (gap : Rat) (lanes : Nat) (values : List Nat) (tree : Tree) : Prop where
  even : Even gap tree
  seeds : (tree.leaves.map fun leaf => leaf.data.prefixSeed) = values.map fun value => some (.literal value)
  batches : ∀ leaf ∈ tree.leaves, leaf.data.executionKind = .batch ∧ leaf.data.messageSources = []
  peak : ∀ (weight : NodeId → Nat) (load : Nat), (∀ u ∈ tree.nodes, weight u = load) → tree.peak weight = lanes * load

section Wave

variable (config : ForEachConfig) (run : RunConfig) (path : Path)

theorem lane_tree_leaves (lane : String × List (String × Nat)) :
    (laneTree config run path lane).leaves = lane.2.map (memberLeaf config run path lane.1) := by
  have wrapped : lane.2.map (memberTree config run path lane.1) =
      (lane.2.map fun member => Term.leaf (memberLeaf config run path lane.1 member)).map fun part => sequenceTree 0 [part] := by
    rw [List.map_map]
    rfl
  rw [laneTree, wrapped, lane_leaves, List.flatMap_map, ← List.flatMap_singleton' (lane.2.map _), List.flatMap_map]
  rfl

theorem lane_tree_even (free : run.dependsOn = []) (lane : String × List (String × Nat)) (busy : lane.2 ≠ []) :
    Even 0 (laneTree config run path lane) := by
  have members : ∀ tree ∈ lane.2.map (memberTree config run path lane.1), Even (0 : Rat) tree := by
    intro tree member
    obtain ⟨source, _, rfl⟩ := List.mem_map.mp member
    have leaf : Even (0 : Rat) (Term.leaf (memberLeaf config run path lane.1 source)) :=
      .leaf (memberLeaf config run path lane.1 source) (by
        change dependencyReferences _ run.dependsOn = []
        rw [free]
        rfl)
    exact even_delayed 0 _ (.last 0 _ leaf)
  exact even_delayed 0 _ (even_series _ (fun empty => busy (List.map_eq_nil_iff.mp empty)) members)

theorem lane_tree_peak (lane : String × List (String × Nat)) (busy : lane.2 ≠ []) (weight : NodeId → Nat) (load : Nat)
    (loads : ∀ u ∈ (laneTree config run path lane).nodes, weight u = load) :
    (laneTree config run path lane).peak weight = load := by
  have each : ∀ member ∈ lane.2, weight (memberLeaf config run path lane.1 member).node = load := by
    intro member inLane
    apply loads
    rw [Term.nodes, lane_tree_leaves, List.map_map]
    exact List.mem_map_of_mem inLane
  apply series_peak weight load _ fun empty => busy (List.map_eq_nil_iff.mp empty)
  intro tree member
  obtain ⟨source, inLane, rfl⟩ := List.mem_map.mp member
  exact (Nat.max_zero _).trans (each source inLane)

theorem loop_wave (sha256 : Sha256) (dimensions : Dimensions) (seeded : SeededRun config run)
    (filled : config.values.values sha256 ≠ []) (wide : 1 ≤ config.parallelism) (levels : Nat) :
    ∃ tree, unfold sha256 dimensions (levels + 2) (.forEachNode config (.runNode run)) path = .ok tree ∧
      CohortWave 0 (min config.parallelism (config.values.values sha256).length) (config.values.values sha256) tree := by
  have balanced := lane_values_balanced config.parallelism (config.values.values sha256) filled wide
  have lanes := expanded_lanes_values sha256 config
  have busy : ∀ lane ∈ expandedLanes sha256 config, lane.2 ≠ [] := by
    intro lane member empty
    have listed : lane.2.map Prod.snd ∈ laneValues config.parallelism (config.values.values sha256) := by
      rw [← lanes]
      exact List.mem_map_of_mem member
    exact balanced.busy _ listed (by rw [empty]; rfl)
  have count : (expandedLanes sha256 config).length = min config.parallelism (config.values.values sha256).length := by
    rw [← balanced.count, ← lanes, List.length_map]
  rw [loop_unfolds sha256 dimensions config run seeded]
  cases split : (expandedLanes sha256 config).map (laneTree config run path) with
  | nil =>
      rw [List.map_eq_nil_iff.mp split] at count
      have some := List.length_pos_of_ne_nil filled
      rw [List.length_nil] at count
      omega
  | cons branch others =>
      have each : ∀ tree ∈ branch :: others, ∃ lane ∈ expandedLanes sha256 config, tree = laneTree config run path lane := by
        intro tree member
        rw [← split] at member
        obtain ⟨lane, inLanes, rfl⟩ := List.mem_map.mp member
        exact ⟨lane, inLanes, rfl⟩
      have leaves : (Term.delayed (0 : Rat) (parallelList branch others)).leaves =
          (expandedLanes sha256 config).flatMap fun lane => lane.2.map (memberLeaf config run path lane.1) := by
        rw [parallel_tree_leaves 0 (branch :: others) _ rfl, ← split, List.flatMap_map]
        congr 1
        funext lane
        exact lane_tree_leaves config run path lane
      refine ⟨_, rfl, even_delayed 0 _ (even_branches 0 branch others ?_), ?_, ?_, ?_⟩
      · intro tree member
        obtain ⟨lane, inLanes, rfl⟩ := each tree member
        exact lane_tree_even config run path seeded.free lane (busy lane inLanes)
      · rw [leaves, List.map_flatMap, ← balanced.order, ← lanes, List.flatMap_def, List.map_flatten, List.map_map]
        congr 1
        apply List.map_congr_left
        intro lane _
        simp only [List.map_map, Function.comp_apply]
        rfl
      · intro leaf member
        rw [leaves] at member
        obtain ⟨lane, _, inLane⟩ := List.mem_flatMap.mp member
        obtain ⟨source, _, rfl⟩ := List.mem_map.mp inLane
        exact ⟨rfl, rfl⟩
      · intro weight load loads
        have peaks : ∀ tree ∈ branch :: others, tree.peak weight = load := by
          intro tree member
          obtain ⟨lane, inLanes, rfl⟩ := each tree member
          apply lane_tree_peak config run path lane (busy lane inLanes)
          intro u held
          exact loads u (within_nodes _ _ (.delayed _ _ (parallel_list_within branch others _ member)) u held)
        change (parallelList branch others).peak weight = _
        rw [parallel_list_peak, List.map_congr_left peaks, List.map_const', List.sum_replicate_nat, ← split, List.length_map, count]

end Wave

theorem wave_sequence (delay : Rat) (lanes : Nat) (values : List Nat) (tree : Tree) (wave : CohortWave 0 lanes values tree) :
    CohortWave delay lanes values (sequenceTree delay [tree]) := by
  have leaves : (sequenceTree delay [tree]).leaves = tree.leaves := List.append_nil _
  refine ⟨even_delayed delay _ (.last 0 tree wave.even), ?_, ?_, ?_⟩
  · rw [leaves]
    exact wave.seeds
  · rw [leaves]
    exact wave.batches
  · intro weight load loads
    rw [Term.nodes, leaves] at loads
    exact (Nat.max_zero _).trans (wave.peak weight load loads)

theorem wave_delayed (delay : Rat) (lanes : Nat) (values : List Nat) (tree : Tree) (wave : CohortWave 0 lanes values tree) :
    CohortWave delay lanes values (.delayed delay tree) :=
  ⟨even_delayed delay tree wave.even, wave.seeds, wave.batches, wave.peak⟩

end LlmperfOrchestrator.Compiler

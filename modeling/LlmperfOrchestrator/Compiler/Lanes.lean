import LlmperfOrchestrator.Compiler.ConcurrencyBound

set_option autoImplicit false

namespace LlmperfOrchestrator.Compiler

open Tables SeriesParallel Outcomes Relation

section Slices

variable {Value : Type}

theorem slices_whole (sizes : List Nat) (values : List Value) (whole : sizes.sum = values.length) :
    (slices sizes values).flatten = values ∧ (slices sizes values).map List.length = sizes := by
  induction sizes generalizing values with
  | nil =>
      have empty : values = [] := List.eq_nil_of_length_eq_zero whole.symm
      rw [empty]
      exact ⟨rfl, rfl⟩
  | cons size sizes ih =>
      rw [List.sum_cons] at whole
      have rest : sizes.sum = (values.drop size).length := by
        rw [List.length_drop]
        omega
      obtain ⟨joined, sized⟩ := ih (values.drop size) rest
      constructor
      · rw [slices, List.flatten_cons, joined, List.take_append_drop]
      · rw [slices, List.map_cons, sized, List.length_take, Nat.min_eq_left (by omega)]

-- divmod: the first lanes take the remainder, one member each.
theorem sizes_sum (count size extra : Nat) :
    ((List.range count).map fun lane => size + if lane < extra then 1 else 0).sum = count * size + min extra count := by
  induction count with
  | zero => simp
  | succ count ih =>
      rw [List.range_succ, List.map_append, List.sum_append, ih, List.map_singleton, List.sum_singleton, Nat.succ_mul]
      by_cases early : count < extra
      · rw [if_pos early]
        omega
      · rw [if_neg early]
        omega

end Slices

structure BalancedLanes (parallelism : Nat) (values : List Nat) (lanes : List (List Nat)) : Prop where
  order : lanes.flatten = values
  count : lanes.length = min parallelism values.length
  busy : ∀ lane ∈ lanes, lane ≠ []
  balanced : ∀ (i j : Nat) (left right : List Nat), i ≤ j → lanes[i]? = some left → lanes[j]? = some right →
    right.length ≤ left.length ∧ left.length ≤ right.length + 1

def laneSizes (parallelism count : Nat) : List Nat :=
  (List.range (min parallelism count)).map fun lane =>
    count / min parallelism count + if lane < count % min parallelism count then 1 else 0

theorem lane_sizes_sum (parallelism count : Nat) (wide : 1 ≤ parallelism) : (laneSizes parallelism count).sum = count := by
  rw [laneSizes, sizes_sum]
  by_cases none : count = 0
  · rw [none]
    simp
  · have below : count % min parallelism count < min parallelism count := Nat.mod_lt _ (by omega)
    rw [Nat.min_eq_left (Nat.le_of_lt below)]
    exact Nat.div_add_mod count _

theorem lane_values_balanced (parallelism : Nat) (values : List Nat) (some : values ≠ []) (wide : 1 ≤ parallelism) :
    BalancedLanes parallelism values (laneValues parallelism values) := by
  have filled : 0 < values.length := List.length_pos_of_ne_nil some
  obtain ⟨joined, sized⟩ := slices_whole (laneSizes parallelism values.length) values (lane_sizes_sum _ _ wide)
  have full : 1 ≤ values.length / min parallelism values.length :=
    (Nat.one_le_div_iff (by omega)).mpr (Nat.min_le_right _ _)
  have size : ∀ (i : Nat) (lane : List Nat), (laneValues parallelism values)[i]? = Option.some lane →
      lane.length = values.length / min parallelism values.length +
        if i < values.length % min parallelism values.length then 1 else 0 := by
    intro i lane read
    have entry : ((laneValues parallelism values).map List.length)[i]? = Option.some lane.length := by
      rw [List.getElem?_map, read]
      rfl
    rw [show (laneValues parallelism values).map List.length = laneSizes parallelism values.length from sized, laneSizes,
      List.getElem?_map] at entry
    obtain ⟨index, inRange, same⟩ := Option.map_eq_some_iff.mp entry
    have here : i = index := by
      obtain ⟨bound, found⟩ := List.getElem?_eq_some_iff.mp inRange
      rw [List.getElem_range] at found
      exact found
    rw [here]
    exact same.symm
  refine ⟨joined, ?_, ?_, ?_⟩
  · rw [laneValues, slices_length, List.length_map, List.length_range]
  · intro lane member
    obtain ⟨i, read⟩ := List.getElem?_of_mem member
    have long := size i lane read
    intro empty
    rw [empty, List.length_nil] at long
    omega
  · intro i j left right before readLeft readRight
    rw [size i left readLeft, size j right readRight]
    by_cases late : j < values.length % min parallelism values.length
    · rw [if_pos late, if_pos (Nat.lt_of_le_of_lt before late)]
      omega
    · rw [if_neg late]
      split <;> omega

theorem expanded_lanes_values (sha256 : Sha256) (config : ForEachConfig) :
    (expandedLanes sha256 config).map (fun lane => lane.2.map Prod.snd) = laneValues config.parallelism (config.values.values sha256) := by
  have members : ∀ lane : List Nat, (lane.zipIdx.map fun member => (s!"member_{twoDigits (member.2 + 1)}", member.1)).map Prod.snd = lane := by
    intro lane
    rw [List.map_map]
    exact List.zipIdx_map_fst 0 lane
  rw [expandedLanes, List.map_map]
  have same : ((fun lane : String × List (String × Nat) => lane.2.map Prod.snd) ∘ fun lane : List Nat × Nat =>
      (s!"lane_{twoDigits (lane.2 + 1)}", lane.1.zipIdx.map fun member => (s!"member_{twoDigits (member.2 + 1)}", member.1))) =
        Prod.fst := by
    funext lane
    exact members lane.1
  rw [same]
  exact List.zipIdx_map_fst 0 _

section Graph

variable (sha256 : Sha256) (recipe : TaskRecipe) (dimensions : Dimensions)

def EmittedBelow (placed : Placed) (u : NodeId) : Prop :=
  ∃ leaf name, ReflTransGen (Child sha256 dimensions) placed leaf ∧ leaf.node.leafName = some name ∧
    u = qualifiedName leaf.path name

theorem emitted_listed (placed : Placed) (part : Tree) (isPart : placed.tree sha256 dimensions = .ok part) (u : NodeId)
    (emitted : EmittedBelow sha256 dimensions placed u) : u ∈ part.nodes := by
  obtain ⟨leaf, name, below, isLeaf, rfl⟩ := emitted
  obtain ⟨own, isOwn, within⟩ := descendant_tree sha256 dimensions placed leaf below part isPart
  exact within_nodes own part within _ (leaf_listed sha256 dimensions leaf name own isOwn isLeaf)

theorem lane_before (levels : Nat) (config : ForEachConfig) (template : TaskNodeSpec) (path : Path) (tree : Tree)
    (unfolded : unfold sha256 dimensions (levels + 1) (.forEachNode config template) path = .ok tree)
    (lane : String × List (String × Nat)) (inLanes : lane ∈ expandedLanes sha256 config) :
    ∃ members : List (String × TaskNodeSpec), lane.2.mapM (bindMember config template) = .ok members ∧
      ∀ (i j : Nat) (first later : String × TaskNodeSpec), i < j → members[i]? = some first → members[j]? = some later → ∀ u v,
        EmittedBelow sha256 dimensions ⟨levels, first.2, path ++ [config.name, lane.1, first.1]⟩ u →
        EmittedBelow sha256 dimensions ⟨levels, later.2, path ++ [config.name, lane.1, later.1]⟩ v → tree.Before u v := by
  obtain ⟨delay, _, unfolded⟩ := (bind_ok _ _ _).mp unfolded
  obtain ⟨lanes, mapped, joined⟩ := (bind_ok _ _ _).mp unfolded
  obtain ⟨laneTree, inTrees, isLane⟩ := paired_left (mapM_pairs _ _ _ mapped) lane inLanes
  obtain ⟨members, bounds, isLane⟩ := (bind_ok _ _ _).mp isLane
  obtain ⟨trees, parts, same⟩ := (bind_ok _ _ _).mp isLane
  cases same
  refine ⟨members, bounds, ?_⟩
  intro i j first later less readFirst readLater u v inFirst inLater
  apply within_before _ _ (parallel_tree_within delay lanes tree _ joined inTrees)
  -- the wrapper of a member holds its tree alone
  have wrapped : ∀ (k : Nat) (member : String × TaskNodeSpec), members[k]? = some member → ∃ wrapper, trees[k]? = some wrapper ∧
      ∀ w, EmittedBelow sha256 dimensions ⟨levels, member.2, path ++ [config.name, lane.1, member.1]⟩ w → w ∈ wrapper.nodes := by
    intro k member read
    obtain ⟨wrapper, found, isMember⟩ := mapM_read _ members trees parts k member read
    obtain ⟨part, isPart, same⟩ := (bind_ok _ _ _).mp isMember
    cases same
    refine ⟨_, found, ?_⟩
    intro w emitted
    have known := emitted_listed sha256 dimensions ⟨levels, member.2, path ++ [config.name, lane.1, member.1]⟩ part isPart w emitted
    change w ∈ (Term.serial part .empty).nodes
    rw [nodes_serial]
    exact List.mem_append_left _ known
  obtain ⟨one, readOne, holdsOne⟩ := wrapped i first readFirst
  obtain ⟨other, readOther, holdsOther⟩ := wrapped j later readLater
  exact (serial_list_before trees u v).mpr (.inr ⟨i, j, one, other, less, readOne, readOther, holdsOne u inFirst, holdsOther v inLater⟩)

omit sha256 recipe dimensions in
theorem waits_earlier (rows : List CompiledNodeRow) (unique : (rows.map CompiledNodeRow.nodeId).Nodup)
    (earlier : ∀ early row late, rows = early ++ row :: late →
      ∀ dependency ∈ row.dependencies, dependency ∈ early.map CompiledNodeRow.nodeId) (u v : NodeId)
    (waits : TransGen (DependsOn rows) u v) :
    (rows.map CompiledNodeRow.nodeId).idxOf u < (rows.map CompiledNodeRow.nodeId).idxOf v := by
  have step : ∀ a b, DependsOn rows a b →
      (rows.map CompiledNodeRow.nodeId).idxOf a < (rows.map CompiledNodeRow.nodeId).idxOf b := by
    rintro a b ⟨row, member, rfl, needed⟩
    obtain ⟨early, late, split⟩ := List.append_of_mem member
    have known := earlier early row late split a needed
    rw [split, List.map_append, List.map_cons] at unique ⊢
    have fresh : row.nodeId ∉ early.map CompiledNodeRow.nodeId := fun held =>
      (List.nodup_append'.mp unique).2.2 held List.mem_cons_self
    rw [List.idxOf_append_of_mem known, List.idxOf_append_of_notMem fresh, List.idxOf_cons_self]
    have inside := List.idxOf_lt_length_of_mem known
    omega
  induction waits with
  | single here => exact step _ _ here
  | tail _ here ih => exact Nat.lt_trans ih (step _ _ here)

structure SerialLane (rows : List CompiledNodeRow) (member : String × TaskNodeSpec → Placed)
    (members : List (String × TaskNodeSpec)) : Prop where
  ordered : ∀ (i j : Nat) (first later : String × TaskNodeSpec), i < j → members[i]? = some first → members[j]? = some later →
    ∀ u v, EmittedBelow sha256 dimensions (member first) u → EmittedBelow sha256 dimensions (member later) v →
      TransGen (DependsOn rows) u v
  single : ∀ chosen, Incomparable rows chosen → ∀ (i j : Nat) (first later : String × TaskNodeSpec), members[i]? = some first →
    members[j]? = some later → ∀ u ∈ chosen, ∀ v ∈ chosen, EmittedBelow sha256 dimensions (member first) u →
      EmittedBelow sha256 dimensions (member later) v → i = j

theorem serial_lane (rows : List CompiledNodeRow) (acyclic : ∀ u, ¬ TransGen (DependsOn rows) u u)
    (member : String × TaskNodeSpec → Placed) (members : List (String × TaskNodeSpec))
    (ordered : ∀ (i j : Nat) (first later : String × TaskNodeSpec), i < j → members[i]? = some first → members[j]? = some later →
      ∀ u v, EmittedBelow sha256 dimensions (member first) u → EmittedBelow sha256 dimensions (member later) v →
        TransGen (DependsOn rows) u v) : SerialLane sha256 dimensions rows member members := by
  refine ⟨ordered, ?_⟩
  intro chosen apart i j first later readFirst readLater u inU v inV below above
  have clash : ∀ a ∈ chosen, ∀ b ∈ chosen, ¬ TransGen (DependsOn rows) a b := by
    intro a inA b inB waits
    have different : a ≠ b := fun same => acyclic b (same ▸ waits)
    exact apart.2 inA inB different waits
  rcases Nat.lt_trichotomy i j with less | same | more
  · exact absurd (ordered i j first later less readFirst readLater u v below above) (clash u inU v inV)
  · exact same
  · exact absurd (ordered j i later first more readLater readFirst v u above below) (clash v inV u inU)

end Graph

theorem for_each_lanes (sha256 : Sha256) (config : ForEachConfig) (some : config.values.values sha256 ≠ [])
    (distinct : (config.values.values sha256).Nodup) (wide : 1 ≤ config.parallelism) :
    BalancedLanes config.parallelism (config.values.values sha256)
      ((expandedLanes sha256 config).map fun lane => lane.2.map Prod.snd) ∧
    (∀ value ∈ config.values.values sha256,
      (((expandedLanes sha256 config).map fun lane => lane.2.map Prod.snd).flatten).count value = 1) ∧
    ∀ recipe, validateRecipe sha256 recipe = .ok () → ∀ dimensions ∈ matrixCoordinates recipe, ∀ trial instanceKey,
      ∃ rows, expandGraph sha256 (instanceContext recipe dimensions trial) instanceKey recipe.workflow = .ok rows ∧
        ∀ levels template path, Inside sha256 recipe dimensions ⟨levels + 1, .forEachNode config template, path⟩ →
          ∀ lane ∈ expandedLanes sha256 config, ∃ members, lane.2.mapM (bindMember config template) = .ok members ∧
            SerialLane sha256 dimensions rows (fun member => ⟨levels, member.2, path ++ [config.name, lane.1, member.1]⟩) members := by
  have balanced := lane_values_balanced config.parallelism (config.values.values sha256) some wide
  rw [expanded_lanes_values]
  refine ⟨balanced, ?_, ?_⟩
  · intro value member
    rw [balanced.order]
    exact List.count_eq_one_of_mem distinct member
  · intro recipe accepted dimensions coordinate trial instanceKey
    obtain ⟨tree, rows, isTree, expanded, unique, named, _, order⟩ :=
      expansion_tree sha256 recipe dimensions accepted coordinate trial instanceKey
    refine ⟨rows, expanded, ?_⟩
    intro levels template path inside lane inLanes
    obtain ⟨part, isPart, within⟩ := inside_tree sha256 recipe dimensions _ inside tree isTree
    obtain ⟨members, bounds, before⟩ := lane_before sha256 dimensions levels config template path part isPart lane inLanes
    refine ⟨members, bounds, serial_lane sha256 dimensions rows ?_ _ members ?_⟩
    · obtain ⟨_, _, _, _, ⟨state, referred⟩, _⟩ := graph_tree sha256 recipe dimensions trial instanceKey rows expanded
      intro u waits
      exact Nat.lt_irrefl _ (waits_earlier rows (named ▸ unique)
        (fun early row late split => dependencies_earlier rows state referred early late row split) u u waits)
    · intro i j first later less readFirst readLater u v below above
      rw [order]
      exact .single (.inl (within_before part tree within u v (before i j first later less readFirst readLater u v below above)))

def fiveLoop : ForEachConfig :=
  { name := "cohort", variableName := "item", values := .explicit [50, 40, 30, 20, 10], parallelism := 2, after := .zero }

def fiveRecipe : TaskRecipe := workflowRecipe .empty (.forEachNode fiveLoop (callNode "ask" [])) []

theorem for_each_lanes_five :
    BalancedLanes 2 [50, 40, 30, 20, 10] [[50, 40, 30], [20, 10]] ∧
    ∃ rows, expandGraph (fun _ => 0) (instanceContext fiveRecipe [] 1) "trial=1" fiveRecipe.workflow = .ok rows ∧
      ∀ lane ∈ expandedLanes (fun _ => 0) fiveLoop, ∃ members, lane.2.mapM (bindMember fiveLoop (callNode "ask" [])) = .ok members ∧
        SerialLane (fun _ => 0) [] rows (fun member => ⟨19, member.2, ["cohort", lane.1, member.1]⟩) members := by
  obtain ⟨balanced, _, serial⟩ := for_each_lanes (fun _ => 0) fiveLoop (by decide) (by decide) (by decide)
  obtain ⟨rows, expanded, lanes⟩ := serial fiveRecipe (by decide +kernel) [] (by decide) 1 "trial=1"
  exact ⟨balanced, rows, expanded, lanes 19 (callNode "ask" []) [] ⟨_, List.mem_cons_self, .refl⟩⟩

end LlmperfOrchestrator.Compiler

import LlmperfOrchestrator.Compiler.Validation
import Mathlib.Tactic.Linarith

set_option autoImplicit false

namespace LlmperfOrchestrator.Compiler

open Tables SeriesParallel Outcomes Relation

-- Start offsets of _planned_span, and the latest one of a frontier.
def plannedOffset (rows : List CompiledNodeRow) (nodeId : NodeId) : Rat :=
  (Dict.get nodeId (completionOffsets rows)).getD 0

def frontierOffset (rows : List CompiledNodeRow) (frontier : Frontier) : Rat :=
  (frontier.map (plannedOffset rows)).max?.getD 0

def TaskNodeSpec.compositeAfter : TaskNodeSpec → Option TaskDuration
  | .parallelNode _ after _ _ => some after
  | .parallelCount _ after _ _ => some after
  | .sequenceNode _ after _ _ => some after
  | .forEachNode config _ => some config.after
  | _ => none

section Law

variable (sha256 : Sha256) (recipe : TaskRecipe) (dimensions : Dimensions) (trial : Nat) (instanceKey : String)

def StartsAfter (step : Step) (entry owed : Rat) : Prop :=
  ∀ (builder grown : GraphBuilder) (incoming outgoing : Frontier),
    (∀ u ∈ incoming, u ∈ builder.nodes.map CompiledNodeRow.nodeId) →
    step builder incoming entry = .ok (grown, outgoing) →
    ∀ row ∈ grown.nodes, row.nodeId ∉ builder.nodes.map CompiledNodeRow.nodeId →
      frontierOffset builder.nodes incoming + owed ≤ plannedOffset grown.nodes row.nodeId

-- A repeat cut off after its first `done` iterations.
def iterated (levels : Nat) (name : String) (every : TaskDuration) (node : TaskNodeSpec) (path : Path) (done : Nat) : Placed :=
  ⟨levels + 1, .repeatNode name (.literal done) every node, path⟩

-- A composite keeps each inherited delay and its own `after`. A repeat runs as far as its count, and
-- the rows its next iteration adds start `every` after the frontier that the iterations before it left.
structure DelaysKept : Prop where
  composites : ∀ placed, Inside sha256 recipe dimensions placed → ∀ after, placed.node.compositeAfter = some after →
    ∀ delay, after.resolve dimensions = .ok delay → ∀ inherited, 0 ≤ inherited →
      StartsAfter (placed.expand sha256 (instanceContext recipe dimensions trial) instanceKey) inherited
        (inherited + delay)
  repeated : ∀ levels name count every node path,
    Inside sha256 recipe dimensions ⟨levels + 1, .repeatNode name count every node, path⟩ →
    ∀ total, repeatCount dimensions count = .ok total →
      Placed.expand sha256 (instanceContext recipe dimensions trial) instanceKey
          ⟨levels + 1, .repeatNode name count every node, path⟩ =
        (iterated levels name every node path total).expand sha256 (instanceContext recipe dimensions trial) instanceKey
  iterations : ∀ levels name count every node path,
    Inside sha256 recipe dimensions ⟨levels + 1, .repeatNode name count every node, path⟩ →
    ∀ total, repeatCount dimensions count = .ok total → ∀ interval, every.resolve dimensions = .ok interval →
    ∀ inherited, 0 ≤ inherited → ∀ (builder : GraphBuilder) (incoming : Frontier),
    (∀ u ∈ incoming, u ∈ builder.nodes.map CompiledNodeRow.nodeId) →
    ∀ done, done < total → ∀ (before after : GraphBuilder) (frontier outgoing : Frontier),
    (iterated levels name every node path done).expand sha256 (instanceContext recipe dimensions trial) instanceKey
      builder incoming inherited = .ok (before, frontier) →
    (iterated levels name every node path (done + 1)).expand sha256 (instanceContext recipe dimensions trial) instanceKey
      builder incoming inherited = .ok (after, outgoing) →
    ∀ row ∈ after.nodes, row.nodeId ∉ before.nodes.map CompiledNodeRow.nodeId →
      frontierOffset before.nodes frontier + interval ≤ plannedOffset after.nodes row.nodeId

def CompositesCarry : Prop :=
  ∀ placed, Inside sha256 recipe dimensions placed → placed.node.compositeAfter.isSome →
    ∃ tree, placed.tree sha256 dimensions = .ok tree ∧ tree.Carries

end Law

theorem settle_plan (offsets : Dict NodeId Rat) (row : CompiledNodeRow) (start : NodeId → Rat)
    (same : ∀ nodeId, (Dict.get nodeId offsets).getD 0 = start nodeId) (nodeId : NodeId) :
    (Dict.get nodeId (settleOffset offsets row)).getD 0 = settle start row.outline nodeId := by
  have latest_ : (row.dependencies.map fun dependency => (Dict.get dependency offsets).getD 0).max?.getD 0 =
      latest start row.outline.dependencies := by
    rw [latest, List.map_congr_left fun dependency _ => same dependency]
    rfl
  rw [settleOffset, dict_get_put, latest_, settle]
  change _ = Function.update start row.nodeId (latest start row.outline.dependencies + row.afterSeconds) nodeId
  by_cases here : nodeId = row.nodeId
  · rw [if_pos here, here, Function.update_self]
    rfl
  · rw [if_neg here, Function.update_of_ne here]
    exact same nodeId

theorem offsets_plan (rows : List CompiledNodeRow) (nodeId : NodeId) :
    plannedOffset rows nodeId = plan (fun _ => 0) (rows.map CompiledNodeRow.outline) nodeId := by
  have loop : ∀ (offsets : Dict NodeId Rat) (start : NodeId → Rat),
      (∀ nodeId, (Dict.get nodeId offsets).getD 0 = start nodeId) → ∀ nodeId,
      (Dict.get nodeId (rows.foldl settleOffset offsets)).getD 0 =
        plan start (rows.map CompiledNodeRow.outline) nodeId := by
    induction rows with
    | nil => exact fun _ _ same => same
    | cons row rest ih => exact fun offsets start same => ih _ _ (settle_plan offsets row start same)
  exact loop [] (fun _ => 0) (fun _ => rfl) nodeId

theorem frontier_plan (rows : List CompiledNodeRow) (frontier : Frontier) :
    frontierOffset rows frontier = latest (plan (fun _ => 0) (rows.map CompiledNodeRow.outline)) frontier := by
  rw [frontierOffset, latest, List.map_congr_left fun nodeId _ => offsets_plan rows nodeId]

theorem plan_outlines (start : NodeId → Rat) (rows : List TreeRow) (nodeId : NodeId) :
    plan start (rows.map outlineOf) nodeId = plan start rows nodeId := by
  induction rows generalizing start with
  | nil => rfl
  | cons row rest ih => exact ih _

section Bound

variable (sha256 : Sha256) (context : InstanceContext) (instanceKey : String)

theorem added_rows (placed : Placed) (builder grown : GraphBuilder) (incoming outgoing : Frontier) (delay : Rat)
    (taken : placed.expand sha256 context instanceKey builder incoming delay = .ok (grown, outgoing)) :
    ∃ tree, placed.tree sha256 context.dimensions = .ok tree ∧
      grown.nodes.map CompiledNodeRow.outline =
        builder.nodes.map CompiledNodeRow.outline ++ (tree.rows incoming delay).map outlineOf ∧
      grown.nodes.map CompiledNodeRow.nodeId = builder.nodes.map CompiledNodeRow.nodeId ++ tree.nodes ∧
      tree.exits incoming = outgoing := by
  obtain ⟨tree, isTree, emitted, exits⟩ :=
    (node_denotes sha256 context instanceKey placed.levels placed.node placed.path _ _ _ _ _).mp taken
  have outlines := (rows_emitted sha256 context instanceKey _ _ _ emitted).2
  refine ⟨tree, isTree, outlines, ?_, exits⟩
  rw [← outline_nodes, outlines, List.map_append, outlines_nodes, rows_nodes, outline_nodes]

theorem carries_starts (placed : Placed) (tree body : Tree) (isTree : placed.tree sha256 context.dimensions = .ok tree)
    (inherited owed : Rat) (shape : ∀ frontier, tree.rows frontier inherited = body.rows frontier owed)
    (sameLeaves : tree.leaves = body.leaves) (ordered : Ordered body.leaves) (nonneg : body.Nonnegative)
    (entry : 0 ≤ owed) (carries : body.Carries) :
    StartsAfter (placed.expand sha256 context instanceKey) inherited owed := by
  intro builder grown incoming outgoing earlier taken row member fresh
  obtain ⟨_, again, outlines, named, _⟩ := added_rows sha256 context instanceKey placed builder grown incoming outgoing inherited taken
  cases isTree.symm.trans again
  rw [shape] at outlines
  rw [Term.nodes, sameLeaves, ← Term.nodes] at named
  have unique := List.nodup_append'.mp (named ▸ grown.unique)
  have inTree : row.nodeId ∈ body.nodes := by
    have known : row.nodeId ∈ grown.nodes.map CompiledNodeRow.nodeId := List.mem_map_of_mem member
    rw [named] at known
    exact (List.mem_append.mp known).resolve_left fresh
  have start : ∀ nodeId, 0 ≤ plan (fun _ => (0 : Rat)) (builder.nodes.map CompiledNodeRow.outline) nodeId := by
    refine plan_nonneg _ _ (fun _ => le_rfl) fun outline inOutlines => ?_
    obtain ⟨emitted, there, rfl⟩ := List.mem_map.mp inOutlines
    exact builder.delays emitted there
  have carried := delay_carried body (plan (fun _ => (0 : Rat)) (builder.nodes.map CompiledNodeRow.outline)) incoming owed
    unique.2.1 ordered nonneg (fun u known inside => unique.2.2 (earlier u known) inside) start entry carries
    row.nodeId inTree
  rw [frontier_plan, offsets_plan, outlines, plan_append, plan_outlines]
  exact carried

end Bound

section Iterations

variable (sha256 : Sha256) (context : InstanceContext) (instanceKey : String)

-- iteration_delay_seconds
def iterationDelay (interval inherited : Rat) (done : Nat) : Rat := if done + 1 = 1 then interval + inherited else interval

theorem interval_le_delay (interval inherited : Rat) (done : Nat) (entry : 0 ≤ inherited) :
    interval ≤ iterationDelay interval inherited done := by
  unfold iterationDelay
  split
  · exact le_add_of_nonneg_right entry
  · exact le_rfl

theorem delay_nonneg (interval inherited : Rat) (done : Nat) (positive : 0 ≤ interval) (entry : 0 ≤ inherited) :
    0 ≤ iterationDelay interval inherited done := positive.trans (interval_le_delay interval inherited done entry)

theorem count_bounded (dimensions : Dimensions) (count : TaskValue) (total : Nat)
    (counted : repeatCount dimensions count = .ok total) : total ≤ maxRepeatCount := by
  obtain ⟨resolved, _, checked⟩ := (bind_ok _ _ _).mp counted
  split at checked
  · cases checked
    omega
  · cases checked

theorem literal_count (dimensions : Dimensions) (done : Nat) (room : done ≤ maxRepeatCount) :
    repeatCount dimensions (.literal done) = .ok done :=
  (bind_ok _ _ _).mpr ⟨done, rfl, if_pos ⟨by omega, by omega⟩⟩

theorem repeat_iterated (levels : Nat) (name : String) (count : TaskValue) (every : TaskDuration) (node : TaskNodeSpec)
    (path : Path) (total : Nat) (counted : repeatCount context.dimensions count = .ok total) :
    Placed.expand sha256 context instanceKey ⟨levels + 1, .repeatNode name count every node, path⟩ =
      (iterated levels name every node path total).expand sha256 context instanceKey := by
  have same := literal_count context.dimensions total (count_bounded _ _ _ counted)
  funext builder incoming inherited
  change expandRepeat context.dimensions name count every _ builder incoming path inherited =
    expandRepeat context.dimensions name (.literal total) every _ builder incoming path inherited
  rw [expandRepeat, expandRepeat, counted, same]

-- One more iteration is one more turn of the loop, from where the turns before it ended.
theorem iterated_succ (levels : Nat) (name : String) (every : TaskDuration) (node : TaskNodeSpec) (path : Path) (done : Nat)
    (room : done < maxRepeatCount) (interval : Rat) (resolved : every.resolve context.dimensions = .ok interval)
    (builder : GraphBuilder) (incoming : Frontier) (inherited : Rat) :
    (iterated levels name every node path (done + 1)).expand sha256 context instanceKey builder incoming inherited =
      (iterated levels name every node path done).expand sha256 context instanceKey builder incoming inherited >>= fun state =>
        Placed.expand sha256 context instanceKey ⟨levels, node, path ++ [name, toString (done + 1)]⟩ state.1 state.2
          (iterationDelay interval inherited done) := by
  have positive := not_lt.mpr (duration_nonneg _ _ _ resolved)
  change expandRepeat context.dimensions name (.literal (done + 1 : Nat)) every _ builder incoming path inherited =
    expandRepeat context.dimensions name (.literal done) every _ builder incoming path inherited >>= _
  rw [expandRepeat, expandRepeat, literal_count _ _ room, literal_count _ _ room.le, resolved]
  change (if interval < 0 then Except.error _ else List.foldlM _ _ _) = (if interval < 0 then Except.error _ else List.foldlM _ _ _) >>= _
  rw [if_neg positive, if_neg positive, List.range'_concat, List.foldlM_append, one_mul, add_comm 1 done]
  simp only [List.foldlM_cons, List.foldlM_nil, bind_pure]
  rfl

-- What a node hands on was handed in or is a row by then.
theorem frontier_known (placed : Placed) (builder grown : GraphBuilder) (incoming outgoing : Frontier) (delay : Rat)
    (taken : placed.expand sha256 context instanceKey builder incoming delay = .ok (grown, outgoing))
    (known : ∀ u ∈ incoming, u ∈ builder.nodes.map CompiledNodeRow.nodeId) :
    ∀ u ∈ outgoing, u ∈ grown.nodes.map CompiledNodeRow.nodeId := by
  obtain ⟨tree, _, _, named, exits⟩ := added_rows sha256 context instanceKey placed builder grown incoming outgoing delay taken
  intro u member
  rw [← exits] at member
  rw [named]
  cases exits_known tree incoming u member with
  | inl entered => exact List.mem_append_left _ (known u entered)
  | inr inside => exact List.mem_append_right _ inside

end Iterations

section Carrying

variable (sha256 : Sha256) (recipe : TaskRecipe) (dimensions : Dimensions)

theorem composite_body (placed : Placed) (after : TaskDuration) (composite : placed.node.compositeAfter = some after)
    (tree : Tree) (isTree : placed.tree sha256 dimensions = .ok tree) :
    ∃ delay body, after.resolve dimensions = .ok delay ∧ tree = .delayed delay body := by
  obtain ⟨levels, node, path⟩ := placed
  have joined_body : ∀ delay trees, parallelTree delay trees = .ok tree → ∃ body, tree = .delayed delay body := by
    intro delay trees joined
    cases trees with
    | nil => cases joined
    | cons branch others => exact ⟨parallelList branch others, (Except.ok.inj joined).symm⟩
  cases levels with
  | zero => cases isTree
  | succ levels =>
      cases node with
      | invokeNode config => cases composite
      | runNode config => cases composite
      | repeatNode name count every node => cases composite
      | parallelNode name _ branch branches =>
          cases composite
          obtain ⟨delay, resolved, unfolded⟩ := (bind_ok _ _ _).mp isTree
          obtain ⟨trees, _, joined⟩ := (bind_ok _ _ _).mp unfolded
          obtain ⟨body, same⟩ := joined_body delay trees joined
          exact ⟨delay, body, resolved, same⟩
      | parallelCount name _ count node =>
          cases composite
          obtain ⟨delay, resolved, unfolded⟩ := (bind_ok _ _ _).mp isTree
          obtain ⟨copies, _, unfolded⟩ := (bind_ok _ _ _).mp unfolded
          obtain ⟨trees, _, joined⟩ := (bind_ok _ _ _).mp unfolded
          obtain ⟨body, same⟩ := joined_body delay trees joined
          exact ⟨delay, body, resolved, same⟩
      | sequenceNode name _ step steps =>
          cases composite
          obtain ⟨delay, resolved, unfolded⟩ := (bind_ok _ _ _).mp isTree
          obtain ⟨trees, _, same⟩ := (bind_ok _ _ _).mp unfolded
          exact ⟨delay, serialList trees, resolved, (Except.ok.inj same).symm⟩
      | forEachNode config template =>
          cases composite
          obtain ⟨delay, resolved, unfolded⟩ := (bind_ok _ _ _).mp isTree
          obtain ⟨lanes, _, joined⟩ := (bind_ok _ _ _).mp unfolded
          obtain ⟨body, same⟩ := joined_body delay lanes joined
          exact ⟨delay, body, resolved, same⟩

theorem inside_child (parent child : Placed) (inside : Inside sha256 recipe dimensions parent)
    (edge : Child sha256 dimensions parent child) : Inside sha256 recipe dimensions child := by
  obtain ⟨root, member, below⟩ := inside
  exact ⟨root, member, below.tail edge⟩

theorem repeated_carries (trees : List Tree) (interval : Rat) (each : ∀ tree ∈ trees, tree.Carries)
    (alike : ∀ a ∈ trees, ∀ b ∈ trees, a.leaves = [] → b.leaves = []) :
    (serialList (trees.map (Term.delayed interval))).Carries := by
  intro v held
  obtain ⟨_, inTrees, heldBy⟩ := (serial_list_nodes _ v).mp held
  obtain ⟨tree, member, rfl⟩ := List.mem_map.mp inTrees
  have within : ∀ u, u ∈ tree.nodes → u ∈ (serialList (trees.map (Term.delayed interval))).nodes := fun u there =>
    (serial_list_nodes _ u).mpr ⟨_, inTrees, there⟩
  rcases each tree member v heldBy with leads | ⟨u, there, before | ⟨leaf, inLeaves, refers⟩⟩
  · cases trees with
    | nil => cases member
    | cons first rest =>
        rcases List.mem_cons.mp member with rfl | later
        · exact .inl leads
        · -- A node of a later iteration follows one of the first.
          have busy : first.leaves ≠ [] := fun silent => by
            have none_ := alike first List.mem_cons_self tree member silent
            change v ∈ tree.leaves.map Row.node at heldBy
            rw [none_] at heldBy
            cases heldBy
          obtain ⟨leaf, inFirst⟩ := List.exists_mem_of_ne_nil _ busy
          have named : leaf.node ∈ first.nodes := List.mem_map_of_mem inFirst
          refine .inr ⟨leaf.node, (serial_list_nodes _ _).mpr ⟨_, List.mem_cons_self, named⟩, .inl (.inl ⟨named, ?_⟩)⟩
          exact (serial_list_nodes _ v).mpr ⟨_, List.mem_map_of_mem later, heldBy⟩
  · exact .inr ⟨u, within u there, .inl ((serial_list_before _ u v).mpr (.inl ⟨_, inTrees, before⟩))⟩
  · refine .inr ⟨u, within u there, .inr ⟨leaf, ?_, refers⟩⟩
    rw [serial_list_leaves, delayed_leaves]
    exact List.mem_flatMap.mpr ⟨tree, member, inLeaves⟩

theorem inside_carries (carry : CompositesCarry sha256 recipe dimensions) (levels : Nat) (node : TaskNodeSpec) (path : Path)
    (inside : Inside sha256 recipe dimensions ⟨levels, node, path⟩) (tree : Tree)
    (isTree : unfold sha256 dimensions levels node path = .ok tree) : tree.Carries := by
  have composites : node.compositeAfter.isSome → tree.Carries := by
    intro composite
    obtain ⟨again, isAgain, carries⟩ := carry _ inside composite
    cases isTree.symm.trans isAgain
    exact carries
  induction levels generalizing node path tree with
  | zero => cases isTree
  | succ levels ih =>
      cases node with
      | invokeNode config =>
          obtain ⟨own, _, same⟩ := (bind_ok _ _ _).mp isTree
          cases same
          exact fun v held => .inl held
      | runNode config =>
          obtain ⟨own, _, same⟩ := (bind_ok _ _ _).mp isTree
          cases same
          exact fun v held => .inl held
      | repeatNode name count every node =>
          obtain ⟨iterations, counted, unfolded⟩ := (bind_ok _ _ _).mp isTree
          obtain ⟨interval, _, unfolded⟩ := (bind_ok _ _ _).mp unfolded
          obtain ⟨trees, mapped, same⟩ := (bind_ok _ _ _).mp unfolded
          cases same
          have pairs := mapM_pairs _ _ _ mapped
          refine repeated_carries trees interval (fun part inTrees => ?_) fun a inA b inB silent => ?_
          · obtain ⟨index, inRange, isPart⟩ := paired_right pairs part inTrees
            have bounds := List.mem_range'_1.mp inRange
            have below := inside_child sha256 recipe dimensions _ _ inside
              (.iteration levels name count every node path iterations index counted bounds.1 (by omega))
            refine ih node _ below part isPart fun composite => ?_
            obtain ⟨again, isAgain, carries⟩ := carry _ below composite
            cases isPart.symm.trans isAgain
            exact carries
          · obtain ⟨_, _, isA⟩ := paired_right pairs a inA
            obtain ⟨_, _, isB⟩ := paired_right pairs b inB
            exact unfold_silent sha256 dimensions levels node _ _ a b isA isB silent
      | parallelNode name after branch branches => exact composites rfl
      | parallelCount name after count node => exact composites rfl
      | sequenceNode name after step steps => exact composites rfl
      | forEachNode config template => exact composites rfl

end Carrying

section Law

variable (sha256 : Sha256) (recipe : TaskRecipe) (dimensions : Dimensions) (trial : Nat) (instanceKey : String)

theorem inside_fits (accepted : validateRecipe sha256 recipe = .ok ()) (coordinate : dimensions ∈ matrixCoordinates recipe)
    (placed : Placed) (inside : Inside sha256 recipe dimensions placed) :
    ∃ tree, placed.tree sha256 dimensions = .ok tree ∧ Fits sha256 (instanceContext recipe dimensions trial) tree ∧
      tree.Nonnegative := by
  obtain ⟨whole, _, isWhole, _, _, fits⟩ := accepted_trial sha256 recipe accepted dimensions coordinate trial ""
  obtain ⟨tree, isTree, within⟩ := inside_tree sha256 recipe dimensions placed inside whole isWhole
  exact ⟨tree, isTree, fits_part sha256 _ whole tree within fits, unfold_nonneg sha256 dimensions _ _ _ tree isTree⟩

theorem carrying_keeps (accepted : validateRecipe sha256 recipe = .ok ())
    (coordinate : dimensions ∈ matrixCoordinates recipe) (carry : CompositesCarry sha256 recipe dimensions) :
    DelaysKept sha256 recipe dimensions trial instanceKey where
  composites := by
    intro placed inside after composite delay resolved inherited entry
    obtain ⟨tree, isTree, fits, nonneg⟩ := inside_fits sha256 recipe dimensions trial accepted coordinate placed inside
    obtain ⟨again, isAgain, carries⟩ := carry placed inside (by rw [composite]; rfl)
    cases isTree.symm.trans isAgain
    obtain ⟨_, body, same, rfl⟩ := composite_body sha256 dimensions placed after composite tree isTree
    cases resolved.symm.trans same
    exact carries_starts sha256 (instanceContext recipe dimensions trial) instanceKey placed _ body isTree inherited
      (inherited + delay) (fun _ => rfl) rfl fits.ordered nonneg.2 (add_nonneg entry nonneg.1) carries
  repeated := by
    intro levels name count every node path inside total counted
    exact repeat_iterated sha256 _ instanceKey levels name count every node path total counted
  iterations := by
    intro levels name count every node path inside total counted interval resolved inherited entry builder incoming known
      done below before after frontier outgoing first next row member fresh
    have edge := @Child.iteration sha256 dimensions levels name count every node path total (done + 1) counted (by omega) below
    have within := inside_child sha256 recipe dimensions _ _ inside edge
    obtain ⟨tree, isTree, fits, nonneg⟩ := inside_fits sha256 recipe dimensions trial accepted coordinate _ within
    have carries := inside_carries sha256 recipe dimensions carry levels node _ within tree isTree
    have positive := duration_nonneg _ _ _ resolved
    have delayed : 0 ≤ iterationDelay interval inherited done := delay_nonneg interval inherited done positive entry
    have starts := carries_starts sha256 (instanceContext recipe dimensions trial) instanceKey _ tree tree isTree _ _
      (fun _ => rfl) rfl fits.ordered nonneg delayed carries
    rw [iterated_succ sha256 (instanceContext recipe dimensions trial) instanceKey levels name every node path done
      (below.trans_le (count_bounded _ _ _ counted)) interval resolved, first] at next
    have left := frontier_known sha256 (instanceContext recipe dimensions trial) instanceKey _ builder before incoming frontier
      inherited first known
    have bound := starts before after frontier outgoing left next row member fresh
    exact (add_le_add le_rfl (interval_le_delay interval inherited done entry)).trans bound

theorem kept_carries (accepted : validateRecipe sha256 recipe = .ok ())
    (coordinate : dimensions ∈ matrixCoordinates recipe) (kept : DelaysKept sha256 recipe dimensions trial instanceKey) :
    CompositesCarry sha256 recipe dimensions := by
  intro placed inside composite
  obtain ⟨after, isAfter⟩ := Option.isSome_iff_exists.mp composite
  obtain ⟨tree, isTree, fits, nonneg⟩ := inside_fits sha256 recipe dimensions trial accepted coordinate placed inside
  refine ⟨tree, isTree, fun v held => ?_⟩
  by_contra lost
  obtain ⟨follows, first⟩ := not_or.mp lost
  obtain ⟨delay, body, resolved, shape⟩ := composite_body sha256 dimensions placed after isAfter tree isTree
  have positive := duration_nonneg _ _ _ resolved
  have unmoved : ∃ own : Rat, ∀ inherited : Rat, plan (fun _ => (0 : Rat)) (tree.rows [] inherited) v = own :=
    delay_lost tree fits.unique fits.ordered v held follows fun u there declared => first ⟨u, there, declared⟩
  obtain ⟨own, steady⟩ := unmoved
  have ownNonneg : 0 ≤ own := by
    rw [← steady 0]
    exact plan_nonneg _ _ (fun _ => le_rfl) (rows_nonneg tree [] 0 nonneg le_rfl) v
  have entry : (0 : Rat) ≤ own + 1 := by linarith
  obtain ⟨grown, emitted⟩ := rows_of_fits sha256 instanceKey tree (instanceContext recipe dimensions trial)
    GraphBuilder.new [] (own + 1) fits nonneg entry (List.disjoint_nil_left _)
    (by simpa [GraphBuilder.new] using fits.room)
  have taken : placed.expand sha256 (instanceContext recipe dimensions trial) instanceKey GraphBuilder.new [] (own + 1) =
      .ok (grown, tree.exits []) :=
    (node_denotes sha256 _ instanceKey placed.levels placed.node placed.path _ _ _ _ _).mpr ⟨tree, isTree, emitted, rfl⟩
  obtain ⟨_, again, outlines, named, _⟩ := added_rows sha256 _ instanceKey placed _ grown [] _ (own + 1) taken
  cases isTree.symm.trans again
  obtain ⟨row, member, rfl⟩ : ∃ row ∈ grown.nodes, row.nodeId = v := by
    have known : v ∈ grown.nodes.map CompiledNodeRow.nodeId := named ▸ List.mem_append_right _ held
    exact List.mem_map.mp known
  have law := kept.composites placed inside after isAfter delay resolved (own + 1) entry GraphBuilder.new grown [] _
    (fun _ absent => by cases absent) taken row member (fun absent => by cases absent)
  have offset : plannedOffset grown.nodes row.nodeId = own := by
    rw [offsets_plan, outlines, plan_append, plan_outlines]
    exact steady (own + 1)
  have nothing : frontierOffset GraphBuilder.new.nodes [] = 0 := rfl
  rw [offset, nothing] at law
  linarith

theorem structural_delays (accepted : validateRecipe sha256 recipe = .ok ())
    (coordinate : dimensions ∈ matrixCoordinates recipe) :
    DelaysKept sha256 recipe dimensions trial instanceKey ↔ CompositesCarry sha256 recipe dimensions :=
  ⟨kept_carries sha256 recipe dimensions trial instanceKey accepted coordinate,
    carrying_keeps sha256 recipe dimensions trial instanceKey accepted coordinate⟩

theorem structural_delays_fork :
    DelaysKept (fun _ => 0) forkRecipe [("rounds", 2)] 1 "rounds=2;trial=1" ↔
      CompositesCarry (fun _ => 0) forkRecipe [("rounds", 2)] :=
  structural_delays (fun _ => 0) forkRecipe [("rounds", 2)] 1 "rounds=2;trial=1" fork_accepted (by decide)

end Law

def spacedRecipe : TaskRecipe :=
  workflowRecipe .empty
    (.sequenceNode "s" ⟨.literal 10, .s⟩ (.repeatNode "warm" (.literal 0) .zero (callNode "up" [])) [callNode "a" []]) []

def spacedRoot : Tree :=
  sequenceTree 10 [serialList [],
    .leaf { node := "s.a", dependencies := [], after := 0, data := ⟨"a", some "p", [], .atomic, none⟩ }]

theorem spaced_root (sha256 : Sha256) : unfold sha256 [] maxGraphDepth spacedRecipe.root [] = .ok spacedRoot := by
  with_unfolding_all rfl

theorem spaced_tree (sha256 : Sha256) : workflowTree sha256 spacedRecipe [] = .ok (serialList [spacedRoot]) := by
  rw [workflowTree, show spacedRecipe.workflow = [spacedRecipe.root] from rfl, List.mapM_cons, spaced_root]
  rfl

theorem spaced_accepted (sha256 : Sha256) : validateRecipe sha256 spacedRecipe = .ok () := by
  refine accepted_hash (fun _ => 0) sha256 spacedRecipe (by decide +kernel) fun dimensions member => ?_
  have only : dimensions = [] := by simpa [matrixCoordinates, spacedRecipe, workflowRecipe, Table.empty, product] using member
  rw [only, spaced_tree, spaced_tree]

theorem spaced_never_carries (sha256 : Sha256) : ¬ CompositesCarry sha256 spacedRecipe [] := by
  intro carry
  obtain ⟨tree, isTree, carries⟩ := carry ⟨maxGraphDepth, spacedRecipe.root, []⟩
    ⟨spacedRecipe.root, List.mem_cons_self, .refl⟩ rfl
  cases (spaced_root sha256).symm.trans isTree
  rcases carries "s.a" (by decide) with leads | ⟨u, _, before | ⟨leaf, inLeaves, _, refers⟩⟩
  · cases leads
  · simp [spacedRoot, sequenceTree, serialList, Term.Before] at before
  · cases List.mem_singleton.mp inLeaves
    cases refers

theorem zero_repeat_loses_delay :
    spacedRecipe.valid = true ∧ ∀ sha256, validateRecipe sha256 spacedRecipe = .ok () ∧ [] ∈ matrixCoordinates spacedRecipe ∧
      (∃ rows, expandGraph sha256 (instanceContext spacedRecipe [] 0) "trial=0" spacedRecipe.workflow = .ok rows ∧
        rows.map CompiledNodeRow.nodeId = ["s.a"] ∧ plannedOffset rows "s.a" = 0) ∧
      ¬ DelaysKept sha256 spacedRecipe [] 0 "trial=0" := by
  have coordinate : [] ∈ matrixCoordinates spacedRecipe := by decide
  refine ⟨by decide, fun sha256 => ⟨spaced_accepted sha256, coordinate, ?_, fun kept => spaced_never_carries sha256
    (kept_carries sha256 spacedRecipe [] 0 "trial=0" (spaced_accepted sha256) coordinate kept)⟩⟩
  obtain ⟨tree, rows, isTree, expanded, outlines, _⟩ :=
    accepted_trial sha256 spacedRecipe (spaced_accepted sha256) [] coordinate 0 "trial=0"
  cases (spaced_tree sha256).symm.trans isTree
  refine ⟨rows, expanded, ?_, ?_⟩
  · rw [← outline_nodes, outlines, outlines_nodes, rows_nodes]
    rfl
  · rw [offsets_plan, outlines]
    decide +kernel

end LlmperfOrchestrator.Compiler

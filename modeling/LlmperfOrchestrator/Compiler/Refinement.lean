import LlmperfOrchestrator.Compiler.Denotation

set_option autoImplicit false

namespace LlmperfOrchestrator.Compiler

open Tables SeriesParallel Outcomes

section Nodes

variable (sha256 : Sha256) (context : InstanceContext) (instanceKey : String)

theorem denotes_invoke (config : InvokeConfig) (path : Path) :
    Denotes sha256 context instanceKey ((config.expand sha256 context instanceKey).at_ path)
      (config.after.resolve context.dimensions >>= fun ownDelay => .ok (.leaf (config.leaf path ownDelay))) := by
  intro builder incoming delay grown outgoing
  simp only [Expand.at_, InvokeConfig.expand, bind_ok]
  constructor
  · rintro ⟨own, resolved, next, emitted, done⟩
    cases done
    refine ⟨_, ⟨own, resolved, rfl⟩, ?_, rfl⟩
    exact (fold_ok _ _ _ _ _).mpr ⟨grown, emitted, rfl⟩
  · rintro ⟨_, ⟨own, resolved, same⟩, emitted, rfl⟩
    cases same
    obtain ⟨next, taken, done⟩ := (fold_ok _ _ _ _ _).mp emitted
    cases done
    exact ⟨own, resolved, grown, taken, rfl⟩

theorem denotes_run (config : RunConfig) (path : Path) :
    Denotes sha256 context instanceKey ((config.expand sha256 context instanceKey).at_ path)
      (config.after.resolve context.dimensions >>= fun ownDelay => .ok (.leaf (config.leaf path ownDelay))) := by
  intro builder incoming delay grown outgoing
  simp only [Expand.at_, RunConfig.expand, bind_ok]
  constructor
  · rintro ⟨own, resolved, seed, sown, next, emitted, done⟩
    cases done
    refine ⟨_, ⟨own, resolved, rfl⟩, ?_, rfl⟩
    exact (fold_ok _ _ _ _ _).mpr ⟨grown, (bind_ok _ _ _).mpr ⟨seed, sown, emitted⟩, rfl⟩
  · rintro ⟨_, ⟨own, resolved, same⟩, emitted, rfl⟩
    cases same
    obtain ⟨next, taken, done⟩ := (fold_ok _ _ _ _ _).mp emitted
    cases done
    obtain ⟨seed, sown, emitted⟩ := (bind_ok _ _ _).mp taken
    exact ⟨own, resolved, seed, sown, grown, emitted, rfl⟩

variable {Item : Type}

theorem denotes_sequence (name : String) (after : TaskDuration) (path : Path) (items : List Item)
    (expand : Item → Expand) (tree : Item → Except String Tree)
    (holds : ∀ item ∈ items, Denotes sha256 context instanceKey ((expand item).at_ (path ++ [name])) (tree item)) :
    Denotes sha256 context instanceKey ((expandSequence context.dimensions name after (items.map expand)).at_ path)
      (after.resolve context.dimensions >>= fun own => items.mapM tree >>= fun trees => .ok (sequenceTree own trees)) := by
  have shape : ((expandSequence context.dimensions name after (items.map expand)).at_ path) =
      fun builder incoming delay => after.resolve context.dimensions >>= fun own =>
        Step.delayed own (Step.serialList (items.map fun item => (expand item).at_ (path ++ [name]))) builder incoming delay := by
    funext builder incoming delay
    rw [Expand.at_, sequence_loop, List.map_map]
    rfl
  rw [shape]
  refine denotes_resolved sha256 context instanceKey _ _ _ fun own _ => ?_
  have composed := denotes_delayed sha256 context instanceKey own _ _
    (denotes_serial_list sha256 context instanceKey items (fun item => (expand item).at_ (path ++ [name])) tree holds)
  have same : (items.mapM tree >>= fun trees => Except.ok (sequenceTree own trees)) =
      ((items.mapM tree >>= fun trees => Except.ok (serialList trees)) >>= fun a => Except.ok (Term.delayed own a)) := by
    cases items.mapM tree <;> rfl
  rw [same]
  exact composed

theorem denotes_repeat (name : String) (count : TaskValue) (every : TaskDuration) (path : Path) (node : Expand)
    (tree : Nat → Except String Tree)
    (holds : ∀ iteration, Denotes sha256 context instanceKey (node.at_ (path ++ [name, toString iteration])) (tree iteration)) :
    Denotes sha256 context instanceKey ((expandRepeat context.dimensions name count every node).at_ path)
      (repeatCount context.dimensions count >>= fun iterations => every.resolve context.dimensions >>= fun interval =>
        (List.range' 1 iterations).mapM tree >>= fun trees => .ok (serialList (trees.map (.delayed interval)))) := by
  have shape : ((expandRepeat context.dimensions name count every node).at_ path) =
      fun builder incoming delay => repeatCount context.dimensions count >>= fun iterations =>
        (fun builder incoming delay => every.resolve context.dimensions >>= fun interval =>
          Step.serialList ((List.range' 1 iterations).map fun iteration =>
            Step.delayed interval (node.at_ (path ++ [name, toString iteration]))) builder incoming delay)
        builder incoming delay := by
    funext builder incoming delay
    rw [Expand.at_, expandRepeat]
    congr 1
    funext iterations
    cases resolved : every.resolve context.dimensions with
    | error message => rfl
    | ok interval =>
        change (if interval < 0 then _ else _) = Step.serialList _ builder incoming delay
        rw [if_neg (not_lt.mpr (duration_nonneg _ _ _ resolved)), repeat_loop]
  rw [shape]
  refine denotes_resolved sha256 context instanceKey _ _ _ fun iterations _ => ?_
  refine denotes_resolved sha256 context instanceKey _ _ _ fun interval _ => ?_
  have composed := denotes_serial_list sha256 context instanceKey (List.range' 1 iterations)
    (fun iteration => Step.delayed interval (node.at_ (path ++ [name, toString iteration])))
    (fun iteration => tree iteration >>= fun a => .ok (.delayed interval a))
    fun iteration _ => denotes_delayed sha256 context instanceKey interval _ _ (holds iteration)
  have same : ∀ iterations : List Nat,
      (iterations.mapM tree >>= fun trees => Except.ok (serialList (trees.map (Term.delayed interval)))) =
        ((iterations.mapM fun iteration => tree iteration >>= fun a => Except.ok (Term.delayed interval a)) >>= fun trees =>
          Except.ok (serialList trees)) := by
    intro iterations
    rw [mapM_mapped]
    cases iterations.mapM tree <;> rfl
  rw [same]
  exact composed

theorem denotes_joined (item : Item) (others : List Item) (own : Rat) (step : Item → Step)
    (tree : Item → Except String Tree)
    (holds : ∀ other ∈ item :: others, Denotes sha256 context instanceKey (step other) (tree other)) :
    Denotes sha256 context instanceKey
      (fun builder incoming delay => joinBranches ((item :: others).map step) incoming (delay + own) (builder, []))
      ((item :: others).mapM tree >>= parallelTree own) := by
  have shape : (fun builder incoming delay => joinBranches ((item :: others).map step) incoming (delay + own) (builder, [])) =
      Step.delayed own (Step.parallelList (step item) (others.map step)) := by
    funext builder incoming delay
    exact join_start (step item) (others.map step) incoming (delay + own) builder
  rw [shape]
  exact denotes_parallel_list sha256 context instanceKey item others step tree own holds

theorem denotes_parallel_node (name : String) (after : TaskDuration) (path : Path) (item : Item) (others : List Item)
    (expand : Item → Expand) (tree : Item → Except String Tree)
    (holds : ∀ other ∈ item :: others,
      Denotes sha256 context instanceKey ((expand other).at_ (path ++ [name])) (tree other)) :
    Denotes sha256 context instanceKey
      ((expandParallel context.dimensions name after ((item :: others).map expand)).at_ path)
      (after.resolve context.dimensions >>= fun own => (item :: others).mapM tree >>= parallelTree own) := by
  have shape : ((expandParallel context.dimensions name after ((item :: others).map expand)).at_ path) =
      fun builder incoming delay => after.resolve context.dimensions >>= fun own =>
        joinBranches ((item :: others).map fun other => (expand other).at_ (path ++ [name])) incoming (delay + own)
          (builder, []) := by
    funext builder incoming delay
    simp only [Expand.at_, expandParallel, expandBranches, joinBranches, List.map_map, List.foldlM_map]
    rfl
  rw [shape]
  exact denotes_resolved sha256 context instanceKey _ _ _ fun own _ =>
    denotes_joined sha256 context instanceKey item others own _ tree holds

theorem denotes_parallel_count (name : String) (after : TaskDuration) (count : TaskValue) (path : Path) (node : Expand)
    (tree : Nat → Except String Tree)
    (holds : ∀ index, Denotes sha256 context instanceKey (node.at_ (path ++ [name, toString index])) (tree index)) :
    Denotes sha256 context instanceKey ((expandParallelCount context.dimensions name after count node).at_ path)
      (after.resolve context.dimensions >>= fun own => branchCount context.dimensions count >>= fun copies =>
        (List.range' 1 copies).mapM tree >>= parallelTree own) := by
  have shape : ((expandParallelCount context.dimensions name after count node).at_ path) =
      fun builder incoming delay => after.resolve context.dimensions >>= fun own =>
        (fun builder incoming delay => branchCount context.dimensions count >>= fun copies =>
          joinBranches ((List.range' 1 copies).map fun index => node.at_ (path ++ [name, toString index])) incoming
            (delay + own) (builder, [])) builder incoming delay := by
    funext builder incoming delay
    simp only [Expand.at_, expandParallelCount, expandBranches, joinBranches, List.foldlM_map]
  rw [shape]
  refine denotes_resolved sha256 context instanceKey _ _ _ fun own _ => ?_
  refine denotes_resolved sha256 context instanceKey _ _ _ fun copies counted => ?_
  obtain ⟨others, enough⟩ : ∃ others, copies = others + 1 := by
    simp only [branchCount, bind_ok] at counted
    obtain ⟨resolved, _, checked⟩ := counted
    split at checked
    · rename_i bounds
      cases checked
      exact ⟨resolved.toNat - 1, by omega⟩
    · cases checked
  rw [enough, List.range'_succ]
  exact denotes_joined sha256 context instanceKey 1 _ own _ tree fun index _ => holds index

theorem denotes_member (member : String) (path : Path) (expand : Expand) (tree : Except String Tree)
    (holds : Denotes sha256 context instanceKey (expand.at_ (path ++ [member])) tree) :
    Denotes sha256 context instanceKey ((expandSequence context.dimensions member .zero [expand]).at_ path)
      (tree >>= fun a => .ok (sequenceTree 0 [a])) := by
  have composed := denotes_sequence sha256 context instanceKey member .zero path [()] (fun _ => expand) (fun _ => tree)
    fun _ _ => holds
  rw [zero_duration] at composed
  have same : (tree >>= fun a => Except.ok (sequenceTree 0 [a])) =
      ((Except.ok 0 : Except String Rat) >>= fun own => [()].mapM (fun _ => tree) >>= fun trees =>
        Except.ok (sequenceTree own trees)) := by
    cases tree <;> rfl
  rw [same]
  exact composed

theorem denotes_lane (config : ForEachConfig) (template : TaskNodeSpec) (expand : TaskNodeSpec → Expand)
    (lane : String × List (String × Nat)) (path : Path) (tree : String → TaskNodeSpec → Except String Tree)
    (holds : ∀ member spec, Denotes sha256 context instanceKey
      ((expand spec).at_ (path ++ [lane.1, member])) (tree member spec)) :
    Denotes sha256 context instanceKey ((expandLane context.dimensions config template expand lane).at_ path)
      (lane.2.mapM (bindMember config template) >>= fun members =>
        (members.mapM fun member => tree member.1 member.2 >>= fun a => .ok (sequenceTree 0 [a])) >>= fun trees =>
          .ok (sequenceTree 0 trees)) := by
  refine denotes_resolved sha256 context instanceKey _ (fun members : List (String × TaskNodeSpec) => (expandSequence context.dimensions lane.1 .zero
    (members.map fun member => expandSequence context.dimensions member.1 .zero [expand member.2])).at_ path) _
    fun members _ => ?_
  have composed := denotes_sequence sha256 context instanceKey lane.1 .zero path members
    (fun member => expandSequence context.dimensions member.1 .zero [expand member.2])
    (fun member => tree member.1 member.2 >>= fun a => .ok (sequenceTree 0 [a]))
    fun member _ => denotes_member sha256 context instanceKey member.1 _ _ _ (by
      simpa only [List.append_assoc, List.cons_append, List.nil_append] using holds member.1 member.2)
  rw [zero_duration] at composed
  exact composed

end Nodes

theorem slices_length {Value : Type} (sizes : List Nat) (values : List Value) :
    (slices sizes values).length = sizes.length := by
  induction sizes generalizing values with
  | nil => rfl
  | cons size sizes ih => simp [slices, ih]

theorem lanes_length (sha256 : Sha256) (config : ForEachConfig) :
    (expandedLanes sha256 config).length = min config.parallelism (config.values.values sha256).length := by
  simp [expandedLanes, laneValues, slices_length]

section Nodes

variable (sha256 : Sha256) (context : InstanceContext) (instanceKey : String)

theorem denotes_for_each (config : ForEachConfig) (template : TaskNodeSpec) (expand : TaskNodeSpec → Expand)
    (path : Path) (tree : String → String → TaskNodeSpec → Except String Tree)
    (holds : ∀ lane member spec, Denotes sha256 context instanceKey
      ((expand spec).at_ (path ++ [config.name, lane, member])) (tree lane member spec)) :
    Denotes sha256 context instanceKey ((expandForEach sha256 context.dimensions config template expand).at_ path)
      (config.after.resolve context.dimensions >>= fun laneDelay =>
        ((expandedLanes sha256 config).mapM fun lane =>
          lane.2.mapM (bindMember config template) >>= fun members =>
            (members.mapM fun member => tree lane.1 member.1 member.2 >>= fun a => .ok (sequenceTree 0 [a])) >>=
              fun trees => .ok (sequenceTree 0 trees)) >>= parallelTree laneDelay) := by
  refine denotes_resolved sha256 context instanceKey _ (fun laneDelay builder incoming delay =>
    if config.parallelism = 0 ∨ (config.values.values sha256).length = 0 then
      .error "integer division or modulo by zero"
    else
      expandBranches ((expandedLanes sha256 config).map fun lane =>
        (expandLane context.dimensions config template expand lane, path ++ [config.name])) incoming (delay + laneDelay)
        builder) _ fun laneDelay _ => ?_
  have counted := lanes_length sha256 config
  cases lanes : expandedLanes sha256 config with
  | nil =>
      have none_ : config.parallelism = 0 ∨ (config.values.values sha256).length = 0 := by
        rw [lanes, List.length_nil] at counted
        omega
      intro builder incoming delay grown outgoing
      constructor
      · intro taken
        simp only [if_pos none_] at taken
        cases taken
      · rintro ⟨_, absurd_, _⟩
        cases absurd_
  | cons lane others =>
      have some_ : ¬ (config.parallelism = 0 ∨ (config.values.values sha256).length = 0) := by
        rw [lanes, List.length_cons] at counted
        omega
      have joined := denotes_joined sha256 context instanceKey lane others laneDelay
        (fun lane => (expandLane context.dimensions config template expand lane).at_ (path ++ [config.name])) _
        fun other _ => denotes_lane sha256 context instanceKey config template expand other (path ++ [config.name])
          (tree other.1) fun member spec => by
            simpa only [List.append_assoc, List.cons_append, List.nil_append] using holds other.1 member spec
      simp only [if_neg some_]
      simpa only [expandBranches, joinBranches, List.foldlM_map, Expand.at_] using joined

theorem node_denotes (levels : Nat) (spec : TaskNodeSpec) (path : Path) :
    Denotes sha256 context instanceKey ((expandNode sha256 context instanceKey levels spec).at_ path)
      (unfold sha256 context.dimensions levels spec path) := by
  induction levels generalizing spec path with
  | zero =>
      intro builder incoming delay grown outgoing
      constructor
      · intro taken
        cases taken
      · rintro ⟨_, absurd_, _⟩
        cases absurd_
  | succ levels ih =>
      cases spec with
      | invokeNode config => exact denotes_invoke sha256 context instanceKey config path
      | runNode config => exact denotes_run sha256 context instanceKey config path
      | repeatNode name count every node =>
          exact denotes_repeat sha256 context instanceKey name count every path _ _ fun iteration => ih node _
      | parallelNode name after branch branches =>
          exact denotes_parallel_node sha256 context instanceKey name after path branch branches _ _ fun node _ => ih node _
      | parallelCount name after count node =>
          exact denotes_parallel_count sha256 context instanceKey name after count path _ _ fun index => ih node _
      | sequenceNode name after step steps =>
          exact denotes_sequence sha256 context instanceKey name after path (step :: steps) _ _ fun node _ => ih node _
      | forEachNode config template =>
          exact denotes_for_each sha256 context instanceKey config template _ path _ fun lane member bound => ih bound _

theorem roots_loop (roots : List TaskNodeSpec) (builder : GraphBuilder) (frontier : Frontier) :
    roots.foldlM (fun (state : GraphBuilder × Frontier) root =>
        expandNode sha256 context instanceKey maxGraphDepth root state.1 state.2 [] 0) (builder, frontier) =
      Step.serialList (roots.map fun root =>
        (expandNode sha256 context instanceKey maxGraphDepth root).at_ []) builder frontier 0 := by
  induction roots generalizing builder frontier with
  | nil => rfl
  | cons root rest ih =>
      rw [List.foldlM_cons]
      change _ = (expandNode sha256 context instanceKey maxGraphDepth root builder frontier [] 0 >>= fun state => _)
      cases expandNode sha256 context instanceKey maxGraphDepth root builder frontier [] 0 with
      | error message => rfl
      | ok state => exact ih state.1 state.2

theorem workflow_denotes (recipe : TaskRecipe) (grown : GraphBuilder) (outgoing : Frontier) :
    expandRoots sha256 context instanceKey recipe.workflow GraphBuilder.new = .ok (grown, outgoing) ↔
      ∃ tree, workflowTree sha256 recipe context.dimensions = .ok tree ∧
        (tree.rows [] 0).foldlM (emitRow sha256 context instanceKey) GraphBuilder.new = .ok grown ∧
        tree.exits [] = outgoing := by
  rw [expandRoots, roots_loop]
  exact denotes_serial_list sha256 context instanceKey recipe.workflow _ _
    (fun root _ => node_denotes sha256 context instanceKey maxGraphDepth root []) GraphBuilder.new [] 0 grown outgoing

end Nodes

end LlmperfOrchestrator.Compiler

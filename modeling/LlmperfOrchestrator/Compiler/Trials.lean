import LlmperfOrchestrator.Compiler.Refinement

set_option autoImplicit false

namespace LlmperfOrchestrator.Compiler

open Tables SeriesParallel Outcomes

abbrev Outline := Row NodeId Rat (ExecutionKind × List NodeId)

def CompiledNodeRow.outline (row : CompiledNodeRow) : Outline :=
  { node := row.nodeId, dependencies := row.dependencies, after := row.afterSeconds,
    data := (row.executionKind, row.messageSources) }

def outlineOf (row : TreeRow) : Outline := { row with data := (row.data.executionKind, row.data.messageSources) }

theorem outline_nodes (rows : List CompiledNodeRow) :
    (rows.map CompiledNodeRow.outline).map Row.node = rows.map CompiledNodeRow.nodeId := by
  rw [List.map_map]
  rfl

section Emission

variable (sha256 : Sha256) (context : InstanceContext) (instanceKey : String)

-- The checks of GraphBuilder.emit that do not look at the builder.
structure Emittable (row : TreeRow) : Prop where
  named : row.node ≠ "" ∧ row.node.length ≤ 120
  payload : ∀ payloadId, row.data.payloadId = some payloadId → (context.payloads.get payloadId).isSome
  batch : row.data.payloadId = none → row.data.executionKind = .batch
  seeded : ∃ seed, context.resolveRunSeed sha256 row.node row.data.prefixSeed = .ok seed

theorem row_seed_ok (emission : Emission) :
    (∃ seed, rowSeed sha256 context emission = .ok seed) ↔
      ∀ payloadId, emission.payloadId = some payloadId → (context.payloads.get payloadId).isSome := by
  simp only [rowSeed]
  cases emission.payloadId with
  | none => simp
  | some payloadId =>
      simp only [InstanceContext.payloadSeed, Option.some.injEq, forall_eq']
      cases context.payloads.get payloadId <;> simp

theorem emit_appends (builder grown : GraphBuilder) (row : TreeRow)
    (done : emitRow sha256 context instanceKey builder row = .ok grown) :
    ∃ seed value, context.resolveRunSeed sha256 row.node row.data.prefixSeed = .ok seed ∧
      rowSeed sha256 context (emission row seed) = .ok value ∧ row.node ≠ "" ∧ row.node.length ≤ 120 ∧
      (row.data.payloadId = none → row.data.executionKind = .batch) ∧
      grown.nodes = builder.nodes ++ [compiledRow context instanceKey (emission row seed) value] := by
  obtain ⟨seed, sown, emitted⟩ := (bind_ok _ _ _).mp done
  simp only [GraphBuilder.emit] at emitted
  split at emitted
  · cases emitted
  rename_i named
  split at emitted
  · cases emitted
  split at emitted
  · cases emitted
  split at emitted
  · cases emitted
  split at emitted
  · cases emitted
  rename_i atomic
  cases read : rowSeed sha256 context (emission row seed) with
  | error message => simp [read] at emitted
  | ok value =>
      simp only [read, Except.ok.injEq] at emitted
      refine ⟨seed, value, sown, read, fun blank => named (.inl blank), Nat.le_of_not_lt fun long => named (.inr long), ?_, ?_⟩
      · intro absent
        cases kind : row.data.executionKind with
        | atomic => exact absurd ⟨kind, absent⟩ atomic
        | batch => rfl
      · rw [← emitted]
        rfl

theorem emit_ok (builder grown : GraphBuilder) (row : TreeRow) (done : emitRow sha256 context instanceKey builder row = .ok grown) :
    Emittable sha256 context row ∧
      grown.nodes.map CompiledNodeRow.outline = builder.nodes.map CompiledNodeRow.outline ++ [outlineOf row] := by
  obtain ⟨seed, value, sown, read, named, short, batch, appended⟩ := emit_appends sha256 context instanceKey builder grown row done
  have payload := (row_seed_ok sha256 context _).mp ⟨value, read⟩
  exact ⟨⟨⟨named, short⟩, payload, batch, seed, sown⟩, by rw [appended, List.map_append]; rfl⟩

theorem emit_total (builder : GraphBuilder) (row : TreeRow) (emittable : Emittable sha256 context row)
    (delay : 0 ≤ row.after) (fresh : row.node ∉ builder.nodes.map CompiledNodeRow.nodeId)
    (room : builder.nodes.length < maxNodesPerInstance) :
    ∃ grown, emitRow sha256 context instanceKey builder row = .ok grown := by
  obtain ⟨seed, sown⟩ := emittable.seeded
  obtain ⟨value, read⟩ := (row_seed_ok sha256 context (emission row seed)).mpr emittable.payload
  have named : ¬ ((emission row seed).nodeId = "" ∨ 120 < (emission row seed).nodeId.length) := by
    rintro (blank | long)
    · exact emittable.named.1 blank
    · exact absurd long (Nat.not_lt.mpr emittable.named.2)
  have atomic : ¬ ((emission row seed).executionKind = .atomic ∧ (emission row seed).payloadId = none) := by
    rintro ⟨kind, none_⟩
    cases kind.symm.trans (emittable.batch none_)
  have known : (emission row seed).nodeId ∉ builder.nodes.map CompiledNodeRow.nodeId := fresh
  have negative : ¬ (emission row seed).afterSeconds < 0 := not_lt.mpr delay
  rw [emitRow, sown]
  change ∃ grown, builder.emit sha256 context instanceKey (emission row seed) = .ok grown
  rw [GraphBuilder.emit, dif_neg named, dif_neg known, dif_neg negative, dif_neg (Nat.not_le.mpr room),
    if_neg atomic, read]
  exact ⟨_, rfl⟩

theorem rows_emitted (rows : List TreeRow) (builder grown : GraphBuilder)
    (done : rows.foldlM (emitRow sha256 context instanceKey) builder = .ok grown) :
    (∀ row ∈ rows, Emittable sha256 context row) ∧
      grown.nodes.map CompiledNodeRow.outline =
        builder.nodes.map CompiledNodeRow.outline ++ rows.map outlineOf := by
  induction rows generalizing builder with
  | nil =>
      cases (fold_nil _ _ _).mp done
      simp
  | cons row rest ih =>
      obtain ⟨next, taken, later⟩ := (fold_ok _ _ _ _ _).mp done
      obtain ⟨emittable, first⟩ := emit_ok sha256 context instanceKey builder next row taken
      obtain ⟨others, grew⟩ := ih next later
      exact ⟨List.forall_mem_cons.mpr ⟨emittable, others⟩, by rw [grew, first, List.append_assoc]; rfl⟩

theorem rows_emit (rows : List TreeRow) (builder : GraphBuilder) (emittable : ∀ row ∈ rows, Emittable sha256 context row)
    (delays : ∀ row ∈ rows, 0 ≤ row.after)
    (unique : (builder.nodes.map CompiledNodeRow.nodeId ++ rows.map Row.node).Nodup)
    (room : builder.nodes.length + rows.length ≤ maxNodesPerInstance) :
    ∃ grown, rows.foldlM (emitRow sha256 context instanceKey) builder = .ok grown := by
  induction rows generalizing builder with
  | nil => exact ⟨builder, rfl⟩
  | cons row rest ih =>
      have apart := (List.nodup_append'.mp unique).2.2
      obtain ⟨next, taken⟩ := emit_total sha256 context instanceKey builder row (emittable row List.mem_cons_self)
        (delays row List.mem_cons_self) (fun known => apart known List.mem_cons_self)
        (by simp only [List.length_cons] at room; omega)
      have grew := (emit_ok sha256 context instanceKey builder next row taken).2
      have names : next.nodes.map CompiledNodeRow.nodeId = builder.nodes.map CompiledNodeRow.nodeId ++ [row.node] := by
        rw [← outline_nodes, grew, List.map_append, outline_nodes]
        rfl
      have size : next.nodes.length = builder.nodes.length + 1 := by
        simpa using congrArg List.length names
      obtain ⟨grown, done⟩ := ih next (fun other member => emittable other (List.mem_cons_of_mem row member))
        (fun other member => delays other (List.mem_cons_of_mem row member))
        (by rw [names, List.append_assoc]; exact unique)
        (by simp only [List.length_cons] at room; omega)
      exact ⟨grown, (fold_ok _ _ _ _ _).mpr ⟨next, taken, done⟩⟩

end Emission

theorem outlines_nodes (rows : List TreeRow) : (rows.map outlineOf).map Row.node = rows.map Row.node := by
  rw [List.map_map]
  rfl

theorem check_row_outline (requiresHistory : Bool) (state : ReferenceState) (a b : CompiledNodeRow)
    (same : a.outline = b.outline) : checkRow requiresHistory state a = checkRow requiresHistory state b := by
  have node : a.nodeId = b.nodeId := congrArg Row.node same
  have dependencies : a.dependencies = b.dependencies := congrArg Row.dependencies same
  have kind : a.executionKind = b.executionKind := congrArg (fun row => row.data.1) same
  have sources : a.messageSources = b.messageSources := congrArg (fun row => row.data.2) same
  simp only [checkRow, node, dependencies, kind, sources]

theorem references_outline (a b : List CompiledNodeRow)
    (same : a.map CompiledNodeRow.outline = b.map CompiledNodeRow.outline) : checkReferences a = checkReferences b := by
  have history : a.any (fun row => !row.messageSources.isEmpty) = b.any fun row => !row.messageSources.isEmpty := by
    have both := congrArg (List.any · fun outline : Outline => !outline.data.2.isEmpty) same
    simpa only [List.any_map, Function.comp_def, CompiledNodeRow.outline] using both
  have loop : ∀ (requiresHistory : Bool) (state : ReferenceState) (a b : List CompiledNodeRow),
      a.map CompiledNodeRow.outline = b.map CompiledNodeRow.outline →
      a.foldlM (checkRow requiresHistory) state = b.foldlM (checkRow requiresHistory) state := by
    intro requiresHistory state a
    induction a generalizing state with
    | nil =>
        intro b same
        rw [List.map_nil, eq_comm, List.map_eq_nil_iff] at same
        rw [same]
    | cons row rest ih =>
        intro b same
        cases b with
        | nil => cases same
        | cons other others =>
            simp only [List.map_cons, List.cons.injEq] at same
            rw [List.foldlM_cons, List.foldlM_cons, check_row_outline requiresHistory state row other same.1]
            congr 1
            funext next
            exact ih next others same.2
  rw [checkReferences, checkReferences, history]
  exact loop _ _ a b same

theorem check_row_ok (requiresHistory : Bool) (state next : ReferenceState) (row : CompiledNodeRow)
    (checked : checkRow requiresHistory state row = .ok next) :
    (∀ dependency ∈ row.dependencies, (Dict.get dependency state.priorNodes).isSome) ∧
      next.priorNodes = Dict.put row.nodeId row.executionKind state.priorNodes := by
  simp only [checkRow] at checked
  split at checked
  · cases checked
  · rename_i known
    obtain ⟨_, _, done⟩ := (bind_ok _ _ _).mp checked
    cases done
    refine ⟨fun dependency needed => ?_, rfl⟩
    simp only [List.any_eq_true, not_exists, not_and, Bool.not_eq_true] at known
    simpa using known dependency needed

theorem references_earlier (requiresHistory : Bool) (rows : List CompiledNodeRow) (state last : ReferenceState)
    (done : rows.foldlM (checkRow requiresHistory) state = .ok last) (early late : List CompiledNodeRow)
    (row : CompiledNodeRow) (split : rows = early ++ row :: late) (dependency : NodeId)
    (needed : dependency ∈ row.dependencies) :
    (Dict.get dependency state.priorNodes).isSome ∨ dependency ∈ early.map CompiledNodeRow.nodeId := by
  induction early generalizing rows state with
  | nil =>
      obtain ⟨next, checked, _⟩ := (fold_ok _ _ _ _ _).mp (split ▸ done)
      exact .inl ((check_row_ok requiresHistory state next row checked).1 dependency needed)
  | cons head early ih =>
      obtain ⟨next, checked, later⟩ := (fold_ok _ _ _ _ _).mp (split ▸ done)
      have grew := (check_row_ok requiresHistory state next head checked).2
      rcases ih (early ++ row :: late) next later rfl with known | inEarly
      · rw [grew, dict_get_put] at known
        by_cases here : dependency = head.nodeId
        · exact .inr (by simp [here])
        · exact .inl (by simpa [here] using known)
      · exact .inr (List.mem_cons_of_mem _ inEarly)

theorem dependencies_earlier (rows : List CompiledNodeRow) (last : ReferenceState)
    (checked : checkReferences rows = .ok last) (early late : List CompiledNodeRow) (row : CompiledNodeRow)
    (split : rows = early ++ row :: late) :
    ∀ dependency ∈ row.dependencies, dependency ∈ early.map CompiledNodeRow.nodeId := by
  intro dependency needed
  rcases references_earlier _ rows ⟨[], []⟩ last checked early late row split dependency needed with known | inEarly
  · cases known
  · exact inEarly

-- Seeds differ between trials; whether they resolve does not, whatever the hash.
theorem seed_trial (sha256 hash : Sha256) (recipe : TaskRecipe) (dimensions : Dimensions) (trial other : Nat)
    (nodeId : NodeId) (prefixSeed : Option PrefixSeed)
    (seeded : ∃ seed, (instanceContext recipe dimensions trial).resolveRunSeed sha256 nodeId prefixSeed = .ok seed) :
    ∃ seed, (instanceContext recipe dimensions other).resolveRunSeed hash nodeId prefixSeed = .ok seed := by
  cases prefixSeed with
  | none => exact ⟨none, rfl⟩
  | some value =>
      cases value with
      | literal seed => exact seeded
      | dimension name => exact seeded
      | pick pool => exact ⟨_, rfl⟩

theorem emittable_trial (sha256 hash : Sha256) (recipe : TaskRecipe) (dimensions : Dimensions) (trial other : Nat)
    (row : TreeRow) (emittable : Emittable sha256 (instanceContext recipe dimensions trial) row) :
    Emittable hash (instanceContext recipe dimensions other) row :=
  ⟨emittable.named, emittable.payload, emittable.batch,
    seed_trial sha256 hash recipe dimensions trial other row.node row.data.prefixSeed emittable.seeded⟩

structure Fits (sha256 : Sha256) (context : InstanceContext) (tree : Tree) : Prop where
  emittable : ∀ leaf ∈ tree.leaves, Emittable sha256 context leaf
  unique : tree.nodes.Nodup
  ordered : Ordered tree.leaves
  room : tree.leaves.length ≤ maxNodesPerInstance

theorem emittable_leaf (sha256 : Sha256) (context : InstanceContext) (leaf : TreeRow) (entry : Frontier) (delay : Rat) :
    Emittable sha256 context (leaf.enter entry delay) ↔ Emittable sha256 context leaf :=
  ⟨fun holds => ⟨holds.named, holds.payload, holds.batch, holds.seeded⟩,
    fun holds => ⟨holds.named, holds.payload, holds.batch, holds.seeded⟩⟩

theorem ordered_rows (rows : List CompiledNodeRow) (unique : (rows.map CompiledNodeRow.nodeId).Nodup)
    (earlier : ∀ early row late, rows = early ++ row :: late →
      ∀ dependency ∈ row.dependencies, dependency ∈ early.map CompiledNodeRow.nodeId) :
    Ordered (rows.map CompiledNodeRow.outline) := by
  have behind : ∀ early row late, rows = early ++ row :: late →
      ∀ other ∈ row :: late, other.nodeId ∉ row.dependencies := by
    intro early row late split other member needed
    have known := earlier early row late split _ needed
    rw [split, List.map_append, List.nodup_append'] at unique
    exact unique.2.2 known (List.mem_map_of_mem member)
  refine ⟨fun outline member => ?_, ?_⟩
  · obtain ⟨row, inRows, rfl⟩ := List.mem_map.mp member
    obtain ⟨early, late, split⟩ := List.append_of_mem inRows
    exact behind early row late split row List.mem_cons_self
  · rw [List.pairwise_map]
    have suffixes : ∀ late early, rows = early ++ late →
        late.Pairwise fun a b => b.outline.node ∉ a.outline.dependencies := by
      intro late
      induction late with
      | nil => exact fun _ _ => .nil
      | cons row late ih =>
          intro early split
          exact .cons (fun other member => behind early row late split other (List.mem_cons_of_mem row member))
            (ih (early ++ [row]) (by simpa using split))
    exact suffixes rows [] rfl

section Graph

variable (sha256 : Sha256) (recipe : TaskRecipe) (dimensions : Dimensions) (trial : Nat) (instanceKey : String)

theorem graph_tree (rows : List CompiledNodeRow)
    (expanded : expandGraph sha256 (instanceContext recipe dimensions trial) instanceKey recipe.workflow = .ok rows) :
    ∃ tree, workflowTree sha256 recipe dimensions = .ok tree ∧
      rows.map CompiledNodeRow.outline = (tree.rows [] 0).map outlineOf ∧
      Fits sha256 (instanceContext recipe dimensions trial) tree ∧
      (∃ state, checkReferences rows = .ok state) ∧ ∀ row ∈ rows, 0 ≤ row.afterSeconds := by
  obtain ⟨⟨builder, frontier⟩, taken, checked⟩ := (bind_ok _ _ _).mp expanded
  obtain ⟨state, referred, done⟩ := (bind_ok _ _ _).mp checked
  cases done
  obtain ⟨tree, isTree, emitted, _⟩ := (workflow_denotes sha256 _ instanceKey recipe builder frontier).mp taken
  obtain ⟨emittable, outlines⟩ := rows_emitted sha256 _ instanceKey _ _ _ emitted
  have named : builder.nodes.map CompiledNodeRow.nodeId = tree.nodes := by
    rw [← outline_nodes, outlines, List.map_append, outlines_nodes, rows_nodes]
    rfl
  have outlines : builder.nodes.map CompiledNodeRow.outline = (tree.rows [] 0).map outlineOf := outlines
  refine ⟨tree, isTree, outlines, ⟨fun leaf member => ?_, named ▸ builder.unique, ?_, ?_⟩, ⟨state, referred⟩, builder.delays⟩
  · obtain ⟨row, there, entry, delay, rfl⟩ := leaf_row tree [] (0 : Rat) leaf member
    exact (emittable_leaf sha256 _ leaf entry delay).mp (emittable _ there)
  · have ordered := ordered_rows builder.nodes builder.unique fun early row late split =>
      dependencies_earlier builder.nodes state referred early late row split
    rw [outlines] at ordered
    refine leaves_ordered tree [] (0 : Rat) ⟨fun row member => ?_, ?_⟩
    · exact ordered.1 (outlineOf row) (List.mem_map_of_mem member)
    · exact List.pairwise_map.mp ordered.2
  · have size := congrArg List.length named
    rw [List.length_map, Term.nodes, List.length_map] at size
    exact size ▸ builder.bounded

theorem rows_of_fits (tree : Tree) (context : InstanceContext) (builder : GraphBuilder) (frontier : Frontier)
    (inherited : Rat) (fits : Fits sha256 context tree) (nonneg : tree.Nonnegative) (entry : 0 ≤ inherited)
    (apart : List.Disjoint (builder.nodes.map CompiledNodeRow.nodeId) tree.nodes)
    (room : builder.nodes.length + tree.leaves.length ≤ maxNodesPerInstance) :
    ∃ grown, (tree.rows frontier inherited).foldlM (emitRow sha256 context instanceKey) builder = .ok grown := by
  refine rows_emit sha256 context instanceKey _ builder (fun row member => ?_)
    (rows_nonneg tree frontier inherited nonneg entry) ?_ ?_
  · obtain ⟨leaf, there, before, delay, rfl⟩ := row_leaf tree frontier inherited row member
    exact (emittable_leaf sha256 context leaf before delay).mpr (fits.emittable leaf there)
  · rw [rows_nodes]
    exact List.nodup_append'.mpr ⟨builder.unique, fits.unique, apart⟩
  · have size := congrArg List.length (rows_nodes tree frontier inherited)
    rw [List.length_map, Term.nodes, List.length_map] at size
    rw [size]
    exact room

end Graph

end LlmperfOrchestrator.Compiler

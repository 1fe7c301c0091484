import LlmperfOrchestrator.Compiler.Validation

set_option autoImplicit false

namespace LlmperfOrchestrator.Compiler

open Tables SeriesParallel Outcomes Relation

structure CompiledInstanceRow where
  instanceKey : String
  dimensions : Dimensions
  trialIndex : Nat
deriving DecidableEq, Repr

-- What the compiler reads of runner_template["benchmark"].
structure WorkerTemplate where
  hasSteps : Bool
  repeats : Nat
  adapter : Option String
  samplingParams : List String
deriving DecidableEq, Repr

def validateWorkerTemplate (nodes : List CompiledNodeRow) (benchmark : WorkerTemplate) : Except String Unit :=
  if (nodes.any fun node => node.executionKind == .atomic) ∧ (benchmark.hasSteps ∨ benchmark.repeats ≠ 1) then
    .error "invoke requires a single Worker template; use run for request steps or repetition"
  else if nodes.any fun node => !node.messageSources.isEmpty then
    if benchmark.adapter = some "vertexai" then
      .error "VertexAI prediction adapter does not support structured message reuse"
    else if "messages" ∈ benchmark.samplingParams then
      .error "Reused messages cannot be overridden by sampling messages"
    else .ok ()
  else .ok ()

structure CompilationTable where
  instances : List CompiledInstanceRow
  nodes : List CompiledNodeRow
  unique : (instances.map CompiledInstanceRow.instanceKey).Nodup
  known : ∀ node ∈ nodes, node.instanceKey ∈ instances.map CompiledInstanceRow.instanceKey

namespace CompilationTable

def build (instances : List CompiledInstanceRow) (nodes : List CompiledNodeRow) : Except String CompilationTable :=
  if unique : (instances.map CompiledInstanceRow.instanceKey).Nodup then
    if known : ∀ node ∈ nodes, node.instanceKey ∈ instances.map CompiledInstanceRow.instanceKey then
      .ok ⟨instances, nodes, unique, known⟩
    else .error "compiled node references unknown instance"
  else .error "compiled task instance keys must be unique"

def nodesFor (table : CompilationTable) (instanceKey : String) : List CompiledNodeRow :=
  table.nodes.filter fun node => node.instanceKey = instanceKey

end CompilationTable

def instanceKeyOf (dimensions : Dimensions) (trialIndex : Nat) : String :=
  let coordinates := coordinatesText dimensions
  if coordinates = "" then s!"trial={trialIndex}" else s!"{coordinates};trial={trialIndex}"

section Compile

variable (sha256 : Sha256) (recipe : TaskRecipe) (benchmark : WorkerTemplate)

def compileInstance (entry : Dimensions × Nat) : Except String (CompiledInstanceRow × List CompiledNodeRow) := do
  let instanceKey := instanceKeyOf entry.1 entry.2
  let nodes ← expandGraph sha256 (instanceContext recipe entry.1 entry.2) instanceKey recipe.workflow
  validateWorkerTemplate nodes benchmark
  .ok (⟨instanceKey, entry.1, entry.2⟩, nodes)

def compiledInstances : List (Dimensions × Nat) :=
  (matrixCoordinates recipe).flatMap fun dimensions => (List.range recipe.instances.trials).map fun trial => (dimensions, trial)

-- TaskCompiler.compile
def compile : Except String CompilationTable := do
  validateGraph recipe
  let compiled ← (compiledInstances recipe).mapM (compileInstance sha256 recipe benchmark)
  CompilationTable.build (compiled.map Prod.fst) (compiled.flatMap Prod.snd)

end Compile

theorem expanded_rows (sha256 : Sha256) (recipe : TaskRecipe) (dimensions : Dimensions) (trial : Nat)
    (instanceKey : String) (rows : List CompiledNodeRow) (holds : CompiledNodeRow → Prop)
    (each : ∀ (row : TreeRow) (seed : Option Nat) (value : Nat),
      (instanceContext recipe dimensions trial).resolveRunSeed sha256 row.node row.data.prefixSeed = .ok seed →
      rowSeed sha256 (instanceContext recipe dimensions trial) (emission row seed) = .ok value →
      (row.data.payloadId = none → row.data.executionKind = .batch) →
      holds (compiledRow (instanceContext recipe dimensions trial) instanceKey (emission row seed) value))
    (expanded : expandGraph sha256 (instanceContext recipe dimensions trial) instanceKey recipe.workflow = .ok rows) :
    ∀ row ∈ rows, holds row := by
  obtain ⟨⟨builder, frontier⟩, taken, checked⟩ := (bind_ok _ _ _).mp expanded
  obtain ⟨state, _, done⟩ := (bind_ok _ _ _).mp checked
  cases done
  obtain ⟨tree, _, emitted, _⟩ := (workflow_denotes sha256 _ instanceKey recipe builder frontier).mp taken
  apply fold_keeps _ (fun builder => ∀ row ∈ builder.nodes, holds row) _ _ _ _ _ emitted
  · intro builder row next held emitted
    obtain ⟨seed, value, sown, read, _, _, batch, appended⟩ := emit_appends sha256 _ instanceKey builder next row emitted
    intro other member
    rw [appended] at member
    cases List.mem_append.mp member with
    | inl known => exact held other known
    | inr here =>
        rw [List.mem_singleton.mp here]
        exact each row seed value sown read batch
  · intro row absent
    cases absent

theorem expanded_pairs (sha256 : Sha256) (recipe : TaskRecipe) (dimensions : Dimensions) (trial : Nat)
    (instanceKey : String) (rows : List CompiledNodeRow)
    (expanded : expandGraph sha256 (instanceContext recipe dimensions trial) instanceKey recipe.workflow = .ok rows) :
    ∃ tree, workflowTree sha256 recipe dimensions = .ok tree ∧
      List.Forall₂ (fun row compiled => ∃ seed value,
        (instanceContext recipe dimensions trial).resolveRunSeed sha256 row.node row.data.prefixSeed = .ok seed ∧
          compiled = compiledRow (instanceContext recipe dimensions trial) instanceKey (emission row seed) value)
        (tree.rows [] 0) rows := by
  obtain ⟨⟨builder, frontier⟩, taken, checked⟩ := (bind_ok _ _ _).mp expanded
  obtain ⟨state, _, done⟩ := (bind_ok _ _ _).mp checked
  cases done
  obtain ⟨tree, isTree, emitted, _⟩ := (workflow_denotes sha256 _ instanceKey recipe builder frontier).mp taken
  refine ⟨tree, isTree, ?_⟩
  have grown : ∀ (leaves : List TreeRow) (start : GraphBuilder),
      leaves.foldlM (emitRow sha256 (instanceContext recipe dimensions trial) instanceKey) start = .ok builder →
        ∃ added, builder.nodes = start.nodes ++ added ∧ List.Forall₂ (fun row compiled => ∃ seed value,
          (instanceContext recipe dimensions trial).resolveRunSeed sha256 row.node row.data.prefixSeed = .ok seed ∧
            compiled = compiledRow (instanceContext recipe dimensions trial) instanceKey (emission row seed) value) leaves added := by
    intro leaves
    induction leaves with
    | nil =>
        intro start done
        cases (fold_nil _ _ _).mp done
        exact ⟨[], (List.append_nil _).symm, .nil⟩
    | cons leaf rest ih =>
        intro start done
        obtain ⟨next, appended, later⟩ := (fold_ok _ _ _ _ _).mp done
        obtain ⟨seed, value, sown, _, _, _, _, nodes⟩ := emit_appends sha256 _ instanceKey start next leaf appended
        obtain ⟨added, grew, pairs⟩ := ih next later
        exact ⟨_ :: added, by rw [grew, nodes, List.append_assoc]; rfl, .cons ⟨seed, value, sown, rfl⟩ pairs⟩
  obtain ⟨added, grew, pairs⟩ := grown _ GraphBuilder.new emitted
  rw [show builder.nodes = added from grew]
  exact pairs

theorem expanded_reads {Value : Type} (sha256 : Sha256) (recipe : TaskRecipe) (dimensions : Dimensions) (trial : Nat)
    (instanceKey : String) (rows : List CompiledNodeRow) (read : CompiledNodeRow → Value) (view : TreeRow → Value)
    (each : ∀ (row : TreeRow) (seed : Option Nat) (value : Nat),
      read (compiledRow (instanceContext recipe dimensions trial) instanceKey (emission row seed) value) = view row)
    (expanded : expandGraph sha256 (instanceContext recipe dimensions trial) instanceKey recipe.workflow = .ok rows) :
    ∃ tree, workflowTree sha256 recipe dimensions = .ok tree ∧ rows.map read = (tree.rows [] 0).map view := by
  obtain ⟨tree, isTree, pairs⟩ := expanded_pairs sha256 recipe dimensions trial instanceKey rows expanded
  refine ⟨tree, isTree, ?_⟩
  clear expanded
  generalize tree.rows [] 0 = leaves at pairs ⊢
  induction pairs with
  | nil => rfl
  | cons here _ ih =>
      obtain ⟨seed, value, _, rfl⟩ := here
      rw [List.map_cons, List.map_cons, ih, each]

theorem expanded_instance_key (sha256 : Sha256) (recipe : TaskRecipe) (dimensions : Dimensions) (trial : Nat)
    (instanceKey : String) (rows : List CompiledNodeRow)
    (expanded : expandGraph sha256 (instanceContext recipe dimensions trial) instanceKey recipe.workflow = .ok rows) :
    ∀ row ∈ rows, row.instanceKey = instanceKey := by
  apply expanded_rows sha256 recipe dimensions trial instanceKey rows (fun row => row.instanceKey = instanceKey) _ expanded
  intro row seed value _ _ _
  rfl

theorem table_built (instances : List CompiledInstanceRow) (nodes : List CompiledNodeRow) (table : CompilationTable)
    (built : CompilationTable.build instances nodes = .ok table) : table.instances = instances ∧ table.nodes = nodes := by
  rw [CompilationTable.build] at built
  split at built
  · split at built
    · cases built
      exact ⟨rfl, rfl⟩
    · cases built
  · cases built

theorem instance_compiled (sha256 : Sha256) (recipe : TaskRecipe) (benchmark : WorkerTemplate) (entry : Dimensions × Nat)
    (result : CompiledInstanceRow × List CompiledNodeRow)
    (done : compileInstance sha256 recipe benchmark entry = .ok result) :
    result.1 = ⟨instanceKeyOf entry.1 entry.2, entry.1, entry.2⟩ ∧
      expandGraph sha256 (instanceContext recipe entry.1 entry.2) (instanceKeyOf entry.1 entry.2) recipe.workflow =
        .ok result.2 := by
  obtain ⟨nodes, expanded, done⟩ := (bind_ok _ _ _).mp done
  obtain ⟨_, _, same⟩ := (bind_ok _ _ _).mp done
  cases same
  exact ⟨rfl, expanded⟩

theorem filter_flatMap_of_key (results : List (CompiledInstanceRow × List CompiledNodeRow))
    (unique : (results.map fun result => result.1.instanceKey).Nodup)
    (keyed : ∀ result ∈ results, ∀ node ∈ result.2, node.instanceKey = result.1.instanceKey)
    (result : CompiledInstanceRow × List CompiledNodeRow) (member : result ∈ results) :
    (results.flatMap Prod.snd).filter (fun node => node.instanceKey = result.1.instanceKey) = result.2 := by
  obtain ⟨early, late, rfl⟩ := List.append_of_mem member
  simp only [List.map_append, List.map_cons, List.nodup_append', List.nodup_cons, List.disjoint_cons_right] at unique
  obtain ⟨_, ⟨laterFresh, _⟩, earlyFresh, _⟩ := unique
  have none_ : ∀ others : List (CompiledInstanceRow × List CompiledNodeRow), (∀ other ∈ others,
      other ∈ early ++ result :: late) → result.1.instanceKey ∉ others.map (fun other => other.1.instanceKey) →
      (others.flatMap Prod.snd).filter (fun node => node.instanceKey = result.1.instanceKey) = [] := by
    intro others inside fresh
    refine List.filter_eq_nil_iff.mpr fun node inOthers same => fresh ?_
    obtain ⟨other, there, inNodes⟩ := List.mem_flatMap.mp inOthers
    have key := keyed other (inside other there) node inNodes
    exact List.mem_map.mpr ⟨other, there, key.symm.trans (by simpa using same)⟩
  have all : result.2.filter (fun node => node.instanceKey = result.1.instanceKey) = result.2 :=
    List.filter_eq_self.mpr fun node inNodes => by simpa using keyed result member node inNodes
  rw [List.flatMap_append, List.flatMap_cons, List.filter_append, List.filter_append, all,
    none_ early (fun other there => List.mem_append_left _ there) earlyFresh,
    none_ late (fun other there => List.mem_append_right _ (List.mem_cons_of_mem _ there)) laterFresh]
  simp

theorem compiled_nodes (sha256 : Sha256) (recipe : TaskRecipe) (benchmark : WorkerTemplate) (table : CompilationTable)
    (compiled : compile sha256 recipe benchmark = .ok table) (row : CompiledInstanceRow) (member : row ∈ table.instances) :
    (row.dimensions, row.trialIndex) ∈ compiledInstances recipe ∧
      row.instanceKey = instanceKeyOf row.dimensions row.trialIndex ∧
      expandGraph sha256 (instanceContext recipe row.dimensions row.trialIndex) row.instanceKey recipe.workflow =
        .ok (table.nodesFor row.instanceKey) := by
  obtain ⟨_, _, compiled⟩ := (bind_ok _ _ _).mp compiled
  obtain ⟨results, mapped, built⟩ := (bind_ok _ _ _).mp compiled
  obtain ⟨sameInstances, sameNodes⟩ := table_built _ _ _ built
  have unique := table.unique
  rw [sameInstances] at member unique
  have pairs := mapM_pairs _ _ _ mapped
  obtain ⟨result, inResults, rfl⟩ := List.mem_map.mp member
  obtain ⟨entry, inEntries, done⟩ := paired_right pairs result inResults
  obtain ⟨isRow, expanded⟩ := instance_compiled sha256 recipe benchmark entry result done
  have nodes : table.nodesFor result.1.instanceKey = result.2 := by
    rw [CompilationTable.nodesFor, sameNodes]
    refine filter_flatMap_of_key results (by simpa [Function.comp_def] using unique) (fun other there node inNodes => ?_) result inResults
    obtain ⟨source, _, otherDone⟩ := paired_right pairs other there
    obtain ⟨isOther, otherExpanded⟩ := instance_compiled sha256 recipe benchmark source other otherDone
    rw [isOther]
    exact expanded_instance_key sha256 recipe source.1 source.2 _ _ otherExpanded node inNodes
  rw [nodes, isRow]
  exact ⟨inEntries, rfl, expanded⟩

theorem compiled_instance (sha256 : Sha256) (recipe : TaskRecipe) (benchmark : WorkerTemplate) (table : CompilationTable)
    (compiled : compile sha256 recipe benchmark = .ok table) (entry : Dimensions × Nat)
    (member : entry ∈ compiledInstances recipe) :
    ⟨instanceKeyOf entry.1 entry.2, entry.1, entry.2⟩ ∈ table.instances := by
  obtain ⟨_, _, compiled⟩ := (bind_ok _ _ _).mp compiled
  obtain ⟨results, mapped, built⟩ := (bind_ok _ _ _).mp compiled
  obtain ⟨result, inResults, done⟩ := paired_left (mapM_pairs _ _ _ mapped) entry member
  rw [(table_built _ _ _ built).1, ← (instance_compiled sha256 recipe benchmark entry result done).1]
  exact List.mem_map_of_mem inResults

end LlmperfOrchestrator.Compiler

import LlmperfOrchestrator.Compiler.EstimateAgreement
import LlmperfOrchestrator.Preparation.TokenBudgets

set_option autoImplicit false

namespace LlmperfOrchestrator.Preparation

open Tables Compiler Outcomes Lineages

def plainPlan : RequestPlan := { repeats := 1, every := none, input := "default", steps := none }

def plainBenchmark (inputTokens outputTokens : Nat) : TokenBenchmark :=
  { meanInputTokens := some inputTokens, meanOutputTokens := some outputTokens, cacheProbe := none,
    plan := plainPlan, inputs := [], prompt := none }

section Estimation

variable (inputTokens outputTokens : Nat)

-- Literal payloads need not match the configured generated-prompt size.
def userTokens (promptText : Option String) : Nat := textTokens inputTokens (promptText.filter fun text => text ≠ "")

def nodeBudget (trials : Nat) (batchBudget : Except String Nat) (state : Dict NodeId Nat × Nat) (node : CompiledNodeRow) :
    Except String (Dict NodeId Nat × Nat) :=
  if node.executionKind = .batch then do
    let batchTokens ← batchBudget
    .ok (state.1, state.2 + batchTokens * trials)
  else do
    let history ← node.messageSources.mapM (lookUp state.1)
    let historyTokens := history.sum
    .ok (Dict.put node.nodeId (historyTokens + userTokens inputTokens node.promptText + outputTokens) state.1,
      state.2 + (historyTokens + userTokens inputTokens node.promptText + outputTokens) * trials)

def coordinateBudget (sha256 : Sha256) (recipe : TaskRecipe) (batchBudget : Except String Nat) (total : Nat)
    (entry : Dimensions × Nat) : Except String Nat := do
  let nodes ← expandGraph sha256 (instanceContext recipe entry.1 0) s!"budget-{entry.2}" recipe.workflow
  let (_, grown) ← nodes.foldlM (nodeBudget inputTokens outputTokens recipe.instances.trials batchBudget) ([], total)
  .ok grown

-- TaskCompiler.estimate_token_budget. The budget of a batch is the same for
-- every batch node, and worked out only where there is one.
def estimateTokenBudget (sha256 : Sha256) (recipe : TaskRecipe) (benchmark : Option TokenBenchmark) : Except String Nat := do
  validateGraph recipe
  (matrixCoordinates recipe).zipIdx.foldlM
    (coordinateBudget inputTokens outputTokens sha256 recipe
      (benchmark.getD (plainBenchmark inputTokens outputTokens)).plannedTokenBudget) 0

end Estimation

section Entries

variable (inputTokens outputTokens batchTokens : Nat)

def entryOf (kind : ExecutionKind) (nodeId : NodeId) (sources : List NodeId) (promptText : Option String) : Entry NodeId :=
  match kind with
  | .batch => { key := nodeId, own := batchTokens, sources := [], reusable := false }
  | .atomic =>
      { key := nodeId, own := userTokens inputTokens promptText + outputTokens, sources := sources, reusable := true }

def nodeEntry (node : CompiledNodeRow) : Entry NodeId :=
  entryOf inputTokens outputTokens batchTokens node.executionKind node.nodeId node.messageSources node.promptText

def tableEntries (table : CompilationTable) : List (Entry (String × NodeId)) :=
  table.nodes.map fun node => (nodeEntry inputTokens outputTokens batchTokens node).rename (Prod.mk node.instanceKey)

def leafEntry (recipe : TaskRecipe) (row : TreeRow) : Entry NodeId :=
  entryOf inputTokens outputTokens batchTokens row.data.executionKind row.node row.data.messageSources
    (row.data.payloadId.bind fun payloadId => (recipe.payloads.get payloadId).bind TaskPayloadSpec.text)

def coordinateEntries (sha256 : Sha256) (recipe : TaskRecipe) (dimensions : Dimensions) : List (Entry NodeId) :=
  match workflowTree sha256 recipe dimensions with
  | .ok tree => (tree.rows [] 0).map (leafEntry inputTokens outputTokens batchTokens recipe)
  | .error _ => []

theorem node_accumulates (trials : Nat) (state : Dict NodeId Nat × Nat) (node : CompiledNodeRow) :
    nodeBudget inputTokens outputTokens trials (.ok batchTokens) state node =
      accumulate trials state (nodeEntry inputTokens outputTokens batchTokens node) := by
  rw [nodeBudget, accumulate, nodeEntry]
  cases kind : node.executionKind with
  | batch =>
      simp [entryOf, bind, Except.bind, pure, Except.pure]
  | atomic => simp only [entryOf, reduceCtorEq, if_false, if_true, Nat.add_assoc]

theorem trial_entries (sha256 : Sha256) (recipe : TaskRecipe) (dimensions : Dimensions) (trial : Nat) (instanceKey : String)
    (rows : List CompiledNodeRow)
    (expanded : expandGraph sha256 (instanceContext recipe dimensions trial) instanceKey recipe.workflow = .ok rows) :
    rows.map (nodeEntry inputTokens outputTokens batchTokens) =
      coordinateEntries inputTokens outputTokens batchTokens sha256 recipe dimensions := by
  obtain ⟨tree, isTree, same⟩ := expanded_reads sha256 recipe dimensions trial instanceKey rows
    (nodeEntry inputTokens outputTokens batchTokens) (leafEntry inputTokens outputTokens batchTokens recipe)
    (fun _ _ _ => rfl) expanded
  rw [same, coordinateEntries, isTree]

theorem sources_checked (state : ReferenceState) (predecessors sources : List NodeId)
    (checked : sources.forM (checkMessageSource state predecessors) = .ok ()) :
    ∀ source ∈ sources, Dict.get source state.priorNodes = some .atomic := by
  induction sources with
  | nil => exact fun _ absent => absurd absent List.not_mem_nil
  | cons source rest ih =>
      rw [List.forM_eq_forM, List.forM_cons, bind_ok] at checked
      obtain ⟨_, here, later⟩ := checked
      intro other member
      rcases List.mem_cons.mp member with rfl | inRest
      · rw [checkMessageSource] at here
        split at here
        · cases here
        · split at here
          · cases here
          · rename_i atomic
            exact not_not.mp atomic
      · exact ih later other inRest

theorem entry_key (node : CompiledNodeRow) : (nodeEntry inputTokens outputTokens batchTokens node).key = node.nodeId := by
  rw [nodeEntry]
  cases node.executionKind <;> rfl

theorem rows_topological (requiresHistory : Bool) (rows before : List CompiledNodeRow) (state last : ReferenceState)
    (done : rows.foldlM (checkRow requiresHistory) state = .ok last)
    (unique : (before ++ rows).Pairwise fun first second => first.nodeId ≠ second.nodeId)
    (known : ∀ nodeId, Dict.get nodeId state.priorNodes = some .atomic →
      nodeId ∈ reusableKeys (before.map (nodeEntry inputTokens outputTokens batchTokens))) :
    Topological (before.map (nodeEntry inputTokens outputTokens batchTokens))
      (rows.map (nodeEntry inputTokens outputTokens batchTokens)) := by
  induction rows generalizing before state with
  | nil => trivial
  | cons row rest ih =>
      obtain ⟨next, checked, later⟩ := (fold_ok _ _ _ _ _).mp done
      have grew := (check_row_ok requiresHistory state next row checked).2
      have sourced : ∀ source ∈ row.messageSources, Dict.get source state.priorNodes = some .atomic := by
        simp only [checkRow] at checked
        split at checked
        · cases checked
        · obtain ⟨_, sources, _⟩ := (bind_ok _ _ _).mp checked
          exact sources_checked state _ row.messageSources sources
      have fresh : ∀ earlier ∈ before, earlier.nodeId ≠ row.nodeId := fun earlier member =>
        (List.pairwise_append.mp unique).2.2 earlier member row List.mem_cons_self
      refine ⟨?_, ?_, ?_⟩
      · rw [List.map_map, entry_key]
        intro member
        obtain ⟨earlier, inside, same⟩ := List.mem_map.mp member
        rw [Function.comp_apply, entry_key] at same
        exact fresh earlier inside same
      · intro source needed
        apply known source
        rw [nodeEntry] at needed
        cases kind : row.executionKind with
        | batch =>
            rw [kind] at needed
            cases needed
        | atomic =>
            rw [kind] at needed
            exact sourced source needed
      · have placed := ih (before ++ [row]) next later (by rwa [List.append_assoc]) ?_
        · rwa [List.map_append] at placed
        · intro nodeId found
          rw [List.map_append, reusable_append, List.mem_append]
          rw [grew, dict_get_put] at found
          by_cases here : nodeId = row.nodeId
          · rw [if_pos here, Option.some.injEq] at found
            apply Or.inr
            simp [reusableKeys, nodeEntry, entryOf, found, here]
          · rw [if_neg here] at found
            exact .inl (known nodeId found)

theorem coordinate_topological (sha256 : Sha256) (recipe : TaskRecipe) (dimensions : Dimensions) (trial : Nat)
    (instanceKey : String) (rows : List CompiledNodeRow)
    (expanded : expandGraph sha256 (instanceContext recipe dimensions trial) instanceKey recipe.workflow = .ok rows) :
    Topological [] (coordinateEntries inputTokens outputTokens batchTokens sha256 recipe dimensions) := by
  rw [← trial_entries inputTokens outputTokens batchTokens sha256 recipe dimensions trial instanceKey rows expanded]
  obtain ⟨⟨builder, frontier⟩, _, checked⟩ := (bind_ok _ _ _).mp expanded
  obtain ⟨state, referred, same⟩ := (bind_ok _ _ _).mp checked
  cases same
  apply rows_topological inputTokens outputTokens batchTokens _ builder.nodes [] _ state referred
  · exact List.pairwise_map.mp builder.unique
  · intro nodeId found
    cases found

end Entries

section Agreement

variable (sha256 : Sha256) (recipe : TaskRecipe) (template : WorkerTemplate) (table : CompilationTable)
  (inputTokens outputTokens batchTokens : Nat)

def coordinateTokens (dimensions : Dimensions) : Nat :=
  lineageTotal (coordinateEntries inputTokens outputTokens batchTokens sha256 recipe dimensions)

theorem coordinate_budget (total : Nat) (entry : Dimensions × Nat) (nodes : List CompiledNodeRow)
    (expanded : expandGraph sha256 (instanceContext recipe entry.1 0) s!"budget-{entry.2}" recipe.workflow = .ok nodes) :
    coordinateBudget inputTokens outputTokens sha256 recipe (.ok batchTokens) total entry =
      .ok (total + coordinateTokens sha256 recipe inputTokens outputTokens batchTokens entry.1 * recipe.instances.trials) := by
  have ordered := coordinate_topological inputTokens outputTokens batchTokens sha256 recipe entry.1 0 _ nodes expanded
  obtain ⟨weight, weighing, _⟩ := weighing_exists _ [] (fun _ => 0) ordered
  obtain ⟨last, done⟩ := accumulate_weighs recipe.instances.trials weight _ [] [] total ordered weighing
    fun _ absent => absurd absent List.not_mem_nil
  have same : nodeBudget inputTokens outputTokens recipe.instances.trials (.ok batchTokens) =
      fun state node => accumulate recipe.instances.trials state (nodeEntry inputTokens outputTokens batchTokens node) := by
    funext state node
    exact node_accumulates inputTokens outputTokens batchTokens recipe.instances.trials state node
  rw [← trial_entries inputTokens outputTokens batchTokens sha256 recipe entry.1 0 _ nodes expanded, List.foldlM_map] at done
  apply (bind_ok _ _ _).mpr ⟨nodes, expanded, _⟩
  rw [same, done, coordinateTokens, lineage_total _ weight ordered weighing,
    trial_entries inputTokens outputTokens batchTokens sha256 recipe entry.1 0 _ nodes expanded]
  rfl

theorem table_groups (compiled : compile sha256 recipe template = .ok table) :
    tableEntries inputTokens outputTokens batchTokens table =
      (compiledInstances recipe).flatMap fun entry =>
        (coordinateEntries inputTokens outputTokens batchTokens sha256 recipe entry.1).map
          (Entry.rename (Prod.mk (instanceKeyOf entry.1 entry.2))) := by
  obtain ⟨_, _, done⟩ := (bind_ok _ _ _).mp compiled
  obtain ⟨results, mapped, built⟩ := (bind_ok _ _ _).mp done
  have each := mapM_map _ _ _ (fun result : CompiledInstanceRow × List CompiledNodeRow => result.2.map fun node =>
      (nodeEntry inputTokens outputTokens batchTokens node).rename (Prod.mk node.instanceKey))
    (fun entry => (coordinateEntries inputTokens outputTokens batchTokens sha256 recipe entry.1).map
      (Entry.rename (Prod.mk (instanceKeyOf entry.1 entry.2)))) mapped (by
        intro entry result taken
        obtain ⟨_, expanded⟩ := instance_compiled sha256 recipe template entry result taken
        have keyed := expanded_instance_key sha256 recipe entry.1 entry.2 _ _ expanded
        rw [← trial_entries inputTokens outputTokens batchTokens sha256 recipe entry.1 entry.2 _ result.2 expanded, List.map_map]
        apply List.map_congr_left
        intro node member
        rw [Function.comp_apply, keyed node member])
  rw [tableEntries, (table_built _ _ _ built).2, List.map_flatMap, List.flatMap_def, List.flatMap_def, each]

theorem compiled_keys_unique (compiled : compile sha256 recipe template = .ok table) :
    (compiledInstances recipe).Pairwise fun first second => instanceKeyOf first.1 first.2 ≠ instanceKeyOf second.1 second.2 := by
  obtain ⟨_, _, done⟩ := (bind_ok _ _ _).mp compiled
  obtain ⟨results, mapped, built⟩ := (bind_ok _ _ _).mp done
  have keys := mapM_map _ _ _ (fun result : CompiledInstanceRow × List CompiledNodeRow => result.1.instanceKey)
    (fun entry => instanceKeyOf entry.1 entry.2) mapped (by
      intro entry result taken
      rw [(instance_compiled sha256 recipe template entry result taken).1])
  have unique := table.unique
  rw [(table_built _ _ _ built).1, List.map_map, Function.comp_def, keys] at unique
  exact List.pairwise_map.mp unique

theorem compiled_coordinate (compiled : compile sha256 recipe template = .ok table) (entry : Dimensions × Nat)
    (member : entry ∈ compiledInstances recipe) :
    ∃ instanceKey rows, expandGraph sha256 (instanceContext recipe entry.1 entry.2) instanceKey recipe.workflow = .ok rows := by
  have listed := compiled_instance sha256 recipe template table compiled entry member
  obtain ⟨_, _, expanded⟩ := compiled_nodes sha256 recipe template table compiled _ listed
  exact ⟨_, _, expanded⟩

theorem table_topological (compiled : compile sha256 recipe template = .ok table) :
    Topological [] (tableEntries inputTokens outputTokens batchTokens table) := by
  rw [table_groups sha256 recipe template table inputTokens outputTokens batchTokens compiled]
  apply topological_groups
  · intro entry member
    obtain ⟨instanceKey, rows, expanded⟩ := compiled_coordinate sha256 recipe template table compiled entry member
    exact topological_rename _ (Prod.mk_right_injective _) _ []
      (coordinate_topological inputTokens outputTokens batchTokens sha256 recipe entry.1 entry.2 instanceKey rows expanded)
  · apply (compiled_keys_unique sha256 recipe template table compiled).imp
    intro first second different entry inside known
    obtain ⟨later, _, rfl⟩ := List.mem_map.mp inside
    obtain ⟨renamed, held, same⟩ := List.mem_map.mp known
    obtain ⟨earlier, _, rfl⟩ := List.mem_map.mp held
    exact different (Prod.mk.inj same).1

theorem table_weighs (compiled : compile sha256 recipe template = .ok table) (weight : String × NodeId → Nat)
    (weighing : Weighing (tableEntries inputTokens outputTokens batchTokens table) weight) :
    lineageWeight weight (tableEntries inputTokens outputTokens batchTokens table) =
      ((matrixCoordinates recipe).map fun dimensions =>
        coordinateTokens sha256 recipe inputTokens outputTokens batchTokens dimensions * recipe.instances.trials).sum := by
  have groups := table_groups sha256 recipe template table inputTokens outputTokens batchTokens compiled
  have each : ∀ entry ∈ compiledInstances recipe,
      lineageWeight weight ((coordinateEntries inputTokens outputTokens batchTokens sha256 recipe entry.1).map
        (Entry.rename (Prod.mk (instanceKeyOf entry.1 entry.2)))) =
      coordinateTokens sha256 recipe inputTokens outputTokens batchTokens entry.1 := by
    intro entry member
    obtain ⟨instanceKey, rows, expanded⟩ := compiled_coordinate sha256 recipe template table compiled entry member
    have ordered := coordinate_topological inputTokens outputTokens batchTokens sha256 recipe entry.1 entry.2 instanceKey rows expanded
    have own : Weighing (coordinateEntries inputTokens outputTokens batchTokens sha256 recipe entry.1)
        (weight ∘ Prod.mk (instanceKeyOf entry.1 entry.2)) := by
      apply weighing_rename
      intro renamed inside
      apply weighing
      rw [groups]
      exact List.mem_flatMap.mpr ⟨entry, member, inside⟩
    rw [weight_rename, coordinateTokens, lineage_total _ _ ordered own]
  rw [← instances_sum recipe (coordinateTokens sha256 recipe inputTokens outputTokens batchTokens), groups, lineageWeight,
    List.map_flatMap, sum_flatMap]
  change ((compiledInstances recipe).map fun entry => lineageWeight weight _).sum = _
  rw [List.map_congr_left each]

theorem estimate_weighs (benchmark : Option TokenBenchmark) (valid : recipe.valid = true)
    (compiled : compile sha256 recipe template = .ok table)
    (budget : (benchmark.getD (plainBenchmark inputTokens outputTokens)).plannedTokenBudget = .ok batchTokens) :
    estimateTokenBudget inputTokens outputTokens sha256 recipe benchmark =
      .ok ((matrixCoordinates recipe).map fun dimensions =>
        coordinateTokens sha256 recipe inputTokens outputTokens batchTokens dimensions * recipe.instances.trials).sum := by
  obtain ⟨_, graph, _⟩ := (bind_ok _ _ _).mp compiled
  have expands : ∀ entry ∈ (matrixCoordinates recipe).zipIdx, ∃ nodes,
      expandGraph sha256 (instanceContext recipe entry.1 0) s!"budget-{entry.2}" recipe.workflow = .ok nodes := by
    intro entry member
    have listed : (entry.1, 0) ∈ compiledInstances recipe :=
      List.mem_flatMap.mpr ⟨entry.1, List.fst_mem_of_mem_zipIdx member,
        List.mem_map_of_mem (List.mem_range.mpr (trials_positive recipe valid))⟩
    obtain ⟨instanceKey, rows, expanded⟩ := compiled_coordinate sha256 recipe template table compiled (entry.1, 0) listed
    obtain ⟨nodes, again, _⟩ := expand_again sha256 sha256 recipe entry.1 0 0 instanceKey s!"budget-{entry.2}" rows rfl expanded
    exact ⟨nodes, again⟩
  have step : ∀ entry ∈ (matrixCoordinates recipe).zipIdx, ∀ total,
      coordinateBudget inputTokens outputTokens sha256 recipe (.ok batchTokens) total entry =
        .ok (total + coordinateTokens sha256 recipe inputTokens outputTokens batchTokens entry.1 * recipe.instances.trials) := by
    intro entry member total
    obtain ⟨nodes, expanded⟩ := expands entry member
    exact coordinate_budget sha256 recipe inputTokens outputTokens batchTokens total entry nodes expanded
  obtain ⟨last, done⟩ := fold_total (coordinateBudget inputTokens outputTokens sha256 recipe (.ok batchTokens))
    (matrixCoordinates recipe).zipIdx 0 fun entry member total => ⟨_, step entry member total⟩
  have sum := fold_sum _ id (fun entry : Dimensions × Nat =>
      coordinateTokens sha256 recipe inputTokens outputTokens batchTokens entry.1 * recipe.instances.trials) _ _ _ done (by
        intro total entry next member taken
        exact Except.ok.inj (taken.symm.trans (step entry member total)))
  rw [zip_index_sum fun dimensions =>
    coordinateTokens sha256 recipe inputTokens outputTokens batchTokens dimensions * recipe.instances.trials] at sum
  simp only [id_eq, Nat.zero_add] at sum
  rw [estimateTokenBudget, budget, ← sum]
  exact (bind_ok _ _ _).mpr ⟨(), graph, done⟩

end Agreement

theorem plain_accepted : plainPlan.accepted := ⟨by decide, by decide⟩

theorem budget_total (benchmark : TokenBenchmark) (accepted : benchmark.plan.accepted) :
    ∃ tokens, benchmark.plannedTokenBudget = .ok tokens := by
  cases probed : benchmark.cacheProbe with
  | some probe => exact ⟨_, by rw [TokenBenchmark.plannedTokenBudget, probed]⟩
  | none =>
      obtain ⟨weight, weighing, _⟩ := weighing_exists _ [] (fun _ => 0) (benchmark.expanded_topological accepted)
      exact ⟨_, benchmark.plan_budget weight accepted probed weighing⟩

theorem token_budgets (sha256 : Sha256) :
    (∀ benchmark : TokenBenchmark, benchmark.plan.accepted → benchmark.cacheProbe = none →
      Topological [] benchmark.expandedEntries ∧ (∃ weight, Weighing benchmark.expandedEntries weight) ∧
        ∀ weight, Weighing benchmark.expandedEntries weight →
          benchmark.plannedTokenBudget = .ok (lineageWeight weight benchmark.expandedEntries)) ∧
    (∀ (benchmark : TokenBenchmark) (probe : CacheProbe), benchmark.cacheProbe = some probe →
      benchmark.plannedTokenBudget =
        .ok (TokenBenchmark.probeWorkers probe * (benchmark.inputTokens + benchmark.outputTokens))) ∧
    ∀ (recipe : TaskRecipe) (template : WorkerTemplate) (table : CompilationTable) (benchmark : Option TokenBenchmark)
      (inputTokens outputTokens : Nat), recipe.valid = true → compile sha256 recipe template = .ok table →
      (∀ given ∈ benchmark, given.plan.accepted) →
      ∃ batchTokens, (benchmark.getD (plainBenchmark inputTokens outputTokens)).plannedTokenBudget = .ok batchTokens ∧
        Topological [] (tableEntries inputTokens outputTokens batchTokens table) ∧
        (∃ weight, Weighing (tableEntries inputTokens outputTokens batchTokens table) weight) ∧
        ∀ weight, Weighing (tableEntries inputTokens outputTokens batchTokens table) weight →
          estimateTokenBudget inputTokens outputTokens sha256 recipe benchmark =
            .ok (lineageWeight weight (tableEntries inputTokens outputTokens batchTokens table)) := by
  refine ⟨fun benchmark accepted requests => ?_, fun benchmark probe probed => ?_, ?_⟩
  · have ordered := benchmark.expanded_topological accepted
    obtain ⟨weight, weighing, _⟩ := weighing_exists _ [] (fun _ => 0) ordered
    exact ⟨ordered, ⟨weight, weighing⟩, fun other others => benchmark.plan_budget other accepted requests others⟩
  · rw [TokenBenchmark.plannedTokenBudget, probed]
  · intro recipe template table benchmark inputTokens outputTokens valid compiled accepted
    have decided : (benchmark.getD (plainBenchmark inputTokens outputTokens)).plan.accepted := by
      cases benchmark with
      | none => exact plain_accepted
      | some given => exact accepted given rfl
    obtain ⟨batchTokens, budget⟩ := budget_total _ decided
    have ordered := table_topological sha256 recipe template table inputTokens outputTokens batchTokens compiled
    obtain ⟨weight, weighing, _⟩ := weighing_exists _ [] (fun _ => 0) ordered
    refine ⟨batchTokens, budget, ordered, ⟨weight, weighing⟩, fun other others => ?_⟩
    rw [estimate_weighs sha256 recipe template table inputTokens outputTokens batchTokens benchmark valid compiled budget,
      table_weighs sha256 recipe template table inputTokens outputTokens batchTokens compiled other others]

def followUpSteps : List RequestStepSpec :=
  [{ name := "ask", input := none, dependsOn := [], after := ⟨0, .s⟩, instant := none },
    { name := "again", input := some "literal", dependsOn := [⟨"ask", true⟩], after := ⟨0, .s⟩, instant := none }]

def followUp : TokenBenchmark :=
  { meanInputTokens := some 4, meanOutputTokens := some 10, cacheProbe := none,
    plan := { repeats := 2, every := none, input := "default", steps := some followUpSteps },
    inputs := [("default", ⟨none, .count 20⟩), ("literal", ⟨some (some "Wiederhole das bitte"), .absent⟩)], prompt := none }

theorem token_budgets_follow_up :
    followUp.plannedTokenBudget = .ok 180 ∧
    (∃ weight, Weighing followUp.expandedEntries weight ∧ 180 = lineageWeight weight followUp.expandedEntries) ∧
    ∃ table weight, compile (fun _ => 0) forkRecipe BenchmarkDocument.blank.template = .ok table ∧
      Weighing (tableEntries 4 10 180 table) weight ∧
      estimateTokenBudget 4 10 (fun _ => 0) forkRecipe (some followUp) = .ok (lineageWeight weight (tableEntries 4 10 180 table)) := by
  obtain ⟨plans, _, tables⟩ := token_budgets fun _ => 0
  have accepted : followUp.plan.accepted := ⟨by decide +kernel, by decide⟩
  have budget : followUp.plannedTokenBudget = .ok 180 := by decide +kernel
  refine ⟨budget, ?_, ?_⟩
  · obtain ⟨_, ⟨weight, weighing⟩, all⟩ := plans followUp accepted rfl
    exact ⟨weight, weighing, Except.ok.inj (budget.symm.trans (all weight weighing))⟩
  · have compiled : (compile (fun _ => 0) forkRecipe BenchmarkDocument.blank.template).toOption.isSome := by decide +kernel
    cases done : compile (fun _ => 0) forkRecipe BenchmarkDocument.blank.template with
    | error message =>
        rw [done] at compiled
        cases compiled
    | ok table =>
        obtain ⟨batchTokens, same, _, ⟨weight, weighing⟩, all⟩ :=
          tables forkRecipe _ table (some followUp) 4 10 (by decide) done fun given named => Option.some.inj named ▸ accepted
        obtain rfl : batchTokens = 180 := Except.ok.inj (same.symm.trans budget)
        exact ⟨table, weight, rfl, weighing, all weight weighing⟩

def probeBenchmark : TokenBenchmark := { plainBenchmark 550 150 with cacheProbe := some ⟨2, 1⟩ }

theorem probe_budget_differs :
    probeBenchmark.plan.accepted ∧ Weighing probeBenchmark.expandedEntries (fun _ => 700) ∧
      probeBenchmark.plannedTokenBudget ≠ .ok (lineageWeight (fun _ => 700) probeBenchmark.expandedEntries) := by
  refine ⟨plain_accepted, ?_, by decide +kernel⟩
  intro entry member
  have single : probeBenchmark.expandedEntries = [{ key := "0", own := 700, sources := [], reusable := true }] := rfl
  rw [single] at member
  rw [List.mem_singleton.mp member]
  rfl

end LlmperfOrchestrator.Preparation

import LlmperfOrchestrator.Compiler.Estimate

set_option autoImplicit false

namespace LlmperfOrchestrator.Compiler

open Tables SeriesParallel Outcomes

section Compiled

variable (sha256 : Sha256) (recipe : TaskRecipe) (benchmark : BenchmarkDocument)

theorem instance_expands (entry : Dimensions × Nat) :
    (∃ result, compileInstance sha256 recipe benchmark.template entry = .ok result) ↔
      Expands sha256 recipe benchmark entry.1 := by
  rw [expands_trial sha256 recipe benchmark entry.1 entry.2 (instanceKeyOf entry.1 entry.2)]
  constructor
  · rintro ⟨result, done⟩
    obtain ⟨nodes, expanded, done⟩ := (bind_ok _ _ _).mp done
    obtain ⟨_, fits, _⟩ := (bind_ok _ _ _).mp done
    exact ⟨nodes, expanded, fits⟩
  · rintro ⟨nodes, expanded, fits⟩
    exact ⟨_, (bind_ok _ _ _).mpr ⟨nodes, expanded, (bind_ok _ _ _).mpr ⟨(), fits, rfl⟩⟩⟩

theorem table_builds (valid : recipe.valid = true) (results : List (CompiledInstanceRow × List CompiledNodeRow))
    (mapped : (compiledInstances recipe).mapM (compileInstance sha256 recipe benchmark.template) = .ok results) :
    ∃ table, CompilationTable.build (results.map Prod.fst) (results.flatMap Prod.snd) = .ok table := by
  have keys : (results.map Prod.fst).map CompiledInstanceRow.instanceKey =
      (compiledInstances recipe).map fun entry => instanceKeyOf entry.1 entry.2 := by
    rw [List.map_map]
    apply mapM_map _ _ _ _ _ mapped
    intro entry result done
    rw [Function.comp_apply, (instance_compiled sha256 recipe benchmark.template entry result done).1]
  have unique : ((results.map Prod.fst).map CompiledInstanceRow.instanceKey).Nodup :=
    keys ▸ instance_keys_unique recipe valid
  have known : ∀ node ∈ results.flatMap Prod.snd,
      node.instanceKey ∈ (results.map Prod.fst).map CompiledInstanceRow.instanceKey := by
    intro node member
    obtain ⟨result, inResults, inNodes⟩ := List.mem_flatMap.mp member
    obtain ⟨entry, _, done⟩ := paired_right (mapM_pairs _ _ _ mapped) result inResults
    obtain ⟨isRow, expanded⟩ := instance_compiled sha256 recipe benchmark.template entry result done
    rw [List.map_map]
    apply List.mem_map.mpr ⟨result, inResults, _⟩
    rw [Function.comp_apply, isRow]
    exact (expanded_instance_key sha256 recipe entry.1 entry.2 _ _ expanded node inNodes).symm
  exact ⟨_, by rw [CompilationTable.build, dif_pos unique, dif_pos known]⟩

theorem trials_positive (valid : recipe.valid = true) : 1 ≤ recipe.instances.trials := by
  simp only [TaskRecipe.valid, TaskInstancesConfig.valid, Bool.and_eq_true, decide_eq_true_eq] at valid
  exact valid.1.1.1.1.2.1.1.2

theorem table_compiled (valid : recipe.valid = true) :
    (∃ table, compile sha256 recipe benchmark.template = .ok table) ↔
      validateGraph recipe = .ok () ∧ ∀ dimensions ∈ matrixCoordinates recipe, Expands sha256 recipe benchmark dimensions := by
  constructor
  · rintro ⟨table, done⟩
    obtain ⟨_, graph, done⟩ := (bind_ok _ _ _).mp done
    obtain ⟨results, mapped, _⟩ := (bind_ok _ _ _).mp done
    refine ⟨graph, fun dimensions coordinate => ?_⟩
    have first : 0 < recipe.instances.trials := trials_positive recipe valid
    have member : (dimensions, 0) ∈ compiledInstances recipe :=
      List.mem_flatMap.mpr ⟨dimensions, coordinate, List.mem_map_of_mem (List.mem_range.mpr first)⟩
    obtain ⟨result, _, taken⟩ := paired_left (mapM_pairs _ _ _ mapped) _ member
    exact (instance_expands sha256 recipe benchmark (dimensions, 0)).mp ⟨result, taken⟩
  · rintro ⟨graph, all⟩
    obtain ⟨results, mapped⟩ := mapM_total (compileInstance sha256 recipe benchmark.template) (compiledInstances recipe)
      fun entry member => by
        obtain ⟨dimensions, coordinate, inTrials⟩ := List.mem_flatMap.mp member
        obtain ⟨trial, _, rfl⟩ := List.mem_map.mp inTrials
        exact (instance_expands sha256 recipe benchmark (dimensions, trial)).mpr (all dimensions coordinate)
    obtain ⟨table, built⟩ := table_builds sha256 recipe benchmark valid results mapped
    exact ⟨table, (bind_ok _ _ _).mpr ⟨(), graph, (bind_ok _ _ _).mpr ⟨results, mapped, built⟩⟩⟩

theorem instances_sum (amount : Dimensions → Nat) :
    ((compiledInstances recipe).map fun entry => amount entry.1).sum =
      ((matrixCoordinates recipe).map fun dimensions => amount dimensions * recipe.instances.trials).sum := by
  rw [compiledInstances, List.map_flatMap, sum_flatMap]
  congr 1
  apply List.map_congr_left
  intro dimensions _
  rw [List.map_map]
  change ((List.range recipe.instances.trials).map fun _ => amount dimensions).sum = _
  rw [List.map_const', List.sum_replicate_nat, List.length_range, Nat.mul_comm]

theorem table_instances (table : CompilationTable) (compiled : compile sha256 recipe benchmark.template = .ok table) :
    table.instances = (compiledInstances recipe).map fun entry => ⟨instanceKeyOf entry.1 entry.2, entry.1, entry.2⟩ := by
  obtain ⟨_, _, done⟩ := (bind_ok _ _ _).mp compiled
  obtain ⟨results, mapped, built⟩ := (bind_ok _ _ _).mp done
  rw [(table_built _ _ _ built).1]
  apply mapM_map _ _ _ _ _ mapped
  intro entry result taken
  exact (instance_compiled sha256 recipe benchmark.template entry result taken).1

theorem table_weight (weight : Outline → Nat) (table : CompilationTable)
    (compiled : compile sha256 recipe benchmark.template = .ok table) :
    measured weight table.nodes =
      ((matrixCoordinates recipe).map fun dimensions =>
        coordinateWeight sha256 recipe weight dimensions * recipe.instances.trials).sum := by
  obtain ⟨_, _, done⟩ := (bind_ok _ _ _).mp compiled
  obtain ⟨results, mapped, built⟩ := (bind_ok _ _ _).mp done
  have each : (results.map fun result => measured weight result.2) =
      (compiledInstances recipe).map fun entry => coordinateWeight sha256 recipe weight entry.1 := by
    apply mapM_map _ _ _ _ _ mapped
    intro entry result taken
    obtain ⟨_, expanded⟩ := instance_compiled sha256 recipe benchmark.template entry result taken
    exact expansion_weight sha256 recipe weight entry.1 entry.2 _ result.2 expanded
  rw [(table_built _ _ _ built).2, measured, List.map_flatMap, sum_flatMap]
  change (results.map fun result => measured weight result.2).sum = _
  rw [each, instances_sum]

theorem instances_weight (weight : Outline → Nat) (table : CompilationTable)
    (compiled : compile sha256 recipe benchmark.template = .ok table) :
    (table.instances.map fun row => measured weight (table.nodesFor row.instanceKey)).sum =
      ((matrixCoordinates recipe).map fun dimensions =>
        coordinateWeight sha256 recipe weight dimensions * recipe.instances.trials).sum := by
  have each : (table.instances.map fun row => measured weight (table.nodesFor row.instanceKey)) =
      table.instances.map fun row => coordinateWeight sha256 recipe weight row.dimensions := by
    apply List.map_congr_left
    intro row member
    obtain ⟨_, _, expanded⟩ := compiled_nodes sha256 recipe benchmark.template table compiled row member
    exact expansion_weight sha256 recipe weight row.dimensions row.trialIndex _ _ expanded
  rw [each, table_instances sha256 recipe benchmark table compiled, List.map_map]
  exact instances_sum recipe (coordinateWeight sha256 recipe weight)

end Compiled

section Agreement

variable (sha256 : Sha256) (recipe : TaskRecipe) (benchmark : BenchmarkDocument)

theorem coordinate_totals (totals next : EstimateTotals) (entry : Dimensions × Nat)
    (done : estimateCoordinate sha256 recipe benchmark totals entry = .ok next) :
    next.coordinateCount = totals.coordinateCount + 1 ∧
      next.nodeCount = totals.nodeCount + coordinateWeight sha256 recipe (fun _ => 1) entry.1 * recipe.instances.trials ∧
      next.runnerCount = totals.runnerCount + coordinateWeight sha256 recipe (fun _ => 1) entry.1 * recipe.instances.trials ∧
      next.requestCount = totals.requestCount +
        coordinateWeight sha256 recipe (fun outline => plannedWorkers benchmark outline.data.1) entry.1 * recipe.instances.trials := by
  obtain ⟨nodes, expanded, done⟩ := (bind_ok _ _ _).mp done
  obtain ⟨_, _, done⟩ := (bind_ok _ _ _).mp done
  obtain ⟨_, _, done⟩ := (bind_ok _ _ _).mp done
  obtain ⟨_, _, done⟩ := (bind_ok _ _ _).mp done
  cases done
  have count : coordinateWeight sha256 recipe (fun _ => 1) entry.1 = nodes.length := by
    rw [← expansion_weight sha256 recipe (fun _ => 1) entry.1 0 _ nodes expanded, measured, List.map_const', List.sum_replicate_nat,
      Nat.mul_one]
  have requests := expansion_weight sha256 recipe (fun outline => plannedWorkers benchmark outline.data.1) entry.1 0 _ nodes expanded
  rw [count, ← requests]
  refine ⟨rfl, rfl, ?_, rfl⟩
  rw [parallelRequestGroups, List.length_map]

theorem zip_index_sum (amount : Dimensions → Nat) (items : List Dimensions) :
    (items.zipIdx.map fun entry => amount entry.1).sum = (items.map amount).sum := by
  have same : items.zipIdx.map (fun entry => amount entry.1) = (items.zipIdx.map Prod.fst).map amount := by
    rw [List.map_map]
    rfl
  rw [same, List.zipIdx_map_fst]

theorem estimate_agrees (valid : recipe.valid = true) :
    (validateRecipe sha256 recipe = .ok () → ∀ dimensions ∈ matrixCoordinates recipe, ∀ trial instanceKey,
      ∃ nodes, expandGraph sha256 (instanceContext recipe dimensions trial) instanceKey recipe.workflow = .ok nodes) ∧
    ∀ requestsPerActor, 1 ≤ requestsPerActor →
      ((∃ message, estimate sha256 recipe benchmark requestsPerActor = .error message) ↔
        ∃ message, compile sha256 recipe benchmark.template = .error message) ∧
      ∀ estimated table, estimate sha256 recipe benchmark requestsPerActor = .ok estimated →
        compile sha256 recipe benchmark.template = .ok table →
        estimated.instances = table.instances.length ∧ estimated.nodes = table.nodes.length ∧
          estimated.runners = table.runnerCount ∧ estimated.requests = table.requestCount benchmark := by
  refine ⟨fun accepted dimensions coordinate trial instanceKey => ?_, fun requestsPerActor positive => ⟨?_, ?_⟩⟩
  · obtain ⟨_, nodes, _, expanded, _⟩ := accepted_trial sha256 recipe accepted dimensions coordinate trial instanceKey
    exact ⟨nodes, expanded⟩
  · have same := (totals_estimated sha256 recipe benchmark).trans (table_compiled sha256 recipe benchmark valid).symm
    rw [estimate, if_neg (Nat.not_lt.mpr positive)]
    cases counted : estimateTotals sha256 recipe benchmark with
    | error message =>
        cases built : compile sha256 recipe benchmark.template with
        | error other => exact ⟨fun _ => ⟨other, rfl⟩, fun _ => ⟨message, rfl⟩⟩
        | ok table =>
            obtain ⟨totals, done⟩ := same.mpr ⟨table, built⟩
            cases counted.symm.trans done
    | ok totals =>
        obtain ⟨table, built⟩ := same.mp ⟨totals, counted⟩
        rw [built]
        constructor
        · rintro ⟨message, failed⟩
          cases failed
        · rintro ⟨message, failed⟩
          cases failed
  · intro estimated table counted compiled
    rw [estimate, if_neg (Nat.not_lt.mpr positive)] at counted
    obtain ⟨totals, isTotals, same⟩ := (bind_ok _ _ _).mp counted
    cases same
    obtain ⟨_, _, done⟩ := (bind_ok _ _ _).mp isTotals
    have coordinates := fold_sum _ EstimateTotals.coordinateCount (fun _ => 1) _ _ _ done
      fun before entry after _ taken => (coordinate_totals sha256 recipe benchmark before after entry taken).1
    have nodes := fold_sum _ EstimateTotals.nodeCount
      (fun entry => coordinateWeight sha256 recipe (fun _ => 1) entry.1 * recipe.instances.trials) _ _ _ done
      fun before entry after _ taken => (coordinate_totals sha256 recipe benchmark before after entry taken).2.1
    have runners := fold_sum _ EstimateTotals.runnerCount
      (fun entry => coordinateWeight sha256 recipe (fun _ => 1) entry.1 * recipe.instances.trials) _ _ _ done
      fun before entry after _ taken => (coordinate_totals sha256 recipe benchmark before after entry taken).2.2.1
    have requests := fold_sum _ EstimateTotals.requestCount (fun entry => coordinateWeight sha256 recipe
        (fun outline => plannedWorkers benchmark outline.data.1) entry.1 * recipe.instances.trials) _ _ _ done
      fun before entry after _ taken => (coordinate_totals sha256 recipe benchmark before after entry taken).2.2.2
    have single : ∀ rows : List CompiledNodeRow, measured (fun _ => 1) rows = rows.length := by
      intro rows
      rw [measured, List.map_const', List.sum_replicate_nat, Nat.mul_one]
    rw [zip_index_sum fun dimensions => coordinateWeight sha256 recipe (fun _ => 1) dimensions * recipe.instances.trials] at nodes runners
    rw [zip_index_sum fun dimensions => coordinateWeight sha256 recipe
      (fun outline => plannedWorkers benchmark outline.data.1) dimensions * recipe.instances.trials] at requests
    refine ⟨?_, ?_, ?_, ?_⟩
    · rw [table_instances sha256 recipe benchmark table compiled, List.length_map]
      have spread := instances_sum recipe fun _ => 1
      simp only [List.map_const', List.sum_replicate_nat, Nat.mul_one, Nat.one_mul] at spread coordinates
      rw [spread, coordinates, List.length_zipIdx, Nat.zero_add]
    · rw [← single table.nodes, table_weight sha256 recipe benchmark (fun _ => 1) table compiled, nodes, Nat.zero_add]
    · have groups : table.runnerCount =
          (table.instances.map fun row => measured (fun _ => 1) (table.nodesFor row.instanceKey)).sum := by
        simp only [CompilationTable.runnerCount, parallelRequestGroups, List.length_map, single]
      rw [groups, instances_weight sha256 recipe benchmark (fun _ => 1) table compiled, runners, Nat.zero_add]
    · have weighed := table_weight sha256 recipe benchmark
        (fun outline => plannedWorkers benchmark outline.data.1) table compiled
      rw [requests, Nat.zero_add, ← weighed]
      rfl

theorem estimate_agrees_fork :
    (validateRecipe (fun _ => 0) forkRecipe = .ok () → ∀ dimensions ∈ matrixCoordinates forkRecipe, ∀ trial instanceKey,
      ∃ nodes, expandGraph (fun _ => 0) (instanceContext forkRecipe dimensions trial) instanceKey forkRecipe.workflow = .ok nodes) ∧
    ∀ requestsPerActor, 1 ≤ requestsPerActor →
      ((∃ message, estimate (fun _ => 0) forkRecipe .blank requestsPerActor = .error message) ↔
        ∃ message, compile (fun _ => 0) forkRecipe BenchmarkDocument.blank.template = .error message) ∧
      ∀ estimated table, estimate (fun _ => 0) forkRecipe .blank requestsPerActor = .ok estimated →
        compile (fun _ => 0) forkRecipe BenchmarkDocument.blank.template = .ok table →
        estimated.instances = table.instances.length ∧ estimated.nodes = table.nodes.length ∧
          estimated.runners = table.runnerCount ∧ estimated.requests = table.requestCount .blank :=
  estimate_agrees (fun _ => 0) forkRecipe .blank (by decide)

end Agreement

end LlmperfOrchestrator.Compiler

import LlmperfOrchestrator.Compiler.LoopBinding
import LlmperfOrchestrator.CacheTools.CampaignDocuments

set_option autoImplicit false

namespace LlmperfOrchestrator.Tools

open Tables Documents Outcomes Compiler

structure SizingBounds (fields : SizingFields) : Prop where
  backgroundGap : 0 < fields.backgroundGapSeconds
  recallGap : 0 < fields.recallGapSeconds
  pool : 1 ≤ fields.poolSize ∧ fields.poolSize ≤ 10000
  cohort : 1 ≤ fields.cohortSize ∧ fields.cohortSize ≤ 10000
  seeds : fields.backgroundPoolSeed < 2 ^ 64 ∧ fields.probePoolSeed < 2 ^ 64
  lanes : 1 ≤ fields.probeLanes ∧ fields.probeLanes ≤ 100
  narrow : fields.probeLanes ≤ fields.cohortSize
  repeats : 1 ≤ fields.backgroundRepeats ∧ fields.backgroundRepeats ≤ 10000
  recalled : 1 ≤ fields.recallWaves
  calibration : ∀ delay ∈ fields.calibrationSeconds, 0 < delay
  phases : fields.calibrationSeconds.length ≤ 98

theorem settings_bounds (settings : CacheSizing) : SizingBounds settings.toSizingFields := by
  have accepted := settings.accepted
  simp only [SizingFields.check, checked_ok, SizingFields.positiveValues, List.any_cons, List.any_nil, Bool.or_eq_true,
    Bool.or_false, decide_eq_true_eq, not_or, not_not, not_le, not_lt] at accepted
  obtain ⟨⟨_, _, _, backgroundGap, recallGap⟩, _, _, _, ⟨pool, cohort⟩, seeds, _, ⟨_, lanes⟩, _, narrow, ⟨repeats, recalled⟩, calibration,
    phases, _⟩ := accepted
  refine ⟨backgroundGap, recallGap, pool, cohort, seeds, lanes, narrow, repeats, recalled, fun delay member => ?_, phases⟩
  exact not_le.mp fun low => calibration (List.any_eq_true.mpr ⟨delay, member, decide_eq_true low⟩)

section Specs

variable (settings : CacheSizing)

def prefixRun (name : String) (role : Option String) : RunConfig :=
  { name := name, role := role, after := .zero, dependsOn := [], prefixSeed := some (.dimension "prefix") }

def batchRun : RunConfig := prefixRun "batch" (some "background")

def requestRun : RunConfig := prefixRun "request" none

def prefixLoop (name : String) (seed count parallelism : Nat) : ForEachConfig :=
  { name := name, variableName := "prefix", values := .generated seed count, parallelism := parallelism, after := .zero }

def prefixesLoop : ForEachConfig := prefixLoop "prefixes" settings.backgroundPoolSeed settings.poolSize settings.poolSize

def cohortLoop : ForEachConfig := prefixLoop "cohort" settings.probePoolSeed settings.cohortSize settings.probeLanes

def cohortSpec : TaskNodeSpec := .forEachNode (cohortLoop settings) (.runNode requestRun)

def calibrationSpec (phase : Rat × Nat) : TaskNodeSpec :=
  .sequenceNode (calibrationName phase.2) ⟨.literal phase.1, .s⟩ (cohortSpec settings) []

def recallSpec : TaskNodeSpec :=
  .repeatNode "sustained_recall" (.literal settings.recallWaves) ⟨.literal settings.recallGapSeconds, .s⟩ (cohortSpec settings)

def plainInstances (seed : Nat) : TaskInstancesConfig :=
  { matrix := .empty, trials := 1, seed := seed, prefixSeedScope := .trial }

def familiesRecipe : TaskRecipe :=
  { name := "background-families", instances := plainInstances 202610211201, payloads := .empty,
    root := .forEachNode (prefixesLoop settings) (.runNode batchRun), roots := [] }

def cohortRecipe : TaskRecipe :=
  { name := "l4-cohort", instances := plainInstances 202610211202, payloads := .empty,
    root := .sequenceNode "prime" .zero (cohortSpec settings) [],
    roots := settings.calibrationSeconds.zipIdx.map (calibrationSpec settings) ++ [recallSpec settings] }

end Specs

section Nodes

attribute [local simp] bind Except.bind Except.map Document.record Document.optional Fields.ofList Fields.get Fields.keys

variable (settings : CacheSizing)

theorem batch_validates : validateNode (.record [("run", .record [("name", .text "batch"), ("role", .text "background"),
    ("prefix_seed", .text "$prefix")])]) = .ok (.runNode batchRun) := by
  apply run_read
  rfl

theorem request_validates : validateNode (.record [("run", .record [("name", .text "request"), ("prefix_seed", .text "$prefix")])]) =
    .ok (.runNode requestRun) := by
  apply run_read
  rfl

theorem pool_validates (seed count : Nat) (seeded : seed < 2 ^ 64) (some : 1 ≤ count) (few : count ≤ 10000) (duplicates : String) :
    validatePool duplicates (poolDocument seed count) = .ok (.generated seed count) := by
  apply pool_round duplicates (.generated seed count)
  simp only [SeedPool.valid, Bool.and_eq_true, decide_eq_true_eq]
  exact ⟨⟨seeded, some⟩, few⟩

theorem loop_validates (name : String) (seed count parallelism : Nat) (document : Document) (run : RunConfig)
    (named : sized 1 64 name = true) (seeded : seed < 2 ^ 64) (filled : 1 ≤ count ∧ count ≤ 10000)
    (wide : 1 ≤ parallelism ∧ parallelism ≤ 10000) (child : validateNode document = .ok (.runNode run)) :
    validateNode (.record [("for_each", .record [("name", .text name), ("variable", .text "prefix"),
      ("values", poolDocument seed count), ("parallelism", .integer parallelism), ("node", document)])]) =
    .ok (.forEachNode (prefixLoop name seed count parallelism) (.runNode run)) := by
  apply for_each_read
  have shaped := variable_round "prefix" (by decide) (by decide)
  have pooled := pool_validates seed count seeded filled.1 filled.2 "for_each values must be unique"
  have lanes := counted_integer 1 10000 parallelism wide.1 wide.2
  simp [validateForEach, ForEachConfig.validate, childNode, forbidExtra, required, defaulted, sized_text 64 name named, shaped,
    pooled, lanes, child, prefixLoop]

theorem prefixes_validates : validateNode (prefixesNode settings) =
    .ok (.forEachNode (prefixesLoop settings) (.runNode batchRun)) := by
  have bounds := settings_bounds settings
  exact loop_validates "prefixes" _ _ _ _ _ (by decide) bounds.seeds.1 bounds.pool bounds.pool batch_validates

theorem cohort_validates : validateNode (cohortNode settings) = .ok (cohortSpec settings) := by
  have bounds := settings_bounds settings
  have lanes : 1 ≤ settings.probeLanes ∧ settings.probeLanes ≤ 10000 := ⟨bounds.lanes.1, bounds.lanes.2.trans (by decide)⟩
  exact loop_validates "cohort" _ _ _ _ _ (by decide) bounds.seeds.2 bounds.cohort lanes request_validates

theorem seconds_validates (seconds : Rat) (nonneg : 0 ≤ seconds) :
    validateDuration (.number seconds) = .ok ⟨.literal seconds, .s⟩ := by
  have literal := literal_round (.literal seconds) (by simpa [DurationScalar.valid] using nonneg)
  have unit : validateUnit (.text "s") = .ok .s := rfl
  simp [validateDuration, normalizeScalar, forbidExtra, required, defaulted, validateScalar, parseTaskValue, literal, unit]

theorem prime_validates : validateNode (primeNode settings) = .ok (cohortRecipe settings).root := by
  apply sequence_read
  have child := cohort_validates settings
  have room := listed_all (cohortSpec settings) [] (by decide)
  simp [validateSequence, other_child, childNodes, validateNodes, Document.listOf, Items.ofList, forbidExtra, required, defaulted,
    sized_text 64 "prime" (by decide), child, room]
  rfl

theorem calibration_validates (phase : Rat × Nat) (positive : 0 < phase.1) (early : phase.2 < 98) :
    validateNode (calibrationNode settings phase) = .ok (calibrationSpec settings phase) := by
  apply sequence_read
  have digits : (toString (phase.2 + 1)).length ≤ 2 := (Nat.length_repr_le_iff (by decide)).mpr (by omega)
  have named : sized 1 64 (calibrationName phase.2) = true := by
    have label : (calibrationName phase.2).length = 12 + (toString (phase.2 + 1)).length := by
      simp only [calibrationName, String.length_append, toString]
      rfl
    simp only [sized, Bool.and_eq_true, decide_eq_true_eq]
    omega
  have child := cohort_validates settings
  have room := listed_all (cohortSpec settings) [] (by decide)
  have delay := seconds_validates phase.1 (le_of_lt positive)
  simp [validateSequence, other_child, childNodes, validateNodes, Document.listOf, Items.ofList, forbidExtra, required, defaulted,
    sized_text 64 _ named, delay, child, room]
  rfl

theorem recall_validates : validateNode (recallNode settings) = .ok (recallSpec settings) := by
  apply repeat_read
  have child := cohort_validates settings
  have delay := seconds_validates settings.recallGapSeconds (le_of_lt (settings_bounds settings).recallGap)
  have count : validateTaskValue (.integer settings.recallWaves) = .ok (.literal settings.recallWaves) := rfl
  simp [validateRepeat, childNode, forbidExtra, required, defaulted, sized_text 64 "sustained_recall" (by decide), count, delay,
    child]
  rfl

theorem nodes_validate (documents : List Document) (specs : List TaskNodeSpec)
    (each : List.Forall₂ (fun document spec => validateNode document = .ok spec) documents specs) :
    validateNodes (Items.ofList documents) = .ok specs := by
  induction each with
  | nil => rfl
  | cons here _ ih => simp [Items.ofList, validateNodes, here, ih]

theorem workflow_validates : validateNodes (Items.ofList (probeWorkflow settings)) = .ok (cohortRecipe settings).workflow := by
  have bounds := settings_bounds settings
  apply nodes_validate
  refine .cons (prime_validates settings) (List.rel_append ?_ (.cons (recall_validates settings) .nil))
  rw [List.forall₂_map_left_iff, List.forall₂_map_right_iff, List.forall₂_same]
  rintro ⟨delay, index⟩ member
  have place := List.mem_zipIdx' member
  exact calibration_validates settings (delay, index) (bounds.calibration delay (List.fst_mem_of_mem_zipIdx member))
    (Nat.lt_of_lt_of_le place.1 bounds.phases)

end Nodes

section Runners

variable (lax : Lax)

theorem fields_get_key (fields : Fields) (key : String) (value : Document) (found : fields.get key = some value) :
    key ∈ fields.keys := by
  cases fields with
  | nil => cases found
  | cons name first rest =>
      rw [Fields.get] at found
      by_cases here : name = key
      · rw [here]
        exact List.mem_cons_self
      · rw [if_neg here] at found
        exact List.mem_cons_of_mem name (fields_get_key rest key value found)

theorem runner_reads (fields : Fields) (runner : BenchmarkRunnerSpec)
    (valid : BenchmarkRunnerSpec.validate lax (.object fields) = .ok runner) :
    aliased "concurrent_workers" "concurrent_requests" (validateAbove lax 0) fields = .ok runner.concurrentWorkers ∧
      aliased "worker" "request" WorkerTemplateConfig.validate fields = .ok runner.worker ∧ runner.fieldsSet = fields.keys := by
  obtain ⟨_, _, valid⟩ := (bind_ok _ _ _).mp valid
  obtain ⟨_, _, valid⟩ := (bind_ok _ _ _).mp valid
  obtain ⟨_, window, valid⟩ := (bind_ok _ _ _).mp valid
  obtain ⟨_, _, valid⟩ := (bind_ok _ _ _).mp valid
  obtain ⟨_, _, valid⟩ := (bind_ok _ _ _).mp valid
  obtain ⟨_, _, valid⟩ := (bind_ok _ _ _).mp valid
  obtain ⟨_, _, valid⟩ := (bind_ok _ _ _).mp valid
  obtain ⟨_, _, valid⟩ := (bind_ok _ _ _).mp valid
  obtain ⟨_, _, valid⟩ := (bind_ok _ _ _).mp valid
  obtain ⟨_, _, valid⟩ := (bind_ok _ _ _).mp valid
  obtain ⟨_, _, valid⟩ := (bind_ok _ _ _).mp valid
  obtain ⟨_, _, valid⟩ := (bind_ok _ _ _).mp valid
  obtain ⟨_, worker, valid⟩ := (bind_ok _ _ _).mp valid
  obtain ⟨_, _, valid⟩ := (bind_ok _ _ _).mp valid
  obtain ⟨_, _, valid⟩ := (bind_ok _ _ _).mp valid
  obtain ⟨_, _, done⟩ := (bind_ok _ _ _).mp valid
  cases done
  exact ⟨window, worker, rfl⟩

theorem worker_reads (fields : Fields) (repeats : Nat) (worker : WorkerTemplateConfig)
    (count : fields.get "repeat" = some (.integer repeats)) (some_ : 1 ≤ repeats) (few : repeats ≤ 10000)
    (valid : WorkerTemplateConfig.validate (.object fields) = .ok worker) :
    worker.plan.repeats = repeats ∧ worker.plan.steps = none ∧ worker.cacheProbe = none := by
  obtain ⟨_, _, valid⟩ := (bind_ok _ _ _).mp valid
  obtain ⟨counted, read, valid⟩ := (bind_ok _ _ _).mp valid
  obtain ⟨_, _, valid⟩ := (bind_ok _ _ _).mp valid
  obtain ⟨_, _, valid⟩ := (bind_ok _ _ _).mp valid
  obtain ⟨_, _, done⟩ := (bind_ok _ _ _).mp valid
  cases done
  rw [defaulted, count] at read
  change validateCount 1 Preparation.maxRequestSteps (.integer repeats) = _ at read
  rw [counted_integer 1 Preparation.maxRequestSteps repeats some_ (few.trans (by decide))] at read
  exact ⟨(Except.ok.inj read).symm, rfl, rfl⟩

structure SerialWorkers (benchmark : BenchmarkDocument) (workers : Nat) : Prop where
  count : plannedWorkerCount benchmark = workers
  single : batchConcurrency benchmark = 1

theorem runner_serial (fields config : Fields) (repeats : Nat) (runner : BenchmarkRunnerSpec) (defaults : BenchmarkDocument)
    (window : fields.get "concurrent_workers" = some (.integer 1)) (template : fields.get "worker" = some (.object config))
    (count : config.get "repeat" = some (.integer repeats)) (some_ : 1 ≤ repeats) (few : repeats ≤ 10000)
    (valid : BenchmarkRunnerSpec.validate lax (.object fields) = .ok runner) :
    SerialWorkers (runner.executionBenchmark defaults) repeats := by
  obtain ⟨windowRead, workerRead, fieldsSet⟩ := runner_reads lax fields runner valid
  have declared : "concurrent_workers" ∈ runner.fieldsSet := by
    rw [fieldsSet]
    exact fields_get_key fields _ _ window
  have one : runner.concurrentWorkers = some 1 := by
    rw [aliased, window] at windowRead
    change nullable _ _ _ = _ at windowRead
    rw [nullable, window] at windowRead
    exact (Except.ok.inj windowRead).symm
  rw [aliased, template] at workerRead
  change nullable _ _ _ = _ at workerRead
  rw [nullable, template] at workerRead
  change (WorkerTemplateConfig.validate (.object config)).map some = _ at workerRead
  cases checked : WorkerTemplateConfig.validate (.object config) with
  | error message =>
      rw [checked] at workerRead
      cases workerRead
  | ok worker =>
      rw [checked] at workerRead
      have same : runner.worker = some worker := (Except.ok.inj workerRead).symm
      obtain ⟨repeated, steps, probe⟩ := worker_reads config repeats worker count some_ few checked
      have planned : plannedWorkerCount (runner.executionBenchmark defaults) = repeats := by
        simp [plannedWorkerCount, BenchmarkRunnerSpec.executionBenchmark, BenchmarkRunnerSpec.plan, same, repeated, steps, probe]
      refine ⟨planned, ?_⟩
      have workers : (runner.executionBenchmark defaults).workersOr repeats = 1 := by
        simp [BenchmarkDocument.workersOr, BenchmarkRunnerSpec.executionBenchmark, declared, one]
      rw [batchConcurrency, planned, workers, Nat.min_eq_right some_]
      simp

variable (settings : CacheSizing) (runnerTemplate rawDefault : Fields)

theorem background_serial (runner : BenchmarkRunnerSpec) (defaults : BenchmarkDocument)
    (valid : BenchmarkRunnerSpec.validate lax
      (.object (backgroundRunner settings (runnerDocument settings runnerTemplate rawDefault))) = .ok runner) :
    SerialWorkers (runner.executionBenchmark defaults) settings.backgroundRepeats := by
  have bounds := settings_bounds settings
  apply runner_serial lax _ _ _ runner defaults _ _ _ bounds.repeats.1 bounds.repeats.2 valid
  · exact Fields.ofList [("repeat", .integer settings.backgroundRepeats), ("every", .number settings.backgroundGapSeconds)]
  · simp [backgroundRunner, runnerDocument, fields_get_put, fields_get_pop]
  · simp [backgroundRunner, fields_get_put, Document.record]
  · rfl

theorem probe_serial (runner : BenchmarkRunnerSpec) (defaults : BenchmarkDocument)
    (valid : BenchmarkRunnerSpec.validate lax
      (.object (probeRunner (runnerDocument settings runnerTemplate rawDefault))) = .ok runner) :
    SerialWorkers (runner.executionBenchmark defaults) 1 := by
  apply runner_serial lax _ _ _ runner defaults _ _ _ (le_refl 1) (by decide) valid
  · exact Fields.ofList [("repeat", .integer 1)]
  · simp [probeRunner, runnerDocument, fields_get_put, fields_get_pop]
  · simp [probeRunner, runnerDocument, fields_get_put, fields_get_pop, Document.record]
  · rfl

end Runners

section Campaigns

variable (sha256 : Sha256) (lax : Lax)

theorem definition_validated (name : String) (seed : Nat) (workflow : List Document) (runner : Fields) (root : TaskNodeSpec)
    (roots : List TaskNodeSpec) (definition : TaskDefinition) (named : sized 1 200 name = true) (seeded : seed < 2 ^ 64)
    (few : roots.length < 100) (nodes : validateNodes (Items.ofList workflow) = .ok (root :: roots))
    (valid : TaskDefinition.validate sha256 lax (definitionDocument name seed workflow runner) = .ok definition) :
    definition.recipe = { name := name, instances := plainInstances seed, payloads := .empty, root := root, roots := roots } ∧
      BenchmarkRunnerSpec.validate lax (.object runner) = .ok definition.runner ∧
      validateRecipe sha256 definition.recipe = .ok () := by
  obtain ⟨_, _, valid⟩ := (bind_ok _ _ _).mp valid
  obtain ⟨label, isName, valid⟩ := (bind_ok _ _ _).mp valid
  obtain ⟨instances, isInstances, valid⟩ := (bind_ok _ _ _).mp valid
  obtain ⟨⟨first, others⟩, isWorkflow, valid⟩ := (bind_ok _ _ _).mp valid
  obtain ⟨spec, isRunner, valid⟩ := (bind_ok _ _ _).mp valid
  obtain ⟨_, checked, done⟩ := (bind_ok _ _ _).mp valid
  cases done
  have sameName : label = name := by
    change validateText 200 (.text name) = _ at isName
    rw [sized_text 200 name named] at isName
    exact (Except.ok.inj isName).symm
  have sameInstances : instances = plainInstances seed := by
    obtain ⟨_, _, read⟩ := (bind_ok _ _ _).mp isInstances
    obtain ⟨counted, count, done⟩ := (bind_ok _ _ _).mp read
    change validateCount 0 maxSeed (.integer seed) = _ at count
    rw [counted_integer 0 maxSeed seed (Nat.zero_le _) (Nat.le_pred_of_lt seeded)] at count
    cases done
    rw [← Except.ok.inj count]
    rfl
  have sameWorkflow : (root, roots) = (first, others) := by
    obtain ⟨read, validated, done⟩ := (bind_ok _ _ _).mp isWorkflow
    rw [nodes] at validated
    cases validated
    rw [listed_all root roots few] at done
    exact Except.ok.inj done
  cases sameWorkflow
  refine ⟨?_, isRunner, checked⟩
  rw [sameName, sameInstances]

theorem campaign_definition (fields : Fields) (document : Document) (campaign : BenchmarkCampaignStart)
    (listed : fields.get "task_definitions" = some (.listOf [document]))
    (valid : BenchmarkCampaignStart.validate sha256 lax fields = .ok campaign) :
    ∃ definition, campaign.taskDefinitions = [definition] ∧ TaskDefinition.validate sha256 lax document = .ok definition := by
  obtain ⟨_, _, valid⟩ := (bind_ok _ _ _).mp valid
  obtain ⟨_, _, valid⟩ := (bind_ok _ _ _).mp valid
  obtain ⟨_, _, valid⟩ := (bind_ok _ _ _).mp valid
  obtain ⟨⟨name, description, tags⟩, _, valid⟩ := (bind_ok _ _ _).mp valid
  obtain ⟨definitions, read, valid⟩ := (bind_ok _ _ _).mp valid
  obtain ⟨_, _, done⟩ := (bind_ok _ _ _).mp valid
  cases done
  rw [defaulted, listed] at read
  obtain ⟨mapped, each, checked⟩ := (bind_ok _ _ _).mp read
  rw [items_round, List.mapM_cons] at each
  obtain ⟨definition, validated, rest⟩ := (bind_ok _ _ _).mp each
  cases rest
  cases checked
  exact ⟨definition, rfl, validated⟩

variable (settings : CacheSizing) (runner : Fields)

theorem background_definition (campaign : BenchmarkCampaignStart)
    (valid : BenchmarkCampaignStart.validate sha256 lax ((backgroundDocument settings runner).pop "wait") = .ok campaign) :
    ∃ definition, campaign.taskDefinitions = [definition] ∧ definition.recipe = familiesRecipe settings ∧
      BenchmarkRunnerSpec.validate lax (.object (backgroundRunner settings runner)) = .ok definition.runner ∧
      validateRecipe sha256 definition.recipe = .ok () := by
  obtain ⟨definition, same, validated⟩ := campaign_definition sha256 lax _ _ campaign rfl valid
  refine ⟨definition, same, definition_validated sha256 lax _ _ _ _ _ [] definition (by decide) (by decide) (by decide) ?_ validated⟩
  exact nodes_validate _ _ (.cons (prefixes_validates settings) .nil)

theorem probe_definition (campaign : BenchmarkCampaignStart)
    (valid : BenchmarkCampaignStart.validate sha256 lax ((probeDocument settings runner).pop "wait") = .ok campaign) :
    ∃ definition, campaign.taskDefinitions = [definition] ∧ definition.recipe = cohortRecipe settings ∧
      BenchmarkRunnerSpec.validate lax (.object (probeRunner runner)) = .ok definition.runner ∧
      validateRecipe sha256 definition.recipe = .ok () := by
  obtain ⟨definition, same, validated⟩ := campaign_definition sha256 lax _ _ campaign rfl valid
  refine ⟨definition, same, definition_validated sha256 lax _ _ _ _ _ _ definition (by decide) (by decide) ?_
    (workflow_validates settings) validated⟩
  have phases := (settings_bounds settings).phases
  change (settings.calibrationSeconds.zipIdx.map (calibrationSpec settings) ++ [recallSpec settings]).length < 100
  rw [List.length_append, List.length_map, List.length_zipIdx, List.length_singleton]
  omega

end Campaigns

end LlmperfOrchestrator.Tools

import LlmperfOrchestrator.Compiler.CompiledWaves
import LlmperfOrchestrator.Compiler.SeedMaterials
import LlmperfOrchestrator.CacheTools.SizingDocuments

set_option autoImplicit false

namespace LlmperfOrchestrator.Tools

open Tables Documents Outcomes SeriesParallel Compiler

def waveDelays (settings : CacheSizing) : List Rat :=
  0 :: settings.calibrationSeconds ++ List.replicate settings.recallWaves settings.recallGapSeconds

section Delays

variable (settings : CacheSizing)

theorem wave_delays_sum : (waveDelays settings).sum = settings.probeWaitSeconds := by
  rw [waveDelays, List.cons_append, List.sum_cons, List.sum_append, List.sum_replicate, nsmul_eq_mul, zero_add]
  rfl

theorem wave_delays_length : (waveDelays settings).length = 1 + settings.calibrationSeconds.length + settings.recallWaves := by
  rw [waveDelays, List.cons_append, List.length_cons, List.length_append, List.length_replicate]
  omega

theorem wave_delays_nonneg (gap : Rat) (member : gap ∈ waveDelays settings) : 0 ≤ gap := by
  have bounds := settings_bounds settings
  rcases List.mem_cons.mp member with rfl | later
  · exact le_rfl
  · rcases List.mem_append.mp later with calibrated | recalled
    · exact le_of_lt (bounds.calibration gap calibrated)
    · rw [List.eq_of_mem_replicate recalled]
      exact le_of_lt bounds.recallGap

end Delays

section Trees

variable (settings : CacheSizing) (sha256 : Sha256)

theorem pool_filled (seed count : Nat) (filled : 1 ≤ count) : (SeedPool.generated seed count).values sha256 ≠ [] := by
  apply List.ne_nil_of_length_pos
  rw [pool_values_length]
  exact filled

theorem prefix_wave (name run : String) (role : Option String) (seed count parallelism : Nat) (filled : 1 ≤ count)
    (wide : 1 ≤ parallelism) (levels : Nat) (path : Path) :
    ∃ tree, unfold sha256 [] (levels + 2)
        (.forEachNode (prefixLoop name seed count parallelism) (.runNode (prefixRun run role))) path = .ok tree ∧
      CohortWave 0 (min parallelism count) ((SeedPool.generated seed count).values sha256) tree := by
  have wave := loop_wave (prefixLoop name seed count parallelism) (prefixRun run role) path sha256 [] ⟨rfl, rfl, rfl, rfl⟩
    (pool_filled sha256 seed count filled) wide levels
  rwa [show (prefixLoop name seed count parallelism).values = .generated seed count from rfl, pool_values_length] at wave

theorem families_tree : ∃ tree, workflowTree sha256 (familiesRecipe settings) [] = .ok tree ∧
    CohortWaves [0] settings.poolSize (backgroundSeeds settings sha256) tree := by
  have bounds := settings_bounds settings
  obtain ⟨tree, isTree, wave⟩ := prefix_wave sha256 "prefixes" "batch" (some "background") settings.backgroundPoolSeed
    settings.poolSize settings.poolSize bounds.pool.1 bounds.pool.1 18 []
  rw [Nat.min_self] at wave
  refine ⟨serialList [tree], ?_, ?_⟩
  · rw [workflowTree, show (familiesRecipe settings).workflow = [(familiesRecipe settings).root] from rfl, List.mapM_cons,
      show unfold sha256 [] maxGraphDepth (familiesRecipe settings).root [] = .ok tree from isTree]
    rfl
  · exact wave_series _ _ [[0]] [tree] (.cons (one_wave _ _ 0 tree wave) .nil)

theorem cohort_unfolds (levels : Nat) (path : Path) : ∃ tree, unfold sha256 [] (levels + 2) (cohortSpec settings) path = .ok tree ∧
    CohortWave 0 (min settings.probeLanes settings.cohortSize) (probeSeeds settings sha256) tree := by
  have bounds := settings_bounds settings
  exact prefix_wave sha256 "cohort" "request" none _ _ _ bounds.cohort.1 bounds.lanes.1 levels path

theorem cohort_delayed (name : String) (after : TaskDuration) (tree : Tree)
    (unfolded : unfold sha256 [] maxGraphDepth (.sequenceNode name after (cohortSpec settings) []) [] = .ok tree) :
    ∃ delay, after.resolve [] = .ok delay ∧
      CohortWaves [delay] (min settings.probeLanes settings.cohortSize) (probeSeeds settings sha256) tree := by
  obtain ⟨delay, own, unfolded⟩ := (bind_ok _ _ _).mp unfolded
  obtain ⟨parts, mapped, same⟩ := (bind_ok _ _ _).mp unfolded
  cases same
  obtain ⟨part, isPart, wave⟩ := cohort_unfolds settings sha256 17 ([] ++ [name])
  have step : [cohortSpec settings].mapM (fun node => unfold sha256 [] 19 node ([] ++ [name])) = .ok [part] := by
    rw [List.mapM_cons, isPart]
    rfl
  cases mapped.symm.trans step
  exact ⟨delay, own, one_wave _ _ delay _ (wave_sequence delay _ _ part wave)⟩

theorem literal_delay (seconds delay : Rat) (resolved : TaskDuration.resolve [] ⟨.literal seconds, .s⟩ = .ok delay) :
    delay = seconds := by
  have scaled : seconds * DurationUnit.s.seconds = seconds := mul_one seconds
  simp only [TaskDuration.resolve, TaskDuration.scalar, bind, Except.bind, scaled] at resolved
  split at resolved
  · cases resolved
  · exact (Except.ok.inj resolved).symm

theorem recall_delayed (tree : Tree) (unfolded : unfold sha256 [] maxGraphDepth (recallSpec settings) [] = .ok tree) :
    CohortWaves (List.replicate settings.recallWaves settings.recallGapSeconds) (min settings.probeLanes settings.cohortSize)
      (probeSeeds settings sha256) tree := by
  obtain ⟨iterations, counted, unfolded⟩ := (bind_ok _ _ _).mp unfolded
  obtain ⟨interval, own, unfolded⟩ := (bind_ok _ _ _).mp unfolded
  obtain ⟨parts, mapped, same⟩ := (bind_ok _ _ _).mp unfolded
  cases same
  cases literal_delay _ _ own
  have times : iterations = settings.recallWaves := by
    obtain ⟨resolved, isCount, bounded⟩ := (bind_ok _ _ _).mp counted
    cases isCount
    split at bounded
    · exact (Except.ok.inj bounded).symm
    · cases bounded
  have gaps : ((List.range' 1 iterations).map fun _ => [settings.recallGapSeconds]).flatten =
      List.replicate settings.recallWaves settings.recallGapSeconds := by
    simp [times]
  rw [← gaps]
  apply wave_series
  rw [List.forall₂_map_left_iff, List.forall₂_map_right_iff]
  apply (mapM_pairs _ _ _ mapped).imp
  intro iteration part isPart
  obtain ⟨again, unfoldsAgain, wave⟩ := cohort_unfolds settings sha256 17 ([] ++ ["sustained_recall", toString iteration])
  cases isPart.symm.trans unfoldsAgain
  exact one_wave _ _ _ _ (wave_delayed _ _ _ part wave)

theorem cohort_tree (tree : Tree) (isTree : workflowTree sha256 (cohortRecipe settings) [] = .ok tree) :
    CohortWaves (waveDelays settings) (min settings.probeLanes settings.cohortSize) (probeSeeds settings sha256) tree := by
  obtain ⟨roots, mapped, same⟩ := (bind_ok _ _ _).mp isTree
  cases same
  rw [TaskRecipe.workflow, cohortRecipe, List.mapM_cons] at mapped
  obtain ⟨prime, isPrime, mapped⟩ := (bind_ok _ _ _).mp mapped
  obtain ⟨others, later, done⟩ := (bind_ok _ _ _).mp mapped
  cases done
  rw [List.mapM_append] at later
  obtain ⟨phases, calibrations, later⟩ := (bind_ok _ _ _).mp later
  obtain ⟨last, isLast, done⟩ := (bind_ok _ _ _).mp later
  cases done
  rw [List.mapM_cons] at isLast
  obtain ⟨recalled, isRecall, done⟩ := (bind_ok _ _ _).mp isLast
  cases done
  have first : CohortWaves [0] (min settings.probeLanes settings.cohortSize) (probeSeeds settings sha256) prime := by
    obtain ⟨delay, own, waves⟩ := cohort_delayed settings sha256 "prime" .zero prime isPrime
    cases (zero_duration []).symm.trans own
    exact waves
  have middle : List.Forall₂ (fun gaps tree =>
        CohortWaves gaps (min settings.probeLanes settings.cohortSize) (probeSeeds settings sha256) tree)
      (settings.calibrationSeconds.zipIdx.map fun phase => [phase.1]) phases := by
    rw [List.mapM_map] at calibrations
    rw [List.forall₂_map_left_iff]
    apply (mapM_pairs _ _ _ calibrations).imp
    intro phase part isPart
    obtain ⟨delay, own, waves⟩ := cohort_delayed settings sha256 _ _ part isPart
    cases literal_delay _ _ own
    exact waves
  have gaps : ([0] :: (settings.calibrationSeconds.zipIdx.map (fun phase => [phase.1]) ++
      [List.replicate settings.recallWaves settings.recallGapSeconds])).flatten = waveDelays settings := by
    have singles : (settings.calibrationSeconds.zipIdx.map fun phase => [phase.1]).flatten = settings.calibrationSeconds := by
      rw [← List.flatMap_def, ← List.map_eq_flatMap, List.zipIdx_map_fst]
    rw [List.flatten_cons, List.flatten_append, singles]
    simp [waveDelays]
  rw [← gaps]
  exact wave_series _ _ _ _ (.cons first (List.rel_append middle (.cons (recall_delayed settings sha256 recalled isRecall) .nil)))

end Trees

structure BackgroundAgrees (settings : CacheSizing) (sha256 : Sha256) (definition : TaskDefinition) (benchmark : BenchmarkDocument)
    (table : CompilationTable) : Prop where
  compiled : compile sha256 definition.recipe benchmark.template = .ok table
  runners : table.runnerCount = settings.poolSize ∧ settings.poolSize = (evaluate settings).background.runners
  workers : ∀ node ∈ table.nodes, plannedWorkers benchmark node.executionKind = settings.backgroundRepeats ∧
    settings.backgroundRepeats = (evaluate settings).background.workersPerRunner
  estimated : ∀ requestsPerActor, 1 ≤ requestsPerActor →
    ∃ estimated, estimate sha256 definition.recipe benchmark requestsPerActor = .ok estimated ∧
      estimated.runners = (evaluate settings).background.runners ∧ estimated.requests = (evaluate settings).background.requests

structure ProbeAgrees (settings : CacheSizing) (sha256 : Sha256) (definition : TaskDefinition) (benchmark : BenchmarkDocument)
    (table : CompilationTable) : Prop where
  compiled : compile sha256 definition.recipe benchmark.template = .ok table
  nodes : table.nodes.length = settings.probeRequests ∧ settings.probeRequests = (evaluate settings).probe.requests
  runners : table.runnerCount = (evaluate settings).probe.runners
  workers : ∀ node ∈ table.nodes, plannedWorkers benchmark node.executionKind = 1
  estimated : ∀ requestsPerActor, 1 ≤ requestsPerActor →
    ∃ estimated, estimate sha256 definition.recipe benchmark requestsPerActor = .ok estimated ∧
      estimated.runners = (evaluate settings).probe.runners ∧ estimated.requests = (evaluate settings).probe.requests ∧
      estimated.peakRunners = min settings.probeLanes settings.cohortSize ∧
      estimated.peakRequests = min settings.probeLanes settings.cohortSize
  peak : min settings.probeLanes settings.cohortSize = (evaluate settings).probe.maximumConcurrency
  span : plannedSpan table.nodes = settings.probeWaitSeconds ∧
    settings.probeWaitSeconds = (evaluate settings).probe.minimumWaitBudgetSeconds
  waves : ∃ waves, CompiledWaves (waveDelays settings) (probeSeeds settings sha256) table.nodes waves ∧
    waves.length = 1 + settings.calibrationSeconds.length + settings.recallWaves ∧
    ∀ wave ∈ waves, ∀ seed ∈ probeSeeds settings sha256, (wave.map CompiledNodeRow.prefixSeed).count (some seed) = 1

section Agreement

variable (sha256 : Sha256) (settings : CacheSizing) (definition : TaskDefinition) (benchmark : BenchmarkDocument)

theorem background_agrees (recipe : definition.recipe = familiesRecipe settings)
    (accepted : validateRecipe sha256 definition.recipe = .ok ()) (serial : SerialWorkers benchmark settings.backgroundRepeats) :
    ∃ table, BackgroundAgrees settings sha256 definition benchmark table ∧
      ∀ node ∈ table.nodes, ∃ seed ∈ backgroundSeeds settings sha256, node.prefixSeed = some seed := by
  obtain ⟨tree, isTree, runs⟩ := families_tree settings sha256
  rw [← recipe] at isTree
  obtain ⟨table, cohort⟩ := cohort_compiles sha256 definition.recipe benchmark [0] settings.poolSize (backgroundSeeds settings sha256)
    accepted (by rw [recipe]; exact ⟨rfl, rfl⟩) (fun gap member => (List.mem_singleton.mp member).ge) (List.cons_ne_nil _ _)
    fun other again => by cases isTree.symm.trans again; exact runs
  have size : table.nodes.length = settings.poolSize := by
    rw [cohort.size, backgroundSeeds, pool_values_length]
    exact Nat.mul_one _
  obtain ⟨waves, cut⟩ := cohort.waves
  refine ⟨table, ⟨cohort.compiled, ⟨cohort.runners.trans size, rfl⟩, fun node member => ?_,
    fun requestsPerActor positive => ?_⟩, waves_seeded _ _ _ waves cut⟩
  · exact ⟨(cohort.workers node member).trans serial.count, rfl⟩
  · obtain ⟨estimated, counted, runners, requests, _⟩ := cohort.estimated requestsPerActor positive
    rw [size] at runners requests
    rw [serial.count] at requests
    exact ⟨estimated, counted, runners, requests⟩

theorem probe_agrees (recipe : definition.recipe = cohortRecipe settings)
    (accepted : validateRecipe sha256 definition.recipe = .ok ()) (serial : SerialWorkers benchmark 1) :
    ∃ table, ProbeAgrees settings sha256 definition benchmark table ∧
      ∀ node ∈ table.nodes, ∃ seed ∈ probeSeeds settings sha256, node.prefixSeed = some seed := by
  have bounds := settings_bounds settings
  have nonneg := wave_delays_nonneg settings
  have busy : waveDelays settings ≠ [] := List.cons_ne_nil _ _
  obtain ⟨table, cohort⟩ := cohort_compiles sha256 definition.recipe benchmark (waveDelays settings)
    (min settings.probeLanes settings.cohortSize) (probeSeeds settings sha256) accepted (by rw [recipe]; exact ⟨rfl, rfl⟩) nonneg busy
    (by rw [recipe]; exact cohort_tree settings sha256)
  have size : table.nodes.length = settings.probeRequests := by
    rw [cohort.size, probeSeeds, pool_values_length, wave_delays_length]
    rfl
  obtain ⟨waves, cut⟩ := cohort.waves
  have distinct := (pool_values_sound sha256 settings.probePoolSeed settings.cohortSize (bounds.cohort.2.trans (by decide))).1
  have span := waves_span (waveDelays settings) (probeSeeds settings sha256) table.nodes waves cut
    (pool_filled sha256 _ _ bounds.cohort.1) busy nonneg
  refine ⟨table, ⟨cohort.compiled, ⟨size, rfl⟩, cohort.runners.trans size, fun node member => ?_,
    fun requestsPerActor positive => ?_, Nat.min_eq_left bounds.narrow, ⟨span.trans (wave_delays_sum settings), rfl⟩,
    waves, cut, ?_, fun wave member seed held => ?_⟩, waves_seeded _ _ _ waves cut⟩
  · exact (cohort.workers node member).trans serial.count
  · obtain ⟨estimated, counted, runners, requests, peakRunners, peakRequests⟩ := cohort.estimated requestsPerActor positive
    rw [size] at runners requests
    rw [serial.count, Nat.mul_one] at requests
    rw [serial.single, Nat.mul_one] at peakRequests
    exact ⟨estimated, counted, runners, requests, peakRunners, peakRequests⟩
  · rw [cut.count, wave_delays_length]
  · rw [cut.seeds wave member, List.count_map_of_injective _ _ (Option.some_injective Nat)]
    exact List.count_eq_one_of_mem distinct held

theorem campaigns_built (runnerTemplate backgroundFields probeFields : Fields)
    (built : buildCampaigns settings sha256 runnerTemplate = .ok (backgroundFields, probeFields)) :
    ∃ rawDefault, backgroundFields = backgroundDocument settings (runnerDocument settings runnerTemplate rawDefault) ∧
      probeFields = probeDocument settings (runnerDocument settings runnerTemplate rawDefault) ∧
      ∀ seed ∈ probeSeeds settings sha256, seed ∉ backgroundSeeds settings sha256 := by
  rw [buildCampaigns] at built
  split at built
  · split at built
    · rename_i rawDefault _
      obtain ⟨apart, done⟩ := (checked_ok _ _ _ _).mp built
      cases done
      refine ⟨rawDefault, rfl, rfl, fun seed held shared => apart ?_⟩
      exact List.any_eq_true.mpr ⟨seed, held, decide_eq_true shared⟩
    · cases built
  · cases built

theorem cache_sizing_agrees (lax : Lax) (runnerTemplate backgroundFields probeFields : Fields)
    (built : buildCampaigns settings sha256 runnerTemplate = .ok (backgroundFields, probeFields))
    (background probe : BenchmarkCampaignStart)
    (backgroundAccepted : BenchmarkCampaignStart.validate sha256 lax (backgroundFields.pop "wait") = .ok background)
    (probeAccepted : BenchmarkCampaignStart.validate sha256 lax (probeFields.pop "wait") = .ok probe) (defaults : BenchmarkDocument) :
    ∃ families cohort familiesTable cohortTable, background.taskDefinitions = [families] ∧ probe.taskDefinitions = [cohort] ∧
      BackgroundAgrees settings sha256 families (families.runner.executionBenchmark defaults) familiesTable ∧
      ProbeAgrees settings sha256 cohort (cohort.runner.executionBenchmark defaults) cohortTable ∧
      ∀ one ∈ familiesTable.nodes, ∀ other ∈ cohortTable.nodes, one.prefixSeed ≠ other.prefixSeed := by
  obtain ⟨rawDefault, rfl, rfl, apart⟩ := campaigns_built sha256 settings runnerTemplate backgroundFields probeFields built
  obtain ⟨families, onlyFamilies, familiesOf, familiesRunner, familiesValid⟩ :=
    background_definition sha256 lax settings _ background backgroundAccepted
  obtain ⟨cohort, onlyCohort, cohortOf, cohortRunner, cohortValid⟩ := probe_definition sha256 lax settings _ probe probeAccepted
  obtain ⟨familiesTable, familiesAgree, familiesSeeds⟩ := background_agrees sha256 settings families _ familiesOf familiesValid
    (background_serial lax settings runnerTemplate rawDefault families.runner defaults familiesRunner)
  obtain ⟨cohortTable, cohortAgree, cohortSeeds⟩ := probe_agrees sha256 settings cohort _ cohortOf cohortValid
    (probe_serial lax settings runnerTemplate rawDefault cohort.runner defaults cohortRunner)
  refine ⟨families, cohort, familiesTable, cohortTable, onlyFamilies, onlyCohort, familiesAgree, cohortAgree, ?_⟩
  intro one inFamilies other inCohort same
  obtain ⟨seed, held, isSeed⟩ := familiesSeeds one inFamilies
  obtain ⟨probed, inProbe, isProbed⟩ := cohortSeeds other inCohort
  rw [isSeed, isProbed] at same
  cases same
  exact apart _ inProbe held

end Agreement

def smallSettings : CacheSizing where
  l3Gib := 1000
  l4Gib := 4916
  kvBytesPerToken := 14336
  poolSize := 2
  cohortSize := 2
  backgroundPoolSeed := 7
  probePoolSeed := 11
  backgroundConcurrentWorkers := 1
  probeLanes := 2
  calibrationSeconds := [600]
  recallWaves := 1
  accepted := by decide +kernel

def smallRunner : Fields :=
  Fields.ofList [("provider", .text "dfs"), ("model", .text "m"),
    ("inputs", .record [("default", .record [("tokens", .integer 128)])])]

def lengthHash : Sha256 := fun text => Fin.ofNat (2 ^ 256) (text.length * 100 * 2 ^ 192)

def strictTypes : Lax := ⟨fun _ => none, fun _ => none⟩

theorem option_ok {Value : Type} (result : Except String Value) (value : Value) (present : result.toOption = some value) :
    result = .ok value := by
  cases result with
  | error message => cases present
  | ok other => exact congrArg Except.ok (Option.some.inj present)

def resultOf {Value : Type} (result : Except String Value) (present : result.toOption.isSome) : { value // result = .ok value } :=
  ⟨result.toOption.get present, option_ok result _ (Option.some_get present).symm⟩

def smallDocuments := resultOf (buildCampaigns smallSettings lengthHash smallRunner) (by decide +kernel)

def smallBackground :=
  resultOf (BenchmarkCampaignStart.validate lengthHash strictTypes (smallDocuments.val.1.pop "wait")) (by decide +kernel)

def smallProbe :=
  resultOf (BenchmarkCampaignStart.validate lengthHash strictTypes (smallDocuments.val.2.pop "wait")) (by decide +kernel)

theorem cache_sizing_agrees_small :
    ∃ families cohort familiesTable cohortTable, smallBackground.val.taskDefinitions = [families] ∧
      smallProbe.val.taskDefinitions = [cohort] ∧
      BackgroundAgrees smallSettings lengthHash families (families.runner.executionBenchmark .blank) familiesTable ∧
      ProbeAgrees smallSettings lengthHash cohort (cohort.runner.executionBenchmark .blank) cohortTable ∧
      ∀ one ∈ familiesTable.nodes, ∀ other ∈ cohortTable.nodes, one.prefixSeed ≠ other.prefixSeed :=
  cache_sizing_agrees lengthHash smallSettings strictTypes smallRunner smallDocuments.val.1 smallDocuments.val.2
    smallDocuments.property smallBackground.val smallProbe.val smallBackground.property smallProbe.property .blank

end LlmperfOrchestrator.Tools

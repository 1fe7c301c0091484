import LlmperfOrchestrator.Compiler.ConcurrencyBound
import LlmperfOrchestrator.Compiler.EstimateAgreement
import LlmperfOrchestrator.Compiler.AdmissionCounts
import LlmperfOrchestrator.Library.Loads
import Mathlib.Algebra.Group.Action.Defs

set_option autoImplicit false

namespace LlmperfOrchestrator.Compiler.Admission

open Tables Outcomes PlanOccurrences Runtime.Recurrence SeriesParallel Loads

structure BenchmarkCost where
  requests : Nat
  concurrency : Nat
  unknown : Nat
deriving DecidableEq, Repr

def benchmarkCost (schedulerCapacity : Nat) : Option BenchmarkDocument → BenchmarkCost
  | none => ⟨0, 0, 1⟩
  | some benchmark =>
      match benchmark.cacheProbe with
      | some probe =>
          { requests := probe.trials * (1 + probe.repeatsAfterPrime)
            concurrency := min (benchmark.workersOr schedulerCapacity) probe.trials
            unknown := 0 }
      | none =>
          let requests := plannedWorkerCount benchmark
          let concurrency := min (benchmark.workersOr schedulerCapacity) requests
          { requests := requests, concurrency := if benchmark.paced then min concurrency 1 else concurrency, unknown := 0 }

structure AdmissionTotals where
  plannedRunners : Int
  providerRequests : Int
  maxRunnerConcurrency : Int
  unknownBenchmarks : Int
deriving DecidableEq, Repr

def addCost (total : AdmissionTotals) (cost : BenchmarkCost) (multiplier : Int) : AdmissionTotals :=
  { plannedRunners := total.plannedRunners + multiplier
    providerRequests := total.providerRequests + cost.requests * multiplier
    maxRunnerConcurrency := max total.maxRunnerConcurrency cost.concurrency
    unknownBenchmarks := total.unknownBenchmarks + cost.unknown }

structure Workload (Benchmark : Type) where
  runners : List Benchmark
  plans : List (RunnerPlanTiming × Benchmark)
  definitions : List (TaskRecipe × Benchmark)

structure Capacities where
  rayActorCapacity : Option Nat
  rayActorMaxConcurrency : Nat
  maxEffectiveConcurrency : Nat

def Capacities.schedulerCapacity (capacities : Capacities) : Nat :=
  match capacities.rayActorCapacity with
  | some actors => actors * capacities.rayActorMaxConcurrency
  | none => capacities.maxEffectiveConcurrency

def estimatedBenchmark (schedulerCapacity : Nat) : Option BenchmarkDocument → BenchmarkDocument
  | none => .blank
  | some benchmark =>
      if benchmark.concurrentWorkers = none then { benchmark with concurrentWorkers := some schedulerCapacity } else benchmark

structure TaskCharges where
  total : AdmissionTotals
  peakRequests : Int
deriving DecidableEq, Repr

section Assessment

variable (sha256 : Sha256) (zones : Zones) (capacities : Capacities) (now : Int)

def chargeRunner (total : AdmissionTotals) (benchmark : Option BenchmarkDocument) : Except String AdmissionTotals :=
  .ok (addCost total (benchmarkCost capacities.schedulerCapacity benchmark) 1)

def chargePlan (total : AdmissionTotals) (plan : RunnerPlanTiming × Option BenchmarkDocument) :
    Except String AdmissionTotals := do
  let occurrences ← planOccurrences .binary64 zones plan.1 now
  .ok (addCost total (benchmarkCost capacities.schedulerCapacity plan.2) occurrences)

def chargeDefinition (charges : TaskCharges) (definition : TaskRecipe × Option BenchmarkDocument) :
    Except String TaskCharges := do
  validateRecipe sha256 definition.1
  let expansion ← estimate sha256 definition.1 (estimatedBenchmark capacities.schedulerCapacity definition.2)
    capacities.rayActorMaxConcurrency
  let known := definition.2.isSome
  .ok {
    total := {
      plannedRunners := charges.total.plannedRunners + expansion.runners
      providerRequests := charges.total.providerRequests + expansion.requests
      maxRunnerConcurrency := max charges.total.maxRunnerConcurrency (if known then expansion.maxConcurrency else 0)
      unknownBenchmarks := charges.total.unknownBenchmarks + if known then 0 else 1 }
    peakRequests := charges.peakRequests + expansion.peakRequests }

-- requested_concurrency of assess_workload.
def requestedConcurrency (schedulerSlots : Nat) (runtimeConcurrentWorkers : Option Nat)
    (workload : Workload (Option BenchmarkDocument)) : Except String Int :=
  if capacities.rayActorMaxConcurrency < 1 then .error "ray_actor_max_concurrency must be positive"
  else if runtimeConcurrentWorkers = some 0 then .error "Runtime concurrent_workers must be positive"
  else do
    let ordinary ← workload.runners.foldlM (chargeRunner capacities) ⟨0, 0, 0, 0⟩
    let ordinary ← workload.plans.foldlM (chargePlan zones capacities now) ordinary
    let charged ← workload.definitions.foldlM (chargeDefinition sha256 capacities)
      ⟨ordinary, ordinary.plannedRunners * ordinary.maxRunnerConcurrency⟩
    let effective := min charged.peakRequests
      (min charged.total.plannedRunners schedulerSlots * charged.total.maxRunnerConcurrency)
    match runtimeConcurrentWorkers with
    | none => .ok effective
    | some limit => .ok (min effective limit)

end Assessment

structure Validated (benchmark : BenchmarkDocument) : Prop where
  repeats : 1 ≤ benchmark.repeats
  steps : ∀ steps ∈ benchmark.steps, 1 ≤ steps
  workers : ∀ workers ∈ benchmark.concurrentWorkers, 1 ≤ workers
  probe : ∀ probe ∈ benchmark.cacheProbe, 2 ≤ probe.trials ∧ 1 ≤ probe.repeatsAfterPrime
  paced : benchmark.paced = true → benchmark.steps = none ∧ benchmark.cacheProbe = none

def contribution (schedulerCapacity : Nat) (benchmark : BenchmarkDocument) : Nat :=
  if benchmark.paced then 1
  else
    let window := min (benchmark.workersOr schedulerCapacity) (plannedWorkerCount benchmark)
    match benchmark.cacheProbe with
    | some probe => min window probe.trials
    | none => window

def nodeContribution (schedulerCapacity : Nat) (benchmark : BenchmarkDocument) (node : CompiledNodeRow) : Nat :=
  if node.executionKind = .batch then contribution schedulerCapacity benchmark else 1

structure Configuration where
  runners : List Bool
  occurrences : List Nat
  nodes : List (List (List CompiledNodeRow))

def Configuration.size (configuration : Configuration) : Nat :=
  (configuration.runners.map Bool.toNat).sum + configuration.occurrences.sum +
    (configuration.nodes.map fun instances => (instances.map List.length).sum).sum

section Configurations

variable (sha256 : Sha256) (zones : Zones) (schedulerCapacity : Nat) (now : Int)

def instanceLoad (benchmark : BenchmarkDocument) (chosen : List CompiledNodeRow) : Nat :=
  (chosen.map (nodeContribution schedulerCapacity benchmark)).sum

def Configuration.load (configuration : Configuration) (workload : Workload BenchmarkDocument) : Nat :=
  ((workload.runners.zip configuration.runners).map fun entry => entry.2.toNat * contribution schedulerCapacity entry.1).sum +
    ((workload.plans.zip configuration.occurrences).map fun entry => entry.2 * contribution schedulerCapacity entry.1.2).sum +
    ((workload.definitions.zip configuration.nodes).map fun entry =>
      (entry.2.map (instanceLoad schedulerCapacity entry.1.2)).sum).sum

def Occurs (timing : RunnerPlanTiming) (number : Nat) : Prop :=
  ∃ count total, Yielded .binary64 zones timing now count total ∧ number ≤ total

def Chosen (recipe : TaskRecipe) (entry : Dimensions × Nat) (chosen : List CompiledNodeRow) : Prop :=
  ∃ rows, expandGraph sha256 (instanceContext recipe entry.1 entry.2) (instanceKeyOf entry.1 entry.2) recipe.workflow = .ok rows ∧
    chosen.Sublist rows ∧ Incomparable rows (chosen.map CompiledNodeRow.nodeId).toFinset

structure Configured (workload : Workload BenchmarkDocument) (configuration : Configuration) : Prop where
  runners : configuration.runners.length = workload.runners.length
  occurrences : List.Forall₂ (fun plan number => Occurs zones now plan.1 number) workload.plans configuration.occurrences
  nodes : List.Forall₂ (fun definition instances =>
    List.Forall₂ (Chosen sha256 definition.1) (compiledInstances definition.1) instances) workload.definitions configuration.nodes

end Configurations

def Workload.known (workload : Workload BenchmarkDocument) : Workload (Option BenchmarkDocument) :=
  { runners := workload.runners.map some
    plans := workload.plans.map fun plan => (plan.1, some plan.2)
    definitions := workload.definitions.map fun definition => (definition.1, some definition.2) }

structure Workload.Valid (workload : Workload BenchmarkDocument) : Prop where
  runners : ∀ benchmark ∈ workload.runners, Validated benchmark
  plans : ∀ plan ∈ workload.plans, Validated plan.2
  definitions : ∀ definition ∈ workload.definitions, Validated definition.2

structure Capacities.Valid (capacities : Capacities) : Prop where
  actors : ∀ actors ∈ capacities.rayActorCapacity, 1 ≤ actors
  concurrency : 1 ≤ capacities.rayActorMaxConcurrency
  guard : 1 ≤ capacities.maxEffectiveConcurrency

section Contributions

variable (schedulerCapacity : Nat) (benchmark : BenchmarkDocument) (room : 1 ≤ schedulerCapacity) (valid : Validated benchmark)
include room valid

theorem workers_positive : 1 ≤ benchmark.workersOr schedulerCapacity := by
  rw [BenchmarkDocument.workersOr]
  cases given : benchmark.concurrentWorkers with
  | none => exact room
  | some workers =>
      have positive := valid.workers workers given
      simp only
      rw [if_neg (by omega)]
      exact positive

omit room in
theorem paced_count (paced : benchmark.paced = true) : 1 ≤ plannedWorkerCount benchmark := by
  obtain ⟨noSteps, noProbe⟩ := valid.paced paced
  rw [plannedWorkerCount, noProbe, noSteps]
  simpa using valid.repeats

theorem cost_contribution : contribution schedulerCapacity benchmark ≤
    (benchmarkCost schedulerCapacity (some benchmark)).concurrency := by
  have workers := workers_positive schedulerCapacity benchmark room valid
  rw [contribution, benchmarkCost]
  by_cases paced : benchmark.paced = true
  · have count := paced_count benchmark valid paced
    rw [if_pos paced, (valid.paced paced).2]
    simp only [paced, if_true]
    omega
  · rw [if_neg paced]
    cases benchmark.cacheProbe with
    | none =>
        simp only [if_neg paced]
        exact le_refl _
    | some probe =>
        simp only
        omega

theorem estimated_window (fallback : Nat) :
    (estimatedBenchmark schedulerCapacity (some benchmark)).workersOr fallback = benchmark.workersOr schedulerCapacity := by
  rw [estimatedBenchmark]
  cases given : benchmark.concurrentWorkers with
  | none =>
      rw [if_pos rfl]
      simp only [BenchmarkDocument.workersOr, given]
      exact if_neg (by omega)
  | some workers =>
      have positive := valid.workers workers given
      rw [if_neg (by simp)]
      simp only [BenchmarkDocument.workersOr, given]
      rw [if_neg (by omega), if_neg (by omega)]

theorem batch_contribution : contribution schedulerCapacity benchmark ≤
    batchConcurrency (estimatedBenchmark schedulerCapacity (some benchmark)) := by
  have workers := workers_positive schedulerCapacity benchmark room valid
  have count : plannedWorkerCount (estimatedBenchmark schedulerCapacity (some benchmark)) = plannedWorkerCount benchmark := by
    rw [estimatedBenchmark]
    by_cases absent : benchmark.concurrentWorkers = none
    · rw [if_pos absent]
      rfl
    · rw [if_neg absent]
  have pace : (estimatedBenchmark schedulerCapacity (some benchmark)).paced = benchmark.paced := by
    rw [estimatedBenchmark]
    by_cases absent : benchmark.concurrentWorkers = none
    · rw [if_pos absent]
    · rw [if_neg absent]
  rw [contribution, batchConcurrency, estimated_window schedulerCapacity benchmark room valid, count, pace]
  by_cases paced : benchmark.paced = true
  · have many := paced_count benchmark valid paced
    rw [if_pos paced, if_pos paced]
    omega
  · rw [if_neg paced, if_neg paced]
    cases benchmark.cacheProbe with
    | none => simp only; omega
    | some probe => simp only; omega

theorem node_contribution (node : CompiledNodeRow) : nodeContribution schedulerCapacity benchmark node ≤
    nodeConcurrency (estimatedBenchmark schedulerCapacity (some benchmark)) node.executionKind := by
  rw [nodeContribution, nodeConcurrency]
  by_cases batch : node.executionKind = .batch
  · rw [if_pos batch, if_pos batch]
    exact batch_contribution schedulerCapacity benchmark room valid
  · rw [if_neg batch, if_neg batch]

end Contributions

section Instances

variable (sha256 : Sha256) (recipe : TaskRecipe) (benchmark : BenchmarkDocument)

def requestWeights (outlines : List Outline) : Dict NodeId Nat :=
  outlines.map fun outline => (outline.node, nodeConcurrency benchmark outline.data.1)

def coordinatePeak (dimensions : Dimensions) : Nat :=
  match workflowTree sha256 recipe dimensions with
  | .error _ => 0
  | .ok tree => tree.peak (weightOf (requestWeights benchmark ((tree.rows [] 0).map outlineOf)))

theorem weights_outline (rows : List CompiledNodeRow) :
    (rows.map fun row => (row.nodeId, nodeConcurrency benchmark row.executionKind)) =
      requestWeights benchmark (rows.map CompiledNodeRow.outline) := by
  rw [requestWeights, List.map_map]
  rfl

theorem coordinate_peak (totals next : EstimateTotals) (entry : Dimensions × Nat)
    (done : estimateCoordinate sha256 recipe benchmark totals entry = .ok next) :
    next.peakRequests = totals.peakRequests + coordinatePeak sha256 recipe benchmark entry.1 * recipe.instances.trials ∧
      totals.maxConcurrency ≤ next.maxConcurrency ∧
      ∃ nodes, expandGraph sha256 (instanceContext recipe entry.1 0) s!"estimate-{entry.2}" recipe.workflow = .ok nodes ∧
        ∀ node ∈ nodes, nodeConcurrency benchmark node.executionKind ≤ next.maxConcurrency := by
  obtain ⟨nodes, expanded, done⟩ := (bind_ok _ _ _).mp done
  obtain ⟨_, _, done⟩ := (bind_ok _ _ _).mp done
  obtain ⟨_, _, done⟩ := (bind_ok _ _ _).mp done
  obtain ⟨peak, isPeak, done⟩ := (bind_ok _ _ _).mp done
  cases done
  obtain ⟨tree, isTree, outlines, _⟩ := graph_tree sha256 recipe entry.1 0 _ nodes expanded
  have known := (roots_peak sha256 entry.1 _ recipe tree isTree).symm.trans isPeak
  rw [weights_outline, outlines] at known
  have same : coordinatePeak sha256 recipe benchmark entry.1 = peak := by
    rw [coordinatePeak, isTree]
    exact Except.ok.inj known
  refine ⟨by rw [same], le_max_left _ _, nodes, expanded, fun node member => ?_⟩
  have below : nodeConcurrency benchmark node.executionKind ≤
      highest (nodes.map fun node => nodeConcurrency benchmark node.executionKind) :=
    List.le_max_of_le' 0 (List.mem_map_of_mem member) (le_refl _)
  exact below.trans (le_max_right _ _)

theorem chosen_weight (rows chosen : List CompiledNodeRow) (unique : (rows.map CompiledNodeRow.nodeId).Nodup)
    (some : chosen.Sublist rows) :
    ∑ u ∈ (chosen.map CompiledNodeRow.nodeId).toFinset, weightOf (requestWeights benchmark (rows.map CompiledNodeRow.outline)) u =
      (chosen.map fun node => nodeConcurrency benchmark node.executionKind).sum := by
  rw [List.sum_toFinset _ (unique.sublist (some.map CompiledNodeRow.nodeId)), List.map_map]
  congr 1
  apply List.map_congr_left
  intro row member
  have entry : (row.nodeId, nodeConcurrency benchmark row.executionKind) ∈
      requestWeights benchmark (rows.map CompiledNodeRow.outline) := by
    rw [← weights_outline]
    exact List.mem_map.mpr ⟨row, some.subset member, rfl⟩
  have keys : (Dict.keys (requestWeights benchmark (rows.map CompiledNodeRow.outline))).Nodup := by
    rw [← weights_outline, Dict.keys, List.map_map]
    exact unique
  rw [Function.comp_apply, weightOf, dict_get_of_mem _ _ _ keys entry]
  rfl

theorem instance_peak (accepted : validateRecipe sha256 recipe = .ok ()) (entry : Dimensions × Nat)
    (known : entry ∈ compiledInstances recipe) (chosen : List CompiledNodeRow) (isChosen : Chosen sha256 recipe entry chosen) :
    (chosen.map fun node => nodeConcurrency benchmark node.executionKind).sum ≤ coordinatePeak sha256 recipe benchmark entry.1 ∧
      chosen.length ≤ coordinateWeight sha256 recipe (fun _ => 1) entry.1 := by
  obtain ⟨dimensions, coordinate, inTrials⟩ := List.mem_flatMap.mp known
  obtain ⟨trial, _, rfl⟩ := List.mem_map.mp inTrials
  obtain ⟨rows, expanded, some, apart⟩ := isChosen
  obtain ⟨tree, again, isTree, expandedAgain, unique, named, outlines, order⟩ :=
    expansion_tree sha256 recipe dimensions accepted coordinate trial (instanceKeyOf dimensions trial)
  cases expanded.symm.trans expandedAgain
  constructor
  · rw [coordinatePeak, isTree]
    have bound := incomparable_peak tree rows unique named order
      (weightOf (requestWeights benchmark (rows.map CompiledNodeRow.outline))) _ apart
    rwa [chosen_weight benchmark rows chosen (named ▸ unique) some, outlines] at bound
  · have count := expansion_weight sha256 recipe (fun _ => 1) dimensions trial _ rows expanded
    rw [← count, measured, List.map_const', List.sum_replicate_nat, Nat.mul_one]
    exact some.length_le

theorem estimate_totals (requestsPerActor : Nat) (expansion : Estimate)
    (estimated : estimate sha256 recipe benchmark requestsPerActor = .ok expansion) :
    expansion.peakRequests = ((compiledInstances recipe).map fun entry => coordinatePeak sha256 recipe benchmark entry.1).sum ∧
      expansion.runners = ((compiledInstances recipe).map fun entry => coordinateWeight sha256 recipe (fun _ => 1) entry.1).sum ∧
      ∀ dimensions ∈ matrixCoordinates recipe, ∃ instanceKey nodes,
        expandGraph sha256 (instanceContext recipe dimensions 0) instanceKey recipe.workflow = .ok nodes ∧
          ∀ node ∈ nodes, nodeConcurrency benchmark node.executionKind ≤ expansion.maxConcurrency := by
  rw [estimate] at estimated
  by_cases few : requestsPerActor < 1
  · rw [if_pos few] at estimated
    cases estimated
  rw [if_neg few] at estimated
  obtain ⟨totals, isTotals, same⟩ := (bind_ok _ _ _).mp estimated
  cases same
  obtain ⟨_, _, done⟩ := (bind_ok _ _ _).mp isTotals
  have peaks := fold_sum _ EstimateTotals.peakRequests
    (fun entry => coordinatePeak sha256 recipe benchmark entry.1 * recipe.instances.trials) _ _ _ done
    fun before entry after _ taken => (coordinate_peak sha256 recipe benchmark before after entry taken).1
  have runners := fold_sum _ EstimateTotals.runnerCount
    (fun entry => coordinateWeight sha256 recipe (fun _ => 1) entry.1 * recipe.instances.trials) _ _ _ done
    fun before entry after _ taken => (coordinate_totals sha256 recipe benchmark before after entry taken).2.2.1
  rw [zip_index_sum fun dimensions => coordinatePeak sha256 recipe benchmark dimensions * recipe.instances.trials] at peaks
  rw [zip_index_sum fun dimensions => coordinateWeight sha256 recipe (fun _ => 1) dimensions * recipe.instances.trials] at runners
  rw [instances_sum recipe (coordinatePeak sha256 recipe benchmark),
    instances_sum recipe (coordinateWeight sha256 recipe fun _ => 1)]
  refine ⟨peaks.trans (Nat.zero_add _), runners.trans (Nat.zero_add _), fun dimensions coordinate => ?_⟩
  obtain ⟨index, read⟩ := List.getElem?_of_mem coordinate
  obtain ⟨before, after, taken, reached⟩ := fold_reaches _ (fun totals => (totals.maxConcurrency : Int)) _
    (fun before entry after taken =>
      Int.ofNat_le.mpr (coordinate_peak sha256 recipe benchmark before after entry taken).2.1) _ _ done
    (dimensions, index) (List.mk_mem_zipIdx_iff_getElem?.mpr read)
  obtain ⟨_, _, nodes, expanded, below⟩ := coordinate_peak sha256 recipe benchmark before after _ taken
  exact ⟨_, nodes, expanded, fun node member => (below node member).trans (Int.ofNat_le.mp reached)⟩

theorem matched_sum (entries : List (Dimensions × Nat)) (instances : List (List CompiledNodeRow))
    (amount : List CompiledNodeRow → Nat) (bound : Dimensions × Nat → Nat)
    (matched : List.Forall₂ (fun entry chosen => amount chosen ≤ bound entry) entries instances) :
    (instances.map amount).sum ≤ (entries.map bound).sum := by
  induction matched with
  | nil => exact le_refl _
  | cons here _ ih =>
      simp only [List.map_cons, List.sum_cons]
      omega

theorem width_sum (instances : List (List CompiledNodeRow)) (amount : List CompiledNodeRow → Nat) (width : Nat)
    (each : ∀ chosen ∈ instances, amount chosen ≤ chosen.length * width) :
    (instances.map amount).sum ≤ (instances.map List.length).sum * width := by
  induction instances with
  | nil => simp
  | cons chosen rest ih =>
      have here := each chosen List.mem_cons_self
      have later := ih fun other member => each other (List.mem_cons_of_mem chosen member)
      simp only [List.map_cons, List.sum_cons, Nat.add_mul]
      omega

theorem definition_bound (schedulerCapacity : Nat) (room : 1 ≤ schedulerCapacity) (valid : Validated benchmark)
    (accepted : validateRecipe sha256 recipe = .ok ()) (requestsPerActor : Nat) (expansion : Estimate)
    (estimated : estimate sha256 recipe (estimatedBenchmark schedulerCapacity (some benchmark)) requestsPerActor = .ok expansion)
    (instances : List (List CompiledNodeRow))
    (matched : List.Forall₂ (Chosen sha256 recipe) (compiledInstances recipe) instances) :
    (instances.map (instanceLoad schedulerCapacity benchmark)).sum ≤ expansion.peakRequests ∧
      (instances.map List.length).sum ≤ expansion.runners ∧
      (instances.map (instanceLoad schedulerCapacity benchmark)).sum ≤ (instances.map List.length).sum * expansion.maxConcurrency := by
  obtain ⟨peaks, runners, widths⟩ := estimate_totals sha256 recipe _ requestsPerActor expansion estimated
  have lighter : ∀ chosen : List CompiledNodeRow, instanceLoad schedulerCapacity benchmark chosen ≤
      (chosen.map fun node => nodeConcurrency (estimatedBenchmark schedulerCapacity (some benchmark)) node.executionKind).sum :=
    fun chosen => List.sum_le_sum fun node _ => node_contribution schedulerCapacity benchmark room valid node
  have each : ∀ entry ∈ compiledInstances recipe, ∀ chosen, Chosen sha256 recipe entry chosen →
      instanceLoad schedulerCapacity benchmark chosen ≤
          coordinatePeak sha256 recipe (estimatedBenchmark schedulerCapacity (some benchmark)) entry.1 ∧
        chosen.length ≤ coordinateWeight sha256 recipe (fun _ => 1) entry.1 := by
    intro entry known chosen isChosen
    obtain ⟨light, few⟩ := instance_peak sha256 recipe (estimatedBenchmark schedulerCapacity (some benchmark)) accepted
      entry known chosen isChosen
    exact ⟨(lighter chosen).trans light, few⟩
  have pairs := List.forall₂_iff_zip.mp matched
  refine ⟨?_, ?_, ?_⟩
  · rw [peaks]
    apply matched_sum
    refine List.forall₂_iff_zip.mpr ⟨pairs.1, fun {entry chosen} member => ?_⟩
    exact (each entry (List.of_mem_zip member).1 chosen (pairs.2 member)).1
  · rw [runners]
    apply matched_sum
    refine List.forall₂_iff_zip.mpr ⟨pairs.1, fun {entry chosen} member => ?_⟩
    exact (each entry (List.of_mem_zip member).1 chosen (pairs.2 member)).2
  · apply width_sum
    intro chosen member
    obtain ⟨entry, known, rows, expanded, some, _⟩ := paired_right matched chosen member
    obtain ⟨dimensions, coordinate, inTrials⟩ := List.mem_flatMap.mp known
    obtain ⟨trial, _, rfl⟩ := List.mem_map.mp inTrials
    obtain ⟨instanceKey, nodes, first, narrow⟩ := widths dimensions coordinate
    obtain ⟨again, expandedAgain, outlines⟩ := expand_again sha256 sha256 recipe dimensions 0 trial instanceKey
      (instanceKeyOf dimensions trial) nodes rfl first
    cases expanded.symm.trans expandedAgain
    apply (lighter chosen).trans
    have below : ∀ amount ∈ chosen.map fun node =>
        nodeConcurrency (estimatedBenchmark schedulerCapacity (Option.some benchmark)) node.executionKind,
        amount ≤ expansion.maxConcurrency := by
      intro amount inAmounts
      obtain ⟨node, inChosen, rfl⟩ := List.mem_map.mp inAmounts
      have outlined : node.outline ∈ nodes.map CompiledNodeRow.outline :=
        outlines ▸ List.mem_map_of_mem (some.subset inChosen)
      obtain ⟨other, inNodes, same⟩ := List.mem_map.mp outlined
      have kind : other.executionKind = node.executionKind := congrArg (fun outline : Outline => outline.data.1) same
      rw [← kind]
      exact narrow other inNodes
    have total := List.sum_le_card_nsmul _ _ below
    rwa [List.length_map, smul_eq_mul] at total

end Instances

end LlmperfOrchestrator.Compiler.Admission

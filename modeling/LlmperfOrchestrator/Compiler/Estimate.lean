import LlmperfOrchestrator.Compiler.InstanceKeys
import LlmperfOrchestrator.Compiler.Widths

set_option autoImplicit false

namespace LlmperfOrchestrator.Compiler

open Tables SeriesParallel Outcomes

structure CacheProbe where
  trials : Nat
  repeatsAfterPrime : Nat
deriving DecidableEq, Repr

structure BenchmarkDocument where
  steps : Option Nat
  repeats : Nat
  paced : Bool
  concurrentWorkers : Option Nat
  cacheProbe : Option CacheProbe
  adapter : Option String
  samplingParams : List String
deriving DecidableEq, Repr

namespace BenchmarkDocument

-- benchmark or {}
def blank : BenchmarkDocument :=
  { steps := none, repeats := 1, paced := false, concurrentWorkers := none, cacheProbe := none, adapter := none,
    samplingParams := [] }

def template (benchmark : BenchmarkDocument) : WorkerTemplate :=
  ⟨benchmark.steps.isSome, benchmark.repeats, benchmark.adapter, benchmark.samplingParams⟩

-- int(benchmark.get("concurrent_workers") or fallback)
def workersOr (benchmark : BenchmarkDocument) (fallback : Nat) : Nat :=
  match benchmark.concurrentWorkers with
  | none => fallback
  | some workers => if workers = 0 then fallback else workers

end BenchmarkDocument

def plannedWorkerCount (benchmark : BenchmarkDocument) : Nat :=
  match benchmark.cacheProbe with
  | some probe => probe.trials * (1 + probe.repeatsAfterPrime)
  | none => benchmark.repeats * benchmark.steps.getD 1

def parallelRequestGroups (nodes : List CompiledNodeRow) : List (List CompiledNodeRow) := nodes.map fun node => [node]

def batchConcurrency (benchmark : BenchmarkDocument) : Nat :=
  let batchLimit := plannedWorkerCount benchmark
  let window := min batchLimit (benchmark.workersOr batchLimit)
  if benchmark.paced then min window 1 else window

-- planned_workers of one node.
def plannedWorkers (benchmark : BenchmarkDocument) (kind : ExecutionKind) : Nat :=
  if kind = .batch then plannedWorkerCount benchmark else 1

def nodeConcurrency (benchmark : BenchmarkDocument) (kind : ExecutionKind) : Nat :=
  if kind = .batch then batchConcurrency benchmark else 1

-- The counters of TaskCompiler.estimate.
structure EstimateTotals where
  coordinateCount : Nat
  nodeCount : Nat
  runnerCount : Nat
  requestCount : Nat
  peakRunners : Nat
  maxConcurrency : Nat
  peakRequests : Nat
deriving DecidableEq, Repr

structure Estimate where
  instances : Nat
  nodes : Nat
  runners : Nat
  requests : Nat
  peakRunners : Nat
  maxConcurrency : Nat
  peakRequests : Nat
  peakActors : Nat
deriving DecidableEq, Repr

section Estimation

variable (sha256 : Sha256) (recipe : TaskRecipe) (benchmark : BenchmarkDocument)

def estimateCoordinate (totals : EstimateTotals) (entry : Dimensions × Nat) : Except String EstimateTotals := do
  let trials := recipe.instances.trials
  let nodes ← expandGraph sha256 (instanceContext recipe entry.1 0) s!"estimate-{entry.2}" recipe.workflow
  validateWorkerTemplate nodes benchmark.template
  let runnerWeights := nodes.map fun node => (node.nodeId, 1)
  let runnerPeak ← rootsPeak sha256 entry.1 runnerWeights recipe
  let requestWeights := nodes.map fun node => (node.nodeId, nodeConcurrency benchmark node.executionKind)
  let requestPeak ← rootsPeak sha256 entry.1 requestWeights recipe
  .ok {
    coordinateCount := totals.coordinateCount + 1
    nodeCount := totals.nodeCount + nodes.length * trials
    runnerCount := totals.runnerCount + (parallelRequestGroups nodes).length * trials
    requestCount := totals.requestCount + (nodes.map fun node => plannedWorkers benchmark node.executionKind).sum * trials
    peakRunners := totals.peakRunners + runnerPeak * trials
    maxConcurrency := max totals.maxConcurrency (highest (nodes.map fun node => nodeConcurrency benchmark node.executionKind))
    peakRequests := totals.peakRequests + requestPeak * trials }

def estimateTotals : Except String EstimateTotals := do
  validateGraph recipe
  (matrixCoordinates recipe).zipIdx.foldlM (estimateCoordinate sha256 recipe benchmark) ⟨0, 0, 0, 0, 0, 0, 0⟩

-- TaskCompiler.estimate
def estimate (requestsPerActor : Nat) : Except String Estimate :=
  if requestsPerActor < 1 then .error "requests_per_actor must be positive"
  else do
    let totals ← estimateTotals sha256 recipe benchmark
    .ok {
      instances := totals.coordinateCount * recipe.instances.trials
      nodes := totals.nodeCount
      runners := totals.runnerCount
      requests := totals.requestCount
      peakRunners := totals.peakRunners
      maxConcurrency := totals.maxConcurrency
      peakRequests := totals.peakRequests
      peakActors := (totals.peakRequests + requestsPerActor - 1) / requestsPerActor }

end Estimation

-- The Runners and the Worker requests that a compiled table stands for.
def CompilationTable.runnerCount (table : CompilationTable) : Nat :=
  (table.instances.map fun row => (parallelRequestGroups (table.nodesFor row.instanceKey)).length).sum

def CompilationTable.requestCount (table : CompilationTable) (benchmark : BenchmarkDocument) : Nat :=
  (table.nodes.map fun node => plannedWorkers benchmark node.executionKind).sum

section Agreement

variable (sha256 : Sha256) (recipe : TaskRecipe) (benchmark : BenchmarkDocument)

def measured (weight : Outline → Nat) (nodes : List CompiledNodeRow) : Nat := (nodes.map fun node => weight node.outline).sum

theorem measured_outline (weight : Outline → Nat) (a b : List CompiledNodeRow)
    (same : a.map CompiledNodeRow.outline = b.map CompiledNodeRow.outline) : measured weight a = measured weight b := by
  have mapped := congrArg (fun outlines => (outlines.map weight).sum) same
  simpa [measured, List.map_map, Function.comp_def] using mapped

theorem template_outline (template : WorkerTemplate) (a b : List CompiledNodeRow)
    (same : a.map CompiledNodeRow.outline = b.map CompiledNodeRow.outline) :
    validateWorkerTemplate a template = validateWorkerTemplate b template := by
  have atomic : a.any (fun node => node.executionKind == .atomic) = b.any fun node => node.executionKind == .atomic := by
    have both := congrArg (List.any · fun outline : Outline => outline.data.1 == .atomic) same
    simpa only [List.any_map, Function.comp_def, CompiledNodeRow.outline] using both
  have reused : a.any (fun node => !node.messageSources.isEmpty) = b.any fun node => !node.messageSources.isEmpty := by
    have both := congrArg (List.any · fun outline : Outline => !outline.data.2.isEmpty) same
    simpa only [List.any_map, Function.comp_def, CompiledNodeRow.outline] using both
  rw [validateWorkerTemplate, validateWorkerTemplate, atomic, reused]

def coordinateWeight (weight : Outline → Nat) (dimensions : Dimensions) : Nat :=
  match expandGraph sha256 (instanceContext recipe dimensions 0) "" recipe.workflow with
  | .error _ => 0
  | .ok nodes => measured weight nodes

theorem expansion_weight (weight : Outline → Nat) (dimensions : Dimensions) (trial : Nat) (instanceKey : String)
    (nodes : List CompiledNodeRow)
    (expanded : expandGraph sha256 (instanceContext recipe dimensions trial) instanceKey recipe.workflow = .ok nodes) :
    measured weight nodes = coordinateWeight sha256 recipe weight dimensions := by
  obtain ⟨first, again, outlines⟩ := expand_again sha256 sha256 recipe dimensions trial 0 instanceKey "" nodes rfl expanded
  rw [coordinateWeight, again]
  exact (measured_outline weight first nodes outlines).symm

def Expands (dimensions : Dimensions) : Prop :=
  ∃ nodes, expandGraph sha256 (instanceContext recipe dimensions 0) "" recipe.workflow = .ok nodes ∧
    validateWorkerTemplate nodes benchmark.template = .ok ()

theorem expands_trial (dimensions : Dimensions) (trial : Nat) (instanceKey : String) :
    Expands sha256 recipe benchmark dimensions ↔
      ∃ nodes, expandGraph sha256 (instanceContext recipe dimensions trial) instanceKey recipe.workflow = .ok nodes ∧
        validateWorkerTemplate nodes benchmark.template = .ok () := by
  constructor
  · rintro ⟨nodes, expanded, fits⟩
    obtain ⟨again, expandedAgain, outlines⟩ := expand_again sha256 sha256 recipe dimensions 0 trial "" instanceKey nodes rfl expanded
    exact ⟨again, expandedAgain, (template_outline _ again nodes outlines).trans fits⟩
  · rintro ⟨nodes, expanded, fits⟩
    obtain ⟨again, expandedAgain, outlines⟩ := expand_again sha256 sha256 recipe dimensions trial 0 instanceKey "" nodes rfl expanded
    exact ⟨again, expandedAgain, (template_outline _ again nodes outlines).trans fits⟩

theorem coordinate_estimated (totals : EstimateTotals) (entry : Dimensions × Nat) :
    (∃ next, estimateCoordinate sha256 recipe benchmark totals entry = .ok next) ↔ Expands sha256 recipe benchmark entry.1 := by
  rw [expands_trial sha256 recipe benchmark entry.1 0 s!"estimate-{entry.2}"]
  constructor
  · rintro ⟨next, done⟩
    obtain ⟨nodes, expanded, done⟩ := (bind_ok _ _ _).mp done
    obtain ⟨_, fits, _⟩ := (bind_ok _ _ _).mp done
    exact ⟨nodes, expanded, fits⟩
  · rintro ⟨nodes, expanded, fits⟩
    obtain ⟨tree, isTree, _⟩ := graph_tree sha256 recipe entry.1 0 _ nodes expanded
    exact ⟨_, (bind_ok _ _ _).mpr ⟨nodes, expanded, (bind_ok _ _ _).mpr ⟨(), fits,
      (bind_ok _ _ _).mpr ⟨_, roots_peak sha256 entry.1 _ recipe tree isTree,
        (bind_ok _ _ _).mpr ⟨_, roots_peak sha256 entry.1 _ recipe tree isTree, rfl⟩⟩⟩⟩⟩

theorem totals_estimated :
    (∃ totals, estimateTotals sha256 recipe benchmark = .ok totals) ↔
      validateGraph recipe = .ok () ∧ ∀ dimensions ∈ matrixCoordinates recipe, Expands sha256 recipe benchmark dimensions := by
  constructor
  · rintro ⟨totals, done⟩
    obtain ⟨_, graph, done⟩ := (bind_ok _ _ _).mp done
    refine ⟨graph, fun dimensions coordinate => ?_⟩
    obtain ⟨index, read⟩ := List.getElem?_of_mem coordinate
    have member : (dimensions, index) ∈ (matrixCoordinates recipe).zipIdx :=
      List.mk_mem_zipIdx_iff_getElem?.mpr read
    obtain ⟨before, after, taken⟩ := fold_steps _ _ _ _ done _ member
    exact (coordinate_estimated sha256 recipe benchmark before _).mp ⟨after, taken⟩
  · rintro ⟨graph, all⟩
    obtain ⟨totals, done⟩ := fold_total (estimateCoordinate sha256 recipe benchmark) (matrixCoordinates recipe).zipIdx
      ⟨0, 0, 0, 0, 0, 0, 0⟩ fun entry member totals =>
        (coordinate_estimated sha256 recipe benchmark totals entry).mpr (all entry.1 (List.fst_mem_of_mem_zipIdx member))
    exact ⟨totals, (bind_ok _ _ _).mpr ⟨(), graph, done⟩⟩

end Agreement

end LlmperfOrchestrator.Compiler

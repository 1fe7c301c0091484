import LlmperfOrchestrator.Compiler.ModelValidation

set_option autoImplicit false

namespace LlmperfOrchestrator.Tools

open Documents Compiler

def gib : Nat := 1024 ^ 3
def defaultBackgroundPoolSeed : Nat := 202610211101
def defaultProbePoolSeed : Nat := 202610211102

-- Fields of CacheSizing before __post_init__. Floating-point numbers are exact
-- rationals; negative counts and numbers that are not finite never pass and are left out.
structure SizingFields where
  l3Gib : Rat
  l4Gib : Rat
  kvBytesPerToken : Rat
  l3High : Rat := 8 / 10
  l4High : Rat := 8 / 10
  l4Low : Rat := 6 / 10
  inputTokens : Nat := 65536
  prefixRatio : Rat := 8 / 10
  poolSize : Nat := 1536
  cohortSize : Nat := 256
  backgroundPoolSeed : Nat := defaultBackgroundPoolSeed
  probePoolSeed : Nat := defaultProbePoolSeed
  totalSlots : Nat := 64
  backgroundConcurrentWorkers : Nat := 24
  probeLanes : Nat := 32
  backgroundRepeats : Nat := 156
  backgroundGapSeconds : Rat := 544
  calibrationSeconds : List Rat := [600, 1200, 2400]
  recallWaves : Nat := 33
  recallGapSeconds : Rat := 2400
  writeGibPerSecond : Option Rat := none
  meanRequestSeconds : Option Rat := none
deriving DecidableEq, Repr

namespace SizingFields

variable (fields : SizingFields)

-- math.floor(self.input_tokens * self.prefix_ratio)
def prefixTokens : Nat := (fields.inputTokens * fields.prefixRatio : Rat).floor.toNat

def backgroundWaitSeconds : Rat := ((fields.backgroundRepeats : Rat) - 1) * fields.backgroundGapSeconds

def probeWaitSeconds : Rat := fields.calibrationSeconds.sum + fields.recallWaves * fields.recallGapSeconds

def probeRequests : Nat := fields.cohortSize * (1 + fields.calibrationSeconds.length + fields.recallWaves)

def positiveValues : List Rat :=
  [fields.l3Gib, fields.l4Gib, fields.kvBytesPerToken, fields.backgroundGapSeconds, fields.recallGapSeconds]

-- __post_init__
def check : Except String Unit :=
  if fields.positiveValues.any fun value => value ≤ 0 then
    .error "capacities, KV bytes/token and gaps must be finite and positive"
  else if ¬ (0 < fields.l3High ∧ fields.l3High < 1) ∨
      ¬ (0 < fields.l4Low ∧ fields.l4Low < fields.l4High ∧ fields.l4High < 1) then
    .error "watermarks require 0 < L3 high < 1 and 0 < L4 low < high < 1"
  else if ¬ (0 < fields.prefixRatio ∧ fields.prefixRatio < 1) ∨ fields.inputTokens < 2 then
    .error "input needs at least two tokens and 0 < prefix ratio < 1"
  else if ¬ (0 < fields.prefixTokens ∧ fields.prefixTokens < fields.inputTokens) then
    .error "rounded prefix and suffix must both contain tokens"
  else if ¬ (1 ≤ fields.poolSize ∧ fields.poolSize ≤ 10000) ∨ ¬ (1 ≤ fields.cohortSize ∧ fields.cohortSize ≤ 10000) then
    .error "prefix pools must contain 1..10000 seeds"
  else if ¬ (fields.backgroundPoolSeed < 2 ^ 64 ∧ fields.probePoolSeed < 2 ^ 64) then
    .error "pool seeds must be unsigned 64-bit integers"
  else if fields.backgroundPoolSeed = fields.probePoolSeed then .error "background and probe need different parent seeds"
  else if ¬ (1 ≤ fields.backgroundConcurrentWorkers ∧ fields.backgroundConcurrentWorkers ≤ 100) ∨
      ¬ (1 ≤ fields.probeLanes ∧ fields.probeLanes ≤ 100) then
    .error "lane counts must be between 1 and 100"
  else if fields.totalSlots < fields.backgroundConcurrentWorkers + fields.probeLanes then
    .error "background and probe concurrency exceed shared request slots"
  else if fields.cohortSize < fields.probeLanes then .error "probe lanes must not exceed cohort size"
  else if ¬ (1 ≤ fields.backgroundRepeats ∧ fields.backgroundRepeats ≤ 10000) ∨ fields.recallWaves < 1 then
    .error "background repeats require 1..10000; recall waves must be positive"
  else if fields.calibrationSeconds.any fun delay => delay ≤ 0 then
    .error "calibration gaps must be finite and positive"
  else if 98 < fields.calibrationSeconds.length then .error "too many calibration phases for the task workflow"
  else if 10000 < fields.probeRequests then .error "probe expansion exceeds the 10000-node per-instance limit"
  else if 86400 < max fields.backgroundWaitSeconds fields.probeWaitSeconds then
    .error "configured waits exceed the sizing tool's 24-hour wait budget"
  else if (fields.writeGibPerSecond.any fun rate => rate ≤ 0) ∨ (fields.meanRequestSeconds.any fun seconds => seconds ≤ 0) then
    .error "observed write rate and mean service time must be finite and positive"
  else .ok ()

end SizingFields

-- A settings value exists only where __post_init__ raises nothing.
structure CacheSizing extends SizingFields where
  accepted : toSizingFields.check = .ok ()

structure TokenReport where
  input : Nat
  prefixed : Nat
  suffix : Nat
deriving DecidableEq, Repr

structure CapacityReport where
  l3 : Rat
  l3Trigger : Rat
  l4 : Rat
  l4High : Rat
  l4Low : Rat
deriving DecidableEq, Repr

structure FootprintReport where
  onePrefix : Rat
  oneSuffix : Rat
  backgroundPrefixPool : Rat
  probeCohort : Rat
  reservedL4ChurnHeadroom : Rat
  suffixWritesBetweenMeanPoolDrawRevisits : Rat
deriving DecidableEq, Repr

structure BackgroundReport where
  runners : Nat
  workersPerRunner : Nat
  runnerSlotsReleasedDuringCooldown : Bool
  requests : Nat
  maximumConcurrency : Nat
  gapOnlyRateCeilingRps : Rat
  minimumWaitBudgetSeconds : Rat
  estimatedDurationSeconds : Option Rat
deriving DecidableEq, Repr

structure ProbeReport where
  runners : Nat
  requests : Nat
  maximumConcurrency : Nat
  prefixesPerWave : Nat
  recallWaves : Nat
  minimumWaitBudgetSeconds : Rat
  maximumOfferedPrefixReadGib : Rat
deriving DecidableEq, Repr

structure CombinedReport where
  maximumConcurrency : Nat
  unusedSlots : Nat
  requests : Nat
deriving DecidableEq, Repr

structure PlanningWindow where
  writeRateGibPerSecond : Rat
  oneL3TurnoverSeconds : Rat
  reservedL4ChurnSeconds : Rat
  steadyGapWrittenGib : Rat
  feasibleByVolume : Bool
deriving DecidableEq, Repr

structure Assessment where
  assumptions : List String
  tokens : TokenReport
  capacityGib : CapacityReport
  footprintGib : FootprintReport
  background : BackgroundReport
  probe : ProbeReport
  combined : CombinedReport
  planningWindow : Option PlanningWindow
  warnings : List String
deriving DecidableEq, Repr

def assumptions : List String := [
  "KV bytes/token is supplied, not inferred from parameter count. Sizes exclude any unaccounted SWA state, alignment and replicas.",
  "Footprints use configured input tokens; provider tokenization can differ.",
  "Background Runners retain distinct pool seeds and repeat Workers after a cooldown. All suffixes vary; pool reuse does not guarantee a tier hit.",
  "Write rate must be measured under the proposed background, including other traffic. Eviction/metadata counters are not physical I/O bandwidth.",
  "The retention window reserves both complete prefix sets below L4's low watermark. It is a conservative volume heuristic, not an LRU or lease guarantee.",
  "Delays are completion-relative; provider latency, preparation and scheduling extend duration. No hard 24-hour cancellation is encoded."]

namespace CacheSizing

variable (settings : CacheSizing)

def prefixGib : Rat := settings.prefixTokens * settings.kvBytesPerToken / gib
def suffixGib : Rat := ((settings.inputTokens : Rat) - settings.prefixTokens) * settings.kvBytesPerToken / gib
def poolGib : Rat := settings.poolSize * settings.prefixGib
def cohortGib : Rat := settings.cohortSize * settings.prefixGib
def l3TriggerGib : Rat := settings.l3Gib * settings.l3High
def l4LowGib : Rat := settings.l4Gib * settings.l4Low
def churnHeadroomGib : Rat := settings.l4LowGib - settings.poolGib - settings.cohortGib

def planningWindow (rate : Rat) : PlanningWindow :=
  let earlySeconds := settings.l3TriggerGib / rate
  let lateSeconds := max 0 settings.churnHeadroomGib / rate
  { writeRateGibPerSecond := rate, oneL3TurnoverSeconds := earlySeconds, reservedL4ChurnSeconds := lateSeconds,
    steadyGapWrittenGib := settings.recallGapSeconds * rate, feasibleByVolume := earlySeconds < lateSeconds }

def warnWhen (holds : Prop) [Decidable holds] (warning : String) : List String := if holds then [warning] else []

def capacityWarnings : List String :=
  warnWhen (settings.poolGib ≤ settings.l3TriggerGib)
    "The background prefix pool fits below the L3 trigger; suffix writes or other traffic must drive eviction." ++
  warnWhen (settings.churnHeadroomGib ≤ settings.l3TriggerGib)
    "After reserving both prefix sets, conservative L4 churn headroom is no larger than one L3 turnover. Reduce pool/cohort size." ++
  warnWhen (settings.backgroundWaitSeconds < settings.probeWaitSeconds)
    "Probe wait budget exceeds background wait budget. Verify that the background remains active throughout recall."

def rateWarnings : List String :=
  match settings.writeGibPerSecond with
  | some rate =>
      warnWhen (settings.recallGapSeconds < (settings.planningWindow rate).oneL3TurnoverSeconds)
        "Steady recall gap is shorter than the estimated L3 turnover; L3 hits may dominate." ++
      warnWhen ((settings.planningWindow rate).reservedL4ChurnSeconds < settings.recallGapSeconds)
        "Steady recall gap exceeds reserved L4 churn headroom; target prefixes may disappear before recall."
  | none => ["No measured new-workload write rate supplied: the recall interval is an uncalibrated starting point."]

def backgroundRequests : Nat := settings.poolSize * settings.backgroundRepeats

end CacheSizing

def evaluate (settings : CacheSizing) : Assessment where
  assumptions := assumptions
  tokens :=
    { input := settings.inputTokens
      prefixed := settings.prefixTokens
      suffix := settings.inputTokens - settings.prefixTokens }
  capacityGib :=
    { l3 := settings.l3Gib
      l3Trigger := settings.l3TriggerGib
      l4 := settings.l4Gib
      l4High := settings.l4Gib * settings.l4High
      l4Low := settings.l4LowGib }
  footprintGib :=
    { onePrefix := settings.prefixGib
      oneSuffix := settings.suffixGib
      backgroundPrefixPool := settings.poolGib
      probeCohort := settings.cohortGib
      reservedL4ChurnHeadroom := settings.churnHeadroomGib
      suffixWritesBetweenMeanPoolDrawRevisits := settings.poolSize * settings.suffixGib }
  background :=
    { runners := settings.poolSize
      workersPerRunner := settings.backgroundRepeats
      runnerSlotsReleasedDuringCooldown := true
      requests := settings.backgroundRequests
      maximumConcurrency := settings.backgroundConcurrentWorkers
      gapOnlyRateCeilingRps := settings.poolSize / settings.backgroundGapSeconds
      minimumWaitBudgetSeconds := settings.backgroundWaitSeconds
      estimatedDurationSeconds := settings.meanRequestSeconds.map fun mean =>
        settings.backgroundWaitSeconds + settings.backgroundRepeats * mean }
  probe :=
    { runners := settings.probeRequests
      requests := settings.probeRequests
      maximumConcurrency := settings.probeLanes
      prefixesPerWave := settings.cohortSize
      recallWaves := settings.calibrationSeconds.length + settings.recallWaves
      minimumWaitBudgetSeconds := settings.probeWaitSeconds
      maximumOfferedPrefixReadGib :=
        ((settings.calibrationSeconds.length + settings.recallWaves : Nat) : Rat) * settings.cohortGib }
  combined :=
    { maximumConcurrency := settings.backgroundConcurrentWorkers + settings.probeLanes
      unusedSlots := settings.totalSlots - settings.backgroundConcurrentWorkers - settings.probeLanes
      requests := settings.backgroundRequests + settings.probeRequests }
  planningWindow := settings.writeGibPerSecond.map settings.planningWindow
  warnings := settings.capacityWarnings ++ settings.rateWarnings

section Campaigns

variable (settings : CacheSizing)

def inputDocument (rawDefault : Fields) : Fields :=
  (((rawDefault.put "tokens" (.integer settings.inputTokens)).put "shared_prefix_tokens"
    (.integer settings.prefixTokens)).pop "dataset_seed").pop "shared_prefix_seed"

def runnerDocument (runnerTemplate rawDefault : Fields) : Fields :=
  (((((((runnerTemplate.put "inputs" (.record [("default", .object (inputDocument settings rawDefault))])).put "worker"
    (.record [("repeat", .integer 1)])).put "concurrent_workers" (.integer 1)).put "timeout" (.integer 1800)).pop
    "metadata").pop "request").pop "concurrent_requests")

def backgroundRunner (runner : Fields) : Fields :=
  ((runner.put "label" (.text "background-prefix-pool")).put "timeout" (.integer 172800)).put "worker"
    (.record [("repeat", .integer settings.backgroundRepeats), ("every", .number settings.backgroundGapSeconds)])

def probeRunner (runner : Fields) : Fields := runner.put "label" (.text "l4-periodic-prefix-recall")

def poolDocument (seed count : Nat) : Document := .record [("seed", .integer seed), ("count", .integer count)]

def prefixesNode : Document :=
  .record [("for_each", .record [
    ("name", .text "prefixes"),
    ("variable", .text "prefix"),
    ("values", poolDocument settings.backgroundPoolSeed settings.poolSize),
    ("parallelism", .integer settings.poolSize),
    ("node", .record [("run", .record [("name", .text "batch"), ("role", .text "background"), ("prefix_seed", .text "$prefix")])])])]

def cohortNode : Document :=
  .record [("for_each", .record [
    ("name", .text "cohort"),
    ("variable", .text "prefix"),
    ("values", poolDocument settings.probePoolSeed settings.cohortSize),
    ("parallelism", .integer settings.probeLanes),
    ("node", .record [("run", .record [("name", .text "request"), ("prefix_seed", .text "$prefix")])])])]

def primeNode : Document :=
  .record [("sequence", .record [("name", .text "prime"), ("steps", .listOf [cohortNode settings])])]

def calibrationName (delayIndex : Nat) : String := s!"calibration_{delayIndex + 1}"

def calibrationNode (phase : Rat × Nat) : Document :=
  .record [("sequence", .record [
    ("name", .text (calibrationName phase.2)),
    ("after", .number phase.1),
    ("steps", .listOf [cohortNode settings])])]

def recallNode : Document :=
  .record [("repeat", .record [
    ("name", .text "sustained_recall"),
    ("count", .integer settings.recallWaves),
    ("every", .number settings.recallGapSeconds),
    ("node", cohortNode settings)])]

def probeWorkflow : List Document :=
  primeNode settings :: settings.calibrationSeconds.zipIdx.map (calibrationNode settings) ++ [recallNode settings]

def definitionDocument (name : String) (seed : Nat) (workflow : List Document) (runner : Fields) : Document :=
  .record [
    ("name", .text name),
    ("instances", .record [("seed", .integer seed)]),
    ("workflow", .listOf workflow),
    ("runner", .object runner)]

def backgroundDocument (runner : Fields) : Fields :=
  Fields.ofList [
    ("version", .text "1.0.0"),
    ("wait", .boolean false),
    ("runtime", .record [("concurrent_workers", .integer settings.backgroundConcurrentWorkers)]),
    ("campaign", .record [
      ("name", .text "background-pressure"),
      ("description", .text "One Runner per distinct pool seed, with repeated Workers and completion-relative cooldowns.")]),
    ("task_definitions", .listOf [
      definitionDocument "background-families" 202610211201 [prefixesNode settings] (backgroundRunner settings runner)])]

def probeDocument (runner : Fields) : Fields :=
  Fields.ofList [
    ("version", .text "1.0.0"),
    ("wait", .boolean false),
    ("campaign", .record [
      ("name", .text "l4-periodic-recall"),
      ("description", .text "Bounded concurrent recall waves with fixed prefixes and fresh suffixes."),
      ("tags", .record [("cohort_parent_seed", .text (toString settings.probePoolSeed))])]),
    ("task_definitions", .listOf [
      definitionDocument "l4-cohort" 202610211202 (probeWorkflow settings) (probeRunner runner)])]

def backgroundSeeds (sha256 : Sha256) : List Nat := (SeedPool.generated settings.backgroundPoolSeed settings.poolSize).values sha256

def probeSeeds (sha256 : Sha256) : List Nat := (SeedPool.generated settings.probePoolSeed settings.cohortSize).values sha256

def buildCampaigns (sha256 : Sha256) (runnerTemplate : Fields) : Except String (Fields × Fields) :=
  match runnerTemplate.get "inputs" with
  | some (.object rawInputs) =>
      match rawInputs.get "default" with
      | some (.object rawDefault) =>
          if (probeSeeds settings sha256).any fun seed => seed ∈ backgroundSeeds settings sha256 then
            .error "generated background and probe prefix pools overlap"
          else
            let runner := runnerDocument settings runnerTemplate rawDefault
            .ok (backgroundDocument settings runner, probeDocument settings runner)
      | _ => .error "Runner template requires inputs.default"
  | _ => .error "Runner template requires inputs.default"

end Campaigns

end LlmperfOrchestrator.Tools

import LlmperfOrchestrator.Compiler.Estimate
import LlmperfOrchestrator.Preparation.Requests
import LlmperfOrchestrator.Storage.Documents

set_option autoImplicit false

namespace LlmperfOrchestrator.Preparation

open Tables Compiler Storage

inductive PromptMode where
  | sample | concatenate
deriving DecidableEq, Repr

inductive ProbeMode where
  | exactRepeat | sharedPrefix | earlyMutation | lateMutation
deriving DecidableEq, Repr

structure CacheProbeConfig where
  mode : ProbeMode
  trials : Nat
  repeatsAfterPrime : Nat
  schedule : String
  sharedPrefixTokens : Option Nat
  mutationTokenOffset : Option Nat
  delay : Duration
  persistPromptText : Bool
deriving DecidableEq, Repr

def randomizedFamilyBlocks : String := "randomized_family_blocks"

def CacheProbeConfig.valid (probe : CacheProbeConfig) : Bool :=
  2 ≤ probe.trials ∧ probe.trials ≤ 10000 ∧ 1 ≤ probe.repeatsAfterPrime ∧ probe.repeatsAfterPrime ≤ 100 ∧
    probe.schedule = randomizedFamilyBlocks ∧ (probe.sharedPrefixTokens.all fun tokens => 0 < tokens) ∧
    probe.delay.valid ∧ probe.delay.seconds ≤ 60

-- A compiler-owned task context, with the document it is stored as. Only atomic
-- contexts hold the keys payload_seed and prompt_text.
structure TaskContext where
  executionKind : ExecutionKind
  instanceId : String
  nodeId : String
  payloadSeed : Nat
  promptText : Option String
  datasetSeed : Nat
  sharedPrefixSeed : Option Nat
  prefixSeedVersion : Option String
  document : Dict String Json
deriving DecidableEq

inductive TaskContexts where
  | absent
  | single (context : TaskContext)
  | grouped (contexts : List TaskContext)
deriving DecidableEq

structure DatasetSpec where
  filename : String
  adapter : String
deriving DecidableEq, Repr

def externalAdapters : List String := ["sharegpt", "sharegpt-user", "document-text", "text"]

def DatasetSpec.valid (dataset : DatasetSpec) : Bool :=
  1 ≤ dataset.filename.length ∧ dataset.filename.length ≤ 500 ∧ dataset.adapter ∈ externalAdapters

structure InputTokens where
  mean : Nat
  stddev : Nat
deriving DecidableEq, Repr

structure InputTemplate where
  text : Option String
  tokens : InputTokens
  sharedPrefixTokens : Nat
  dataset : Option DatasetSpec
  datasetPromptMode : PromptMode
  datasetRepeatCount : Nat
  datasetSeed : Int
deriving DecidableEq, Repr

namespace InputTemplate

def validFields (input : InputTemplate) : Bool :=
  (input.text.all fun text => 1 ≤ text.length) ∧ 0 < input.tokens.mean ∧ input.dataset.all DatasetSpec.valid ∧
    1 ≤ input.datasetRepeatCount

def validateSource (input : InputTemplate) : Except String Unit :=
  if input.text.isSome ∧ (input.dataset.isSome ∨ input.sharedPrefixTokens ≠ 0) then
    .error "literal input text cannot combine with a dataset or generated prefix"
  else if input.tokens.mean ≤ input.sharedPrefixTokens then
    .error "shared_prefix_tokens must be smaller than the new-input token target"
  else if input.dataset = none ∧ input.datasetPromptMode ≠ .sample then .error "dataset_prompt_mode requires dataset"
  else if input.dataset.isSome ∧ input.sharedPrefixTokens ≠ 0 ∧ input.datasetPromptMode ≠ .concatenate then
    .error "dataset shared_prefix_tokens requires concatenate mode"
  else if input.datasetPromptMode = .concatenate ∧ input.datasetRepeatCount ≠ 1 then
    .error "concatenated dataset prompts require dataset_repeat_count=1"
  else .ok ()

def accepted (input : InputTemplate) : Prop := input.validFields = true ∧ input.validateSource = .ok ()

end InputTemplate

inductive OutputTokenCount where
  | provider | local
deriving DecidableEq, Repr

inductive InputTokenCount where
  | estimate | tokenizer
deriving DecidableEq, Repr

structure Benchmark where
  model : String
  adapter : String
  plan : RequestPlan
  timeout : Duration
  concurrentWorkers : Option Nat
  prompt : Option String
  meanInputTokens : Nat
  stddevInputTokens : Nat
  sharedPrefixTokens : Nat
  sharedPrefixSeed : Option Nat
  dataset : Option DatasetSpec
  datasetPromptMode : PromptMode
  datasetRepeatCount : Nat
  datasetSeed : Int
  cacheProbe : Option CacheProbeConfig
  inputs : Dict String InputTemplate
  meanOutputTokens : Nat
  stddevOutputTokens : Nat
  outputTokenCount : OutputTokenCount
  inputTokenCount : InputTokenCount
  additionalSamplingParams : Dict String Json
  inputMessages : List Json
  contexts : TaskContexts
deriving DecidableEq

namespace Benchmark

def document (benchmark : Benchmark) : BenchmarkDocument where
  steps := benchmark.plan.steps.map List.length
  repeats := benchmark.plan.repeats
  paced := benchmark.plan.every.isSome
  concurrentWorkers := benchmark.concurrentWorkers
  cacheProbe := benchmark.cacheProbe.map fun probe => ⟨probe.trials, probe.repeatsAfterPrime⟩
  adapter := some benchmark.adapter
  samplingParams := Dict.keys benchmark.additionalSamplingParams

def plannedWorkerCount (benchmark : Benchmark) : Nat := Compiler.plannedWorkerCount benchmark.document

def requiredInputs (benchmark : Benchmark) : List String :=
  match benchmark.plan.steps with
  | some steps => steps.map fun step => step.input.getD benchmark.plan.input
  | none => [benchmark.plan.input]

def availableInputs (benchmark : Benchmark) : List String :=
  if benchmark.inputs = [] then ["default"] else Dict.keys benchmark.inputs

def validFields (benchmark : Benchmark) : Bool :=
  1 ≤ benchmark.model.length ∧ benchmark.plan.validFields ∧ benchmark.timeout.valid ∧ 0 < benchmark.timeout.seconds ∧
    (benchmark.concurrentWorkers.all fun workers => 0 < workers) ∧ (benchmark.prompt.all fun prompt => 1 ≤ prompt.length) ∧
    0 < benchmark.meanInputTokens ∧ (benchmark.sharedPrefixSeed.all fun seed => seed < 2 ^ 64) ∧
    benchmark.dataset.all DatasetSpec.valid ∧ 1 ≤ benchmark.datasetRepeatCount ∧
    benchmark.cacheProbe.all CacheProbeConfig.valid ∧ 0 < benchmark.meanOutputTokens ∧ (Dict.keys benchmark.inputs).Nodup

def probePrefix (benchmark : Benchmark) (probe : CacheProbeConfig) : Nat :=
  match probe.sharedPrefixTokens with
  | some tokens => if tokens = 0 then benchmark.sharedPrefixTokens else tokens
  | none => benchmark.sharedPrefixTokens

def validateCacheProbe (benchmark : Benchmark) : Except String Unit :=
  if benchmark.plan.every.isSome ∧ benchmark.cacheProbe.isSome then .error "worker.every cannot combine with cache_probe"
  else if benchmark.plan.every.isSome ∧ ¬ (benchmark.concurrentWorkers.getD 1 = 1) then
    .error "worker.every requires concurrent_workers: 1 or omitted"
  else if ¬ benchmark.requiredInputs ⊆ benchmark.availableInputs then .error "request references an unknown Runner input"
  else if benchmark.cacheProbe.isSome ∧ (benchmark.plan.steps.isSome ∨ benchmark.plan.repeats ≠ 1 ∨ benchmark.prompt.isSome) then
    .error "cache_probe defines its own requests; it cannot combine with repeat, steps, or prompt"
  else if benchmark.dataset.isSome ∧ benchmark.sharedPrefixTokens ≠ 0 ∧ benchmark.datasetPromptMode ≠ .concatenate then
    .error "dataset shared_prefix_tokens requires concatenate mode"
  else if benchmark.dataset = none ∧ benchmark.datasetPromptMode ≠ .sample then .error "dataset_prompt_mode requires dataset"
  else if benchmark.datasetPromptMode = .concatenate ∧ benchmark.datasetRepeatCount ≠ 1 then
    .error "concatenated dataset prompts require dataset_repeat_count=1"
  else match benchmark.cacheProbe with
    | none => .ok ()
    | some probe =>
        if probe.mode = .sharedPrefix then
          if benchmark.probePrefix probe = 0 then .error "shared_prefix cache_probe requires shared_prefix_tokens"
          else if benchmark.meanInputTokens ≤ benchmark.probePrefix probe then
            .error "cache_probe shared_prefix_tokens must be less than mean_input_tokens"
          else .ok ()
        else .ok ()

def reusesMessages (benchmark : Benchmark) : Bool :=
  (benchmark.plan.steps.getD []).any fun step => step.messageSources ≠ []

def validateMessageAdapter (benchmark : Benchmark) : Except String Unit :=
  if benchmark.reusesMessages ∧ "messages" ∈ Dict.keys benchmark.additionalSamplingParams then
    .error "sampling messages cannot override reused messages"
  else if benchmark.adapter = "vertexai" ∧ benchmark.reusesMessages then
    .error "vertexai does not support structured message reuse"
  else .ok ()

-- CompiledBenchmarkConfig, BatchBenchmarkConfig and GroupedBenchmarkConfig.
def validateContexts (benchmark : Benchmark) : Except String Unit :=
  match benchmark.contexts with
  | .absent => .ok ()
  | .single context =>
      match context.executionKind with
      | .atomic =>
          if benchmark.plan.steps.isSome then .error "compiled invoke cannot contain an internal request workflow"
          else if benchmark.cacheProbe.isSome then .error "compiled benchmark cannot define cache_probe"
          else if benchmark.plan.workerCount ≠ 1 ∨ benchmark.concurrentWorkers ≠ some 1 then
            .error "compiled benchmark must contain exactly one request"
          else .ok ()
      | .batch =>
          if benchmark.cacheProbe.isSome then .error "compiled batch cannot define cache_probe"
          else if benchmark.datasetSeed ≠ context.datasetSeed then .error "batch dataset seed must match task context"
          else if benchmark.sharedPrefixSeed ≠ context.sharedPrefixSeed then
            .error "batch prefix seed must match task context"
          else .ok ()
  | .grouped contexts =>
      if contexts.length < 2 ∨ contexts.any fun context => context.executionKind ≠ .atomic then
        .error "task_contexts needs at least two atomic contexts"
      else if benchmark.cacheProbe.isSome ∨ benchmark.plan.workerCount ≠ contexts.length ∨
          benchmark.concurrentWorkers ≠ some contexts.length then
        .error "grouped benchmark requires one concurrent request per task context"
      else if ¬ (contexts.map TaskContext.instanceId).dedup.length = 1 then
        .error "grouped benchmark cannot cross task instances"
      else if ¬ (contexts.map TaskContext.nodeId).Nodup then .error "grouped task node IDs must be unique"
      else .ok ()

structure Accepted (benchmark : Benchmark) : Prop where
  fields : benchmark.validFields = true
  graph : benchmark.plan.validateGraph = .ok ()
  probe : benchmark.validateCacheProbe = .ok ()
  messages : benchmark.validateMessageAdapter = .ok ()
  contexts : benchmark.validateContexts = .ok ()
  inputs : ∀ entry ∈ benchmark.inputs, entry.2.accepted

end Benchmark

end LlmperfOrchestrator.Preparation

import LlmperfOrchestrator.Compiler.RoundExpansion
import LlmperfOrchestrator.Preparation.Benchmarks
import LlmperfOrchestrator.CacheTools.CacheSizing

set_option autoImplicit false

namespace LlmperfOrchestrator.Tools

open Documents Compiler

-- Validation of the campaigns that build_campaigns writes. Sections and keys it
-- never writes (rounds, runners, runner_groups, runner_plans, payloads, matrix,
-- trials, steps, cache_probe) are refused here, not read.

-- What lax mode of pydantic makes of a document that is not of the field's type.
structure Lax where
  integer : Document → Option Int
  boolean : Document → Option Bool

section Scalars

variable (lax : Lax)

def validateInteger : Document → Except String Int
  | .integer value => .ok value
  | document =>
      match lax.integer document with
      | some value => .ok value
      | none => .error "Input should be a valid integer"

def validateBoolean : Document → Except String Bool
  | .boolean value => .ok value
  | document =>
      match lax.boolean document with
      | some value => .ok value
      | none => .error "Input should be a valid boolean"

def validateAbove (bound : Int) (document : Document) : Except String Nat := do
  let value ← validateInteger lax document
  if value ≤ bound then .error s!"Input should be greater than {bound}" else .ok value.toNat

def validateAtLeast (bound : Int) (document : Document) : Except String Nat := do
  let value ← validateInteger lax document
  if value < bound then .error s!"Input should be greater than or equal to {bound}" else .ok value.toNat

def validateString (low : Nat) : Document → Except String String
  | .text value =>
      if value.length < low then .error s!"String should have at least {low} character" else .ok value
  | _ => .error "Input should be a valid string"

-- A Literal field: the listed texts with what they stand for.
def validateChoice {Value : Type} (choices : List (String × Value)) (problem : String) : Document → Except String Value
  | .text value =>
      match choices.find? fun choice => choice.1 == value with
      | some choice => .ok choice.2
      | none => .error problem
  | _ => .error problem

def validateMapping : Document → Except String Fields
  | .object fields => .ok fields
  | _ => .error "Input should be a valid dictionary"

def validateFloat : Document → Except String Rat
  | .integer value => .ok value
  | .number value => .ok value
  | .boolean _ => .error booleanDuration
  | _ => .error "Input should be a valid number"

-- Duration.model_validate
def validateSeconds (document : Document) : Except String Preparation.Duration := do
  match ← normalizeScalar document with
  | .object fields =>
      forbidExtra ["value", "unit"] fields
      let value ← required "value" validateFloat fields
      let unit ← defaulted "unit" validateUnit .s fields
      if value < 0 then .error "duration must be finite and nonnegative" else .ok ⟨value, unit⟩
  | _ => .error (invalidModel "Duration")

-- AliasChoices: the first key that is there.
def aliased {Value : Type} (key other : String) (read : Document → Except String Value) (fields : Fields) :
    Except String (Option Value) :=
  match fields.get key with
  | some _ => nullable key read fields
  | none => nullable other read fields

end Scalars

structure TokenizerSpec where
  id : String
  revision : Option String
  useFast : Bool
deriving DecidableEq, Repr

structure WorkerTemplateConfig where
  plan : Preparation.RequestPlan
  cacheProbe : Option Preparation.CacheProbeConfig

def WorkerTemplateConfig.default : WorkerTemplateConfig :=
  ⟨{ repeats := 1, every := none, input := "default", steps := none }, none⟩

structure BenchmarkRunnerSpec where
  provider : Option String
  model : Option String
  tokenizer : Option TokenizerSpec
  inputs : Option (List (String × Preparation.InputTemplate))
  worker : Option WorkerTemplateConfig
  metadata : Fields
  label : Option String
  timeout : Preparation.Duration
  concurrentWorkers : Option Nat
  meanOutputTokens : Nat
  stddevOutputTokens : Nat
  outputTokenCount : Preparation.OutputTokenCount
  inputTokenCount : Preparation.InputTokenCount
  additionalSamplingParams : Fields
  fieldsSet : List String

section Runner

variable (lax : Lax)

def huggingface : List (String × Unit) := [("huggingface", ())]

def TokenizerSpec.validate : Document → Except String TokenizerSpec
  | .object fields => do
      forbidExtra ["source", "id", "revision", "use_fast"] fields
      let _ ← defaulted "source" (validateChoice huggingface "Input should be 'huggingface'") () fields
      let id ← required "id" (validateText 200) fields
      let revision ← nullable "revision" (validateText 200) fields
      let useFast ← defaulted "use_fast" (validateBoolean lax) true fields
      .ok ⟨id, revision, useFast⟩
  | _ => .error (invalidModel "TokenizerSpec")

def validateDataset : Document → Except String Preparation.DatasetSpec
  | .object fields => do
      forbidExtra ["source", "id", "filename", "revision", "adapter"] fields
      let _ ← defaulted "source" (validateChoice huggingface "Input should be 'huggingface'") () fields
      let _ ← required "id" (validateText 200) fields
      let filename ← required "filename" (validateText 500) fields
      let _ ← nullable "revision" (validateText 200) fields
      let adapter ← required "adapter" (validateText 64) fields
      if adapter ∈ Preparation.externalAdapters then .ok ⟨filename, adapter⟩
      else .error "Unsupported prompt dataset adapter"
  | _ => .error (invalidModel "DatasetSpec")

-- parse_count: a bare integer is the mean, without deviation.
def validateInputTokens : Document → Except String Preparation.InputTokens
  | .integer value => do
      let mean ← validateAbove lax 0 (.integer value)
      .ok ⟨mean, 0⟩
  | .object fields => do
      forbidExtra ["mean", "stddev"] fields
      let mean ← defaulted "mean" (validateAbove lax 0) 550 fields
      let stddev ← defaulted "stddev" (validateAtLeast lax 0) 150 fields
      .ok ⟨mean, stddev⟩
  | _ => .error (invalidModel "InputTokens")

def promptModes : List (String × Preparation.PromptMode) := [("sample", .sample), ("concatenate", .concatenate)]

-- InputTemplateConfig
def validateInputTemplate : Document → Except String Preparation.InputTemplate
  | .object fields => do
      forbidExtra ["text", "tokens", "shared_prefix_tokens", "dataset", "dataset_prompt_mode", "dataset_repeat_count",
        "dataset_seed"] fields
      let text ← nullable "text" (validateString 1) fields
      let tokens ← defaulted "tokens" (validateInputTokens lax) ⟨550, 150⟩ fields
      let sharedPrefixTokens ← defaulted "shared_prefix_tokens" (validateAtLeast lax 0) 0 fields
      let dataset ← nullable "dataset" validateDataset fields
      let mode ← defaulted "dataset_prompt_mode" (validateChoice promptModes "Input should be 'sample' or 'concatenate'") .sample fields
      let repeatCount ← defaulted "dataset_repeat_count" (validateAtLeast lax 1) 1 fields
      let seed ← defaulted "dataset_seed" (validateInteger lax) 11111 fields
      let input : Preparation.InputTemplate :=
        { text := text, tokens := tokens, sharedPrefixTokens := sharedPrefixTokens, dataset := dataset, datasetPromptMode := mode,
          datasetRepeatCount := repeatCount, datasetSeed := seed }
      input.validateSource
      .ok input
  | _ => .error (invalidModel "InputTemplateConfig")

def validateInputs : Document → Except String (List (String × Preparation.InputTemplate))
  | .object fields => do
      let inputs ← fields.toList.mapM fun entry => (validateInputTemplate lax entry.2).map fun input => (entry.1, input)
      if inputs.length < 1 then .error "Dictionary should have at least 1 item after validation, not 0"
      else if 100 < inputs.length then
        .error s!"Dictionary should have at most 100 items after validation, not {inputs.length}"
      else .ok inputs
  | _ => .error "Input should be a valid dictionary"

def WorkerTemplateConfig.validate : Document → Except String WorkerTemplateConfig
  | .object fields => do
      forbidExtra ["repeat", "every", "input"] fields
      let repeats ← defaulted "repeat" (validateCount 1 Preparation.maxRequestSteps) 1 fields
      let every ← nullable "every" validateSeconds fields
      let input ← defaulted "input" (validateText 100) "default" fields
      let plan : Preparation.RequestPlan := { repeats := repeats, every := every, input := input, steps := none }
      plan.validateGraph
      .ok ⟨plan, none⟩
  | _ => .error (invalidModel "WorkerTemplateConfig")

def validateTimeout (document : Document) : Except String Preparation.Duration := do
  let duration ← validateSeconds document
  if duration.seconds ≤ 0 then .error "timeout must be positive" else .ok duration

def validateMetadata (document : Document) : Except String Fields := do
  let metadata ← validateMapping document
  if "runner_round" ∈ metadata.keys then .error "metadata.runner_round is reserved for Backend round expansion"
  else if "runner_group" ∈ metadata.keys then .error "metadata.runner_group is reserved for Backend matrix expansion"
  else .ok metadata

def outputCounts : List (String × Preparation.OutputTokenCount) := [("provider", .provider), ("local", .local)]

def inputCounts : List (String × Preparation.InputTokenCount) := [("estimate", .estimate), ("tokenizer", .tokenizer)]

namespace BenchmarkRunnerSpec

variable (runner : BenchmarkRunnerSpec)

def plan : Preparation.RequestPlan := (runner.worker.getD .default).plan

def requiredInputs : List String :=
  match runner.plan.steps with
  | some steps => steps.map fun step => step.input.getD runner.plan.input
  | none => [runner.plan.input]

def validateMessageInput : Except String Unit :=
  if (runner.worker.any fun worker => worker.plan.every.isSome) ∧ ¬ (runner.concurrentWorkers.getD 1 = 1) then
    .error "worker.every requires concurrent_workers: 1 or omitted"
  else if runner.inputs.any fun inputs => !decide (runner.requiredInputs ⊆ inputs.map Prod.fst) then
    .error "request references an unknown Runner input"
  else if ((runner.plan.steps.getD []).any fun step => step.messageSources ≠ []) ∧
      "messages" ∈ runner.additionalSamplingParams.keys then
    .error "sampling messages cannot override reused messages"
  else .ok ()

def allowed : List String :=
  ["timeout", "concurrent_workers", "concurrent_requests", "mean_output_tokens", "stddev_output_tokens", "output_token_count",
    "input_token_count", "additional_sampling_params", "provider", "model", "tokenizer", "inputs", "worker", "request",
    "metadata", "label"]

def validate : Document → Except String BenchmarkRunnerSpec
  | .object fields => do
      forbidExtra allowed fields
      let timeout ← defaulted "timeout" validateTimeout ⟨90, .s⟩ fields
      let concurrentWorkers ← aliased "concurrent_workers" "concurrent_requests" (validateAbove lax 0) fields
      let meanOutputTokens ← defaulted "mean_output_tokens" (validateAbove lax 0) 150 fields
      let stddevOutputTokens ← defaulted "stddev_output_tokens" (validateAtLeast lax 0) 80 fields
      let outputTokenCount ←
        defaulted "output_token_count" (validateChoice outputCounts "Input should be 'provider' or 'local'") .provider fields
      let inputTokenCount ←
        defaulted "input_token_count" (validateChoice inputCounts "Input should be 'estimate' or 'tokenizer'") .estimate fields
      let samplingParams ← defaulted "additional_sampling_params" validateMapping .nil fields
      let provider ← nullable "provider" (validateText 64) fields
      let model ← nullable "model" (validateString 1) fields
      let tokenizer ← nullable "tokenizer" (TokenizerSpec.validate lax) fields
      let inputs ← nullable "inputs" (validateInputs lax) fields
      let worker ← aliased "worker" "request" WorkerTemplateConfig.validate fields
      let metadata ← defaulted "metadata" validateMetadata .nil fields
      let label ← nullable "label" (validateText 200) fields
      let runner : BenchmarkRunnerSpec :=
        { provider := provider, model := model, tokenizer := tokenizer, inputs := inputs, worker := worker, metadata := metadata,
          label := label, timeout := timeout, concurrentWorkers := concurrentWorkers, meanOutputTokens := meanOutputTokens,
          stddevOutputTokens := stddevOutputTokens, outputTokenCount := outputTokenCount, inputTokenCount := inputTokenCount,
          additionalSamplingParams := samplingParams, fieldsSet := fields.keys }
      runner.validateMessageInput
      .ok runner
  | _ => .error (invalidModel "BenchmarkRunnerSpec")

-- execution_benchmark, as far as the compiler reads it. The Worker template
-- always replaces the defaults, a Runner field only where it is set or nothing else is.
def executionBenchmark (defaults : BenchmarkDocument) : BenchmarkDocument where
  steps := runner.plan.steps.map List.length
  repeats := runner.plan.repeats
  paced := runner.plan.every.isSome
  cacheProbe := (runner.worker.bind WorkerTemplateConfig.cacheProbe).map fun probe => ⟨probe.trials, probe.repeatsAfterPrime⟩
  concurrentWorkers :=
    if "concurrent_workers" ∈ runner.fieldsSet ∨ defaults.concurrentWorkers = none then runner.concurrentWorkers
    else defaults.concurrentWorkers
  adapter := defaults.adapter
  samplingParams :=
    if "additional_sampling_params" ∈ runner.fieldsSet ∨ defaults.samplingParams = [] then runner.additionalSamplingParams.keys
    else defaults.samplingParams

end BenchmarkRunnerSpec

end Runner

structure TaskDefinition where
  recipe : TaskRecipe
  runner : BenchmarkRunnerSpec

section Definition

variable (sha256 : Sha256) (lax : Lax)

def validateInstances : Document → Except String TaskInstancesConfig
  | .object fields => do
      forbidExtra ["seed"] fields
      let seed ← defaulted "seed" (validateCount 0 maxSeed) 11111 fields
      .ok { matrix := .empty, trials := 1, seed := seed, prefixSeedScope := .trial }
  | _ => .error (invalidModel "TaskInstancesConfig")

def validateWorkflow : Document → Except String (TaskNodeSpec × List TaskNodeSpec)
  | .list items => do
      let nodes ← validateNodes items
      listed 100 nodes
  | _ => .error "Input should be a valid list"

-- TaskDefinitionCreate, with the compiler's semantic check.
def TaskDefinition.validate : Document → Except String TaskDefinition
  | .object fields => do
      forbidExtra ["name", "instances", "workflow", "runner"] fields
      let name ← required "name" (validateText 200) fields
      let instances ← required "instances" validateInstances fields
      let (root, roots) ← required "workflow" validateWorkflow fields
      let runner ← required "runner" (BenchmarkRunnerSpec.validate lax) fields
      let recipe : TaskRecipe := { name := name, instances := instances, payloads := .empty, root := root, roots := roots }
      validateRecipe sha256 recipe
      .ok ⟨recipe, runner⟩
  | _ => .error (invalidModel "TaskDefinitionCreate")

def TaskDefinition.outline (definition : TaskDefinition) : DefinitionOutline :=
  ⟨definition.recipe.instances.count, (definition.runner.worker.bind WorkerTemplateConfig.cacheProbe).isSome⟩

structure BenchmarkCampaignStart where
  concurrentWorkers : Option Nat
  name : String
  description : Option String
  tags : Fields
  taskDefinitions : List TaskDefinition

namespace BenchmarkCampaignStart

def start (campaign : BenchmarkCampaignStart) : CampaignStart Unit :=
  { nestedRuntime := false, rounds := none, runners := [], runnerGroups := [], runnerPlans := 0,
    taskDefinitions := campaign.taskDefinitions.map TaskDefinition.outline }

def validateRuntime : Document → Except String (Option Nat)
  | .object fields => do
      forbidExtra ["concurrent_workers"] fields
      nullable "concurrent_workers" (validateAbove ⟨fun _ => none, fun _ => none⟩ 0) fields
  | _ => .error (invalidModel "SubmissionRuntimeConfig")

def validateDescription : Document → Except String String
  | .text value => if 2000 < value.length then .error "String should have at most 2000 characters" else .ok value
  | _ => .error "Input should be a valid string"

-- name, description and tags of BenchmarkCampaignCreate
def validateCampaign : Document → Except String (String × Option String × Fields)
  | .object fields => do
      forbidExtra ["name", "description", "tags"] fields
      let name ← required "name" (validateText 200) fields
      let description ← nullable "description" validateDescription fields
      let tags ← defaulted "tags" validateMapping .nil fields
      .ok (name, description, tags)
  | _ => .error (invalidModel "BenchmarkCampaignCreate")

def validateDefinitions : Document → Except String (List TaskDefinition)
  | .list items => do
      let definitions ← items.toList.mapM (TaskDefinition.validate sha256 lax)
      if 20 < definitions.length then
        .error s!"List should have at most 20 items after validation, not {definitions.length}"
      else .ok definitions
  | _ => .error "Input should be a valid list"

def validate (fields : Fields) : Except String BenchmarkCampaignStart := do
  forbidExtra ["runtime", "version", "campaign", "task_definitions"] fields
  let concurrentWorkers ← defaulted "runtime" validateRuntime none fields
  let _ ← defaulted "version" (validateChoice [("1.0.0", ())] "Input should be '1.0.0'") () fields
  let (name, description, tags) ← required "campaign" validateCampaign fields
  let definitions ← defaulted "task_definitions" (validateDefinitions sha256 lax) [] fields
  let campaign : BenchmarkCampaignStart :=
    { concurrentWorkers := concurrentWorkers, name := name, description := description, tags := tags, taskDefinitions := definitions }
  campaign.start.validateWorkload
  .ok campaign

end BenchmarkCampaignStart

end Definition

end LlmperfOrchestrator.Tools

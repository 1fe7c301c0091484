import LlmperfOrchestrator.Library.Draws
import LlmperfOrchestrator.Library.Rounding
import LlmperfOrchestrator.Preparation.Benchmarks

set_option autoImplicit false

namespace LlmperfOrchestrator.Preparation

open Tables Compiler Storage Draws Rounding

structure WorkerInput where
  inputName : String
  index : Nat
  seed : Int
  prefixSeed : Option Nat
  tokens : Nat
  tokenStddev : Nat
  prefixTokens : Nat
  mode : PromptMode
  repeatCount : Nat
  text : Option String
  datasetAdapter : Option String
  datasetFilename : Option String
  calibrated : Bool
  atomic : Bool
  outputTokenCount : OutputTokenCount
  outputTokens : Nat
  probe : Option CacheProbeConfig
  probeFamily : Nat
  probeOccurrence : Nat
deriving DecidableEq, Repr

structure RequestConfig where
  model : String
  prompt : String × Int
  samplingParams : Dict String Json
  llmApi : String
  metadata : Dict String Json
  timeoutSeconds : Rat
  preparation : Option WorkerInput
  deadlineAt : Option DateTime
deriving DecidableEq

structure RequestStep where
  stepId : String
  request : RequestConfig
  dependencies : List String
  delaySeconds : Rat
  dueAt : Option DateTime
  messageSources : List String
deriving DecidableEq

def indexedSeed (sha256 : Sha256) (seed : Int) (namespaceName : String) : Nat :=
  firstEight (sha256 s!"{seed}:{namespaceName}")

inductive Coordinate where
  | step (specification : RequestStepSpec)
  | probe (family occurrence : Nat)
deriving DecidableEq, Repr

namespace Coordinate

def specification : Coordinate → Option RequestStepSpec
  | step specification => some specification
  | probe _ _ => none

def inputName (plan : RequestPlan) : Coordinate → String
  | step specification => specification.input.getD plan.input
  | probe _ _ => plan.input

def family : Coordinate → Nat
  | step _ => 0
  | probe family _ => family

def occurrence : Coordinate → Nat
  | step _ => 0
  | probe _ occurrence => occurrence

end Coordinate

namespace Benchmark

def families (gen : Generator) (benchmark : Benchmark) (probe : CacheProbeConfig) : List Nat :=
  if probe.schedule = randomizedFamilyBlocks then
    (shuffle gen (List.range probe.trials) (gen.seeded benchmark.datasetSeed)).1
  else List.range probe.trials

def coordinates (gen : Generator) (benchmark : Benchmark) : List Coordinate :=
  match benchmark.cacheProbe with
  | some probe => (benchmark.families gen probe).flatMap fun family =>
      (List.range (probe.repeatsAfterPrime + 1)).map (Coordinate.probe family)
  | none => benchmark.plan.expand.map .step

-- contexts[index] if contexts else task_context or {}; a short list of contexts is an error.
def contextOf (benchmark : Benchmark) (index : Nat) : Except String (Option TaskContext) :=
  match benchmark.contexts with
  | .absent => .ok none
  | .single context => .ok (some context)
  | .grouped [] => .ok none
  | .grouped contexts =>
      match contexts[index]? with
      | some context => .ok (some context)
      | none => .error "list index out of range"

def isAtomic (context : Option TaskContext) : Bool := context.any fun context => context.executionKind = .atomic

def baseSeed (benchmark : Benchmark) (context : Option TaskContext) : Int :=
  match context with
  | some context => if context.executionKind = .atomic then context.payloadSeed else benchmark.datasetSeed
  | none => benchmark.datasetSeed

def explicitPrefix (context : Option TaskContext) : Bool :=
  context.any fun context => context.prefixSeedVersion = some "explicit-prefix-v1"

def seedsOf (sha256 : Sha256) (benchmark : Benchmark) (context : Option TaskContext) (coordinate : Coordinate)
    (inputName : String) : Int × Option Nat :=
  let base := benchmark.baseSeed context
  if coordinate.specification.isSome ∧ inputName ≠ benchmark.plan.input then
    let inputSeed := ((Dict.get inputName benchmark.inputs).map InputTemplate.datasetSeed).getD 11111
    (firstEight (sha256 s!"{base}:{inputSeed}:{inputName}"),
      benchmark.sharedPrefixSeed.map fun seed => if explicitPrefix context then seed else indexedSeed sha256 seed inputName)
  else (base, benchmark.sharedPrefixSeed)

-- context.get("prompt_text", definition.get("text", benchmark.get("prompt")))
def textOf (benchmark : Benchmark) (context : Option TaskContext) (definition : Option InputTemplate) : Option String :=
  match context.filter fun context => context.executionKind = .atomic with
  | some context => context.promptText
  | none =>
      match definition with
      | some definition => definition.text
      | none => benchmark.prompt

def recipe (sha256 : Sha256) (benchmark : Benchmark) (calibrated : Bool) (context : Option TaskContext)
    (coordinate : Coordinate) (namedIndex : Nat) : WorkerInput :=
  let inputName := coordinate.inputName benchmark.plan
  let definition := Dict.get inputName benchmark.inputs
  let seeds := benchmark.seedsOf sha256 context coordinate inputName
  let dataset := (definition.bind InputTemplate.dataset).or benchmark.dataset
  { inputName := inputName
    index := if benchmark.cacheProbe.isSome then coordinate.family else namedIndex
    seed := seeds.1
    prefixSeed := seeds.2
    tokens := (definition.map fun input => input.tokens.mean).getD benchmark.meanInputTokens
    tokenStddev := (definition.map fun input => input.tokens.stddev).getD benchmark.stddevInputTokens
    prefixTokens := (definition.map InputTemplate.sharedPrefixTokens).getD benchmark.sharedPrefixTokens
    mode := (definition.map InputTemplate.datasetPromptMode).getD benchmark.datasetPromptMode
    repeatCount := (definition.map InputTemplate.datasetRepeatCount).getD benchmark.datasetRepeatCount
    text := benchmark.textOf context definition
    datasetAdapter := dataset.map DatasetSpec.adapter
    datasetFilename := dataset.map DatasetSpec.filename
    calibrated := calibrated ∧ benchmark.inputTokenCount = .estimate ∧ benchmark.cacheProbe = none
    atomic := isAtomic context
    outputTokenCount := benchmark.outputTokenCount
    outputTokens := benchmark.meanOutputTokens
    probe := benchmark.cacheProbe
    probeFamily := coordinate.family
    probeOccurrence := coordinate.occurrence }

-- The normal draw of max_tokens; round() of a draw that is no finite number fails.
def outputDraw (gen : Generator) (sha256 : Sha256) (benchmark : Benchmark) (seed : Int) (index : Nat) : Option Rat :=
  (gen.gauss benchmark.meanOutputTokens benchmark.stddevOutputTokens
    (gen.seeded (indexedSeed sha256 seed s!"output:{index}"))).1

def setDefault {Value : Type} (name : String) (value : Value) (fields : Dict String Value) : Dict String Value :=
  match Dict.get name fields with
  | some _ => fields
  | none => Dict.put name value fields

def parameters (benchmark : Benchmark) (drawn : Rat) : Dict String Json :=
  let limited := setDefault "max_tokens" (.number (max 1 (roundHalfEven drawn))) benchmark.additionalSamplingParams
  if benchmark.inputMessages = [] then limited else Dict.put "messages" (.list benchmark.inputMessages) limited

def metadata (benchmark : Benchmark) (context : Option TaskContext) (index : Nat) : Dict String Json :=
  let named := Dict.put "input_generation" (.text "worker-index-v1") ((context.map TaskContext.document).getD [])
  let indexed := if benchmark.cacheProbe.isSome then Dict.put "plan_index" (.number index) named else named
  if benchmark.inputMessages = [] then indexed
  else Dict.put "history_version" (.number benchmark.inputMessages.length) indexed

def bindStep (benchmark : Benchmark) (request : RequestConfig) : Coordinate → RequestStep
  | .step specification =>
      ⟨specification.name, request, specification.dependencies, specification.after.seconds, specification.instant,
        specification.messageSources⟩
  | .probe family occurrence =>
      ⟨s!"probe-{family}-{occurrence}", request, if occurrence = 0 then [] else [s!"probe-{family}-{occurrence - 1}"],
        if occurrence = 0 then 0 else (benchmark.cacheProbe.map fun probe => probe.delay.seconds).getD 0, none, []⟩

def workerStep (gen : Generator) (sha256 : Sha256) (benchmark : Benchmark) (calibrated : Bool) (index namedIndex : Nat)
    (coordinate : Coordinate) : Except String RequestStep := do
  let context ← benchmark.contextOf index
  let recipe := benchmark.recipe sha256 calibrated context coordinate namedIndex
  match benchmark.outputDraw gen sha256 recipe.seed index with
  | none => .error "cannot convert float infinity to integer"
  | some drawn =>
      .ok (benchmark.bindStep
        { model := benchmark.model
          prompt := ("", recipe.tokens)
          samplingParams := benchmark.parameters drawn
          llmApi := benchmark.adapter
          metadata := benchmark.metadata context index
          timeoutSeconds := benchmark.timeout.seconds
          preparation := some recipe
          deadlineAt := none } coordinate)

-- The loop of worker_steps: the index of the Worker, and how many Workers each input had so far.
def stepsFrom (gen : Generator) (sha256 : Sha256) (benchmark : Benchmark) (calibrated : Bool) :
    Nat → Dict String Nat → List Coordinate → Except String (List RequestStep)
  | _, _, [] => .ok []
  | index, namedCounts, coordinate :: rest => do
      let inputName := coordinate.inputName benchmark.plan
      let namedIndex := (Dict.get inputName namedCounts).getD 0
      let step ← benchmark.workerStep gen sha256 calibrated index namedIndex coordinate
      let later ← benchmark.stepsFrom gen sha256 calibrated (index + 1) (Dict.put inputName (namedIndex + 1) namedCounts) rest
      .ok (step :: later)

end Benchmark

def workerSteps (gen : Generator) (sha256 : Sha256) (benchmark : Benchmark) (calibrated : Bool) :
    Except String (List RequestStep) :=
  benchmark.stepsFrom gen sha256 calibrated 0 [] (benchmark.coordinates gen)

end LlmperfOrchestrator.Preparation

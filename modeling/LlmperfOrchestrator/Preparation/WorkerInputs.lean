import LlmperfOrchestrator.Library.Caches
import LlmperfOrchestrator.Preparation.DueTimes
import LlmperfOrchestrator.Preparation.Plans

set_option autoImplicit false

namespace LlmperfOrchestrator.Preparation

open Tables Compiler Storage Draws Rounding Caches

structure Environment where
  tokenizerPath : Option String
  tokenizerFast : Option String
  inputDatasetPaths : Dict String String
  workerDatasetPath : Option String
deriving DecidableEq, Repr

namespace Environment

-- environment.get(TOKENIZER_FAST, "true")
def fast (environment : Environment) : String := environment.tokenizerFast.getD "true"

-- paths.get(input_name) or environment.get(WORKER_DATASET_PATH); an empty path counts as none.
def datasetPath (environment : Environment) (inputName : String) : Option String :=
  ((Dict.get inputName environment.inputDatasetPaths).filter fun path => path ≠ "").or environment.workerDatasetPath

end Environment

structure CalibrationKey where
  datasetAdapter : Option String
  datasetFilename : Option String
  datasetPath : Option String
  tokenizerPath : String
  fast : String
deriving DecidableEq, Repr

-- The fields of the recipe without index, probe_family and probe_occurrence.
structure PlanKey where
  recipe : WorkerInput
  datasetPath : Option String
  tokenizerPath : String
  fast : String
deriving DecidableEq, Repr

def WorkerInput.planDocument (recipe : WorkerInput) : WorkerInput :=
  { recipe with
    index := 0
    probeFamily := 0
    probeOccurrence := 0
    seed := match recipe.prefixSeed with
      | some seed => seed
      | none => recipe.seed }

def WorkerInput.plansPrompt (recipe : WorkerInput) : Prop :=
  recipe.calibrated = true ∧ recipe.mode = .concatenate ∧ recipe.repeatCount = 1

instance (recipe : WorkerInput) : Decidable recipe.plansPrompt := by
  unfold WorkerInput.plansPrompt
  infer_instance

structure Preparer where
  plans : Dict PlanKey PromptPlan
  prefixBytes : Int
  calibrations : Dict CalibrationKey CorpusCalibration
deriving DecidableEq

def Preparer.fresh : Preparer := ⟨[], 0, []⟩

structure Inputs where
  tokenizer : Tokenizer
  source : PromptDatasetSource
  datasetPath : Option String
  tokenizerPath : String
  fast : String

section Prepare

variable (gen : Generator) (artifacts : Artifacts) (sha256 : Sha256) (fuel : Nat)

def truthy (text : Option String) : Option String := text.filter fun text => text ≠ ""

def datasetSource (datasetAdapter datasetFilename datasetPath : Option String) : Except String PromptDatasetSource :=
  match truthy datasetAdapter, truthy datasetPath with
  | some adapter, some path => PromptDatasetSource.external adapter path datasetFilename
  | some _, none => .error "Worker dataset path is missing"
  | none, _ => .ok .builtinSonnet

def fastTokenizer (fast : String) : Bool := fast.toLower = "true"

def readInputs (environment : Environment) (recipe : WorkerInput) : Except String Inputs :=
  match environment.tokenizerPath with
  | none => .error "LLMPERF_TOKENIZER_PATH"
  | some tokenizerPath => do
      let tokenizer ← artifacts.tokenizer tokenizerPath (fastTokenizer environment.fast)
      let source ← datasetSource recipe.datasetAdapter recipe.datasetFilename (environment.datasetPath recipe.inputName)
      .ok ⟨tokenizer, source, environment.datasetPath recipe.inputName, tokenizerPath, environment.fast⟩

def Inputs.calibrationKey (inputs : Inputs) (recipe : WorkerInput) : CalibrationKey :=
  ⟨recipe.datasetAdapter, recipe.datasetFilename, inputs.datasetPath, inputs.tokenizerPath, inputs.fast⟩

def Inputs.planKey (inputs : Inputs) (recipe : WorkerInput) : PlanKey :=
  ⟨recipe.planDocument, inputs.datasetPath, inputs.tokenizerPath, inputs.fast⟩

def maxCalibrations : Nat := 4
def maxPlans : Nat := 128
def maxPrefixBytes : Int := 64 * 1024 * 1024

def prefixWeight (plan : PromptPlan) : Nat := 4 * plan.sharedPrefix.length

def Preparer.used (preparer : Preparer) (key : CalibrationKey) (calibrations : Dict CalibrationKey CorpusCalibration) : Preparer :=
  let moved := moveToEnd key calibrations
  { preparer with calibrations := if maxCalibrations < moved.length then moved.tail else moved }

def Preparer.calibration (preparer : Preparer) (inputs : Inputs) (recipe : WorkerInput) :
    Except String (Option CorpusCalibration) × Preparer :=
  if recipe.calibrated then
    let key := inputs.calibrationKey recipe
    match Dict.get key preparer.calibrations with
    | some calibration => (.ok (some calibration), preparer.used key preparer.calibrations)
    | none =>
        match calibrateCorpus artifacts inputs.tokenizer inputs.source with
        | .error reason => (.error reason, preparer)
        | .ok calibration =>
            (.ok (some calibration), preparer.used key (Dict.put key calibration preparer.calibrations))
  else (.ok none, preparer)

def planRequest (inputs : Inputs) (recipe : WorkerInput) (calibration : Option CorpusCalibration) : PlanRequest where
  seed := recipe.seed
  meanTokens := recipe.tokens
  stddevTokens := recipe.tokenStddev
  sharedPrefixTokens := recipe.prefixTokens
  outputTokens := recipe.outputTokens
  source := inputs.source
  sharedPrefixSeed := recipe.prefixSeed.map fun seed => seed
  calibration := calibration

def Preparer.plan (preparer : Preparer) (inputs : Inputs) (recipe : WorkerInput) (calibration : Option CorpusCalibration) :
    Except String PromptPlan × Preparer :=
  let key := inputs.planKey recipe
  match Dict.get key preparer.plans with
  | some plan => (.ok plan, { preparer with plans := moveToEnd key preparer.plans })
  | none =>
      match calibrate gen artifacts fuel inputs.tokenizer (planRequest inputs recipe calibration) with
      | .error reason => (.error reason, preparer)
      | .ok plan =>
          let kept := evict prefixWeight maxPlans maxPrefixBytes (Dict.put key plan preparer.plans)
            (preparer.prefixBytes + prefixWeight plan)
          (.ok plan, { preparer with plans := moveToEnd key kept.1, prefixBytes := kept.2 })

def requestSeed (recipe : WorkerInput) : Int :=
  if recipe.atomic then recipe.seed else indexedSeed sha256 recipe.seed s!"input:{recipe.index / recipe.repeatCount}"

def promptRequest (inputs : Inputs) (recipe : WorkerInput) : PromptRequest where
  source := inputs.source
  promptMode := recipe.mode
  numRequests := 1
  repeatCount := 1
  meanInputTokens := recipe.tokens
  stddevInputTokens := recipe.tokenStddev
  meanOutputTokens := recipe.outputTokens
  seed := requestSeed sha256 recipe
  sharedPrefixTokens := recipe.prefixTokens
  sharedPrefixSeed := some (match recipe.prefixSeed with
    | some seed => seed
    | none => recipe.seed)

def firstPrompt (prompts : List PreparedPrompt) : Except String PreparedPrompt :=
  match prompts with
  | [] => .error "list index out of range"
  | prompt :: _ => .ok prompt

def Preparer.generate (preparer : Preparer) (inputs : Inputs) (recipe : WorkerInput) (calibration : Option CorpusCalibration) :
    Except String PreparedPrompt × Preparer :=
  match recipe.text with
  | some text =>
      (.ok ⟨text.toList, measuredTokens inputs.tokenizer calibration text.toList, [("source", .text "literal")]⟩, preparer)
  | none =>
      if recipe.plansPrompt then
        match preparer.plan gen artifacts fuel inputs recipe calibration with
        | (.error reason, next) => (.error reason, next)
        | (.ok plan, next) => (renderChunk gen artifacts sha256 fuel { plan with seed := recipe.seed } recipe.index, next)
      else
        ((preparePromptRequests gen artifacts sha256 fuel (measuredTokens inputs.tokenizer calibration)
          (promptRequest sha256 inputs recipe)).bind firstPrompt, preparer)

def countedEvidence (recipe : WorkerInput) (calibration : Option CorpusCalibration) (evidence : Evidence) : Evidence :=
  let counted := Dict.put "input_count_source" (.text (if recipe.calibrated then "calibrated_estimate" else "tokenizer")) evidence
  match calibration with
  | none => counted
  | some calibration =>
      let renamed := match Dict.get "actual_input_tokens" counted with
        | none => counted
        | some .null => Dict.pop "actual_input_tokens" counted
        | some count => Dict.put "estimated_input_tokens" count (Dict.pop "actual_input_tokens" counted)
      Dict.put "calibration_records" (natural calibration.recordCount)
        (Dict.put "characters_per_token" (.number calibration.charactersPerToken) renamed)

-- _replace_one_token: the first other token whose text reads back as it was written.
def replaceOneToken (tokenizer : Tokenizer) (prompt : Text) (offset : Nat) : Except String Text :=
  let tokens := tokenizer.encode prompt
  match tokens[offset]? with
  | none =>
      if tokens = [] then .error "Cannot mutate an empty token sequence"
      else .error s!"Mutation token offset {offset} is outside prompt length {tokens.length}"
  | some original =>
      if tokenizer.vocabSize ≤ 1 then .error "Selected tokenizer cannot construct token-exact mutations"
      else
        let candidates := (List.range' 1 (min tokenizer.vocabSize 4096 - 1)).map fun step =>
          tokens.set offset ((original + step) % tokenizer.vocabSize)
        match candidates.findSome? fun ids => (tokenizer.decode ids).filter fun text => tokenizer.encode text = ids with
        | some text => .ok text
        | none => .error "Unable to construct a round-trip-safe token mutation"

def mutationOffset (probe : CacheProbeConfig) (promptTokens : Int) : Nat :=
  match probe.mode with
  | .exactRepeat => 0
  | .sharedPrefix => probe.sharedPrefixTokens.getD 0
  | .earlyMutation => probe.mutationTokenOffset.getD 8
  | .lateMutation => probe.mutationTokenOffset.getD (max 1 (promptTokens - 8)).toNat

def mutatedPrompt (tokenizer : Tokenizer) (probe : CacheProbeConfig) (prime : Text) (offset : Nat) : Except String Text :=
  if probe.mode = .exactRepeat then .ok prime else replaceOneToken tokenizer prime offset

-- The one family that build_cache_probe_plan makes of one prompt: the prime or the warm request.
def probeRequest (tokenizer : Tokenizer) (probe : CacheProbeConfig) (prime : Text) (primeTokens seed : Int) (warm : Bool) :
    Except String (Text × Int × Dict String Json) := do
  let offset := mutationOffset probe primeTokens
  let mutated ← mutatedPrompt tokenizer probe prime offset
  let prompt := if warm then mutated else prime
  let tokens : Int := (tokenizer.encode prompt).length
  let hash := "sha256:" ++ sha256Hex sha256 (String.ofList prompt)
  let occurrence := if warm then 1 else 0
  let identity := sha256Hex sha256 s!"{seed}:family-00000:{occurrence}:{hash}"
  .ok (prompt, tokens,
    [("request_id", .text (String.ofList (identity.toList.take 32))), ("family_id", .text "family-00000"),
      ("role", .text (if warm then "warm" else "prime")), ("occurrence", natural occurrence), ("dispatch_index", natural occurrence),
      ("prompt_hash", .text hash), ("local_input_tokens", .number tokens),
      ("expected_shared_prefix_tokens", .number (if probe.mode = .exactRepeat then primeTokens else offset)),
      ("delay_seconds", .number (if warm then probe.delay.seconds else 0)), ("seed", .number seed)] ++
    if probe.persistPromptText then [("prompt", .text (String.ofList prompt))] else [])

def updated (fields changes : Dict String Json) : Dict String Json :=
  changes.foldl (fun fields change => Dict.put change.1 change.2 fields) fields

def familyId (family : Nat) : String :=
  let digits := toString family
  "family-" ++ String.ofList (List.replicate (5 - digits.length) '0') ++ digits

def probed (tokenizer : Tokenizer) (recipe : WorkerInput) (metadata : Dict String Json) (prompt : PreparedPrompt) :
    Except String (Text × Int × Dict String Json) :=
  match recipe.probe with
  | none => .ok (prompt.text, prompt.tokens, metadata)
  | some probe => do
      let (text, tokens, fields) ←
        probeRequest sha256 tokenizer probe prompt.text prompt.tokens recipe.seed (recipe.probeOccurrence ≠ 0)
      .ok (text, tokens, updated (updated metadata fields)
        [("family_id", .text (familyId recipe.probeFamily)), ("occurrence", natural recipe.probeOccurrence),
          ("dispatch_index", (Dict.get "plan_index" metadata).getD (natural 0)),
          ("request_id", .text s!"probe-{recipe.probeFamily}-{recipe.probeOccurrence}")])

def userMessages (parameters : Dict String Json) (text : Text) : Json :=
  let earlier := match Dict.get "messages" parameters with
    | some (.list messages) => messages
    | _ => []
  .list (earlier ++ [.dict [("role", .text "user"), ("content", .text (String.ofList text))]])

-- The prepared request. preparation_seconds and prepared_at, which are times, are left out.
def finished (inputs : Inputs) (request : RequestConfig) (recipe : WorkerInput) (calibration : Option CorpusCalibration)
    (prompt : PreparedPrompt) : Except String RequestConfig := do
  let evidence := countedEvidence recipe calibration prompt.evidence
  let (text, tokens, metadata) ← probed sha256 inputs.tokenizer recipe request.metadata prompt
  let metadata := updated metadata
    [("prompt_evidence", .dict evidence), ("payload_evidence", .dict evidence),
      ("prompt_hash", sha256Tag sha256 (String.ofList text)), ("local_input_tokens", .number tokens)]
  let prepared := { request with prompt := (String.ofList text, tokens), metadata := metadata, preparation := none }
  if isNone (Dict.get "history_version" metadata) then .ok prepared
  else
    let messages := userMessages request.samplingParams text
    .ok { prepared with
      samplingParams := Dict.put "messages" messages request.samplingParams
      metadata := Dict.put "messages_hash" (sha256Tag sha256 (artifacts.dumps messages)) metadata }

def Preparer.prepare (preparer : Preparer) (request : RequestConfig) (environment : Environment) (now : DateTime) :
    Except String RequestConfig × Preparer :=
  match request.preparation with
  | none => (.ok request, preparer)
  | some recipe =>
      if request.deadlineAt.any fun deadline => deadline.instant ≤ now.instant then
        (.error "Worker deadline elapsed before input preparation", preparer)
      else
        match readInputs artifacts environment recipe with
        | .error reason => (.error reason, preparer)
        | .ok inputs =>
            match preparer.calibration artifacts inputs recipe with
            | (.error reason, next) => (.error reason, next)
            | (.ok calibration, next) =>
                match next.generate gen artifacts sha256 fuel inputs recipe calibration with
                | (.error reason, last) => (.error reason, last)
                | (.ok prompt, last) => (finished artifacts sha256 inputs request recipe calibration prompt, last)

end Prepare

end LlmperfOrchestrator.Preparation

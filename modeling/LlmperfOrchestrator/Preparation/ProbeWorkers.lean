import LlmperfOrchestrator.Preparation.ProbeFamilies
import LlmperfOrchestrator.Preparation.SampleRepetition

set_option autoImplicit false

namespace LlmperfOrchestrator.Preparation

open Tables Compiler Storage Draws Outcomes

section Single

variable (gen : Generator) (sha256 : Sha256) (hmac : HmacSha256) (tokenizer : Tokenizer) (probe : CacheProbeConfig) (seed : Int)

theorem single_indices : familyIndices gen probe.single seed = [0] := by
  rw [familyIndices]
  split <;> rfl

theorem single_plan (valid : probe.delay.valid = true) (prime : Text) (primeLength : Int) :
    buildCacheProbePlan gen sha256 hmac tokenizer probe.single seed none [(prime, primeLength)] =
      (warmPrompt tokenizer probe.single prime primeLength).map fun made =>
        familyBlock sha256 hmac tokenizer probe.single seed none 0 0 prime made.1 made.2 := by
  have enough : ¬ (([(prime, primeLength)].length : Int) < probe.single.trials) := by
    change ¬ ((1 : Int) < 1)
    omega
  have fine : ¬ ((probe.single.delay.any fun delay => !delay.valid) = true) := by
    change ¬ ((!probe.delay.valid) = true)
    rw [valid]
    decide
  rw [buildCacheProbePlan, if_neg enough, if_neg fine, single_indices, planFamilies]
  change ((warmPrompt tokenizer probe.single prime primeLength).bind fun made => _) = _
  cases warmPrompt tokenizer probe.single prime primeLength with
  | error reason => rfl
  | ok made => exact congrArg Except.ok (List.append_nil _)

-- probe_plan[1 if recipe.probe_occurrence else 0]
def plannedRequest (plan : List CacheProbeRequest) (warm : Bool) : Except String CacheProbeRequest :=
  match plan[if warm then 1 else 0]? with
  | some request => .ok request
  | none => .error "list index out of range"

theorem single_offset (mutating : probe.mode ≠ .exactRepeat) (primeLength : Int) :
    probeOffset probe.single primeLength = .ok (mutationOffset probe primeLength : Int) := by
  cases mode : probe.mode with
  | exactRepeat => exact absurd mode mutating
  | sharedPrefix =>
      cases tokens : probe.sharedPrefixTokens <;>
        simp [probeOffset, CacheProbeConfig.single, ProbeMode.name, mutationOffset, mode, tokens]
  | earlyMutation =>
      cases offset : probe.mutationTokenOffset <;>
        simp [probeOffset, CacheProbeConfig.single, ProbeMode.name, mutationOffset, mode, offset]
  | lateMutation =>
      cases offset : probe.mutationTokenOffset with
      | none =>
          have positive : 0 ≤ max 1 (primeLength - 8) := by omega
          simp [probeOffset, CacheProbeConfig.single, ProbeMode.name, mutationOffset, mode, offset]
      | some place => simp [probeOffset, CacheProbeConfig.single, ProbeMode.name, mutationOffset, mode, offset]

theorem single_mode : probe.single.mode = "exact_repeat" ↔ probe.mode = .exactRepeat := by
  change probe.mode.name = "exact_repeat" ↔ _
  cases probe.mode <;> decide

theorem single_warm (prime : Text) (primeLength : Int) :
    warmPrompt tokenizer probe.single prime primeLength =
      (mutatedPrompt tokenizer probe prime (mutationOffset probe primeLength)).map fun warm =>
        (warm, if probe.mode = .exactRepeat then primeLength else (mutationOffset probe primeLength : Int)) := by
  rw [warmPrompt, mutatedPrompt]
  by_cases exact : probe.mode = .exactRepeat
  · rw [if_pos ((single_mode probe).mpr exact), if_pos exact, if_pos exact]
    rfl
  · rw [if_neg (mt (single_mode probe).mp exact), if_neg exact, if_neg exact, single_offset probe exact]
    change (replaceTokenAt tokenizer prime (mutationOffset probe primeLength : Int)).bind _ = _
    rw [replaceTokenAt, if_pos (Int.natCast_nonneg _), Int.toNat_natCast]
    rfl

theorem first_family : familyId 0 = "family-00000" := by decide +kernel

theorem identity_text (occurrence : Nat) (promptHash : String) :
    s!"{seed}:{familyId 0}:{occurrence}:{promptHash}" = s!"{seed}:family-00000:{occurrence}:{promptHash}" := by
  apply String.toList_injective
  rw [first_family]
  change (toString seed ++ ":" ++ "family-00000" ++ ":" ++ toString occurrence ++ ":" ++ promptHash).toList =
    (toString seed ++ ":family-00000:" ++ toString occurrence ++ ":" ++ promptHash).toList
  have joined : ":".toList ++ ("family-00000".toList ++ ":".toList) = ":family-00000:".toList := by decide +kernel
  simp only [String.toList_append, List.append_assoc, ← joined]

theorem request_fields (prime : Text) (primeLength : Int) (warm : Bool) :
    probeRequest sha256 tokenizer probe prime primeLength seed warm =
      (mutatedPrompt tokenizer probe prime (mutationOffset probe primeLength)).map fun mutated =>
        let request := cacheProbeRequest sha256 hmac tokenizer probe.single seed none 0 (if warm then 1 else 0)
          (if warm then 1 else 0) prime mutated
          (if probe.mode = .exactRepeat then primeLength else (mutationOffset probe primeLength : Int))
        (request.prompt, (request.localInputTokens : Int), request.metadata) := by
  rw [probeRequest]
  cases mutatedPrompt tokenizer probe prime (mutationOffset probe primeLength) with
  | error reason => rfl
  | ok text =>
      have prefixes : (((if probe.mode = .exactRepeat then primeLength else (mutationOffset probe primeLength : Int)) : Int) : Rat) =
          if probe.mode = .exactRepeat then (primeLength : Rat) else (mutationOffset probe primeLength : Rat) := by
        split <;> rfl
      simp only [bind, Except.bind, Except.map, cacheProbeRequest, CacheProbeRequest.metadata, hashPrompt, Option.filter_none,
        identity_text, prefixes]
      simp only [first_family, ProbePlanConfig.delaySeconds, CacheProbeConfig.single, Option.map_some, Option.getD_some,
        Int.cast_natCast]
      cases warm with
      | false => simp only [Bool.false_eq_true, if_false, if_true, ProbeRole.name]
      | true => simp only [if_true, one_ne_zero, if_false, ProbeRole.name]
theorem planned_place (prime mutated : Text) (expected : Int) (warm : Bool) :
    plannedRequest (familyBlock sha256 hmac tokenizer probe.single seed none 0 0 prime mutated expected) warm =
      .ok (cacheProbeRequest sha256 hmac tokenizer probe.single seed none 0 (if warm then 1 else 0) (if warm then 1 else 0)
        prime mutated expected) := by
  have two : probe.single.occurrences = 2 := rfl
  rw [plannedRequest, familyBlock, two]
  cases warm with
  | false => rfl
  | true => rfl

theorem probe_request_plan (valid : probe.delay.valid = true) (prime : Text) (primeLength : Int) (warm : Bool) :
    probeRequest sha256 tokenizer probe prime primeLength seed warm =
      (buildCacheProbePlan gen sha256 hmac tokenizer probe.single seed none [(prime, primeLength)]).bind fun plan =>
        (plannedRequest plan warm).map fun request => (request.prompt, (request.localInputTokens : Int), request.metadata) := by
  rw [request_fields sha256 hmac, single_plan gen sha256 hmac tokenizer probe seed valid, single_warm]
  cases mutatedPrompt tokenizer probe prime (mutationOffset probe primeLength) with
  | error reason => rfl
  | ok mutated =>
      change _ = (plannedRequest (familyBlock sha256 hmac tokenizer probe.single seed none 0 0 prime mutated _) warm).map _
      rw [planned_place]
      rfl

theorem planned_member (plan : List CacheProbeRequest) (warm : Bool) (request : CacheProbeRequest)
    (planned : plannedRequest plan warm = .ok request) : request ∈ plan := by
  rw [plannedRequest] at planned
  split at planned
  · rename_i found read
    cases planned
    exact List.mem_of_getElem? read
  · cases planned

-- What two Workers of one family send, where both have made the plan of the same prompt.
include gen hmac in
theorem sent_pair (valid : probe.delay.valid = true) (prime : Text) (primeLength : Int) (sent resent : Text × Int × Dict String Json)
    (first : probeRequest sha256 tokenizer probe prime primeLength seed false = .ok sent)
    (second : probeRequest sha256 tokenizer probe prime primeLength seed true = .ok resent) :
    ∃ earlier later : CacheProbeRequest, sent = (earlier.prompt, (earlier.localInputTokens : Int), earlier.metadata) ∧
      resent = (later.prompt, (later.localInputTokens : Int), later.metadata) ∧
      earlier.expectedSharedPrefixTokens = later.expectedSharedPrefixTokens ∧
      WarmOf tokenizer probe.mode.name earlier.prompt later.prompt later.expectedSharedPrefixTokens := by
  rw [probe_request_plan gen sha256 hmac tokenizer probe seed valid] at first second
  obtain ⟨plan, built, picked⟩ := (bind_ok _ _ _).mp first
  obtain ⟨again, rebuilt, repicked⟩ := (bind_ok _ _ _).mp second
  cases built.symm.trans rebuilt
  have made := built
  rw [single_plan gen sha256 hmac tokenizer probe seed valid] at made
  cases warmed : warmPrompt tokenizer probe.single prime primeLength with
  | error reason =>
      rw [warmed] at made
      cases made
  | ok pair =>
      rw [warmed] at made
      cases made
      have placed := planned_place sha256 hmac tokenizer probe seed prime pair.1 pair.2 false
      have replaced := planned_place sha256 hmac tokenizer probe seed prime pair.1 pair.2 true
      obtain ⟨_, _, related⟩ := prime_before_warm gen sha256 hmac tokenizer probe.single seed none [(prime, primeLength)] _ built _ _
        (planned_member _ false _ placed) (planned_member _ true _ replaced) rfl rfl rfl
      rw [placed] at picked
      rw [replaced] at repicked
      cases picked
      cases repicked
      exact ⟨_, _, rfl, rfl, rfl, related⟩

end Single

section Metadata

theorem updated_other (fields changes : Dict String Json) (name : String) (absent : name ∉ Dict.keys changes) :
    Dict.get name (updated fields changes) = Dict.get name fields := by
  induction changes generalizing fields with
  | nil => rfl
  | cons change rest ih =>
      rw [Dict.keys, List.map_cons, List.mem_cons, not_or] at absent
      change Dict.get name (updated (Dict.put change.1 change.2 fields) rest) = _
      rw [ih _ absent.2, dict_get_put, if_neg absent.1]

theorem updated_set (fields before after : Dict String Json) (name : String) (value : Json) (absent : name ∉ Dict.keys after) :
    Dict.get name (updated fields (before ++ (name, value) :: after)) = some value := by
  have split : updated fields (before ++ (name, value) :: after) = updated (Dict.put name value (updated fields before)) after := by
    rw [updated, List.foldl_append]
    rfl
  rw [split, updated_other _ after name absent, dict_get_put, if_pos rfl]

theorem request_expectation (request : CacheProbeRequest) (fields : Dict String Json) :
    Dict.get "expected_shared_prefix_tokens" (updated fields request.metadata) =
      some (.number request.expectedSharedPrefixTokens) := by
  have split : request.metadata = request.metadata.take 7 ++
      ("expected_shared_prefix_tokens", .number request.expectedSharedPrefixTokens) :: request.metadata.drop 8 := rfl
  rw [split]
  apply updated_set
  have keys : Dict.keys (request.metadata.drop 8) =
      ["delay_seconds", "seed"] ++ if request.persistPromptText then ["prompt"] else [] := by
    rw [CacheProbeRequest.metadata]
    cases request.persistPromptText with
    | false => rfl
    | true => rfl
  rw [keys]
  cases request.persistPromptText with
  | false => decide
  | true => decide

end Metadata

section Workers

variable (gen : Generator) (artifacts : Artifacts) (sha256 : Sha256) (fuel : Nat)

theorem uncalibrated_prepares (preparer : Preparer) (request : RequestConfig) (recipe : WorkerInput) (environment : Environment)
    (now : DateTime) (given : request.preparation = some recipe) (exact : recipe.calibrated = false) :
    (preparer.prepare gen artifacts sha256 fuel request environment now).1 =
      preparedOf gen artifacts sha256 fuel request environment now := by
  have unplanned : ¬ recipe.plansPrompt := by
    rintro ⟨calibrated, _⟩
    rw [exact] at calibrated
    cases calibrated
  rw [Preparer.prepare, preparedOf, given]
  dsimp only
  split
  · rfl
  · cases readInputs artifacts environment recipe with
    | error reason => rfl
    | ok inputs =>
        dsimp only
        rw [Preparer.calibration, calibrationOf, exact, if_neg Bool.false_ne_true, if_neg Bool.false_ne_true]
        dsimp only
        rw [Preparer.generate, generatedOf]
        cases recipe.text with
        | some text => rfl
        | none =>
            dsimp only
            rw [if_neg unplanned, if_neg unplanned]
            cases (preparePromptRequests gen artifacts sha256 fuel (measuredTokens inputs.tokenizer none)
                (promptRequest sha256 inputs recipe)).bind firstPrompt with
            | error reason => rfl
            | ok prompt => rfl

theorem probed_sends (inputs : Inputs) (request : RequestConfig) (recipe : WorkerInput) (calibration : Option CorpusCalibration)
    (prompt : PreparedPrompt) (prepared : RequestConfig) (probe : CacheProbeConfig) (probing : recipe.probe = some probe)
    (done : finished artifacts sha256 inputs request recipe calibration prompt = .ok prepared) :
    ∃ sent, probeRequest sha256 inputs.tokenizer probe prompt.text prompt.tokens recipe.seed (recipe.probeOccurrence ≠ 0) = .ok sent ∧
      prepared.prompt = (String.ofList sent.1, sent.2.1) ∧
      Dict.get "expected_shared_prefix_tokens" prepared.metadata =
        Dict.get "expected_shared_prefix_tokens" (updated request.metadata sent.2.2) := by
  obtain ⟨⟨text, tokens, metadata⟩, sent, rest⟩ := (bind_ok _ _ _).mp done
  rw [probed, probing] at sent
  obtain ⟨⟨sentText, sentTokens, fields⟩, made, same⟩ := (bind_ok _ _ _).mp sent
  cases same
  refine ⟨_, made, ?_⟩
  dsimp only at rest
  split at rest
  · cases rest
    refine ⟨rfl, ?_⟩
    dsimp only
    rw [updated_other _ _ _ (by simp [Dict.keys]), updated_other _ _ _ (by simp [Dict.keys])]
  · cases rest
    refine ⟨rfl, ?_⟩
    dsimp only
    rw [dict_get_put, if_neg (by decide), updated_other _ _ _ (by simp [Dict.keys]), updated_other _ _ _ (by simp [Dict.keys])]

variable (benchmark : Benchmark) (calibrated : Bool) (probe : CacheProbeConfig) (probing : benchmark.cacheProbe = some probe)
include probing

theorem probe_context (accepted : benchmark.Accepted) : benchmark.contexts = .absent := by
  have validated := accepted.contexts
  rw [Benchmark.validateContexts] at validated
  cases held : benchmark.contexts with
  | absent => rfl
  | single context =>
      cases kind : context.executionKind with
      | atomic =>
          simp only [held, kind, probing, checked_ok] at validated
          exact absurd rfl validated.2.1
      | batch =>
          simp only [held, kind, probing, checked_ok] at validated
          exact absurd rfl validated.1
  | grouped contexts =>
      simp only [held, probing, checked_ok] at validated
      exact absurd (.inl rfl) validated.2.1

theorem probe_delay_valid (accepted : benchmark.Accepted) : probe.delay.valid = true := by
  have fields := accepted.fields
  simp only [Benchmark.validFields, probing, Option.all_some, decide_eq_true_eq] at fields
  obtain ⟨_, _, _, _, _, _, _, _, _, _, valid, _⟩ := fields
  simp only [CacheProbeConfig.valid, decide_eq_true_eq] at valid
  exact valid.2.2.2.2.2.2.1

theorem probe_coordinate (coordinate : Coordinate) (listed : coordinate ∈ benchmark.coordinates gen) :
    ∃ family occurrence, coordinate = .probe family occurrence := by
  rw [Benchmark.coordinates, probing] at listed
  obtain ⟨family, _, inFamily⟩ := List.mem_flatMap.mp listed
  obtain ⟨occurrence, _, rfl⟩ := List.mem_map.mp inFamily
  exact ⟨family, occurrence, rfl⟩

theorem probe_recipe (accepted : benchmark.Accepted) (steps : List RequestStep)
    (returned : workerSteps gen sha256 benchmark calibrated = .ok steps) (step : RequestStep) (member : step ∈ steps)
    (recipe : WorkerInput) (given : step.request.preparation = some recipe) :
    ∃ family occurrence, recipe = benchmark.recipe sha256 calibrated none (.probe family occurrence) 0 := by
  have inRecipes : recipe ∈ inputRecipes steps recipe.inputName :=
    List.mem_filter.mpr ⟨List.mem_filterMap.mpr ⟨step, member, given⟩, decide_eq_true rfl⟩
  obtain ⟨i, read⟩ := List.mem_iff_getElem?.mp inRecipes
  obtain ⟨index, context, coordinate, listed, placed⟩ :=
    steps_from_placed gen sha256 benchmark calibrated _ 0 [] steps returned recipe.inputName i recipe read
  obtain ⟨family, occurrence, rfl⟩ := probe_coordinate gen benchmark probe probing coordinate listed
  have found := placed.found
  rw [Benchmark.contextOf, probe_context benchmark probe probing accepted] at found
  cases found
  refine ⟨family, occurrence, ?_⟩
  rw [placed.built, Benchmark.recipe, Benchmark.recipe, probing]
  rfl

omit probing in
theorem family_generated (context : Option TaskContext) (family occurrence later : Nat) (inputs : Inputs)
    (calibration : Option CorpusCalibration) :
    generatedOf gen artifacts sha256 fuel inputs (benchmark.recipe sha256 calibrated context (.probe family occurrence) 0) calibration =
      generatedOf gen artifacts sha256 fuel inputs (benchmark.recipe sha256 calibrated context (.probe family later) 0) calibration :=
  rfl

theorem probe_rendered (family occurrence : Nat) (preparer : Preparer) (request prepared : RequestConfig) (environment : Environment)
    (now : DateTime)
    (given : request.preparation = some (benchmark.recipe sha256 calibrated none (.probe family occurrence) 0))
    (done : (preparer.prepare gen artifacts sha256 fuel request environment now).1 = .ok prepared) :
    ∃ inputs prompt sent,
      readInputs artifacts environment (benchmark.recipe sha256 calibrated none (.probe family occurrence) 0) = .ok inputs ∧
      generatedOf gen artifacts sha256 fuel inputs (benchmark.recipe sha256 calibrated none (.probe family 0) 0) none = .ok prompt ∧
      probeRequest sha256 inputs.tokenizer probe prompt.text prompt.tokens benchmark.datasetSeed (occurrence ≠ 0) = .ok sent ∧
      prepared.prompt.1 = String.ofList sent.1 ∧
      Dict.get "expected_shared_prefix_tokens" prepared.metadata =
        Dict.get "expected_shared_prefix_tokens" (updated request.metadata sent.2.2) := by
  have exact : (benchmark.recipe sha256 calibrated none (.probe family occurrence) 0).calibrated = false := by
    simp [Benchmark.recipe, probing]
  have probed : (benchmark.recipe sha256 calibrated none (.probe family occurrence) 0).probe = some probe := probing
  rw [uncalibrated_prepares gen artifacts sha256 fuel preparer request _ environment now given exact] at done
  obtain ⟨inputs, calibration, prompt, rendered⟩ := prepare_renders gen artifacts sha256 fuel request _ environment now prepared given done
  have measured := rendered.measured
  rw [calibrationOf, exact, if_neg Bool.false_ne_true] at measured
  cases measured
  obtain ⟨sent, made, text, expectation⟩ := probed_sends artifacts sha256 inputs request _ none prompt prepared probe probed rendered.finishes
  have generated := rendered.generated
  rw [family_generated gen artifacts sha256 fuel benchmark calibrated none family occurrence 0] at generated
  exact ⟨inputs, prompt, sent, rendered.read, generated, made, congrArg Prod.fst text, expectation⟩

end Workers

def environmentTokenizer (artifacts : Artifacts) (environment : Environment) : Except String Tokenizer :=
  match environment.tokenizerPath with
  | some path => artifacts.tokenizer path (fastTokenizer environment.fast)
  | none => .error "LLMPERF_TOKENIZER_PATH"

theorem inputs_tokenizer (artifacts : Artifacts) (environment : Environment) (recipe : WorkerInput) (inputs : Inputs)
    (read : readInputs artifacts environment recipe = .ok inputs) : environmentTokenizer artifacts environment = .ok inputs.tokenizer := by
  rw [readInputs] at read
  rw [environmentTokenizer]
  cases path : environment.tokenizerPath with
  | none =>
      rw [path] at read
      cases read
  | some place =>
      rw [path] at read
      obtain ⟨tokenizer, loaded, rest⟩ := (bind_ok _ _ _).mp read
      obtain ⟨source, _, same⟩ := (bind_ok _ _ _).mp rest
      cases same
      exact loaded

section Family

variable (gen : Generator) (sha256 : Sha256) (artifacts : Artifacts) (fuel : Nat)

def PreparedBy (steps : List RequestStep) (environment : Environment) (family occurrence : Nat) (prepared : RequestConfig) : Prop :=
  ∃ step ∈ steps, ∃ recipe, step.request.preparation = some recipe ∧ recipe.probeFamily = family ∧
    recipe.probeOccurrence = occurrence ∧ ∃ (preparer : Preparer) (request : RequestConfig) (now : DateTime),
      request.preparation = some recipe ∧ (preparer.prepare gen artifacts sha256 fuel request environment now).1 = .ok prepared

theorem family_prepares (hmac : HmacSha256) (benchmark : Benchmark) (accepted : benchmark.Accepted) (calibrated : Bool)
    (probe : CacheProbeConfig) (probing : benchmark.cacheProbe = some probe) (steps : List RequestStep)
    (returned : workerSteps gen sha256 benchmark calibrated = .ok steps) (environment : Environment) (family occurrence : Nat)
    (later : occurrence ≠ 0) (prime warm : RequestConfig)
    (primed : PreparedBy gen sha256 artifacts fuel steps environment family 0 prime)
    (warmed : PreparedBy gen sha256 artifacts fuel steps environment family occurrence warm) :
    ∃ tokenizer expected, environmentTokenizer artifacts environment = .ok tokenizer ∧
      WarmOf tokenizer probe.mode.name prime.prompt.1.toList warm.prompt.1.toList expected ∧
      Dict.get "expected_shared_prefix_tokens" prime.metadata = some (.number expected) ∧
      Dict.get "expected_shared_prefix_tokens" warm.metadata = some (.number expected) := by
  obtain ⟨step, member, recipe, given, isFamily, isFirst, preparer, request, now, carried, done⟩ := primed
  obtain ⟨next, alsoMember, other, alsoGiven, alsoFamily, isLater, another, following, after, alsoCarried, alsoDone⟩ := warmed
  obtain ⟨_, _, rfl⟩ := probe_recipe gen sha256 benchmark calibrated probe probing accepted steps returned step member recipe given
  obtain ⟨_, place, rfl⟩ := probe_recipe gen sha256 benchmark calibrated probe probing accepted steps returned next alsoMember other alsoGiven
  cases isFamily
  cases isFirst
  cases alsoFamily
  cases isLater
  have positive : place ≠ 0 := later
  obtain ⟨inputs, prompt, sent, read, generated, made, text, expectation⟩ :=
    probe_rendered gen artifacts sha256 fuel benchmark calibrated probe probing _ _ preparer request prime environment now carried done
  obtain ⟨alsoInputs, alsoPrompt, resent, reread, regenerated, remade, retext, reexpectation⟩ :=
    probe_rendered gen artifacts sha256 fuel benchmark calibrated probe probing _ _ another following warm environment after alsoCarried
      alsoDone
  cases read.symm.trans reread
  cases generated.symm.trans regenerated
  rw [decide_eq_true positive] at remade
  obtain ⟨earlier, following, rfl, rfl, expected, related⟩ := sent_pair gen sha256 hmac inputs.tokenizer probe benchmark.datasetSeed
    (probe_delay_valid benchmark probe probing accepted) prompt.text prompt.tokens sent resent made remade
  refine ⟨inputs.tokenizer, following.expectedSharedPrefixTokens, inputs_tokenizer artifacts environment _ inputs read, ?_, ?_, ?_⟩
  · rw [text, retext, String.toList_ofList, String.toList_ofList]
    exact related
  · rw [expectation, request_expectation, expected]
  · rw [reexpectation, request_expectation]

theorem cache_probe_construction (hmac : HmacSha256) :
    (∀ (tokenizer : Tokenizer) (config : ProbePlanConfig) (seed : Int) (hashKey : Option (List UInt8))
      (basePrompts : List (Text × Int)) (plan : List CacheProbeRequest),
      buildCacheProbePlan gen sha256 hmac tokenizer config seed hashKey basePrompts = .ok plan →
        SoundProbePlan tokenizer config plan) ∧
    ∀ (benchmark : Benchmark) (calibrated : Bool) (probe : CacheProbeConfig) (steps : List RequestStep) (environment : Environment),
      benchmark.Accepted → benchmark.cacheProbe = some probe → workerSteps gen sha256 benchmark calibrated = .ok steps →
        ∀ (family occurrence : Nat) (prime warm : RequestConfig), occurrence ≠ 0 →
          PreparedBy gen sha256 artifacts fuel steps environment family 0 prime →
          PreparedBy gen sha256 artifacts fuel steps environment family occurrence warm →
          ∃ tokenizer expected, environmentTokenizer artifacts environment = .ok tokenizer ∧
            WarmOf tokenizer probe.mode.name prime.prompt.1.toList warm.prompt.1.toList expected ∧
            Dict.get "expected_shared_prefix_tokens" prime.metadata = some (.number expected) ∧
            Dict.get "expected_shared_prefix_tokens" warm.metadata = some (.number expected) := by
  constructor
  · intro tokenizer config seed hashKey basePrompts plan built
    exact built_sound gen sha256 hmac tokenizer config seed hashKey basePrompts plan built
  · intro benchmark calibrated probe steps environment accepted probing returned family occurrence prime warm later primed warmed
    exact family_prepares gen sha256 artifacts fuel hmac benchmark accepted calibrated probe probing steps returned environment family
      occurrence later prime warm primed warmed

end Family

def letterTokenizer : Tokenizer := ⟨fun text => text.map Char.toNat, fun ids => some (ids.map Char.ofNat), 128⟩

def letterProbe : CacheProbeConfig :=
  ⟨.sharedPrefix, 2, 1, randomizedFamilyBlocks, some 2, none, ⟨0, .s⟩, false⟩

def letterProbeBenchmark : Benchmark :=
  { prefixBenchmark with
    meanInputTokens := 8
    sharedPrefixTokens := 0
    sharedPrefixSeed := none
    datasetPromptMode := .sample
    cacheProbe := some letterProbe }

theorem letter_probe_accepted : letterProbeBenchmark.Accepted where
  fields := by decide +kernel
  graph := rfl
  probe := rfl
  messages := rfl
  contexts := rfl
  inputs := fun entry listed => by cases listed

def letterProbeRequest (occurrence : Nat) : RequestConfig :=
  ⟨"model", ("", 8), [], "openai", [], 90, some (letterProbeBenchmark.recipe (fun _ => 0) true none (.probe 0 occurrence) 0), none⟩

theorem letter_probes :
    (∃ plan, buildCacheProbePlan lowDraws (fun _ => 0) (fun _ _ => 0) letterTokenizer letterProbe.single 7 none
      [(['a', 'b', 'c', 'd'], 4)] = .ok plan ∧ SoundProbePlan letterTokenizer letterProbe.single plan) ∧
    ∃ steps prime warm, workerSteps lowDraws (fun _ => 0) letterProbeBenchmark true = .ok steps ∧
      PreparedBy lowDraws (fun _ => 0) letterArtifacts 8 steps letterEnvironment 0 0 prime ∧
      PreparedBy lowDraws (fun _ => 0) letterArtifacts 8 steps letterEnvironment 0 1 warm ∧
      ∃ tokenizer expected, environmentTokenizer letterArtifacts letterEnvironment = .ok tokenizer ∧
        WarmOf tokenizer "shared_prefix" prime.prompt.1.toList warm.prompt.1.toList expected := by
  obtain ⟨plans, workers⟩ := cache_probe_construction lowDraws (fun _ => 0) letterArtifacts 8 (fun _ _ => 0)
  constructor
  · exact ⟨_, rfl, plans letterTokenizer letterProbe.single 7 none [(['a', 'b', 'c', 'd'], 4)] _ rfl⟩
  · have primed : ∀ steps, workerSteps lowDraws (fun _ => 0) letterProbeBenchmark true = .ok steps →
        ∃ prime, PreparedBy lowDraws (fun _ => 0) letterArtifacts 8 steps letterEnvironment 0 0 prime := by
      intro steps returned
      cases returned
      exact ⟨_, _, .head _, _, rfl, rfl, rfl, .fresh, letterProbeRequest 0, letterTime, rfl, rfl⟩
    have warmed : ∀ steps, workerSteps lowDraws (fun _ => 0) letterProbeBenchmark true = .ok steps →
        ∃ warm, PreparedBy lowDraws (fun _ => 0) letterArtifacts 8 steps letterEnvironment 0 1 warm := by
      intro steps returned
      cases returned
      exact ⟨_, _, .tail _ (.head _), _, rfl, rfl, rfl, .fresh, letterProbeRequest 1, letterTime, rfl, rfl⟩
    have returned : ∃ steps, workerSteps lowDraws (fun _ => 0) letterProbeBenchmark true = .ok steps := ⟨_, rfl⟩
    obtain ⟨steps, returned⟩ := returned
    obtain ⟨prime, first⟩ := primed steps returned
    obtain ⟨warm, second⟩ := warmed steps returned
    obtain ⟨tokenizer, expected, loaded, related, _⟩ := workers letterProbeBenchmark true letterProbe steps letterEnvironment
      letter_probe_accepted rfl returned 0 1 prime warm (by decide) first second
    exact ⟨steps, prime, warm, returned, first, second, tokenizer, expected, loaded, related⟩

end LlmperfOrchestrator.Preparation

import LlmperfOrchestrator.Preparation.WorkerInputs

set_option autoImplicit false

namespace LlmperfOrchestrator.Preparation

open Tables Compiler Storage Draws Caches Outcomes

section Seeds

variable (gen : Generator) (artifacts : Artifacts) (fuel : Nat) (tokenizer : Tokenizer)

def PromptPlan.reseeded (seed : Int) (plan : PromptPlan) : PromptPlan := { plan with seed := seed }

def PlanRequest.reseeded (seed : Int) (request : PlanRequest) : PlanRequest := { request with seed := seed }

variable (request : PlanRequest)

theorem external_reseeded (prefixSeed seed : Int) :
    calibrateExternal gen artifacts fuel tokenizer (request.reseeded seed) prefixSeed =
      (calibrateExternal gen artifacts fuel tokenizer request prefixSeed).map (PromptPlan.reseeded seed) := by
  have corpus : corpusOf artifacts tokenizer (request.reseeded seed) = corpusOf artifacts tokenizer request := rfl
  rw [calibrateExternal, calibrateExternal, corpus]
  simp only [bind, Except.bind, PlanRequest.reseeded]
  cases artifacts.dataset request.source with
  | error reason => rfl
  | ok dataset =>
      dsimp only
      cases corpusOf artifacts tokenizer request with
      | error reason => rfl
      | ok corpus =>
          dsimp only
          cases assembleDataset gen fuel dataset corpus.charactersPerToken request.sharedPrefixTokens prefixSeed with
          | error reason => rfl
          | ok assembled => rfl

theorem builtin_reseeded (prefixSeed seed : Int) :
    calibrateBuiltin gen artifacts fuel tokenizer (request.reseeded seed) prefixSeed =
      (calibrateBuiltin gen artifacts fuel tokenizer request prefixSeed).map (PromptPlan.reseeded seed) := by
  rw [calibrateBuiltin, calibrateBuiltin]
  cases artifacts.dataset .builtinSonnet with
  | error reason => rfl
  | ok dataset =>
      simp only [bind, Except.bind, PlanRequest.reseeded]
      cases assemble gen fuel (dataset.records.map fun record => record.2 ++ dataset.separator)
          ((dataset.records.map fun record => record.2 ++ dataset.separator).map fun text =>
            max 1 (measuredTokens tokenizer request.calibration text))
          (max (measuredTokens tokenizer request.calibration (dataset.instruction request.outputTokens)) request.sharedPrefixTokens -
            measuredTokens tokenizer request.calibration (dataset.instruction request.outputTokens)) prefixSeed with
      | error reason => rfl
      | ok assembled => rfl

theorem calibrate_reseeded (seed : Int) (same : request.sharedPrefixSeed.getD seed = request.sharedPrefixSeed.getD request.seed) :
    calibrate gen artifacts fuel tokenizer (request.reseeded seed) =
      (calibrate gen artifacts fuel tokenizer request).map (PromptPlan.reseeded seed) := by
  rw [calibrate, calibrate]
  change (if request.source.isExternal then
      calibrateExternal gen artifacts fuel tokenizer (request.reseeded seed) (request.sharedPrefixSeed.getD seed)
    else calibrateBuiltin gen artifacts fuel tokenizer (request.reseeded seed) (request.sharedPrefixSeed.getD seed)) = _
  rw [same]
  by_cases outside : request.source.isExternal = true
  · rw [if_pos outside, if_pos outside, external_reseeded]
  · rw [if_neg outside, if_neg outside, builtin_reseeded]

theorem calibrate_seed (plan : PromptPlan) (made : calibrate gen artifacts fuel tokenizer request = .ok plan) :
    plan.seed = request.seed := by
  have again := calibrate_reseeded gen artifacts fuel tokenizer request request.seed rfl
  have same : request.reseeded request.seed = request := rfl
  rw [same, made] at again
  have fixed : plan = plan.reseeded request.seed := Except.ok.inj again
  rw [fixed, PromptPlan.reseeded]

end Seeds

section Cache

variable (gen : Generator) (artifacts : Artifacts) (sha256 : Sha256) (fuel : Nat)

-- The inputs that a key of the caches stands for.
structure KeyInputs (datasetAdapter datasetFilename datasetPath : Option String) (tokenizerPath fast : String)
    (tokenizer : Tokenizer) (source : PromptDatasetSource) : Prop where
  tokenizer : artifacts.tokenizer tokenizerPath (fastTokenizer fast) = .ok tokenizer
  source : datasetSource datasetAdapter datasetFilename datasetPath = .ok source

def CalibrationStands (key : CalibrationKey) (calibration : CorpusCalibration) : Prop :=
  ∀ tokenizer source,
    KeyInputs artifacts key.datasetAdapter key.datasetFilename key.datasetPath key.tokenizerPath key.fast tokenizer source →
      calibrateCorpus artifacts tokenizer source = .ok calibration

def calibrationOf (inputs : Inputs) (recipe : WorkerInput) : Except String (Option CorpusCalibration) :=
  if recipe.calibrated then (calibrateCorpus artifacts inputs.tokenizer inputs.source).map some else .ok none

def PlanStands (key : PlanKey) (plan : PromptPlan) : Prop :=
  ∀ (inputs : Inputs) (recipe : WorkerInput) (calibration : Option CorpusCalibration),
    KeyInputs artifacts recipe.datasetAdapter recipe.datasetFilename key.datasetPath key.tokenizerPath key.fast
      inputs.tokenizer inputs.source →
    recipe.planDocument = key.recipe → calibrationOf artifacts inputs recipe = .ok calibration →
      calibrate gen artifacts fuel inputs.tokenizer (planRequest inputs recipe calibration) = .ok (plan.reseeded recipe.seed)

structure CacheInvariant (preparer : Preparer) : Prop where
  calibrations : Sound (CalibrationStands artifacts) preparer.calibrations
  calibrationKeys : (Dict.keys preparer.calibrations).Nodup
  fewCalibrations : preparer.calibrations.length ≤ maxCalibrations
  plans : Sound (PlanStands gen artifacts fuel) preparer.plans
  bounded : Bounded prefixWeight maxPlans maxPrefixBytes preparer.plans preparer.prefixBytes

theorem fresh_invariant : CacheInvariant gen artifacts fuel Preparer.fresh where
  calibrations := fun key calibration member => by cases member
  calibrationKeys := List.nodup_nil
  fewCalibrations := Nat.zero_le _
  plans := fun key plan member => by cases member
  bounded := ⟨List.nodup_nil, rfl, Nat.zero_le _, .inr (Nat.zero_le _)⟩

theorem read_inputs_key (environment : Environment) (recipe : WorkerInput) (inputs : Inputs)
    (read : readInputs artifacts environment recipe = .ok inputs) :
    KeyInputs artifacts recipe.datasetAdapter recipe.datasetFilename inputs.datasetPath inputs.tokenizerPath inputs.fast
      inputs.tokenizer inputs.source := by
  rw [readInputs] at read
  split at read
  · cases read
  · obtain ⟨tokenizer, loaded, read⟩ := (bind_ok _ _ _).mp read
    obtain ⟨source, located, read⟩ := (bind_ok _ _ _).mp read
    cases read
    exact ⟨loaded, located⟩

variable (preparer : Preparer)

theorem used_invariant (inv : CacheInvariant gen artifacts fuel preparer) (key : CalibrationKey)
    (calibrations : Dict CalibrationKey CorpusCalibration) (sound : Sound (CalibrationStands artifacts) calibrations)
    (unique : (Dict.keys calibrations).Nodup) (few : calibrations.length ≤ maxCalibrations + 1) :
    CacheInvariant gen artifacts fuel (preparer.used key calibrations) := by
  have moved := move_to_end_perm key calibrations unique
  have tail : (preparer.used key calibrations).calibrations <:+ moveToEnd key calibrations := by
    change (if maxCalibrations < (moveToEnd key calibrations).length then (moveToEnd key calibrations).tail
      else moveToEnd key calibrations) <:+ _
    split
    · exact List.tail_suffix _
    · exact List.suffix_refl _
  refine ⟨suffix_sound _ _ _ tail (perm_sound _ _ _ moved sound), ?_, ?_, inv.plans, inv.bounded⟩
  · exact ((moved.map Prod.fst).nodup_iff.mpr unique).sublist (tail.sublist.map Prod.fst)
  · have count := moved.length_eq
    change (if maxCalibrations < (moveToEnd key calibrations).length then (moveToEnd key calibrations).tail
      else moveToEnd key calibrations).length ≤ _
    split
    · rw [List.length_tail]
      omega
    · omega

theorem calibration_transparent (inv : CacheInvariant gen artifacts fuel preparer) (inputs : Inputs) (recipe : WorkerInput)
    (known : KeyInputs artifacts recipe.datasetAdapter recipe.datasetFilename inputs.datasetPath inputs.tokenizerPath inputs.fast inputs.tokenizer inputs.source) :
    (preparer.calibration artifacts inputs recipe).1 = calibrationOf artifacts inputs recipe ∧
      CacheInvariant gen artifacts fuel (preparer.calibration artifacts inputs recipe).2 := by
  rw [Preparer.calibration, calibrationOf]
  by_cases calibrated : recipe.calibrated = true
  · rw [if_pos calibrated, if_pos calibrated]
    dsimp only
    cases found : Dict.get (inputs.calibrationKey recipe) preparer.calibrations with
    | some calibration =>
        have measured := sound_get _ _ inv.calibrations _ calibration found inputs.tokenizer inputs.source known
        refine ⟨by rw [measured]; rfl, ?_⟩
        exact used_invariant gen artifacts fuel preparer inv _ _ inv.calibrations inv.calibrationKeys
          (inv.fewCalibrations.trans (Nat.le_succ _))
    | none =>
        cases measured : calibrateCorpus artifacts inputs.tokenizer inputs.source with
        | error reason => exact ⟨rfl, inv⟩
        | ok calibration =>
            refine ⟨rfl, ?_⟩
            have stands : CalibrationStands artifacts (inputs.calibrationKey recipe) calibration := by
              intro tokenizer source key
              cases known.tokenizer.symm.trans key.tokenizer
              cases known.source.symm.trans key.source
              exact measured
            apply used_invariant gen artifacts fuel preparer inv
            · rw [dict_put_absent _ _ _ found]
              exact insert_sound _ _ inv.calibrations _ _ stands
            · exact (dict_keys_put _ _ _ inv.calibrationKeys).1
            · rw [dict_put_absent _ _ _ found, List.length_append]
              exact Nat.add_le_add_right inv.fewCalibrations 1
  · rw [if_neg calibrated, if_neg calibrated]
    exact ⟨rfl, inv⟩

theorem plan_requests (inputs other : Inputs) (recipe later : WorkerInput) (calibration : Option CorpusCalibration)
    (sources : inputs.source = other.source) (same : recipe.planDocument = later.planDocument) :
    planRequest other later calibration = (planRequest inputs recipe calibration).reseeded later.seed ∧
      (planRequest inputs recipe calibration).sharedPrefixSeed.getD later.seed =
        (planRequest inputs recipe calibration).sharedPrefixSeed.getD recipe.seed := by
  simp only [WorkerInput.planDocument, WorkerInput.mk.injEq] at same
  obtain ⟨_, _, seeds, prefixSeeds, tokens, stddevs, prefixes, _, _, _, _, _, _, _, _, outputs, _⟩ := same
  constructor
  · simp only [planRequest, PlanRequest.reseeded, ← sources, tokens, stddevs, prefixes, outputs, prefixSeeds]
  · simp only [planRequest]
    rw [prefixSeeds] at seeds ⊢
    cases given : later.prefixSeed with
    | some seed => rfl
    | none =>
        rw [given] at seeds
        exact seeds.symm

theorem calibration_of_document (inputs other : Inputs) (recipe later : WorkerInput)
    (tokenizers : inputs.tokenizer = other.tokenizer) (sources : inputs.source = other.source)
    (same : recipe.planDocument = later.planDocument) :
    calibrationOf artifacts other later = calibrationOf artifacts inputs recipe := by
  have flags : recipe.planDocument.calibrated = later.planDocument.calibrated := congrArg WorkerInput.calibrated same
  change recipe.calibrated = later.calibrated at flags
  rw [calibrationOf, calibrationOf, flags, tokenizers, sources]

theorem plan_stands (inputs : Inputs) (recipe : WorkerInput) (calibration : Option CorpusCalibration) (plan : PromptPlan)
    (known : KeyInputs artifacts recipe.datasetAdapter recipe.datasetFilename inputs.datasetPath inputs.tokenizerPath inputs.fast
      inputs.tokenizer inputs.source)
    (measured : calibrationOf artifacts inputs recipe = .ok calibration)
    (made : calibrate gen artifacts fuel inputs.tokenizer (planRequest inputs recipe calibration) = .ok plan) :
    PlanStands gen artifacts fuel (inputs.planKey recipe) plan := by
  intro other later estimate key same found
  have adapters : later.planDocument.datasetAdapter = recipe.planDocument.datasetAdapter := congrArg WorkerInput.datasetAdapter same
  have filenames : later.planDocument.datasetFilename = recipe.planDocument.datasetFilename := congrArg WorkerInput.datasetFilename same
  change later.datasetAdapter = recipe.datasetAdapter at adapters
  change later.datasetFilename = recipe.datasetFilename at filenames
  rw [adapters, filenames] at key
  have tokenizers : inputs.tokenizer = other.tokenizer := Except.ok.inj (known.tokenizer.symm.trans key.tokenizer)
  have sources : inputs.source = other.source := Except.ok.inj (known.source.symm.trans key.source)
  have estimates := calibration_of_document artifacts inputs other recipe later tokenizers sources same.symm
  rw [measured, found] at estimates
  cases estimates
  obtain ⟨request, prefixSeed⟩ := plan_requests inputs other recipe later calibration sources same.symm
  rw [request, ← tokenizers, calibrate_reseeded gen artifacts fuel inputs.tokenizer _ later.seed prefixSeed, made]
  rfl

theorem plan_transparent (inv : CacheInvariant gen artifacts fuel preparer) (inputs : Inputs) (recipe : WorkerInput)
    (calibration : Option CorpusCalibration)
    (known : KeyInputs artifacts recipe.datasetAdapter recipe.datasetFilename inputs.datasetPath inputs.tokenizerPath inputs.fast inputs.tokenizer inputs.source)
    (measured : calibrationOf artifacts inputs recipe = .ok calibration) :
    (preparer.plan gen artifacts fuel inputs recipe calibration).1.map (PromptPlan.reseeded recipe.seed) =
      calibrate gen artifacts fuel inputs.tokenizer (planRequest inputs recipe calibration) ∧
      CacheInvariant gen artifacts fuel (preparer.plan gen artifacts fuel inputs recipe calibration).2 := by
  rw [Preparer.plan]
  dsimp only
  cases found : Dict.get (inputs.planKey recipe) preparer.plans with
  | some plan =>
      have stands := sound_get _ _ inv.plans _ plan found inputs recipe calibration known rfl measured
      have moved := move_to_end_perm (inputs.planKey recipe) preparer.plans inv.bounded.unique
      exact ⟨stands.symm, inv.calibrations, inv.calibrationKeys, inv.fewCalibrations, perm_sound _ _ _ moved inv.plans,
        perm_bounded _ _ _ _ _ _ moved inv.bounded⟩
  | none =>
      cases made : calibrate gen artifacts fuel inputs.tokenizer (planRequest inputs recipe calibration) with
      | error reason => exact ⟨rfl, inv⟩
      | ok plan =>
          have seeded : plan.seed = recipe.seed := calibrate_seed gen artifacts fuel inputs.tokenizer _ plan made
          have stands := plan_stands gen artifacts fuel inputs recipe calibration plan known measured made
          have bounded := insert_bounded prefixWeight maxPlans maxPrefixBytes preparer.plans preparer.prefixBytes (by decide)
            inv.bounded (inputs.planKey recipe) plan found
          have tail := evict_suffix prefixWeight maxPlans maxPrefixBytes (preparer.plans ++ [(inputs.planKey recipe, plan)])
            (preparer.prefixBytes + prefixWeight plan)
          have sound := suffix_sound _ _ _ tail (insert_sound _ _ inv.plans _ _ stands)
          have moved := move_to_end_perm (inputs.planKey recipe) _ bounded.unique
          dsimp only
          rw [dict_put_absent _ _ _ found]
          refine ⟨?_, inv.calibrations, inv.calibrationKeys, inv.fewCalibrations, perm_sound _ _ _ moved sound,
            perm_bounded _ _ _ _ _ _ moved bounded⟩
          rw [← seeded]
          rfl

-- The prompt generated without any cache.
def generatedOf (inputs : Inputs) (recipe : WorkerInput) (calibration : Option CorpusCalibration) : Except String PreparedPrompt :=
  match recipe.text with
  | some text => .ok ⟨text.toList, measuredTokens inputs.tokenizer calibration text.toList, [("source", .text "literal")]⟩
  | none =>
      if recipe.plansPrompt then
        (calibrate gen artifacts fuel inputs.tokenizer (planRequest inputs recipe calibration)).bind fun plan =>
          renderChunk gen artifacts sha256 fuel plan recipe.index
      else
        (preparePromptRequests gen artifacts sha256 fuel (measuredTokens inputs.tokenizer calibration)
          (promptRequest sha256 inputs recipe)).bind firstPrompt

theorem generate_transparent (inv : CacheInvariant gen artifacts fuel preparer) (inputs : Inputs) (recipe : WorkerInput)
    (calibration : Option CorpusCalibration)
    (known : KeyInputs artifacts recipe.datasetAdapter recipe.datasetFilename inputs.datasetPath inputs.tokenizerPath inputs.fast inputs.tokenizer inputs.source)
    (measured : calibrationOf artifacts inputs recipe = .ok calibration) :
    (preparer.generate gen artifacts sha256 fuel inputs recipe calibration).1 =
        generatedOf gen artifacts sha256 fuel inputs recipe calibration ∧
      CacheInvariant gen artifacts fuel (preparer.generate gen artifacts sha256 fuel inputs recipe calibration).2 := by
  rw [Preparer.generate, generatedOf]
  cases recipe.text with
  | some text => exact ⟨rfl, inv⟩
  | none =>
      dsimp only
      by_cases plans : recipe.plansPrompt
      · rw [if_pos plans, if_pos plans]
        obtain ⟨same, kept⟩ := plan_transparent gen artifacts fuel preparer inv inputs recipe calibration known measured
        rw [← same]
        cases planned : preparer.plan gen artifacts fuel inputs recipe calibration with
        | mk result next =>
            rw [planned] at kept
            cases result with
            | error reason => exact ⟨rfl, kept⟩
            | ok plan => exact ⟨rfl, kept⟩
      · rw [if_neg plans, if_neg plans]
        exact ⟨rfl, inv⟩

-- What prepare returns without any cache.
def preparedOf (request : RequestConfig) (environment : Environment) (now : DateTime) : Except String RequestConfig :=
  match request.preparation with
  | none => .ok request
  | some recipe =>
      if request.deadlineAt.any fun deadline => deadline.instant ≤ now.instant then
        .error "Worker deadline elapsed before input preparation"
      else
        match readInputs artifacts environment recipe with
        | .error reason => .error reason
        | .ok inputs =>
            match calibrationOf artifacts inputs recipe with
            | .error reason => .error reason
            | .ok calibration =>
                match generatedOf gen artifacts sha256 fuel inputs recipe calibration with
                | .error reason => .error reason
                | .ok prompt => finished artifacts sha256 inputs request recipe calibration prompt

theorem prepare_transparent (inv : CacheInvariant gen artifacts fuel preparer) (request : RequestConfig)
    (environment : Environment) (now : DateTime) :
    (preparer.prepare gen artifacts sha256 fuel request environment now).1 =
        preparedOf gen artifacts sha256 fuel request environment now ∧
      CacheInvariant gen artifacts fuel (preparer.prepare gen artifacts sha256 fuel request environment now).2 := by
  rw [Preparer.prepare, preparedOf]
  cases request.preparation with
  | none => exact ⟨rfl, inv⟩
  | some recipe =>
      dsimp only
      split
      · exact ⟨rfl, inv⟩
      · cases read : readInputs artifacts environment recipe with
        | error reason => exact ⟨rfl, inv⟩
        | ok inputs =>
            have known := read_inputs_key artifacts environment recipe inputs read
            obtain ⟨same, kept⟩ := calibration_transparent gen artifacts fuel preparer inv inputs recipe known
            dsimp only
            cases measured : preparer.calibration artifacts inputs recipe with
            | mk result next =>
                rw [measured] at same kept
                cases result with
                | error reason =>
                    rw [← same]
                    exact ⟨rfl, kept⟩
                | ok calibration =>
                    obtain ⟨prompts, last⟩ := generate_transparent gen artifacts sha256 fuel next kept inputs recipe calibration
                      known same.symm
                    rw [← same]
                    dsimp only
                    rw [← prompts]
                    cases generated : next.generate gen artifacts sha256 fuel inputs recipe calibration with
                    | mk result final =>
                        rw [generated] at last
                        cases result with
                        | error reason => exact ⟨rfl, last⟩
                        | ok prompt => exact ⟨rfl, last⟩

structure PrepareCall where
  request : RequestConfig
  environment : Environment
  now : DateTime
deriving DecidableEq

def prepareAll (calls : List PrepareCall) (preparer : Preparer) : Preparer :=
  calls.foldl (fun preparer call =>
    (preparer.prepare gen artifacts sha256 fuel call.request call.environment call.now).2) preparer

theorem prepare_all_invariant (calls : List PrepareCall) (preparer : Preparer) (inv : CacheInvariant gen artifacts fuel preparer) :
    CacheInvariant gen artifacts fuel (prepareAll gen artifacts sha256 fuel calls preparer) := by
  induction calls generalizing preparer with
  | nil => exact inv
  | cons call rest ih =>
      exact ih _ (prepare_transparent gen artifacts sha256 fuel preparer inv call.request call.environment call.now).2

structure CacheBounds (preparer : Preparer) : Prop where
  calibrations : preparer.calibrations.length ≤ 4
  plans : preparer.plans.length ≤ 128
  exact : preparer.prefixBytes = (preparer.plans.map fun entry => 4 * (entry.2.sharedPrefix.length : Int)).sum
  light : preparer.prefixBytes ≤ 64 * 1024 * 1024 ∨ preparer.plans.length = 1

theorem invariant_bounds (inv : CacheInvariant gen artifacts fuel preparer) : CacheBounds preparer := by
  have weights : Caches.weightOf prefixWeight preparer.plans =
      (preparer.plans.map fun entry => 4 * (entry.2.sharedPrefix.length : Int)).sum := by
    rw [Caches.weightOf]
    induction preparer.plans with
    | nil => rfl
    | cons entry rest ih =>
        rw [total_cons, List.map_cons, List.sum_cons, ← ih]
        simp [prefixWeight]
  refine ⟨inv.fewCalibrations, inv.bounded.few, inv.bounded.exact.trans weights, ?_⟩
  rcases inv.bounded.light with light | single
  · exact .inl light
  · rcases Nat.le_one_iff_eq_zero_or_eq_one.mp single with none | one
    · left
      rw [inv.bounded.exact, List.length_eq_zero_iff.mp none]
      decide
    · exact .inr one

theorem cached_preparation_transparent (calls : List PrepareCall) (call : PrepareCall) :
    ((prepareAll gen artifacts sha256 fuel calls .fresh).prepare gen artifacts sha256 fuel call.request call.environment call.now).1 =
        (Preparer.fresh.prepare gen artifacts sha256 fuel call.request call.environment call.now).1 ∧
      CacheBounds (prepareAll gen artifacts sha256 fuel calls .fresh) := by
  have fresh := fresh_invariant gen artifacts fuel
  have reached := prepare_all_invariant gen artifacts sha256 fuel calls .fresh fresh
  have cached := prepare_transparent gen artifacts sha256 fuel _ reached call.request call.environment call.now
  have alone := prepare_transparent gen artifacts sha256 fuel _ fresh call.request call.environment call.now
  exact ⟨cached.1.trans alone.1.symm, invariant_bounds gen artifacts fuel _ reached⟩

end Cache

end LlmperfOrchestrator.Preparation

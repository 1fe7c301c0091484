import LlmperfOrchestrator.Preparation.CachedPlans

set_option autoImplicit false

namespace LlmperfOrchestrator.Preparation

open Tables Compiler Storage Draws Outcomes

section Budget

variable (gen : Generator) (length : Text → Nat) (dataset : PromptDataset)

theorem search_cut_fits (fits : Nat → Bool) (fuel low high : Nat) :
    searchCut fits fuel low high = low ∨ fits (searchCut fits fuel low high) = true := by
  induction fuel generalizing low high with
  | zero => exact .inl rfl
  | succ fuel ih =>
      rw [searchCut]
      by_cases room : low < high
      · rw [if_pos room]
        dsimp only
        by_cases fit : fits ((low + high + 1) / 2) = true
        · rw [if_pos fit]
          right
          rcases ih ((low + high + 1) / 2) high with stay | found
          · rw [stay]
            exact fit
          · exact found
        · rw [if_neg fit]
          exact ih low _
      · rw [if_neg room]
        exact .inl rfl

theorem truncate_fits (initial piece : Text) (target : Nat) :
    (truncateToBudget length initial piece target).1 = [] ∨
      length (initial ++ (truncateToBudget length initial piece target).1) ≤ target := by
  rw [truncateToBudget]
  dsimp only
  rcases search_cut_fits (fun cut => length (initial ++ piece.take cut) ≤ target) piece.length 0 piece.length with stay | fits
  · left
    rw [stay]
    rfl
  · right
    exact of_decide_eq_true fits

structure Within (target : Nat) (made : Construction gen) : Prop where
  counted : made.tokens = length made.text
  fits : made.tokens ≤ target

theorem fill_keeps (target : Nat) (inv : Construction gen → Prop)
    (grows : ∀ made added segment cursor, segment.tokensAdded = (length (made.text ++ added) : Int) - made.tokens →
      added = [] ∨ length (made.text ++ added) ≤ target → inv made →
      inv ⟨made.text ++ added, length (made.text ++ added), made.segments ++ [segment], cursor⟩)
    (fuel : Nat) (made last : Construction gen) (start : inv made) (done : fill gen length dataset target fuel made = .ok last) :
    inv last := by
  induction fuel generalizing made with
  | zero =>
      rw [fill] at done
      split at done
      · cases done
      · cases done
        exact start
  | succ fuel ih =>
      rw [fill] at done
      by_cases short : made.tokens < target
      · rw [if_pos short] at done
        obtain ⟨⟨⟨recordIndex, record, cycle⟩, cursor⟩, _, done⟩ := (bind_ok _ _ _).mp done
        dsimp only at done
        by_cases complete : length (made.text ++ (pieceSeparator dataset made.text ++ record)) ≤ target
        · rw [if_pos complete] at done
          exact ih _ (grows made _ _ _ rfl (.inr complete) start) done
        · rw [if_neg complete] at done
          cases done
          exact grows made _ _ _ rfl (truncate_fits length made.text _ target) start
      · rw [if_neg short] at done
        cases done
        exact start

theorem fill_within (target fuel : Nat) (made last : Construction gen) (within : Within gen length target made)
    (done : fill gen length dataset target fuel made = .ok last) : Within gen length target last := by
  refine fill_keeps gen length dataset target _ ?_ fuel made last within done
  intro made added segment cursor _ fits within
  refine ⟨rfl, ?_⟩
  rcases fits with rfl | fits
  · dsimp only
    rw [List.append_nil, ← within.counted]
    exact within.fits
  · exact fits

theorem fill_extends (target fuel : Nat) (made last : Construction gen)
    (done : fill gen length dataset target fuel made = .ok last) : made.text <+: last.text :=
  fill_keeps gen length dataset target (fun later => made.text <+: later.text)
    (fun _ _ _ _ _ _ before => before.trans (List.prefix_append _ _)) fuel made last (List.prefix_refl _) done

theorem fill_full (target fuel : Nat) (made : Construction gen) (full : target ≤ made.tokens) :
    fill gen length dataset target fuel made = .ok made := by
  cases fuel with
  | zero => rw [fill, if_neg (Nat.not_lt.mpr full)]
  | succ fuel => rw [fill, if_neg (Nat.not_lt.mpr full)]

theorem construct_filled (fuel target : Nat) (initial : Text) (cursor : RecordCursor gen) (made : Construction gen)
    (done : construct gen length dataset fuel target initial cursor = .ok made) :
    fill gen length dataset target fuel ⟨startText length target initial, length (startText length target initial), [], cursor⟩ =
        .ok made ∧ made.text ≠ [] := by
  obtain ⟨filled, fills, done⟩ := (bind_ok _ _ _).mp done
  by_cases empty : filled.text = []
  · rw [if_pos empty] at done
    cases done
  · rw [if_neg empty] at done
    cases done
    exact ⟨fills, empty⟩

theorem construct_extends (fuel target : Nat) (initial : Text) (cursor : RecordCursor gen) (made : Construction gen)
    (fits : length initial ≤ target) (done : construct gen length dataset fuel target initial cursor = .ok made) :
    initial <+: made.text := by
  obtain ⟨fills, _⟩ := construct_filled gen length dataset fuel target initial cursor made done
  have start : startText length target initial = initial := if_neg (Nat.not_lt.mpr fits)
  rw [start] at fills
  exact fill_extends gen length dataset target fuel _ made fills

theorem construct_within (fuel target : Nat) (initial : Text) (cursor : RecordCursor gen) (made : Construction gen)
    (done : construct gen length dataset fuel target initial cursor = .ok made) : Within gen length target made := by
  obtain ⟨fills, some⟩ := construct_filled gen length dataset fuel target initial cursor made done
  by_cases fits : length (startText length target initial) ≤ target
  · exact fill_within gen length dataset target fuel _ made ⟨rfl, fits⟩ fills
  · -- A start beyond its budget is the empty cut, and nothing is added to it.
    exfalso
    rw [fill_full gen length dataset target fuel _ (Nat.le_of_not_le fits)] at fills
    cases fills
    apply some
    dsimp only
    rw [startText] at fits ⊢
    by_cases long : target < length initial
    · rw [if_pos long] at fits ⊢
      rcases truncate_fits length [] initial target with none | short
      · exact none
      · exact absurd short fits
    · rw [if_neg long] at fits
      exact absurd (Nat.le_of_not_lt long) fits

end Budget

section Group

variable (gen : Generator) (artifacts : Artifacts) (sha256 : Sha256) (fuel : Nat)

-- Requests with one plan document form one group: the text selected for their
-- shared_prefix_tokens. Sampled records are sent without any prefix.
def groupPrefix (inputs : Inputs) (group : WorkerInput) (calibration : Option CorpusCalibration) : Except String Text :=
  if group.plansPrompt then
    (calibrate gen artifacts fuel inputs.tokenizer (planRequest inputs group calibration)).map PromptPlan.sharedPrefix
  else
    match inputs.source.effectiveMode group.mode with
    | .sample => .error "no prefix is selected"
    | .concatenate => do
        let dataset ← artifacts.dataset inputs.source
        let made ← construct gen (measuredTokens inputs.tokenizer calibration) dataset fuel group.prefixTokens
          (dataset.instruction group.outputTokens)
          (RecordCursor.start gen dataset.records.length (gen.seeded (group.prefixSeed.elim group.seed fun seed => seed)))
        .ok made.text

def drawnTarget (inputs : Inputs) (recipe : WorkerInput) : Except String Nat := do
  let dataset ← artifacts.dataset inputs.source
  let (target, _) ← positiveInt gen recipe.tokens recipe.tokenStddev fuel
    (RecordCursor.start gen dataset.records.length (gen.seeded (requestSeed sha256 recipe))).rng
  .ok target

def PrefixKept (selected : Except String Text) (text : Text) (evidence : Evidence) : Prop :=
  ∃ sharedPrefix, selected = .ok sharedPrefix ∧ sharedPrefix <+: text ∧
    ∀ hash, Dict.get "prefix_hash" evidence = some hash → hash = sha256Tag sha256 (String.ofList sharedPrefix)

def PrefixFits (inputs : Inputs) (recipe : WorkerInput) (calibration : Option CorpusCalibration) : Prop :=
  recipe.plansPrompt ∨ inputs.source.effectiveMode recipe.mode = .concatenate ∧
    ∀ sharedPrefix target, groupPrefix gen artifacts fuel inputs recipe.planDocument calibration = .ok sharedPrefix →
      drawnTarget gen artifacts sha256 fuel inputs recipe = .ok target →
        measuredTokens inputs.tokenizer calibration sharedPrefix ≤ target

theorem plan_document_plans (recipe : WorkerInput) : recipe.planDocument.plansPrompt ↔ recipe.plansPrompt := Iff.rfl

variable (inputs : Inputs) (recipe : WorkerInput) (calibration : Option CorpusCalibration)

theorem group_prefix_planned (plans : recipe.plansPrompt) :
    groupPrefix gen artifacts fuel inputs recipe.planDocument calibration =
      (calibrate gen artifacts fuel inputs.tokenizer (planRequest inputs recipe calibration)).map PromptPlan.sharedPrefix := by
  rw [groupPrefix, if_pos ((plan_document_plans recipe).mpr plans)]
  have document : recipe.planDocument.planDocument = recipe.planDocument := by
    simp only [WorkerInput.planDocument]
    cases recipe.prefixSeed <;> rfl
  obtain ⟨request, prefixSeed⟩ := plan_requests inputs inputs recipe recipe.planDocument calibration rfl document.symm
  rw [request, calibrate_reseeded gen artifacts fuel inputs.tokenizer _ _ prefixSeed]
  cases calibrate gen artifacts fuel inputs.tokenizer (planRequest inputs recipe calibration) with
  | error reason => rfl
  | ok plan => rfl

theorem dict_get_append {Value : Type} (first second : Dict String Value) (key : String) :
    Dict.get key (first ++ second) = (Dict.get key first).or (Dict.get key second) := by
  induction first with
  | nil => rfl
  | cons entry rest ih =>
      rw [List.cons_append, Dict.get, Dict.get]
      by_cases same : entry.1 = key
      · rw [if_pos same, if_pos same, Option.some_or]
      · rw [if_neg same, if_neg same, ih]

theorem counted_prefix_hash (evidence : Evidence) :
    Dict.get "prefix_hash" (countedEvidence recipe calibration evidence) = Dict.get "prefix_hash" evidence := by
  cases calibration with
  | none => rw [countedEvidence, dict_get_put, if_neg (by decide)]
  | some calibration =>
      rw [countedEvidence, dict_get_put, if_neg (by decide), dict_get_put, if_neg (by decide)]
      split
      · rw [dict_get_put, if_neg (by decide)]
      · rw [dict_get_pop, if_neg (by decide), dict_get_put, if_neg (by decide)]
      · rw [dict_get_put, if_neg (by decide), dict_get_pop, if_neg (by decide), dict_get_put, if_neg (by decide)]

theorem rendered_prefix (plan : PromptPlan) (requestIndex : Nat) (prompt : PreparedPrompt)
    (rendered : renderChunk gen artifacts sha256 fuel plan requestIndex = .ok prompt) :
    plan.sharedPrefix <+: prompt.text ∧
      ∀ hash, Dict.get "prefix_hash" prompt.evidence = some hash → hash = sha256Tag sha256 (String.ofList plan.sharedPrefix) := by
  obtain ⟨dataset, _, rendered⟩ := (bind_ok _ _ _).mp rendered
  obtain ⟨target, _, rendered⟩ := (bind_ok _ _ _).mp rendered
  obtain ⟨⟨suffix, indices⟩, _, rendered⟩ := (bind_ok _ _ _).mp rendered
  cases rendered
  refine ⟨List.prefix_append _ _, ?_⟩
  intro hash found
  simp only [renderEvidence, dict_get_append] at found
  have first : Dict.get "prefix_hash" [("source", Json.text ((dataset.map PromptDataset.source).getD builtinSonnetSource)),
      ("mode", .text "calibrated-concatenate"), ("seed", .number plan.seed), ("request_index", natural requestIndex),
      ("record_indices", naturals indices), ("target_input_tokens", natural target),
      ("input_count_source", .text "calibrated_estimate"),
      ("manifest_hash", sha256Tag sha256 (String.ofList (plan.sharedPrefix ++ suffix)))] = none := rfl
  rw [first, Option.none_or] at found
  cases dataset with
  | none =>
      cases given : plan.sharedPrefixSeed with
      | none =>
          rw [given] at found
          cases found
      | some seed =>
          rw [given] at found
          exact (Option.some.inj found).symm
  | some dataset =>
      cases given : plan.sharedPrefixSeed with
      | none =>
          rw [given] at found
          cases found
      | some seed =>
          rw [given] at found
          exact (Option.some.inj found).symm

theorem document_prefix_seed :
    (recipe.planDocument.prefixSeed.elim recipe.planDocument.seed fun seed => (seed : Int)) =
      match recipe.prefixSeed with
      | some seed => (seed : Int)
      | none => recipe.seed := by
  rw [WorkerInput.planDocument]
  cases recipe.prefixSeed <;> rfl

theorem concatenated_prompt (prompt : PreparedPrompt) (prefixed : 0 < recipe.prefixTokens) (unplanned : ¬ recipe.plansPrompt)
    (concatenates : inputs.source.effectiveMode recipe.mode = .concatenate)
    (made : (preparePromptRequests gen artifacts sha256 fuel (measuredTokens inputs.tokenizer calibration) (promptRequest sha256 inputs recipe)).bind firstPrompt = .ok prompt) :
    ∃ dataset sharedPrefix target cursor, ∃ filled : Construction gen,
      groupPrefix gen artifacts fuel inputs recipe.planDocument calibration = .ok sharedPrefix ∧
        drawnTarget gen artifacts sha256 fuel inputs recipe = .ok target ∧
        construct gen (measuredTokens inputs.tokenizer calibration) dataset fuel target sharedPrefix cursor = .ok filled ∧
        prompt.text = filled.text ∧
        ∀ hash, Dict.get "prefix_hash" prompt.evidence = some hash → hash = sha256Tag sha256 (String.ofList sharedPrefix) := by
  obtain ⟨prompts, prepared, first⟩ := (bind_ok _ _ _).mp made
  obtain ⟨dataset, loaded, prepared⟩ := (bind_ok _ _ _).mp prepared
  have mode : (promptRequest sha256 inputs recipe).source.effectiveMode (promptRequest sha256 inputs recipe).promptMode =
      .concatenate := concatenates
  rw [mode] at prepared
  dsimp only at prepared
  have single : ¬ (promptRequest sha256 inputs recipe).repeatCount ≠ 1 := fun other => other rfl
  rw [if_neg single] at prepared
  obtain ⟨⟨sharedPrefix, segments, cursor⟩, selected, prepared⟩ := (bind_ok _ _ _).mp prepared
  have wanted : ¬ (promptRequest sha256 inputs recipe).concatenation.sharedPrefixTokens = 0 := Nat.pos_iff_ne_zero.mp prefixed
  rw [selectPrefix, if_neg wanted] at selected
  obtain ⟨selection, constructed, selected⟩ := (bind_ok _ _ _).mp selected
  cases selected
  obtain ⟨⟨one, next⟩, concatenated, rest⟩ := (bind_ok _ _ _).mp prepared
  obtain ⟨later, last, rest⟩ := (bind_ok _ _ _).mp rest
  obtain ⟨⟨target, rng⟩, drawn, concatenated⟩ := (bind_ok _ _ _).mp concatenated
  obtain ⟨filled, fills, concatenated⟩ := (bind_ok _ _ _).mp concatenated
  have text : selection.text ≠ [] := (construct_filled gen _ dataset fuel _ _ _ selection constructed).2
  rw [if_neg text] at fills
  cases concatenated
  cases rest
  cases first
  refine ⟨dataset, selection.text, target, _, filled, ?_, ?_, fills, rfl, ?_⟩
  · have unplanned : ¬ recipe.planDocument.plansPrompt := unplanned
    have concatenates : inputs.source.effectiveMode recipe.planDocument.mode = .concatenate := concatenates
    have loaded : artifacts.dataset inputs.source = .ok dataset := loaded
    rw [groupPrefix, if_neg unplanned, concatenates]
    dsimp only
    rw [loaded, document_prefix_seed]
    exact (bind_ok _ _ _).mpr ⟨dataset, rfl, (bind_ok _ _ _).mpr ⟨selection, constructed, rfl⟩⟩
  · exact (bind_ok _ _ _).mpr ⟨dataset, loaded, (bind_ok _ _ _).mpr ⟨(target, rng), drawn, rfl⟩⟩
  · intro hash found
    rw [concatenateManifest, manifest, dict_get_put, if_neg (by decide), dict_get_append] at found
    exact (Option.some.inj found).symm

def Grows (count : Text → Nat) : Prop := ∀ first second, first <+: second → count first ≤ count second

theorem estimate_grows (tokenizer : Tokenizer) (calibration : CorpusCalibration) (positive : 0 ≤ calibration.charactersPerToken) :
    Grows (measuredTokens tokenizer (some calibration)) := by
  intro first second extended
  have longer : ((first.length : Nat) : Rat) ≤ second.length := Nat.cast_le.mpr extended.length_le
  exact Int.toNat_le_toNat (Rounding.round_monotone _ _ (div_le_div_of_nonneg_right longer positive))

theorem calibrated_grows (calibrated : recipe.calibrated = true)
    (measured : calibrationOf artifacts inputs recipe = .ok calibration) : Grows (measuredTokens inputs.tokenizer calibration) := by
  rw [calibrationOf, if_pos calibrated] at measured
  cases corpus : calibrateCorpus artifacts inputs.tokenizer inputs.source with
  | error reason =>
      rw [corpus] at measured
      cases measured
  | ok estimate =>
      rw [corpus] at measured
      cases measured
      apply estimate_grows
      obtain ⟨dataset, _, corpus⟩ := (bind_ok _ _ _).mp corpus
      dsimp only at corpus
      split at corpus
      · cases corpus
      · cases corpus
        exact div_nonneg (Nat.cast_nonneg _) (Nat.cast_nonneg _)

theorem generated_prefix_kept (prompt : PreparedPrompt) (prefixed : 0 < recipe.prefixTokens) (generates : recipe.text = none)
    (made : generatedOf gen artifacts sha256 fuel inputs recipe calibration = .ok prompt)
    (fits : PrefixFits gen artifacts sha256 fuel inputs recipe calibration) :
    PrefixKept sha256 (groupPrefix gen artifacts fuel inputs recipe.planDocument calibration) prompt.text prompt.evidence := by
  rw [generatedOf, generates] at made
  by_cases plans : recipe.plansPrompt
  · dsimp only at made
    rw [if_pos plans] at made
    obtain ⟨plan, calibrated, rendered⟩ := (bind_ok _ _ _).mp made
    obtain ⟨begins, described⟩ := rendered_prefix gen artifacts sha256 fuel plan recipe.index prompt rendered
    refine ⟨plan.sharedPrefix, ?_, begins, described⟩
    rw [group_prefix_planned gen artifacts fuel inputs recipe calibration plans, calibrated]
    rfl
  · dsimp only at made
    rw [if_neg plans] at made
    rcases fits with planned | ⟨concatenates, fits⟩
    · exact absurd planned plans
    · obtain ⟨dataset, sharedPrefix, target, cursor, filled, selected, drawn, fills, text, described⟩ :=
        concatenated_prompt gen artifacts sha256 fuel inputs recipe calibration prompt prefixed plans concatenates made
      refine ⟨sharedPrefix, selected, ?_, described⟩
      rw [text]
      exact construct_extends gen _ dataset fuel target sharedPrefix cursor filled (fits sharedPrefix target selected drawn) fills

theorem kept_prefix_fits (prompt : PreparedPrompt) (prefixed : 0 < recipe.prefixTokens) (generates : recipe.text = none)
    (made : generatedOf gen artifacts sha256 fuel inputs recipe calibration = .ok prompt)
    (grows : Grows (measuredTokens inputs.tokenizer calibration))
    (kept : PrefixKept sha256 (groupPrefix gen artifacts fuel inputs recipe.planDocument calibration) prompt.text prompt.evidence) :
    PrefixFits gen artifacts sha256 fuel inputs recipe calibration := by
  rw [generatedOf, generates] at made
  by_cases plans : recipe.plansPrompt
  · exact .inl plans
  · dsimp only at made
    rw [if_neg plans] at made
    obtain ⟨sharedPrefix, selected, begins, _⟩ := kept
    cases mode : inputs.source.effectiveMode recipe.mode with
    | sample =>
        have mode : inputs.source.effectiveMode recipe.planDocument.mode = .sample := mode
        have unplanned : ¬ recipe.planDocument.plansPrompt := plans
        rw [groupPrefix, if_neg unplanned, mode] at selected
        cases selected
    | concatenate =>
        obtain ⟨dataset, other, target, cursor, filled, found, drawn, fills, text, _⟩ :=
          concatenated_prompt gen artifacts sha256 fuel inputs recipe calibration prompt prefixed plans mode made
        right
        refine ⟨mode, ?_⟩
        intro again size chosen sized
        cases selected.symm.trans chosen
        cases selected.symm.trans found
        cases drawn.symm.trans sized
        have within := construct_within gen _ dataset fuel target sharedPrefix cursor filled fills
        rw [text] at begins
        calc measuredTokens inputs.tokenizer calibration sharedPrefix
            ≤ measuredTokens inputs.tokenizer calibration filled.text := grows sharedPrefix filled.text begins
          _ = filled.tokens := within.counted.symm
          _ ≤ target := within.fits

structure Rendered (request : RequestConfig) (recipe : WorkerInput) (environment : Environment) (prepared : RequestConfig)
    (inputs : Inputs) (calibration : Option CorpusCalibration) (prompt : PreparedPrompt) : Prop where
  read : readInputs artifacts environment recipe = .ok inputs
  measured : calibrationOf artifacts inputs recipe = .ok calibration
  generated : generatedOf gen artifacts sha256 fuel inputs recipe calibration = .ok prompt
  finishes : finished artifacts sha256 inputs request recipe calibration prompt = .ok prepared

theorem prepare_renders (request : RequestConfig) (recipe : WorkerInput) (environment : Environment) (now : DateTime)
    (prepared : RequestConfig) (given : request.preparation = some recipe)
    (done : preparedOf gen artifacts sha256 fuel request environment now = .ok prepared) :
    ∃ inputs calibration prompt, Rendered gen artifacts sha256 fuel request recipe environment prepared inputs calibration prompt := by
  rw [preparedOf, given] at done
  dsimp only at done
  split at done
  · cases done
  · cases read : readInputs artifacts environment recipe with
    | error reason =>
        rw [read] at done
        cases done
    | ok inputs =>
        rw [read] at done
        dsimp only at done
        cases measured : calibrationOf artifacts inputs recipe with
        | error reason =>
            rw [measured] at done
            cases done
        | ok calibration =>
            rw [measured] at done
            dsimp only at done
            cases generated : generatedOf gen artifacts sha256 fuel inputs recipe calibration with
            | error reason =>
                rw [generated] at done
                cases done
            | ok prompt =>
                rw [generated] at done
                exact ⟨inputs, calibration, prompt, read, measured, generated, done⟩

theorem finished_records (request : RequestConfig) (recipe : WorkerInput) (calibration : Option CorpusCalibration)
    (prompt : PreparedPrompt) (prepared : RequestConfig)
    (done : finished artifacts sha256 inputs request recipe calibration prompt = .ok prepared) :
    (recipe.probe = none → prepared.prompt.1 = String.ofList prompt.text) ∧
      Dict.get "prompt_evidence" prepared.metadata = some (.dict (countedEvidence recipe calibration prompt.evidence)) := by
  obtain ⟨⟨text, tokens, metadata⟩, sent, done⟩ := (bind_ok _ _ _).mp done
  have recorded : Dict.get "prompt_evidence" (updated metadata
      [("prompt_evidence", .dict (countedEvidence recipe calibration prompt.evidence)),
        ("payload_evidence", .dict (countedEvidence recipe calibration prompt.evidence)),
        ("prompt_hash", sha256Tag sha256 (String.ofList text)), ("local_input_tokens", .number tokens)]) =
      some (.dict (countedEvidence recipe calibration prompt.evidence)) := by
    simp [updated, dict_get_put]
  have plain : recipe.probe = none → text = prompt.text := by
    intro none
    rw [probed, none] at sent
    cases sent
    rfl
  dsimp only at done
  split at done
  · cases done
    exact ⟨fun none => congrArg String.ofList (plain none), recorded⟩
  · cases done
    refine ⟨fun none => congrArg String.ofList (plain none), ?_⟩
    dsimp only
    rw [dict_get_put, if_neg (by decide)]
    exact recorded

theorem shared_prefix_kept (calls : List PrepareCall) (request : RequestConfig) (recipe : WorkerInput) (environment : Environment)
    (now : DateTime) (prepared : RequestConfig) (given : request.preparation = some recipe) (prefixed : 0 < recipe.prefixTokens)
    (generates : recipe.text = none)
    (done : ((prepareAll gen artifacts sha256 fuel calls .fresh).prepare gen artifacts sha256 fuel request environment now).1 =
      .ok prepared) :
    ∃ inputs calibration prompt evidence,
      Rendered gen artifacts sha256 fuel request recipe environment prepared inputs calibration prompt ∧
        (recipe.probe = none → prepared.prompt.1 = String.ofList prompt.text) ∧
        Dict.get "prompt_evidence" prepared.metadata = some (.dict evidence) ∧
        (PrefixFits gen artifacts sha256 fuel inputs recipe calibration →
          PrefixKept sha256 (groupPrefix gen artifacts fuel inputs recipe.planDocument calibration) prompt.text evidence) ∧
        (recipe.calibrated = true ∨ Grows (measuredTokens inputs.tokenizer calibration) →
          PrefixKept sha256 (groupPrefix gen artifacts fuel inputs recipe.planDocument calibration) prompt.text evidence →
            PrefixFits gen artifacts sha256 fuel inputs recipe calibration) := by
  have reached := prepare_all_invariant gen artifacts sha256 fuel calls .fresh (fresh_invariant gen artifacts fuel)
  rw [(prepare_transparent gen artifacts sha256 fuel _ reached request environment now).1] at done
  obtain ⟨inputs, calibration, prompt, rendered⟩ := prepare_renders gen artifacts sha256 fuel request recipe environment now prepared
    given done
  obtain ⟨sent, recorded⟩ := finished_records artifacts sha256 inputs request recipe calibration prompt prepared rendered.finishes
  refine ⟨inputs, calibration, prompt, _, rendered, sent, recorded, ?_, ?_⟩
  · intro fits
    obtain ⟨sharedPrefix, selected, begins, described⟩ := generated_prefix_kept gen artifacts sha256 fuel inputs recipe calibration
      prompt prefixed generates rendered.generated fits
    refine ⟨sharedPrefix, selected, begins, ?_⟩
    rw [counted_prefix_hash]
    exact described
  · intro counts kept
    obtain ⟨sharedPrefix, selected, begins, described⟩ := kept
    rw [counted_prefix_hash] at described
    have grows : Grows (measuredTokens inputs.tokenizer calibration) := by
      rcases counts with calibrated | grows
      · exact calibrated_grows artifacts inputs recipe calibration calibrated rendered.measured
      · exact grows
    exact kept_prefix_fits gen artifacts sha256 fuel inputs recipe calibration prompt prefixed generates rendered.generated grows
      ⟨sharedPrefix, selected, begins, described⟩

end Group

def lowDraws : Generator where
  State := Unit
  seeded := fun _ => ()
  randbelow := fun bound state => (bound - 1, state)
  gauss := fun mean stddev state => (some (mean - stddev : Int), state)
  below := fun _ _ positive => Nat.sub_lt positive Nat.one_pos

def letterArtifacts : Artifacts where
  tokenizer := fun _ _ => .ok ⟨fun text => text.map Char.toNat, fun ids => some (ids.map Char.ofNat), 128⟩
  dataset := fun _ => .ok ⟨"letters", [(0, ['a', 'b', 'c', 'd', 'e', 'f', 'g', 'h'])], ['\n'], none⟩
  samplePositions := List.range
  dumps := fun _ => ""

def prefixBenchmark : Benchmark where
  model := "model"
  adapter := "openai"
  plan := ⟨1, none, "default", none⟩
  timeout := ⟨90, .s⟩
  concurrentWorkers := none
  prompt := none
  meanInputTokens := 6
  stddevInputTokens := 4
  sharedPrefixTokens := 5
  sharedPrefixSeed := some 7
  dataset := some ⟨"letters.txt", "text"⟩
  datasetPromptMode := .concatenate
  datasetRepeatCount := 1
  datasetSeed := 11111
  cacheProbe := none
  inputs := []
  meanOutputTokens := 150
  stddevOutputTokens := 80
  outputTokenCount := .provider
  inputTokenCount := .tokenizer
  additionalSamplingParams := []
  inputMessages := []
  contexts := .absent

theorem prefix_benchmark_accepted : prefixBenchmark.Accepted where
  fields := by decide +kernel
  graph := rfl
  probe := rfl
  messages := rfl
  contexts := rfl
  inputs := fun entry listed => by cases listed

def letterEnvironment : Environment := ⟨some "tokenizer", none, [], some "letters.txt"⟩

def letterTime : DateTime := ⟨0, some 0, by decide⟩

def prefixRecipe : WorkerInput :=
  prefixBenchmark.recipe (fun _ => 0) true none (.step ⟨"request-1", none, [], ⟨0, .s⟩, none⟩) 0

-- Validation compares the prefix with the mean alone; the drawn size cuts it.
theorem truncated_prefix_sent : prefixBenchmark.Accepted ∧
    ∃ step prepared inputs prompt evidence,
      workerSteps lowDraws (fun _ => 0) prefixBenchmark true = .ok [step] ∧ step.request.preparation = some prefixRecipe ∧
        ((Preparer.fresh).prepare lowDraws letterArtifacts (fun _ => 0) 8 step.request letterEnvironment letterTime).1 = .ok prepared ∧
        Rendered lowDraws letterArtifacts (fun _ => 0) 8 step.request prefixRecipe letterEnvironment prepared inputs none prompt ∧
        prompt.text = ['a', 'b'] ∧
        groupPrefix lowDraws letterArtifacts 8 inputs prefixRecipe.planDocument none = .ok ['a', 'b', 'c', 'd', 'e'] ∧
        Dict.get "prompt_evidence" prepared.metadata = some (.dict evidence) ∧
        ¬ PrefixKept (fun _ => 0) (groupPrefix lowDraws letterArtifacts 8 inputs prefixRecipe.planDocument none) prompt.text evidence := by
  refine ⟨prefix_benchmark_accepted, _, _, _, _, _, rfl, rfl, rfl, ⟨rfl, rfl, rfl, rfl⟩, rfl, rfl, rfl, ?_⟩
  intro kept
  obtain ⟨sharedPrefix, selected, begins, _⟩ := kept
  cases selected
  exact absurd begins.length_le (by decide)

def steadyRecipe : WorkerInput := { prefixRecipe with tokenStddev := 0 }

def steadyRequest : RequestConfig := ⟨"model", ("", 6), [], "openai", [], 90, some steadyRecipe, none⟩

theorem steady_prompt_kept :
    ∃ prepared inputs calibration prompt evidence,
      Rendered lowDraws letterArtifacts (fun _ => 0) 8 steadyRequest steadyRecipe letterEnvironment prepared inputs calibration prompt ∧
        Dict.get "prompt_evidence" prepared.metadata = some (.dict evidence) ∧
        PrefixKept (fun _ => 0) (groupPrefix lowDraws letterArtifacts 8 inputs steadyRecipe.planDocument calibration) prompt.text
          evidence := by
  obtain ⟨inputs, calibration, prompt, evidence, rendered, _, recorded, kept, _⟩ :=
    shared_prefix_kept lowDraws letterArtifacts (fun _ => 0) 8 [] steadyRequest steadyRecipe letterEnvironment letterTime _ rfl
      (by decide) rfl rfl
  refine ⟨_, inputs, calibration, prompt, evidence, rendered, recorded, kept ?_⟩
  have read := rendered.read
  have measured := rendered.measured
  cases read
  cases measured
  right
  refine ⟨rfl, ?_⟩
  intro sharedPrefix target selected drawn
  cases selected
  cases drawn
  decide

end LlmperfOrchestrator.Preparation

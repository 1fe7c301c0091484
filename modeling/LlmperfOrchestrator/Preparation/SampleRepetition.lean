import LlmperfOrchestrator.Library.Blocks
import LlmperfOrchestrator.Preparation.Executable
import LlmperfOrchestrator.Preparation.SharedPrefix

set_option autoImplicit false

namespace LlmperfOrchestrator.Preparation

open Tables Compiler Storage Draws Outcomes Blocks

def inputRecipes (steps : List RequestStep) (inputName : String) : List WorkerInput :=
  (steps.filterMap fun step => step.request.preparation).filter fun recipe => recipe.inputName = inputName

def Benchmark.repeatCountOf (benchmark : Benchmark) (inputName : String) : Nat :=
  ((Dict.get inputName benchmark.inputs).map InputTemplate.datasetRepeatCount).getD benchmark.datasetRepeatCount

section Recipes

variable (gen : Generator) (sha256 : Sha256) (benchmark : Benchmark) (calibrated : Bool)

structure Placed (inputName : String) (place : Nat) (recipe : WorkerInput) (index : Nat) (context : Option TaskContext)
    (coordinate : Coordinate) : Prop where
  found : benchmark.contextOf index = .ok context
  named : coordinate.inputName benchmark.plan = inputName
  built : recipe = benchmark.recipe sha256 calibrated context coordinate place

theorem worker_step_recipe (index namedIndex : Nat) (coordinate : Coordinate) (step : RequestStep)
    (built : benchmark.workerStep gen sha256 calibrated index namedIndex coordinate = .ok step) :
    ∃ context, benchmark.contextOf index = .ok context ∧
      step.request.preparation = some (benchmark.recipe sha256 calibrated context coordinate namedIndex) := by
  obtain ⟨context, found, built⟩ := (bind_ok _ _ _).mp built
  refine ⟨context, found, ?_⟩
  dsimp only at built
  split at built
  · cases built
  · cases built
    cases coordinate <;> rfl

theorem input_recipes_cons (step : RequestStep) (later : List RequestStep) (inputName : String) (recipe : WorkerInput)
    (prepared : step.request.preparation = some recipe) :
    inputRecipes (step :: later) inputName =
      if recipe.inputName = inputName then recipe :: inputRecipes later inputName else inputRecipes later inputName := by
  have kept : (step :: later).filterMap (fun step => step.request.preparation) =
      recipe :: later.filterMap fun step => step.request.preparation := List.filterMap_cons_some prepared
  rw [inputRecipes, kept, List.filter_cons]
  by_cases same : recipe.inputName = inputName
  · rw [if_pos same, if_pos (decide_eq_true same)]
    rfl
  · rw [if_neg same, if_neg (by simpa using same)]
    rfl

theorem steps_from_placed (coordinates : List Coordinate) (start : Nat) (namedCounts : Dict String Nat) (steps : List RequestStep)
    (returned : benchmark.stepsFrom gen sha256 calibrated start namedCounts coordinates = .ok steps) (inputName : String)
    (i : Nat) (recipe : WorkerInput) (read : (inputRecipes steps inputName)[i]? = some recipe) :
    ∃ index context coordinate, coordinate ∈ coordinates ∧
      Placed sha256 benchmark calibrated inputName ((Dict.get inputName namedCounts).getD 0 + i) recipe index context coordinate := by
  induction coordinates generalizing start namedCounts steps i with
  | nil =>
      cases returned
      cases read
  | cons coordinate rest ih =>
      obtain ⟨step, later, rfl, first, others⟩ :=
        (steps_from_cons gen sha256 benchmark calibrated start namedCounts coordinate rest steps).mp returned
      obtain ⟨context, found, prepared⟩ := worker_step_recipe gen sha256 benchmark calibrated start _ coordinate step first
      have name : (benchmark.recipe sha256 calibrated context coordinate
          ((Dict.get (coordinate.inputName benchmark.plan) namedCounts).getD 0)).inputName = coordinate.inputName benchmark.plan := rfl
      rw [input_recipes_cons step later inputName _ prepared, name] at read
      by_cases same : coordinate.inputName benchmark.plan = inputName
      · rw [if_pos same] at read
        cases i with
        | zero =>
            refine ⟨start, context, coordinate, List.mem_cons_self, found, same, ?_⟩
            rw [List.getElem?_cons_zero] at read
            rw [Nat.add_zero, ← same]
            exact (Option.some.inj read).symm
        | succ i =>
            rw [List.getElem?_cons_succ] at read
            obtain ⟨index, other, place, listed, placed⟩ := ih _ _ later others i read
            rw [same, dict_get_put, if_pos rfl, Option.getD_some, Nat.add_right_comm, Nat.add_assoc] at placed
            exact ⟨index, other, place, List.mem_cons_of_mem _ listed, placed⟩
      · rw [if_neg same] at read
        obtain ⟨index, other, place, listed, placed⟩ := ih _ _ later others i read
        rw [dict_get_put, if_neg (Ne.symm same)] at placed
        exact ⟨index, other, place, List.mem_cons_of_mem _ listed, placed⟩

end Recipes

section Sampling

variable (gen : Generator) (artifacts : Artifacts) (sha256 : Sha256) (dataset : PromptDataset) (length : Text → Nat)

def inRange (minInputTokens maxInputTokens position : Nat) : Bool :=
  (dataset.records[position]?).any fun record => minInputTokens ≤ length record.2 ∧ length record.2 ≤ maxInputTokens

def chosenPosition (minInputTokens maxInputTokens : Nat) (seed : Int) : Option Nat :=
  (shuffle gen (List.range dataset.records.length) (gen.seeded seed)).1.find? (inRange dataset length minInputTokens maxInputTokens)

theorem find_some_bind {α β : Type} (found : α → Bool) (read : α → Option β) (same : ∀ x, found x = (read x).isSome) (xs : List α) :
    xs.findSome? read = (xs.find? found).bind read := by
  induction xs with
  | nil => rfl
  | cons x rest ih =>
      rw [List.findSome?_cons, List.find?_cons, same x]
      cases held : read x with
      | none => exact ih
      | some value => exact held.symm

variable (minInputTokens maxInputTokens : Nat)

theorem in_range_sampled (seed : Int) (position : Nat) :
    inRange dataset length minInputTokens maxInputTokens position =
      ((dataset.records[position]?).bind (sampled artifacts sha256 dataset length minInputTokens maxInputTokens seed)).isSome := by
  rw [inRange]
  cases dataset.records[position]? with
  | none => rfl
  | some record =>
      rw [Option.any_some, Option.bind_some, sampled]
      by_cases inside : minInputTokens ≤ length record.2 ∧ length record.2 ≤ maxInputTokens
      · rw [decide_eq_true inside, if_pos inside]
        rfl
      · rw [decide_eq_false inside, if_neg inside]
        rfl

theorem matching_first (seed : Int) :
    (matching gen artifacts sha256 dataset length minInputTokens maxInputTokens seed).1.head? =
      (chosenPosition gen dataset length minInputTokens maxInputTokens seed).bind fun position =>
        (dataset.records[position]?).bind (sampled artifacts sha256 dataset length minInputTokens maxInputTokens seed) := by
  rw [matching, List.filterMap_filterMap, List.head?_filterMap, chosenPosition]
  exact find_some_bind _ _ (in_range_sampled artifacts sha256 dataset length minInputTokens maxInputTokens seed) _

theorem sample_single (seed : Int) (prompt : PreparedPrompt)
    (first : (matching gen artifacts sha256 dataset length minInputTokens maxInputTokens seed).1.head? = some prompt) :
    samplePromptRequests gen artifacts sha256 dataset length 1 1 minInputTokens maxInputTokens seed = .ok [prompt] := by
  obtain ⟨rest, listed⟩ := List.head?_eq_some_iff.mp first
  rw [samplePromptRequests, listed]
  rfl

theorem chosen_exists (seed : Int)
    (some : 0 < ((List.range dataset.records.length).filter (inRange dataset length minInputTokens maxInputTokens)).length) :
    ∃ position record, chosenPosition gen dataset length minInputTokens maxInputTokens seed = .some position ∧
      dataset.records[position]? = .some record ∧ minInputTokens ≤ length record.2 ∧ length record.2 ≤ maxInputTokens := by
  obtain ⟨position, listed⟩ := List.exists_mem_of_length_pos some
  obtain ⟨inside, matched⟩ := List.mem_filter.mp listed
  have shuffled := (shuffle_perm gen (List.range dataset.records.length) (gen.seeded seed)).mem_iff.mpr inside
  have found : (chosenPosition gen dataset length minInputTokens maxInputTokens seed).isSome = true :=
    List.find?_isSome.mpr ⟨position, shuffled, matched⟩
  obtain ⟨chosen, chooses⟩ := Option.isSome_iff_exists.mp found
  have matches' := List.find?_some chooses
  rw [inRange] at matches'
  cases read : dataset.records[chosen]? with
  | none =>
      rw [read] at matches'
      cases matches'
  | some record =>
      rw [read] at matches'
      exact ⟨chosen, record, chooses, read, of_decide_eq_true matches'⟩

end Sampling

def WorkerInput.minTokens (recipe : WorkerInput) : Nat := max 1 (recipe.tokens - recipe.tokenStddev)

def WorkerInput.maxTokens (recipe : WorkerInput) : Nat := recipe.tokens + recipe.tokenStddev

section Workers

variable (gen : Generator) (artifacts : Artifacts) (sha256 : Sha256) (fuel : Nat)

structure SampledInput (environment : Environment) (inputs : Inputs) (calibration : Option CorpusCalibration)
    (recipe : WorkerInput) : Prop where
  read : readInputs artifacts environment recipe = .ok inputs
  measured : calibrationOf artifacts inputs recipe = .ok calibration
  generates : recipe.text = none
  mode : inputs.source.effectiveMode recipe.mode = .sample

def matchingCount (inputs : Inputs) (calibration : Option CorpusCalibration) (dataset : PromptDataset) (recipe : WorkerInput) : Nat :=
  ((List.range dataset.records.length).filter
    (inRange dataset (measuredTokens inputs.tokenizer calibration) recipe.minTokens recipe.maxTokens)).length

def chosenBy (inputs : Inputs) (calibration : Option CorpusCalibration) (dataset : PromptDataset) (recipe : WorkerInput) : Option Nat :=
  chosenPosition gen dataset (measuredTokens inputs.tokenizer calibration) recipe.minTokens recipe.maxTokens
    (requestSeed sha256 recipe)

structure UsesRecord (inputs : Inputs) (calibration : Option CorpusCalibration) (dataset : PromptDataset) (recipe : WorkerInput)
    (position : Nat) : Prop where
  chosen : chosenBy gen sha256 inputs calibration dataset recipe = some position
  sent : ∃ record prompt, dataset.records[position]? = some record ∧
    generatedOf gen artifacts sha256 fuel inputs recipe calibration = .ok prompt ∧ prompt.text = record.2 ∧
    Dict.get "record_indices" prompt.evidence = some (naturals [record.1])

theorem sample_mode (source : PromptDatasetSource) (mode : PromptMode) (sampled : source.effectiveMode mode = .sample) :
    mode = .sample := by
  rw [PromptDatasetSource.effectiveMode] at sampled
  split at sampled
  · exact sampled
  · cases sampled

theorem sampled_record (dataset : PromptDataset) (length : Text → Nat) (minInputTokens maxInputTokens : Nat) (seed : Int)
    (record : Nat × Text) (low : minInputTokens ≤ length record.2) (high : length record.2 ≤ maxInputTokens) :
    ∃ prompt, sampled artifacts sha256 dataset length minInputTokens maxInputTokens seed record = some prompt ∧
      prompt.text = record.2 ∧ Dict.get "record_indices" prompt.evidence = some (naturals [record.1]) := by
  rw [sampled, if_pos ⟨low, high⟩]
  refine ⟨_, rfl, rfl, ?_⟩
  rw [manifest, dict_get_put, if_neg (by decide)]
  rfl

theorem worker_uses_record (environment : Environment) (inputs : Inputs) (calibration : Option CorpusCalibration)
    (dataset : PromptDataset) (recipe : WorkerInput) (loaded : artifacts.dataset inputs.source = .ok dataset)
    (input : SampledInput artifacts environment inputs calibration recipe)
    (enough : 0 < matchingCount inputs calibration dataset recipe) :
    ∃ position, UsesRecord gen artifacts sha256 fuel inputs calibration dataset recipe position := by
  obtain ⟨position, record, chosen, read, low, high⟩ := chosen_exists gen dataset (measuredTokens inputs.tokenizer calibration)
    recipe.minTokens recipe.maxTokens (requestSeed sha256 recipe) enough
  have first := matching_first gen artifacts sha256 dataset (measuredTokens inputs.tokenizer calibration) recipe.minTokens
    recipe.maxTokens (requestSeed sha256 recipe)
  obtain ⟨prompt, drawn, text, indices⟩ := sampled_record artifacts sha256 dataset (measuredTokens inputs.tokenizer calibration)
    recipe.minTokens recipe.maxTokens (requestSeed sha256 recipe) record low high
  rw [chosen, Option.bind_some, read, Option.bind_some, drawn] at first
  have prepared := sample_single gen artifacts sha256 dataset _ _ _ _ _ first
  have unplanned : ¬ recipe.plansPrompt := by
    intro plans
    have concatenates := plans.2.1
    rw [sample_mode _ _ input.mode] at concatenates
    cases concatenates
  have mode : (promptRequest sha256 inputs recipe).source.effectiveMode (promptRequest sha256 inputs recipe).promptMode = .sample :=
    input.mode
  have requests : preparePromptRequests gen artifacts sha256 fuel (measuredTokens inputs.tokenizer calibration)
      (promptRequest sha256 inputs recipe) = .ok [prompt] := by
    rw [preparePromptRequests]
    refine (bind_ok _ _ _).mpr ⟨dataset, loaded, ?_⟩
    rw [mode]
    exact prepared
  refine ⟨position, chosen, record, prompt, read, ?_, text, indices⟩
  rw [generatedOf, input.generates]
  dsimp only
  rw [if_neg unplanned, requests]
  rfl

def SeedsGroup (inputs : Inputs) (calibration : Option CorpusCalibration) (dataset : PromptDataset) (recipes : List WorkerInput)
    (repeatCount : Nat) : Prop :=
  ∀ i j first second, recipes[i]? = some first → recipes[j]? = some second →
    (chosenBy gen sha256 inputs calibration dataset first = chosenBy gen sha256 inputs calibration dataset second ↔
      i / repeatCount = j / repeatCount)

theorem seeds_group_blocked (inputs : Inputs) (calibration : Option CorpusCalibration) (dataset : PromptDataset)
    (recipes : List WorkerInput) (repeatCount : Nat) (record : Nat → Nat)
    (uses : ∀ i recipe, recipes[i]? = some recipe → UsesRecord gen artifacts sha256 fuel inputs calibration dataset recipe (record i)) :
    SeedsGroup gen sha256 inputs calibration dataset recipes repeatCount ↔ Blocked recipes.length repeatCount record := by
  have draws : ∀ i j first second, recipes[i]? = some first → recipes[j]? = some second →
      (chosenBy gen sha256 inputs calibration dataset first = chosenBy gen sha256 inputs calibration dataset second ↔
        record i = record j) := by
    intro i j first second here there
    rw [(uses i first here).chosen, (uses j second there).chosen, Option.some.injEq]
  constructor
  · intro group i j first second
    have here := List.getElem?_eq_getElem first
    have there := List.getElem?_eq_getElem second
    rw [← draws i j _ _ here there]
    exact group i j _ _ here there
  · intro blocked i j first second here there
    rw [draws i j first second here there]
    exact blocked i j (List.getElem?_eq_some_iff.mp here).1 (List.getElem?_eq_some_iff.mp there).1

theorem repeat_count_positive (benchmark : Benchmark) (accepted : benchmark.Accepted) (inputName : String) :
    0 < benchmark.repeatCountOf inputName := by
  rw [Benchmark.repeatCountOf]
  cases found : Dict.get inputName benchmark.inputs with
  | none =>
      have fields := accepted.fields
      simp only [Benchmark.validFields, decide_eq_true_eq] at fields
      exact fields.2.2.2.2.2.2.2.2.2.1
  | some definition =>
      have valid := (accepted.inputs _ (dict_get_mem _ _ _ found)).1
      simp only [InputTemplate.validFields, decide_eq_true_eq] at valid
      exact valid.2.2.2

theorem placed_repeat_count (benchmark : Benchmark) (calibrated : Bool) (inputName : String) (place : Nat) (recipe : WorkerInput)
    (index : Nat) (context : Option TaskContext) (coordinate : Coordinate)
    (placed : Placed sha256 benchmark calibrated inputName place recipe index context coordinate) :
    recipe.repeatCount = benchmark.repeatCountOf inputName := by
  rw [placed.built, ← placed.named]
  rfl

theorem step_recipe_index (benchmark : Benchmark) (calibrated : Bool) (context : Option TaskContext)
    (first second : RequestStepSpec) (i j : Nat) (plain : benchmark.cacheProbe = none)
    (same : (Coordinate.step first).inputName benchmark.plan = (Coordinate.step second).inputName benchmark.plan) :
    benchmark.recipe sha256 calibrated context (.step first) i =
      { benchmark.recipe sha256 calibrated context (.step second) j with index := i } := by
  simp only [Benchmark.recipe, Benchmark.seedsOf, Coordinate.specification, Coordinate.family, Coordinate.occurrence, same, plain]
  rfl

theorem indexed_choice (inputs : Inputs) (calibration : Option CorpusCalibration) (dataset : PromptDataset) (recipe : WorkerInput)
    (i j : Nat) (same : i / recipe.repeatCount = j / recipe.repeatCount) :
    chosenBy gen sha256 inputs calibration dataset { recipe with index := i } =
      chosenBy gen sha256 inputs calibration dataset { recipe with index := j } := by
  have seed : requestSeed sha256 { recipe with index := i } = requestSeed sha256 { recipe with index := j } := by
    simp only [requestSeed, same]
  simp only [chosenBy, seed, WorkerInput.minTokens, WorkerInput.maxTokens]

structure Ordinary (benchmark : Benchmark) : Prop where
  plain : benchmark.cacheProbe = none
  ungrouped : ∀ contexts, benchmark.contexts ≠ .grouped contexts

theorem ordinary_context (benchmark : Benchmark) (ordinary : Ordinary benchmark) (index other : Nat) :
    benchmark.contextOf index = benchmark.contextOf other := by
  rw [Benchmark.contextOf, Benchmark.contextOf]
  cases held : benchmark.contexts with
  | absent => rfl
  | single context => rfl
  | grouped contexts => exact absurd held (ordinary.ungrouped contexts)

theorem ordinary_coordinate (benchmark : Benchmark) (ordinary : Ordinary benchmark) (coordinate : Coordinate)
    (listed : coordinate ∈ benchmark.coordinates gen) : ∃ specification, coordinate = .step specification := by
  rw [Benchmark.coordinates, ordinary.plain] at listed
  obtain ⟨specification, _, rfl⟩ := List.mem_map.mp listed
  exact ⟨specification, rfl⟩

-- The seed of a group of requests, read off its first one.
def groupSeed (recipe : WorkerInput) (group : Nat) : Int := requestSeed sha256 { recipe with index := group * recipe.repeatCount }

def groupChoice (inputs : Inputs) (calibration : Option CorpusCalibration) (dataset : PromptDataset) (recipe : WorkerInput)
    (group : Nat) : Option Nat :=
  chosenPosition gen dataset (measuredTokens inputs.tokenizer calibration) recipe.minTokens recipe.maxTokens
    (groupSeed sha256 recipe group)

-- The shuffles of different groups put different matching records first.
def GroupsApart (inputs : Inputs) (calibration : Option CorpusCalibration) (dataset : PromptDataset) (recipe : WorkerInput)
    (groups : Nat) : Prop :=
  ∀ first second, first < groups → second < groups → first ≠ second →
    groupChoice gen sha256 inputs calibration dataset recipe first ≠ groupChoice gen sha256 inputs calibration dataset recipe second

section Groups

variable (benchmark : Benchmark) (ordinary : Ordinary benchmark) (calibrated : Bool) (steps : List RequestStep)
  (returned : workerSteps gen sha256 benchmark calibrated = .ok steps) (inputName : String)
  (inputs : Inputs) (calibration : Option CorpusCalibration) (dataset : PromptDataset)
include ordinary returned

omit inputs calibration dataset in
theorem ordinary_recipe (i : Nat) (first second : WorkerInput) (here : (inputRecipes steps inputName)[i]? = some first)
    (there : second ∈ inputRecipes steps inputName) :
    first = { second with index := i } ∧ second.repeatCount = benchmark.repeatCountOf inputName := by
  obtain ⟨j, there⟩ := List.getElem?_of_mem there
  obtain ⟨index, context, coordinate, listed, placed⟩ :=
    steps_from_placed gen sha256 benchmark calibrated _ 0 [] steps returned inputName i first here
  obtain ⟨other, later, place, given, follows⟩ :=
    steps_from_placed gen sha256 benchmark calibrated _ 0 [] steps returned inputName j second there
  have contexts := ordinary_context benchmark ordinary index other
  rw [placed.found, follows.found] at contexts
  cases contexts
  obtain ⟨specification, rfl⟩ := ordinary_coordinate gen benchmark ordinary coordinate listed
  obtain ⟨twin, rfl⟩ := ordinary_coordinate gen benchmark ordinary place given
  refine ⟨?_, placed_repeat_count sha256 benchmark calibrated inputName _ second other context _ follows⟩
  have names := placed.named.trans follows.named.symm
  have start : (Dict.get inputName ([] : Dict String Nat)).getD 0 + i = i := Nat.zero_add i
  rw [placed.built, follows.built, start]
  exact step_recipe_index sha256 benchmark calibrated context specification twin _ _ ordinary.plain names

theorem ordinary_choice (i : Nat) (first recipe : WorkerInput) (here : (inputRecipes steps inputName)[i]? = some first)
    (listed : recipe ∈ inputRecipes steps inputName) (positive : 0 < benchmark.repeatCountOf inputName) :
    chosenBy gen sha256 inputs calibration dataset first =
      groupChoice gen sha256 inputs calibration dataset recipe (i / benchmark.repeatCountOf inputName) := by
  obtain ⟨read, count⟩ := ordinary_recipe gen sha256 benchmark ordinary calibrated steps returned inputName i first recipe here listed
  rw [read, ← count]
  rw [← count] at positive
  exact indexed_choice gen sha256 inputs calibration dataset recipe i _ (Nat.mul_div_cancel _ positive).symm

theorem groups_apart (recipe : WorkerInput) (listed : recipe ∈ inputRecipes steps inputName)
    (positive : 0 < benchmark.repeatCountOf inputName) :
    SeedsGroup gen sha256 inputs calibration dataset (inputRecipes steps inputName) (benchmark.repeatCountOf inputName) ↔
      GroupsApart gen sha256 inputs calibration dataset recipe
        (blockCount (inputRecipes steps inputName).length (benchmark.repeatCountOf inputName)) := by
  have choice := fun i first here => ordinary_choice gen sha256 benchmark ordinary calibrated steps returned inputName inputs calibration
    dataset i first recipe here listed positive
  constructor
  · intro group first second low high differ same
    have here := List.getElem?_eq_getElem (block_start _ _ first positive low)
    have there := List.getElem?_eq_getElem (block_start _ _ second positive high)
    have blocks := group _ _ _ _ here there
    rw [choice _ _ here, choice _ _ there, Nat.mul_div_cancel _ positive, Nat.mul_div_cancel _ positive] at blocks
    exact differ (blocks.mp same)
  · intro apart i j first second here there
    rw [choice i first here, choice j second there]
    refine ⟨?_, congrArg _⟩
    intro same
    by_contra differ
    have low := block_inside _ _ i positive (List.getElem?_eq_some_iff.mp here).1
    have high := block_inside _ _ j positive (List.getElem?_eq_some_iff.mp there).1
    exact apart _ _ low high differ same

end Groups

theorem worker_samples_repeat (benchmark : Benchmark) (accepted : benchmark.Accepted) (calibrated : Bool) (steps : List RequestStep)
    (returned : workerSteps gen sha256 benchmark calibrated = .ok steps) (inputName : String) (environment : Environment)
    (inputs : Inputs) (calibration : Option CorpusCalibration) (dataset : PromptDataset)
    (loaded : artifacts.dataset inputs.source = .ok dataset)
    (sampled : ∀ recipe ∈ inputRecipes steps inputName, SampledInput artifacts environment inputs calibration recipe)
    (enough : ∀ recipe ∈ inputRecipes steps inputName,
      blockCount (inputRecipes steps inputName).length (benchmark.repeatCountOf inputName) ≤
        matchingCount inputs calibration dataset recipe) :
    ∃ record : Nat → Nat,
      (∀ i recipe, (inputRecipes steps inputName)[i]? = some recipe →
        UsesRecord gen artifacts sha256 fuel inputs calibration dataset recipe (record i)) ∧
      (SeedsGroup gen sha256 inputs calibration dataset (inputRecipes steps inputName) (benchmark.repeatCountOf inputName) →
        Repeats (inputRecipes steps inputName).length (benchmark.repeatCountOf inputName) record) ∧
      (Ordinary benchmark →
        (Repeats (inputRecipes steps inputName).length (benchmark.repeatCountOf inputName) record →
          SeedsGroup gen sha256 inputs calibration dataset (inputRecipes steps inputName) (benchmark.repeatCountOf inputName)) ∧
        (∀ recipe ∈ inputRecipes steps inputName,
          (Repeats (inputRecipes steps inputName).length (benchmark.repeatCountOf inputName) record ↔
            GroupsApart gen sha256 inputs calibration dataset recipe
              (blockCount (inputRecipes steps inputName).length (benchmark.repeatCountOf inputName)))) ∧
        ((inputRecipes steps inputName).length ≤ benchmark.repeatCountOf inputName →
          Repeats (inputRecipes steps inputName).length (benchmark.repeatCountOf inputName) record)) := by
  have positive := repeat_count_positive benchmark accepted inputName
  have uses : ∀ (i : Nat) (recipe : WorkerInput), (inputRecipes steps inputName)[i]? = some recipe →
      ∃ position, UsesRecord gen artifacts sha256 fuel inputs calibration dataset recipe position := by
    intro i recipe read
    have listed := List.mem_of_getElem? read
    have inside := block_inside _ (benchmark.repeatCountOf inputName) 0 positive
      (Nat.zero_lt_of_lt (List.getElem?_eq_some_iff.mp read).1)
    exact worker_uses_record gen artifacts sha256 fuel environment inputs calibration dataset recipe loaded (sampled recipe listed)
      (Nat.lt_of_lt_of_le (Nat.zero_lt_of_lt inside) (enough recipe listed))
  -- The record of a place, where there is one.
  have choice : ∀ i : Nat, ∃ position, ∀ recipe, (inputRecipes steps inputName)[i]? = some recipe →
      UsesRecord gen artifacts sha256 fuel inputs calibration dataset recipe position := by
    intro i
    cases read : (inputRecipes steps inputName)[i]? with
    | none => exact ⟨0, fun recipe none => by cases none⟩
    | some recipe =>
        obtain ⟨position, used⟩ := uses i recipe read
        refine ⟨position, ?_⟩
        intro other same
        cases same
        exact used
  choose record records using choice
  have blocks := seeds_group_blocked gen artifacts sha256 fuel inputs calibration dataset (inputRecipes steps inputName)
    (benchmark.repeatCountOf inputName) record records
  have sufficient : SeedsGroup gen sha256 inputs calibration dataset (inputRecipes steps inputName) (benchmark.repeatCountOf inputName) →
      Repeats (inputRecipes steps inputName).length (benchmark.repeatCountOf inputName) record :=
    fun group => blocked_repeats _ _ record positive (blocks.mp group)
  refine ⟨record, records, sufficient, ?_⟩
  intro ordinary
  have constant : Constant (inputRecipes steps inputName).length (benchmark.repeatCountOf inputName) record := by
    intro i j first second same
    have here := List.getElem?_eq_getElem first
    have there := List.getElem?_eq_getElem second
    have choice := fun i first here => ordinary_choice gen sha256 benchmark ordinary calibrated steps returned inputName inputs
      calibration dataset i first _ here (List.getElem_mem second) positive
    have drawn := (choice i _ here).trans ((congrArg _ same).trans (choice j _ there).symm)
    rw [(records i _ here).chosen, (records j _ there).chosen] at drawn
    exact Option.some.inj drawn
  have necessary : Repeats (inputRecipes steps inputName).length (benchmark.repeatCountOf inputName) record →
      SeedsGroup gen sha256 inputs calibration dataset (inputRecipes steps inputName) (benchmark.repeatCountOf inputName) :=
    fun repeats => blocks.mpr (distinct_blocked _ _ record positive constant repeats.distinct)
  have apart := fun recipe listed => groups_apart gen sha256 benchmark ordinary calibrated steps returned inputName inputs calibration
    dataset recipe listed positive
  refine ⟨necessary, fun recipe listed => ⟨fun repeats => (apart recipe listed).mp (necessary repeats),
    fun separate => sufficient ((apart recipe listed).mpr separate)⟩, fun few => ?_⟩
  apply blocked_repeats _ _ record positive
  intro i j first second
  have group : i / benchmark.repeatCountOf inputName = j / benchmark.repeatCountOf inputName := by
    rw [Nat.div_eq_of_lt (first.trans_le few), Nat.div_eq_of_lt (second.trans_le few)]
  exact ⟨fun _ => group, constant i j first second⟩

end Workers

def pairArtifacts : Artifacts where
  tokenizer := fun _ _ => .ok ⟨fun text => text.map Char.toNat, fun ids => some (ids.map Char.ofNat), 128⟩
  dataset := fun _ => .ok ⟨"letters", [(0, ['a']), (1, ['b'])], [], none⟩
  samplePositions := List.range
  dumps := fun _ => ""

def pairBenchmark (repeatCount : Nat) : Benchmark where
  model := "model"
  adapter := "openai"
  plan := ⟨2, none, "default", none⟩
  timeout := ⟨90, .s⟩
  concurrentWorkers := none
  prompt := none
  meanInputTokens := 4
  stddevInputTokens := 4
  sharedPrefixTokens := 0
  sharedPrefixSeed := none
  dataset := some ⟨"letters.txt", "text"⟩
  datasetPromptMode := .sample
  datasetRepeatCount := repeatCount
  datasetSeed := 11111
  cacheProbe := none
  inputs := []
  meanOutputTokens := 150
  stddevOutputTokens := 80
  outputTokenCount := .provider
  inputTokenCount := .tokenizer
  additionalSamplingParams := []
  inputMessages := []
  contexts := .absent

theorem pair_accepted (repeatCount : Nat) (positive : 1 ≤ repeatCount) : (pairBenchmark repeatCount).Accepted where
  fields := by
    have once : (pairBenchmark 1).validFields = true := by decide +kernel
    simp only [Benchmark.validFields, decide_eq_true_eq] at once ⊢
    obtain ⟨model, plan, timeout, seconds, workers, prompt, mean, seed, dataset, _, probe, output, unique⟩ := once
    exact ⟨model, plan, timeout, seconds, workers, prompt, mean, seed, dataset, positive, probe, output, unique⟩
  graph := rfl
  probe := rfl
  messages := rfl
  contexts := rfl
  inputs := fun entry listed => by cases listed

def pairRecipe (repeatCount index : Nat) : WorkerInput :=
  (pairBenchmark repeatCount).recipe (fun _ => 0) true none (.step (RequestPlan.single ⟨2, none, "default", none⟩ index)) index

def pairInputs : Inputs where
  tokenizer := ⟨fun text => text.map Char.toNat, fun ids => some (ids.map Char.ofNat), 128⟩
  source := ⟨"text", some "letters.txt", some "letters.txt"⟩
  datasetPath := some "letters.txt"
  tokenizerPath := "tokenizer"
  fast := "true"

def pairDataset : PromptDataset := ⟨"letters", [(0, ['a']), (1, ['b'])], [], none⟩

theorem pair_steps (repeatCount : Nat) : ∃ steps, workerSteps lowDraws (fun _ => 0) (pairBenchmark repeatCount) true = .ok steps ∧
    inputRecipes steps "default" = [pairRecipe repeatCount 0, pairRecipe repeatCount 1] := ⟨_, rfl, rfl⟩

theorem pair_sampled (repeatCount index : Nat) :
    SampledInput pairArtifacts letterEnvironment pairInputs none (pairRecipe repeatCount index) := ⟨rfl, rfl, rfl, rfl⟩

theorem pair_enough (repeatCount index : Nat) : matchingCount pairInputs none pairDataset (pairRecipe repeatCount index) = 2 := rfl

theorem pair_choice (repeatCount index : Nat) :
    chosenBy lowDraws (fun _ => 0) pairInputs none pairDataset (pairRecipe repeatCount index) = some 0 := rfl

theorem pair_shares_record : (pairBenchmark 1).Accepted ∧
    ∃ steps, workerSteps lowDraws (fun _ => 0) (pairBenchmark 1) true = .ok steps ∧
      (∀ recipe ∈ inputRecipes steps "default", SampledInput pairArtifacts letterEnvironment pairInputs none recipe ∧
        blockCount (inputRecipes steps "default").length ((pairBenchmark 1).repeatCountOf "default") ≤
          matchingCount pairInputs none pairDataset recipe) ∧
      ¬ ∃ record : Nat → Nat,
        (∀ i recipe, (inputRecipes steps "default")[i]? = some recipe →
          UsesRecord lowDraws pairArtifacts (fun _ => 0) 8 pairInputs none pairDataset recipe (record i)) ∧
        Repeats (inputRecipes steps "default").length ((pairBenchmark 1).repeatCountOf "default") record := by
  refine ⟨pair_accepted 1 (Nat.le_refl 1), ?_⟩
  obtain ⟨steps, returned, recipes⟩ := pair_steps 1
  refine ⟨steps, returned, ?_⟩
  rw [recipes]
  constructor
  · intro recipe listed
    rcases List.mem_pair.mp listed with first | second
    · rw [first]
      exact ⟨pair_sampled 1 0, (pair_enough 1 0).ge⟩
    · rw [second]
      exact ⟨pair_sampled 1 1, (pair_enough 1 1).ge⟩
  · intro kept
    obtain ⟨record, uses, repeats⟩ := kept
    have first := (uses 0 _ rfl).chosen
    have second := (uses 1 _ rfl).chosen
    rw [pair_choice] at first second
    have one : Finset.image record (Finset.range 2) = {0} := by
      simp [Finset.range_add_one, ← Option.some.inj first, ← Option.some.inj second]
    have distinct : (Finset.image record (Finset.range 2)).card = 2 := repeats.distinct
    rw [one] at distinct
    cases distinct

theorem pair_repeats : ∃ steps, ∃ record : Nat → Nat, workerSteps lowDraws (fun _ => 0) (pairBenchmark 2) true = .ok steps ∧
    Repeats (inputRecipes steps "default").length ((pairBenchmark 2).repeatCountOf "default") record := by
  obtain ⟨steps, returned, recipes⟩ := pair_steps 2
  have each : ∀ recipe ∈ inputRecipes steps "default", recipe = pairRecipe 2 0 ∨ recipe = pairRecipe 2 1 := by
    rw [recipes]
    exact fun recipe listed => List.mem_pair.mp listed
  have sampled : ∀ recipe ∈ inputRecipes steps "default", SampledInput pairArtifacts letterEnvironment pairInputs none recipe := by
    intro recipe listed
    rcases each recipe listed with rfl | rfl
    · exact pair_sampled 2 0
    · exact pair_sampled 2 1
  have enough : ∀ recipe ∈ inputRecipes steps "default",
      blockCount (inputRecipes steps "default").length ((pairBenchmark 2).repeatCountOf "default") ≤
        matchingCount pairInputs none pairDataset recipe := by
    rw [recipes]
    intro recipe listed
    rcases List.mem_pair.mp listed with rfl | rfl <;> decide
  obtain ⟨record, _, repeats, _⟩ := worker_samples_repeat lowDraws pairArtifacts (fun _ => 0) 8 (pairBenchmark 2)
    (pair_accepted 2 (by decide)) true steps returned "default" letterEnvironment pairInputs none pairDataset rfl sampled enough
  refine ⟨steps, record, returned, repeats ?_⟩
  rw [recipes]
  intro i j first second here there
  have low : i < 2 := (List.getElem?_eq_some_iff.mp here).1
  have high : j < 2 := (List.getElem?_eq_some_iff.mp there).1
  have one : chosenBy lowDraws (fun _ => 0) pairInputs none pairDataset first = some 0 := by
    rcases List.mem_pair.mp (List.mem_of_getElem? here) with rfl | rfl <;> rfl
  have other : chosenBy lowDraws (fun _ => 0) pairInputs none pairDataset second = some 0 := by
    rcases List.mem_pair.mp (List.mem_of_getElem? there) with rfl | rfl <;> rfl
  have group : i / 2 = j / 2 := by omega
  exact ⟨fun _ => group, fun _ => one.trans other.symm⟩

end LlmperfOrchestrator.Preparation

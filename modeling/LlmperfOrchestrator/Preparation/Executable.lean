import LlmperfOrchestrator.Preparation.WorkerGroups
import LlmperfOrchestrator.Storage.Workers

set_option autoImplicit false

namespace LlmperfOrchestrator.Preparation

open Tables Compiler Draws Groups Rounding Outcomes

section Building

variable (gen : Generator) (sha256 : Sha256) (benchmark : Benchmark) (calibrated : Bool)

def Built (coordinate : Coordinate) (step : RequestStep) : Prop := ∃ request, step = benchmark.bindStep request coordinate

theorem built_id (coordinate : Coordinate) (step : RequestStep) (built : Built benchmark coordinate step) :
    step.stepId = coordinate.id := by
  obtain ⟨request, rfl⟩ := built
  cases coordinate <;> rfl

theorem built_dependencies (coordinate : Coordinate) (step : RequestStep) (built : Built benchmark coordinate step) :
    step.dependencies = coordinate.dependencies := by
  obtain ⟨request, rfl⟩ := built
  cases coordinate <;> rfl

theorem built_sources (coordinate : Coordinate) (step : RequestStep) (built : Built benchmark coordinate step) :
    step.messageSources = coordinate.messageSources := by
  obtain ⟨request, rfl⟩ := built
  cases coordinate <;> rfl

theorem built_delay (coordinate : Coordinate) (step : RequestStep) (built : Built benchmark coordinate step) :
    step.delaySeconds = coordinate.delay benchmark.cacheProbe := by
  obtain ⟨request, rfl⟩ := built
  cases coordinate <;> rfl

theorem built_due (coordinate : Coordinate) (step : RequestStep) (built : Built benchmark coordinate step) :
    step.dueAt = coordinate.dueAt := by
  obtain ⟨request, rfl⟩ := built
  cases coordinate <;> rfl

def FiniteDraw (index : Nat) (coordinate : Coordinate) : Prop :=
  ∀ context, benchmark.contextOf index = .ok context →
    benchmark.outputDraw gen sha256
      (benchmark.seedsOf sha256 context coordinate (coordinate.inputName benchmark.plan)).1 index ≠ none

def FiniteDraws : Prop :=
  ∀ index coordinate, (benchmark.coordinates gen)[index]? = some coordinate → FiniteDraw gen sha256 benchmark index coordinate

theorem worker_step_returns (index namedIndex : Nat) (coordinate : Coordinate) (context : Option TaskContext)
    (found : benchmark.contextOf index = .ok context) :
    (∃ step, benchmark.workerStep gen sha256 calibrated index namedIndex coordinate = .ok step) ↔
      FiniteDraw gen sha256 benchmark index coordinate := by
  rw [Benchmark.workerStep, found, FiniteDraw]
  cases drawn : benchmark.outputDraw gen sha256 (benchmark.recipe sha256 calibrated context coordinate namedIndex).seed index with
  | none =>
      constructor
      · intro returned
        obtain ⟨step, read⟩ := returned
        simp only [bind, Except.bind, drawn] at read
        cases read
      · intro finite
        exact absurd drawn (finite context found)
  | some value =>
      constructor
      · intro _ other same
        cases found.symm.trans same
        exact fun overflow => Option.some_ne_none value (drawn.symm.trans overflow)
      · intro _
        simp only [bind, Except.bind, drawn]
        exact ⟨_, rfl⟩

theorem worker_step_built (index namedIndex : Nat) (coordinate : Coordinate) (step : RequestStep)
    (built : benchmark.workerStep gen sha256 calibrated index namedIndex coordinate = .ok step) :
    Built benchmark coordinate step := by
  rw [Benchmark.workerStep] at built
  cases found : benchmark.contextOf index with
  | error reason =>
      rw [found] at built
      cases built
  | ok context =>
      rw [found] at built
      simp only [bind, Except.bind] at built
      split at built
      · cases built
      · cases built
        exact ⟨_, rfl⟩

theorem steps_from_cons (index : Nat) (namedCounts : Dict String Nat) (coordinate : Coordinate) (rest : List Coordinate)
    (steps : List RequestStep) :
    benchmark.stepsFrom gen sha256 calibrated index namedCounts (coordinate :: rest) = .ok steps ↔
      ∃ step later, steps = step :: later ∧
        benchmark.workerStep gen sha256 calibrated index ((Dict.get (coordinate.inputName benchmark.plan) namedCounts).getD 0)
          coordinate = .ok step ∧
        benchmark.stepsFrom gen sha256 calibrated (index + 1)
          (Dict.put (coordinate.inputName benchmark.plan)
            ((Dict.get (coordinate.inputName benchmark.plan) namedCounts).getD 0 + 1) namedCounts) rest = .ok later := by
  rw [Benchmark.stepsFrom, bind_ok]
  constructor
  · intro returned
    obtain ⟨step, first, returned⟩ := returned
    obtain ⟨later, others, same⟩ := (bind_ok _ _ _).mp returned
    cases same
    exact ⟨step, later, rfl, first, others⟩
  · intro split
    obtain ⟨step, later, rfl, first, others⟩ := split
    exact ⟨step, first, (bind_ok _ _ _).mpr ⟨later, others, rfl⟩⟩

theorem steps_from_built (coordinates : List Coordinate) (index : Nat) (namedCounts : Dict String Nat) (steps : List RequestStep)
    (returned : benchmark.stepsFrom gen sha256 calibrated index namedCounts coordinates = .ok steps) :
    List.Forall₂ (Built benchmark) coordinates steps := by
  induction coordinates generalizing index namedCounts steps with
  | nil =>
      cases returned
      exact .nil
  | cons coordinate rest ih =>
      obtain ⟨step, later, rfl, first, others⟩ :=
        (steps_from_cons gen sha256 benchmark calibrated index namedCounts coordinate rest steps).mp returned
      exact .cons (worker_step_built gen sha256 benchmark calibrated index _ coordinate step first) (ih _ _ later others)

theorem steps_from_returns (coordinates : List Coordinate) (index : Nat) (namedCounts : Dict String Nat)
    (listed : ∀ k, k < coordinates.length → ∃ context, benchmark.contextOf (index + k) = .ok context) :
    (∃ steps, benchmark.stepsFrom gen sha256 calibrated index namedCounts coordinates = .ok steps) ↔
      ∀ k coordinate, coordinates[k]? = some coordinate → FiniteDraw gen sha256 benchmark (index + k) coordinate := by
  induction coordinates generalizing index namedCounts with
  | nil => exact ⟨fun _ k coordinate read => by simp at read, fun _ => ⟨[], rfl⟩⟩
  | cons coordinate rest ih =>
      obtain ⟨context, found⟩ := listed 0 (by simp)
      have tail : ∀ k, k < rest.length → ∃ context, benchmark.contextOf (index + 1 + k) = .ok context := by
        intro k inside
        rw [Nat.add_right_comm]
        exact listed (k + 1) (by simpa using inside)
      constructor
      · intro returned k other read
        obtain ⟨steps, returned⟩ := returned
        obtain ⟨step, later, _, first, others⟩ :=
          (steps_from_cons gen sha256 benchmark calibrated index namedCounts coordinate rest steps).mp returned
        cases k with
        | zero =>
            cases Option.some.inj read
            exact (worker_step_returns gen sha256 benchmark calibrated index _ coordinate context found).mp ⟨step, first⟩
        | succ k =>
            rw [Nat.add_comm k 1, ← Nat.add_assoc]
            exact (ih (index + 1) _ tail).mp ⟨later, others⟩ k other (by simpa using read)
      · intro finite
        obtain ⟨step, first⟩ := (worker_step_returns gen sha256 benchmark calibrated index
          ((Dict.get (coordinate.inputName benchmark.plan) namedCounts).getD 0) coordinate context found).mpr
          (finite 0 coordinate rfl)
        have later : ∀ k other, rest[k]? = some other → FiniteDraw gen sha256 benchmark (index + 1 + k) other := by
          intro k other read
          rw [Nat.add_right_comm]
          exact finite (k + 1) other (by simpa using read)
        obtain ⟨others, built⟩ := (ih (index + 1) _ tail).mpr later
        exact ⟨step :: others, (steps_from_cons gen sha256 benchmark calibrated index namedCounts coordinate rest _).mpr
          ⟨step, others, rfl, first, built⟩⟩

end Building

theorem contexts_cover (benchmark : Benchmark) (accepted : benchmark.Accepted) (index : Nat)
    (inside : index < benchmark.plannedWorkerCount) : ∃ context, benchmark.contextOf index = .ok context := by
  have contexts := accepted.contexts
  rw [Benchmark.validateContexts] at contexts
  rw [Benchmark.contextOf]
  cases given : benchmark.contexts with
  | absent => exact ⟨none, rfl⟩
  | single context => exact ⟨some context, rfl⟩
  | grouped listed =>
      cases listed with
      | nil => exact ⟨none, rfl⟩
      | cons first rest =>
          rw [given] at contexts
          dsimp only at contexts
          split at contexts
          · cases contexts
          · split at contexts
            · cases contexts
            · rename_i matched
              push Not at matched
              obtain ⟨noProbe, count, _⟩ := matched
              have planned : benchmark.plannedWorkerCount = benchmark.plan.workerCount := by
                have absent : benchmark.cacheProbe = none := by simpa using noProbe
                rw [Benchmark.plannedWorkerCount, Compiler.plannedWorkerCount, Benchmark.document, RequestPlan.workerCount, absent]
                cases benchmark.plan.steps <;> rfl
              have bound : index < (first :: rest).length := by omega
              exact ⟨some (first :: rest)[index], by simp only [List.getElem?_eq_getElem bound]⟩

-- The Worker as create_workers stores it.
def RequestStep.stored (step : RequestStep) : Storage.RequestStep where
  stepId := step.stepId
  dependencies := step.dependencies
  messageSources := step.messageSources
  delay := (roundHalfEven (step.delaySeconds * 1000000)).toNat
  dueAt := step.dueAt.map fun due => due.wall - due.offset.getD 0
  inputName := step.request.preparation.map WorkerInput.inputName

section Creation

variable {Digest : Type} [DecidableEq Digest]

theorem create_workers_accepts (store : Storage.Store Digest) (caller : Storage.Caller) (runnerId : Storage.RunnerId)
    (runner : Storage.Runner) (steps : List Storage.RequestStep) (leased : Storage.checkRuntime store caller = .ok ())
    (live : Storage.accepting store runnerId = some runner) (room : steps.length ≤ runner.template.plannedWorkers)
    (valid : ∀ step ∈ steps, Storage.validStep step.stepId = true)
    (distinct : (steps.map Storage.RequestStep.stepId).Nodup)
    (known : ∀ stepId worker, store.workers.get (runnerId, stepId) = some worker →
      stepId ∈ steps.map Storage.RequestStep.stepId) :
    ∃ next, Storage.createWorkers store caller runnerId steps = .ok next := by
  have owned : Storage.ownedWorkers store runnerId ≤
      (steps.filter fun step => ¬ store.workers.get (runnerId, step.stepId) = none).length := by
    rw [← List.length_map (f := fun step : Storage.RequestStep => (runnerId, step.stepId))]
    apply table_count_le
    intro key worker read counted
    obtain ⟨owner, stepId⟩ := key
    have same : owner = runnerId := of_decide_eq_true counted
    subst same
    obtain ⟨step, listed, rfl⟩ := List.mem_map.mp (known stepId worker read)
    exact List.mem_map.mpr ⟨step, List.mem_filter.mpr ⟨listed, by simp [read]⟩, rfl⟩
  have fits : ¬ runner.template.plannedWorkers < Storage.ownedWorkers store runnerId +
      (steps.filter fun step => store.workers.get (runnerId, step.stepId) = none).length := by
    have parts := List.length_eq_length_filter_add (l := steps) fun step => decide (store.workers.get (runnerId, step.stepId) = none)
    simp only [decide_not] at owned
    omega
  rw [Storage.createWorkers]
  by_cases empty : steps = []
  · exact ⟨store, by rw [if_pos empty]⟩
  · rw [if_neg empty, if_neg, if_neg (not_not.mpr distinct), leased]
    · refine ⟨?next, (bind_ok _ _ _).mpr ⟨(), rfl, ?taken⟩⟩
      case taken =>
        rw [live]
        exact if_neg fits
    · intro invalid
      obtain ⟨step, listed, rejected⟩ := List.any_eq_true.mp invalid
      exact (of_decide_eq_true rejected) (valid step listed)

end Creation

namespace Benchmark

def groupCount (benchmark : Benchmark) : Nat :=
  match benchmark.cacheProbe with
  | some probe => probe.trials
  | none => benchmark.plan.repeats

def groupWidth (benchmark : Benchmark) : Nat :=
  match benchmark.cacheProbe with
  | some probe => probe.repeatsAfterPrime + 1
  | none => (benchmark.plan.steps.map List.length).getD 1

end Benchmark

theorem groups_count (gen : Generator) (benchmark : Benchmark) : (benchmark.groups gen).length = benchmark.groupCount := by
  rw [Benchmark.groups, Benchmark.groupCount]
  cases benchmark.cacheProbe with
  | none => simp
  | some probe => simpa using (families_perm gen benchmark probe).length_eq

theorem groups_width (gen : Generator) (benchmark : Benchmark) :
    ∀ group ∈ benchmark.groups gen, group.length = benchmark.groupWidth := by
  intro group member
  rw [Benchmark.groups] at member
  rw [Benchmark.groupWidth]
  cases configured : benchmark.cacheProbe with
  | none =>
      rw [configured] at member
      obtain ⟨index, _, rfl⟩ := List.mem_map.mp member
      rw [List.length_map, RequestPlan.repetition]
      cases benchmark.plan.steps <;> simp
  | some probe =>
      rw [configured] at member
      obtain ⟨family, _, rfl⟩ := List.mem_map.mp member
      simp

structure Executable (Digest : Type) [DecidableEq Digest] (benchmark : Benchmark) (steps : List RequestStep) : Prop where
  count : steps.length = benchmark.plannedWorkerCount
  distinct : (steps.map RequestStep.stepId).Nodup
  short : ∀ step ∈ steps, 1 ≤ step.stepId.length ∧ step.stepId.length ≤ 128
  grouped : ∃ groups : List (List RequestStep), steps = groups.flatten ∧ groups.length = benchmark.groupCount ∧
    ∀ group ∈ groups, group.length = benchmark.groupWidth ∧ Closed RequestStep.stepId RequestStep.dependencies group
  sources : ∀ step ∈ steps, step.messageSources ⊆ step.dependencies
  logic : ∀ createdAt, workflowTaskLogic steps createdAt = .ok ⟨steps, createdAt⟩
  created : ∀ (store : Storage.Store Digest) (caller : Storage.Caller) (runnerId : Storage.RunnerId) (runner : Storage.Runner),
    Storage.checkRuntime store caller = .ok () → Storage.accepting store runnerId = some runner →
    runner.template.plannedWorkers = benchmark.plannedWorkerCount →
    (∀ stepId worker, store.workers.get (runnerId, stepId) = some worker → stepId ∈ steps.map RequestStep.stepId) →
    ∃ next, Storage.createWorkers store caller runnerId (steps.map RequestStep.stored) = .ok next

theorem built_executable (Digest : Type) [DecidableEq Digest] (gen : Generator) (benchmark : Benchmark)
    (accepted : benchmark.Accepted) (steps : List RequestStep)
    (built : List.Forall₂ (Built benchmark) (benchmark.coordinates gen) steps) : Executable Digest benchmark steps := by
  have sound := coordinates_sound gen benchmark accepted
  have ids : steps.map RequestStep.stepId = (benchmark.coordinates gen).map Coordinate.id :=
    related_map _ _ _ (built_id benchmark) _ _ built
  have distinct : (steps.map RequestStep.stepId).Nodup := by
    rw [ids]
    exact coordinate_ids_nodup gen benchmark accepted.graph
  have count : steps.length = benchmark.plannedWorkerCount := built.length_eq.symm.trans (coordinates_length gen benchmark)
  have origin := related_mem _ _ _ built
  have short : ∀ step ∈ steps, 1 ≤ step.stepId.length ∧ step.stepId.length ≤ 128 := by
    intro step member
    obtain ⟨coordinate, listed, from_⟩ := origin step member
    rw [built_id benchmark coordinate step from_]
    exact ⟨(sound coordinate listed).named, (sound coordinate listed).short⟩
  have sources : ∀ step ∈ steps, step.messageSources ⊆ step.dependencies := by
    intro step member
    obtain ⟨coordinate, listed, from_⟩ := origin step member
    rw [built_sources benchmark coordinate step from_, built_dependencies benchmark coordinate step from_]
    exact (sound coordinate listed).sources
  have grouped : ∃ groups : List (List RequestStep), steps = groups.flatten ∧ groups.length = benchmark.groupCount ∧
      ∀ group ∈ groups, group.length = benchmark.groupWidth ∧ Closed RequestStep.stepId RequestStep.dependencies group := by
    have joined := built
    rw [coordinates_groups] at joined
    obtain ⟨groups, flat, related⟩ := related_flatten _ _ _ joined
    refine ⟨groups, flat, related.length_eq.symm.trans (groups_count gen benchmark), fun group member => ?_⟩
    obtain ⟨coordinates, listed, each⟩ := related_mem _ _ _ related group member
    refine ⟨each.length_eq.symm.trans (groups_width gen benchmark coordinates listed), ?_⟩
    exact closed_related _ _ _ _ _ (built_id benchmark) (built_dependencies benchmark) coordinates group each
      (groups_closed gen benchmark accepted.graph coordinates listed)
  have closed : Closed RequestStep.stepId RequestStep.dependencies steps := by
    obtain ⟨groups, flat, _, each⟩ := grouped
    rw [flat]
    exact closed_flatten _ _ groups fun group member => (each group member).2
  refine ⟨count, distinct, short, grouped, sources, fun createdAt => ?_, ?_⟩
  · apply workflow_task_logic_sound steps createdAt distinct
    intro before step after split
    have member : step ∈ steps := by rw [split]; simp
    obtain ⟨coordinate, listed, from_⟩ := origin step member
    refine ⟨fun unnamed => ?_, closed before step after split, sources step member, ?_, ?_⟩
    · have named := (short step member).1
      rw [unnamed] at named
      exact absurd named (by decide)
    · rw [built_delay benchmark coordinate step from_]
      exact (sound coordinate listed).delay
    · rw [built_due benchmark coordinate step from_]
      exact (sound coordinate listed).due
  · intro store caller runnerId runner leased live declared known
    have names : (steps.map RequestStep.stored).map Storage.RequestStep.stepId = steps.map RequestStep.stepId := by
      rw [List.map_map]
      rfl
    apply create_workers_accepts store caller runnerId runner _ leased live
    · rw [List.length_map, count, declared]
    · intro step member
      obtain ⟨source, listed, rfl⟩ := List.mem_map.mp member
      obtain ⟨named, bounded⟩ := short source listed
      exact decide_eq_true ⟨fun unnamed => by
        have length : source.stepId.length = 0 := congrArg String.length unnamed
        omega, bounded⟩
    · rw [names]
      exact distinct
    · rw [names]
      exact known

theorem worker_compilation_executable (Digest : Type) [DecidableEq Digest] (gen : Generator) (sha256 : Sha256)
    (benchmark : Benchmark) (calibrated : Bool) (accepted : benchmark.Accepted) :
    (∃ steps, workerSteps gen sha256 benchmark calibrated = .ok steps ∧ Executable Digest benchmark steps) ↔
      FiniteDraws gen sha256 benchmark := by
  have covered : ∀ k, k < (benchmark.coordinates gen).length → ∃ context, benchmark.contextOf (0 + k) = .ok context := by
    intro k inside
    rw [coordinates_length] at inside
    rw [Nat.zero_add]
    exact contexts_cover benchmark accepted k inside
  have returns := steps_from_returns gen sha256 benchmark calibrated (benchmark.coordinates gen) 0 [] covered
  simp only [Nat.zero_add] at returns
  constructor
  · intro executed
    obtain ⟨steps, returned, _⟩ := executed
    exact returns.mp ⟨steps, returned⟩
  · intro finite
    obtain ⟨steps, returned⟩ := returns.mpr finite
    exact ⟨steps, returned, built_executable Digest gen benchmark accepted steps
      (steps_from_built gen sha256 benchmark calibrated _ 0 [] steps returned)⟩

-- 2 ** 1024: an integer from here on has no float.
def floatLimit : Int := 2 ^ 256 * 2 ^ 256 * 2 ^ 256 * 2 ^ 256

def levelDraws : Generator where
  State := Unit
  seeded := fun _ => ()
  randbelow := fun _ state => (0, state)
  gauss := fun mean stddev state => (if floatLimit ≤ mean ∨ floatLimit ≤ stddev then none else some mean, state)
  below := fun _ _ positive => positive

def turnsBenchmark (stddevOutputTokens : Nat) : Benchmark where
  model := "model"
  adapter := "openai"
  plan := ⟨2, none, "default", some [⟨"ask", none, [], ⟨0, .s⟩, none⟩, ⟨"again", none, [⟨"ask", true⟩], ⟨1, .s⟩, none⟩]⟩
  timeout := ⟨90, .s⟩
  concurrentWorkers := none
  prompt := none
  meanInputTokens := 550
  stddevInputTokens := 150
  sharedPrefixTokens := 0
  sharedPrefixSeed := none
  dataset := none
  datasetPromptMode := .sample
  datasetRepeatCount := 1
  datasetSeed := 11111
  cacheProbe := none
  inputs := []
  meanOutputTokens := 150
  stddevOutputTokens := stddevOutputTokens
  outputTokenCount := .provider
  inputTokenCount := .estimate
  additionalSamplingParams := []
  inputMessages := []
  contexts := .absent

def wideDeviation : Nat := 10 ^ 200 * 10 ^ 200

theorem turns_accepted (stddevOutputTokens : Nat) : (turnsBenchmark stddevOutputTokens).Accepted where
  fields := by
    have same : (turnsBenchmark stddevOutputTokens).validFields = (turnsBenchmark 0).validFields := rfl
    rw [same]
    decide +kernel
  graph := rfl
  probe := rfl
  messages := rfl
  contexts := rfl
  inputs := fun entry listed => by cases listed

theorem turns_draw (seed : Int) (index : Nat) :
    Benchmark.outputDraw levelDraws (fun _ => 0) (turnsBenchmark 80) seed index = some 150 := by
  have finite : ¬ (floatLimit ≤ ((150 : Nat) : Int) ∨ floatLimit ≤ ((80 : Nat) : Int)) := by decide +kernel
  change (if floatLimit ≤ ((150 : Nat) : Int) ∨ floatLimit ≤ ((80 : Nat) : Int) then none else some (((150 : Nat) : Int) : Rat)) = _
  rw [if_neg finite]
  rfl

theorem turns_draws : FiniteDraws levelDraws (fun _ => 0) (turnsBenchmark 80) := by
  intro index coordinate _ context _ overflow
  rw [turns_draw] at overflow
  cases overflow

theorem turns_executable : (turnsBenchmark 80).Accepted ∧
    ∃ steps, workerSteps levelDraws (fun _ => 0) (turnsBenchmark 80) true = .ok steps ∧
      Executable Storage.Json (turnsBenchmark 80) steps :=
  ⟨turns_accepted 80, (worker_compilation_executable Storage.Json levelDraws (fun _ => 0) (turnsBenchmark 80) true
    (turns_accepted 80)).mpr turns_draws⟩

-- Validation bounds neither the mean nor the deviation of the output limit.
theorem wide_deviation_fails : (turnsBenchmark wideDeviation).Accepted ∧
    ¬ ∃ steps, workerSteps levelDraws (fun _ => 0) (turnsBenchmark wideDeviation) true = .ok steps := by
  have overflow : floatLimit ≤ ((150 : Nat) : Int) ∨ floatLimit ≤ (wideDeviation : Int) := by decide +kernel
  refine ⟨turns_accepted _, fun executed => ?_⟩
  obtain ⟨steps, returned⟩ := executed
  obtain ⟨step, _, _, first, _⟩ := (steps_from_cons levelDraws (fun _ => 0) (turnsBenchmark wideDeviation) true 0 [] _ _ steps).mp returned
  have drawn := (worker_step_returns levelDraws (fun _ => 0) (turnsBenchmark wideDeviation) true 0 _ _ none rfl).mp ⟨step, first⟩
  apply drawn none rfl
  change (if floatLimit ≤ ((150 : Nat) : Int) ∨ floatLimit ≤ (wideDeviation : Int) then none
    else some (((150 : Nat) : Int) : Rat)) = none
  rw [if_pos overflow]

end LlmperfOrchestrator.Preparation

import LlmperfOrchestrator.Compiler.Estimate
import LlmperfOrchestrator.Library.Lineages
import LlmperfOrchestrator.Preparation.Requests

set_option autoImplicit false

namespace LlmperfOrchestrator.Preparation

open Tables Compiler Outcomes Lineages Numerals

-- tokens of an input definition: left out, a mapping with or without mean, or a count.
inductive TokenTarget where
  | absent
  | mapping (mean : Option Nat)
  | count (value : Nat)
deriving DecidableEq, Repr

-- text may be left out, null or a text; only a missing one falls back to prompt.
structure InputDefinition where
  text : Option (Option String)
  tokens : TokenTarget
deriving DecidableEq, Repr

def InputDefinition.blank : InputDefinition := ⟨none, .absent⟩

-- What planned_token_budget reads of a benchmark.
structure TokenBenchmark where
  meanInputTokens : Option Nat
  meanOutputTokens : Option Nat
  cacheProbe : Option CacheProbe
  plan : RequestPlan
  inputs : Dict String InputDefinition
  prompt : Option String
deriving DecidableEq, Repr

-- len(text.encode("utf-8")) where there is a text, and not below the mean.
def textTokens (mean : Nat) : Option String → Nat
  | some text => max mean text.utf8ByteSize
  | none => mean

namespace TokenBenchmark

variable (benchmark : TokenBenchmark)

def inputTokens : Nat := benchmark.meanInputTokens.getD 550
def outputTokens : Nat := benchmark.meanOutputTokens.getD 150

def meanTokens : TokenTarget → Nat
  | .absent => benchmark.inputTokens
  | .mapping mean => mean.getD benchmark.inputTokens
  | .count value => value

def promptTokens (step : RequestStepSpec) : Nat :=
  let definition := (Dict.get (step.input.getD benchmark.plan.input) benchmark.inputs).getD .blank
  textTokens (benchmark.meanTokens definition.tokens) (definition.text.getD benchmark.prompt)

-- RequestStepSpec(name="request")
def requestStep : RequestStepSpec := { name := "request", input := none, dependsOn := [], after := ⟨0, .s⟩, instant := none }

def iterationSteps : List RequestStepSpec := benchmark.plan.steps.getD [requestStep]

def stepBudget (state : Dict String Nat × Nat) (step : RequestStepSpec) : Except String (Dict String Nat × Nat) := do
  let previous ← step.messageSources.mapM (lookUp state.1)
  let stepTokens := previous.sum + benchmark.promptTokens step + benchmark.outputTokens
  .ok (Dict.put step.name stepTokens state.1, state.2 + stepTokens)

-- planned_worker_count of a cache probe.
def probeWorkers (probe : CacheProbe) : Nat := probe.trials * (1 + probe.repeatsAfterPrime)

def plannedTokenBudget : Except String Nat :=
  match benchmark.cacheProbe with
  | some probe => .ok (probeWorkers probe * (benchmark.inputTokens + benchmark.outputTokens))
  | none => do
      let (_, iterationTokens) ← benchmark.iterationSteps.foldlM benchmark.stepBudget ([], 0)
      .ok (benchmark.plan.repeats * iterationTokens)

def entry (step : RequestStepSpec) : Entry String :=
  { key := step.name, own := benchmark.promptTokens step + benchmark.outputTokens, sources := step.messageSources, reusable := true }

def expandedEntries : List (Entry String) := benchmark.plan.expand.map benchmark.entry

theorem step_accumulates (state : Dict String Nat × Nat) (step : RequestStepSpec) :
    benchmark.stepBudget state step = accumulate 1 state (benchmark.entry step) := by
  rw [stepBudget, accumulate]
  simp only [entry, if_true, Nat.mul_one, Nat.add_assoc]

def rename (repetition : Nat) (name : String) : String :=
  match benchmark.plan.steps with
  | none => toString repetition
  | some _ => benchmark.plan.scope repetition ++ name

theorem repetition_sources (repetition : Nat) (step : RequestStepSpec) :
    (benchmark.plan.inRepetition repetition step).messageSources =
      step.messageSources.map (benchmark.plan.scope repetition ++ ·) := by
  simp only [RequestPlan.inRepetition, RequestStepSpec.messageSources, List.filter_map, List.map_map, Function.comp_def]

theorem expanded_groups : benchmark.expandedEntries =
    (List.range benchmark.plan.repeats).flatMap fun repetition =>
      (benchmark.iterationSteps.map benchmark.entry).map (Entry.rename (benchmark.rename repetition)) := by
  rw [expandedEntries, RequestPlan.expand]
  cases steps : benchmark.plan.steps with
  | none =>
      simp only [List.map_map, iterationSteps, steps, Option.getD_none, List.map_cons, List.map_nil]
      rw [List.map_eq_flatMap]
      congr 1
      funext repetition
      rw [Function.comp_apply, entry, Entry.rename, rename, steps]
      rfl
  | some listed =>
      rw [List.map_flatMap]
      simp only [iterationSteps, steps, Option.getD_some, List.map_map]
      congr 1
      funext repetition
      have prefixed : benchmark.rename repetition = (benchmark.plan.scope repetition ++ ·) := by
        funext name
        rw [rename, steps]
      apply List.map_congr_left
      intro step _
      rw [prefixed]
      simp only [Function.comp_apply, entry, Entry.rename, repetition_sources]
      rfl

theorem steps_topological (seen : List String) (steps : List RequestStepSpec) (before : List (Entry String))
    (same : ∀ name, name ∈ seen ↔ name ∈ reusableKeys before) (all : reusableKeys before = before.map Entry.key)
    (checked : RequestPlan.checkSteps seen steps = .ok ()) : Topological before (steps.map benchmark.entry) := by
  induction steps generalizing seen before with
  | nil => trivial
  | cons step rest ih =>
      rw [RequestPlan.checkSteps] at checked
      split at checked
      · cases checked
      · rename_i unique
        obtain ⟨fresh, earlier⟩ := not_or.mp unique
        have grown : reusableKeys (before ++ [benchmark.entry step]) = reusableKeys before ++ [step.name] := reusable_append _ _
        refine ⟨?_, ?_, ih (step.name :: seen) _ ?_ ?_ checked⟩
        · rw [← all]
          exact fun known => fresh ((same step.name).mpr known)
        · intro source needed
          obtain ⟨dependency, chosen, named⟩ := List.mem_map.mp needed
          apply (same source).mp
          apply not_not.mp earlier
          exact List.mem_map.mpr ⟨dependency, List.mem_of_mem_filter chosen, named⟩
        · intro name
          rw [grown, List.mem_cons, List.mem_append, List.mem_singleton, same, or_comm]
        · rw [grown, all, List.map_append]
          rfl

theorem iteration_topological (accepted : benchmark.plan.accepted) :
    Topological [] (benchmark.iterationSteps.map benchmark.entry) := by
  cases steps : benchmark.plan.steps with
  | none =>
      rw [iterationSteps, steps]
      exact ⟨List.not_mem_nil, List.nil_subset _, trivial⟩
  | some listed =>
      have checked := accepted.2
      simp only [RequestPlan.validateGraph, steps, Option.getD_some] at checked
      split at checked
      · cases checked
      · split at checked
        · cases checked
        · rw [iterationSteps, steps]
          exact benchmark.steps_topological [] listed [] (fun _ => Iff.rfl) rfl checked

theorem scope_letters (plan : RequestPlan) (repetition : Nat) (many : 1 < plan.repeats) (name : String) :
    (plan.scope repetition ++ name).toList = repetition.repr.toList ++ '.' :: name.toList := by
  rw [RequestPlan.scope, if_pos many, String.toList_append, String.toList_append, List.append_assoc]
  rfl

theorem rename_apart (first second : Nat) (inFirst : first < benchmark.plan.repeats) (inSecond : second < benchmark.plan.repeats)
    (name other : String) (same : benchmark.rename first name = benchmark.rename second other) : first = second := by
  have letters := congrArg String.toList same
  cases steps : benchmark.plan.steps with
  | none =>
      simp only [rename, steps] at letters
      exact natural_injective first second letters
  | some listed =>
      by_cases many : 1 < benchmark.plan.repeats
      · simp only [rename, steps] at letters
        rw [scope_letters benchmark.plan first many, scope_letters benchmark.plan second many] at letters
        exact (natural_split first second _ _ (by simp [Closed]) (by simp [Closed]) letters).1
      · omega

theorem renamed_topological (repetition : Nat) (accepted : benchmark.plan.accepted) :
    Topological [] ((benchmark.iterationSteps.map benchmark.entry).map (Entry.rename (benchmark.rename repetition))) := by
  cases steps : benchmark.plan.steps with
  | none =>
      rw [iterationSteps, steps]
      exact ⟨List.not_mem_nil, List.nil_subset _, trivial⟩
  | some listed =>
      have injective : Function.Injective (benchmark.rename repetition) := by
        intro name other same
        simp only [rename, steps] at same
        have letters := congrArg String.toList same
        rw [String.toList_append, String.toList_append] at letters
        exact String.toList_inj.mp (List.append_cancel_left letters)
      exact topological_rename _ injective _ [] (benchmark.iteration_topological accepted)

theorem expanded_topological (accepted : benchmark.plan.accepted) : Topological [] benchmark.expandedEntries := by
  rw [expanded_groups]
  apply topological_groups _ _ fun repetition _ => benchmark.renamed_topological repetition accepted
  apply List.pairwise_lt_range.imp_of_mem
  intro first second inFirst inSecond less entry inside known
  obtain ⟨later, _, rfl⟩ := List.mem_map.mp inside
  obtain ⟨renamed, held, same⟩ := List.mem_map.mp known
  obtain ⟨earlier, _, rfl⟩ := List.mem_map.mp held
  have equal := benchmark.rename_apart first second (List.mem_range.mp inFirst) (List.mem_range.mp inSecond) _ _ same
  omega

theorem iteration_weighs (weight : String → Nat) (accepted : benchmark.plan.accepted)
    (weighing : Weighing benchmark.expandedEntries weight) (repetition : Nat) (inside : repetition < benchmark.plan.repeats) :
    ∃ last, benchmark.iterationSteps.foldlM benchmark.stepBudget ([], 0) =
      .ok (last, lineageWeight (weight ∘ benchmark.rename repetition) (benchmark.iterationSteps.map benchmark.entry)) := by
  have own : Weighing (benchmark.iterationSteps.map benchmark.entry) (weight ∘ benchmark.rename repetition) := by
    apply weighing_rename
    intro entry member
    apply weighing
    rw [expanded_groups]
    exact List.mem_flatMap.mpr ⟨repetition, List.mem_range.mpr inside, member⟩
  obtain ⟨last, done⟩ := accumulate_weighs 1 _ _ [] [] 0 (benchmark.iteration_topological accepted) own
    fun _ absent => absurd absent List.not_mem_nil
  rw [List.foldlM_map, Nat.zero_add, Nat.mul_one] at done
  have same : benchmark.stepBudget = fun state step => accumulate 1 state (benchmark.entry step) := by
    funext state step
    exact benchmark.step_accumulates state step
  exact ⟨last, same ▸ done⟩

theorem plan_budget (weight : String → Nat) (accepted : benchmark.plan.accepted) (requests : benchmark.cacheProbe = none)
    (weighing : Weighing benchmark.expandedEntries weight) :
    benchmark.plannedTokenBudget = .ok (lineageWeight weight benchmark.expandedEntries) := by
  have positive : 0 < benchmark.plan.repeats := by
    have fields := accepted.1
    simp only [RequestPlan.validFields, decide_eq_true_eq] at fields
    exact fields.1
  obtain ⟨last, done⟩ := benchmark.iteration_weighs weight accepted weighing 0 positive
  have each : ∀ repetition ∈ List.range benchmark.plan.repeats,
      lineageWeight weight ((benchmark.iterationSteps.map benchmark.entry).map (Entry.rename (benchmark.rename repetition))) =
        lineageWeight (weight ∘ benchmark.rename 0) (benchmark.iterationSteps.map benchmark.entry) := by
    intro repetition inside
    obtain ⟨other, again⟩ := benchmark.iteration_weighs weight accepted weighing repetition (List.mem_range.mp inside)
    rw [weight_rename]
    exact (Prod.mk.inj (Except.ok.inj (again.symm.trans done))).2
  have total : lineageWeight weight benchmark.expandedEntries =
      benchmark.plan.repeats * lineageWeight (weight ∘ benchmark.rename 0) (benchmark.iterationSteps.map benchmark.entry) := by
    rw [expanded_groups, lineageWeight, List.map_flatMap, sum_flatMap]
    change ((List.range benchmark.plan.repeats).map fun repetition => lineageWeight weight _).sum = _
    rw [List.map_congr_left each, List.map_const', List.sum_replicate_nat, List.length_range]
  rw [plannedTokenBudget, requests, total]
  exact (bind_ok _ _ _).mpr ⟨_, done, rfl⟩

end TokenBenchmark

end LlmperfOrchestrator.Preparation

import LlmperfOrchestrator.Compiler.Admission

set_option autoImplicit false

namespace LlmperfOrchestrator.Compiler.Admission

open Tables SeriesParallel Outcomes PlanOccurrences Runtime.Recurrence Loads

section Bound

variable (sha256 : Sha256) (zones : Zones) (capacities : Capacities) (now : Int)

def Bounded (schedulerSlots : Nat) (workload : Workload BenchmarkDocument) : Prop :=
  ∀ requested, requestedConcurrency sha256 zones capacities now schedulerSlots none workload.known = .ok requested →
    ∀ configuration, Configured sha256 zones now workload configuration → configuration.size ≤ schedulerSlots →
      (configuration.load capacities.schedulerCapacity workload : Int) ≤ requested

variable {capacities}

theorem capacity_positive (valid : capacities.Valid) : 1 ≤ capacities.schedulerCapacity := by
  rw [Capacities.schedulerCapacity]
  cases given : capacities.rayActorCapacity with
  | none => exact valid.guard
  | some actors => exact Nat.mul_pos (valid.actors actors given) valid.concurrency

variable (room : 1 ≤ capacities.schedulerCapacity)
include room

theorem cost_width (total : AdmissionTotals) (benchmark : BenchmarkDocument) (valid : Validated benchmark) (multiplier : Int) :
    (contribution capacities.schedulerCapacity benchmark : Int) ≤
      (addCost total (benchmarkCost capacities.schedulerCapacity (some benchmark)) multiplier).maxRunnerConcurrency := by
  have light := cost_contribution capacities.schedulerCapacity benchmark room valid
  exact (Int.ofNat_le.mpr light).trans (le_max_right _ _)

theorem runners_bound (benchmarks : List BenchmarkDocument) (valid : ∀ benchmark ∈ benchmarks, Validated benchmark)
    (flags : List Bool) (many : flags.length = benchmarks.length) (total last : AdmissionTotals)
    (done : (benchmarks.map some).foldlM (chargeRunner capacities) total = .ok last) :
    total.plannedRunners + ((flags.map Bool.toNat).sum : Nat) ≤ last.plannedRunners ∧
      total.maxRunnerConcurrency ≤ last.maxRunnerConcurrency ∧
      ((((benchmarks.zip flags).map fun entry =>
          entry.2.toNat * contribution capacities.schedulerCapacity entry.1).sum : Nat) : Int) ≤
        ((flags.map Bool.toNat).sum : Nat) * last.maxRunnerConcurrency := by
  have matched := zip_matched (fun _ _ => True) some benchmarks flags
    (List.forall₂_iff_zip.mpr ⟨many.symm, fun _ => trivial⟩)
  have grows : ∀ (total : AdmissionTotals) item next, chargeRunner capacities total item = .ok next →
      total.maxRunnerConcurrency ≤ next.maxRunnerConcurrency := by
    intro total item next charged
    cases charged
    exact le_max_left _ _
  have counted : (benchmarks.zip flags).map (fun entry => entry.2.toNat) = flags.map Bool.toNat := by
    have flagged : (benchmarks.zip flags).map Prod.snd = flags := List.map_snd_zip many.le
    have read := congrArg (List.map Bool.toNat) flagged
    rwa [List.map_map] at read
  have known : ∀ {item} {part : BenchmarkDocument × Bool}, item ∈ benchmarks.map some → item = some part.1 ∧ True →
      Validated part.1 := by
    rintro item part member ⟨rfl, _⟩
    obtain ⟨benchmark, inBenchmarks, same⟩ := List.mem_map.mp member
    cases same
    exact valid _ inBenchmarks
  refine ⟨?_, fold_grows _ _ _ grows _ _ done, ?_⟩
  · rw [← counted]
    apply fold_raises _ AdmissionTotals.plannedRunners (fun entry => entry.2.toNat) _ _ _ matched _ _ _ done
    intro total item part next _ _ charged
    cases charged
    have one : part.2.toNat ≤ 1 := Bool.toNat_le part.2
    change total.plannedRunners + _ ≤ total.plannedRunners + 1
    omega
  · rw [← counted]
    apply fold_light _ AdmissionTotals.maxRunnerConcurrency (fun entry => entry.2.toNat)
      (fun entry => entry.2.toNat * contribution capacities.schedulerCapacity entry.1) _ _ _ matched grows _ _ _ done
    intro total item part next member related charged
    cases charged
    have width := cost_width room total part.1 (known member related) 1
    rw [← related.1] at width
    push_cast
    exact mul_le_mul_of_nonneg_left width (Int.natCast_nonneg _)

theorem plans_bound (plans : List (RunnerPlanTiming × BenchmarkDocument)) (valid : ∀ plan ∈ plans, Validated plan.2)
    (covered : ∀ plan ∈ plans, ¬ Short .binary64 zones plan.1 now) (numbers : List Nat)
    (occurring : List.Forall₂ (fun plan number => Occurs zones now plan.1 number) plans numbers) (total last : AdmissionTotals)
    (done : (plans.map fun plan => (plan.1, some plan.2)).foldlM (chargePlan zones capacities now) total = .ok last) :
    total.plannedRunners + (numbers.sum : Nat) ≤ last.plannedRunners ∧
      total.maxRunnerConcurrency ≤ last.maxRunnerConcurrency ∧
      ((((plans.zip numbers).map fun entry =>
          entry.2 * contribution capacities.schedulerCapacity entry.1.2).sum : Nat) : Int) ≤
        (numbers.sum : Nat) * last.maxRunnerConcurrency := by
  have matched := zip_matched _ (fun plan : RunnerPlanTiming × BenchmarkDocument => (plan.1, some plan.2)) plans numbers occurring
  have grows : ∀ (total : AdmissionTotals) item next, chargePlan zones capacities now total item = .ok next →
      total.maxRunnerConcurrency ≤ next.maxRunnerConcurrency := by
    intro total item next charged
    obtain ⟨_, _, same⟩ := (bind_ok _ _ _).mp charged
    cases same
    exact le_max_left _ _
  have counted : (plans.zip numbers).map (fun entry => entry.2) = numbers :=
    List.map_snd_zip occurring.length_eq.ge
  have known : ∀ {item : RunnerPlanTiming × Option BenchmarkDocument} {part : (RunnerPlanTiming × BenchmarkDocument) × Nat},
      item ∈ plans.map (fun plan => (plan.1, some plan.2)) → item = (part.1.1, some part.1.2) → part.1 ∈ plans := by
    rintro item part member rfl
    obtain ⟨plan, inPlans, same⟩ := List.mem_map.mp member
    cases plan
    cases same
    exact inPlans
  refine ⟨?_, fold_grows _ _ _ grows _ _ done, ?_⟩
  · rw [← counted]
    apply fold_raises _ AdmissionTotals.plannedRunners (fun entry => entry.2) _ _ _ matched _ _ _ done
    rintro total item part next member ⟨rfl, count, all, yielded, few⟩ charged
    obtain ⟨occurrences, isCharged, same⟩ := (bind_ok _ _ _).mp charged
    cases same
    have enough : (all : Int) ≤ occurrences := by
      by_contra less
      exact covered part.1 (known member rfl) ⟨occurrences, count, all, isCharged, yielded, not_le.mp less⟩
    change total.plannedRunners + _ ≤ total.plannedRunners + occurrences
    omega
  · have light := fold_light _ AdmissionTotals.maxRunnerConcurrency (fun entry => entry.2)
      (fun entry => entry.2 * contribution capacities.schedulerCapacity entry.1.2) _ _ _ matched grows
      (fun total item part next member related charged => by
        obtain ⟨rfl, _⟩ := related
        obtain ⟨occurrences, _, same⟩ := (bind_ok _ _ _).mp charged
        cases same
        have width := cost_width room total part.1.2 (valid part.1 (known member rfl)) occurrences
        push_cast
        exact mul_le_mul_of_nonneg_left width (Int.natCast_nonneg _)) _ _ done
    rwa [counted] at light

theorem definitions_bound (definitions : List (TaskRecipe × BenchmarkDocument))
    (valid : ∀ definition ∈ definitions, Validated definition.2) (nodes : List (List (List CompiledNodeRow)))
    (chosen : List.Forall₂ (fun definition instances =>
      List.Forall₂ (Chosen sha256 definition.1) (compiledInstances definition.1) instances) definitions nodes)
    (charges last : TaskCharges)
    (done : (definitions.map fun definition => (definition.1, some definition.2)).foldlM (chargeDefinition sha256 capacities)
      charges = .ok last) :
    charges.total.plannedRunners + ((nodes.map fun instances => (instances.map List.length).sum).sum : Nat) ≤
        last.total.plannedRunners ∧
      charges.total.maxRunnerConcurrency ≤ last.total.maxRunnerConcurrency ∧
      charges.peakRequests + (((definitions.zip nodes).map fun entry =>
          (entry.2.map (instanceLoad capacities.schedulerCapacity entry.1.2)).sum).sum : Nat) ≤ last.peakRequests ∧
      ((((definitions.zip nodes).map fun entry =>
          (entry.2.map (instanceLoad capacities.schedulerCapacity entry.1.2)).sum).sum : Nat) : Int) ≤
        ((nodes.map fun instances => (instances.map List.length).sum).sum : Nat) * last.total.maxRunnerConcurrency := by
  have matched := zip_matched _ (fun definition : TaskRecipe × BenchmarkDocument => (definition.1, some definition.2))
    definitions nodes chosen
  have grows : ∀ (charges : TaskCharges) item next, chargeDefinition sha256 capacities charges item = .ok next →
      charges.total.maxRunnerConcurrency ≤ next.total.maxRunnerConcurrency := by
    intro charges item next charged
    obtain ⟨_, _, charged⟩ := (bind_ok _ _ _).mp charged
    obtain ⟨_, _, same⟩ := (bind_ok _ _ _).mp charged
    cases same
    exact le_max_left _ _
  have counted : (definitions.zip nodes).map (fun entry => (entry.2.map List.length).sum) =
      nodes.map fun instances => (instances.map List.length).sum := by
    have instanced : (definitions.zip nodes).map Prod.snd = nodes := List.map_snd_zip chosen.length_eq.ge
    have read := congrArg (List.map fun instances : List (List CompiledNodeRow) => (instances.map List.length).sum) instanced
    rwa [List.map_map] at read
  have known : ∀ {item : TaskRecipe × Option BenchmarkDocument}
      {part : (TaskRecipe × BenchmarkDocument) × List (List CompiledNodeRow)},
      item ∈ definitions.map (fun definition => (definition.1, some definition.2)) → item = (part.1.1, some part.1.2) →
      part.1 ∈ definitions := by
    rintro item part member rfl
    obtain ⟨definition, inDefinitions, same⟩ := List.mem_map.mp member
    cases definition
    cases same
    exact inDefinitions
  have each : ∀ (charges : TaskCharges) (part : (TaskRecipe × BenchmarkDocument) × List (List CompiledNodeRow)) next,
      Validated part.1.2 → List.Forall₂ (Chosen sha256 part.1.1) (compiledInstances part.1.1) part.2 →
      chargeDefinition sha256 capacities charges (part.1.1, some part.1.2) = .ok next →
      charges.total.plannedRunners + ((part.2.map List.length).sum : Nat) ≤ next.total.plannedRunners ∧
        charges.peakRequests + ((part.2.map (instanceLoad capacities.schedulerCapacity part.1.2)).sum : Nat) ≤ next.peakRequests ∧
        ((part.2.map (instanceLoad capacities.schedulerCapacity part.1.2)).sum : Int) ≤
          ((part.2.map List.length).sum : Nat) * next.total.maxRunnerConcurrency := by
    intro charges part next isValid isChosen charged
    obtain ⟨_, accepted, charged⟩ := (bind_ok _ _ _).mp charged
    obtain ⟨expansion, estimated, same⟩ := (bind_ok _ _ _).mp charged
    cases same
    obtain ⟨peak, few, light⟩ := definition_bound sha256 part.1.1 part.1.2 capacities.schedulerCapacity room isValid accepted
      _ expansion estimated part.2 isChosen
    refine ⟨add_le_add_right (Int.ofNat_le.mpr few) _, add_le_add_right (Int.ofNat_le.mpr peak) _, ?_⟩
    have wider : (expansion.maxConcurrency : Int) ≤ max charges.total.maxRunnerConcurrency expansion.maxConcurrency :=
      le_max_right _ _
    exact (Int.ofNat_le.mpr light).trans (by rw [Nat.cast_mul]; exact mul_le_mul_of_nonneg_left wider (Int.natCast_nonneg _))
  refine ⟨?_, fold_grows _ (fun charges => charges.total.maxRunnerConcurrency) _ grows _ _ done, ?_, ?_⟩
  · rw [← counted]
    apply fold_raises _ (fun charges => charges.total.plannedRunners) (fun entry => (entry.2.map List.length).sum) _ _ _ matched
      _ _ _ done
    rintro charges item part next member ⟨rfl, isChosen⟩ charged
    exact (each charges part next (valid _ (known member rfl)) isChosen charged).1
  · apply fold_raises _ TaskCharges.peakRequests
      (fun entry => (entry.2.map (instanceLoad capacities.schedulerCapacity entry.1.2)).sum) _ _ _ matched _ _ _ done
    rintro charges item part next member ⟨rfl, isChosen⟩ charged
    exact (each charges part next (valid _ (known member rfl)) isChosen charged).2.1
  · rw [← counted]
    apply fold_light _ (fun charges => charges.total.maxRunnerConcurrency) (fun entry => (entry.2.map List.length).sum)
      (fun entry => (entry.2.map (instanceLoad capacities.schedulerCapacity entry.1.2)).sum) _ _ _ matched grows _ _ _ done
    rintro charges item part next member ⟨rfl, isChosen⟩ charged
    exact (each charges part next (valid _ (known member rfl)) isChosen charged).2.2

theorem covered_bounded (schedulerSlots : Nat) (workload : Workload BenchmarkDocument) (valid : workload.Valid)
    (covered : ∀ plan ∈ workload.plans, ¬ Short .binary64 zones plan.1 now) :
    Bounded sha256 zones capacities now schedulerSlots workload := by
  intro requested assessed configuration configured few
  rw [requestedConcurrency] at assessed
  by_cases noActor : capacities.rayActorMaxConcurrency < 1
  · rw [if_pos noActor] at assessed
    cases assessed
  rw [if_neg noActor, if_neg (by simp)] at assessed
  obtain ⟨ordinary, charged, assessed⟩ := (bind_ok _ _ _).mp assessed
  obtain ⟨planned, plansCharged, assessed⟩ := (bind_ok _ _ _).mp assessed
  obtain ⟨last, definitionsCharged, same⟩ := (bind_ok _ _ _).mp assessed
  cases same
  obtain ⟨runnerSize, runnerWidth, runnerLoad⟩ := runners_bound room workload.runners valid.runners configuration.runners
    configured.runners _ ordinary charged
  obtain ⟨planSize, planWidth, planLoad⟩ := plans_bound zones now room workload.plans valid.plans covered
    configuration.occurrences configured.occurrences ordinary planned plansCharged
  obtain ⟨nodeSize, nodeWidth, nodePeak, nodeLoad⟩ := definitions_bound sha256 room workload.definitions valid.definitions
    configuration.nodes configured.nodes _ last definitionsCharged
  rw [Configuration.size] at few
  rw [Configuration.load]
  generalize (configuration.runners.map Bool.toNat).sum = runners at *
  generalize configuration.occurrences.sum = occurrences at *
  generalize (configuration.nodes.map fun instances => (instances.map List.length).sum).sum = nodes at *
  have positive : 0 ≤ ordinary.maxRunnerConcurrency := runnerWidth
  -- Runners and plans stay under the product of their count and their widest.
  have early : (runners : Int) * ordinary.maxRunnerConcurrency ≤ runners * planned.maxRunnerConcurrency :=
    mul_le_mul_of_nonneg_left planWidth (Int.natCast_nonneg _)
  have counted : ((runners : Int) + occurrences) * planned.maxRunnerConcurrency ≤
      planned.plannedRunners * planned.maxRunnerConcurrency := by
    apply mul_le_mul_of_nonneg_right _ (positive.trans planWidth)
    simp only [Int.zero_add] at runnerSize
    linarith
  rw [add_mul] at counted
  -- All of them stay under the slots times the widest.
  have late : ((runners : Int) + occurrences) * planned.maxRunnerConcurrency ≤
      (runners + occurrences) * last.total.maxRunnerConcurrency :=
    mul_le_mul_of_nonneg_left nodeWidth (by omega)
  have bounded : ((runners : Int) + occurrences + nodes) * last.total.maxRunnerConcurrency ≤
      min last.total.plannedRunners schedulerSlots * last.total.maxRunnerConcurrency := by
    apply mul_le_mul_of_nonneg_right _ ((positive.trans planWidth).trans nodeWidth)
    simp only [Int.zero_add] at runnerSize nodeSize
    apply le_min
    · linarith
    · exact_mod_cast few
  rw [add_mul] at late bounded
  simp only at nodePeak
  rw [Nat.cast_add, Nat.cast_add]
  apply le_min
  · linarith
  · rw [add_mul] at bounded
    linarith

theorem short_unbounded (valid : capacities.Valid) (timing : RunnerPlanTiming) (short : Short .binary64 zones timing now) :
    ∃ schedulerSlots, ¬ Bounded sha256 zones capacities now schedulerSlots ⟨[], [(timing, .blank)], []⟩ := by
  obtain ⟨charged, count, number, isCharged, yielded, less⟩ := short
  refine ⟨number, fun bounded => ?_⟩
  have single : min (BenchmarkDocument.blank.workersOr capacities.schedulerCapacity) 1 = 1 := min_eq_right room
  have cost : benchmarkCost capacities.schedulerCapacity (some .blank) = ⟨1, 1, 0⟩ := congrArg (BenchmarkCost.mk 1 · 0) single
  have step : chargePlan zones capacities now ⟨0, 0, 0, 0⟩ (timing, some .blank) =
      .ok ⟨0 + charged, 0 + 1 * charged, max 0 1, 0 + 0⟩ := by
    rw [chargePlan, isCharged, cost]
    rfl
  have assessed : requestedConcurrency sha256 zones capacities now number none (Workload.known ⟨[], [(timing, .blank)], []⟩) =
      .ok (min ((0 + charged) * max 0 1) (min (0 + charged) number * max 0 1)) := by
    rw [requestedConcurrency, if_neg (Nat.not_lt.mpr valid.concurrency), if_neg (by simp)]
    exact (bind_ok _ _ _).mpr ⟨_, rfl, (bind_ok _ _ _).mpr ⟨_, (fold_ok _ _ _ _ _).mpr ⟨_, step, rfl⟩,
      (bind_ok _ _ _).mpr ⟨_, rfl, rfl⟩⟩⟩
  have configured : Configured sha256 zones now ⟨[], [(timing, .blank)], []⟩ ⟨[], [number], []⟩ :=
    ⟨rfl, .cons ⟨count, number, yielded, le_refl _⟩ .nil, .nil⟩
  have held := bounded _ assessed ⟨[], [number], []⟩ configured (by simp [Configuration.size])
  have unit : contribution capacities.schedulerCapacity .blank = 1 := single
  have load : Configuration.load capacities.schedulerCapacity ⟨[], [number], []⟩ ⟨[], [(timing, .blank)], []⟩ = number := by
    simp [Configuration.load, unit]
  rw [load] at held
  have fewer := held.trans (min_le_left _ _)
  rw [max_eq_right Int.one_nonneg, mul_one, zero_add] at fewer
  omega

omit room

theorem blank_validated : Validated .blank :=
  ⟨le_refl _, by simp [BenchmarkDocument.blank], by simp [BenchmarkDocument.blank], by simp [BenchmarkDocument.blank],
    fun paced => by cases paced⟩

theorem workload_bound (valid : capacities.Valid) (accepted : RunnerPlanTiming → Prop)
    (timings : ∀ timing, accepted timing → validateTiming .binary64 zones timing = .ok ())
    (forward : ∀ timing, accepted timing → timing.recurrence.kind = .calendar → timing.startsAt = none →
      ∀ zone, zones timing.timezone = some zone → ForwardDates zone now) :
    (∀ schedulerSlots (workload : Workload BenchmarkDocument), workload.Valid → (∀ plan ∈ workload.plans, accepted plan.1) →
      Bounded sha256 zones capacities now schedulerSlots workload) ↔
      ∀ timing, accepted timing → ¬ Shortfall .binary64 zones timing now := by
  have room := capacity_positive valid
  have same : ∀ timing, accepted timing → (Short .binary64 zones timing now ↔ Shortfall .binary64 zones timing now) := fun timing isAccepted =>
    short_shortfall zones timing ((accepted_timing _ zones timing).mp (timings timing isAccepted)) now (forward timing isAccepted)
  constructor
  · intro bounded timing isAccepted shortfall
    obtain ⟨schedulerSlots, unbounded⟩ := short_unbounded sha256 zones now room valid timing
      ((same timing isAccepted).mpr shortfall)
    apply unbounded (bounded schedulerSlots _ ⟨by simp, _, by simp⟩ _)
    · intro plan member
      cases List.mem_singleton.mp member
      exact blank_validated
    · intro plan member
      cases List.mem_singleton.mp member
      exact isAccepted
  · intro covered schedulerSlots workload isValid plans
    apply covered_bounded sha256 zones now room schedulerSlots workload isValid
    intro plan member short
    exact covered plan.1 (plans plan member) ((same plan.1 (plans plan member)).mp short)

end Bound

def soleCapacities : Capacities := ⟨none, 1, 64⟩

theorem sole_capacities : soleCapacities.Valid := ⟨by simp [soleCapacities], le_refl _, by decide⟩

theorem workload_bound_quarter :
    (∀ schedulerSlots (workload : Workload BenchmarkDocument), workload.Valid →
      (∀ plan ∈ workload.plans, plan.1 = quarterPlan) →
      Bounded (fun _ => 0) utcOnly soleCapacities 0 schedulerSlots workload) ↔
      ∀ timing, timing = quarterPlan → ¬ Shortfall .binary64 utcOnly timing 0 :=
  workload_bound (fun _ => 0) utcOnly 0 sole_capacities (· = quarterPlan) (fun _ same => same ▸ by decide +kernel)
    fun _ same calendar => by rw [same] at calendar; cases calendar

def noonWorkload : Workload BenchmarkDocument := ⟨[], [(noonPlan, .blank)], []⟩

theorem noon_plan_exceeds :
    noonWorkload.Valid ∧ validateTiming .binary64 utcOnly noonPlan = .ok () ∧
      requestedConcurrency (fun _ => 0) utcOnly soleCapacities 0 4 none noonWorkload.known = .ok 3 ∧
      ¬ Bounded (fun _ => 0) utcOnly soleCapacities 0 4 noonWorkload := by
  have assessed : requestedConcurrency (fun _ => 0) utcOnly soleCapacities 0 4 none noonWorkload.known = .ok 3 := by
    decide +kernel
  refine ⟨⟨by simp [noonWorkload], fun plan member => ?_, by simp [noonWorkload]⟩, by decide +kernel, assessed, fun bounded => ?_⟩
  · cases List.mem_singleton.mp member
    exact blank_validated
  · have four : Yielded .binary64 utcOnly noonPlan 0 10 4 := yielded_length _ _ _ _ _ _ (by decide +kernel)
    have configured : Configured (fun _ => 0) utcOnly 0 noonWorkload ⟨[], [4], []⟩ :=
      ⟨rfl, .cons ⟨10, 4, four, le_refl _⟩ .nil, .nil⟩
    have held := bounded 3 assessed _ configured (by decide)
    exact absurd held (by decide)

end LlmperfOrchestrator.Compiler.Admission

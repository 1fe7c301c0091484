import LlmperfOrchestrator.Preparation.Executable

set_option autoImplicit false

namespace LlmperfOrchestrator.Preparation

open Tables Compiler Draws Groups Rounding Outcomes

section Times

variable (logic : WorkflowTaskLogic) (step : RequestStep) (now : DateTime) (results : Dict String Completion)

theorem dependency_trigger_returns (created : Supported logic.createdAt) (current : Supported now)
    (completed : ∀ id completion, Dict.get id results = some completion → Supported completion.completedAt)
    (positive : 0 ≤ step.delaySeconds) :
    (∃ eligibility, dependencyTrigger step.dependencies logic.createdAt step.delaySeconds now results = .ok eligibility) ↔
      (dependencyFailed step.dependencies results = false → dependencyMissing step.dependencies results = false →
        (anchorOf step.dependencies logic.createdAt results).instant + microseconds step.delaySeconds ≤ lastInstant) := by
  rw [dependencyTrigger]
  by_cases failed : dependencyFailed step.dependencies results = true
  · rw [if_pos failed, failed]
    exact ⟨fun _ absent => absurd absent (by decide), fun _ => ⟨_, rfl⟩⟩
  · rw [if_neg failed]
    by_cases missing : dependencyMissing step.dependencies results = true
    · rw [if_pos missing, missing]
      exact ⟨fun _ _ absent => absurd absent (by decide), fun _ => ⟨_, rfl⟩⟩
    · rw [if_neg missing]
      have anchored := anchor_supported step.dependencies logic.createdAt results created completed
      rw [delay_trigger_returns _ _ now positive anchored current]
      simp only [Bool.not_eq_true] at failed missing
      simp [failed, missing]

theorem root_eligibility_returns (created : Supported logic.createdAt) (current : Supported now) (positive : 0 ≤ step.delaySeconds)
    (aware : ∀ due ∈ step.dueAt, due.offset ≠ none) (root : step.dependencies = []) :
    (∃ eligibility, logic.eligibility step now results = .ok eligibility) ↔
      logic.createdAt.wall + microseconds step.delaySeconds ≤ lastInstant ∧
      logic.createdAt.instant + microseconds step.delaySeconds ≤ lastInstant ∧ ∀ due ∈ step.dueAt, due.instant ≤ lastInstant := by
  have forward := microseconds_nonneg step.delaySeconds positive
  have started := created.started
  have ended := created.ended
  have early : endOf2100 ≤ lastInstant := by decide
  -- The chosen time, once the delay has been added.
  have chosen : ∀ span delayed, timedelta step.delaySeconds = .ok span → logic.createdAt.plus span = .ok delayed →
      ((∃ eligibility, dateTrigger (delayed.later (step.dueAt.getD logic.createdAt)) now = .ok eligibility) ↔
        logic.createdAt.instant + microseconds step.delaySeconds ≤ lastInstant ∧ ∀ due ∈ step.dueAt, due.instant ≤ lastInstant) := by
    intro span delayed measured added
    have length := timedelta_value _ span measured
    obtain ⟨instant, offset⟩ := plus_instant _ _ _ added
    have known : (step.dueAt.getD logic.createdAt).offset ≠ none := by
      cases given : step.dueAt with
      | none => exact created.aware
      | some due => exact aware due given
    rw [date_trigger_returns _ now (later_aware _ _ (by rw [offset]; exact created.aware) known) current, later_instant]
    cases given : step.dueAt with
    | none =>
        simp only [Option.getD_none, Option.mem_def, reduceCtorEq, false_implies, implies_true, and_true]
        omega
    | some due =>
        simp only [Option.getD_some, Option.mem_def, Option.some.injEq, forall_eq']
        omega
  rw [WorkflowTaskLogic.eligibility, if_pos root, ← timedelta_plus logic.createdAt step.delaySeconds positive]
  constructor
  · intro returned
    obtain ⟨eligibility, returned⟩ := returned
    obtain ⟨span, measured, returned⟩ := (bind_ok _ _ _).mp returned
    obtain ⟨delayed, added, decided⟩ := (bind_ok _ _ _).mp returned
    exact ⟨⟨delayed, (bind_ok _ _ _).mpr ⟨span, measured, added⟩⟩, (chosen span delayed measured added).mp ⟨eligibility, decided⟩⟩
  · intro fits
    obtain ⟨⟨delayed, returned⟩, fits⟩ := fits
    obtain ⟨span, measured, added⟩ := (bind_ok _ _ _).mp returned
    obtain ⟨eligibility, decided⟩ := (chosen span delayed measured added).mpr fits
    exact ⟨eligibility, (bind_ok _ _ _).mpr ⟨span, measured, (bind_ok _ _ _).mpr ⟨delayed, added, decided⟩⟩⟩

theorem delay_trigger_due (anchor : DateTime) (seconds : Rat) (eligibility : Eligibility)
    (decided : delayTrigger anchor seconds now = .ok eligibility) :
    eligibility.blocked = false ∧ ∃ due, eligibility.dueAt = some due ∧ due.instant = anchor.instant + microseconds seconds ∧
      due.offset ≠ none := by
  obtain ⟨utc, converted, decided⟩ := (bind_ok _ _ _).mp decided
  obtain ⟨span, measured, decided⟩ := (bind_ok _ _ _).mp decided
  obtain ⟨due, added, decided⟩ := (bind_ok _ _ _).mp decided
  have length := timedelta_value seconds span measured
  obtain ⟨same, _, _⟩ := utc_instant_same anchor utc converted
  obtain ⟨instant, _⟩ := plus_instant utc due span added
  obtain ⟨open_, named, read, placed, aware⟩ := date_trigger_due due now eligibility decided
  exact ⟨open_, named, read, by omega, aware⟩

theorem dependent_eligibility_returns (created : Supported logic.createdAt) (current : Supported now)
    (completed : ∀ id completion, Dict.get id results = some completion → Supported completion.completedAt)
    (positive : 0 ≤ step.delaySeconds) (aware : ∀ due ∈ step.dueAt, due.offset ≠ none) (dependent : step.dependencies ≠ []) :
    (∃ eligibility, logic.eligibility step now results = .ok eligibility) ↔
      (dependencyFailed step.dependencies results = false → dependencyMissing step.dependencies results = false →
        (anchorOf step.dependencies logic.createdAt results).instant + microseconds step.delaySeconds ≤ lastInstant ∧
          ∀ due ∈ step.dueAt, due.instant ≤ lastInstant) := by
  have triggered := dependency_trigger_returns logic step now results created current completed positive
  have anchored := anchor_supported step.dependencies logic.createdAt results created completed
  have forward := microseconds_nonneg step.delaySeconds positive
  have started := anchored.started
  rw [WorkflowTaskLogic.eligibility, if_neg dependent]
  by_cases failed : dependencyFailed step.dependencies results = true
  · refine ⟨fun _ absent => absurd (failed.symm.trans absent) (by decide), fun _ => ⟨⟨false, none, true⟩,
       (bind_ok _ _ _).mpr ⟨_, if_pos failed, rfl⟩⟩⟩
  · by_cases missing : dependencyMissing step.dependencies results = true
    · refine ⟨fun _ _ absent => absurd (missing.symm.trans absent) (by decide),
        fun _ => ⟨⟨false, none, false⟩, (bind_ok _ _ _).mpr ⟨_, (if_neg failed).trans (if_pos missing), rfl⟩⟩⟩
    · have delayed : dependencyTrigger step.dependencies logic.createdAt step.delaySeconds now results =
          delayTrigger (anchorOf step.dependencies logic.createdAt results) step.delaySeconds now :=
        (if_neg failed).trans (if_neg missing)
      simp only [Bool.not_eq_true] at failed missing
      simp only [failed, missing, true_implies] at triggered ⊢
      -- The chosen time, once the trigger has named its own.
      have chosen : ∀ dependency, dependencyTrigger step.dependencies logic.createdAt step.delaySeconds now results = .ok dependency →
          ∃ named, dependency.dueAt = some named ∧ dependency.blocked = false ∧
            ((∃ eligibility, dateTrigger (named.later (step.dueAt.getD named)) now = .ok eligibility) ↔
              (anchorOf step.dependencies logic.createdAt results).instant + microseconds step.delaySeconds ≤ lastInstant ∧
                ∀ due ∈ step.dueAt, due.instant ≤ lastInstant) := by
        intro dependency decided
        rw [delayed] at decided
        obtain ⟨open_, named, read, instant, offset⟩ := delay_trigger_due now _ _ dependency decided
        refine ⟨named, read, open_, ?_⟩
        have known : (step.dueAt.getD named).offset ≠ none := by
          cases given : step.dueAt with
          | none => exact offset
          | some due => exact aware due given
        rw [date_trigger_returns _ now (later_aware _ _ offset known) current, later_instant]
        cases given : step.dueAt with
        | none =>
            simp only [Option.getD_none, Option.mem_def, reduceCtorEq, false_implies, implies_true, and_true]
            omega
        | some due =>
            simp only [Option.getD_some, Option.mem_def, Option.some.injEq, forall_eq']
            omega
      constructor
      · intro returned
        obtain ⟨eligibility, returned⟩ := returned
        obtain ⟨dependency, decided, returned⟩ := (bind_ok _ _ _).mp returned
        obtain ⟨named, read, open_, fits⟩ := chosen dependency decided
        rw [read] at returned
        dsimp only at returned
        rw [if_neg (by simp [open_])] at returned
        exact fits.mp ⟨eligibility, returned⟩
      · intro fits
        obtain ⟨dependency, decided⟩ := triggered.mpr fits.1
        obtain ⟨named, read, open_, decides⟩ := chosen dependency decided
        obtain ⟨eligibility, returned⟩ := decides.mpr fits
        refine ⟨eligibility, (bind_ok _ _ _).mpr ⟨dependency, decided, ?_⟩⟩
        rw [read]
        dsimp only
        rw [if_neg (by simp [open_])]
        exact returned

end Times

theorem worker_step_timed (gen : Generator) (sha256 : Sha256) (benchmark : Benchmark) (calibrated : Bool) (accepted : benchmark.Accepted)
    (steps : List RequestStep) (returned : workerSteps gen sha256 benchmark calibrated = .ok steps) (step : RequestStep)
    (member : step ∈ steps) : 0 ≤ step.delaySeconds ∧ ∀ due ∈ step.dueAt, due.offset ≠ none := by
  have built := steps_from_built gen sha256 benchmark calibrated _ 0 [] steps returned
  obtain ⟨coordinate, listed, origin⟩ := related_mem _ _ _ built step member
  have sound := coordinates_sound gen benchmark accepted coordinate listed
  rw [built_delay benchmark coordinate step origin, built_due benchmark coordinate step origin]
  exact ⟨sound.delay, sound.due⟩

-- The readiness of a step, its dependency trigger and the deadline of its
-- request come out without an overflow.
structure TimesReturn (logic : WorkflowTaskLogic) (step : RequestStep) (now : DateTime) (results : Dict String Completion)
    (startedAt timeoutSeconds loopTime : Rat) : Prop where
  eligibility : ∃ eligibility, logic.eligibility step now results = .ok eligibility
  trigger : ∃ eligibility, dependencyTrigger step.dependencies logic.createdAt step.delaySeconds now results = .ok eligibility
  deadline : ∃ deadline, requestDeadline startedAt timeoutSeconds loopTime now = .ok deadline

structure TimesFit (logic : WorkflowTaskLogic) (step : RequestStep) (now : DateTime) (results : Dict String Completion)
    (startedAt timeoutSeconds loopTime : Rat) : Prop where
  root : step.dependencies = [] → logic.createdAt.wall + microseconds step.delaySeconds ≤ lastInstant
  anchored : dependencyFailed step.dependencies results = false → dependencyMissing step.dependencies results = false →
    (anchorOf step.dependencies logic.createdAt results).instant + microseconds step.delaySeconds ≤ lastInstant
  due : dependencyFailed step.dependencies results = false → dependencyMissing step.dependencies results = false →
    ∀ due ∈ step.dueAt, due.instant ≤ lastInstant
  deadline : now.wall + microseconds (max 0 (startedAt + timeoutSeconds - loopTime)) ≤ lastInstant

theorem times_return (logic : WorkflowTaskLogic) (step : RequestStep) (now : DateTime) (results : Dict String Completion)
    (startedAt timeoutSeconds loopTime : Rat) (created : Supported logic.createdAt) (current : Supported now)
    (completed : ∀ id completion, Dict.get id results = some completion → Supported completion.completedAt)
    (positive : 0 ≤ step.delaySeconds) (aware : ∀ due ∈ step.dueAt, due.offset ≠ none) :
    TimesReturn logic step now results startedAt timeoutSeconds loopTime ↔
      TimesFit logic step now results startedAt timeoutSeconds loopTime := by
  have deadline := timedelta_plus now (max 0 (startedAt + timeoutSeconds - loopTime)) (le_max_left _ _)
  have triggered := dependency_trigger_returns logic step now results created current completed positive
  by_cases root : step.dependencies = []
  · have eligible := root_eligibility_returns logic step now results created current positive aware root
    have free : dependencyFailed step.dependencies results = false ∧ dependencyMissing step.dependencies results = false := by
      rw [root]
      exact ⟨rfl, rfl⟩
    constructor
    · intro returns
      obtain ⟨wall, _, due⟩ := eligible.mp returns.eligibility
      exact ⟨fun _ => wall, triggered.mp returns.trigger, fun _ _ => due, deadline.mp returns.deadline⟩
    · intro fits
      have anchor : anchorOf step.dependencies logic.createdAt results = logic.createdAt := by rw [root]; rfl
      have anchored := fits.anchored free.1 free.2
      rw [anchor] at anchored
      exact ⟨eligible.mpr ⟨fits.root root, anchored, fits.due free.1 free.2⟩, triggered.mpr fits.anchored,
        deadline.mpr fits.deadline⟩
  · have eligible := dependent_eligibility_returns logic step now results created current completed positive aware root
    constructor
    · intro returns
      have known := eligible.mp returns.eligibility
      exact ⟨fun none => absurd none root, triggered.mp returns.trigger, fun unfailed complete => (known unfailed complete).2,
        deadline.mp returns.deadline⟩
    · intro fits
      exact ⟨eligible.mpr fun unfailed complete => ⟨fits.anchored unfailed complete, fits.due unfailed complete⟩,
        triggered.mpr fits.anchored, deadline.mpr fits.deadline⟩

-- Validation bounds neither a delay, nor the time of a step, nor the timeout.
theorem runtime_times_return (gen : Generator) (sha256 : Sha256) (benchmark : Benchmark) (calibrated : Bool)
    (accepted : benchmark.Accepted) (steps : List RequestStep) (returned : workerSteps gen sha256 benchmark calibrated = .ok steps)
    (step : RequestStep) (member : step ∈ steps) (createdAt now : DateTime) (created : Supported createdAt)
    (current : Supported now) (results : Dict String Completion)
    (completed : ∀ id completion, Dict.get id results = some completion → Supported completion.completedAt)
    (startedAt loopTime : Rat) :
    TimesReturn ⟨steps, createdAt⟩ step now results startedAt benchmark.timeout.seconds loopTime ↔
      TimesFit ⟨steps, createdAt⟩ step now results startedAt benchmark.timeout.seconds loopTime := by
  obtain ⟨positive, aware⟩ := worker_step_timed gen sha256 benchmark calibrated accepted steps returned step member
  exact times_return ⟨steps, createdAt⟩ step now results startedAt benchmark.timeout.seconds loopTime created current completed
    positive aware

-- The start of the year 2026, in UTC.
def newYear : DateTime := ⟨739616 * dayMicroseconds, some 0, by decide⟩

theorem new_year_supported : Supported newYear := ⟨by decide, by decide, by decide⟩

def delayedBenchmark (after : Duration) : Benchmark :=
  { turnsBenchmark 80 with plan := ⟨1, none, "default", some [⟨"ask", none, [], after, none⟩]⟩ }

theorem delayed_accepted (after : Duration) (fields : (delayedBenchmark after).validFields = true) :
    (delayedBenchmark after).Accepted :=
  ⟨fields, rfl, rfl, rfl, rfl, fun entry listed => by cases listed⟩

theorem delayed_steps (after : Duration) : ∃ step, workerSteps levelDraws (fun _ => 0) (delayedBenchmark after) true = .ok [step] ∧
    step.dependencies = [] ∧ step.delaySeconds = after.seconds ∧ step.dueAt = none := by
  have draws : ∀ k coordinate, ((delayedBenchmark after).coordinates levelDraws)[k]? = some coordinate →
      FiniteDraw levelDraws (fun _ => 0) (delayedBenchmark after) (0 + k) coordinate := by
    intro k coordinate _ context _ overflow
    have drawn := turns_draw (Benchmark.seedsOf (fun _ => 0) (delayedBenchmark after) context coordinate
      (coordinate.inputName (delayedBenchmark after).plan)).1 (0 + k)
    change Benchmark.outputDraw levelDraws (fun _ => 0) (turnsBenchmark 80) _ _ = none at overflow
    rw [drawn] at overflow
    cases overflow
  obtain ⟨steps, returned⟩ := (steps_from_returns levelDraws (fun _ => 0) (delayedBenchmark after) true _ 0 []
    fun k _ => ⟨none, rfl⟩).mpr draws
  have built := steps_from_built levelDraws (fun _ => 0) (delayedBenchmark after) true _ 0 [] steps returned
  have only : (delayedBenchmark after).coordinates levelDraws = [.step ⟨"ask", some "default", [], after, none⟩] := rfl
  rw [only] at built
  cases built with
  | cons here rest =>
      cases rest
      refine ⟨_, returned, ?_, ?_, ?_⟩
      · exact built_dependencies _ _ _ here
      · exact built_delay _ _ _ here
      · exact built_due _ _ _ here

theorem delayed_times_return : ∃ steps step, workerSteps levelDraws (fun _ => 0) (delayedBenchmark ⟨1, .s⟩) true = .ok steps ∧
    step ∈ steps ∧ TimesReturn ⟨steps, newYear⟩ step newYear [] 0 90 1 := by
  obtain ⟨step, returned, root, delay, due⟩ := delayed_steps ⟨1, .s⟩
  have accepted := delayed_accepted ⟨1, .s⟩ (by decide +kernel)
  refine ⟨[step], step, returned, List.mem_singleton_self step, ?_⟩
  have timeout : (90 : Rat) = (delayedBenchmark ⟨1, .s⟩).timeout.seconds := by decide +kernel
  rw [timeout]
  refine (runtime_times_return levelDraws (fun _ => 0) (delayedBenchmark ⟨1, .s⟩) true accepted [step] returned step
    (List.mem_singleton_self step) newYear newYear new_year_supported new_year_supported [] (fun id completion found => by cases found)
    0 1).mpr ?_
  have fits : newYear.instant + microseconds (Duration.seconds ⟨1, .s⟩) ≤ lastInstant := by decide +kernel
  constructor
  · intro _
    rw [delay]
    exact fits
  · intro _ _
    rw [root, delay]
    exact fits
  · intro _ _ time given
    rw [due] at given
    cases given
  · decide +kernel

-- A delay of 10 ** 15 seconds is finite and nonnegative, and no timedelta.
theorem long_delay_overflows : (delayedBenchmark ⟨10 ^ 15, .s⟩).Accepted ∧ Supported newYear ∧
    ∃ steps step, workerSteps levelDraws (fun _ => 0) (delayedBenchmark ⟨10 ^ 15, .s⟩) true = .ok steps ∧ step ∈ steps ∧
      WorkflowTaskLogic.eligibility ⟨steps, newYear⟩ step newYear [] = .error .timedelta := by
  obtain ⟨step, returned, root, delay, _⟩ := delayed_steps ⟨10 ^ 15, .s⟩
  refine ⟨delayed_accepted _ (by decide +kernel), new_year_supported, [step], step, returned, List.mem_singleton_self step, ?_⟩
  have overflow : timedelta (Duration.seconds ⟨10 ^ 15, .s⟩) = .error .timedelta := by
    rw [timedelta]
    exact if_neg (by decide +kernel)
  rw [WorkflowTaskLogic.eligibility, if_pos root, delay, overflow]
  rfl

end LlmperfOrchestrator.Preparation

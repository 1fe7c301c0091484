import LlmperfOrchestrator.Preparation.WorkerSteps

set_option autoImplicit false

namespace LlmperfOrchestrator.Preparation

open Tables Rounding Outcomes

-- The checks of WorkflowTaskLogic.__init__ on one step, with the steps before it.
def checkStep (visited : List String) (step : RequestStep) : Except String Unit :=
  if step.stepId = "" ∨ ¬ step.dependencies ⊆ visited then .error "Worker dependencies must refer to earlier steps"
  else if ¬ step.messageSources ⊆ step.dependencies then .error "message sources must name a direct dependency"
  else if step.delaySeconds < 0 then .error "Worker delays must be finite and nonnegative"
  else if step.dueAt.any fun due => due.offset.isNone then .error "Worker due time must include a UTC offset"
  else .ok ()

def checkWorkflow : List String → List RequestStep → Except String Unit
  | _, [] => .ok ()
  | visited, step :: rest => do
      checkStep visited step
      checkWorkflow (step.stepId :: visited) rest

structure WorkflowTaskLogic where
  steps : List RequestStep
  createdAt : DateTime
deriving DecidableEq

def workflowTaskLogic (steps : List RequestStep) (createdAt : DateTime) : Except String WorkflowTaskLogic :=
  if ¬ (steps.map RequestStep.stepId).Nodup then .error "Worker step IDs must be unique within a Runner"
  else do
    checkWorkflow [] steps
    .ok ⟨steps, createdAt⟩

structure SoundStep (visited : List String) (step : RequestStep) : Prop where
  named : step.stepId ≠ ""
  earlier : step.dependencies ⊆ visited
  sources : step.messageSources ⊆ step.dependencies
  delay : 0 ≤ step.delaySeconds
  due : ∀ due ∈ step.dueAt, due.offset ≠ none

theorem check_step_sound (visited : List String) (step : RequestStep) (sound : SoundStep visited step) :
    checkStep visited step = .ok () := by
  rw [checkStep, if_neg, if_neg (not_not.mpr sound.sources), if_neg (not_lt.mpr sound.delay), if_neg]
  · intro naive
    obtain ⟨due, given, none⟩ := (Option.any_eq_true _ _).mp naive
    exact sound.due due given (Option.isNone_iff_eq_none.mp none)
  · rintro (unnamed | late)
    · exact sound.named unnamed
    · exact late sound.earlier

theorem check_workflow_sound (visited : List String) (steps : List RequestStep)
    (sound : ∀ before step after, steps = before ++ step :: after →
      SoundStep (visited ++ before.map RequestStep.stepId) step) :
    checkWorkflow visited steps = .ok () := by
  induction steps generalizing visited with
  | nil => rfl
  | cons step rest ih =>
      have first := sound [] step rest rfl
      rw [List.map_nil, List.append_nil] at first
      have later : checkWorkflow (step.stepId :: visited) rest = .ok () := by
        apply ih
        intro before other after split
        have known := sound (step :: before) other after (by rw [split, List.cons_append])
        refine ⟨known.named, fun name member => ?_, known.sources, known.delay, known.due⟩
        have place := known.earlier member
        simp only [List.map_cons, List.mem_append, List.mem_cons] at place ⊢
        tauto
      rw [checkWorkflow, check_step_sound visited step first]
      exact later

theorem workflow_task_logic_sound (steps : List RequestStep) (createdAt : DateTime)
    (distinct : (steps.map RequestStep.stepId).Nodup)
    (sound : ∀ before step after, steps = before ++ step :: after → SoundStep (before.map RequestStep.stepId) step) :
    workflowTaskLogic steps createdAt = .ok ⟨steps, createdAt⟩ := by
  have checked : checkWorkflow [] steps = .ok () := by
    apply check_workflow_sound
    intro before step after split
    rw [List.nil_append]
    exact sound before step after split
  rw [workflowTaskLogic, if_neg (not_not.mpr distinct), checked]
  rfl

inductive TimeError where
  | naive | timedelta | datetime
deriving DecidableEq, Repr

def dayMicroseconds : Int := 86400000000

-- timedelta(seconds=seconds), in microseconds.
def microseconds (seconds : Rat) : Int := roundHalfEven (seconds * 1000000)

def timedelta (seconds : Rat) : Except TimeError Int :=
  let days := microseconds seconds / dayMicroseconds
  if -999999999 ≤ days ∧ days ≤ 999999999 then .ok (microseconds seconds) else .error .timedelta

namespace DateTime

-- The instant of an aware time, on the UTC wall clock.
def instant (time : DateTime) : Int := time.wall - time.offset.getD 0

def plus (time : DateTime) (span : Int) : Except TimeError DateTime :=
  if supported : 0 ≤ time.wall + span ∧ time.wall + span ≤ lastInstant then .ok ⟨time.wall + span, time.offset, supported⟩
  else .error .datetime

def utcInstant (time : DateTime) : Except TimeError DateTime :=
  if time.offset = none then .error .naive
  else if supported : 0 ≤ time.instant ∧ time.instant ≤ lastInstant then .ok ⟨time.instant, some 0, supported⟩
  else .error .datetime

-- max(first, second) of aware times keeps the first of two equal ones.
def later (first second : DateTime) : DateTime := if first.instant < second.instant then second else first

def latest (first : DateTime) (others : List DateTime) : DateTime := others.foldl later first

end DateTime

structure Completion where
  succeeded : Bool
  completedAt : DateTime
deriving DecidableEq, Repr

structure Eligibility where
  ready : Bool
  dueAt : Option DateTime
  blocked : Bool
deriving DecidableEq, Repr

def dateTrigger (dueAt now : DateTime) : Except TimeError Eligibility := do
  let dueAt ← dueAt.utcInstant
  let now ← now.utcInstant
  .ok ⟨dueAt.instant ≤ now.instant, some dueAt, false⟩

def delayTrigger (anchor : DateTime) (seconds : Rat) (now : DateTime) : Except TimeError Eligibility := do
  let anchor ← anchor.utcInstant
  let span ← timedelta seconds
  let dueAt ← anchor.plus span
  dateTrigger dueAt now

-- max(completed_at of the dependencies, default=created_at)
def anchorOf (dependencies : List String) (createdAt : DateTime) (completions : Dict String Completion) : DateTime :=
  match (dependencies.filterMap fun id => Dict.get id completions).map Completion.completedAt with
  | [] => createdAt
  | first :: others => DateTime.latest first others

def dependencyFailed (dependencies : List String) (completions : Dict String Completion) : Bool :=
  dependencies.any fun id => (Dict.get id completions).any fun completion => ¬ completion.succeeded

def dependencyMissing (dependencies : List String) (completions : Dict String Completion) : Bool :=
  dependencies.any fun id => (Dict.get id completions).isNone

def dependencyTrigger (dependencies : List String) (createdAt : DateTime) (seconds : Rat) (now : DateTime)
    (completions : Dict String Completion) : Except TimeError Eligibility :=
  if dependencyFailed dependencies completions then .ok ⟨false, none, true⟩
  else if dependencyMissing dependencies completions then .ok ⟨false, none, false⟩
  else delayTrigger (anchorOf dependencies createdAt completions) seconds now

def WorkflowTaskLogic.eligibility (logic : WorkflowTaskLogic) (step : RequestStep) (now : DateTime)
    (results : Dict String Completion) : Except TimeError Eligibility :=
  if step.dependencies = [] then do
    let span ← timedelta step.delaySeconds
    let delayed ← logic.createdAt.plus span
    dateTrigger (delayed.later (step.dueAt.getD logic.createdAt)) now
  else do
    let dependency ← dependencyTrigger step.dependencies logic.createdAt step.delaySeconds now results
    match dependency.dueAt with
    | none => .ok dependency
    | some due => if dependency.blocked then .ok dependency else dateTrigger (due.later (step.dueAt.getD due)) now

def requestDeadline (startedAt timeoutSeconds loopTime : Rat) (now : DateTime) : Except TimeError DateTime := do
  let span ← timedelta (max 0 (startedAt + timeoutSeconds - loopTime))
  now.plus span

-- The first microsecond after the year 2100.
def endOf2100 : Int := 767009 * dayMicroseconds

structure Supported (time : DateTime) : Prop where
  aware : time.offset ≠ none
  started : 0 ≤ time.instant
  ended : time.instant < endOf2100

theorem microseconds_nonneg (seconds : Rat) (positive : 0 ≤ seconds) : 0 ≤ microseconds seconds :=
  round_at_least 0 _ (by simpa using positive)

theorem timedelta_value (seconds : Rat) (span : Int) (measured : timedelta seconds = .ok span) : span = microseconds seconds := by
  rw [timedelta] at measured
  split at measured <;> cases measured
  rfl

theorem timedelta_plus (time : DateTime) (seconds : Rat) (positive : 0 ≤ seconds) :
    (∃ next, (do let span ← timedelta seconds; time.plus span) = Except.ok next) ↔
      time.wall + microseconds seconds ≤ lastInstant := by
  have started := time.supported.1
  have forward := microseconds_nonneg seconds positive
  constructor
  · intro returned
    obtain ⟨next, returned⟩ := returned
    rw [timedelta] at returned
    split at returned
    · change DateTime.plus time (microseconds seconds) = .ok next at returned
      rw [DateTime.plus] at returned
      split at returned
      · rename_i supported
        exact supported.2
      · cases returned
    · cases returned
  · intro fits
    have few : -999999999 ≤ microseconds seconds / dayMicroseconds ∧ microseconds seconds / dayMicroseconds ≤ 999999999 := by
      simp only [lastInstant, dayMicroseconds] at fits ⊢
      omega
    refine ⟨⟨time.wall + microseconds seconds, time.offset, by omega, fits⟩, ?_⟩
    rw [timedelta, if_pos few]
    exact dif_pos ⟨by omega, fits⟩

theorem plus_instant (time next : DateTime) (span : Int) (added : time.plus span = .ok next) :
    next.instant = time.instant + span ∧ next.offset = time.offset := by
  rw [DateTime.plus] at added
  split at added
  · cases added
    refine ⟨?_, rfl⟩
    simp only [DateTime.instant]
    omega
  · cases added

theorem utc_instant_returns (time : DateTime) (aware : time.offset ≠ none) :
    (∃ utc, time.utcInstant = .ok utc) ↔ 0 ≤ time.instant ∧ time.instant ≤ lastInstant := by
  rw [DateTime.utcInstant, if_neg aware]
  constructor
  · intro returned
    obtain ⟨utc, returned⟩ := returned
    split at returned
    · assumption
    · cases returned
  · intro supported
    exact ⟨_, dif_pos supported⟩

theorem utc_instant_same (time utc : DateTime) (converted : time.utcInstant = .ok utc) :
    utc.instant = time.instant ∧ utc.wall = time.instant ∧ utc.offset = some 0 := by
  rw [DateTime.utcInstant] at converted
  split at converted
  · cases converted
  · split at converted
    · cases converted
      exact ⟨Int.sub_zero _, rfl, rfl⟩
    · cases converted

theorem supported_utc (time : DateTime) (supported : Supported time) : ∃ utc, time.utcInstant = .ok utc := by
  have ended := supported.ended
  refine (utc_instant_returns time supported.aware).mpr ⟨supported.started, ?_⟩
  simp only [endOf2100, dayMicroseconds, lastInstant] at ended ⊢
  omega

theorem date_trigger_returns (due now : DateTime) (aware : due.offset ≠ none) (current : Supported now) :
    (∃ eligibility, dateTrigger due now = .ok eligibility) ↔ 0 ≤ due.instant ∧ due.instant ≤ lastInstant := by
  rw [← utc_instant_returns due aware]
  constructor
  · intro returned
    obtain ⟨eligibility, returned⟩ := returned
    obtain ⟨utc, converted, _⟩ := (bind_ok _ _ _).mp returned
    exact ⟨utc, converted⟩
  · intro converted
    obtain ⟨utc, converted⟩ := converted
    obtain ⟨clock, read⟩ := supported_utc now current
    exact ⟨_, (bind_ok _ _ _).mpr ⟨utc, converted, (bind_ok _ _ _).mpr ⟨clock, read, rfl⟩⟩⟩

theorem date_trigger_due (due now : DateTime) (eligibility : Eligibility) (decided : dateTrigger due now = .ok eligibility) :
    eligibility.blocked = false ∧ ∃ utc, eligibility.dueAt = some utc ∧ utc.instant = due.instant ∧ utc.offset ≠ none := by
  obtain ⟨utc, converted, decided⟩ := (bind_ok _ _ _).mp decided
  obtain ⟨clock, _, decided⟩ := (bind_ok _ _ _).mp decided
  cases decided
  obtain ⟨same, _, aware⟩ := utc_instant_same due utc converted
  exact ⟨rfl, utc, rfl, same, by simp [aware]⟩

theorem later_instant (first second : DateTime) : (first.later second).instant = max first.instant second.instant := by
  rw [DateTime.later]
  split <;> omega

theorem later_aware (first second : DateTime) (aware : first.offset ≠ none) (other : second.offset ≠ none) :
    (first.later second).offset ≠ none := by
  rw [DateTime.later]
  split
  · exact other
  · exact aware

theorem later_choice (first second : DateTime) : first.later second = first ∨ first.later second = second := by
  rw [DateTime.later]
  split
  · exact .inr rfl
  · exact .inl rfl

theorem latest_listed (first : DateTime) (others : List DateTime) : DateTime.latest first others ∈ first :: others := by
  induction others generalizing first with
  | nil => exact List.mem_singleton_self _
  | cons next rest ih =>
      change DateTime.latest (first.later next) rest ∈ first :: next :: rest
      rcases List.mem_cons.mp (ih (first.later next)) with here | deeper
      · rw [here]
        rcases later_choice first next with same | same <;> simp [same]
      · exact List.mem_cons_of_mem _ (List.mem_cons_of_mem _ deeper)

theorem anchor_supported (dependencies : List String) (createdAt : DateTime) (completions : Dict String Completion)
    (created : Supported createdAt) (completed : ∀ id completion, Dict.get id completions = some completion → Supported completion.completedAt) :
    Supported (anchorOf dependencies createdAt completions) := by
  rw [anchorOf]
  split
  · exact created
  · rename_i first others listed
    have member := latest_listed first others
    rw [← listed] at member
    obtain ⟨completion, found, same⟩ := List.mem_map.mp member
    obtain ⟨id, _, read⟩ := List.mem_filterMap.mp found
    exact same ▸ completed id completion read

theorem delay_trigger_returns (anchor : DateTime) (seconds : Rat) (now : DateTime) (positive : 0 ≤ seconds)
    (supported : Supported anchor) (current : Supported now) :
    (∃ eligibility, delayTrigger anchor seconds now = .ok eligibility) ↔ anchor.instant + microseconds seconds ≤ lastInstant := by
  obtain ⟨utc, converted⟩ := supported_utc anchor supported
  obtain ⟨same, wall, aware⟩ := utc_instant_same anchor utc converted
  have forward := microseconds_nonneg seconds positive
  have started := supported.started
  have fits := timedelta_plus utc seconds positive
  rw [wall] at fits
  rw [← fits]
  constructor
  · intro returned
    obtain ⟨eligibility, returned⟩ := returned
    obtain ⟨other, read, returned⟩ := (bind_ok _ _ _).mp returned
    cases converted.symm.trans read
    obtain ⟨span, measured, returned⟩ := (bind_ok _ _ _).mp returned
    obtain ⟨due, added, _⟩ := (bind_ok _ _ _).mp returned
    exact ⟨due, (bind_ok _ _ _).mpr ⟨span, measured, added⟩⟩
  · intro added
    have bound := fits.mp added
    obtain ⟨due, added⟩ := added
    obtain ⟨span, measured, added⟩ := (bind_ok _ _ _).mp added
    have length := timedelta_value seconds span measured
    obtain ⟨instant, offset⟩ := plus_instant utc due span added
    obtain ⟨eligibility, decided⟩ := (date_trigger_returns due now (by rw [offset, aware]; simp) current).mpr
      ⟨by omega, by omega⟩
    exact ⟨eligibility, (bind_ok _ _ _).mpr ⟨utc, converted, (bind_ok _ _ _).mpr ⟨span, measured,
      (bind_ok _ _ _).mpr ⟨due, added, decided⟩⟩⟩⟩

end LlmperfOrchestrator.Preparation

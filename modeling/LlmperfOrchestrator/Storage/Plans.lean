import LlmperfOrchestrator.Runtime.Recurrence
import LlmperfOrchestrator.Storage.Records

set_option autoImplicit false

namespace LlmperfOrchestrator.Storage.Plans

open Tables Runtime.Recurrence

abbrev PlanId := String

inductive PlanStatus where
  | active
  | paused
  | completed
  | cancelled
deriving DecidableEq, Repr

structure RunnerPlan where
  campaign : CampaignId
  runtime : Option String
  status : PlanStatus
  timezone : String
  recurrence : RunnerPlanRecurrence
  overlapPolicy : OverlapPolicy
  runnerTemplate : Json
  templateVersion : String
  startsAt : Int
  endsAt : Option Int
  maxOccurrences : Option Int
  nextFireAt : Option Int
  lastFireAt : Option Int
  occurrenceCursor : Nat
  emittedCount : Nat
  skippedCount : Nat
  misfireGraceSeconds : Int
  createdBy : String
  updatedAt : Int
deriving DecidableEq

-- ExecutionNodeRecord of a plan occurrence; the occurrence, the template
-- version and the creator are members of its lineage document.
structure Dispatch where
  campaign : CampaignId
  runnerPlan : PlanId
  dispatchKey : String
  dueAt : Int
  state : NodeState
  runnerTemplate : Json
  planOccurrence : Nat
  planTemplateVersion : String
  createdBy : String
  runner : Option RunnerId
  emittedAt : Option Int
deriving DecidableEq

structure PlanRunner where
  id : RunnerId
  campaign : CampaignId
  runnerPlan : PlanId
  runtime : Option String
  planOccurrence : Nat
  scheduledFor : Int
  planTemplateVersion : String
  label : Option String
  createdBy : String
  status : RunnerStatus
  cancelRequested : Bool
  benchmarkConfig : Json
  userMetadata : Json
deriving DecidableEq

inductive PlanEventType where
  | paused
  | resumed
  | cancelled
  | emitted
  | misfireSkipped
  | completed
  | dispatchScheduled
  | overlapSkipped
  | dstAdjusted
deriving DecidableEq, Repr

structure PlanEvent where
  eventType : PlanEventType
  occurrence : Option Nat
  scheduledFor : Option Int
  runner : Option RunnerId
  message : String
  count : Option Nat
  plannerId : Option String
  overlapPolicy : Option OverlapPolicy
  adjustment : Option Adjustment
deriving DecidableEq

def planEvent (eventType : PlanEventType) (occurrence : Option Nat) (scheduledFor : Option Int) (message : String)
    (plannerId : Option String) : PlanEvent :=
  ⟨eventType, occurrence, scheduledFor, none, message, none, plannerId, none, none⟩

-- Wall times stand for their isoformat texts.
def dstMessage : Adjustment → String
  | .nonexistentLocalTime localTime timezone => s!"DST policy skip applied to {localTime} {timezone}"
  | .ambiguousLocalTime localTime timezone _ _ => s!"DST policy first applied to {localTime} {timezone}"

def dstEvents (occurrence : Nat) (adjustments : List Adjustment) (plannerId : Option String) : List PlanEvent :=
  adjustments.map fun adjustment =>
    { planEvent .dstAdjusted (some occurrence) none (dstMessage adjustment) plannerId with
      adjustment := some adjustment }

def firstFire (zones : Zones) (timing : RunnerPlanTiming) (startsAt : Int) : Except String (Int × List Adjustment) :=
  if timing.startsAt = none then .ok (startsAt, [])
  else nextFireDetails .binary64 zones timing.timezone timing.recurrence startsAt none

def newRunnerPlan (zones : Zones) (campaign : CampaignId) (timing : RunnerPlanTiming) (runnerTemplate : Json)
    (templateVersion createdBy : String) (runtime : Option String) (defaultStartsAt now : Int) :
    Except String (RunnerPlan × List Adjustment) := do
  let startsAt := timing.startsAt.getD defaultStartsAt
  let (fire, adjustments) ← firstFire zones timing startsAt
  let ended := ∃ endsAt ∈ timing.endsAt, endsAt < fire
  .ok (⟨campaign, runtime, if ended then .completed else .active, timing.timezone, timing.recurrence,
    timing.overlapPolicy, runnerTemplate, templateVersion, startsAt, timing.endsAt, timing.maxOccurrences,
    if ended then none else some fire, none, 0, 0, 0, timing.misfireGraceSeconds, createdBy, now⟩, adjustments)

def planExhausted (plan : RunnerPlan) : Prop :=
  ∃ maximum ∈ plan.maxOccurrences, maximum ≤ (plan.occurrenceCursor : Int)

instance (plan : RunnerPlan) : Decidable (planExhausted plan) :=
  inferInstanceAs (Decidable (∃ maximum ∈ plan.maxOccurrences, maximum ≤ (plan.occurrenceCursor : Int)))

def newDispatch (id : PlanId) (plan : RunnerPlan) (plannedFor : Int) (occurrence : Nat) : Dispatch :=
  ⟨plan.campaign, id, toString occurrence, plannedFor, .pending, plan.runnerTemplate, occurrence, plan.templateVersion,
    plan.createdBy, none, none⟩

-- What _materialize_plan has done so far: the plan, the events added to the
-- session, and the planned times the cursor has moved past.
structure Progress where
  plan : RunnerPlan
  plannedFor : Int
  events : List PlanEvent
  consumed : List Int

def completePlan (plan : RunnerPlan) : RunnerPlan :=
  { plan with status := .completed, nextFireAt := none }

-- next_fire_details after a consumed occurrence, and what both callers do with it.
def advance (zones : Zones) (plannerId : Option String) (progress : Progress) : Except String Progress :=
  if planExhausted progress.plan then .ok { progress with plan := completePlan progress.plan }
  else do
    let (candidate, adjustments) ← nextFireDetails .binary64 zones progress.plan.timezone
      progress.plan.recurrence progress.plan.startsAt (some progress.plannedFor)
    let events := progress.events ++ dstEvents progress.plan.occurrenceCursor adjustments plannerId
    if ∃ endsAt ∈ progress.plan.endsAt, endsAt < candidate then
      .ok ⟨completePlan progress.plan, candidate, events, progress.consumed⟩
    else .ok ⟨{ progress.plan with nextFireAt := some candidate }, candidate, events, progress.consumed⟩

def skipOne (progress : Progress) : Progress :=
  { progress with
    plan := { progress.plan with
      skippedCount := progress.plan.skippedCount + 1, occurrenceCursor := progress.plan.occurrenceCursor + 1 }
    consumed := progress.consumed ++ [progress.plannedFor] }

-- The misfire loop. It ends with the maximum or once the times have moved past the
-- boundary; with more passes than microseconds a time comes back and it never ends.
def misfirePasses (plan : RunnerPlan) (graceBoundary : Int) : Nat :=
  match plan.maxOccurrences with
  | some maximum => (maximum - plan.occurrenceCursor).toNat
  | none => (graceBoundary - plan.startsAt).toNat

def skipMisfires (zones : Zones) (plannerId : Option String) (graceBoundary : Int) : Nat → Progress → Except String Progress
  | 0, progress => if progress.plannedFor < graceBoundary then .error "misfires without end" else .ok progress
  | fuel + 1, progress =>
      if progress.plannedFor < graceBoundary then do
        let next ← advance zones plannerId (skipOne progress)
        if next.plan.status = .completed then .ok next else skipMisfires zones plannerId graceBoundary fuel next
      else .ok progress

structure Materialized where
  plan : RunnerPlan
  dispatch : Option Dispatch
  events : List PlanEvent
  consumed : List Int

def misfireEvents (start : Nat) (progress : Progress) (plannerId : Option String) : List PlanEvent :=
  let skipped := progress.plan.occurrenceCursor - start
  if skipped = 0 then []
  else [{ planEvent .misfireSkipped (some start) none s!"Skipped {skipped} expired occurrence(s)" plannerId with
    count := some skipped }]

def completedEvents (plan : RunnerPlan) (plannerId : Option String) : List PlanEvent :=
  if plan.status = .completed then
    [planEvent .completed (some plan.occurrenceCursor) plan.lastFireAt "RunnerPlan reached its execution boundary" plannerId]
  else []

-- The two counts are what the queries of overlap_policy=skip return.
def shouldEmit (overlapPolicy : OverlapPolicy) (activeRunners pendingDispatches : Nat) : Bool :=
  overlapPolicy = .queue ∨ (activeRunners = 0 ∧ pendingDispatches = 0)

def firedPlan (progress : Progress) (emits : Bool) : RunnerPlan :=
  { progress.plan with
    skippedCount := progress.plan.skippedCount + (if emits then 0 else 1)
    lastFireAt := some progress.plannedFor
    occurrenceCursor := progress.plan.occurrenceCursor + 1 }

def fireOne (progress : Progress) (emits : Bool) : Progress :=
  { progress with plan := firedPlan progress emits, consumed := progress.consumed ++ [progress.plannedFor] }

def scheduledEvent (progress : Progress) (emits : Bool) (plannerId : Option String) : PlanEvent :=
  { planEvent (if emits then .dispatchScheduled else .overlapSkipped) (some progress.plan.occurrenceCursor)
      (some progress.plannedFor)
      (if emits then "Occurrence compiled into durable dispatch" else "Occurrence skipped by overlap_policy=skip")
      plannerId with
    overlapPolicy := some progress.plan.overlapPolicy }

-- _materialize_plan once its occurrence is due and neither expired nor in the future.
def fireOccurrence (zones : Zones) (id : PlanId) (now : Int) (emits : Bool) (plannerId : Option String)
    (progress : Progress) : Except String Materialized := do
  let dispatch :=
    if emits then some (newDispatch id progress.plan progress.plannedFor progress.plan.occurrenceCursor) else none
  let next ← advance zones plannerId (fireOne progress emits)
  let settled := { next.plan with updatedAt := now }
  .ok ⟨settled, dispatch, next.events ++ [scheduledEvent progress emits plannerId] ++ completedEvents settled plannerId,
    next.consumed⟩

def materializePlan (zones : Zones) (id : PlanId) (plan : RunnerPlan) (now : Int) (activeRunners pendingDispatches : Nat)
    (plannerId : Option String) : Except String Materialized :=
  match plan.nextFireAt with
  | none => .error s!"active RunnerPlan {id} has no next_fire_at"
  | some nextFireAt => do
      let graceBoundary := now - timedelta plan.misfireGraceSeconds
      let skipping ← skipMisfires zones plannerId graceBoundary (misfirePasses plan graceBoundary) ⟨plan, nextFireAt, [], []⟩
      let progress := { skipping with events := skipping.events ++ misfireEvents plan.occurrenceCursor skipping plannerId }
      if progress.plan.status = .completed ∨ now < progress.plannedFor then
        let settled := { progress.plan with updatedAt := now }
        .ok ⟨settled, none, progress.events ++ completedEvents settled plannerId, progress.consumed⟩
      else
        fireOccurrence zones id now (shouldEmit plan.overlapPolicy activeRunners pendingDispatches) plannerId progress

def templateBenchmark (template : Json) : Except String Json :=
  match template.field "benchmark" with
  | some (.dict fields) => .ok (.dict fields)
  | _ => .error "runner_template.benchmark must be an object"

def templateMetadata (template : Json) : Except String Json :=
  match template.field "metadata" with
  | none => .ok (.dict [])
  | some (.dict fields) => .ok (.dict fields)
  | some _ => .error "runner_template.metadata must be an object"

def templateLabel (template : Json) : Except String (Option String) :=
  match template.field "label" with
  | none => .ok none
  | some .null => .ok none
  | some (.text label) => .ok (some label)
  | some _ => .error "runner_template.label must be a string or null"

-- RunnerRecordFactory.from_dispatch, from_template and queued.
def fromDispatch (dispatch : Dispatch) (id : RunnerId) (runtime : Option String) : Except String PlanRunner := do
  let benchmark ← templateBenchmark dispatch.runnerTemplate
  let metadata ← templateMetadata dispatch.runnerTemplate
  let label ← templateLabel dispatch.runnerTemplate
  .ok ⟨id, dispatch.campaign, dispatch.runnerPlan, runtime, dispatch.planOccurrence, dispatch.dueAt,
    dispatch.planTemplateVersion, label, if dispatch.createdBy = "" then "planner" else dispatch.createdBy, .queued, false,
    benchmark, metadata⟩

def emittedDispatch (dispatch : Dispatch) (runner : RunnerId) (now : Int) : Dispatch :=
  { dispatch with state := .emitted, runner := some runner, emittedAt := some now }

def countEmitted (plan : RunnerPlan) (now : Int) : RunnerPlan :=
  { plan with emittedCount := plan.emittedCount + 1, updatedAt := now }

def emittedEvent (runner : PlanRunner) (dispatch : Dispatch) (plannerId : Option String) : PlanEvent :=
  { planEvent .emitted (some runner.planOccurrence) (some dispatch.dueAt) "Runner emitted through durable dispatch"
      plannerId with
    runner := some runner.id }

inductive PlanAction where
  | pause
  | resume
  | cancel
deriving DecidableEq, Repr

def PlanAction.name : PlanAction → String
  | .pause => "pause"
  | .resume => "resume"
  | .cancel => "cancel"

-- transitions of change_runner_plan
def PlanAction.allowed : PlanAction → List PlanStatus
  | .pause => [.active]
  | .resume => [.paused]
  | .cancel => [.active, .paused]

def PlanAction.target : PlanAction → PlanStatus
  | .pause => .paused
  | .resume => .active
  | .cancel => .cancelled

def PlanAction.eventType : PlanAction → PlanEventType
  | .pause => .paused
  | .resume => .resumed
  | .cancel => .cancelled

def changedPlan (plan : RunnerPlan) (action : PlanAction) (now : Int) : RunnerPlan :=
  { plan with status := action.target, updatedAt := now }

def changeEvent (plan : RunnerPlan) (action : PlanAction) : PlanEvent :=
  planEvent action.eventType none plan.nextFireAt s!"RunnerPlan {action.name}d" none

def cancelPending (dispatch : Dispatch) : Dispatch :=
  if dispatch.state = .pending then { dispatch with state := .cancelled } else dispatch

end LlmperfOrchestrator.Storage.Plans

import LlmperfOrchestrator.Library.Tallies
import LlmperfOrchestrator.Campaign.Lifecycle

set_option autoImplicit false

namespace LlmperfOrchestrator.Campaign

open Tables Tallies Storage

variable {Digest : Type} [DecidableEq Digest]

-- count_fields of attach_progress.
inductive CountField where
  | planned
  | created
  | submitted
  | notSubmitted
  | pendingResults
  | succeeded
  | failed
  | cancelled
  | indeterminate
  | admissionWaiting
  | queued
  | running
deriving DecidableEq, Repr

def CountField.live : CountField → Bool
  | .admissionWaiting | .queued | .running => true
  | .planned | .created | .submitted | .notSubmitted | .pendingResults | .succeeded | .failed | .cancelled
  | .indeterminate => false

abbrev Counts := CountField → Int

-- int(value or 1)
def orOne : Option Nat → Nat
  | none | some 0 => 1
  | some (count + 1) => count + 1

-- The planned count of worker_progress, from three columns of its query.
def plannedOfRow (repeats stepCount : Option Nat) (probe : Option ProbeKeys) : Nat :=
  match probe with
  | some probe => probe.trials * (1 + probe.repeatsAfterPrime.getD 1)
  | none => orOne repeats * orOne stepCount

def phaseName (status : RunnerStatus) : String := if status = .queued then "waiting" else status.name

structure RunnerProgress where
  campaign : Option CampaignId
  phase : String
  counts : Counts

def rowPlanned (benchmark : StoredBenchmark) : Nat :=
  plannedOfRow benchmark.repeats (benchmark.steps.map List.length) benchmark.cacheProbe

def rowProgress (runner : Runner) : RunnerProgress where
  campaign := runner.campaign
  phase := phaseName runner.status
  counts := fun field => if field = .planned then rowPlanned runner.template.benchmark else 0

-- SELECT owner, state, count(*), count(submitted_at) GROUP BY owner, state
structure CountRow (Owner : Type) where
  owner : Owner
  state : WorkerState
  count : Nat
  submittedCount : Nat
deriving DecidableEq, Repr

def countRows {Owner : Type} [DecidableEq Owner] (rows : List (Owner × Worker Digest)) : List (CountRow Owner) :=
  (groups (fun row => (row.1, row.2.state)) rows).map fun group =>
    ⟨group.1.1, group.1.2, group.2.length, group.2.countP fun row => row.2.submittedAt.isSome⟩

def share (state : WorkerState) (count submittedCount : Nat) : Counts
  | .created => count
  | .submitted => submittedCount
  | .pendingResults => if state = .submitted then count else 0
  | .succeeded => if state = .succeeded then count else 0
  | .failed => if state = .failed then count else 0
  | .cancelled => if state = .cancelled then count else 0
  | .indeterminate => if state = .indeterminate then count else 0
  | .planned | .notSubmitted | .admissionWaiting | .queued | .running => 0

def addRow {Owner : Type} (row : CountRow Owner) (counts : Counts) : Counts := fun field =>
  counts field + share row.state row.count row.submittedCount field

def withNotSubmitted (counts : Counts) : Counts :=
  Function.update counts .notSubmitted (max 0 (counts .planned - counts .submitted))

-- worker_progress, which the views call with Runner ids only.
def workerProgress (store : Store Digest) (selected : List RunnerId) : Dict RunnerId RunnerProgress :=
  let rows := (store.runners.filter fun id _ => id ∈ selected).map fun entry => (entry.1, rowProgress entry.2)
  let joined := (store.workers.filter fun key _ => key.1 ∈ selected ∧ (store.runners.get key.1).isSome).map fun entry =>
    (entry.1.1, entry.2)
  let counted := (countRows joined).foldl (fun progress row =>
    updateAt row.owner (fun item => { item with counts := addRow row item.counts }) progress) rows
  counted.map fun entry => (entry.1, { entry.2 with counts := withNotSubmitted entry.2.counts })

structure CampaignProgress where
  counts : Counts
  creationPhases : Dict String Int

def campaignOf (store : Store Digest) (id : RunnerId) : Option CampaignId := (store.runners.get id).bind Runner.campaign

def statusChange (group : (CampaignId × RunnerStatus) × List (CampaignId × Runner)) (item : CampaignProgress) : CampaignProgress where
  counts := fun field =>
    if field = .planned then item.counts field + (group.2.map fun row => (row.2.template.plannedWorkers : Int)).sum
    else item.counts field
  creationPhases := Dict.put (phaseName group.1.2) group.2.length item.creationPhases

-- campaign_worker_progress. worker_progress never leaves created unset, so its
-- unknown_created stays 0 and is left out.
def campaignWorkerProgress (store : Store Digest) (selected : List CampaignId) : Dict CampaignId CampaignProgress :=
  let blank := selected.foldl (fun progress id => Dict.put id ⟨fun _ => 0, []⟩ progress) []
  let runners := store.runners.rows.filterMap fun entry =>
    (entry.2.campaign.filter (· ∈ selected)).map fun campaign => (campaign, entry.2)
  let staffed := (groups (fun row => (row.1, row.2.status)) runners).foldl (fun progress group =>
    updateAt group.1.1 (statusChange group) progress) blank
  let workers := store.workers.rows.filterMap fun entry =>
    ((campaignOf store entry.1.1).filter (· ∈ selected)).map fun campaign => (campaign, entry.2)
  let counted := (countRows workers).foldl (fun progress row =>
    updateAt row.owner (fun item => { item with counts := addRow row item.counts }) progress) staffed
  counted.map fun entry => (entry.1, { entry.2 with counts := withNotSubmitted entry.2.counts })

structure PoolProgress where
  queued : Nat
  running : Nat
deriving DecidableEq, Repr

-- admission holds the Runners that RunnerAdmission lets submit.
structure RunnerPreparation where
  phase : String
  createdWorkers : Nat
  admission : Option (List RunnerId)
deriving DecidableEq, Repr

def RunnerPreparation.progress (id : RunnerId) (preparation : RunnerPreparation) : String × Nat :=
  (if preparation.phase = "submitting" ∧ (∃ active ∈ preparation.admission, id ∉ active) then "waiting" else preparation.phase,
    preparation.createdWorkers)

-- What worker_status reads of the scheduler. An active Worker of another kind
-- reports no preparation; waiting is the set of the dispatcher, snapshotAge the
-- age of the last pool status in seconds.
structure Telemetry where
  activeWorkers : Table RunnerId (Option RunnerPreparation)
  waiting : List (RunnerId × String)
  poolRunners : Table RunnerId PoolProgress
  rayHealthy : Bool
  snapshotAge : Option Rat
  healthInterval : Rat
  healthTimeout : Rat

structure LiveProgress where
  preparation : Option (String × Nat)
  admissionWaiting : Nat
  queued : Nat
  running : Nat
deriving DecidableEq, Repr

def liveProgress (telemetry : Telemetry) (id : RunnerId) : LiveProgress where
  preparation := ((telemetry.activeWorkers.get id).bind fun worker => worker).map fun worker => worker.progress id
  admissionWaiting := telemetry.waiting.countP fun entry => entry.1 = id
  queued := ((telemetry.poolRunners.get id).map PoolProgress.queued).getD 0
  running := ((telemetry.poolRunners.get id).map PoolProgress.running).getD 0

-- set(self._active_workers) | set(pool_runners)
def visible (telemetry : Telemetry) : List RunnerId :=
  (Dict.keys telemetry.activeWorkers.rows ++ Dict.keys telemetry.poolRunners.rows).dedup

def workerStatus (telemetry : Telemetry) (selected : Option (List RunnerId)) : Dict RunnerId LiveProgress :=
  (selected.elim (visible telemetry) List.dedup).map fun id => (id, liveProgress telemetry id)

def sampled (telemetry : Telemetry) : Bool :=
  telemetry.rayHealthy && telemetry.snapshotAge.any fun age => age ≤ telemetry.healthInterval + telemetry.healthTimeout

def LiveProgress.count (live : LiveProgress) : Counts
  | .admissionWaiting => live.admissionWaiting
  | .queued => live.queued
  | .running => live.running
  | .planned | .created | .submitted | .notSubmitted | .pendingResults | .succeeded | .failed | .cancelled
  | .indeterminate => 0

-- A count is null where the telemetry is not sampled.
structure Attached where
  phase : String
  counts : CountField → Option Int

def attachLive (telemetry : Telemetry) (live : Option LiveProgress) (progress : RunnerProgress) : Attached where
  phase := ((live.bind LiveProgress.preparation).map Prod.fst).getD progress.phase
  counts := fun field =>
    if field.live then (if sampled telemetry then some (live.elim 0 fun live => live.count field) else none)
    else if field = .created then
      some (((live.bind LiveProgress.preparation).map fun created => (created.2 : Int)).getD (progress.counts .created))
    else some (progress.counts field)

structure WorkersView where
  counts : CountField → Option Int
  creationPhases : Dict String Int

def creationPhaseNames : List String := ["waiting", "preparation_queued", "preparing", "submitting", "aggregating"]

-- None if any(value is None for value in values) else sum(values)
def sumCounts (values : List (Option Int)) : Option Int :=
  if none ∈ values then none else some (values.map fun value => value.getD 0).sum

def membersView (members : List Attached) : WorkersView where
  counts := fun field => sumCounts (members.map fun member => member.counts field)
  creationPhases := creationPhaseNames.map fun phase => (phase, (members.countP fun member => member.phase = phase : Nat))

-- attach_progress for Runners.
def attachProgress (store : Store Digest) (telemetry : Telemetry) (records : List RunnerId) : Dict RunnerId WorkersView :=
  let durable := workerProgress store records
  let live := workerStatus telemetry (some (Dict.keys durable))
  records.filterMap fun id => (Dict.get id durable).map fun progress =>
    (id, membersView [attachLive telemetry (Dict.get id live) progress])

structure CampaignItem where
  counts : CountField → Option Int
  creationPhases : Dict String Int

def raisePhase (phase : String) (amount : Int) (phases : Dict String Int) : Dict String Int :=
  Dict.put phase ((Dict.get phase phases).getD 0 + amount) phases

-- The loop body of _attach_campaign_progress for one live Runner.
def adjustItem (telemetry : Telemetry) (live : LiveProgress) (stored : RunnerProgress) (item : CampaignItem) : CampaignItem where
  counts := fun field =>
    if field.live then (if sampled telemetry then (item.counts field).map (· + live.count field) else item.counts field)
    else if field = .created then
      match live.preparation with
      | none => item.counts field
      | some created => (item.counts field).map (· + (created.2 - stored.counts .created))
    else item.counts field
  creationPhases :=
    match live.preparation with
    | none => item.creationPhases
    | some created => raisePhase created.1 1 (raisePhase stored.phase (-1) item.creationPhases)

def openItem (telemetry : Telemetry) (progress : CampaignProgress) : CampaignItem where
  counts := fun field => if field.live then (if sampled telemetry then some 0 else none) else some (progress.counts field)
  creationPhases := progress.creationPhases

-- _attach_campaign_progress
def attachCampaignProgress (store : Store Digest) (telemetry : Telemetry) (records : List CampaignId) :
    Dict CampaignId WorkersView :=
  let durable := (campaignWorkerProgress store records).map fun entry => (entry.1, openItem telemetry entry.2)
  let live := workerStatus telemetry none
  -- only resident Runners need individual rows
  let resident := workerProgress store (Dict.keys live)
  let adjusted := live.foldl (fun items entry =>
    match Dict.get entry.1 resident with
    | none => items
    | some stored =>
        match stored.campaign with
        | none => items
        | some campaign => updateAt campaign (adjustItem telemetry entry.2 stored) items) durable
  records.filterMap fun id => (Dict.get id adjusted).map fun item =>
    (id, ⟨item.counts, creationPhaseNames.map fun phase => (phase, (Dict.get phase item.creationPhases).getD 0)⟩)

end LlmperfOrchestrator.Campaign

import LlmperfOrchestrator.Compiler.Expansion
import LlmperfOrchestrator.Storage.Records

set_option autoImplicit false

namespace LlmperfOrchestrator.Compiler

open Tables Storage

structure RoundState where
  campaign : Option CampaignId
  status : RunnerStatus
  roundIndex : Nat
deriving DecidableEq, Repr

-- str(campaign_id), the key under which rounds are compared.
def campaignKey : Option CampaignId → String
  | none => "None"
  | some campaign => campaign

def noteRound (earliest : Dict String Nat) (state : RoundState) : Dict String Nat :=
  if state.status.terminal then earliest
  else
    let campaign := campaignKey state.campaign
    Dict.put campaign (min ((Dict.get campaign earliest).getD state.roundIndex) state.roundIndex) earliest

def earliestRounds (states : List RoundState) : Dict String Nat := states.foldl noteRound []

-- Only the earliest unfinished round in each campaign may execute.
def readyRoundRunners (runners : List (RunnerId × Runner)) (states : List RoundState) : List (RunnerId × Runner) :=
  runners.filter fun row =>
    row.2.template.round = none ∨ row.2.template.round = Dict.get (campaignKey row.2.campaign) (earliestRounds states)

def unfinishedRounds (campaign : String) (states : List RoundState) : List Nat :=
  states.filterMap fun state =>
    if campaignKey state.campaign = campaign ∧ state.status.terminal = false then some state.roundIndex else none

theorem note_rounds (campaign : String) (states : List RoundState) (earliest : Dict String Nat) :
    Dict.get campaign (states.foldl noteRound earliest) =
      ((Dict.get campaign earliest).toList ++ unfinishedRounds campaign states).min? := by
  induction states generalizing earliest with
  | nil => cases found : Dict.get campaign earliest <;> simp [unfinishedRounds, found]
  | cons state rest ih =>
      rw [List.foldl_cons, ih]
      by_cases past : state.status.terminal = true
      · simp [noteRound, past, unfinishedRounds]
      · by_cases here : campaignKey state.campaign = campaign
        · have listed : unfinishedRounds campaign (state :: rest) = state.roundIndex :: unfinishedRounds campaign rest := by
            simp [unfinishedRounds, here, past]
          rw [listed, noteRound, if_neg past, here, dict_get_put, if_pos rfl]
          cases Dict.get campaign earliest with
          | none => simp
          | some earlier => cases least : (unfinishedRounds campaign rest).min? <;> simp [least, Nat.min_assoc]
        · have skipped : unfinishedRounds campaign (state :: rest) = unfinishedRounds campaign rest := by
            simp [unfinishedRounds, here]
          rw [skipped, noteRound, if_neg past, dict_get_put, if_neg (Ne.symm here)]

theorem earliest_rounds (campaign : String) (states : List RoundState) :
    Dict.get campaign (earliestRounds states) = (unfinishedRounds campaign states).min? :=
  note_rounds campaign states []

theorem selected_round (runners : List (RunnerId × Runner)) (states : List RoundState) (rid : RunnerId) (runner : Runner) :
    (rid, runner) ∈ readyRoundRunners runners states ↔ (rid, runner) ∈ runners ∧ (runner.template.round = none ∨
      runner.template.round = (unfinishedRounds (campaignKey runner.campaign) states).min?) := by
  rw [readyRoundRunners, List.mem_filter, decide_eq_true_eq, earliest_rounds]

-- int.from_bytes(hashlib.sha256(material.encode()).digest()[:8], "big")
def seedOf (sha256 : Sha256) (material : String) : Nat := firstEight (sha256 material)

-- metadata["runner_group"]
structure GroupIdentity where
  name : String
  dimensions : Dimensions
  phase : Option String
deriving DecidableEq

-- The keys that family scope adds to metadata["runner_round"].
structure PrefixVersions where
  prefixSeedScope : String
  prefixSeedVersion : String
  suffixSeedVersion : String
deriving DecidableEq

-- metadata["runner_round"]
structure RunnerRound where
  index : Nat
  count : Nat
  family : Nat
  seed : Nat
  cycle : Nat
  phase : String
  versions : Option PrefixVersions
deriving DecidableEq

-- A submitted Runner as resolve_runner returns it. Content is what expansion only
-- copies: every other field of the benchmark.
structure RunnerSpec (Content : Type) where
  label : Option String
  metadata : Dict String Json
  datasetSeed : Option Int
  sharedPrefixSeed : Option Nat
  cacheProbe : Bool
  content : Content

structure RunnerDocument (Content : Type) where
  label : Option String
  metadata : Dict String Json
  group : Option GroupIdentity
  round : Option RunnerRound
  datasetSeed : Option Int
  sharedPrefixSeed : Option Nat
  content : Content

inductive SeedScope where
  | round | family
deriving DecidableEq, Repr

structure RunnerRounds where
  count : Nat
  seed : Nat
  prefixSeedScope : SeedScope
  phases : List String
deriving DecidableEq

structure RunnerGroup (Content : Type) where
  name : String
  phase : Option String
  matrix : Table String (List Int)
  runner : RunnerSpec Content

section Group

variable {Content : Type}

def RunnerSpec.document (runner : RunnerSpec Content) : RunnerDocument Content :=
  { label := runner.label, metadata := runner.metadata, group := none, round := none, datasetSeed := runner.datasetSeed,
    sharedPrefixSeed := runner.sharedPrefixSeed, content := runner.content }

def coordinatesOf (matrix : Table String (List Int)) : List Dimensions :=
  let dimensions := matrix.rows.insertionSort fun a b => a.1 ≤ b.1
  (product (dimensions.map Prod.snd)).map fun values => (dimensions.map Prod.fst).zip values

-- Names and dimensions are letters, digits, _ and -, which JSON writes as they are.
def quoted (text : String) : String := "\"" ++ text ++ "\""

def fieldText (field : String × Int) : String := quoted field.1 ++ ":" ++ toString field.2

-- json.dumps([name, coordinates], sort_keys=True, separators=(",", ":"))
def groupIdentity (name : String) (coordinates : Dimensions) : String :=
  "[" ++ quoted name ++ ",\x7b" ++ ",".intercalate (coordinates.map fieldText) ++ "\x7d]"

-- text[:200]
def firstTwoHundred (text : String) : String := String.ofList (text.toList.take 200)

def coordinateLabel (coordinates : Dimensions) : String :=
  ",".intercalate (coordinates.map fun entry => s!"{entry.1}={entry.2}")

def expandRunnerGroup (sha256 : Sha256) (template : RunnerDocument Content) (name : String) (matrix : Table String (List Int))
    (phase : Option String) : List (RunnerDocument Content) :=
  (coordinatesOf matrix).map fun coordinates =>
    { template with
      datasetSeed := some (seedOf sha256 s!"runner-matrix-v1:{template.datasetSeed.getD 11111}:{groupIdentity name coordinates}")
      group := some ⟨name, coordinates, phase⟩
      label := some (firstTwoHundred s!"{name}/{coordinateLabel coordinates}") }

end Group

section Rounds

variable {Content : Type} (sha256 : Sha256) (rounds : RunnerRounds)

def firstPhase : String := rounds.phases.head?.getD ""

-- (group or \x7b\x7d).get("phase") or phases[0]
def assignedPhase (template : RunnerDocument Content) : String :=
  match template.group.bind GroupIdentity.phase with
  | some phase => if phase = "" then firstPhase rounds else phase
  | none => firstPhase rounds

def familyIdentity (family : Nat) (template : RunnerDocument Content) : String :=
  match template.group with
  | some group => groupIdentity group.name group.dimensions
  | none => toString family

def prefixMaterial (family : Nat) (template : RunnerDocument Content) : String :=
  s!"round-family-prefix-v1:{rounds.seed}:{familyIdentity family template}"

def familyPrefix (family : Nat) (template : RunnerDocument Content) : Nat :=
  seedOf sha256 (prefixMaterial rounds family template)

def datasetMaterial (cycle stage : Nat) (phase : String) (family : Nat) (template : RunnerDocument Content) : String :=
  match rounds.prefixSeedScope with
  | .family => s!"round-family-suffix-v1:{familyPrefix sha256 rounds family template}:{cycle}:{phase}"
  | .round => s!"{rounds.seed}:{stage}:{family}"

-- f"{stage_index:03d}"
def threeDigits (stage : Nat) : String := if stage < 10 then s!"00{stage}" else if stage < 100 then s!"0{stage}" else s!"{stage}"

-- template.get('label') or family_index
def labelOr (family : Nat) (label : Option String) : String :=
  match label with
  | some text => if text = "" then toString family else text
  | none => toString family

def familyVersions : PrefixVersions := ⟨"family", "round-family-prefix-v1", "round-family-suffix-v1"⟩

def roundOf (cycle stage : Nat) (phase : String) (family : Nat) : RunnerRound :=
  { index := stage, count := rounds.count * rounds.phases.length, family := family, seed := rounds.seed, cycle := cycle, phase := phase,
    versions := if rounds.prefixSeedScope = .family then some familyVersions else none }

def expandMember (cycle stage : Nat) (phase : String) (family : Nat) (template : RunnerDocument Content) : RunnerDocument Content :=
  { template with
    label := some (firstTwoHundred s!"round-{threeDigits stage}/{labelOr family template.label}")
    metadata := Dict.put "round" (.number stage) template.metadata
    round := some (roundOf rounds cycle stage phase family)
    datasetSeed := some (seedOf sha256 (datasetMaterial sha256 rounds cycle stage phase family template))
    sharedPrefixSeed :=
      if rounds.prefixSeedScope = .family then some (familyPrefix sha256 rounds family template) else template.sharedPrefixSeed }

def stageIndex (cycle phaseIndex : Nat) : Nat := (cycle - 1) * rounds.phases.length + phaseIndex + 1

def expandStage (runners : List (RunnerDocument Content)) (cycle : Nat) (entry : String × Nat) : List (RunnerDocument Content) :=
  (runners.zipIdx 1).filterMap fun numbered =>
    if assignedPhase rounds numbered.1 = entry.1 then
      some (expandMember sha256 rounds cycle (stageIndex rounds cycle entry.2) entry.1 numbered.2 numbered.1)
    else none

def expandRounds (runners : List (RunnerDocument Content)) : List (RunnerDocument Content) :=
  (List.range' 1 rounds.count).flatMap fun cycle => rounds.phases.zipIdx.flatMap (expandStage sha256 rounds runners cycle)

end Rounds

section Validation

def identityChar (c : Char) : Bool := c.isAlphanum || c = '_' || c = '-'

def identityName (text : String) : Bool := 1 ≤ text.length && text.length ≤ 64 && text.toList.all identityChar

def RunnerRounds.valid (rounds : RunnerRounds) : Bool :=
  1 ≤ rounds.count && rounds.count ≤ 1000 && 1 ≤ rounds.phases.length && rounds.phases.length ≤ 16 && decide rounds.phases.Nodup &&
    rounds.phases.all identityName

-- The metadata entries of Backend expansion are reserved.
def RunnerSpec.valid {Content : Type} (runner : RunnerSpec Content) : Bool :=
  runner.label.all (fun label => 1 ≤ label.length && label.length ≤ 200) &&
    decide ("runner_round" ∉ Dict.keys runner.metadata) && decide ("runner_group" ∉ Dict.keys runner.metadata)

namespace RunnerGroup

variable {Content : Type} (group : RunnerGroup Content)

def count : Nat := (group.matrix.rows.map fun dimension => dimension.2.length).prod

def valid : Bool :=
  identityName group.name && group.phase.all (fun phase => 1 ≤ phase.length && phase.length ≤ 64) &&
    1 ≤ group.matrix.rows.length && group.matrix.rows.length ≤ 8 &&
    group.matrix.rows.all (fun dimension =>
      identityName dimension.1 && 1 ≤ dimension.2.length && dimension.2.length ≤ 100 && decide dimension.2.Nodup) &&
    group.count ≤ 10000 && group.runner.valid

end RunnerGroup

-- What validate_workload reads of a task definition.
structure DefinitionOutline where
  instanceCount : Nat
  cacheProbe : Bool
deriving DecidableEq

structure CampaignStart (Content : Type) where
  nestedRuntime : Bool
  rounds : Option RunnerRounds
  runners : List (RunnerSpec Content)
  runnerGroups : List (RunnerGroup Content)
  runnerPlans : Nat
  taskDefinitions : List DefinitionOutline

namespace CampaignStart

variable {Content : Type} (start : CampaignStart Content)

def immediateRunnerCount : Nat := start.runners.length + (start.runnerGroups.map RunnerGroup.count).sum

def phases : List String :=
  match start.rounds with
  | some rounds => rounds.phases
  | none => ["default"]

-- group.phase or phases[0]
def groupPhase (group : RunnerGroup Content) : String :=
  match group.phase with
  | some phase => if phase = "" then start.phases.head?.getD "" else phase
  | none => start.phases.head?.getD ""

def groupKeys : List (String × String) := start.runnerGroups.map fun group => (group.name, start.groupPhase group)

def occupiedPhases : List String :=
  start.runnerGroups.map start.groupPhase ++ if start.runners = [] then [] else [start.phases.head?.getD ""]

def declaredPhase (group : RunnerGroup Content) : Bool :=
  group.phase.all fun phase => start.rounds.isSome && decide (phase ∈ start.phases)

def validateRounds (rounds : RunnerRounds) : Except String Unit :=
  if start.immediateRunnerCount = 0 ∨ start.runnerPlans ≠ 0 ∨ start.taskDefinitions ≠ [] then
    .error "campaign rounds require only immediate Runner templates"
  else if ¬ (start.occupiedPhases ⊆ rounds.phases ∧ rounds.phases ⊆ start.occupiedPhases) then
    .error "each round phase must contain at least one Runner template"
  else if rounds.prefixSeedScope = .family ∧
      (start.runners.any RunnerSpec.cacheProbe ∨ start.runnerGroups.any fun group => group.runner.cacheProbe) then
    .error "family-scoped rounds use ordinary inputs, not cache_probe"
  else .ok ()

def validateDefinitions : Except String Unit :=
  if start.taskDefinitions.any DefinitionOutline.cacheProbe then .error "compiled task runner cannot define cache_probe"
  else if 10000 < (start.taskDefinitions.map DefinitionOutline.instanceCount).sum then
    .error "campaign tasks cannot exceed 10000 total instances"
  else .ok ()

def workloadSize : Nat := start.runners.length + start.runnerGroups.length + start.runnerPlans + start.taskDefinitions.length

-- The checks of validate_workload before rounds and task definitions.
def validateSize : Except String Unit :=
  if start.nestedRuntime then .error "runtime configuration belongs at the submission root"
  else if start.workloadSize = 0 then .error "campaign requires runners, runner_groups, runner_plans, or task_definitions"
  else if 100 < start.workloadSize then .error "campaign workload cannot contain more than 100 items"
  else if ¬ start.groupKeys.Nodup then .error "Runner group names must be unique within a phase"
  else if start.runnerGroups.any fun group => !start.declaredPhase group then
    .error "Runner group phase must name a declared campaign round phase"
  else if 10000 < start.immediateRunnerCount * (start.rounds.elim 1 RunnerRounds.count) then
    .error "campaign rounds/groups cannot exceed 10000 expanded runners"
  else .ok ()

def validateWorkload : Except String Unit := do
  start.validateSize
  match start.rounds with
  | some rounds => start.validateRounds rounds
  | none => .ok ()
  start.validateDefinitions

def validFields : Bool :=
  start.rounds.all RunnerRounds.valid && start.runners.all RunnerSpec.valid && start.runnerGroups.all RunnerGroup.valid &&
    start.runners.length ≤ 100 && start.runnerGroups.length ≤ 100 && start.runnerPlans ≤ 100 && start.taskDefinitions.length ≤ 20

def accepted : Prop := start.validFields = true ∧ start.validateWorkload = .ok ()

-- resolved_runner_templates of resolve_campaign_payload
def templates (sha256 : Sha256) : List (RunnerDocument Content) :=
  start.runners.map RunnerSpec.document ++
    start.runnerGroups.flatMap fun group =>
      expandRunnerGroup sha256 group.runner.document group.name group.matrix group.phase

end CampaignStart

end Validation

end LlmperfOrchestrator.Compiler

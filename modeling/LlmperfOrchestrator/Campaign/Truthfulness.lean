import LlmperfOrchestrator.Campaign.CancelledInstances

set_option autoImplicit false

namespace LlmperfOrchestrator.Campaign

open Tables Outcomes Runs Storage Plans

open Compiler (Sha256 TaskRecipe workflowRecipe callNode narrowRecipe)
open Runtime.Recurrence (Zones)

section Runs

variable {Digest : Type} [DecidableEq Digest] (sha256 : Sha256) (zones : Zones) (digest : Json → Digest)

theorem run_sound (events : List (CampaignEvent Digest)) (s : CampaignState Digest)
    (full : ∀ event ∈ events, FullSubmission sha256 event)
    (reached : run (campaignStep sha256 zones digest) emptyState events = some s) :
    CampaignInvariant s ∧ Populated s.store := by
  apply run_keeps (campaignStep sha256 zones digest) (fun _ event => FullSubmission sha256 event)
    (fun state => CampaignInvariant state ∧ Populated state.store) _ events emptyState s ⟨empty_invariant, empty_populated⟩
    (every_step_events _ _ events _ full) reached
  intro state event next held allowed taken
  obtain ⟨inv, fills⟩ := campaign_step_sound sha256 zones digest state next held.1 event taken
  exact ⟨inv, fills allowed held.2⟩

theorem instances_never_stuck (events : List (CampaignEvent Digest)) (s : CampaignState Digest)
    (full : ∀ event ∈ events, FullSubmission sha256 event)
    (reached : run (campaignStep sha256 zones digest) emptyState events = some s) :
    NoStuckInstance s.store ∧ ∀ campaign runtime, getCampaignStatus s campaign = some runtime →
      runtime.outcome = .pending → CanWork s campaign := by
  obtain ⟨inv, populated⟩ := run_sound sha256 zones digest events s full reached
  obtain ⟨rank, progress⟩ := inv.sound
  refine ⟨progress_unstuck s.store rank progress populated, ?_⟩
  intro campaign runtime shown pending
  apply pending_works s campaign inv populated
  exact pending_outcome s campaign runtime shown pending

end Runs

def utc : Zones := fun _ => none

def soleSubmission (recipe : TaskRecipe) : CampaignEvent Json :=
  .createWorkload "campaign" 0 "operator" [] [] [⟨recipe, .blank, none, [], toString⟩]

def runnerCaller : Caller := ⟨none, 0, 0⟩

theorem narrow_fills : Fills (fun _ => 0) ⟨narrowRecipe, .blank, none, [], toString⟩ := by
  intro table _ dimensions _
  exact ⟨⟨Compiler.maxGraphDepth, narrowRecipe.root, []⟩, "a", ⟨narrowRecipe.root, List.mem_cons_self, .refl⟩, rfl⟩

def narrowEvents : List (CampaignEvent Json) :=
  [soleSubmission narrowRecipe, .call (.activateNode runnerCaller "1" 0 "runner"),
    .call (.startSelected runnerCaller "runner" "scheduler")]

def narrowState : CampaignState Json :=
  (run (campaignStep (fun _ => 0) utc id) emptyState narrowEvents).get (by decide +kernel)

theorem instances_never_stuck_narrow : NoStuckInstance narrowState.store ∧ ∀ campaign runtime,
    getCampaignStatus narrowState campaign = some runtime → runtime.outcome = .pending → CanWork narrowState campaign := by
  apply instances_never_stuck (fun _ => 0) utc id narrowEvents narrowState
  · intro event member
    cases member with
    | head =>
        intro definition listed
        cases List.mem_singleton.mp listed
        exact narrow_fills
    | tail _ later =>
        cases later with
        | head => trivial
        | tail _ last => cases List.mem_singleton.mp last; trivial
  · exact (Option.some_get _).symm

def hollowRecipe : TaskRecipe := workflowRecipe .empty (.repeatNode "rounds" (.literal 0) .zero (callNode "a" [])) []

def hollowState : CampaignState Json :=
  (run (campaignStep (fun _ => 0) utc id) emptyState [soleSubmission hollowRecipe]).get (by decide +kernel)

theorem hollow_instance_stuck :
    run (campaignStep (fun _ => 0) utc id) emptyState [soleSubmission hollowRecipe] = some hollowState ∧
      ¬ NoStuckInstance hollowState.store ∧
      (getCampaignStatus hollowState "campaign").map CampaignRuntime.outcome = some .pending := by
  refine ⟨(Option.some_get _).symm, ?_, by decide +kernel⟩
  intro unstuck
  have planned : (hollowState.store.instances.get "0").map TaskInstance.state = some .planned := by decide +kernel
  have nodes : hollowState.store.nodes.rows.isEmpty = true := by decide +kernel
  obtain ⟨task, read, state⟩ := Option.map_eq_some_iff.mp planned
  obtain ⟨nid, node, stored, _⟩ := unstuck "0" task read (by rw [state]; rfl)
  have listed := (table_mem _ _ _).mpr stored
  rw [List.isEmpty_iff.mp nodes] at listed
  cases listed

section

open Compiler (Sha256 TaskRecipe)
open Runtime.Recurrence (Zones)

variable {Digest : Type} [DecidableEq Digest]

def TruthfulStep (sha256 : Sha256) (s : CampaignState Digest) : CampaignEvent Digest → Prop
  | .createWorkload _ _ _ _ _ definitions => ∀ definition ∈ definitions, Fills sha256 definition
  | .createRunners owner runners => ∀ campaign ∈ owner, runners ≠ [] → hasCancelled s.store campaign = true →
      staffed s.store campaign = true ∨ hasFailed s.store campaign = true
  | .emitDispatch id index _ _ => ∀ row dispatch, s.plans.get id = some row → row.dispatches[index]? = some dispatch →
      hasCancelled s.store dispatch.campaign = true →
        staffed s.store dispatch.campaign = true ∨ hasFailed s.store dispatch.campaign = true
  | .cancelCampaign campaign _ => hasOpen s.store campaign = true → staffed s.store campaign = true →
      unsuccessful s.store campaign = true ∨ hasFailed s.store campaign = true
  | _ => True

theorem truthful_full (sha256 : Sha256) (s : CampaignState Digest) (event : CampaignEvent Digest)
    (allowed : TruthfulStep sha256 s event) : FullSubmission sha256 event := by
  cases event with
  | createWorkload campaign now createdBy runners plans definitions => exact allowed
  | _ => trivial

section Steps

variable (sha256 : Sha256) (zones : Zones) (digest : Json → Digest)

theorem excused_step (s next : CampaignState Digest) (inv : CampaignInvariant s) (excused : CancelledExcused s.store)
    (event : CampaignEvent Digest) (allowed : TruthfulStep sha256 s event)
    (taken : campaignStep sha256 zones digest s event = some next) : CancelledExcused next.store := by
  cases store_effect sha256 zones digest s next event taken with
  | kept _ same =>
      rw [same]
      exact excused
  | created campaign done =>
      obtain ⟨_, same, _⟩ := campaign_inserted campaign s.store next.store inv.sound done
      rw [same]
      exact excused
  | submitted campaign now createdBy runners plans definitions done =>
      obtain ⟨fresh, _, _, adds, _⟩ := workload_created sha256 campaign now s.store next.store runners definitions inv.sound done
      apply adds_excused s.store next.store campaign adds _ excused
      intro id task read same
      exact fresh (same ▸ inv.owners id task read)
  | requested owner runners done => exact runners_excused s.store next.store owner runners inv.sound done excused allowed
  | emitted id index runner now row dispatch read found done =>
      have single : [runner].foldlM (insertRunner (some dispatch.campaign)) s.store = .ok next.store :=
        (fold_ok _ _ _ _ _).mpr ⟨next.store, done, (fold_nil _ _ _).mpr rfl⟩
      apply runners_excused s.store next.store (some dispatch.campaign) [runner] inv.sound single excused
      intro campaign mine _
      cases mine
      exact allowed row dispatch read found
  | cancelled campaign now same =>
      rw [same]
      apply cancel_excused s.store now campaign excused _ allowed
      intro opened
      obtain ⟨id, task, read, mine, _⟩ := (instance_found s.store campaign _).mp opened
      exact mine ▸ inv.owners id task read
  | called call other same =>
      obtain ⟨rank, progress⟩ := inv.sound
      rw [same]
      exact call_excused digest s.store call progress.tasks other excused

-- An outcome is succeeded only of a campaign that ran, and whose Runners and
-- TaskInstances have neither failed nor been cancelled; a status is pending
-- exactly while the campaign can work.
def TruthfulStatus (s : CampaignState Digest) (campaign : CampaignId) (runtime : CampaignRuntime) : Prop :=
  (runtime.outcome = .succeeded →
    (∃ rid runner, s.store.runners.get rid = some runner ∧ runner.campaign = some campaign) ∧
    (∀ rid runner, s.store.runners.get rid = some runner → runner.campaign = some campaign → runner.status = .succeeded) ∧
    ∀ id task, s.store.instances.get id = some task → task.campaign = campaign → ¬ stopped task) ∧
  (runtime.status.pending = true ↔ CanWork s campaign)

theorem excused_succeeded (s : CampaignState Digest) (campaign : CampaignId) (runtime : CampaignRuntime)
    (excused : CancelledExcused s.store) (shown : getCampaignStatus s campaign = some runtime)
    (succeeded : runtime.outcome = .succeeded) :
    (∃ rid runner, s.store.runners.get rid = some runner ∧ runner.campaign = some campaign) ∧
    (∀ rid runner, s.store.runners.get rid = some runner → runner.campaign = some campaign → runner.status = .succeeded) ∧
    ∀ id task, s.store.instances.get id = some task → task.campaign = campaign → ¬ stopped task := by
  rw [getCampaignStatus] at shown
  split at shown
  · cases shown
  · cases shown
    obtain ⟨_, manned, all, unfailed⟩ := (succeeded_outcome _ _ _ _).mp succeeded
    obtain ⟨status, listed⟩ := List.exists_mem_of_ne_nil _ manned
    obtain ⟨rid, runner, read, mine, _⟩ := (runner_listed s campaign status).mp listed
    have runners : ∀ rid runner, s.store.runners.get rid = some runner → runner.campaign = some campaign →
        runner.status = .succeeded := by
      intro rid runner read mine
      exact all _ ((runner_listed s campaign _).mpr ⟨rid, runner, read, mine, rfl⟩)
    have unbroken : hasFailed s.store campaign ≠ true := by
      intro failed
      obtain ⟨id, task, found, owns, state⟩ := (instance_found s.store campaign _).mp failed
      exact unfailed ((task_listed s campaign _).mpr ⟨id, task, found, owns, of_decide_eq_true state⟩)
    refine ⟨⟨rid, runner, read, mine⟩, runners, ?_⟩
    intro id task found owns halted
    cases halted with
    | inl failed => exact unbroken ((instance_found s.store campaign _).mpr ⟨id, task, found, owns, decide_eq_true failed⟩)
    | inr cancelled =>
        cases excused campaign ((instance_found s.store campaign _).mpr ⟨id, task, found, owns, decide_eq_true cancelled⟩) with
        | inr rest =>
            cases rest with
            | inl failed => exact unbroken failed
            | inr idle =>
                have present := (staffed_found s.store campaign).mpr ⟨rid, runner, read, mine⟩
                rw [idle.1] at present
                cases present
        | inl recorded =>
            obtain ⟨other, marked, there, paid, mark⟩ := recorded
            rw [Marked, runners other marked there paid] at mark
            simp at mark

theorem campaign_outcome_truthful (events : List (CampaignEvent Digest)) (s : CampaignState Digest)
    (allowed : EveryStep (campaignStep sha256 zones digest) (TruthfulStep sha256) emptyState events)
    (reached : run (campaignStep sha256 zones digest) emptyState events = some s) (campaign : CampaignId)
    (runtime : CampaignRuntime) (shown : getCampaignStatus s campaign = some runtime) : TruthfulStatus s campaign runtime := by
  have start : CancelledExcused (emptyState : CampaignState Digest).store := by
    intro other cancelled
    cases cancelled
  obtain ⟨inv, populated, excused⟩ := run_keeps (campaignStep sha256 zones digest) (TruthfulStep sha256)
    (fun state => CampaignInvariant state ∧ Populated state.store ∧ CancelledExcused state.store)
    (by
      intro state event next held allowed taken
      obtain ⟨inv, populated, excused⟩ := held
      obtain ⟨after, fills⟩ := campaign_step_sound sha256 zones digest state next inv event taken
      exact ⟨after, fills (truthful_full sha256 state event allowed) populated,
        excused_step sha256 zones digest state next inv excused event allowed taken⟩)
    events emptyState s ⟨empty_invariant, empty_populated, start⟩ allowed reached
  refine ⟨excused_succeeded s campaign runtime excused shown, ?_⟩
  have same : runtime.status.pending = campaignPending s campaign := by
    rw [getCampaignStatus] at shown
    split at shown
    · cases shown
    · cases shown
      rfl
  rw [same]
  exact ⟨pending_works s campaign inv populated, working_pending s campaign⟩

end Steps

def hashedRequest : RequestMetrics := ⟨none, none, none, none, some "hash", none, some 1, some 2⟩

def oneInstanceRun : List (CampaignEvent Json) :=
  [soleSubmission Compiler.narrowRecipe, .call (.activateNode runnerCaller "1" 0 "runner"),
    .call (.startSelected runnerCaller "runner" "scheduler"),
    .call (.completeRunner runnerCaller "runner" [hashedRequest] .succeeded none)]

def bothInstancesRun : List (CampaignEvent Json) :=
  oneInstanceRun ++ [.call (.activateNode runnerCaller "3" 0 "other"), .call (.startSelected runnerCaller "other" "scheduler"),
    .call (.completeRunner runnerCaller "other" [hashedRequest] .succeeded none)]

def settledState : CampaignState Json :=
  (run (campaignStep (fun _ => 0) utc id) emptyState bothInstancesRun).get (by decide +kernel)

def settledRuntime : CampaignRuntime := (getCampaignStatus settledState "campaign").get (by decide +kernel)

theorem campaign_outcome_truthful_settled :
    TruthfulStatus settledState "campaign" settledRuntime ∧ settledRuntime.outcome = .succeeded := by
  refine ⟨?_, by decide +kernel⟩
  apply campaign_outcome_truthful (fun _ => 0) utc id bothInstancesRun settledState
  · refine ⟨?_, fun _ _ => ⟨trivial, fun _ _ => ⟨trivial, fun _ _ => ⟨trivial, fun _ _ => ⟨trivial, fun _ _ => ⟨trivial,
      fun _ _ => ⟨trivial, fun _ _ => trivial⟩⟩⟩⟩⟩⟩⟩
    intro definition listed
    cases List.mem_singleton.mp listed
    exact narrow_fills
  · exact (Option.some_get _).symm
  · exact (Option.some_get _).symm

def abandonedState : CampaignState Json :=
  (run (campaignStep (fun _ => 0) utc id) emptyState (oneInstanceRun ++ [.cancelCampaign "campaign" 9])).get
    (by decide +kernel)

def abandonedRuntime : CampaignRuntime := (getCampaignStatus abandonedState "campaign").get (by decide +kernel)

theorem abandoned_campaign_succeeds :
    run (campaignStep (fun _ => 0) utc id) emptyState (oneInstanceRun ++ [.cancelCampaign "campaign" 9]) =
        some abandonedState ∧
      getCampaignStatus abandonedState "campaign" = some abandonedRuntime ∧
      ¬ TruthfulStatus abandonedState "campaign" abandonedRuntime := by
  refine ⟨(Option.some_get _).symm, (Option.some_get _).symm, ?_⟩
  intro truthful
  have succeeded : abandonedRuntime.outcome = .succeeded := by decide +kernel
  have dropped : (abandonedState.store.instances.get "2").map (fun task => (task.campaign, task.state)) =
      some ("campaign", .cancelled) := by decide +kernel
  obtain ⟨task, read, both⟩ := Option.map_eq_some_iff.mp dropped
  exact (truthful.1 succeeded).2.2 "2" task read (congrArg Prod.fst both) (.inr (congrArg Prod.snd both))

end

end LlmperfOrchestrator.Campaign

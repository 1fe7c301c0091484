import LlmperfOrchestrator.Campaign.Outcome
import LlmperfOrchestrator.Campaign.SubmittedGraphs
import LlmperfOrchestrator.Storage.CallFates

set_option autoImplicit false

namespace LlmperfOrchestrator.Campaign

open Tables Outcomes Runs Storage Plans
open Compiler (Sha256)
open Runtime.Recurrence (Zones)

section Plans

variable (zones : Zones)

def Scheduled (plan : RunnerPlan) : Prop := plan.status = .active ∨ plan.status = .paused → plan.nextFireAt ≠ none

theorem new_plan_scheduled (campaign : CampaignId) (timing : Runtime.Recurrence.RunnerPlanTiming) (template : Json)
    (version createdBy : String) (runtime : Option String) (startsAt now : Int) (plan : RunnerPlan)
    (adjustments : List Runtime.Recurrence.Adjustment)
    (done : newRunnerPlan zones campaign timing template version createdBy runtime startsAt now = .ok (plan, adjustments)) :
    Scheduled plan := by
  obtain ⟨⟨fire, _⟩, _, done⟩ := (bind_ok _ _ _).mp done
  cases done
  intro live
  dsimp only at live ⊢
  by_cases ended : ∃ endsAt ∈ timing.endsAt, endsAt < fire
  · rw [if_pos ended] at live
    cases live with
    | inl bad => cases bad
    | inr bad => cases bad
  · rw [if_neg ended]
    exact Option.some_ne_none fire

theorem complete_scheduled (plan : RunnerPlan) : Scheduled (completePlan plan) := by
  intro live
  cases live with
  | inl bad => cases bad
  | inr bad => cases bad

theorem advance_scheduled (plannerId : Option String) (progress next : Progress)
    (done : advance zones plannerId progress = .ok next) : Scheduled next.plan := by
  rw [advance] at done
  by_cases exhausted : planExhausted progress.plan
  · rw [if_pos exhausted] at done
    cases done
    exact complete_scheduled _
  · rw [if_neg exhausted] at done
    obtain ⟨⟨candidate, _⟩, _, done⟩ := (bind_ok _ _ _).mp done
    dsimp only at done
    split at done
    · cases done
      exact complete_scheduled _
    · cases done
      intro _
      exact Option.some_ne_none candidate

theorem skip_scheduled (plannerId : Option String) (boundary : Int) (fuel : Nat) (progress next : Progress)
    (before : Scheduled progress.plan) (done : skipMisfires zones plannerId boundary fuel progress = .ok next) :
    Scheduled next.plan := by
  induction fuel generalizing progress with
  | zero =>
      rw [skipMisfires] at done
      split at done
      · cases done
      · cases done
        exact before
  | succ fuel ih =>
      rw [skipMisfires] at done
      split at done
      · obtain ⟨middle, advanced, done⟩ := (bind_ok _ _ _).mp done
        have reached := advance_scheduled zones plannerId _ middle advanced
        split at done
        · cases done
          exact reached
        · exact ih middle reached done
      · cases done
        exact before

theorem materialized_scheduled (id : PlanId) (plan : RunnerPlan) (now : Int) (active pending : Nat) (plannerId : Option String)
    (made : Materialized) (before : Scheduled plan)
    (done : Plans.materializePlan zones id plan now active pending plannerId = .ok made) : Scheduled made.plan := by
  rw [Plans.materializePlan] at done
  cases due : plan.nextFireAt with
  | none =>
      rw [due] at done
      cases done
  | some nextFireAt =>
      rw [due] at done
      obtain ⟨skipped, skipping, done⟩ := (bind_ok _ _ _).mp done
      have reached := skip_scheduled zones plannerId _ _ _ skipped before skipping
      dsimp only at done
      split at done
      · cases done
        exact reached
      · obtain ⟨fired, advanced, done⟩ := (bind_ok _ _ _).mp done
        cases done
        exact advance_scheduled zones plannerId _ fired advanced

theorem changed_scheduled (row : PlanRow) (action : PlanAction) (now : Instant) (before : Scheduled row.plan) :
    Scheduled (row.changed action now).plan := by
  rw [PlanRow.changed]
  by_cases allowed : row.plan.status ∈ action.allowed
  · rw [if_pos allowed]
    intro _
    apply before
    cases action with
    | pause => exact .inl (List.mem_singleton.mp allowed)
    | resume => exact .inr (List.mem_singleton.mp allowed)
    | cancel => simpa [PlanAction.allowed] using allowed
  · rw [if_neg allowed]
    exact before

theorem cancel_plan_scheduled (campaign : CampaignId) (now : Instant) (row : PlanRow) (before : Scheduled row.plan) :
    Scheduled (cancelPlan campaign now row).plan := by
  rw [cancelPlan]
  dsimp only
  split
  · intro live
    cases live with
    | inl bad => cases bad
    | inr bad => cases bad
  · exact before

def AllScheduled (plans : Table PlanId PlanRow) : Prop := ∀ id row, plans.get id = some row → Scheduled row.plan

theorem put_scheduled (plans : Table PlanId PlanRow) (id : PlanId) (row : PlanRow) (before : AllScheduled plans)
    (here : Scheduled row.plan) : AllScheduled (plans.put id row) := by
  intro query found read
  cases table_put_cases _ _ _ _ _ read with
  | inl same => exact same.2 ▸ here
  | inr older => exact before query found older.2

theorem insert_plan_scheduled (campaign : CampaignId) (now : Instant) (createdBy : String) (plans next : Table PlanId PlanRow)
    (submitted : SubmittedPlan) (before : AllScheduled plans)
    (done : insertPlan zones campaign now createdBy plans submitted = .ok next) : AllScheduled next := by
  obtain ⟨⟨plan, adjustments⟩, made, done⟩ := (bind_ok _ _ _).mp done
  dsimp only at done
  split at done
  · cases done
  · cases done
    exact put_scheduled plans _ _ before (new_plan_scheduled zones _ _ _ _ _ _ _ _ plan adjustments made)

end Plans

section Steps

variable {Digest : Type} [DecidableEq Digest] (sha256 : Sha256) (zones : Zones) (digest : Json → Digest)
  (s next : CampaignState Digest)

inductive StoreEffect : CampaignEvent Digest → Prop where
  | kept (event : CampaignEvent Digest) (same : next.store = s.store) : StoreEffect event
  | created (campaign : CampaignId) (done : insertCampaign s.store campaign = .ok next.store) :
      StoreEffect (.createCampaign campaign)
  | submitted (campaign : CampaignId) (now : Instant) (createdBy : String) (runners : List PlainRunner)
      (plans : List SubmittedPlan) (definitions : List TaskDefinition)
      (done : createWorkload sha256 s.store campaign now runners definitions = .ok next.store) :
      StoreEffect (.createWorkload campaign now createdBy runners plans definitions)
  | requested (owner : Option CampaignId) (runners : List PlainRunner)
      (done : runners.foldlM (insertRunner owner) s.store = .ok next.store) : StoreEffect (.createRunners owner runners)
  | emitted (id : PlanId) (index : Nat) (runner : PlainRunner) (now : Instant) (row : PlanRow) (dispatch : Dispatch)
      (read : s.plans.get id = some row) (found : row.dispatches[index]? = some dispatch)
      (done : insertRunner (some dispatch.campaign) s.store runner = .ok next.store) :
      StoreEffect (.emitDispatch id index runner now)
  | cancelled (campaign : CampaignId) (now : Instant) (same : next.store = requestCancelCampaign s.store now campaign) :
      StoreEffect (.cancelCampaign campaign now)
  | called (call : Call Digest) (other : ∀ now campaign, call ≠ .requestCancelCampaign now campaign)
      (same : next.store = (perform digest s.store call).1) : StoreEffect (.call call)

theorem committed_keeps (holds : CampaignState Digest → Prop) (outcome : Except String (CampaignState Digest)) (start : holds s)
    (returned : ∀ after, outcome = .ok after → holds after) : holds (committed s outcome) := by
  cases outcome with
  | ok after => exact returned after rfl
  | error message => exact start

theorem store_effect (event : CampaignEvent Digest) (taken : campaignStep sha256 zones digest s event = some next) :
    StoreEffect sha256 digest s next event := by
  cases event with
  | createCampaign campaign =>
      cases taken
      apply committed_keeps s (fun after => StoreEffect sha256 digest s after (.createCampaign campaign)) _ (.kept _ rfl)
      intro after done
      cases inserted : insertCampaign s.store campaign with
      | error message =>
          rw [inserted] at done
          cases done
      | ok store =>
          rw [inserted] at done
          cases done
          exact .created campaign inserted
  | createWorkload campaign now createdBy runners plans definitions =>
      cases taken
      apply committed_keeps s (fun after => StoreEffect sha256 digest s after
        (.createWorkload campaign now createdBy runners plans definitions)) _ (.kept _ rfl)
      intro after done
      obtain ⟨store, created, done⟩ := (bind_ok _ _ _).mp done
      obtain ⟨_, _, done⟩ := (bind_ok _ _ _).mp done
      cases done
      exact .submitted campaign now createdBy runners plans definitions created
  | createRunners owner runners =>
      cases taken
      apply committed_keeps s (fun after => StoreEffect sha256 digest s after (.createRunners owner runners)) _ (.kept _ rfl)
      intro after done
      rw [createRunners] at done
      split at done
      · cases done
        exact .kept _ rfl
      · obtain ⟨store, added, done⟩ := (bind_ok _ _ _).mp done
        cases done
        exact .requested owner runners added
  | createPlan campaign now createdBy plan =>
      cases taken
      apply committed_keeps s (fun after => StoreEffect sha256 digest s after (.createPlan campaign now createdBy plan)) _
        (.kept _ rfl)
      intro after done
      rw [createRunnerPlan] at done
      split at done
      · cases done
        exact .kept _ rfl
      · obtain ⟨_, _, done⟩ := (bind_ok _ _ _).mp done
        cases done
        exact .kept _ rfl
  | changePlan id action now =>
      cases taken
      apply StoreEffect.kept
      rw [changeRunnerPlan]
      split <;> rfl
  | materializePlan id now plannerId =>
      cases taken
      apply committed_keeps s (fun after => StoreEffect sha256 digest s after (.materializePlan id now plannerId)) _ (.kept _ rfl)
      intro after done
      rw [materialize] at done
      split at done
      · cases done
        exact .kept _ rfl
      · obtain ⟨_, _, done⟩ := (bind_ok _ _ _).mp done
        cases done
        exact .kept _ rfl
  | emitDispatch id index runner now =>
      cases taken
      apply committed_keeps s (fun after => StoreEffect sha256 digest s after (.emitDispatch id index runner now)) _ (.kept _ rfl)
      intro after done
      rw [emitPlanDispatch] at done
      split at done
      · cases done
        exact .kept _ rfl
      · rename_i row read
        split at done
        · cases done
          exact .kept _ rfl
        · rename_i dispatch found
          obtain ⟨_, _, done⟩ := (bind_ok _ _ _).mp done
          obtain ⟨store, added, done⟩ := (bind_ok _ _ _).mp done
          cases done
          exact .emitted id index runner now row dispatch read (Option.filter_eq_some_iff.mp found).1 added
  | cancelCampaign campaign now =>
      cases taken
      rw [cancelCampaign]
      split
      · exact .kept _ rfl
      · exact .cancelled campaign now rfl
  | call call =>
      cases call with
      | requestCancelCampaign now campaign => cases taken
      | _ =>
          cases taken
          exact .called _ (by intro now campaign same; cases same) rfl

theorem scheduled_step (event : CampaignEvent Digest) (before : AllScheduled s.plans)
    (taken : campaignStep sha256 zones digest s event = some next) : AllScheduled next.plans := by
  cases event with
  | createCampaign campaign =>
      cases taken
      apply committed_keeps s (fun after => AllScheduled after.plans) _ before
      intro after done
      cases inserted : insertCampaign s.store campaign with
      | error message =>
          rw [inserted] at done
          cases done
      | ok store =>
          rw [inserted] at done
          cases done
          exact before
  | createWorkload campaign now createdBy runners plans definitions =>
      cases taken
      apply committed_keeps s (fun after => AllScheduled after.plans) _ before
      intro after done
      obtain ⟨_, _, done⟩ := (bind_ok _ _ _).mp done
      obtain ⟨grown, inserted, done⟩ := (bind_ok _ _ _).mp done
      cases done
      apply fold_keeps _ AllScheduled _ plans s.plans grown before inserted
      intro state plan after held taken
      exact insert_plan_scheduled zones campaign now createdBy state after plan held taken
  | createRunners owner runners =>
      cases taken
      apply committed_keeps s (fun after => AllScheduled after.plans) _ before
      intro after done
      rw [createRunners] at done
      split at done
      · cases done
        exact before
      · obtain ⟨_, _, done⟩ := (bind_ok _ _ _).mp done
        cases done
        exact before
  | createPlan campaign now createdBy plan =>
      cases taken
      apply committed_keeps s (fun after => AllScheduled after.plans) _ before
      intro after done
      rw [createRunnerPlan] at done
      split at done
      · cases done
        exact before
      · obtain ⟨grown, inserted, done⟩ := (bind_ok _ _ _).mp done
        cases done
        exact insert_plan_scheduled zones campaign now createdBy s.plans grown plan before inserted
  | changePlan id action now =>
      cases taken
      rw [changeRunnerPlan]
      split
      · exact before
      · rename_i row read
        exact put_scheduled s.plans id _ before (changed_scheduled row action now (before id row read))
  | materializePlan id now plannerId =>
      cases taken
      apply committed_keeps s (fun after => AllScheduled after.plans) _ before
      intro after done
      rw [materialize] at done
      split at done
      · cases done
        exact before
      · rename_i row found
        obtain ⟨made, materialized, done⟩ := (bind_ok _ _ _).mp done
        cases done
        apply put_scheduled s.plans id _ before
        exact materialized_scheduled zones id row.plan now _ _ plannerId made
          (before id row (Option.filter_eq_some_iff.mp found).1) materialized
  | emitDispatch id index runner now =>
      cases taken
      apply committed_keeps s (fun after => AllScheduled after.plans) _ before
      intro after done
      rw [emitPlanDispatch] at done
      split at done
      · cases done
        exact before
      · rename_i row read
        split at done
        · cases done
          exact before
        · obtain ⟨_, _, done⟩ := (bind_ok _ _ _).mp done
          obtain ⟨_, _, done⟩ := (bind_ok _ _ _).mp done
          cases done
          exact put_scheduled s.plans id _ before (before id row read)
  | cancelCampaign campaign now =>
      cases taken
      rw [cancelCampaign]
      split
      · exact before
      · intro id row read
        change (s.plans.update _).get id = some row at read
        rw [table_get_update, Option.map_eq_some_iff] at read
        obtain ⟨old, found, same⟩ := read
        rw [← same]
        exact cancel_plan_scheduled campaign now old (before id old found)
  | call call =>
      cases call with
      | requestCancelCampaign now campaign => cases taken
      | _ =>
          cases taken
          exact before

end Steps

end LlmperfOrchestrator.Campaign

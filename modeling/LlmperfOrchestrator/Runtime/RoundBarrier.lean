import LlmperfOrchestrator.Runtime.DependencySafety

set_option autoImplicit false

namespace LlmperfOrchestrator.Runtime

open Tables Storage Runs Compiler

section

variable {Digest : Type} [DecidableEq Digest]

def QueuesHold (holds : RunnerId → Prop) (coordinator : Coordinator) : Prop :=
  ∀ key queue, Dict.get key coordinator.queues = some queue → ∀ rid ∈ queue, holds rid

variable (holds : RunnerId → Prop)

theorem enqueue_one_holds (coordinator : Coordinator) (rid : RunnerId) (key : String) (before : QueuesHold holds coordinator)
    (here : holds rid) : QueuesHold holds (enqueueOne coordinator rid key) := by
  intro query queue found other member
  simp only [enqueueOne, dict_get_put] at found
  split at found
  · cases found
    rcases List.mem_append.mp member with old | fresh
    · cases known : Dict.get key coordinator.queues with
      | none => simp [known] at old
      | some earlier =>
          rw [known, Option.getD_some] at old
          exact before key earlier known other old
    · exact List.mem_singleton.mp fresh ▸ here
  · exact before query queue found other member

theorem enqueue_runners_holds (rows : List (RunnerId × Option CampaignId)) (coordinator : Coordinator)
    (before : QueuesHold holds coordinator) (all : ∀ row ∈ rows, holds row.1) : QueuesHold holds (enqueueRunners coordinator rows) := by
  induction rows generalizing coordinator with
  | nil => exact before
  | cons row rest ih =>
      have later := fun row member => all row (List.mem_cons_of_mem _ member)
      unfold enqueueRunners
      split
      · exact before
      · split
        · exact ih coordinator before later
        · exact ih _ (enqueue_one_holds holds coordinator _ _ before (all row List.mem_cons_self)) later

theorem claim_ready_holds (coordinator next : Coordinator) (rid : RunnerId) (before : QueuesHold holds coordinator)
    (taken : claimReady coordinator = some (next, rid)) : QueuesHold holds next ∧ holds rid := by
  unfold claimReady at taken
  split at taken
  · cases taken
  · rename_i campaign rest _
    split at taken
    · cases taken
    · cases taken
    · rename_i first remaining found
      have head : holds first := before campaign _ found first List.mem_cons_self
      split at taken
      · cases taken
        refine ⟨fun query queue read => ?_, head⟩
        rw [dict_get_pop] at read
        split at read
        · cases read
        · exact before query queue read
      · cases taken
        refine ⟨fun query queue read other member => ?_, head⟩
        rw [dict_get_put] at read
        split at read
        · cases read
          exact before campaign _ found other (List.mem_cons_of_mem _ member)
        · exact before query queue read other member

theorem after_activation_holds (coordinator : Coordinator) (store : Store Digest) (instanceId : InstanceId)
    (activated : Option RunnerId) (before : QueuesHold holds coordinator) (here : ∀ rid, activated = some rid → holds rid) :
    QueuesHold holds (afterActivation coordinator store instanceId activated) := by
  cases activated with
  | none => exact before
  | some rid =>
      refine enqueue_runners_holds holds _ _ before fun row member => ?_
      rw [List.mem_singleton.mp member]
      exact here rid rfl

theorem admission_keeps (digest : Json → Digest) (s next : System Digest) (event : Event Digest)
    (taken : systemStep digest s event = some next) (holds : RunnerId → Prop) (queues : QueuesHold holds s.coordinator)
    (claims : ∀ rid ∈ s.claims, holds rid)
    (selected : ∀ k pass, Dict.get k s.passes = some pass → pass.stage = .nodes → ∀ row ∈ selectedRunners pass, holds row.1)
    (activated : ∀ nodeId dueAt fresh rid,
      (perform digest s.store (.activateNode (callerOf s) nodeId dueAt fresh)).2 = .emitted (some rid) →
      next.store = (perform digest s.store (.activateNode (callerOf s) nodeId dueAt fresh)).1 → holds rid) :
    QueuesHold holds next.coordinator ∧ ∀ rid ∈ next.claims, holds rid := by
  cases event with
  | call call =>
      simp only [systemStep] at taken
      split at taken <;> cases taken
      exact ⟨queues, claims⟩
  | tick later =>
      simp only [systemStep] at taken
      split at taken <;> cases taken
      exact ⟨queues, claims⟩
  | readRunners k hint =>
      rw [read_runners_some s next k hint taken]
      exact ⟨queues, claims⟩
  | readRounds k | readInstances k | readNodes k | decide k =>
      obtain ⟨_, _, _, done⟩ := on_pass_some s next k _ _ taken
      cases done
      exact ⟨queues, claims⟩
  | enqueue k =>
      obtain ⟨pass, held, reached, done⟩ := on_pass_some s next k _ _ taken
      cases done
      exact ⟨enqueue_runners_holds holds _ _ queues (selected k pass held reached), claims⟩
  | activate k fresh =>
      obtain ⟨pass, _, _, done⟩ := on_pass_some s next k _ _ taken
      cases activate_pass_some digest s next k pass fresh done with
      | taken instanceId nodeId dueAt pending rest emitted first reply same =>
          subst same
          refine ⟨after_activation_holds holds _ _ instanceId emitted queues fun rid named => ?_, claims⟩
          exact activated nodeId dueAt fresh rid (reply.trans (by rw [named])) rfl
      | raised instanceId nodeId dueAt pending rest first same =>
          rw [same]
          exact ⟨queues, claims⟩
  | claim =>
      obtain ⟨⟨coordinator, rid⟩, popped, rfl⟩ := Option.map_eq_some_iff.mp taken
      obtain ⟨kept, head⟩ := claim_ready_holds holds s.coordinator coordinator rid queues popped
      exact ⟨kept, fun other member => (List.mem_cons.mp member).elim (fun same => same ▸ head) (claims other)⟩
  | start rid owner =>
      simp only [systemStep] at taken
      split at taken <;> cases taken
      obtain ⟨_, _, _, sameQueues, sameClaims⟩ := start_step_frame digest s rid owner
      refine ⟨?_, fun other member => claims other (List.mem_of_mem_erase (sameClaims ▸ member))⟩
      unfold QueuesHold
      rw [sameQueues]
      exact queues
  | abandon rid =>
      simp only [systemStep] at taken
      split at taken <;> cases taken
      exact ⟨queues, fun other member => claims other (List.mem_of_mem_erase member)⟩
  | own | finish | release =>
      cases taken
      exact ⟨queues, claims⟩
  | stop =>
      cases taken
      exact ⟨(fun _ _ bad => by cases bad), claims⟩

end

section

variable {Digest : Type} [DecidableEq Digest]

-- Every Runner of an earlier round of the same campaign has ended. Runners
-- outside of a campaign or of all rounds are under no barrier.
def Cleared (store : Store Digest) (rid : RunnerId) : Prop :=
  ∀ runner campaign round, store.runners.get rid = some runner → runner.campaign = some campaign →
    runner.template.round = some round → ∀ other earlier index, store.runners.get other = some earlier →
    earlier.campaign = some campaign → earlier.template.round = some index → index < round → earlier.status.terminal = true

-- Only the Backend assigns rounds, and only to the Runners of a submission.
def Roundless (store : Store Digest) : Prop := ∀ id node, store.nodes.get id = some node → node.template.round = none

variable (s next : Store Digest)

theorem roundless_goes (goes : StoreGoes s next) (roundless : Roundless s) : Roundless next := by
  intro id after read
  obtain ⟨before, found, gone⟩ := goes.places id after read
  rw [gone.template]
  exact roundless id before found

theorem round_stays (goes : StoreGoes s next) (roundless : Roundless s) (rid : RunnerId) (after : Runner) (round : Nat)
    (read : next.runners.get rid = some after) (placed : after.template.round = some round) :
    ∃ before, s.runners.get rid = some before ∧ RunnerMoves before after := by
  cases known : s.runners.get rid with
  | none =>
      obtain ⟨id, node, found, template⟩ := goes.origins rid after read known
      rw [template, roundless id node found] at placed
      cases placed
  | some before =>
      obtain ⟨current, found, moved⟩ := goes.runners rid before known
      cases Option.some.inj (read.symm.trans found)
      exact ⟨before, rfl, moved⟩

theorem cleared_goes (goes : StoreGoes s next) (roundless : Roundless s) (rid : RunnerId) (cleared : Cleared s rid) :
    Cleared next rid := by
  intro runner campaign round read owned placed other earlier index readOther ownedOther placedOther less
  obtain ⟨before, found, moved⟩ := round_stays s next goes roundless rid runner round read placed
  obtain ⟨beforeOther, foundOther, movedOther⟩ := round_stays s next goes roundless other earlier index readOther placedOther
  have past := cleared before campaign round found (moved.campaign ▸ owned) (moved.template ▸ placed) other beforeOther index
    foundOther (movedOther.campaign ▸ ownedOther) (movedOther.template ▸ placedOther) less
  rw [movedOther.terminal past]
  exact past

theorem campaign_key_states (store : Store Digest) (rows : List (RunnerId × Runner)) (campaign : CampaignId) (index : Nat) :
    index ∈ unfinishedRounds campaign (roundStates store rows) ↔ campaign ∈ roundCampaigns rows ∧
      ∃ rid runner, store.runners.get rid = some runner ∧ runner.campaign = some campaign ∧
        runner.template.round = some index ∧ runner.status.terminal = false := by
  simp only [unfinishedRounds, roundStates, List.mem_filterMap, Option.map_eq_some_iff]
  constructor
  · rintro ⟨state, ⟨⟨rid, runner⟩, listed, round, placed, rfl⟩, held⟩
    obtain ⟨read, selected⟩ := (table_filter store.runners _ rid runner).mp listed
    obtain ⟨member, open_⟩ := of_decide_eq_true selected
    obtain ⟨owner, owned, known⟩ := (Option.any_eq_true _ _).mp member
    split at held
    · rename_i same
      dsimp only at same held
      rw [owned] at same
      obtain rfl : owner = campaign := same.1
      obtain rfl : round = index := Option.some.inj held
      exact ⟨of_decide_eq_true known, rid, runner, read, owned, placed, open_⟩
    · cases held
  · rintro ⟨known, rid, runner, read, owned, placed, open_⟩
    refine ⟨⟨runner.campaign, runner.status, index⟩, ⟨(rid, runner), (table_filter store.runners _ rid runner).mpr ⟨read, ?_⟩,
      index, placed, rfl⟩, ?_⟩
    · simp [owned, known, open_]
    · simp [owned, campaignKey, open_]

structure Earliest (store : Store Digest) (campaign : CampaignId) (round : Nat) : Prop where
  unfinished : ∃ rid runner, store.runners.get rid = some runner ∧ runner.campaign = some campaign ∧
    runner.template.round = some round ∧ runner.status.terminal = false
  least : ∀ rid runner index, store.runners.get rid = some runner → runner.campaign = some campaign →
    runner.template.round = some index → runner.status.terminal = false → round ≤ index

theorem round_campaign_mem (rows : List (RunnerId × Runner)) (rid : RunnerId) (runner : Runner) (campaign : CampaignId) (round : Nat)
    (member : (rid, runner) ∈ rows) (owned : runner.campaign = some campaign) (placed : runner.template.round = some round) :
    campaign ∈ roundCampaigns rows :=
  List.mem_filterMap.mpr ⟨(rid, runner), member, by simp [placed, owned]⟩

theorem earliest_states (store : Store Digest) (rows : List (RunnerId × Runner)) (campaign : CampaignId) (round : Nat)
    (known : campaign ∈ roundCampaigns rows) :
    (unfinishedRounds campaign (roundStates store rows)).min? = some round ↔ Earliest store campaign round := by
  rw [List.min?_eq_some_iff]
  constructor
  · rintro ⟨member, least⟩
    exact ⟨((campaign_key_states store rows campaign round).mp member).2, fun rid runner index read owned placed open_ =>
      least index ((campaign_key_states store rows campaign index).mpr ⟨known, rid, runner, read, owned, placed, open_⟩)⟩
  · rintro ⟨unfinished, least⟩
    refine ⟨(campaign_key_states store rows campaign round).mpr ⟨known, unfinished⟩, fun index member => ?_⟩
    obtain ⟨_, rid, runner, read, owned, placed, open_⟩ := (campaign_key_states store rows campaign index).mp member
    exact least rid runner index read owned placed open_

theorem selected_iff (store : Store Digest) (rows : List (RunnerId × Runner)) (rid : RunnerId) (runner : Runner)
    (campaign : CampaignId) (round : Nat) (owned : runner.campaign = some campaign) (placed : runner.template.round = some round)
    (member : (rid, runner) ∈ rows) :
    (rid, runner) ∈ readyRoundRunners rows (roundStates store rows) ↔ Earliest store campaign round := by
  rw [selected_round, placed, owned, ← earliest_states store rows campaign round
    (round_campaign_mem rows rid runner campaign round member owned placed)]
  simp [member, campaignKey, eq_comm]

structure BarrierPass (store : Store Digest) (pass : Pass) : Prop where
  rows : ∀ row ∈ pass.runners, ∃ runner, store.runners.get row.1 = some runner ∧ RunnerMoves row.2 runner
  cleared : pass.stage ≠ .runners → ∀ row ∈ readyRoundRunners pass.runners pass.rounds, Cleared store row.1

theorem barrier_pass_goes (goes : StoreGoes s next) (roundless : Roundless s) (pass : Pass) (barred : BarrierPass s pass) :
    BarrierPass next pass := by
  refine ⟨fun row member => ?_, fun reached row member => cleared_goes s next goes roundless row.1 (barred.cleared reached row member)⟩
  obtain ⟨before, read, early⟩ := barred.rows row member
  obtain ⟨after, found, late⟩ := goes.runners row.1 before read
  exact ⟨after, found, runner_moves_trans row.2 before after early late⟩

theorem selection_cleared (store : Store Digest) (rows : List (RunnerId × Runner))
    (known : ∀ row ∈ rows, ∃ runner, store.runners.get row.1 = some runner ∧ RunnerMoves row.2 runner)
    (row : RunnerId × Runner) (selected : row ∈ readyRoundRunners rows (roundStates store rows)) : Cleared store row.1 := by
  obtain ⟨rid, old⟩ := row
  have member := ((selected_round rows _ rid old).mp selected).1
  intro runner campaign round read owned placed other earlier index readOther ownedOther placedOther less
  obtain ⟨current, found, moved⟩ := known _ member
  cases Option.some.inj (read.symm.trans found)
  have earliest := (selected_iff store rows rid old campaign round (moved.campaign ▸ owned) (moved.template ▸ placed) member).mp selected
  cases past : earlier.status.terminal with
  | true => rfl
  | false => exact absurd (earliest.least other earlier index readOther ownedOther placedOther past) (Nat.not_le.mpr less)

def BarrierPasses (s : System Digest) : Prop := ∀ k pass, Dict.get k s.passes = some pass → BarrierPass s.store pass

theorem pass_effect_barred (s : System Digest) (pass : Pass) (barred : BarrierPasses s) (effect : PassEffect s pass) :
    BarrierPass s.store pass := by
  cases effect with
  | kept k pass held => exact barred k pass held
  | readRunners hint =>
      refine ⟨fun row member => ?_, fun bad => absurd rfl bad⟩
      dsimp only at member
      split at member
      · obtain ⟨rid, runner⟩ := row
        exact ⟨runner, ((table_filter s.store.runners _ rid runner).mp member).1, runner_moves_refl runner⟩
      · cases member
  | readRounds k before held reached =>
      have rows := (barred k before held).rows
      exact ⟨rows, fun _ row member => selection_cleared s.store before.runners rows row member⟩
  | readInstances k before held reached | readNodes k before held reached | enqueued k before held reached
    | decided k before held reached =>
      exact ⟨(barred k before held).rows, fun _ => (barred k before held).cleared (by simp [reached])⟩
  | activated k before held reached =>
      exact ⟨(barred k before held).rows, fun _ => (barred k before held).cleared (by simp [reached])⟩

structure BarrierInvariant (s : System Digest) : Prop where
  tasks : TaskInvariant s.store
  roundless : Roundless s.store
  passes : BarrierPasses s
  queues : QueuesHold (Cleared s.store) s.coordinator
  claims : ∀ rid ∈ s.claims, Cleared s.store rid

variable (digest : Json → Digest)

theorem activated_cleared (s : Store Digest) (tasks : TaskInvariant s) (roundless : Roundless s) (caller : Caller)
    (nodeId : DispatchId) (dueAt : Instant) (fresh rid : RunnerId)
    (reply : (perform digest s (.activateNode caller nodeId dueAt fresh)).2 = .emitted (some rid)) :
    Cleared (perform digest s (.activateNode caller nodeId dueAt fresh)).1 rid := by
  cases call_progress digest s (.activateNode caller nodeId dueAt fresh) tasks with
  | inPlace _ silent => exact absurd reply (silent rid).1
  | emitted _ _ _ other called replied effect =>
      cases called
      rw [replied] at reply
      cases reply
      cases effect with
      | emitted node task read waiting owner live free same =>
          intro runner campaign round found owned placed
          rw [same] at found
          cases Option.some.inj ((table_get_put_self _ _ _).symm.trans found)
          rw [fromDispatch, roundless nodeId node read] at placed
          cases placed
  | started _ _ _ _ _ called => cases called

theorem barrier_step (s : System Digest) (event : Event Digest) (next : System Digest) (inv : BarrierInvariant s)
    (taken : systemStep digest s event = some next) : BarrierInvariant next := by
  obtain ⟨goes, tasks⟩ := system_goes digest s next event inv.tasks taken
  have later := fun rid => cleared_goes s.store next.store goes inv.roundless rid
  have admitted := admission_keeps digest s next event taken (Cleared next.store)
    (fun key queue found rid member => later rid (inv.queues key queue found rid member))
    (fun rid member => later rid (inv.claims rid member))
    (fun k pass held reached row member => by
      obtain ⟨source, selected, rfl⟩ := List.mem_map.mp member
      exact later source.1 ((inv.passes k pass held).cleared (by simp [reached]) source selected))
    (fun nodeId dueAt fresh rid reply same => by
      rw [same]
      exact activated_cleared digest s.store inv.tasks inv.roundless _ nodeId dueAt fresh rid reply)
  exact ⟨tasks, roundless_goes s.store next.store goes inv.roundless, fun k pass held =>
    barrier_pass_goes s.store next.store goes inv.roundless pass
      (pass_effect_barred s pass inv.passes (pass_effect digest s next event taken k pass held)), admitted.1, admitted.2⟩

theorem started_claimed (s next : System Digest) (event : Event Digest) (inv : BarrierInvariant s)
    (taken : systemStep digest s event = some next) (rid : RunnerId) (before : statusOf s.store rid ≠ some .running)
    (after : statusOf next.store rid = some .running) : rid ∈ s.claims := by
  have effect := (store_effect digest s next event taken).1
  generalize next.store = store at after effect
  cases effect with
  | still => exact absurd after before
  | foreign call kind =>
      rcases start_call digest s.store call inv.tasks rid after with running | ⟨_, _, _, rfl⟩
      · exact absurd running before
      · cases kind
  | activated k fresh pass instanceId nodeId dueAt pending rest held first =>
      rcases start_call digest s.store _ inv.tasks rid after with running | ⟨_, _, _, called⟩
      · exact absurd running before
      · cases called
  | started other owner claimed =>
      rcases start_call digest s.store _ inv.tasks rid after with running | ⟨_, _, _, called⟩
      · exact absurd running before
      · cases called
        exact claimed

structure BarrierContract (digest : Json → Digest) (s : System Digest) : Prop where
  barrier : ∀ event next rid, systemStep digest s event = some next → statusOf s.store rid ≠ some .running →
    statusOf next.store rid = some .running → Cleared s.store rid ∧ Cleared next.store rid
  snapshot : ∀ k next, systemStep digest s (.readRunners k none) = some next → ∃ pass, Dict.get k next.passes = some pass ∧
    ∀ rid runner, (rid, runner) ∈ pass.runners ↔
      s.store.runners.get rid = some runner ∧ runner.status = .queued ∧ runner.cancelRequested = false
  selected : ∀ k next, systemStep digest s (.readRounds k) = some next → ∃ pass, Dict.get k next.passes = some pass ∧
    ∀ rid runner, (rid, runner) ∈ pass.runners →
      (runner.template.round = none → (rid, runner) ∈ readyRoundRunners pass.runners pass.rounds) ∧
      ∀ campaign round, runner.campaign = some campaign → runner.template.round = some round →
        ((rid, runner) ∈ readyRoundRunners pass.runners pass.rounds ↔ Earliest s.store campaign round)

theorem set_pass_get (s : System Digest) (k : Nat) (pass : Pass) : Dict.get k (setPass s k pass).passes = some pass := by
  rw [setPass, dict_get_put, if_pos rfl]

theorem barrier_contract (s : System Digest) (inv : BarrierInvariant s) : BarrierContract digest s := by
  refine ⟨fun event next rid taken before after => ?_, fun k next taken => ?_, fun k next taken => ?_⟩
  · have cleared := inv.claims rid (started_claimed digest s next event inv taken rid before after)
    exact ⟨cleared, cleared_goes s.store next.store (system_goes digest s next event inv.tasks taken).1 inv.roundless rid cleared⟩
  · refine ⟨_, read_runners_some s next k none taken ▸ set_pass_get s k _, fun rid runner => ?_⟩
    rw [if_pos rfl, queuedRunners, table_filter, decide_eq_true_eq]
  · obtain ⟨pass, held, reached, done⟩ := on_pass_some s next k _ _ taken
    cases done
    refine ⟨_, set_pass_get s k _, fun rid runner member => ⟨fun none => ?_, fun campaign round owned placed => ?_⟩⟩
    · exact (selected_round _ _ rid runner).mpr ⟨member, .inl none⟩
    · exact selected_iff s.store pass.runners rid runner campaign round owned placed member

theorem fresh_barrier (s : System Digest) (fresh : FreshSystem s) (roundless : Roundless s.store) : BarrierInvariant s := by
  refine ⟨submitted_invariant s.store fresh.submitted, roundless, fun k pass held => ?_, fun key queue found => ?_, fun rid member => ?_⟩
  · rw [fresh.passes] at held
    cases held
  · rw [fresh.queues] at found
    cases found
  · rw [fresh.claims] at member
    cases member

theorem rounds_wait (digest : Json → Digest) (origin s : System Digest) (events : List (Event Digest)) (fresh : FreshSystem origin)
    (roundless : Roundless origin.store) (reached : run (systemStep digest) origin events = some s) : BarrierContract digest s :=
  barrier_contract digest s (run_invariant (systemStep digest) BarrierInvariant (barrier_step digest) events origin s
    (fresh_barrier origin fresh roundless) reached)

def roundRunner (round : Nat) : Runner := ⟨some "c", .queued, false, queuedTemplate none (some round) .blank, none, none, none, none⟩

def roundStore : Store Json where
  lease := none
  campaigns := ["c"]
  runners := (Table.empty.put "a" (roundRunner 1)).put "b" (roundRunner 2)
  instances := Table.empty
  nodes := Table.empty
  workers := Table.empty
  messages := Table.empty
  logs := []

def roundSystem : System Json := ⟨roundStore, 0, none, 1, idleCoordinator, [], []⟩

def roundPass : List (Event Json) := [.readRunners 0 none, .readRounds 0, .readInstances 0, .readNodes 0, .enqueue 0]

def roundEvents : List (Event Json) :=
  roundPass ++ [.claim, .start "a" "scheduler", .call (.completeRunner anyCaller "a" [] .succeeded none)] ++ roundPass ++
    [.claim, .start "b" "scheduler"]

theorem round_submitted : Submitted roundStore := by
  refine ⟨fun id task read => (by cases read), fun id node read => (by cases read), fun id node read => (by cases read),
    fun rid runner read => ?_⟩
  rcases table_put_cases _ _ _ _ _ read with ⟨_, rfl⟩ | ⟨_, older⟩
  · exact ⟨rfl, rfl⟩
  · rcases table_put_cases _ _ _ _ _ older with ⟨_, rfl⟩ | ⟨_, bad⟩
    · exact ⟨rfl, rfl⟩
    · cases bad

theorem rounds_wait_two : ∃ s, run (systemStep id) roundSystem roundEvents = some s ∧ BarrierContract id s ∧
    statusOf s.store "a" = some .succeeded ∧ statusOf s.store "b" = some .running :=
  ⟨_, rfl, rounds_wait id roundSystem _ roundEvents ⟨round_submitted, rfl, rfl, rfl⟩ (fun _ _ read => by cases read) rfl,
    rfl, rfl⟩

end

end LlmperfOrchestrator.Runtime

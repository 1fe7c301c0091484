import LlmperfOrchestrator.Campaign.ProgressCounts

set_option autoImplicit false

namespace LlmperfOrchestrator.Campaign

open Tables Tallies Runs Storage
open Compiler (Sha256)
open Runtime.Recurrence (Zones)

variable {Digest : Type} [DecidableEq Digest]

section Durable

variable (store : Store Digest)

theorem tally_members (campaign : CampaignId) (field : CountField) :
    tally (campaignWorkers store campaign) field =
      ((memberIds store campaign).map fun id => tally (ownWorkers store id) field).sum := by
  let weight := fun entry : WorkerId × Worker Digest =>
    share entry.2.state 1 (if entry.2.submittedAt.isSome then 1 else 0) field
  have total : tally (campaignWorkers store campaign) field =
      ((store.workers.rows.filter fun entry => campaignOf store entry.1.1 = some campaign).map weight).sum := by
    rw [tally, campaignWorkers, List.map_map]
    rfl
  have keyed := sum_by_keys (fun entry : WorkerId × Worker Digest => entry.1.1) weight (memberIds store campaign)
    (store.workers.rows.filter fun entry => campaignOf store entry.1.1 = some campaign) (member_ids_distinct store campaign)
    fun entry member => (member_ids store campaign entry.1.1).mpr (of_decide_eq_true (List.mem_filter.mp member).2)
  rw [total, ← keyed]
  apply congrArg List.sum
  apply List.map_congr_left
  intro id member
  have owned := (member_ids store campaign id).mp member
  have own : ((store.workers.rows.filter fun entry => campaignOf store entry.1.1 = some campaign).filter fun entry => entry.1.1 = id) =
      store.workers.rows.filter fun entry => entry.1.1 = id := by
    rw [List.filter_filter]
    apply List.filter_congr
    intro entry _
    by_cases here : entry.1.1 = id
    · simp [here, owned]
    · simp [here]
  rw [own, tally, ownWorkers, List.map_map]
  rfl

theorem members_sum (campaign : CampaignId) (weight : RunnerId → Runner → Int) :
    ((members store campaign).map fun entry => weight entry.1 entry.2).sum =
      ((memberIds store campaign).map fun id => ((store.runners.get id).map (weight id)).getD 0).sum := by
  rw [memberIds, Dict.keys, List.map_map]
  apply congrArg List.sum
  apply List.map_congr_left
  intro entry member
  have read := (table_mem store.runners entry.1 entry.2).mp (List.mem_filter.mp member).1
  simp [read]

omit [DecidableEq Digest] in
theorem submitted_tally (workers : List (Worker Digest)) (stamped : ∀ worker ∈ workers, Stamped worker) :
    tally workers .submitted =
      tally workers .pendingResults + tally workers .succeeded + tally workers .failed + tally workers .indeterminate := by
  induction workers with
  | nil => rfl
  | cons worker rest ih =>
      have later := ih fun other member => stamped other (List.mem_cons_of_mem worker member)
      have here := stamped worker List.mem_cons_self
      have split : ∀ field, tally (worker :: rest) field =
          share worker.state 1 (if worker.submittedAt.isSome then 1 else 0) field + tally rest field := fun _ => rfl
      rw [split, split, split, split, split, later, here]
      cases worker.state <;> simp [share, sent] <;> omega

omit [DecidableEq Digest] in
theorem tally_live (workers : List (Worker Digest)) (field : CountField) (live : field.live = true) : tally workers field = 0 := by
  rw [tally]
  apply List.sum_eq_zero
  intro value member
  obtain ⟨worker, _, rfl⟩ := List.mem_map.mp member
  cases field <;> first | rfl | cases live

theorem own_stamped (rows : WorkerRows store) (id : RunnerId) : ∀ worker ∈ ownWorkers store id, Stamped worker := by
  intro worker member
  obtain ⟨⟨key, other⟩, inside, rfl⟩ := List.mem_map.mp member
  exact rows.stamped key other ((table_mem store.workers key other).mp (List.mem_filter.mp inside).1)

theorem submitted_room (rows : WorkerRows store) (id : RunnerId) (runner : Runner) (read : store.runners.get id = some runner) :
    tally (ownWorkers store id) .submitted ≤ runner.template.plannedWorkers := by
  have few : ∀ workers : List (Worker Digest), tally workers .submitted ≤ workers.length := by
    intro workers
    induction workers with
    | nil => exact Int.le_refl 0
    | cons worker rest ih =>
        have split : tally (worker :: rest) .submitted =
            (if worker.submittedAt.isSome then 1 else 0 : Nat) + tally rest .submitted := rfl
        rw [split, List.length_cons]
        split <;> omega
  have owned : (ownWorkers store id).length = ownedWorkers store id := by
    rw [ownWorkers, List.length_map, ← List.countP_eq_length_filter, ownedWorkers, Table.count, total_countP]
  have bound := few (ownWorkers store id)
  have room := rows.room id runner read
  omega

theorem durable_sum (rows : WorkerRows store) (factory : FactoryRows store) (campaign : CampaignId) (field : CountField) :
    durableCounts ((members store campaign).map fun entry => (entry.2.template.plannedWorkers : Int)).sum
      (tally (campaignWorkers store campaign)) field =
      ((memberIds store campaign).map fun id => (storedOf store id).counts field).sum := by
  let ids := memberIds store campaign
  have known : ∀ id ∈ ids, ∃ runner, store.runners.get id = some runner ∧
      storedOf store id = storedProgress store id runner ∧
      rowPlanned runner.template.benchmark = runner.template.plannedWorkers := by
    intro id member
    obtain ⟨runner, read, _⟩ := Option.bind_eq_some_iff.mp ((member_ids store campaign id).mp member)
    exact ⟨runner, read, by rw [storedOf, read]; rfl, by rw [planned_agrees, factory.runners id runner read]⟩
  have planned : ((members store campaign).map fun entry => (entry.2.template.plannedWorkers : Int)).sum =
      (ids.map fun id => (storedOf store id).counts .planned).sum := by
    rw [members_sum store campaign fun _ runner => (runner.template.plannedWorkers : Int)]
    apply congrArg List.sum
    apply List.map_congr_left
    intro id member
    obtain ⟨runner, read, stored, column⟩ := known id member
    rw [read, stored, Option.map_some, Option.getD_some, ← column]
    rfl
  have tallied : ∀ field, field ≠ .planned → field ≠ .notSubmitted → tally (campaignWorkers store campaign) field =
      (ids.map fun id => (storedOf store id).counts field).sum := by
    intro field notPlanned notClamped
    rw [tally_members]
    apply congrArg List.sum
    apply List.map_congr_left
    intro id member
    obtain ⟨runner, _, stored, _⟩ := known id member
    rw [stored]
    simp [storedProgress, durableCounts, withNotSubmitted, Function.update_of_ne notClamped, notPlanned]
  by_cases clamped : field = .notSubmitted
  · have each : ∀ id ∈ ids, (storedOf store id).counts .notSubmitted =
        (storedOf store id).counts .planned - (storedOf store id).counts .submitted ∧
        (storedOf store id).counts .submitted ≤ (storedOf store id).counts .planned := by
      intro id member
      obtain ⟨runner, read, stored, column⟩ := known id member
      have room := submitted_room store rows id runner read
      rw [stored]
      simp only [storedProgress, durableCounts, withNotSubmitted, Function.update_self, ne_eq, reduceCtorEq, not_false_eq_true,
        Function.update_of_ne, if_true, if_false, column]
      omega
    have summed : ∀ members : List RunnerId, (∀ id ∈ members, id ∈ ids) →
        (members.map fun id => (storedOf store id).counts .notSubmitted).sum =
          (members.map fun id => (storedOf store id).counts .planned).sum -
            (members.map fun id => (storedOf store id).counts .submitted).sum ∧
        (members.map fun id => (storedOf store id).counts .submitted).sum ≤
          (members.map fun id => (storedOf store id).counts .planned).sum := by
      intro members inside
      induction members with
      | nil => exact ⟨rfl, Int.le_refl 0⟩
      | cons id rest ih =>
          have here := each id (inside id List.mem_cons_self)
          have later := ih fun other member => inside other (List.mem_cons_of_mem id member)
          simp only [List.map_cons, List.sum_cons]
          omega
    have total := summed ids fun _ member => member
    have submitted := tallied .submitted (by decide) (by decide)
    rw [clamped, durableCounts, withNotSubmitted, Function.update_self, if_pos rfl, if_neg (by decide), planned, submitted]
    rw [total.1]
    omega
  · rw [durableCounts, withNotSubmitted, Function.update_of_ne clamped]
    by_cases isPlanned : field = .planned
    · rw [if_pos isPlanned, planned, isPlanned]
    · rw [if_neg isPlanned]
      exact tallied field isPlanned clamped

end Durable

section Views

variable (store : Store Digest) (telemetry : Telemetry)

def delta (id : RunnerId) (field : CountField) : Int :=
  liveDelta telemetry (storedOf store id) (liveProgress telemetry id) field

def turn (id : RunnerId) (phase : String) : Int := phaseDelta (storedOf store id) (liveProgress telemetry id) phase

theorem attach_campaign_get (records : List CampaignId) (campaign : CampaignId) (listed : campaign ∈ records) :
    ∃ view, Dict.get campaign (attachCampaignProgress store telemetry records) = some view ∧
      (∀ field, view.counts field =
        (if field.live then (if sampled telemetry then some 0 else none)
          else some (durableCounts ((members store campaign).map fun entry => (entry.2.template.plannedWorkers : Int)).sum
            (tally (campaignWorkers store campaign)) field)).map
          (· + ((memberIds store campaign).map fun id => if id ∈ visible telemetry then delta store telemetry id field else 0).sum)) ∧
      ∀ phase ∈ creationPhaseNames, Dict.get phase view.creationPhases =
        some (((members store campaign).map fun entry => if phaseName entry.2.status = phase then 1 else 0).sum +
          ((memberIds store campaign).map fun id => if id ∈ visible telemetry then turn store telemetry id phase else 0).sum) := by
  obtain ⟨progress, found, counts, phases⟩ := campaign_progress_get store records campaign listed
  let live := (visible telemetry).filter fun id => campaignOf store id = some campaign
  have common : ∀ weight : RunnerId → Int, (live.map weight).sum =
      ((memberIds store campaign).map fun id => if id ∈ visible telemetry then weight id else 0).sum := by
    intro weight
    have same : live = (visible telemetry).filter fun id => id ∈ memberIds store campaign := by
      apply List.filter_congr
      intro id _
      simp only [member_ids]
    rw [same, sum_common (visible telemetry) (memberIds store campaign) weight (List.nodup_dedup _) (member_ids_distinct store campaign),
      sum_filter]
    simp only [decide_eq_true_eq]
  let item := live.foldl (fun item id => adjustItem telemetry (liveProgress telemetry id) (storedOf store id) item)
    (openItem telemetry progress)
  have adjusted := live_members store telemetry campaign
    ((campaignWorkerProgress store records).map fun entry => (entry.1, openItem telemetry entry.2))
  rw [dict_get_map (fun (_ : CampaignId) progress => openItem telemetry progress), found, Option.map_some, Option.map_some] at adjusted
  refine ⟨⟨item.counts, creationPhaseNames.map fun phase => (phase, (Dict.get phase item.creationPhases).getD 0)⟩, ?_, ?_, ?_⟩
  · dsimp only [attachCampaignProgress]
    rw [filter_map_get, if_pos listed]
    exact congrArg (Option.map _) adjusted
  · intro field
    have raised := raised_option (fun item : CampaignItem => item.counts field) (fun id => delta store telemetry id field)
      (fun id item => adjustItem telemetry (liveProgress telemetry id) (storedOf store id) item)
      (fun id item => adjust_counts telemetry (liveProgress telemetry id) (storedOf store id) item field) live
      (openItem telemetry progress)
    rw [common] at raised
    rw [← counts]
    exact raised
  · intro phase named
    have raised := raised_by (fun item : CampaignItem => (Dict.get phase item.creationPhases).getD 0)
      (fun id => turn store telemetry id phase)
      (fun id item => adjustItem telemetry (liveProgress telemetry id) (storedOf store id) item)
      (fun id item => adjust_phases telemetry (liveProgress telemetry id) (storedOf store id) item phase) live
      (openItem telemetry progress)
    rw [common] at raised
    rw [map_keys_get, if_pos named, ← phases phase]
    exact congrArg some raised

variable (id : RunnerId)

theorem stored_live (field : CountField) (live : field.live = true) : (storedOf store id).counts field = 0 := by
  rw [storedOf]
  cases store.runners.get id with
  | none => rfl
  | some runner =>
      have absent := tally_live (ownWorkers store id) field live
      have notPlanned : field ≠ .planned := fun same => by rw [same] at live; cases live
      have notClamped : field ≠ .notSubmitted := fun same => by rw [same] at live; cases live
      simp [storedProgress, durableCounts, withNotSubmitted, Function.update_of_ne notClamped, notPlanned, absent]

theorem attached_counts (field : CountField) :
    (runnerAttached store telemetry id).counts field =
      if field.live = true ∧ sampled telemetry = false then none
      else some ((storedOf store id).counts field + delta store telemetry id field) := by
  simp only [runnerAttached, attachLive, delta, liveDelta, Option.bind_some]
  by_cases live : field.live = true
  · have stored := stored_live store id field live
    cases fresh : sampled telemetry with
    | true => simp [live, stored]
    | false => simp [live]
  · by_cases creation : field = .created
    · subst creation
      cases (liveProgress telemetry id).preparation with
      | none => simp [CountField.live]
      | some created => simp [CountField.live]
    · simp [live, creation]

theorem attached_phase (phase : String) :
    (if (runnerAttached store telemetry id).phase = phase then (1 : Int) else 0) =
      (if (storedOf store id).phase = phase then 1 else 0) + turn store telemetry id phase := by
  simp only [runnerAttached, attachLive, turn, phaseDelta, Option.bind_some]
  cases (liveProgress telemetry id).preparation with
  | none => simp
  | some created =>
      simp only [Option.map_some, Option.getD_some, Option.elim_some]
      omega

def waitingOf (id : RunnerId) : Nat := telemetry.waiting.countP fun entry => entry.1 = id

theorem not_visible (hidden : id ∉ visible telemetry) :
    telemetry.activeWorkers.get id = none ∧ telemetry.poolRunners.get id = none := by
  rw [visible, List.mem_dedup, List.mem_append, not_or] at hidden
  constructor
  · by_contra held
    exact hidden.1 ((dict_key_held _ _).mpr held)
  · by_contra held
    exact hidden.2 ((dict_key_held _ _).mpr held)

theorem hidden_delta (hidden : id ∉ visible telemetry) (field : CountField) :
    delta store telemetry id field =
      if field = .admissionWaiting ∧ sampled telemetry = true then (waitingOf telemetry id : Int) else 0 := by
  obtain ⟨idle, absent⟩ := not_visible telemetry id hidden
  simp only [delta, liveDelta, liveProgress, idle, absent]
  cases field <;> simp [CountField.live, LiveProgress.count, waitingOf]

theorem hidden_turn (hidden : id ∉ visible telemetry) (phase : String) : turn store telemetry id phase = 0 := by
  obtain ⟨idle, _⟩ := not_visible telemetry id hidden
  simp [turn, phaseDelta, liveProgress, idle]

def missed (id : RunnerId) : Nat := if id ∈ visible telemetry then 0 else waitingOf telemetry id

theorem sum_split {Item : Type} (items : List Item) (first second both : Item → Int)
    (split : ∀ item ∈ items, both item = first item + second item) :
    (items.map both).sum = (items.map first).sum + (items.map second).sum := by
  induction items with
  | nil => rfl
  | cons item rest ih =>
      have here := split item List.mem_cons_self
      have later := ih fun other member => split other (List.mem_cons_of_mem item member)
      simp only [List.map_cons, List.sum_cons]
      omega

theorem delta_split (field : CountField) :
    delta store telemetry id field =
      (if id ∈ visible telemetry then delta store telemetry id field else 0) +
        if field = .admissionWaiting ∧ sampled telemetry = true then (missed telemetry id : Int) else 0 := by
  by_cases shown : id ∈ visible telemetry
  · simp [shown, missed]
  · rw [hidden_delta store telemetry id shown field]
    simp [shown, missed]

theorem sum_counts_some {Item : Type} (items : List Item) (value : Item → Int) :
    sumCounts (items.map fun item => some (value item)) = some (items.map value).sum := by
  have whole : none ∉ items.map fun item => some (value item) := by simp
  rw [sumCounts, if_neg whole, List.map_map]
  rfl

theorem sum_counts_one (value : Option Int) : sumCounts [value] = value := by
  cases value with
  | none => rfl
  | some value => simp [sumCounts]

end Views

section Agreement

variable (store : Store Digest) (telemetry : Telemetry)

structure RunnerSound (benchmark : StoredBenchmark) (view : WorkersView) : Prop where
  planned : view.counts .planned = some (plannedWorkerCount benchmark : Int)
  submitted : view.counts .submitted =
    sumCounts [view.counts .pendingResults, view.counts .succeeded, view.counts .failed, view.counts .indeterminate]

structure Summed (benchmarks : List StoredBenchmark) (view : WorkersView) (views : List WorkersView) : Prop where
  counts : ∀ field, view.counts field = sumCounts (views.map fun member => member.counts field)
  phases : ∀ phase ∈ creationPhaseNames, Dict.get phase view.creationPhases =
    some (views.map fun member => (Dict.get phase member.creationPhases).getD 0).sum
  planned : view.counts .planned = some (benchmarks.map fun benchmark => (plannedWorkerCount benchmark : Int)).sum

structure ViewsAgree (records : List CampaignId) (shown : List RunnerId) (campaign : CampaignId) : Prop where
  runners : ∀ id ∈ shown, store.runners.get id ≠ none → ∃ view,
    Dict.get id (attachProgress store telemetry shown) = some view ∧ RunnerSound (documentOf store id) view
  campaign : ∃ view views, Dict.get campaign (attachCampaignProgress store telemetry records) = some view ∧
    ((memberIds store campaign).map fun id => Dict.get id (attachProgress store telemetry shown)) = views.map some ∧
    Summed ((memberIds store campaign).map (documentOf store)) view views

-- Sampled telemetry shows each Runner of the campaign that has a submission
-- waiting; without a sample the campaign has a Runner whose counts are null.
def Observed (campaign : CampaignId) : Prop :=
  if sampled telemetry then
    ∀ id ∈ memberIds store campaign, (∃ entry ∈ telemetry.waiting, entry.1 = id) → id ∈ visible telemetry
  else memberIds store campaign ≠ []

theorem runner_views (shown : List RunnerId) (id : RunnerId) (listed : id ∈ shown) (present : store.runners.get id ≠ none) :
    ∃ view, Dict.get id (attachProgress store telemetry shown) = some view ∧
      (∀ field, view.counts field = (runnerAttached store telemetry id).counts field) ∧
      ∀ phase ∈ creationPhaseNames, (Dict.get phase view.creationPhases).getD 0 =
        if (runnerAttached store telemetry id).phase = phase then 1 else 0 := by
  refine ⟨_, attach_progress_get store telemetry shown id listed present, fun field => sum_counts_one _, ?_⟩
  intro phase named
  rw [membersView, map_keys_get, if_pos named, Option.getD_some, List.countP_singleton]
  by_cases same : (runnerAttached store telemetry id).phase = phase
  · simp [same]
  · simp [same]

theorem runner_sound (rows : WorkerRows store) (id : RunnerId) (present : store.runners.get id ≠ none)
    (view : WorkersView) (counts : ∀ field, view.counts field = (runnerAttached store telemetry id).counts field) :
    RunnerSound (documentOf store id) view := by
  obtain ⟨runner, read⟩ := Option.ne_none_iff_exists'.mp present
  have stored : storedOf store id = storedProgress store id runner := by rw [storedOf, read]; rfl
  have plain : ∀ field, field.live = false → field ≠ .created →
      view.counts field = some ((storedOf store id).counts field) := by
    intro field durable other
    rw [counts, attached_counts, delta, liveDelta]
    simp [durable, other]
  have own : ∀ field, field ≠ .planned → field ≠ .notSubmitted →
      (storedOf store id).counts field = tally (ownWorkers store id) field := by
    intro field notPlanned notClamped
    simp [stored, storedProgress, durableCounts, withNotSubmitted, Function.update_of_ne notClamped, notPlanned]
  constructor
  · have document : documentOf store id = runner.template.benchmark := by rw [documentOf, read]; rfl
    rw [plain .planned rfl (by decide), stored, document, ← planned_agrees]
    rfl
  · have summed := submitted_tally (ownWorkers store id) (own_stamped store rows id)
    rw [plain .submitted rfl (by decide), plain .pendingResults rfl (by decide), plain .succeeded rfl (by decide),
      plain .failed rfl (by decide), plain .indeterminate rfl (by decide), own _ (by decide) (by decide),
      own _ (by decide) (by decide), own _ (by decide) (by decide), own _ (by decide) (by decide), own _ (by decide) (by decide), summed]
    simp [sumCounts]
    omega

theorem campaign_counts (rows : WorkerRows store) (factory : FactoryRows store) (campaign : CampaignId) (field : CountField)
    (view : WorkersView)
    (counts : view.counts field =
      (if field.live then (if sampled telemetry then some 0 else none)
        else some (durableCounts ((members store campaign).map fun entry => (entry.2.template.plannedWorkers : Int)).sum
          (tally (campaignWorkers store campaign)) field)).map
        (· + ((memberIds store campaign).map fun id => if id ∈ visible telemetry then delta store telemetry id field else 0).sum)) :
    (view.counts field =
      sumCounts ((memberIds store campaign).map fun id => (runnerAttached store telemetry id).counts field)) ↔
      if field.live = true ∧ sampled telemetry = false then memberIds store campaign ≠ []
      else field = .admissionWaiting → ∀ id ∈ memberIds store campaign, missed telemetry id = 0 := by
  by_cases unsampled : field.live = true ∧ sampled telemetry = false
  · rw [if_pos unsampled, counts, if_pos unsampled.1, if_neg (by simp [unsampled.2])]
    have nulls : ((memberIds store campaign).map fun id => (runnerAttached store telemetry id).counts field) =
        (memberIds store campaign).map fun _ => none :=
      List.map_congr_left fun id _ => by rw [attached_counts, if_pos unsampled]
    rw [nulls]
    cases memberIds store campaign with
    | nil => simp [sumCounts]
    | cons id rest => simp [sumCounts]
  · rw [if_neg unsampled]
    have each : ((memberIds store campaign).map fun id => (runnerAttached store telemetry id).counts field) =
        (memberIds store campaign).map fun id =>
          some ((storedOf store id).counts field + delta store telemetry id field) :=
      List.map_congr_left fun id _ => by rw [attached_counts, if_neg unsampled]
    have start : (if field.live then (if sampled telemetry then some 0 else none)
        else some (durableCounts ((members store campaign).map fun entry => (entry.2.template.plannedWorkers : Int)).sum
          (tally (campaignWorkers store campaign)) field)) =
        some ((memberIds store campaign).map fun id => (storedOf store id).counts field).sum := by
      by_cases live : field.live = true
      · have fresh : sampled telemetry = true := by simpa [live] using unsampled
        have zero : ((memberIds store campaign).map fun id => (storedOf store id).counts field).sum = 0 := by
          apply List.sum_eq_zero
          intro value member
          obtain ⟨id, _, rfl⟩ := List.mem_map.mp member
          exact stored_live store id field live
        rw [if_pos live, if_pos fresh, zero]
      · rw [if_neg live, durable_sum store rows factory]
    rw [counts, start, each, sum_counts_some, Option.map_some, Option.some.injEq,
      sum_split (memberIds store campaign) (fun id => (storedOf store id).counts field)
        (fun id => delta store telemetry id field) _ (fun _ _ => rfl),
      sum_split (memberIds store campaign) _ _ _ (fun id _ => delta_split store telemetry id field)]
    by_cases waiting : field = .admissionWaiting
    · have fresh : sampled telemetry = true := by
        rw [waiting] at unsampled
        simpa [CountField.live] using unsampled
      have nonneg : ∀ ids : List RunnerId, (ids.map fun id => (missed telemetry id : Int)).sum = 0 ↔ ∀ id ∈ ids, missed telemetry id = 0 := by
        intro ids
        have total : (ids.map fun id => (missed telemetry id : Int)).sum = ((ids.map fun id => missed telemetry id).sum : Nat) := by
          induction ids with
          | nil => rfl
          | cons id rest ih => simp [ih]
        rw [total, Int.natCast_eq_zero, List.sum_eq_zero_iff_forall_eq_nat]
        simp
      have only := nonneg (memberIds store campaign)
      simp only [waiting, fresh, and_self, if_true, true_implies]
      rw [← only]
      omega
    · simp [waiting]

theorem campaign_phases (campaign : CampaignId) (phase : String) :
    ((members store campaign).map fun entry => if phaseName entry.2.status = phase then 1 else 0).sum +
      ((memberIds store campaign).map fun id => if id ∈ visible telemetry then turn store telemetry id phase else 0).sum =
      ((memberIds store campaign).map fun id =>
        if (runnerAttached store telemetry id).phase = phase then (1 : Int) else 0).sum := by
  rw [members_sum store campaign fun _ runner => if phaseName runner.status = phase then (1 : Int) else 0]
  apply Eq.symm
  apply sum_split
  intro id member
  obtain ⟨runner, read, _⟩ := Option.bind_eq_some_iff.mp ((member_ids store campaign id).mp member)
  have stored : storedOf store id = storedProgress store id runner := by rw [storedOf, read]; rfl
  rw [attached_phase, stored, read, Option.map_some, Option.getD_some]
  by_cases shown : id ∈ visible telemetry
  · rw [if_pos shown]
    rfl
  · rw [if_neg shown, hidden_turn store telemetry id shown]
    rfl

theorem member_views (campaign : CampaignId) (shown : List RunnerId) (all : ∀ id ∈ memberIds store campaign, id ∈ shown) :
    ((memberIds store campaign).map fun id => Dict.get id (attachProgress store telemetry shown)) =
      ((memberIds store campaign).map fun id => membersView [runnerAttached store telemetry id]).map some := by
  rw [List.map_map]
  apply List.map_congr_left
  intro id member
  obtain ⟨runner, read, _⟩ := Option.bind_eq_some_iff.mp ((member_ids store campaign id).mp member)
  exact attach_progress_get store telemetry shown id (all id member) (by rw [read]; exact Option.some_ne_none runner)

theorem observed_fields (campaign : CampaignId) :
    Observed store telemetry campaign ↔ ∀ field : CountField,
      if field.live = true ∧ sampled telemetry = false then memberIds store campaign ≠ []
      else field = .admissionWaiting → ∀ id ∈ memberIds store campaign, missed telemetry id = 0 := by
  have unseen : ∀ id, missed telemetry id = 0 ↔ ((∃ entry ∈ telemetry.waiting, entry.1 = id) → id ∈ visible telemetry) := by
    intro id
    rw [missed]
    by_cases shown : id ∈ visible telemetry
    · simp [shown]
    · rw [if_neg shown, waitingOf, List.countP_eq_zero]
      constructor
      · intro nobody found
        obtain ⟨entry, member, same⟩ := found
        exact absurd (decide_eq_true same) (nobody entry member)
      · intro implied entry member
        simpa using fun same => shown (implied ⟨entry, member, same⟩)
  cases fresh : sampled telemetry with
  | true =>
      rw [Observed, if_pos fresh]
      constructor
      · intro observed field
        rw [if_neg (by simp)]
        intro _ id member
        exact (unseen id).mpr (observed id member)
      · intro fields id member
        have waiting := fields .admissionWaiting
        rw [if_neg (by simp)] at waiting
        exact (unseen id).mp (waiting rfl id member)
  | false =>
      rw [Observed, if_neg (by simp [fresh])]
      constructor
      · intro staffed field
        by_cases live : field.live = true
        · rw [if_pos ⟨live, rfl⟩]
          exact staffed
        · rw [if_neg fun both => live both.1]
          intro same
          rw [same] at live
          exact absurd rfl live
      · intro fields
        have running := fields .running
        rw [if_pos ⟨rfl, rfl⟩] at running
        exact running

end Agreement

section Runs

variable (sha256 : Sha256) (zones : Zones) (digest : Json → Digest)

theorem progress_views_agree (events : List (CampaignEvent Digest)) (s : CampaignState Digest)
    (reached : run (campaignStep sha256 zones digest) emptyState events = some s) (telemetry : Telemetry)
    (records : List CampaignId) (campaign : CampaignId) (listed : campaign ∈ records) (shown : List RunnerId)
    (all : ∀ id ∈ memberIds s.store campaign, id ∈ shown) :
    ViewsAgree s.store telemetry records shown campaign ↔ Observed s.store telemetry campaign := by
  obtain ⟨rows, factory⟩ := run_worker_rows sha256 zones digest events s reached
  let store := s.store
  let views := (memberIds store campaign).map fun id => membersView [runnerAttached store telemetry id]
  have members := member_views store telemetry campaign shown all
  obtain ⟨view, found, counts, phases⟩ := attach_campaign_get store telemetry records campaign listed
  have fields : ∀ field, views.map (fun member => member.counts field) =
      (memberIds store campaign).map fun id => (runnerAttached store telemetry id).counts field := by
    intro field
    rw [List.map_map]
    exact List.map_congr_left fun id _ => sum_counts_one _
  rw [observed_fields]
  constructor
  · intro agree field
    obtain ⟨other, listedViews, same, taken, summed⟩ := agree.campaign
    rw [found] at same
    cases same
    have known : listedViews = views := List.map_injective_iff.mpr (Option.some_injective _) (taken.symm.trans members)
    have here := summed.counts field
    rw [known, fields] at here
    exact (campaign_counts store telemetry rows factory campaign field view (counts field)).mp here
  · intro observed
    constructor
    · intro id inside present
      obtain ⟨one, read, own, _⟩ := runner_views store telemetry shown id inside present
      exact ⟨one, read, runner_sound store telemetry rows id present one own⟩
    · refine ⟨view, views, found, members, ?_, ?_, ?_⟩
      · intro field
        rw [fields]
        exact (campaign_counts store telemetry rows factory campaign field view (counts field)).mpr (observed field)
      · intro phase named
        rw [phases phase named, campaign_phases, List.map_map]
        apply congrArg some
        apply congrArg List.sum
        apply List.map_congr_left
        intro id member
        obtain ⟨runner, read, _⟩ := Option.bind_eq_some_iff.mp ((member_ids store campaign id).mp member)
        obtain ⟨one, taken, _, own⟩ := runner_views store telemetry shown id (all id member)
          (by rw [read]; exact Option.some_ne_none runner)
        have same := attach_progress_get store telemetry shown id (all id member)
          (by rw [read]; exact Option.some_ne_none runner)
        cases Option.some.inj (same.symm.trans taken)
        exact (own phase named).symm
      · have planned := (campaign_counts store telemetry rows factory campaign .planned view (counts .planned)).mpr
          (observed .planned)
        have each : ((memberIds store campaign).map fun id => (runnerAttached store telemetry id).counts .planned) =
            ((memberIds store campaign).map fun id => some (plannedWorkerCount (documentOf store id) : Int)) := by
          apply List.map_congr_left
          intro id member
          obtain ⟨runner, read, _⟩ := Option.bind_eq_some_iff.mp ((member_ids store campaign id).mp member)
          obtain ⟨one, _, own, _⟩ := runner_views store telemetry shown id (all id member)
            (by rw [read]; exact Option.some_ne_none runner)
          have sound := runner_sound store telemetry rows id (by rw [read]; exact Option.some_ne_none runner) one own
          exact (own .planned).symm.trans sound.planned
        rw [planned, each, sum_counts_some, List.map_map]
        rfl

end Runs

def submittingEvents : List (CampaignEvent Json) :=
  [.createCampaign "campaign", .createRunners (some "campaign") [⟨"runner", none, StoredBenchmark.blank.repeating 2 (by decide)⟩],
    .call (.startSelected ⟨none, 0, 0⟩ "runner" "scheduler")]

def submittingState : CampaignState Json :=
  (run (campaignStep (fun _ => 0) (fun _ => none) id) emptyState submittingEvents).get (by decide +kernel)

def submittingTelemetry (active : Table RunnerId (Option RunnerPreparation)) : Telemetry where
  activeWorkers := active
  waiting := [("runner", "step")]
  poolRunners := Table.empty
  rayHealthy := true
  snapshotAge := some 0
  healthInterval := 5
  healthTimeout := 5

def registered : Telemetry := submittingTelemetry (Table.empty.put "runner" (some ⟨"submitting", 2, none⟩))

def unregistered : Telemetry := submittingTelemetry Table.empty

theorem progress_views_agree_registered :
    ViewsAgree submittingState.store registered ["campaign"] ["runner"] "campaign" := by
  apply (progress_views_agree (fun _ => 0) (fun _ => none) id submittingEvents submittingState (Option.some_get _).symm registered ["campaign"] "campaign" List.mem_cons_self ["runner"] ?_).mpr
  · rw [Observed, if_pos (by decide +kernel)]
    decide +kernel
  · decide +kernel

theorem unregistered_runner_uncounted :
    ¬ ViewsAgree submittingState.store unregistered ["campaign"] ["runner"] "campaign" := by
  intro agree
  obtain ⟨view, views, found, taken, summed⟩ := agree.campaign
  have campaign : (Dict.get "campaign" (attachCampaignProgress submittingState.store unregistered ["campaign"])).map
      (fun view => view.counts .admissionWaiting) = some (some 0) := by decide +kernel
  have runners : ((memberIds submittingState.store "campaign").map fun id => (Dict.get id (attachProgress submittingState.store
      unregistered ["runner"])).map fun view => view.counts .admissionWaiting) = [some (some 1)] := by
    decide +kernel
  rw [found, Option.map_some, Option.some.injEq] at campaign
  have shown : views.map (fun member => member.counts .admissionWaiting) = [some 1] := by
    have mapped := congrArg (List.map (Option.map fun view : WorkersView => view.counts .admissionWaiting)) taken
    rw [List.map_map, List.map_map] at mapped
    have same : views.map (fun member => some (member.counts .admissionWaiting)) = [some (some 1)] := mapped.symm.trans runners
    exact List.map_injective_iff.mpr (Option.some_injective _) (by rw [List.map_map]; exact same)
  have total := summed.counts .admissionWaiting
  rw [campaign, shown] at total
  exact absurd total (by decide)

end LlmperfOrchestrator.Campaign

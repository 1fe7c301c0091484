import LlmperfOrchestrator.Campaign.Progress
import LlmperfOrchestrator.Campaign.WorkerRows

set_option autoImplicit false

namespace LlmperfOrchestrator.Campaign

open Tables Tallies Storage

section

variable {Digest : Type} [DecidableEq Digest]

def tally (workers : List (Worker Digest)) : Counts := fun field =>
  (workers.map fun worker => share worker.state 1 (if worker.submittedAt.isSome then 1 else 0) field).sum

def ownWorkers (store : Store Digest) (id : RunnerId) : List (Worker Digest) :=
  (store.workers.rows.filter fun entry => entry.1.1 = id).map Prod.snd

def campaignWorkers (store : Store Digest) (campaign : CampaignId) : List (Worker Digest) :=
  (store.workers.rows.filter fun entry => campaignOf store entry.1.1 = some campaign).map Prod.snd

def members (store : Store Digest) (campaign : CampaignId) : List (RunnerId × Runner) :=
  store.runners.rows.filter fun entry => entry.2.campaign = some campaign

def durableCounts (planned : Int) (counts : Counts) : Counts := withNotSubmitted fun field => if field = .planned then planned else counts field

def storedProgress (store : Store Digest) (id : RunnerId) (runner : Runner) : RunnerProgress where
  campaign := runner.campaign
  phase := phaseName runner.status
  counts := durableCounts (rowPlanned runner.template.benchmark) (tally (ownWorkers store id))

theorem planned_agrees (benchmark : StoredBenchmark) : rowPlanned benchmark = plannedWorkerCount benchmark := by
  simp only [rowPlanned, plannedOfRow, plannedWorkerCount]
  cases benchmark.cacheProbe with
  | some probe => rfl
  | none =>
      have repeats : orOne benchmark.repeats = benchmark.repeats.getD 1 := by
        cases given : benchmark.repeats with
        | none => rfl
        | some count =>
            cases count with
            | zero => exact absurd (benchmark.repeated 0 given) (by decide)
            | succ count => rfl
      have steps : orOne (benchmark.steps.map List.length) = benchmark.steps.elim 1 List.length := by
        cases given : benchmark.steps with
        | none => rfl
        | some names =>
            cases names with
            | nil => exact absurd rfl (benchmark.listed [] given)
            | cons name rest => rfl
      rw [repeats, steps]

theorem share_add (state : WorkerState) (a b c d : Nat) (field : CountField) :
    share state (a + b) (c + d) field = share state a c field + share state b d field := by
  cases field <;> simp only [share] <;> first | omega | (split <;> omega)

omit [DecidableEq Digest] in
theorem group_share {Owner : Type} (rows : List (Owner × Worker Digest)) (state : WorkerState)
    (one : ∀ row ∈ rows, row.2.state = state) (field : CountField) :
    share state rows.length (rows.countP fun row => row.2.submittedAt.isSome) field = tally (rows.map Prod.snd) field := by
  induction rows with
  | nil => cases field <;> simp [share, tally]
  | cons row rest ih =>
      have here := one row List.mem_cons_self
      have later := ih fun other member => one other (List.mem_cons_of_mem row member)
      have split : tally ((row :: rest).map Prod.snd) field =
          share row.2.state 1 (if row.2.submittedAt.isSome then 1 else 0) field + tally (rest.map Prod.snd) field := rfl
      rw [List.length_cons, List.countP_cons, share_add, later, split, here, Int.add_comm]

omit [DecidableEq Digest] in
theorem group_state {Owner : Type} [DecidableEq Owner] (rows : List (Owner × Worker Digest))
    (group : (Owner × WorkerState) × List (Owner × Worker Digest))
    (member : group ∈ groups (fun row : Owner × Worker Digest => (row.1, row.2.state)) rows) :
    ∀ row ∈ group.2, row.2.state = group.1.2 := by
  obtain ⟨key, _, rfl⟩ := List.mem_map.mp member
  intro row inside
  have same := of_decide_eq_true (List.mem_filter.mp inside).2
  rw [← same]

omit [DecidableEq Digest] in
theorem count_rows_sum {Owner : Type} [DecidableEq Owner] (rows : List (Owner × Worker Digest)) (owner : Owner) (field : CountField) :
    (((countRows rows).filter fun row => row.owner = owner).map fun row => share row.state row.count row.submittedCount field).sum =
      tally ((rows.filter fun row => row.1 = owner).map Prod.snd) field := by
  have summed := groups_sum (fun row : Owner × Worker Digest => (row.1, row.2.state)) (fun key => key.1 = owner)
    (fun row => share row.2.state 1 (if row.2.submittedAt.isSome then 1 else 0) field) rows
  rw [countRows, List.filter_map, List.map_map, tally, List.map_map]
  refine Eq.trans ?_ summed
  apply congrArg List.sum
  apply List.map_congr_left
  intro group member
  have inside := (List.mem_filter.mp member).1
  have same := group_share group.2 group.1.2 (group_state rows group inside) field
  rw [tally, List.map_map] at same
  exact same

omit [DecidableEq Digest] in
theorem tally_planned (workers : List (Worker Digest)) : tally workers .planned = 0 := by
  rw [tally]
  apply List.sum_eq_zero
  intro value member
  obtain ⟨worker, _, rfl⟩ := List.mem_map.mp member
  rfl

theorem worker_progress_get (store : Store Digest) (selected : List RunnerId) (id : RunnerId)
    (listed : id ∈ selected) :
    Dict.get id (workerProgress store selected) = (store.runners.get id).map fun runner => storedProgress store id runner := by
  simp only [workerProgress]
  refine (dict_get_map (fun (_ : RunnerId) (item : RunnerProgress) => { item with counts := withNotSubmitted item.counts }) _ id).trans ?_
  rw [updates_get, dict_get_map fun _ => rowProgress]
  have chosen : Dict.get id (store.runners.filter fun other _ => other ∈ selected) = store.runners.get id := by
    have filtered := dict_get_filter store.runners.rows (fun other => other ∈ selected) id
    rw [if_pos (by simpa using listed)] at filtered
    exact filtered
  rw [chosen, Option.map_map, Option.map_map]
  cases read : store.runners.get id with
  | none => rfl
  | some runner =>
      simp only [Option.map_some, Function.comp_apply, Option.some.injEq]
      generalize joinedEq : ((store.workers.filter fun key _ => key.1 ∈ selected ∧ (store.runners.get key.1).isSome).map
        fun entry => (entry.1.1, entry.2)) = joined
      have own : ((joined.filter fun row => row.1 = id).map Prod.snd) = ownWorkers store id := by
        rw [← joinedEq, List.filter_map, List.map_map, Table.filter, List.filter_filter, ownWorkers]
        have same : (store.workers.rows.filter fun entry => ((fun row : RunnerId × Worker Digest => decide (row.1 = id)) ∘
            fun entry : WorkerId × Worker Digest => (entry.1.1, entry.2)) entry &&
            decide (entry.1.1 ∈ selected ∧ (store.runners.get entry.1.1).isSome = true)) =
            store.workers.rows.filter fun entry => entry.1.1 = id := by
          apply List.filter_congr
          intro entry _
          by_cases here : entry.1.1 = id
          · simp [here, listed, read]
          · simp [here]
        rw [same]
        rfl
      have counted : ∀ field, ((((countRows joined).filter fun row => row.owner = id).foldl
          (fun item row => { item with counts := addRow row item.counts }) (rowProgress runner)).counts field) =
          if field = .planned then
            (rowPlanned runner.template.benchmark : Int)
          else tally (ownWorkers store id) field := by
        intro field
        have raised := raised_by (fun item : RunnerProgress => item.counts field)
          (fun row : CountRow RunnerId => share row.state row.count row.submittedCount field)
          (fun row item => { item with counts := addRow row item.counts }) (fun row item => rfl)
          ((countRows joined).filter fun row => row.owner = id) (rowProgress runner)
        rw [count_rows_sum, own] at raised
        rw [raised, rowProgress]
        by_cases planned : field = .planned
        · rw [if_pos planned, planned, tally_planned]
          simp
        · simp [planned]
      have campaign := kept_by (fun item : RunnerProgress => item.campaign)
        (fun (row : CountRow RunnerId) item => { item with counts := addRow row item.counts }) (fun row item => rfl)
        ((countRows joined).filter fun row => row.owner = id) (rowProgress runner)
      have phase := kept_by (fun item : RunnerProgress => item.phase)
        (fun (row : CountRow RunnerId) item => { item with counts := addRow row item.counts }) (fun row item => rfl)
        ((countRows joined).filter fun row => row.owner = id) (rowProgress runner)
      rw [storedProgress, durableCounts, ← funext counted]
      simp only [RunnerProgress.mk.injEq]
      exact ⟨campaign, phase, trivial⟩

theorem put_all_get {Key Item : Type} [DecidableEq Key] (keys : List Key) (item : Item) (dict : Dict Key Item) (key : Key) :
    Dict.get key (keys.foldl (fun dict other => Dict.put other item dict) dict) = if key ∈ keys then some item else Dict.get key dict := by
  induction keys generalizing dict with
  | nil => simp
  | cons other rest ih =>
      rw [List.foldl_cons, ih, dict_get_put]
      by_cases later : key ∈ rest
      · simp [later]
      · by_cases same : key = other
        · simp [same]
        · simp [later, same]

theorem joined_own {Row Key Value : Type} [DecidableEq Key] (rows : List Row) (owner : Row → Option Key) (value : Row → Value)
    (selected : List Key) (key : Key) (listed : key ∈ selected) :
    ((rows.filterMap fun row => ((owner row).filter (· ∈ selected)).map fun k => (k, value row)).filter fun row => row.1 = key) =
      (rows.filter fun row => owner row = some key).map fun row => (key, value row) := by
  induction rows with
  | nil => rfl
  | cons row rest ih =>
      cases owned : owner row with
      | none => simpa [owned] using ih
      | some k =>
          by_cases here : k = key
          · simpa [owned, here, listed] using ih
          · by_cases chosen : k ∈ selected
            · simpa [owned, here, chosen] using ih
            · simpa [owned, here, chosen] using ih

theorem phase_name_injective (a b : RunnerStatus) (same : phaseName a = phaseName b) : a = b := by
  cases a <;> cases b <;> first | rfl | (exfalso; revert same; decide)

theorem phases_fold (changes : List ((CampaignId × RunnerStatus) × List (CampaignId × Runner))) (item : CampaignProgress) :
    (changes.foldl (fun item group => statusChange group item) item).creationPhases =
      (changes.map fun group => (phaseName group.1.2, (group.2.length : Int))).foldl
        (fun phases entry => Dict.put entry.1 entry.2 phases) item.creationPhases := by
  induction changes generalizing item with
  | nil => rfl
  | cons group rest ih =>
      rw [List.foldl_cons, ih]
      rfl

theorem length_sum {Row : Type} (rows : List Row) (weight : Row → Int) (value : Int) (same : ∀ row ∈ rows, weight row = value) :
    (rows.map weight).sum = rows.length * value := by
  induction rows with
  | nil => simp
  | cons row rest ih =>
      rw [List.map_cons, List.sum_cons, ih fun other member => same other (List.mem_cons_of_mem row member),
        same row List.mem_cons_self, List.length_cons, Int.natCast_succ, Int.add_mul]
      omega

theorem status_phases (rows : List (CampaignId × Runner)) (campaign : CampaignId) (counts : Counts) (phase : String) :
    (Dict.get phase (((groups (fun row => (row.1, row.2.status)) rows).filter fun group => group.1.1 = campaign).foldl
      (fun item group => statusChange group item) ⟨counts, []⟩).creationPhases).getD 0 =
      ((rows.filter fun row => row.1 = campaign).map fun row => if phaseName row.2.status = phase then 1 else 0).sum := by
  let own := (groups (fun row : CampaignId × Runner => (row.1, row.2.status)) rows).filter fun group => group.1.1 = campaign
  have exact_ : ∀ group ∈ own, group.1.1 = campaign ∧ group.2 = rows.filter fun row => (row.1, row.2.status) = group.1 := by
    intro group member
    obtain ⟨inside, chosen⟩ := List.mem_filter.mp member
    obtain ⟨key, _, rfl⟩ := List.mem_map.mp inside
    exact ⟨of_decide_eq_true chosen, rfl⟩
  have distinct : own.Nodup := by
    apply List.Nodup.filter
    apply (List.nodup_dedup _).map
    intro a b same
    exact (Prod.mk.inj same).1
  have names : ((own.map fun group => (phaseName group.1.2, (group.2.length : Int))).map Prod.fst).Nodup := by
    rw [List.map_map]
    apply distinct.map_on
    intro a first b second same
    obtain ⟨campaignA, rowsA⟩ := exact_ a first
    obtain ⟨campaignB, rowsB⟩ := exact_ b second
    have key : a.1 = b.1 := Prod.ext (campaignA.trans campaignB.symm) (phase_name_injective _ _ same)
    exact Prod.ext key (by rw [rowsA, rowsB, key])
  rw [phases_fold, assigned _ _ names (fun entry _ => rfl), List.map_map]
  have summed := groups_sum (fun row : CampaignId × Runner => (row.1, row.2.status)) (fun key => key.1 = campaign)
    (fun row => if phaseName row.2.status = phase then (1 : Int) else 0) rows
  rw [Dict.get, Option.getD_none, Int.zero_add]
  refine Eq.trans ?_ summed
  apply congrArg List.sum
  apply List.map_congr_left
  intro group member
  obtain ⟨_, content⟩ := exact_ group member
  have states : ∀ row ∈ group.2, (if phaseName row.2.status = phase then (1 : Int) else 0) = if phaseName group.1.2 = phase then 1 else 0 := by
    intro row inside
    rw [content] at inside
    have same := of_decide_eq_true (List.mem_filter.mp inside).2
    rw [← same]
  rw [length_sum group.2 _ _ states]
  by_cases named : phaseName group.1.2 = phase
  · simp [named]
  · simp [named]

theorem status_planned (rows : List (CampaignId × Runner)) (campaign : CampaignId) (item : CampaignProgress) (field : CountField) :
    (((groups (fun row => (row.1, row.2.status)) rows).filter fun group => group.1.1 = campaign).foldl
      (fun item group => statusChange group item) item).counts field =
      item.counts field + if field = .planned then
        ((rows.filter fun row => row.1 = campaign).map fun row => (row.2.template.plannedWorkers : Int)).sum else 0 := by
  rw [raised_by (fun item : CampaignProgress => item.counts field)
    (fun group => if field = .planned then (group.2.map fun row => (row.2.template.plannedWorkers : Int)).sum else 0)
    (fun group item => statusChange group item)
    (fun group item => by by_cases planned : field = .planned <;> simp [statusChange, planned])]
  by_cases planned : field = .planned
  · simp only [if_pos planned]
    rw [groups_sum (fun row : CampaignId × Runner => (row.1, row.2.status)) (fun key => key.1 = campaign)
      (fun row => (row.2.template.plannedWorkers : Int)) rows]
  · simp [planned]

theorem campaign_progress_get (store : Store Digest) (selected : List CampaignId) (campaign : CampaignId)
    (listed : campaign ∈ selected) :
    ∃ progress, Dict.get campaign (campaignWorkerProgress store selected) = some progress ∧
      progress.counts = durableCounts ((members store campaign).map fun entry => (entry.2.template.plannedWorkers : Int)).sum
        (tally (campaignWorkers store campaign)) ∧
      ∀ phase, (Dict.get phase progress.creationPhases).getD 0 =
        ((members store campaign).map fun entry => if phaseName entry.2.status = phase then 1 else 0).sum := by
  simp only [campaignWorkerProgress]
  generalize runnersEq : (store.runners.rows.filterMap fun entry =>
    (entry.2.campaign.filter (· ∈ selected)).map fun campaign => (campaign, entry.2)) = runners
  generalize workersEq : (store.workers.rows.filterMap fun entry =>
    ((campaignOf store entry.1.1).filter (· ∈ selected)).map fun campaign => (campaign, entry.2)) = workers
  have ownRunners : (runners.filter fun row => row.1 = campaign) = (members store campaign).map fun entry => (campaign, entry.2) := by
    rw [← runnersEq]
    exact joined_own store.runners.rows (fun entry => entry.2.campaign) (fun entry => entry.2) selected campaign listed
  have ownWorkers : ((workers.filter fun row => row.1 = campaign).map Prod.snd) = campaignWorkers store campaign := by
    rw [← workersEq, joined_own store.workers.rows (fun entry => campaignOf store entry.1.1) (fun entry => entry.2) selected campaign listed,
      List.map_map]
    rfl
  have found := dict_get_map (fun (_ : CampaignId) (item : CampaignProgress) => { item with counts := withNotSubmitted item.counts })
    ((countRows workers).foldl (fun progress row => updateAt row.owner (fun item => { item with counts := addRow row item.counts }) progress)
      ((groups (fun row => (row.1, row.2.status)) runners).foldl (fun progress group => updateAt group.1.1 (statusChange group) progress)
        (selected.foldl (fun progress id => Dict.put id ⟨fun _ => 0, []⟩ progress) []))) campaign
  rw [updates_get, updates_get, put_all_get, if_pos listed] at found
  refine ⟨_, found, ?_, ?_⟩
  · simp only [durableCounts]
    apply congrArg withNotSubmitted
    funext field
    rw [raised_by (fun item : CampaignProgress => item.counts field)
      (fun row : CountRow CampaignId => share row.state row.count row.submittedCount field)
      (fun row item => { item with counts := addRow row item.counts }) (fun row item => rfl),
      count_rows_sum, ownWorkers, status_planned, ownRunners, List.map_map]
    by_cases planned : field = .planned
    · rw [if_pos planned, if_pos planned, planned, tally_planned, Int.add_zero, Int.zero_add]
      rfl
    · rw [if_neg planned, if_neg planned, Int.add_zero, Int.zero_add]
  · intro phase
    have kept := kept_by (fun item : CampaignProgress => item.creationPhases)
      (fun (row : CountRow CampaignId) item => { item with counts := addRow row item.counts }) (fun row item => rfl)
      ((countRows workers).filter fun row => row.owner = campaign)
    simp only [kept]
    rw [status_phases, ownRunners, List.map_map]
    rfl

end

section

variable {Digest : Type} [DecidableEq Digest]

section Lookups

variable {Key Value : Type} [DecidableEq Key]

theorem map_keys_get (keys : List Key) (value : Key → Value) (key : Key) :
    Dict.get key (keys.map fun k => (k, value k)) = if key ∈ keys then some (value key) else none := by
  induction keys with
  | nil => rfl
  | cons k rest ih =>
      by_cases same : k = key
      · simp [Dict.get, same]
      · simp [Dict.get, same, Ne.symm same, ih]

theorem filter_keys_get (keys : List Key) (value : Key → Option Value) (key : Key) :
    Dict.get key (keys.filterMap fun k => (value k).map fun v => (k, v)) = if key ∈ keys then value key else none := by
  induction keys with
  | nil => rfl
  | cons k rest ih =>
      by_cases same : k = key
      · subst same
        cases found : value k with
        | some v => simp [found, Dict.get]
        | none =>
            rw [List.filterMap_cons_none (by rw [found]; rfl), ih]
            simp [found]
      · cases found : value k with
        | some v => simp [found, Dict.get, same, Ne.symm same, ih]
        | none => simp [found, Ne.symm same, ih]

theorem filter_map_get {View : Type} (keys : List Key) (lookup : Key → Option Value) (view : Key → Value → View) (key : Key) :
    Dict.get key (keys.filterMap fun k => (lookup k).map fun item => (k, view k item)) =
      if key ∈ keys then (lookup key).map (view key) else none := by
  have found := filter_keys_get keys (fun k => (lookup k).map (view k)) key
  simp only [Option.map_map] at found
  exact found

theorem owned_filter {Row Item : Type} (rows : List Row) (owner : Row → Option Key) (value : Row → Item) (key : Key) :
    ((rows.filterMap fun row => (owner row).map fun k => (k, value row)).filter fun row => row.1 = key) =
      (rows.filter fun row => owner row = some key).map fun row => (key, value row) := by
  induction rows with
  | nil => rfl
  | cons row rest ih =>
      cases owned : owner row with
      | none => simpa [owned] using ih
      | some k =>
          by_cases here : k = key
          · simpa [owned, here] using ih
          · simpa [owned, here] using ih

end Lookups

def memberIds (store : Store Digest) (campaign : CampaignId) : List RunnerId := Dict.keys (members store campaign)

theorem member_ids (store : Store Digest) (campaign : CampaignId) (id : RunnerId) :
    id ∈ memberIds store campaign ↔ campaignOf store id = some campaign := by
  rw [memberIds, Dict.keys, List.mem_map, campaignOf]
  constructor
  · intro listed
    obtain ⟨⟨other, runner⟩, member, same⟩ := listed
    obtain ⟨inside, owner⟩ := List.mem_filter.mp member
    have read := (table_mem store.runners other runner).mp inside
    rw [← same, read]
    exact of_decide_eq_true owner
  · intro owned
    obtain ⟨runner, read, owner⟩ := Option.bind_eq_some_iff.mp owned
    exact ⟨(id, runner), List.mem_filter.mpr ⟨(table_mem store.runners id runner).mpr read, decide_eq_true owner⟩, rfl⟩

theorem member_ids_distinct (store : Store Digest) (campaign : CampaignId) : (memberIds store campaign).Nodup :=
  store.runners.unique.sublist (List.Sublist.map Prod.fst List.filter_sublist)

def documentOf (store : Store Digest) (id : RunnerId) : StoredBenchmark :=
  ((store.runners.get id).map fun runner => runner.template.benchmark).getD .blank

def storedOf (store : Store Digest) (id : RunnerId) : RunnerProgress :=
  ((store.runners.get id).map fun runner => storedProgress store id runner).getD ⟨none, "", fun _ => 0⟩

def runnerAttached (store : Store Digest) (telemetry : Telemetry) (id : RunnerId) : Attached :=
  attachLive telemetry (some (liveProgress telemetry id)) (storedOf store id)

theorem worker_status_get (telemetry : Telemetry) (selected : List RunnerId) (id : RunnerId) (listed : id ∈ selected) :
    Dict.get id (workerStatus telemetry (some selected)) = some (liveProgress telemetry id) := by
  rw [workerStatus, Option.elim_some, map_keys_get, if_pos (List.mem_dedup.mpr listed)]

theorem attach_progress_get (store : Store Digest) (telemetry : Telemetry)
    (records : List RunnerId) (id : RunnerId) (listed : id ∈ records) (present : store.runners.get id ≠ none) :
    Dict.get id (attachProgress store telemetry records) = some (membersView [runnerAttached store telemetry id]) := by
  obtain ⟨runner, read⟩ := Option.ne_none_iff_exists'.mp present
  have durable : Dict.get id (workerProgress store records) = some (storedOf store id) := by
    rw [worker_progress_get store records id listed, storedOf, read]
    rfl
  have status := worker_status_get telemetry _ id (dict_key_get _ id _ durable)
  rw [attachProgress, filter_map_get, if_pos listed, durable, Option.map_some, status]
  rfl

def liveDelta (telemetry : Telemetry) (stored : RunnerProgress) (live : LiveProgress) (field : CountField) : Int :=
  if field.live then (if sampled telemetry then live.count field else 0)
  else if field = .created then live.preparation.elim 0 fun created => created.2 - stored.counts .created
  else 0

def phaseDelta (stored : RunnerProgress) (live : LiveProgress) (phase : String) : Int :=
  live.preparation.elim 0 fun created => (if created.1 = phase then 1 else 0) - (if stored.phase = phase then 1 else 0)

theorem raise_phase_get (phase query : String) (amount : Int) (phases : Dict String Int) :
    (Dict.get query (raisePhase phase amount phases)).getD 0 = (Dict.get query phases).getD 0 + if phase = query then amount else 0 := by
  rw [raisePhase, dict_get_put]
  by_cases same : query = phase
  · simp [same]
  · simp [same, Ne.symm same]

theorem adjust_counts (telemetry : Telemetry) (live : LiveProgress) (stored : RunnerProgress) (item : CampaignItem) (field : CountField) :
    (adjustItem telemetry live stored item).counts field = (item.counts field).map (· + liveDelta telemetry stored live field) := by
  simp only [adjustItem, liveDelta]
  by_cases isLive : field.live = true
  · by_cases fresh : sampled telemetry = true
    · simp [isLive, fresh]
    · simp [isLive, fresh]
  · by_cases creation : field = .created
    · cases live.preparation with
      | none => simp [creation, CountField.live]
      | some created => simp [creation, CountField.live]
    · simp [isLive, creation]

theorem adjust_phases (telemetry : Telemetry) (live : LiveProgress) (stored : RunnerProgress) (item : CampaignItem) (phase : String) :
    (Dict.get phase (adjustItem telemetry live stored item).creationPhases).getD 0 =
      (Dict.get phase item.creationPhases).getD 0 + phaseDelta stored live phase := by
  simp only [adjustItem, phaseDelta]
  cases live.preparation with
  | none => simp
  | some created =>
      simp only [raise_phase_get, Option.elim_some]
      by_cases same : stored.phase = phase
      · simp [same]
        omega
      · simp [same]

theorem live_members (store : Store Digest) (telemetry : Telemetry) (campaign : CampaignId)
    (items : Dict CampaignId CampaignItem) :
    Dict.get campaign ((workerStatus telemetry none).foldl (fun items entry =>
      match Dict.get entry.1 (workerProgress store (Dict.keys (workerStatus telemetry none))) with
      | none => items
      | some stored =>
          match stored.campaign with
          | none => items
          | some campaign => updateAt campaign (adjustItem telemetry entry.2 stored) items) items) =
      (Dict.get campaign items).map fun item =>
        ((visible telemetry).filter fun id => campaignOf store id = some campaign).foldl (fun item id =>
          adjustItem telemetry (liveProgress telemetry id) (storedOf store id) item) item := by
  have keys : Dict.keys (workerStatus telemetry none) = visible telemetry := by
    simp [workerStatus, Dict.keys, Function.comp_def]
  have loop : ∀ (ids : List RunnerId) (items : Dict CampaignId CampaignItem), (∀ id ∈ ids, id ∈ visible telemetry) →
      (ids.map fun id => (id, liveProgress telemetry id)).foldl (fun items entry =>
        match Dict.get entry.1 (workerProgress store (visible telemetry)) with
        | none => items
        | some stored =>
            match stored.campaign with
            | none => items
            | some campaign => updateAt campaign (adjustItem telemetry entry.2 stored) items) items =
      (ids.filterMap fun id => (campaignOf store id).map fun owner => (owner, id)).foldl (fun items row =>
        updateAt row.1 (adjustItem telemetry (liveProgress telemetry row.2) (storedOf store row.2)) items) items := by
    intro ids
    induction ids with
    | nil => exact fun items _ => rfl
    | cons id rest ih =>
        intro items inside
        have later := fun items => ih items fun other member => inside other (List.mem_cons_of_mem id member)
        rw [List.map_cons, List.foldl_cons, later]
        have stored := worker_progress_get store (visible telemetry) id (inside id List.mem_cons_self)
        cases read : store.runners.get id with
        | none =>
            rw [read, Option.map_none] at stored
            have nobody : campaignOf store id = none := by rw [campaignOf, read]; rfl
            simp only [stored]
            rw [List.filterMap_cons_none (by rw [nobody]; rfl)]
        | some runner =>
            rw [read, Option.map_some] at stored
            have known : storedOf store id = storedProgress store id runner := by rw [storedOf, read]; rfl
            have owner : campaignOf store id = runner.campaign := by rw [campaignOf, read]; rfl
            simp only [stored]
            cases owned : runner.campaign with
            | none =>
                have nobody : (storedProgress store id runner).campaign = none := owned
                simp only [nobody]
                rw [List.filterMap_cons_none (by rw [owner, owned]; rfl)]
            | some holder =>
                have somebody : (storedProgress store id runner).campaign = some holder := owned
                simp only [somebody]
                rw [List.filterMap_cons_some (by rw [owner, owned]; rfl), List.foldl_cons, known]
  rw [keys]
  refine (congrArg (Dict.get campaign) (loop (visible telemetry) items fun id member => member)).trans ?_
  rw [updates_get, owned_filter (visible telemetry) (campaignOf store) (fun id => id) campaign]
  congr 1
  funext item
  rw [List.foldl_map]

end

end LlmperfOrchestrator.Campaign

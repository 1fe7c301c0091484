import LlmperfOrchestrator.Storage.ConcurrentPlanners

set_option autoImplicit false

namespace LlmperfOrchestrator.Storage.Plans.Concurrent

open Tables Runtime.Recurrence

def applied (rows : PlanRows) (work : Work) : PlanRows :=
  { rows with
    plan := work.plan
    dispatches := rows.dispatches ++ work.dispatches
    runners := rows.runners ++ work.runners
    events := rows.events ++ work.events
    consumed := rows.consumed ++ work.consumed }

def Settled (rows : PlanRows) : Prop := ∀ dispatch ∈ rows.dispatches, dispatch.state = .emitted

structure Committed (zones : Zones) (plans : PlanTable) : Prop where
  sound : Sound zones plans
  settled : ∀ id rows, Dict.get id plans = some rows → Settled rows

structure WorkSound (zones : Zones) (now : Int) (rows : PlanRows) (work : Work) : Prop where
  locked : work.locked = true
  stored : work.updates = []
  accounted : ∃ zone, Accounted zones zone (applied rows work)
  single : work.dispatches.length ≤ 1
  states : ∀ dispatch ∈ work.dispatches, dispatch.dueAt ≤ now ∧ (dispatch.state = .pending ∨ dispatch.state = .emitted)

def Untouched (work : Work) : Prop := work.plan.status = .active ∧ work.dispatches = []

def pendingAt (work : Dict PlanId Work) (id : PlanId) (index : Nat) : Prop :=
  ∃ own dispatch, Dict.get id work = some own ∧ own.dispatches[index]? = some dispatch ∧ dispatch.state = .pending

structure Remaining (work : Dict PlanId Work) (rest : List Target) : Prop where
  distinct : rest.Nodup
  own : ∀ target ∈ rest, ∃ id index, target = .own id index
  pending : ∀ id index, .own id index ∈ rest ↔ pendingAt work id index

structure Waiting (work : Dict PlanId Work) (rest : List PlanId) : Prop where
  distinct : rest.Nodup
  untouched : ∀ id ∈ rest, ∀ own, Dict.get id work = some own → Untouched own
  pending : ∀ id own, Dict.get id work = some own → ∀ dispatch ∈ own.dispatches, dispatch.state = .pending

def PhaseSound (work : Dict PlanId Work) : Phase → Prop
  | .begun => work = []
  | .materializing rest => Waiting work rest
  | .counted id _ rest => Waiting work (id :: rest)
  | .emitting rest => Remaining work rest

structure PlanningSound (zones : Zones) (db : Database) (sid : SessionId) (planning : Planning) : Prop where
  unique : (Dict.keys planning.work).Nodup
  few : (Dict.keys planning.work).length ≤ planning.limit
  held : ∀ id work, Dict.get id planning.work = some work → db.planLocks id = some sid
  works : ∀ id work, Dict.get id planning.work = some work →
    ∃ rows, Dict.get id db.committed = some rows ∧ WorkSound zones planning.now rows work
  phase : PhaseSound planning.work planning.phase

structure ChangingSound (db : Database) (sid : SessionId) (changing : Changing) : Prop where
  held : changing.plan ≠ none → db.planLocks changing.id = some sid
  loaded : ∀ plan, changing.plan = some plan → ∃ rows, Dict.get changing.id db.committed = some rows ∧
    plan = changedPlan rows.plan changing.action changing.now ∧ rows.plan.status ∈ changing.action.allowed
  nothing : ∀ cancels, changing.cancels = some cancels → cancels = []

def SessionSound (zones : Zones) (db : Database) (sid : SessionId) : Session → Prop
  | .idle => True
  | .planning planning => PlanningSound zones db sid planning
  | .changing changing => ChangingSound db sid changing

structure Consistent (zones : Zones) (db : Database) : Prop where
  committed : Committed zones db.committed
  sessions : ∀ sid, SessionSound zones db sid (db.sessions sid)

structure SameBooks (rows later : PlanRows) : Prop where
  timing : later.timing = rows.timing
  defaultStartsAt : later.defaultStartsAt = rows.defaultStartsAt
  plan : later.plan = rows.plan
  dispatches : later.dispatches = rows.dispatches
  events : later.events = rows.events
  consumed : later.consumed = rows.consumed
  runners : later.runners.map PlanRunner.planOccurrence = rows.runners.map PlanRunner.planOccurrence

theorem same_books_refl (rows : PlanRows) : SameBooks rows rows := ⟨rfl, rfl, rfl, rfl, rfl, rfl, rfl⟩

theorem status_same_books (rows : PlanRows) (index : Nat) (status : RunnerStatus) :
    SameBooks rows (rows.setStatus index status) := by
  unfold PlanRows.setStatus
  cases read : rows.runners[index]? with
  | none => exact same_books_refl rows
  | some runner =>
      exact ⟨rfl, rfl, rfl, rfl, rfl, rfl,
        map_set_same PlanRunner.planOccurrence rows.runners index runner { runner with status } read rfl⟩

theorem same_books_applied (rows later : PlanRows) (same : SameBooks rows later) (work : Work) :
    SameBooks (applied rows work) (applied later work) := by
  obtain ⟨timing, starts, _, dispatches, events, consumed, runners⟩ := same
  refine ⟨timing, starts, rfl, ?_, ?_, ?_, ?_⟩
  · simp only [applied, dispatches]
  · simp only [applied, events]
  · simp only [applied, consumed]
  · simp only [applied, List.map_append, runners]

theorem same_books_accounted (zones : Zones) (zone : Zone) (rows later : PlanRows) (same : SameBooks rows later)
    (accounted : Accounted zones zone rows) : Accounted zones zone later := by
  obtain ⟨timing, starts, plan, dispatches, events, consumed, runners⟩ := same
  refine ⟨?_, ?_, ?_, ?_, ?_, ?_, ?_, ?_, ?_, ?_, ?_, ?_⟩
  · rw [timing]; exact accounted.accepted
  · rw [timing]; exact accounted.known
  · rw [plan, timing]; exact accounted.maximum
  · rw [PlanRows.preview, timing, starts, plan, consumed]; exact accounted.timed
  · rw [plan, dispatches]; exact accounted.counted
  · rw [plan, PlanRows.inState, dispatches]; exact accounted.emitted
  · rw [dispatches]; exact accounted.states
  · rw [dispatches]; exact accounted.distinct
  · rw [dispatches, consumed]; exact accounted.times
  · rw [runners, dispatches]; exact accounted.runners
  · rw [plan, PlanRows.inState, dispatches]; exact accounted.ended
  · rw [events, dispatches, plan]; exact accounted.split

structure Undisturbed (sid : SessionId) (db next : Database) : Prop where
  locks : ∀ id, db.planLocks id = some sid → next.planLocks id = some sid
  rows : ∀ id rows, db.planLocks id = some sid → Dict.get id db.committed = some rows →
    ∃ later, Dict.get id next.committed = some later ∧ SameBooks rows later

theorem work_sound_same (zones : Zones) (now : Int) (rows later : PlanRows) (same : SameBooks rows later) (work : Work)
    (sound : WorkSound zones now rows work) : WorkSound zones now later work := by
  obtain ⟨zone, accounted⟩ := sound.accounted
  exact ⟨sound.locked, sound.stored, ⟨zone, same_books_accounted zones zone _ _ (same_books_applied rows later same work) accounted⟩,
    sound.single, sound.states⟩

theorem planning_undisturbed (zones : Zones) (db next : Database) (sid : SessionId) (planning : Planning)
    (undisturbed : Undisturbed sid db next) (sound : PlanningSound zones db sid planning) :
    PlanningSound zones next sid planning := by
  refine ⟨sound.unique, sound.few, fun id work own => undisturbed.locks id (sound.held id work own), ?_, sound.phase⟩
  intro id work own
  obtain ⟨rows, there, fine⟩ := sound.works id work own
  obtain ⟨later, found, same⟩ := undisturbed.rows id rows (sound.held id work own) there
  exact ⟨later, found, work_sound_same zones planning.now rows later same work fine⟩

theorem changing_undisturbed (db next : Database) (sid : SessionId) (changing : Changing)
    (undisturbed : Undisturbed sid db next) (sound : ChangingSound db sid changing) : ChangingSound next sid changing := by
  refine ⟨fun some => undisturbed.locks _ (sound.held some), ?_, sound.nothing⟩
  intro plan loaded
  obtain ⟨rows, there, changed, allowed⟩ := sound.loaded plan loaded
  have held := sound.held (by rw [loaded]; exact Option.some_ne_none plan)
  obtain ⟨later, found, same⟩ := undisturbed.rows _ rows held there
  exact ⟨later, found, by rw [same.plan]; exact changed, by rw [same.plan]; exact allowed⟩

theorem session_undisturbed (zones : Zones) (db next : Database) (sid : SessionId) (session : Session)
    (undisturbed : Undisturbed sid db next) (sound : SessionSound zones db sid session) : SessionSound zones next sid session := by
  cases session with
  | idle => trivial
  | planning planning => exact planning_undisturbed zones db next sid planning undisturbed sound
  | changing changing => exact changing_undisturbed db next sid changing undisturbed sound

theorem consistent_step (zones : Zones) (db next : Database) (sid : SessionId) (consistent : Consistent zones db)
    (committed : Committed zones next.committed)
    (others : ∀ other, other ≠ sid → next.sessions other = db.sessions other ∧ Undisturbed other db next)
    (here : SessionSound zones next sid (next.sessions sid)) : Consistent zones next := by
  refine ⟨committed, fun other => ?_⟩
  by_cases same : other = sid
  · rw [same]
    exact here
  · obtain ⟨kept, undisturbed⟩ := others other same
    rw [kept]
    exact session_undisturbed zones db next other _ undisturbed (consistent.sessions other)

theorem empty_consistent (zones : Zones) : Consistent zones empty := by
  refine ⟨⟨⟨fun id rows held => ?_, List.nodup_nil⟩, fun id rows held => ?_⟩, fun sid => trivial⟩
  · cases held
  · cases held

section Locks
variable {Key : Type} [DecidableEq Key] (locks : Key → Option SessionId) (sid : SessionId)

theorem lock_all_own (keys : List Key) (key : Key) (held : locks key = some sid) : lockAll locks sid keys key = some sid := by
  unfold lockAll
  by_cases listed : key ∈ keys
  · rw [if_pos listed]
  · rw [if_neg listed]
    exact held

theorem lock_all_listed (keys : List Key) (key : Key) (listed : key ∈ keys) : lockAll locks sid keys key = some sid := by
  rw [lockAll, if_pos listed]

theorem lock_all_other (keys : List Key) (free : ∀ key ∈ keys, lockable locks sid key = true) (other : SessionId)
    (apart : other ≠ sid) (key : Key) (held : locks key = some other) : lockAll locks sid keys key = some other := by
  have absent : key ∉ keys := by
    intro listed
    have unlocked := of_decide_eq_true (free key listed)
    rw [held] at unlocked
    cases unlocked with
    | inl none => cases none
    | inr own => exact apart (Option.some.inj own)
  rw [lockAll, if_neg absent]
  exact held

end Locks

theorem release_other {Key : Type} (locks : Key → Option SessionId) (sid other : SessionId) (apart : other ≠ sid) (key : Key)
    (held : locks key = some other) : release locks sid key = some other := by
  have kept : locks key ≠ some sid := fun own => apart (Option.some.inj (held.symm.trans own))
  rw [release, if_neg kept]
  exact held

theorem put_session (db : Database) (sid : SessionId) (session : Session) : (db.put sid session).sessions sid = session := by
  simp [Database.put]

theorem put_session_other (db : Database) (sid other : SessionId) (session : Session) (apart : other ≠ sid) :
    (db.put sid session).sessions other = db.sessions other := by
  simp [Database.put, apart]

theorem undisturbed_locks (db next : Database) (other : SessionId) (same : next.committed = db.committed)
    (locks : ∀ id, db.planLocks id = some other → next.planLocks id = some other) : Undisturbed other db next := by
  refine ⟨locks, fun id rows _ there => ⟨rows, ?_, same_books_refl rows⟩⟩
  rw [same]
  exact there

section Quiet
variable (zones : Zones) (db next : Database) (sid : SessionId) (consistent : Consistent zones db)
include consistent

theorem quiet_step (same : next.committed = db.committed)
    (sessions : ∀ other, other ≠ sid → next.sessions other = db.sessions other)
    (locks : ∀ other, other ≠ sid → ∀ id, db.planLocks id = some other → next.planLocks id = some other)
    (here : SessionSound zones next sid (next.sessions sid)) : Consistent zones next := by
  have committed : Committed zones next.committed := by
    rw [same]
    exact consistent.committed
  apply consistent_step zones db next sid consistent committed _ here
  intro other apart
  exact ⟨sessions other apart, undisturbed_locks db next other same (locks other apart)⟩

theorem finish_consistent : Consistent zones (db.finish sid) := by
  apply quiet_step zones db (db.finish sid) sid consistent rfl
  · intro other apart
    exact put_session_other db sid other .idle apart
  · intro other apart id held
    exact release_other db.planLocks sid other apart id held
  · rw [Database.finish, put_session]
    trivial

theorem commit_consistent (plans : PlanTable) (committed : Committed zones plans)
    (untouched : ∀ id, db.planLocks id ≠ some sid → Dict.get id plans = Dict.get id db.committed) :
    Consistent zones { db.finish sid with committed := plans } := by
  apply consistent_step zones db _ sid consistent committed
  · intro other apart
    refine ⟨put_session_other db sid other .idle apart, ?_, ?_⟩
    · intro id held
      exact release_other db.planLocks sid other apart id held
    · intro id rows held there
      have elsewhere : db.planLocks id ≠ some sid := fun own => apart (Option.some.inj (held.symm.trans own))
      refine ⟨rows, ?_, same_books_refl rows⟩
      exact (untouched id elsewhere).trans there
  · rw [show ({ db.finish sid with committed := plans } : Database).sessions sid = .idle from put_session db sid .idle]
    trivial

end Quiet

theorem load_all_keys (plans : PlanTable) (chosen : List PlanId) : (Dict.keys (loadAll plans chosen)).Sublist chosen := by
  induction chosen with
  | nil => exact .slnil
  | cons id rest ih =>
      cases found : Dict.get id plans with
      | none =>
          simp only [loadAll, List.filterMap_cons, found, Option.map_none]
          exact ih.cons id
      | some rows =>
          simp only [loadAll, List.filterMap_cons, found, Option.map_some, Dict.keys, List.map_cons]
          exact ih.cons_cons id

theorem load_all_get (plans : PlanTable) (chosen : List PlanId) (id : PlanId) (work : Work)
    (read : Dict.get id (loadAll plans chosen) = some work) :
    id ∈ chosen ∧ ∃ rows, Dict.get id plans = some rows ∧ work = loaded rows := by
  have listed := dict_get_mem _ id work read
  obtain ⟨chosenId, member, made⟩ := List.mem_filterMap.mp listed
  obtain ⟨rows, found, pair⟩ := Option.map_eq_some_iff.mp made
  cases pair
  exact ⟨member, rows, found, rfl⟩

theorem applied_loaded (rows : PlanRows) : applied rows (loaded rows) = rows := by
  simp [applied, loaded]

theorem free_plans_due (db : Database) (sid : SessionId) (now : Int) (id : PlanId) (free : id ∈ freePlans db sid now) :
    id ∈ duePlans now db.committed ∧ lockable db.planLocks sid id = true :=
  List.mem_filter.mp free

section Planning
variable (zones : Zones) (db : Database) (sid : SessionId) (planning : Planning)

theorem select_plans_sound (committed : Committed zones db.committed) (chosen : List PlanId)
    (selects : Selects (fireOrder db.committed) planning.limit (freePlans db sid planning.now) chosen)
    (next : Database) (same : next.committed = db.committed) (locks : next.planLocks = lockAll db.planLocks sid chosen) :
    PlanningSound zones next sid
      { planning with phase := .materializing chosen, work := loadAll db.committed chosen } := by
  obtain ⟨distinct, qualify, count, _⟩ := selects
  have sub := load_all_keys db.committed chosen
  refine ⟨sub.nodup distinct, ?_, ?_, ?_, distinct, ?_, ?_⟩
  · have shorter := sub.length_le
    simp only
    omega
  · intro id work read
    obtain ⟨listed, _⟩ := load_all_get db.committed chosen id work read
    rw [locks]
    exact lock_all_listed db.planLocks sid chosen id listed
  · intro id work read
    obtain ⟨_, rows, there, rfl⟩ := load_all_get db.committed chosen id work read
    obtain ⟨zone, accounted⟩ := committed.sound.accounted id rows there
    refine ⟨rows, by rw [same]; exact there, rfl, rfl, ⟨zone, ?_⟩, ?_, ?_⟩
    · rw [applied_loaded]
      exact accounted
    · exact Nat.zero_le 1
    · intro dispatch member
      cases member
  · intro id listed work read
    obtain ⟨_, rows, there, rfl⟩ := load_all_get db.committed chosen id work read
    have due := (free_plans_due db sid planning.now id (qualify id listed)).1
    exact ⟨(due_plan_active planning.now db.committed committed.sound.unique id due rows there).1, rfl⟩
  · intro id work read dispatch member
    obtain ⟨_, rows, there, rfl⟩ := load_all_get db.committed chosen id work read
    cases member

theorem materialize_sound (sound : PlanningSound zones db sid planning) (id : PlanId) (activeRunners pending : Nat)
    (rest : List PlanId) (phase : planning.phase = .counted id activeRunners rest) (work : Work)
    (own : Dict.get id planning.work = some work) (done : Materialized)
    (result : materializePlan zones id work.plan planning.now activeRunners pending planning.plannerId = .ok done) :
    PlanningSound zones db sid
      { planning with phase := .materializing rest, work := Dict.put id (work.absorb done) planning.work } := by
  obtain ⟨unique, few, held, works, waiting⟩ := sound
  rw [phase] at waiting
  obtain ⟨distinct, untouched, pendings⟩ := waiting
  obtain ⟨fresh, others⟩ := List.nodup_cons.mp distinct
  obtain ⟨active, none⟩ := untouched id List.mem_cons_self work own
  obtain ⟨rows, there, locked, stored, ⟨zone, accounted⟩, _, _⟩ := works id work own
  have spec := materialize_plan_spec ((applied rows work).preview zones zone) id work.plan (applied rows work).consumed
    planning.now activeRunners pending planning.plannerId accounted.timed active done result
  have created : (work.absorb done).dispatches = done.dispatch.toList := by
    rw [Work.absorb, none, List.nil_append]
  have absorbed : applied rows (work.absorb done) = (applied rows work).absorb done := by
    simp only [applied, Work.absorb, PlanRows.absorb, List.append_assoc]
  have keys := dict_keys_put_present planning.work id work (work.absorb done) own
  refine ⟨?_, ?_, ?_, ?_, others, ?_, ?_⟩
  · rw [keys]
    exact unique
  · rw [keys]
    exact few
  · intro other found read
    rw [dict_get_put] at read
    by_cases same : other = id
    · rw [same]
      exact held id work own
    · rw [if_neg same] at read
      exact held other found read
  · intro other found read
    rw [dict_get_put] at read
    by_cases same : other = id
    · rw [if_pos same] at read
      cases read
      rw [same]
      refine ⟨rows, there, locked, stored, ⟨zone, ?_⟩, ?_, ?_⟩
      · rw [absorbed]
        exact absorb_accounted zones zone id (applied rows work) accounted active planning.now activeRunners pending
          planning.plannerId done result
      · rw [created]
        exact Option.length_toList_le
      · intro dispatch member
        rw [created] at member
        have made := spec.dispatch dispatch (Option.mem_toList.mp member)
        exact ⟨made.due, .inl made.pending⟩
    · rw [if_neg same] at read
      exact works other found read
  · intro other listed found read
    have apart : other ≠ id := fun same => fresh (same ▸ listed)
    rw [dict_get_put, if_neg apart] at read
    exact untouched other (List.mem_cons_of_mem _ listed) found read
  · intro other found read dispatch member
    rw [dict_get_put] at read
    by_cases same : other = id
    · rw [if_pos same] at read
      cases read
      rw [created] at member
      exact (spec.dispatch dispatch (Option.mem_toList.mp member)).pending
    · rw [if_neg same] at read
      exact pendings other found read dispatch member

theorem stored_targets_none (committed : Committed zones db.committed) (now : Int) : storedTargets db sid now = [] := by
  have none : Plans.dueDispatches now db.committed = [] := by
    rw [List.eq_nil_iff_forall_not_mem]
    intro row listed
    obtain ⟨entry, member, here⟩ := List.mem_flatMap.mp listed
    obtain ⟨index, _, rfl⟩ := List.mem_map.mp here
    have held := dict_get_of_mem db.committed entry.1 entry.2 committed.sound.unique member
    obtain ⟨dispatch, read, due⟩ := due_dispatch_pending now db.committed committed.sound.unique (entry.1, index) listed entry.2 held
    have emitted := committed.settled entry.1 entry.2 held dispatch (List.mem_of_getElem? read)
    rw [due.1] at emitted
    cases emitted
  rw [storedTargets, none]
  rfl

theorem due_dispatches_mem (work : Work) (now : Int) (states : ∀ dispatch ∈ work.dispatches, dispatch.dueAt ≤ now)
    (index : Nat) : index ∈ work.dueDispatches now ↔
      ∃ dispatch, work.dispatches[index]? = some dispatch ∧ dispatch.state = .pending := by
  rw [Work.dueDispatches, List.mem_filter, List.mem_range, decide_eq_true_iff]
  constructor
  · rintro ⟨_, dispatch, read, due⟩
    exact ⟨dispatch, read, due.1⟩
  · rintro ⟨dispatch, read, pending⟩
    exact ⟨(List.getElem?_eq_some_iff.mp read).1, dispatch, read, pending, states dispatch (List.mem_of_getElem? read)⟩

theorem own_targets_mem (sound : PlanningSound zones db sid planning) (target : Target) :
    target ∈ ownTargets planning.now planning.work ↔
      ∃ id index, target = .own id index ∧ pendingAt planning.work id index := by
  have states : ∀ id work, Dict.get id planning.work = some work → ∀ dispatch ∈ work.dispatches, dispatch.dueAt ≤ planning.now := by
    intro id work own dispatch member
    obtain ⟨rows, _, fine⟩ := sound.works id work own
    exact (fine.states dispatch member).1
  rw [ownTargets, List.mem_flatMap]
  constructor
  · rintro ⟨entry, member, listed⟩
    obtain ⟨index, due, rfl⟩ := List.mem_map.mp listed
    have own := dict_get_of_mem planning.work entry.1 entry.2 sound.unique member
    obtain ⟨dispatch, read, pending⟩ := (due_dispatches_mem entry.2 planning.now (states entry.1 entry.2 own) index).mp due
    exact ⟨entry.1, index, rfl, entry.2, dispatch, own, read, pending⟩
  · rintro ⟨id, index, rfl, work, dispatch, own, read, pending⟩
    refine ⟨(id, work), dict_get_mem planning.work id work own, List.mem_map.mpr ⟨index, ?_, rfl⟩⟩
    exact (due_dispatches_mem work planning.now (states id work own) index).mpr ⟨dispatch, read, pending⟩

theorem flat_map_short {Row Value : Type} (image : Row → List Value) (rows : List Row)
    (short : ∀ row ∈ rows, (image row).length ≤ 1) : (rows.flatMap image).length ≤ rows.length := by
  induction rows with
  | nil => exact le_rfl
  | cons row rest ih =>
      have here := short row List.mem_cons_self
      have later := ih fun other member => short other (List.mem_cons_of_mem _ member)
      rw [List.flatMap_cons, List.length_append, List.length_cons]
      omega

theorem own_targets_few (sound : PlanningSound zones db sid planning) :
    (ownTargets planning.now planning.work).length ≤ planning.limit := by
  have few := sound.few
  rw [Dict.keys, List.length_map] at few
  refine (flat_map_short _ planning.work fun entry member => ?_).trans few
  have own := dict_get_of_mem planning.work entry.1 entry.2 sound.unique member
  obtain ⟨rows, _, fine⟩ := sound.works entry.1 entry.2 own
  have short := List.length_filter_le (fun index => decide (∃ dispatch ∈ entry.2.dispatches[index]?, dispatch.due planning.now))
    (List.range entry.2.dispatches.length)
  rw [List.length_range] at short
  rw [List.length_map]
  exact short.trans fine.single

theorem selects_all {Row : Type} [DecidableEq Row] (order : Row → Int) (limit : Nat) (qualifying chosen : List Row)
    (selects : Selects order limit qualifying chosen) (few : qualifying.length ≤ limit) (row : Row) :
    row ∈ chosen ↔ row ∈ qualifying := by
  obtain ⟨distinct, qualify, count, _⟩ := selects
  have sub : List.Subperm chosen qualifying := List.subperm_of_subset distinct qualify
  rw [Nat.min_eq_right few] at count
  exact (sub.perm_of_length_le count.ge).mem_iff

theorem select_dispatches_sound (committed : Committed zones db.committed) (sound : PlanningSound zones db sid planning)
    (chosen : List Target)
    (selects : Selects (targetOrder db.committed planning.work) planning.limit
      (ownTargets planning.now planning.work ++ storedTargets db sid planning.now) chosen) :
    PlanningSound zones db sid { planning with phase := .emitting chosen } := by
  rw [stored_targets_none zones db sid committed planning.now, List.append_nil] at selects
  have all := selects_all _ _ _ chosen selects (own_targets_few zones db sid planning sound)
  refine ⟨sound.unique, sound.few, sound.held, sound.works, selects.1, ?_, ?_⟩
  · intro target listed
    obtain ⟨id, index, same, _⟩ := (own_targets_mem zones db sid planning sound target).mp ((all target).mp listed)
    exact ⟨id, index, same⟩
  · intro id index
    rw [all, own_targets_mem zones db sid planning sound]
    constructor
    · rintro ⟨_, _, same, pending⟩
      cases same
      exact pending
    · intro pending
      exact ⟨id, index, rfl, pending⟩

end Planning

end LlmperfOrchestrator.Storage.Plans.Concurrent

import LlmperfOrchestrator.Storage.PlannerSteps

set_option autoImplicit false

namespace LlmperfOrchestrator.Storage.Plans.Concurrent

open Tables Runtime.Recurrence Runs

-- _emit_dispatch of a dispatch the session has created itself.
def Work.emitOwn (work : Work) (index : Nat) (dispatch : Dispatch) (made : PlanRunner) (now : Int)
    (plannerId : Option String) : Work :=
  { work.emitted dispatch made now plannerId with
    dispatches := work.dispatches.set index (emittedDispatch dispatch made.id now) }

theorem applied_emit_own (rows : PlanRows) (work : Work) (index : Nat) (dispatch : Dispatch) (made : PlanRunner) (now : Int)
    (plannerId : Option String) :
    applied rows (work.emitOwn index dispatch made now plannerId) =
      (applied rows work).emitted (rows.dispatches.length + index) dispatch made now plannerId := by
  have placed : (rows.dispatches ++ work.dispatches).set (rows.dispatches.length + index)
      (emittedDispatch dispatch made.id now) =
      rows.dispatches ++ work.dispatches.set index (emittedDispatch dispatch made.id now) := by
    rw [List.set_append_right _ _ (Nat.le_add_right _ _), Nat.add_sub_cancel_left]
  simp only [applied, Work.emitOwn, Work.emitted, PlanRows.emitted, placed, List.append_assoc]

theorem pending_at_put (work : Dict PlanId Work) (id other : PlanId) (index place : Nat) (old : Work)
    (own : Dict.get id work = some old) (fresh : Work) (emitted : Dispatch) (done : emitted.state = .emitted)
    (rows : fresh.dispatches = old.dispatches.set index emitted) :
    pendingAt (Dict.put id fresh work) other place ↔ pendingAt work other place ∧ ¬ (other = id ∧ place = index) := by
  unfold pendingAt
  rw [dict_get_put]
  by_cases same : other = id
  · subst same
    rw [if_pos rfl, own]
    by_cases here : place = index
    · subst here
      constructor
      · rintro ⟨_, dispatch, found, read, pending⟩
        cases found
        rw [rows, List.getElem?_set_self'] at read
        obtain ⟨_, _, rfl⟩ := Option.map_eq_some_iff.mp read
        rw [Function.const_apply, done] at pending
        cases pending
      · intro ⟨_, apart⟩
        exact absurd ⟨rfl, rfl⟩ apart
    · constructor
      · rintro ⟨_, dispatch, found, read, pending⟩
        cases found
        rw [rows, List.getElem?_set_ne (Ne.symm here)] at read
        exact ⟨⟨old, dispatch, rfl, read, pending⟩, fun both => here both.2⟩
      · rintro ⟨⟨_, dispatch, found, read, pending⟩, _⟩
        cases found
        refine ⟨fresh, dispatch, rfl, ?_, pending⟩
        rw [rows, List.getElem?_set_ne (Ne.symm here)]
        exact read
  · rw [if_neg same]
    constructor
    · intro held
      exact ⟨held, fun both => same both.1⟩
    · intro held
      exact held.1

section Planning
variable (zones : Zones) (db : Database) (sid : SessionId) (planning : Planning)

theorem emit_cases (target : Target) (rest : List Target) (remaining : Remaining planning.work (target :: rest)) (runner : RunnerId) (work : Dict PlanId Work)
    (result : emitTarget db.committed planning target runner = .ok work) :
    ∃ id index old dispatch made, target = .own id index ∧ Dict.get id planning.work = some old ∧
      old.dispatches[index]? = some dispatch ∧ dispatch.state = .pending ∧
      fromDispatch dispatch runner old.plan.runtime = .ok made ∧
      work = Dict.put id (old.emitOwn index dispatch made planning.now planning.plannerId) planning.work := by
  obtain ⟨id, index, rfl⟩ := remaining.own target List.mem_cons_self
  obtain ⟨old, dispatch, loaded, read, waits⟩ := (remaining.pending id index).mp List.mem_cons_self
  simp only [emitTarget, loaded, read] at result
  cases made : fromDispatch dispatch runner old.plan.runtime with
  | error text => rw [made] at result; cases result
  | ok row =>
      rw [made] at result
      exact ⟨id, index, old, dispatch, row, rfl, loaded, read, waits, made, (Except.ok.inj result).symm⟩

theorem emit_sound (sound : PlanningSound zones db sid planning) (target : Target) (rest : List Target)
    (phase : planning.phase = .emitting (target :: rest)) (runner : RunnerId) (work : Dict PlanId Work)
    (result : emitTarget db.committed planning target runner = .ok work) :
    PlanningSound zones db sid { planning with phase := .emitting rest, work } := by
  obtain ⟨unique, few, held, works, remaining⟩ := sound
  rw [phase] at remaining
  obtain ⟨id, index, old, dispatch, made, rfl, loaded, read, waits, ready, rfl⟩ :=
    emit_cases db planning target rest remaining runner work result
  obtain ⟨distinct, own, pending⟩ := remaining
  obtain ⟨absent, others⟩ := List.nodup_cons.mp distinct
  have keys := dict_keys_put_present planning.work id old
    (old.emitOwn index dispatch made planning.now planning.plannerId) loaded
  obtain ⟨rows, there, locked, stored, ⟨zone, accounted⟩, single, states⟩ := works id old loaded
  refine ⟨?_, ?_, ?_, ?_, others, fun other member => own other (List.mem_cons_of_mem _ member), ?_⟩
  · rw [keys]
    exact unique
  · rw [keys]
    exact few
  · intro other found entry
    rw [dict_get_put] at entry
    by_cases same : other = id
    · rw [same]
      exact held id old loaded
    · rw [if_neg same] at entry
      exact held other found entry
  · intro other found entry
    rw [dict_get_put] at entry
    by_cases same : other = id
    · rw [if_pos same] at entry
      cases entry
      rw [same]
      refine ⟨rows, there, locked, stored, ⟨zone, ?_⟩, ?_, ?_⟩
      · rw [applied_emit_own]
        refine emit_accounted zones zone (applied rows old) accounted _ dispatch ?_ waits runner made ready planning.now
          planning.plannerId
        rw [applied, List.getElem?_append_right (Nat.le_add_right _ _), Nat.add_sub_cancel_left]
        exact read
      · rw [Work.emitOwn, List.length_set]
        exact single
      · have before := states dispatch (List.mem_of_getElem? read)
        exact forall_set (fun row : Dispatch => row.dueAt ≤ planning.now ∧ (row.state = .pending ∨ row.state = .emitted))
          old.dispatches index (emittedDispatch dispatch made.id planning.now) states ⟨before.1, .inr rfl⟩
    · rw [if_neg same] at entry
      exact works other found entry
  · intro other place
    have moved := pending_at_put planning.work id other index place old loaded
      (old.emitOwn index dispatch made planning.now planning.plannerId) (emittedDispatch dispatch made.id planning.now) rfl rfl
    rw [moved, ← pending other place, List.mem_cons]
    constructor
    · intro later
      refine ⟨.inr later, ?_⟩
      rintro ⟨rfl, rfl⟩
      exact absent later
    · rintro ⟨here | later, apart⟩
      · cases here
        exact absurd ⟨rfl, rfl⟩ apart
      · exact later

def published (id : PlanId) (rows : PlanRows) : PlanRows :=
  match Dict.get id planning.work with
  | none => rows
  | some work => publish planning.now rows work

theorem publish_applied (now : Int) (rows : PlanRows) (work : Work) (sound : WorkSound zones now rows work) :
    publish now rows work = applied rows work := by
  simp only [publish, applied, writtenPlan, sound.locked, sound.stored, if_true, applyUpdates, List.foldl_nil]

theorem published_foreign (id : PlanId) (rows : PlanRows) (foreign : Dict.get id planning.work = none) :
    published planning id rows = rows := by
  rw [published, foreign]

theorem published_own (id : PlanId) (rows : PlanRows) (work : Work) (own : Dict.get id planning.work = some work)
    (sound : WorkSound zones planning.now rows work) : published planning id rows = applied rows work := by
  rw [published, own]
  exact publish_applied zones planning.now rows work sound

theorem publish_all_get (plans : PlanTable) (id : PlanId) :
    Dict.get id (publishAll plans planning) = (Dict.get id plans).map (published planning id) :=
  dict_get_map (published planning) plans id

theorem publish_all_keys (plans : PlanTable) : Dict.keys (publishAll plans planning) = Dict.keys plans := by
  simp only [publishAll, Dict.keys, List.map_map]
  rfl

theorem created_emitted (sound : PlanningSound zones db sid planning) (phase : planning.phase = .emitting [])
    (id : PlanId) (work : Work) (own : Dict.get id planning.work = some work) (dispatch : Dispatch)
    (member : dispatch ∈ work.dispatches) : dispatch.state = .emitted := by
  have remaining := sound.phase
  rw [phase] at remaining
  obtain ⟨rows, _, fine⟩ := sound.works id work own
  cases (fine.states dispatch member).2 with
  | inr emitted => exact emitted
  | inl pending =>
      obtain ⟨index, read⟩ := List.mem_iff_getElem?.mp member
      have listed := (remaining.pending id index).mpr ⟨work, dispatch, own, read, pending⟩
      cases listed

theorem publish_all_committed (committed : Committed zones db.committed) (sound : PlanningSound zones db sid planning)
    (phase : planning.phase = .emitting []) : Committed zones (publishAll db.committed planning) := by
  have each : ∀ id rows, Dict.get id (publishAll db.committed planning) = some rows →
      (∃ zone, Accounted zones zone rows) ∧ Settled rows := by
    intro id rows read
    rw [publish_all_get] at read
    obtain ⟨before, there, rfl⟩ := Option.map_eq_some_iff.mp read
    cases own : Dict.get id planning.work with
    | none =>
        rw [published_foreign planning id before own]
        exact ⟨committed.sound.accounted id before there, committed.settled id before there⟩
    | some work =>
        obtain ⟨found, here, fine⟩ := sound.works id work own
        rw [there] at here
        cases here
        rw [published_own zones planning id before work own fine]
        refine ⟨fine.accounted, fun dispatch member => ?_⟩
        cases List.mem_append.mp member with
        | inl old => exact committed.settled id before there dispatch old
        | inr new => exact created_emitted zones db sid planning sound phase id work own dispatch new
  refine ⟨⟨fun id rows read => (each id rows read).1, ?_⟩, fun id rows read => (each id rows read).2⟩
  rw [publish_all_keys]
  exact committed.sound.unique

theorem publish_all_untouched (sound : PlanningSound zones db sid planning) (id : PlanId)
    (free : db.planLocks id ≠ some sid) : Dict.get id (publishAll db.committed planning) = Dict.get id db.committed := by
  rw [publish_all_get]
  cases own : Dict.get id planning.work with
  | none =>
      cases there : Dict.get id db.committed with
      | none => rfl
      | some rows => rw [Option.map_some, published_foreign planning id rows own]
  | some work => exact absurd (sound.held id work own) free

end Planning

theorem pending_rows_none (rows : PlanRows) (settled : Settled rows) : pendingRows rows = [] := by
  rw [pendingRows, List.filter_eq_nil_iff]
  intro index _ pending
  obtain ⟨dispatch, read, waits⟩ := of_decide_eq_true pending
  rw [settled dispatch (List.mem_of_getElem? read)] at waits
  cases waits

theorem cancel_settled (rows : PlanRows) (settled : Settled rows) : rows.dispatches.map cancelPending = rows.dispatches := by
  have same : ∀ dispatch ∈ rows.dispatches, cancelPending dispatch = dispatch := by
    intro dispatch member
    rw [cancelPending, settled dispatch member]
    rfl
  rw [List.map_congr_left same, List.map_id']

theorem publish_change_changed (rows : PlanRows) (settled : Settled rows) (changing : Changing) :
    publishChange rows changing (changedPlan rows.plan changing.action changing.now) [] =
      rows.changed changing.action changing.now := by
  have dispatches : (if changing.action = .cancel then rows.dispatches.map cancelPending else rows.dispatches) = rows.dispatches := by
    rw [cancel_settled rows settled]
    exact ite_self _
  simp only [publishChange, PlanRows.changed, dispatches, List.foldl_nil]
  rfl

theorem change_committed (zones : Zones) (plans : PlanTable) (committed : Committed zones plans) (id : PlanId) (rows : PlanRows)
    (there : Dict.get id plans = some rows) (action : PlanAction) (allowed : rows.plan.status ∈ action.allowed) (now : Int) :
    Committed zones (Dict.put id (rows.changed action now) plans) := by
  obtain ⟨zone, accounted⟩ := committed.sound.accounted id rows there
  have next := changed_accounted zones zone rows accounted action allowed now
  refine ⟨put_sound zones plans committed.sound id _ ⟨zone, next⟩, fun other found read => ?_⟩
  rw [dict_get_put] at read
  by_cases same : other = id
  · rw [if_pos same] at read
    cases read
    have settled := committed.settled id rows there
    have dispatches : (rows.changed action now).dispatches = rows.dispatches := by
      simp only [PlanRows.changed, cancel_settled rows settled]
      exact ite_self _
    rw [Settled, dispatches]
    exact settled
  · rw [if_neg same] at read
    exact committed.settled other found read

section Steps
variable (zones : Zones) (db next : Database) (sid : SessionId) (consistent : Consistent zones db)
include consistent

theorem session_continues (session : Session) (same : next.committed = db.committed)
    (sessions : next.sessions = (db.put sid session).sessions)
    (locks : ∀ other, other ≠ sid → ∀ id, db.planLocks id = some other → next.planLocks id = some other)
    (here : SessionSound zones next sid session) : Consistent zones next := by
  apply quiet_step zones db next sid consistent same
  · intro other apart
    rw [sessions]
    exact put_session_other db sid other session apart
  · exact locks
  · rw [sessions, put_session]
    exact here

theorem lock_plans_continue (session : Session) (keys : List PlanId)
    (free : ∀ key ∈ keys, lockable db.planLocks sid key = true)
    (here : SessionSound zones { db.put sid session with planLocks := lockAll db.planLocks sid keys } sid session) :
    Consistent zones { db.put sid session with planLocks := lockAll db.planLocks sid keys } := by
  apply session_continues zones db _ sid consistent session
  · rfl
  · rfl
  · intro other apart id held
    exact lock_all_other db.planLocks sid keys free other apart id held
  · exact here

theorem planning_continues (planning : Planning) (here : PlanningSound zones db sid planning) (same : next.committed = db.committed)
    (sessions : next.sessions = (db.put sid (.planning planning)).sessions) (locks : next.planLocks = db.planLocks) :
    Consistent zones next := by
  have kept : ∀ other id, db.planLocks id = some other → next.planLocks id = some other := by
    intro other id held
    rw [locks]
    exact held
  apply session_continues zones db next sid consistent (.planning planning) same sessions
  · intro other _ id held
    exact kept other id held
  · exact planning_undisturbed zones db next sid planning (undisturbed_locks db next sid same (kept sid)) here

theorem planning_step_consistent (planning : Planning) (active : db.sessions sid = .planning planning) (event : Event)
    (taken : planningStep zones db sid planning event = some next) : Consistent zones next := by
  have sound : PlanningSound zones db sid planning := by
    have here := consistent.sessions sid
    rw [active] at here
    exact here
  have committed := consistent.committed
  cases event with
  | selectPlans _ chosen =>
      rw [planningStep] at taken
      split at taken
      · split at taken
        · rename_i selects
          cases taken
          apply lock_plans_continue zones db sid consistent
          · intro id listed
            exact (free_plans_due db sid planning.now id (selects.2.1 id listed)).2
          · exact select_plans_sound zones db sid planning committed chosen selects _ rfl rfl
        · cases taken
      · cases taken
  | countRunners _ =>
      rw [planningStep] at taken
      split at taken
      · rename_i id rest phase
        split at taken
        · cases taken
          have waiting := sound.phase
          rw [phase] at waiting
          exact planning_continues zones db _ sid consistent { planning with phase := .counted id _ rest }
            ⟨sound.unique, sound.few, sound.held, sound.works, waiting⟩ rfl rfl rfl
        · cases taken
      · cases taken
  | materialize _ =>
      rw [planningStep] at taken
      split at taken
      · rename_i id activeRunners rest phase
        split at taken
        · rename_i rows work there own
          split at taken
          · cases taken
            exact finish_consistent zones db sid consistent
          · rename_i done result
            cases taken
            exact planning_continues zones db _ sid consistent _ (materialize_sound zones db sid planning sound id
              activeRunners _ rest phase work own done result) rfl rfl rfl
        · cases taken
      · cases taken
  | selectDispatches _ chosen =>
      rw [planningStep] at taken
      split at taken
      · split at taken
        · rename_i selects
          cases taken
          exact planning_continues zones db _ sid consistent _
            (select_dispatches_sound zones db sid planning committed sound chosen selects) rfl rfl rfl
        · cases taken
      · cases taken
  | emit _ runner =>
      rw [planningStep] at taken
      split at taken
      · rename_i target rest phase
        split at taken
        · cases taken
          exact finish_consistent zones db sid consistent
        · rename_i work result
          cases taken
          exact planning_continues zones db _ sid consistent _
            (emit_sound zones db sid planning sound target rest phase runner work result) rfl rfl rfl
      · cases taken
  | flush _ id =>
      rw [planningStep] at taken
      split at taken
      · rename_i allowed
        cases taken
        apply quiet_step zones db _ sid consistent
        · rfl
        · intro other _
          rfl
        · intro other apart key held
          exact lock_all_other db.planLocks sid [id] (by simpa using allowed.2) other apart key held
        · rw [active]
          apply planning_undisturbed zones db _ sid planning _ sound
          exact undisturbed_locks db _ sid rfl fun key held => lock_all_own db.planLocks sid [id] key held
      · cases taken
  | commitPlanning _ =>
      rw [planningStep] at taken
      split at taken
      · rename_i phase
        split at taken
        · cases taken
          exact commit_consistent zones db sid consistent _
            (publish_all_committed zones db sid planning committed sound phase) fun id free =>
              publish_all_untouched zones db sid planning sound id free
        · cases taken
      · cases taken
  | create | runnerStatus | beginPlanning | beginChange | lockPlan | updateDispatches | commitChange | abort => cases taken

theorem changing_step_consistent (changing : Changing) (active : db.sessions sid = .changing changing) (event : Event)
    (taken : changingStep db sid changing event = some next) : Consistent zones next := by
  have sound : ChangingSound db sid changing := by
    have here := consistent.sessions sid
    rw [active] at here
    exact here
  have committed := consistent.committed
  cases event with
  | lockPlan _ =>
      rw [changingStep] at taken
      split at taken
      · cases taken
      · cases taken
        exact finish_consistent zones db sid consistent
      · rename_i rows unlocked there
        split at taken
        · rename_i free
          split at taken
          · rename_i allowed
            cases taken
            apply lock_plans_continue zones db sid consistent
            · intro id listed
              rw [List.mem_singleton.mp listed]
              exact free
            · refine ⟨fun _ => lock_all_listed db.planLocks sid _ _ List.mem_cons_self, ?_, sound.nothing⟩
              intro plan changed
              cases changed
              exact ⟨rows, there, rfl, allowed⟩
          · cases taken
            exact finish_consistent zones db sid consistent
        · cases taken
  | updateDispatches _ =>
      rw [changingStep] at taken
      split at taken
      · rename_i plan rows loaded unlocked there
        have indices : (if changing.action = .cancel then pendingRows rows else []) = [] := by
          rw [pending_rows_none rows (committed.settled changing.id rows there)]
          exact ite_self _
        simp only [indices] at taken
        split at taken
        · cases taken
          apply session_continues zones db _ sid consistent
          · rfl
          · rfl
          · intro other _ id held
            exact held
          · refine ⟨sound.held, sound.loaded, fun cancels updated => ?_⟩
            cases updated
            rfl
        · cases taken
      · cases taken
  | commitChange _ =>
      rw [changingStep] at taken
      split at taken
      · rename_i plan cancels rows loaded updated there
        cases taken
        obtain ⟨found, here, rfl, allowed⟩ := sound.loaded plan loaded
        rw [there] at here
        cases here
        have none := sound.nothing cancels updated
        have held := sound.held (by rw [loaded]; exact Option.some_ne_none _)
        rw [none, publish_change_changed rows (committed.settled changing.id rows there) changing]
        apply commit_consistent zones db sid consistent
        · exact change_committed zones db.committed committed changing.id rows there changing.action allowed changing.now
        · intro id free
          have apart : id ≠ changing.id := fun same => free (same ▸ held)
          rw [dict_get_put, if_neg apart]
      · cases taken
  | create | runnerStatus | beginPlanning | selectPlans | countRunners | materialize | selectDispatches | emit | flush
  | commitPlanning | beginChange | abort => cases taken

theorem create_consistent (id : PlanId) (campaign : CampaignId) (timing : RunnerPlanTiming) (runnerTemplate : Json)
    (templateVersion createdBy : String) (runtime : Option String) (defaultStartsAt now : Int) (plans : PlanTable)
    (made : Plans.step zones db.committed
      (.create id campaign timing runnerTemplate templateVersion createdBy runtime defaultStartsAt now) = some plans) :
    Consistent zones { db with committed := plans } := by
  obtain ⟨sound, _⟩ := step_follows zones db.committed plans _ consistent.committed.sound made
  have kept : ∀ other rows, Dict.get other db.committed = some rows → Dict.get other plans = some rows := by
    intro other rows there
    rw [Plans.step] at made
    split at made
    · rename_i fresh
      split at made
      · cases made
        have apart : other ≠ id := fun same => by
          rw [same, fresh.1] at there
          cases there
        rw [dict_get_put, if_neg apart]
        exact there
      · cases made
        exact there
    · cases made
  have settled : ∀ other rows, Dict.get other plans = some rows → Settled rows := by
    intro other rows there
    rw [Plans.step] at made
    split at made
    · split at made
      · cases made
        rw [dict_get_put] at there
        by_cases same : other = id
        · rw [if_pos same] at there
          cases there
          intro dispatch member
          cases member
        · rw [if_neg same] at there
          exact consistent.committed.settled other rows there
      · cases made
        exact consistent.committed.settled other rows there
    · cases made
  refine ⟨⟨sound, settled⟩, fun sid => ?_⟩
  apply session_undisturbed zones db _ sid _ _ (consistent.sessions sid)
  exact ⟨fun _ held => held, fun other rows _ there => ⟨rows, kept other rows there, same_books_refl rows⟩⟩

theorem status_consistent (id : PlanId) (index : Nat) (status : RunnerStatus) (plans : PlanTable)
    (changed : Plans.step zones db.committed (.runnerStatus id index status) = some plans) :
    Consistent zones { db with committed := plans } := by
  obtain ⟨sound, _⟩ := step_follows zones db.committed plans _ consistent.committed.sound changed
  rw [Plans.step] at changed
  cases found : Dict.get id db.committed with
  | none => rw [found] at changed; cases changed
  | some rows =>
      rw [found] at changed
      cases changed
      have same := status_same_books rows index status
      refine ⟨⟨sound, fun other later there => ?_⟩, fun sid => ?_⟩
      · rw [dict_get_put] at there
        by_cases here : other = id
        · rw [if_pos here] at there
          cases there
          rw [Settled, same.dispatches]
          exact consistent.committed.settled id rows found
        · rw [if_neg here] at there
          exact consistent.committed.settled other later there
      · apply session_undisturbed zones db _ sid _ _ (consistent.sessions sid)
        refine ⟨fun _ held => held, fun other before _ there => ?_⟩
        by_cases here : other = id
        · rw [here, found] at there
          cases there
          exact ⟨rows.setStatus index status, by rw [dict_get_put, if_pos here], same⟩
        · exact ⟨before, by rw [dict_get_put, if_neg here]; exact there, same_books_refl before⟩

theorem begin_consistent (session : Session) (here : SessionSound zones (db.put sid session) sid session) :
    Consistent zones (db.put sid session) := by
  apply session_continues zones db _ sid consistent session
  · rfl
  · rfl
  · intro other _ id held
    exact held
  · exact here

theorem statement_consistent (event : Event)
    (taken : (match db.sessions sid with
      | .idle => none
      | .planning planning => planningStep zones db sid planning event
      | .changing changing => changingStep db sid changing event) = some next) : Consistent zones next := by
  cases session : db.sessions sid with
  | idle => rw [session] at taken; cases taken
  | planning planning =>
      rw [session] at taken
      exact planning_step_consistent zones db next sid consistent planning session event taken
  | changing changing =>
      rw [session] at taken
      exact changing_step_consistent zones db next sid consistent changing session event taken

theorem step_consistent (event : Event) (taken : step zones db event = some next) : Consistent zones next := by
  cases event with
  | create id campaign timing runnerTemplate templateVersion createdBy runtime defaultStartsAt now =>
      obtain ⟨plans, made, rfl⟩ := Option.map_eq_some_iff.mp taken
      exact create_consistent zones db consistent id campaign timing runnerTemplate templateVersion createdBy runtime
        defaultStartsAt now plans made
  | runnerStatus id index status =>
      obtain ⟨plans, changed, rfl⟩ := Option.map_eq_some_iff.mp taken
      exact status_consistent zones db consistent id index status plans changed
  | beginPlanning sid now limit plannerId =>
      rw [step] at taken
      split at taken
      · cases taken
        apply begin_consistent zones db sid consistent
        refine ⟨List.nodup_nil, Nat.zero_le limit, ?_, ?_, rfl⟩
        · intro id work own
          cases own
        · intro id work own
          cases own
      · cases taken
  | beginChange sid id action now =>
      rw [step] at taken
      split at taken
      · cases taken
        apply begin_consistent zones db sid consistent
        refine ⟨fun loaded => absurd rfl loaded, ?_, ?_⟩
        · intro plan loaded
          cases loaded
        · intro cancels updated
          cases updated
      · cases taken
  | abort sid =>
      rw [step] at taken
      split at taken
      · cases taken
      · cases taken
        exact finish_consistent zones db sid consistent
  | selectPlans sid | countRunners sid | materialize sid | selectDispatches sid | emit sid | flush sid | commitPlanning sid
  | lockPlan sid | updateDispatches sid | commitChange sid =>
      exact statement_consistent zones db next sid consistent _ taken

end Steps

theorem run_consistent (zones : Zones) (events : List Event) (last : Database)
    (reached : run (step zones) empty events = some last) : Consistent zones last :=
  run_invariant (step zones) (Consistent zones)
    (fun db event next consistent taken => step_consistent zones db next consistent event taken) events empty last
    (empty_consistent zones) reached

end LlmperfOrchestrator.Storage.Plans.Concurrent

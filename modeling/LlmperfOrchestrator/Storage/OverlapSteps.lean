import LlmperfOrchestrator.Storage.OverlapPolicy

set_option autoImplicit false

namespace LlmperfOrchestrator.Storage.Plans.Concurrent

open Tables Outcomes Runs Runtime.Recurrence

theorem from_dispatch_queued (dispatch : Dispatch) (id : RunnerId) (runtime : Option String) (runner : PlanRunner)
    (made : fromDispatch dispatch id runtime = .ok runner) : runner.status = .queued := by
  obtain ⟨_, _, made⟩ := (bind_ok _ _ _).mp made
  obtain ⟨_, _, made⟩ := (bind_ok _ _ _).mp made
  obtain ⟨_, _, made⟩ := (bind_ok _ _ _).mp made
  cases made
  rfl

section Planning
variable (zones : Zones) (db : Database) (sid : SessionId) (planning : Planning)

theorem select_plans_single (single : Single db) (chosen : List PlanId) :
    PlanningSingle db { planning with phase := .materializing chosen, work := loadAll db.committed chosen } := by
  constructor
  · intro id work rows own there
    obtain ⟨_, found, here, rfl⟩ := load_all_get db.committed chosen id work own
    cases Option.some.inj (there.symm.trans here)
    refine ⟨rfl, ?_, fun runner member => by cases member⟩
    intro policy
    rw [applied_loaded]
    exact single.committed id rows there policy
  · intro id activeRunners rest phase
    cases phase

theorem count_runners_single (single : PlanningSingle db planning) (id : PlanId) (rest : List PlanId) (rows : PlanRows) (work : Work)
    (there : Dict.get id db.committed = some rows) (own : Dict.get id planning.work = some work) :
    PlanningSingle db { planning with phase := .counted id (rows.activeRunners + activeOwn work) rest } := by
  constructor
  · exact single.works
  · intro other activeRunners remaining phase found later mine here
    cases phase
    cases Option.some.inj (own.symm.trans mine)
    cases Option.some.inj (there.symm.trans here)
    exact Nat.le_refl _

theorem other_phase_single (single : PlanningSingle db planning) (phase : Phase)
    (uncounted : ∀ id activeRunners rest, phase ≠ .counted id activeRunners rest) : PlanningSingle db { planning with phase := phase } :=
  ⟨single.works, fun id activeRunners rest same => absurd same (uncounted id activeRunners rest)⟩

theorem materialize_single (sound : PlanningSound zones db sid planning) (single : PlanningSingle db planning) (id : PlanId)
    (activeRunners : Nat) (rest : List PlanId) (phase : planning.phase = .counted id activeRunners rest) (rows : PlanRows)
    (work : Work) (there : Dict.get id db.committed = some rows) (own : Dict.get id planning.work = some work) (done : Materialized)
    (result : materializePlan zones id work.plan planning.now activeRunners (rows.inState .pending + pendingOwn work)
      planning.plannerId = .ok done) :
    PlanningSingle db { planning with phase := .materializing rest, work := Dict.put id (work.absorb done) planning.work } := by
  have waiting := sound.phase
  rw [phase] at waiting
  obtain ⟨active, _⟩ := waiting.untouched id List.mem_cons_self work own
  have mine := single.works id work rows own there
  have counted := single.counted id activeRunners rest phase work rows own there
  obtain ⟨policy, blocked⟩ := materialize_overlap zones planning.plannerId id work.plan planning.now activeRunners _ done result
  obtain ⟨found, here, fine⟩ := sound.works id work own
  cases Option.some.inj (there.symm.trans here)
  obtain ⟨zone, accounted⟩ := fine.accounted
  have spec := materialize_plan_spec ((applied rows work).preview zones zone) id work.plan (applied rows work).consumed
    planning.now activeRunners _ planning.plannerId accounted.timed active done result
  constructor
  · intro other changed later loaded held
    rw [dict_get_put] at loaded
    by_cases same : other = id
    · rw [if_pos same] at loaded
      cases loaded
      rw [same, there] at held
      cases held
      refine ⟨policy.trans mine.policy, ?_, mine.queued⟩
      intro skips
      have before := mine.single skips
      rw [absorbed_outstanding rows work done fun dispatch member => (spec.dispatch dispatch member).pending]
      by_cases nothing : 0 < activeRunners + (rows.inState .pending + pendingOwn work)
      · rw [blocked (mine.policy.trans skips) nothing]
        exact before
      · have short : done.dispatch.toList.length ≤ 1 := Option.length_toList_le
        rw [applied_outstanding]
        omega
    · rw [if_neg same] at loaded
      exact single.works other changed later loaded held
  · intro other activeRunners remaining changed
    cases changed

theorem emit_single (sound : PlanningSound zones db sid planning) (single : PlanningSingle db planning) (target : Target)
    (rest : List Target) (phase : planning.phase = .emitting (target :: rest)) (runner : RunnerId) (work : Dict PlanId Work)
    (result : emitTarget db.committed planning target runner = .ok work) :
    PlanningSingle db { planning with phase := .emitting rest, work := work } := by
  have remaining := sound.phase
  rw [phase] at remaining
  obtain ⟨id, index, old, dispatch, made, rfl, loaded, read, waits, ready, rfl⟩ :=
    emit_cases db planning target rest remaining runner work result
  have queued := from_dispatch_queued dispatch runner old.plan.runtime made ready
  constructor
  · intro other changed rows own there
    rw [dict_get_put] at own
    by_cases same : other = id
    · rw [if_pos same] at own
      cases own
      have mine := single.works id old rows loaded (same ▸ there)
      refine ⟨mine.policy, ?_, ?_⟩
      · intro skips
        rw [emit_own_outstanding rows old index dispatch made planning.now planning.plannerId read waits queued]
        exact mine.single skips
      · intro fresh member
        cases List.mem_append.mp member with
        | inl older => exact mine.queued fresh older
        | inr new =>
            rw [List.mem_singleton.mp new]
            exact queued
    · rw [if_neg same] at own
      exact single.works other changed rows own there
  · intro other activeRunners remaining changed
    cases changed

end Planning

section Steps
variable (zones : Zones) (db next : Database) (sid : SessionId) (consistent : Consistent zones db) (single : Single db)
include consistent single

theorem planning_step_single (planning : Planning) (active : db.sessions sid = .planning planning) (event : Event)
    (taken : planningStep zones db sid planning event = some next) : Single next := by
  have sound : PlanningSound zones db sid planning := by
    have here := consistent.sessions sid
    rw [active] at here
    exact here
  have mine := single.sessions sid planning active
  have goes : ∀ changed : Planning, PlanningSingle db changed → next.committed = db.committed →
      next.sessions = (db.put sid (.planning changed)).sessions → Single next := by
    intro changed here same sessions
    apply single_put db next sid single (.planning changed) _ same sessions
    intro other begun
    cases begun
    exact here
  cases event with
  | selectPlans _ chosen =>
      rw [planningStep] at taken
      split at taken
      · split at taken
        · cases taken
          exact goes _ (select_plans_single db planning single chosen) rfl rfl
        · cases taken
      · cases taken
  | countRunners _ =>
      rw [planningStep] at taken
      split at taken
      · rename_i id rest phase
        split at taken
        · rename_i rows work there own
          cases taken
          exact goes _ (count_runners_single db planning mine id rest rows work there own) rfl rfl
        · cases taken
      · cases taken
  | materialize _ =>
      rw [planningStep] at taken
      split at taken
      · rename_i id activeRunners rest phase
        split at taken
        · rename_i rows work there own
          split at taken
          · cases taken
            exact single_finish db sid single
          · rename_i done result
            cases taken
            exact goes _ (materialize_single zones db sid planning sound mine id activeRunners rest phase rows work there own done
              result) rfl rfl
        · cases taken
      · cases taken
  | selectDispatches _ chosen =>
      rw [planningStep] at taken
      split at taken
      · split at taken
        · cases taken
          exact goes _ (other_phase_single db planning mine (.emitting chosen) fun _ _ _ same => by cases same) rfl rfl
        · cases taken
      · cases taken
  | emit _ runner =>
      rw [planningStep] at taken
      split at taken
      · rename_i target rest phase
        split at taken
        · cases taken
          exact single_finish db sid single
        · rename_i work result
          cases taken
          exact goes _ (emit_single zones db sid planning sound mine target rest phase runner work result) rfl rfl
      · cases taken
  | flush _ id =>
      rw [planningStep] at taken
      split at taken
      · cases taken
        apply single_quiet db _ sid single
        · rfl
        · intro other _
          rfl
        · intro other begun
          exact single.sessions sid other begun
      · cases taken
  | commitPlanning _ =>
      rw [planningStep] at taken
      split at taken
      · split at taken
        · cases taken
          apply single_commit db sid single zones consistent
          · intro id rows read policy
            rw [publish_all_get] at read
            obtain ⟨before, there, rfl⟩ := Option.map_eq_some_iff.mp read
            cases own : Dict.get id planning.work with
            | none =>
                rw [published_foreign planning id before own] at policy ⊢
                exact single.committed id before there policy
            | some work =>
                obtain ⟨found, here, fine⟩ := sound.works id work own
                cases Option.some.inj (there.symm.trans here)
                rw [published_own zones planning id before work own fine] at policy ⊢
                have loaded := mine.works id work before own there
                exact loaded.single (loaded.policy.symm.trans policy)
          · intro id free
            exact publish_all_untouched zones db sid planning sound id free
        · cases taken
      · cases taken
  | create | runnerStatus | beginPlanning | beginChange | lockPlan | updateDispatches | commitChange | abort => cases taken

theorem changing_step_single (changing : Changing) (active : db.sessions sid = .changing changing) (event : Event)
    (taken : changingStep db sid changing event = some next) : Single next := by
  have sound : ChangingSound db sid changing := by
    have here := consistent.sessions sid
    rw [active] at here
    exact here
  have goes : ∀ changed : Changing, next.committed = db.committed →
      next.sessions = (db.put sid (.changing changed)).sessions → Single next := by
    intro changed same sessions
    apply single_put db next sid single (.changing changed) _ same sessions
    intro other begun
    cases begun
  cases event with
  | lockPlan _ =>
      rw [changingStep] at taken
      split at taken
      · cases taken
      · cases taken
        exact single_finish db sid single
      · split at taken
        · split at taken
          · cases taken
            exact goes _ rfl rfl
          · cases taken
            exact single_finish db sid single
        · cases taken
  | updateDispatches _ =>
      rw [changingStep] at taken
      split at taken
      · dsimp only at taken
        obtain ⟨_, taken⟩ := Option.ite_none_right_eq_some.mp taken
        cases taken
        exact goes _ rfl rfl
      · cases taken
  | commitChange _ =>
      rw [changingStep] at taken
      split at taken
      · rename_i plan cancels rows loaded updated there
        cases taken
        obtain ⟨found, here, rfl, _⟩ := sound.loaded plan loaded
        cases Option.some.inj (there.symm.trans here)
        have settled := consistent.committed.settled changing.id rows there
        rw [sound.nothing cancels updated, publish_change_changed rows settled changing]
        apply single_commit db sid single zones consistent
        · intro id after read policy
          rw [dict_get_put] at read
          by_cases same : id = changing.id
          · rw [if_pos same] at read
            cases read
            have dispatches : (rows.changed changing.action changing.now).dispatches = rows.dispatches := by
              simp only [PlanRows.changed, cancel_settled rows settled]
              exact ite_self _
            have before := single.committed changing.id rows there policy
            rw [PlanRows.outstanding, PlanRows.inState, dispatches]
            exact before
          · rw [if_neg same] at read
            exact single.committed id after read policy
        · intro id free
          have held := sound.held (by rw [loaded]; exact Option.some_ne_none _)
          rw [dict_get_put, if_neg fun same : id = changing.id => free (same ▸ held)]
      · cases taken
  | create | runnerStatus | beginPlanning | selectPlans | countRunners | materialize | selectDispatches | emit | flush
  | commitPlanning | beginChange | abort => cases taken

theorem create_single (id : PlanId) (campaign : CampaignId) (timing : RunnerPlanTiming) (runnerTemplate : Json)
    (templateVersion createdBy : String) (runtime : Option String) (defaultStartsAt now : Int) (plans : PlanTable)
    (made : Plans.step zones db.committed
      (.create id campaign timing runnerTemplate templateVersion createdBy runtime defaultStartsAt now) = some plans) :
    Single { db with committed := plans } := by
  have unchanged : Single { db with committed := db.committed } := single
  rw [Plans.step] at made
  split at made
  · rename_i fresh
    split at made
    · cases made
      constructor
      · intro other rows read policy
        rw [dict_get_put] at read
        by_cases same : other = id
        · rw [if_pos same] at read
          cases read
          exact Nat.zero_le 1
        · rw [if_neg same] at read
          exact single.committed other rows read policy
      · intro sid planning active
        have sound : PlanningSound zones db sid planning := by
          have here := consistent.sessions sid
          rw [show db.sessions sid = .planning planning from active] at here
          exact here
        apply planning_calmer db _ planning (single.sessions sid planning active)
        intro other work later own there
        obtain ⟨rows, here, _⟩ := sound.works other work own
        have apart : other ≠ id := fun same => by
          rw [same, fresh.1] at here
          cases here
        rw [dict_get_put, if_neg apart] at there
        exact ⟨later, there, calmer_refl later⟩
    · cases made
      exact unchanged
  · cases made

theorem step_single (event : Event) (planned : ∀ id index status, event ≠ .runnerStatus id index status)
    (taken : step zones db event = some next) : Single next := by
  cases event with
  | create id campaign timing runnerTemplate templateVersion createdBy runtime defaultStartsAt now =>
      obtain ⟨plans, made, rfl⟩ := Option.map_eq_some_iff.mp taken
      exact create_single zones db consistent single id campaign timing runnerTemplate templateVersion createdBy runtime
        defaultStartsAt now plans made
  | runnerStatus id index status => exact absurd rfl (planned id index status)
  | beginPlanning sid now limit plannerId =>
      rw [step] at taken
      split at taken
      · cases taken
        apply single_put db (db.put sid (.planning ⟨now, limit, plannerId, .begun, []⟩)) sid single _ _ rfl rfl
        intro planning begun
        cases begun
        constructor
        · intro id work rows own
          cases own
        · intro id activeRunners rest phase
          cases phase
      · cases taken
  | beginChange sid id action now =>
      rw [step] at taken
      split at taken
      · cases taken
        apply single_put db (db.put sid (.changing ⟨id, action, now, none, none⟩)) sid single _ _ rfl rfl
        intro planning begun
        cases begun
      · cases taken
  | abort sid =>
      rw [step] at taken
      split at taken
      · cases taken
      · cases taken
        exact single_finish db sid single
  | selectPlans sid | countRunners sid | materialize sid | selectDispatches sid | emit sid | flush sid | commitPlanning sid
  | lockPlan sid | updateDispatches sid | commitChange sid =>
      simp only [step, Event.session] at taken
      cases session : db.sessions sid with
      | idle => rw [session] at taken; cases taken
      | planning planning =>
          rw [session] at taken
          exact planning_step_single zones db next sid consistent single planning session _ taken
      | changing changing =>
          rw [session] at taken
          exact changing_step_single zones db next sid consistent single changing session _ taken

end Steps

def Brings (db : Database) (event : Event) (id : PlanId) (runner : PlanRunner) : Prop :=
  ∃ sid planning work, event = .commitPlanning sid ∧ db.sessions sid = .planning planning ∧
    Dict.get id planning.work = some work ∧ runner ∈ work.runners

theorem published_runners (planning : Planning) (id : PlanId) (rows : PlanRows) (runner : PlanRunner)
    (member : runner ∈ (published planning id rows).runners) :
    runner ∈ rows.runners ∨ ∃ work, Dict.get id planning.work = some work ∧ runner ∈ work.runners := by
  cases own : Dict.get id planning.work with
  | none =>
      rw [published_foreign planning id rows own] at member
      exact .inl member
  | some work =>
      simp only [published, own, publish] at member
      cases List.mem_append.mp member with
      | inl older => exact .inl older
      | inr new => exact .inr ⟨work, rfl, new⟩

theorem planning_runners (zones : Zones) (db next : Database) (sid : SessionId) (planning : Planning)
    (active : db.sessions sid = .planning planning) (event : Event) (session : event.session = some sid)
    (taken : planningStep zones db sid planning event = some next) (id : PlanId) (later : PlanRows)
    (read : Dict.get id next.committed = some later) (runner : PlanRunner) (member : runner ∈ later.runners) :
    (∃ rows, Dict.get id db.committed = some rows ∧ runner ∈ rows.runners) ∨ Brings db event id runner := by
  cases planning_step_committed zones db next sid planning event taken with
  | inl quiet =>
      rw [quiet.1] at read
      exact .inl ⟨later, read, member⟩
  | inr commits =>
      obtain ⟨⟨other, rfl⟩, _, same⟩ := commits
      have mine : other = sid := Option.some.inj session
      rw [same, publish_all_get] at read
      obtain ⟨rows, there, rfl⟩ := Option.map_eq_some_iff.mp read
      cases published_runners planning id rows runner member with
      | inl older => exact .inl ⟨rows, there, older⟩
      | inr new =>
          obtain ⟨work, own, listed⟩ := new
          exact .inr ⟨other, planning, work, rfl, mine ▸ active, own, listed⟩

theorem step_runners (zones : Zones) (db next : Database) (event : Event)
    (planned : ∀ id index status, event ≠ .runnerStatus id index status) (taken : step zones db event = some next) (id : PlanId)
    (later : PlanRows) (read : Dict.get id next.committed = some later) (runner : PlanRunner) (member : runner ∈ later.runners) :
    (∃ rows, Dict.get id db.committed = some rows ∧ runner ∈ rows.runners) ∨ Brings db event id runner := by
  have unchanged : next.committed = db.committed → (∃ rows, Dict.get id db.committed = some rows ∧ runner ∈ rows.runners) ∨
      Brings db event id runner := by
    intro same
    rw [same] at read
    exact .inl ⟨later, read, member⟩
  cases event with
  | create target campaign timing runnerTemplate templateVersion createdBy runtime defaultStartsAt now =>
      obtain ⟨plans, made, rfl⟩ := Option.map_eq_some_iff.mp taken
      rw [Plans.step] at made
      split at made
      · split at made
        · cases made
          rw [dict_get_put] at read
          by_cases same : id = target
          · rw [if_pos same] at read
            cases read
            cases member
          · rw [if_neg same] at read
            exact .inl ⟨later, read, member⟩
        · cases made
          exact unchanged rfl
      · cases made
  | runnerStatus target index status => exact absurd rfl (planned target index status)
  | beginPlanning sid | beginChange sid | abort sid =>
      rw [step] at taken
      apply unchanged
      split at taken
      all_goals cases taken
      all_goals rfl
  | selectPlans sid | countRunners sid | materialize sid | selectDispatches sid | emit sid | flush sid | commitPlanning sid
  | lockPlan sid | updateDispatches sid | commitChange sid =>
      simp only [step, Event.session] at taken
      cases session : db.sessions sid with
      | idle => rw [session] at taken; cases taken
      | planning planning =>
          rw [session] at taken
          exact planning_runners zones db next sid planning session _ rfl taken id later read runner member
      | changing changing =>
          rw [session] at taken
          cases (changing_step_committed db next sid changing _ taken).2 with
          | inl same => exact unchanged same
          | inr commits =>
              obtain ⟨plan, cancels, rows, _, _, there, same⟩ := commits
              rw [same, dict_get_put] at read
              by_cases target : id = changing.id
              · rw [if_pos target] at read
                cases read
                exact .inl ⟨rows, target ▸ there, member⟩
              · rw [if_neg target] at read
                exact .inl ⟨later, read, member⟩

end LlmperfOrchestrator.Storage.Plans.Concurrent

import LlmperfOrchestrator.Storage.PlannerRuns

set_option autoImplicit false

namespace LlmperfOrchestrator.Storage.Plans.Concurrent

open Tables Runs Runtime.Recurrence

structure NothingLost (rows : PlanRows) : Prop where
  settled : ∀ dispatch ∈ rows.dispatches, dispatch.state = .emitted
  emitted : rows.plan.emittedCount = rows.inState .emitted
  skipped : rows.plan.skippedCount = (skippedIndices rows.events).length
  once : ∀ index < rows.plan.occurrenceCursor, index ∉ skippedIndices rows.events →
    (rows.dispatches.map Dispatch.planOccurrence).count index = 1 ∧
    (rows.runners.map PlanRunner.planOccurrence).count index = 1
  never : ∀ index ∈ skippedIndices rows.events, index < rows.plan.occurrenceCursor ∧
    index ∉ rows.dispatches.map Dispatch.planOccurrence ∧ index ∉ rows.runners.map PlanRunner.planOccurrence

section Counters
variable (zones : Zones) (zone : Zone) (rows : PlanRows) (accounted : Accounted zones zone rows)
include accounted

theorem skipped_counted : rows.plan.skippedCount = (skippedIndices rows.events).length := by
  have counted := accounted.counted
  have split := accounted.split.length_eq
  simp only [List.length_append, List.length_map, List.length_range] at split
  omega

theorem emitted_counted : rows.plan.emittedCount = rows.runners.length := by
  have runners := accounted.runners.length_eq
  simp only [List.length_map, ← List.countP_eq_length_filter] at runners
  exact accounted.emitted.trans runners.symm

theorem settled_runners (settled : Settled rows) :
    (rows.runners.map PlanRunner.planOccurrence).Perm (rows.dispatches.map Dispatch.planOccurrence) := by
  have all : (rows.dispatches.filter fun dispatch => dispatch.state = .emitted) = rows.dispatches := by
    rw [List.filter_eq_self]
    intro dispatch member
    exact decide_eq_true (settled dispatch member)
  have runners := accounted.runners
  rw [all] at runners
  exact runners

theorem accounted_nothing_lost (settled : Settled rows) : NothingLost rows := by
  have runners := settled_runners zones zone rows accounted settled
  have split := accounted.split
  have unique := (split.nodup_iff.mpr List.nodup_range)
  obtain ⟨_, _, apart⟩ := List.nodup_append.mp unique
  refine ⟨settled, accounted.emitted, skipped_counted zones zone rows accounted, ?_, ?_⟩
  · intro index below unskipped
    have listed := split.mem_iff.mpr (List.mem_range.mpr below)
    have dispatched : index ∈ rows.dispatches.map Dispatch.planOccurrence := by
      cases List.mem_append.mp listed with
      | inl skipped => exact absurd skipped unskipped
      | inr dispatched => exact dispatched
    have one := List.count_eq_one_of_mem accounted.distinct dispatched
    exact ⟨one, (runners.count_eq index).trans one⟩
  · intro index skipped
    have listed := split.mem_iff.mp (List.mem_append_left _ skipped)
    have absent : index ∉ rows.dispatches.map Dispatch.planOccurrence :=
      fun dispatched => apart index skipped index dispatched rfl
    exact ⟨List.mem_range.mp listed, absent, fun run => absent (runners.mem_iff.mp run)⟩

end Counters

def writes (db : Database) (event : Event) (id : PlanId) : Option Work :=
  match event with
  | .commitPlanning sid =>
      match db.sessions sid with
      | .planning planning => Dict.get id planning.work
      | _ => none
  | _ => none

structure Adds (rows : PlanRows) (work : Option Work) (after : PlanRows) : Prop where
  emitted : after.plan.emittedCount = rows.plan.emittedCount + work.elim 0 fun work => work.runners.length
  skipped : after.plan.skippedCount = rows.plan.skippedCount + work.elim 0 fun work => (skippedIndices work.events).length
  cursor : after.plan.occurrenceCursor = rows.plan.occurrenceCursor + work.elim 0 fun work => work.consumed.length
  dispatches : after.dispatches = rows.dispatches ++ work.elim [] Work.dispatches
  runners : after.runners.map PlanRunner.planOccurrence =
    (rows.runners ++ work.elim [] Work.runners).map PlanRunner.planOccurrence

theorem adds_nothing (rows after : PlanRows) (same : SameBooks rows after) : Adds rows none after := by
  refine ⟨?_, ?_, ?_, ?_, ?_⟩
  · rw [same.plan]; rfl
  · rw [same.plan]; rfl
  · rw [same.plan]; rfl
  · rw [same.dispatches]; exact (List.append_nil _).symm
  · rw [same.runners]; exact congrArg _ (List.append_nil _).symm

theorem changed_adds_nothing (rows : PlanRows) (settled : Settled rows) (action : PlanAction) (now : Int) :
    Adds rows none (rows.changed action now) := by
  refine ⟨rfl, rfl, rfl, ?_, congrArg _ (List.append_nil _).symm⟩
  simp only [PlanRows.changed, cancel_settled rows settled]
  exact (ite_self _).trans (List.append_nil _).symm

theorem applied_adds (zones : Zones) (now : Int) (rows : PlanRows) (before : ∃ zone, Accounted zones zone rows) (work : Work)
    (sound : WorkSound zones now rows work) : Adds rows (some work) (applied rows work) := by
  obtain ⟨zone, accounted⟩ := before
  obtain ⟨later, fine⟩ := sound.accounted
  have emitted := emitted_counted zones zone rows accounted
  have emittedNow := emitted_counted zones later (applied rows work) fine
  have skipped := skipped_counted zones zone rows accounted
  have skippedNow := skipped_counted zones later (applied rows work) fine
  have cursor := accounted.timed.consumes.cursor
  have cursorNow := fine.timed.consumes.cursor
  refine ⟨?_, ?_, ?_, rfl, rfl⟩
  · rw [emittedNow, emitted, applied, List.length_append]
    rfl
  · rw [skippedNow, skipped, applied, skipped_indices_append, List.length_append]
    rfl
  · rw [cursorNow, cursor, applied, List.length_append]
    rfl

theorem quiet_adds (db next : Database) (same : next.committed = db.committed) (id : PlanId) (rows : PlanRows)
    (there : Dict.get id db.committed = some rows) :
    ∃ after, Dict.get id next.committed = some after ∧ Adds rows none after := by
  rw [same]
  exact ⟨rows, there, adds_nothing rows rows (same_books_refl rows)⟩

theorem planning_step_committed (zones : Zones) (db next : Database) (sid : SessionId) (planning : Planning) (event : Event)
    (taken : planningStep zones db sid planning event = some next) :
    (next.committed = db.committed ∧ ∀ other, event ≠ .commitPlanning other) ∨
      (∃ other, event = .commitPlanning other) ∧ planning.phase = .emitting [] ∧
        next.committed = publishAll db.committed planning := by
  cases event with
  | commitPlanning other =>
      rw [planningStep] at taken
      split at taken
      · rename_i phase
        split at taken
        · cases taken
          exact .inr ⟨⟨other, rfl⟩, phase, rfl⟩
        · cases taken
      · cases taken
  | selectPlans | countRunners | materialize | selectDispatches | emit | flush =>
      rw [planningStep] at taken
      refine .inl ⟨?_, (fun other same => by cases same)⟩
      repeat' split at taken
      all_goals cases taken
      all_goals rfl
  | create | runnerStatus | beginPlanning | beginChange | lockPlan | updateDispatches | commitChange | abort => cases taken

theorem changing_step_committed (db next : Database) (sid : SessionId) (changing : Changing) (event : Event)
    (taken : changingStep db sid changing event = some next) :
    (∀ other, event ≠ .commitPlanning other) ∧ (next.committed = db.committed ∨
      ∃ plan cancels rows, changing.plan = some plan ∧ changing.cancels = some cancels ∧
        Dict.get changing.id db.committed = some rows ∧
        next.committed = Dict.put changing.id (publishChange rows changing plan cancels) db.committed) := by
  cases event with
  | commitChange other =>
      refine ⟨(fun other same => by cases same), ?_⟩
      rw [changingStep] at taken
      split at taken
      · rename_i plan cancels rows loaded updated there
        cases taken
        exact .inr ⟨plan, cancels, rows, loaded, updated, there, rfl⟩
      · cases taken
  | lockPlan =>
      refine ⟨(fun other same => by cases same), .inl ?_⟩
      rw [changingStep] at taken
      repeat' split at taken
      all_goals cases taken
      all_goals rfl
  | updateDispatches =>
      refine ⟨(fun other same => by cases same), .inl ?_⟩
      rw [changingStep] at taken
      split at taken
      · obtain ⟨_, same⟩ := Option.ite_none_right_eq_some.mp taken
        cases same
        rfl
      · cases taken
  | create | runnerStatus | beginPlanning | selectPlans | countRunners | materialize | selectDispatches | emit | flush
  | commitPlanning | beginChange | abort => cases taken

section Steps
variable (zones : Zones) (db next : Database) (consistent : Consistent zones db)
include consistent

theorem planning_adds (sid : SessionId) (planning : Planning) (active : db.sessions sid = .planning planning) (event : Event)
    (session : event.session = some sid) (taken : planningStep zones db sid planning event = some next) (id : PlanId)
    (rows : PlanRows) (there : Dict.get id db.committed = some rows) :
    ∃ after, Dict.get id next.committed = some after ∧ Adds rows (writes db event id) after := by
  cases planning_step_committed zones db next sid planning event taken with
  | inl quiet =>
      have none : writes db event id = none := by
        cases event with
        | commitPlanning other => exact absurd rfl (quiet.2 other)
        | _ => rfl
      rw [none]
      exact quiet_adds db next quiet.1 id rows there
  | inr commits =>
      obtain ⟨⟨other, rfl⟩, _, same⟩ := commits
      have mine : other = sid := Option.some.inj session
      have wrote : writes db (.commitPlanning other) id = Dict.get id planning.work := by
        rw [writes, mine, active]
      have sound : PlanningSound zones db sid planning := by
        have here := consistent.sessions sid
        rw [active] at here
        exact here
      refine ⟨published planning id rows, ?_, ?_⟩
      · rw [same, publish_all_get, there]
        rfl
      · rw [wrote]
        cases own : Dict.get id planning.work with
        | none =>
            rw [published_foreign planning id rows own]
            exact adds_nothing rows rows (same_books_refl rows)
        | some work =>
            obtain ⟨found, here, fine⟩ := sound.works id work own
            rw [there] at here
            cases here
            rw [published_own zones planning id rows work own fine]
            exact applied_adds zones planning.now rows (consistent.committed.sound.accounted id rows there) work fine

theorem changing_adds (sid : SessionId) (changing : Changing) (active : db.sessions sid = .changing changing) (event : Event)
    (taken : changingStep db sid changing event = some next) (id : PlanId) (rows : PlanRows)
    (there : Dict.get id db.committed = some rows) :
    ∃ after, Dict.get id next.committed = some after ∧ Adds rows (writes db event id) after := by
  obtain ⟨other, change⟩ := changing_step_committed db next sid changing event taken
  have none : writes db event id = none := by
    cases event with
    | commitPlanning sid => exact absurd rfl (other sid)
    | _ => rfl
  rw [none]
  cases change with
  | inl quiet => exact quiet_adds db next quiet id rows there
  | inr commits =>
      obtain ⟨plan, cancels, found, loaded, updated, here, same⟩ := commits
      have sound : ChangingSound db sid changing := by
        have here := consistent.sessions sid
        rw [active] at here
        exact here
      obtain ⟨before, held, rfl, allowed⟩ := sound.loaded plan loaded
      rw [here] at held
      cases held
      have settled := consistent.committed.settled changing.id found here
      rw [same, sound.nothing cancels updated, publish_change_changed found settled changing, dict_get_put]
      by_cases target : id = changing.id
      · rw [target, here] at there
        cases there
        rw [if_pos target]
        exact ⟨_, rfl, changed_adds_nothing rows settled changing.action changing.now⟩
      · rw [if_neg target]
        exact ⟨rows, there, adds_nothing rows rows (same_books_refl rows)⟩

omit consistent in
theorem environment_adds (transaction : Transaction) (plans : PlanTable)
    (kind : (∃ id index status, transaction = .runnerStatus id index status) ∨
      ∃ id campaign timing runnerTemplate templateVersion createdBy runtime defaultStartsAt now,
        transaction = .create id campaign timing runnerTemplate templateVersion createdBy runtime defaultStartsAt now)
    (taken : Plans.step zones db.committed transaction = some plans) (id : PlanId) (rows : PlanRows)
    (there : Dict.get id db.committed = some rows) : ∃ after, Dict.get id plans = some after ∧ Adds rows none after := by
  have unchanged : ∃ after, Dict.get id db.committed = some after ∧ Adds rows none after :=
    ⟨rows, there, adds_nothing rows rows (same_books_refl rows)⟩
  rcases kind with ⟨target, index, status, rfl⟩ | ⟨target, _, _, _, _, _, _, _, _, rfl⟩
  · rw [Plans.step] at taken
    split at taken
    · cases taken
    · rename_i found held
      cases taken
      rw [dict_get_put]
      by_cases same : id = target
      · rw [same, held] at there
        cases there
        rw [if_pos same]
        exact ⟨_, rfl, adds_nothing rows _ (status_same_books rows index status)⟩
      · rw [if_neg same]
        exact unchanged
  · rw [Plans.step] at taken
    split at taken
    · rename_i fresh
      split at taken
      · cases taken
        have apart : id ≠ target := fun same => by
          rw [same, fresh.1] at there
          cases there
        rw [dict_get_put, if_neg apart]
        exact unchanged
      · cases taken
        exact unchanged
    · cases taken

theorem statement_adds (event : Event) (sid : SessionId) (session : event.session = some sid)
    (taken : (match db.sessions sid with
      | .idle => none
      | .planning planning => planningStep zones db sid planning event
      | .changing changing => changingStep db sid changing event) = some next) (id : PlanId) (rows : PlanRows)
    (there : Dict.get id db.committed = some rows) :
    ∃ after, Dict.get id next.committed = some after ∧ Adds rows (writes db event id) after := by
  cases active : db.sessions sid with
  | idle => rw [active] at taken; cases taken
  | planning planning =>
      rw [active] at taken
      exact planning_adds zones db next consistent sid planning active event session taken id rows there
  | changing changing =>
      rw [active] at taken
      exact changing_adds zones db next consistent sid changing active event taken id rows there

theorem step_adds (event : Event) (taken : step zones db event = some next) (id : PlanId) (rows : PlanRows)
    (there : Dict.get id db.committed = some rows) :
    ∃ after, Dict.get id next.committed = some after ∧ Adds rows (writes db event id) after := by
  cases event with
  | create target campaign timing runnerTemplate templateVersion createdBy runtime defaultStartsAt now =>
      obtain ⟨plans, made, rfl⟩ := Option.map_eq_some_iff.mp taken
      exact environment_adds zones db _ plans (.inr ⟨_, _, _, _, _, _, _, _, _, rfl⟩) made id rows there
  | runnerStatus target index status =>
      obtain ⟨plans, changed, rfl⟩ := Option.map_eq_some_iff.mp taken
      exact environment_adds zones db _ plans (.inl ⟨_, _, _, rfl⟩) changed id rows there
  | beginPlanning sid | beginChange sid | abort sid =>
      rw [step] at taken
      refine quiet_adds db next ?_ id rows there
      split at taken
      all_goals cases taken
      all_goals rfl
  | selectPlans sid | countRunners sid | materialize sid | selectDispatches sid | emit sid | flush sid | commitPlanning sid
  | lockPlan sid | updateDispatches sid | commitChange sid =>
      exact statement_adds zones db next consistent _ sid rfl taken id rows there

end Steps

theorem planners_lose_nothing (zones : Zones) (events : List Event) (last : Database)
    (reached : run (step zones) empty events = some last) :
    (∀ id rows, Dict.get id last.committed = some rows → NothingLost rows) ∧
    (∀ sid planning next, last.sessions sid = .planning planning → step zones last (.commitPlanning sid) = some next →
      ∀ id work, Dict.get id planning.work = some work → ∀ dispatch ∈ work.dispatches, dispatch.state = .emitted) ∧
    ∀ event next, step zones last event = some next → ∀ id rows, Dict.get id last.committed = some rows →
      ∃ after, Dict.get id next.committed = some after ∧ Adds rows (writes last event id) after := by
  have consistent := run_consistent zones events last reached
  refine ⟨fun id rows there => ?_, fun sid planning next active taken id work own => ?_, fun event next taken => ?_⟩
  · obtain ⟨zone, accounted⟩ := consistent.committed.sound.accounted id rows there
    exact accounted_nothing_lost zones zone rows accounted (consistent.committed.settled id rows there)
  · have sound : PlanningSound zones last sid planning := by
      have here := consistent.sessions sid
      rw [active] at here
      exact here
    rw [step, Event.session] at taken
    · simp only [active] at taken
      cases planning_step_committed zones last next sid planning _ taken with
      | inl quiet => exact absurd rfl (quiet.2 sid)
      | inr commits => exact created_emitted zones last sid planning sound commits.2.1 id work own
    all_goals simp
  · exact step_adds zones last next consistent event taken

def racingRun : List Event :=
  [.create "first" "campaign" ⟨"Etc/UTC", none, none, some 4, ⟨.interval, some 1, none, none, none, none⟩, .queue, 60⟩
      (.dict [("benchmark", .dict [])]) "1" "operator" none 0 0,
    .create "second" "campaign" ⟨"Etc/UTC", none, none, some 4, ⟨.interval, some 1, none, none, none, none⟩, .skip, 2⟩
      (.dict [("benchmark", .dict [])]) "1" "operator" none 0 0,
    .beginPlanning 0 2000000 1 (some "left"), .beginPlanning 1 2000000 1 (some "right"), .beginChange 2 "first" .cancel 2000000,
    .selectPlans 0 ["first"], .selectPlans 1 ["second"],
    .countRunners 1, .countRunners 0, .materialize 0, .materialize 1,
    .selectDispatches 1 [.own "second" 0], .selectDispatches 0 [.own "first" 0],
    .emit 0 "runner", .emit 1 "other", .flush 0 "first", .commitPlanning 0, .lockPlan 2, .commitPlanning 1,
    .updateDispatches 2, .commitChange 2]

theorem planners_lose_nothing_racing :
    ∃ last, run (step utcOnly) empty racingRun = some last ∧
      (last.committed.map fun entry => (entry.1, entry.2.plan.status, entry.2.plan.occurrenceCursor, entry.2.plan.emittedCount,
        entry.2.plan.skippedCount)) = [("first", .cancelled, 1, 1, 0), ("second", .active, 1, 1, 0)] ∧
      ∀ id rows, Dict.get id last.committed = some rows → NothingLost rows := by
  have counted : (run (step utcOnly) empty racingRun).map (fun last => last.committed.map fun entry => (entry.1,
      entry.2.plan.status, entry.2.plan.occurrenceCursor, entry.2.plan.emittedCount, entry.2.plan.skippedCount)) =
        some [("first", .cancelled, 1, 1, 0), ("second", .active, 1, 1, 0)] := by decide +kernel
  obtain ⟨last, reached, shown⟩ := Option.map_eq_some_iff.mp counted
  exact ⟨last, reached, shown, (planners_lose_nothing utcOnly racingRun last reached).1⟩

end LlmperfOrchestrator.Storage.Plans.Concurrent

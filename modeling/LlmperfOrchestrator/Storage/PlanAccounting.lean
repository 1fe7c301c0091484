import LlmperfOrchestrator.Storage.PlanTimes

set_option autoImplicit false

namespace LlmperfOrchestrator.Storage.Plans

open Tables Runtime.Recurrence

-- One plan and the rows that carry its id. timing, defaultStartsAt and
-- consumed are kept for the accounting only: what the plan was created from,
-- and the planned times of the occurrences its cursor has moved past.
structure PlanRows where
  timing : RunnerPlanTiming
  defaultStartsAt : Int
  plan : RunnerPlan
  dispatches : List Dispatch
  runners : List PlanRunner
  events : List PlanEvent
  consumed : List Int

def PlanRows.activeRunners (rows : PlanRows) : Nat :=
  rows.runners.countP fun runner => runner.status = .queued ∨ runner.status = .running

def PlanRows.inState (rows : PlanRows) (state : NodeState) : Nat :=
  rows.dispatches.countP fun dispatch => dispatch.state = state

def PlanRows.absorb (rows : PlanRows) (done : Materialized) : PlanRows :=
  { rows with
    plan := done.plan
    dispatches := rows.dispatches ++ done.dispatch.toList
    events := rows.events ++ done.events
    consumed := rows.consumed ++ done.consumed }

def PlanRows.materialize (zones : Zones) (id : PlanId) (rows : PlanRows) (now : Int) (plannerId : Option String) :
    Except String PlanRows :=
  (materializePlan zones id rows.plan now rows.activeRunners (rows.inState .pending) plannerId).map rows.absorb

def PlanRows.emitted (rows : PlanRows) (index : Nat) (dispatch : Dispatch) (runner : PlanRunner) (now : Int)
    (plannerId : Option String) : PlanRows :=
  { rows with
    plan := countEmitted rows.plan now
    dispatches := rows.dispatches.set index (emittedDispatch dispatch runner.id now)
    runners := rows.runners ++ [runner]
    events := rows.events ++ [emittedEvent runner dispatch plannerId] }

-- _emit_dispatch of the dispatch at an index; its Runner gets a fresh id.
def PlanRows.emit (rows : PlanRows) (index : Nat) (runner : RunnerId) (now : Int) (plannerId : Option String) :
    Except String PlanRows :=
  match rows.dispatches[index]? with
  | none => .error "no such dispatch"
  | some dispatch => (fromDispatch dispatch runner rows.plan.runtime).map
      fun runner => rows.emitted index dispatch runner now plannerId

def PlanRows.changed (rows : PlanRows) (action : PlanAction) (now : Int) : PlanRows :=
  { rows with
    plan := changedPlan rows.plan action now
    dispatches := if action = .cancel then rows.dispatches.map cancelPending else rows.dispatches
    events := rows.events ++ [changeEvent rows.plan action] }

def PlanRows.change (rows : PlanRows) (action : PlanAction) (now : Int) : PlanRows :=
  if rows.plan.status ∈ action.allowed then rows.changed action now else rows

def PlanRows.setStatus (rows : PlanRows) (index : Nat) (status : RunnerStatus) : PlanRows :=
  match rows.runners[index]? with
  | none => rows
  | some runner => { rows with runners := rows.runners.set index { runner with status } }

def created (timing : RunnerPlanTiming) (defaultStartsAt : Int) (plan : RunnerPlan) (adjustments : List Adjustment) :
    PlanRows :=
  ⟨timing, defaultStartsAt, plan, [], [], dstEvents 0 adjustments none, []⟩

def PlanRows.preview (zones : Zones) (zone : Zone) (rows : PlanRows) : Preview :=
  previewOf .binary64 zones rows.timing zone rows.defaultStartsAt

structure Accounted (zones : Zones) (zone : Zone) (rows : PlanRows) : Prop where
  accepted : Accepted .binary64 zones rows.timing
  known : zones rows.timing.timezone = some zone
  maximum : rows.plan.maxOccurrences = rows.timing.maxOccurrences
  timed : Timed (rows.preview zones zone) rows.plan rows.consumed
  counted : rows.plan.skippedCount + rows.dispatches.length = rows.plan.occurrenceCursor
  emitted : rows.plan.emittedCount = rows.inState .emitted
  states : ∀ dispatch ∈ rows.dispatches, dispatch.state ≠ .blocked
  distinct : (rows.dispatches.map Dispatch.planOccurrence).Nodup
  times : ∀ dispatch ∈ rows.dispatches, rows.consumed[dispatch.planOccurrence]? = some dispatch.dueAt
  runners : (rows.runners.map PlanRunner.planOccurrence).Perm
    ((rows.dispatches.filter fun dispatch => dispatch.state = .emitted).map Dispatch.planOccurrence)
  ended : rows.plan.status = .cancelled → rows.inState .pending = 0
  split : (skippedIndices rows.events ++ rows.dispatches.map Dispatch.planOccurrence).Perm
    (List.range rows.plan.occurrenceCursor)

variable (zones : Zones)

theorem first_fire_occurrence (timing : RunnerPlanTiming) (zone : Zone) (defaultStartsAt fire : Int)
    (adjustments : List Adjustment)
    (first : firstFire zones timing (timing.startsAt.getD defaultStartsAt) = .ok (fire, adjustments)) :
    occurrence (previewOf .binary64 zones timing zone defaultStartsAt) 0 = .ok fire := by
  rw [occurrence, previewFire]
  unfold firstFire at first
  simp only [previewOf, decide_eq_true_eq, and_true]
  cases starts : timing.startsAt with
  | none => rw [starts] at first; cases first; rfl
  | some startsAt =>
      rw [starts] at first
      simp only [reduceCtorEq, if_false, Option.getD_some] at first ⊢
      rw [first]
      rfl

variable (zone : Zone)

theorem created_accounted (campaign : CampaignId) (timing : RunnerPlanTiming) (runnerTemplate : Json)
    (templateVersion createdBy : String) (runtime : Option String) (defaultStartsAt now : Int)
    (accepted : Accepted .binary64 zones timing) (known : zones timing.timezone = some zone) (plan : RunnerPlan)
    (adjustments : List Adjustment)
    (made : newRunnerPlan zones campaign timing runnerTemplate templateVersion createdBy runtime defaultStartsAt now = .ok (plan, adjustments)) :
    Accounted zones zone (created timing defaultStartsAt plan adjustments) := by
  unfold newRunnerPlan at made
  dsimp only at made
  cases first : firstFire zones timing (timing.startsAt.getD defaultStartsAt) with
  | error text => rw [first] at made; cases made
  | ok found =>
  obtain ⟨fire, searched⟩ := found
  have here := first_fire_occurrence zones timing zone defaultStartsAt fire searched first
  rw [first] at made
  cases made
  refine ⟨accepted, known, rfl, ⟨⟨⟨rfl, rfl, rfl, rfl, rfl⟩, rfl, by simp [created], ?_⟩, ?_⟩, rfl, rfl, by simp [created],
    by simp [created], by simp [created], .refl _, fun _ => rfl, ?_⟩
  · intro maximum given
    have := (accepted.maximum maximum given).1
    simp only [created, Nat.cast_zero]
    omega
  · intro alive
    by_cases ended : ∃ endsAt ∈ timing.endsAt, endsAt < fire
    · simp only [created, if_pos ended] at alive
      cases alive with
      | inl active => cases active
      | inr paused => cases paused
    · refine ⟨fire, by simp only [created, if_neg ended], here, fun endsAt given => not_lt.mp fun past => ended ⟨endsAt, given, past⟩, ?_⟩
      rintro ⟨maximum, given, full⟩
      have := (accepted.maximum maximum given).1
      simp only [created, Nat.cast_zero] at full
      omega
  · simp only [created, dst_events_skip, List.map_nil, List.append_nil]
    exact .refl _

theorem dispatch_before (rows : PlanRows) (accounted : Accounted zones zone rows) (dispatch : Dispatch)
    (member : dispatch ∈ rows.dispatches) : dispatch.planOccurrence < rows.plan.occurrenceCursor := by
  rw [accounted.timed.consumes.cursor]
  exact (List.getElem?_eq_some_iff.mp (accounted.times dispatch member)).1

theorem append_middle {Value : Type} (a b c d : List Value) : ((a ++ b) ++ (c ++ d)).Perm ((a ++ c) ++ (b ++ d)) := by
  rw [List.append_assoc, List.append_assoc]
  refine List.Perm.append_left a ?_
  rw [← List.append_assoc, ← List.append_assoc]
  exact List.perm_append_comm.append_right d

theorem absorb_accounted (id : PlanId) (rows : PlanRows) (accounted : Accounted zones zone rows)
    (active : rows.plan.status = .active) (now : Int) (activeRunners pendingDispatches : Nat) (plannerId : Option String)
    (done : Materialized) (result : materializePlan zones id rows.plan now activeRunners pendingDispatches plannerId = .ok done) :
    Accounted zones zone (rows.absorb done) := by
  have spec := materialize_plan_spec (rows.preview zones zone) id rows.plan rows.consumed now activeRunners
    pendingDispatches plannerId accounted.timed active done result
  have counted := spec.counted
  have before := accounted.counted
  have pending : ∀ dispatch ∈ done.dispatch.toList, dispatch.state = .pending := fun dispatch member =>
    (spec.dispatch dispatch (Option.mem_toList.mp member)).pending
  refine ⟨accounted.accepted, accounted.known, spec.maximum.trans accounted.maximum, spec.timed, ?_, ?_, ?_, ?_, ?_, ?_, ?_, ?_⟩
  · simp only [PlanRows.absorb, List.length_append]
    omega
  · have none : done.dispatch.toList.countP (fun dispatch => dispatch.state = .emitted) = 0 :=
      List.countP_eq_zero.mpr fun dispatch member => by rw [pending dispatch member]; decide
    simp only [PlanRows.absorb, PlanRows.inState, List.countP_append, none, add_zero]
    rw [spec.emitted]
    exact accounted.emitted
  · intro dispatch member
    cases List.mem_append.mp member with
    | inl old => exact accounted.states dispatch old
    | inr new => rw [pending dispatch new]; decide
  · simp only [PlanRows.absorb, List.map_append]
    refine List.nodup_append.mpr ⟨accounted.distinct, ?_, ?_⟩
    · cases done.dispatch with
      | none => exact List.nodup_nil
      | some dispatch => exact List.nodup_singleton _
    · intro occurrence old other new same
      obtain ⟨dispatch, held, rfl⟩ := List.mem_map.mp old
      obtain ⟨fresh, added, rfl⟩ := List.mem_map.mp new
      have below := dispatch_before zones zone rows accounted dispatch held
      have above := (spec.dispatch fresh (Option.mem_toList.mp added)).fresh
      omega
  · intro dispatch member
    cases List.mem_append.mp member with
    | inl old =>
        have read := accounted.times dispatch old
        simp only [PlanRows.absorb]
        rw [List.getElem?_append_left (List.getElem?_eq_some_iff.mp read).1]
        exact read
    | inr new => exact (spec.dispatch dispatch (Option.mem_toList.mp new)).time
  · have none : done.dispatch.toList.filter (fun dispatch => dispatch.state = .emitted) = [] :=
      List.filter_eq_nil_iff.mpr fun dispatch member => by rw [pending dispatch member]; decide
    simp only [PlanRows.absorb, List.filter_append, none, List.append_nil]
    exact accounted.runners
  · intro cancelled
    exfalso
    cases spec.status with
    | inl active => rw [PlanRows.absorb, active] at cancelled; cases cancelled
    | inr completed => rw [PlanRows.absorb, completed] at cancelled; cases cancelled
  · have shape : List.range done.plan.occurrenceCursor =
        List.range rows.plan.occurrenceCursor ++ List.range' rows.plan.occurrenceCursor done.consumed.length := by
      rw [spec.cursor, List.range_eq_range', List.range_eq_range', ← List.range'_append_1, zero_add]
    simp only [PlanRows.absorb, skipped_indices_append, List.map_append]
    rw [shape, ← spec.split]
    exact (append_middle _ _ _ _).trans (accounted.split.append_right _)

theorem from_dispatch_occurrence (dispatch : Dispatch) (id : RunnerId) (runtime : Option String) (runner : PlanRunner)
    (made : fromDispatch dispatch id runtime = .ok runner) : runner.planOccurrence = dispatch.planOccurrence := by
  unfold fromDispatch at made
  cases benchmark : templateBenchmark dispatch.runnerTemplate with
  | error text => rw [benchmark] at made; cases made
  | ok _ =>
      cases metadata : templateMetadata dispatch.runnerTemplate with
      | error text => rw [benchmark, metadata] at made; cases made
      | ok _ =>
          cases label : templateLabel dispatch.runnerTemplate with
          | error text => rw [benchmark, metadata, label] at made; cases made
          | ok _ =>
              rw [benchmark, metadata, label] at made
              cases made
              rfl

theorem filter_set_perm {Row Value : Type} (keeps : Row → Bool) (image : Row → Value) (rows : List Row) (index : Nat)
    (old fresh : Row) (read : rows[index]? = some old) (left : keeps old = false) (enters : keeps fresh = true)
    (same : image fresh = image old) :
    (((rows.set index fresh).filter keeps).map image).Perm (image old :: (rows.filter keeps).map image) := by
  induction rows generalizing index with
  | nil => cases read
  | cons row rest ih =>
      cases index with
      | zero =>
          cases read
          simp only [List.set_cons_zero, List.filter_cons, enters, left, if_true, List.map_cons, same, Bool.false_eq_true, if_false]
          exact .refl _
      | succ index =>
          have deeper := ih index read
          cases kept : keeps row with
          | true =>
              simp only [List.set_cons_succ, List.filter_cons, kept, if_true, List.map_cons]
              exact (deeper.cons _).trans (.swap _ _ _)
          | false =>
              simp only [List.set_cons_succ, List.filter_cons, kept, Bool.false_eq_true, if_false]
              exact deeper

theorem map_set_same {Row Value : Type} (image : Row → Value) (rows : List Row) (index : Nat) (old fresh : Row)
    (read : rows[index]? = some old) (same : image fresh = image old) : (rows.set index fresh).map image = rows.map image := by
  rw [List.map_set, same]
  obtain ⟨bound, rfl⟩ := List.getElem?_eq_some_iff.mp read
  rw [← List.getElem_map image (h := by simpa using bound), List.set_getElem_self]

theorem count_set {Row : Type} (counted : Row → Bool) (rows : List Row) (index : Nat) (old fresh : Row)
    (read : rows[index]? = some old) :
    (rows.set index fresh).countP counted + (if counted old then 1 else 0) =
      rows.countP counted + (if counted fresh then 1 else 0) := by
  have split := total_set (fun row => if counted row then 1 else 0) rows index old fresh read
  have shape : ∀ list : List Row, total (fun row => if counted row then 1 else 0) list = list.countP counted := by
    intro list
    induction list with
    | nil => rfl
    | cons row rest ih => rw [total_cons, ih, List.countP_cons, add_comm]
  rwa [shape, shape] at split

theorem emit_accounted (rows : PlanRows) (accounted : Accounted zones zone rows) (index : Nat) (dispatch : Dispatch)
    (read : rows.dispatches[index]? = some dispatch) (pending : dispatch.state = .pending) (id : RunnerId) (runner : PlanRunner)
    (made : fromDispatch dispatch id rows.plan.runtime = .ok runner) (now : Int) (plannerId : Option String) :
    Accounted zones zone (rows.emitted index dispatch runner now plannerId) := by
  have member := List.mem_of_getElem? read
  have occurrence := from_dispatch_occurrence dispatch id _ runner made
  have timed := accounted.timed
  have timing := timed.consumes.timing
  refine ⟨accounted.accepted, accounted.known, accounted.maximum, ⟨⟨⟨timing.arithmetic, timing.timezone, timing.recurrence, timing.startsAt,
    timing.endsAt⟩, timed.consumes.cursor, timed.consumes.times, timed.consumes.maximum⟩, fun alive => ?_⟩, ?_, ?_, ?_, ?_, ?_,
    ?_, ?_, ?_⟩
  · obtain ⟨time, awaits⟩ := timed.waiting alive
    exact ⟨time, awaits.next, awaits.here, awaits.inside, awaits.room⟩
  · simpa only [PlanRows.emitted, countEmitted, List.length_set] using accounted.counted
  · have count := count_set (fun dispatch => dispatch.state = .emitted) rows.dispatches index dispatch
      (emittedDispatch dispatch runner.id now) read
    have before := accounted.emitted
    simp only [PlanRows.inState] at before
    simp only [PlanRows.emitted, PlanRows.inState, countEmitted, emittedDispatch, pending, reduceCtorEq, decide_false,
      Bool.false_eq_true, if_false, decide_true, if_true] at count ⊢
    omega
  · exact forall_set (fun row : Dispatch => row.state ≠ .blocked) _ index (emittedDispatch dispatch runner.id now)
      accounted.states (fun blocked => by cases blocked)
  · rw [PlanRows.emitted]
    simp only
    rw [map_set_same Dispatch.planOccurrence rows.dispatches index dispatch (emittedDispatch dispatch runner.id now) read rfl]
    exact accounted.distinct
  · exact forall_set (fun row : Dispatch => rows.consumed[row.planOccurrence]? = some row.dueAt) _ index
      (emittedDispatch dispatch runner.id now) accounted.times (accounted.times dispatch member)
  · have moved := filter_set_perm (fun dispatch => dispatch.state = .emitted) Dispatch.planOccurrence rows.dispatches
      index dispatch (emittedDispatch dispatch runner.id now) read (by simp [pending]) (by simp [emittedDispatch]) rfl
    simp only [PlanRows.emitted, List.map_append, List.map_cons, List.map_nil, occurrence]
    exact (List.perm_append_singleton _ _).trans ((accounted.runners.cons _).trans moved.symm)
  · intro cancelled
    have none := List.countP_eq_zero.mp (accounted.ended cancelled) dispatch member
    simp [pending] at none
  · rw [PlanRows.emitted]
    simp only [skipped_indices_append]
    rw [map_set_same Dispatch.planOccurrence rows.dispatches index dispatch (emittedDispatch dispatch runner.id now) read rfl]
    have quiet : skippedIndices [emittedEvent runner dispatch plannerId] = [] := rfl
    rw [quiet, List.append_nil]
    exact accounted.split

theorem cancel_pending_keeps (dispatch : Dispatch) :
    (cancelPending dispatch).planOccurrence = dispatch.planOccurrence ∧ (cancelPending dispatch).dueAt = dispatch.dueAt ∧
      (cancelPending dispatch).state ≠ .pending ∧
      ((cancelPending dispatch).state = .emitted ↔ dispatch.state = .emitted) ∧
      ((cancelPending dispatch).state = .blocked ↔ dispatch.state = .blocked) := by
  unfold cancelPending
  by_cases pending : dispatch.state = .pending
  · rw [if_pos pending]
    simp [pending]
  · rw [if_neg pending]
    simp [pending]

theorem cancel_pending_filter (dispatches : List Dispatch) :
    (((dispatches.map cancelPending).filter fun dispatch => dispatch.state = .emitted).map Dispatch.planOccurrence) =
      ((dispatches.filter fun dispatch => dispatch.state = .emitted).map Dispatch.planOccurrence) := by
  induction dispatches with
  | nil => rfl
  | cons dispatch rest ih =>
      obtain ⟨occurrence, _, _, emitted, _⟩ := cancel_pending_keeps dispatch
      simp only [List.map_cons, List.filter_cons, emitted]
      split
      · rw [List.map_cons, List.map_cons, ih, occurrence]
      · exact ih

theorem changed_accounted (rows : PlanRows) (accounted : Accounted zones zone rows) (action : PlanAction)
    (allowed : rows.plan.status ∈ action.allowed) (now : Int) : Accounted zones zone (rows.changed action now) := by
  have timed := accounted.timed
  have timing := timed.consumes.timing
  have alive : rows.plan.status = .active ∨ rows.plan.status = .paused := by
    cases action with
    | pause => exact .inl (List.mem_singleton.mp allowed)
    | resume => exact .inr (List.mem_singleton.mp allowed)
    | cancel => simpa [PlanAction.allowed] using allowed
  have kept : Timed ((rows.changed action now).preview zones zone) (rows.changed action now).plan
      (rows.changed action now).consumed := by
    refine ⟨⟨⟨timing.arithmetic, timing.timezone, timing.recurrence, timing.startsAt, timing.endsAt⟩, timed.consumes.cursor,
      timed.consumes.times, timed.consumes.maximum⟩, fun _ => ?_⟩
    obtain ⟨time, awaits⟩ := timed.waiting alive
    exact ⟨time, awaits.next, awaits.here, awaits.inside, awaits.room⟩
  have events : skippedIndices (rows.changed action now).events = skippedIndices rows.events := by
    have quiet : skippedIndices [changeEvent rows.plan action] = [] := by cases action <;> rfl
    rw [PlanRows.changed, skipped_indices_append, quiet, List.append_nil]
  have same : (Dispatch.planOccurrence ∘ cancelPending) = Dispatch.planOccurrence :=
    funext fun dispatch => (cancel_pending_keeps dispatch).1
  by_cases cancels : action = .cancel
  · have dispatches : (rows.changed action now).dispatches = rows.dispatches.map cancelPending := by
      rw [PlanRows.changed, if_pos cancels]
    refine ⟨accounted.accepted, accounted.known, accounted.maximum, kept, ?_, ?_, ?_, ?_, ?_, ?_, fun _ => ?_, ?_⟩
    · rw [dispatches, List.length_map]
      exact accounted.counted
    · rw [PlanRows.inState, dispatches, List.countP_map]
      refine accounted.emitted.trans (List.countP_congr fun dispatch _ => ?_)
      simp only [Function.comp, decide_eq_true_eq]
      exact (cancel_pending_keeps dispatch).2.2.2.1.symm
    · rw [dispatches]
      intro dispatch member
      obtain ⟨old, held, rfl⟩ := List.mem_map.mp member
      exact mt (cancel_pending_keeps old).2.2.2.2.mp (accounted.states old held)
    · rw [dispatches, List.map_map]
      rw [same]
      exact accounted.distinct
    · rw [dispatches]
      intro dispatch member
      obtain ⟨old, held, rfl⟩ := List.mem_map.mp member
      rw [(cancel_pending_keeps old).1, (cancel_pending_keeps old).2.1]
      exact accounted.times old held
    · rw [dispatches, cancel_pending_filter]
      exact accounted.runners
    · rw [PlanRows.inState, dispatches]
      refine List.countP_eq_zero.mpr fun dispatch member => ?_
      obtain ⟨old, held, rfl⟩ := List.mem_map.mp member
      simpa using (cancel_pending_keeps old).2.2.1
    · rw [dispatches, List.map_map, events, same]
      exact accounted.split
  · have dispatches : (rows.changed action now).dispatches = rows.dispatches := by
      rw [PlanRows.changed, if_neg cancels]
    refine ⟨accounted.accepted, accounted.known, accounted.maximum, kept, ?_, ?_, ?_, ?_, ?_, ?_, fun cancelled => ?_, ?_⟩
    · rw [dispatches]
      exact accounted.counted
    · rw [PlanRows.inState, dispatches]
      exact accounted.emitted
    · rw [dispatches]
      exact accounted.states
    · rw [dispatches]
      exact accounted.distinct
    · rw [dispatches]
      exact accounted.times
    · rw [dispatches]
      exact accounted.runners
    · cases action with
      | pause => cases cancelled
      | resume => cases cancelled
      | cancel => exact absurd rfl cancels
    · rw [dispatches, events]
      exact accounted.split

theorem status_accounted (rows : PlanRows) (accounted : Accounted zones zone rows) (index : Nat) (status : RunnerStatus) :
    Accounted zones zone (rows.setStatus index status) := by
  unfold PlanRows.setStatus
  cases read : rows.runners[index]? with
  | none => exact accounted
  | some runner =>
      refine ⟨accounted.accepted, accounted.known, accounted.maximum, accounted.timed, accounted.counted, accounted.emitted,
        accounted.states, accounted.distinct, accounted.times, ?_, accounted.ended, accounted.split⟩
      simp only
      rw [map_set_same PlanRunner.planOccurrence rows.runners index runner { runner with status } read rfl]
      exact accounted.runners

end LlmperfOrchestrator.Storage.Plans

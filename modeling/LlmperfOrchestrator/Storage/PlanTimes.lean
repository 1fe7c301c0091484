import LlmperfOrchestrator.Runtime.Fires
import LlmperfOrchestrator.Storage.Plans

set_option autoImplicit false

namespace LlmperfOrchestrator.Storage.Plans

open Runtime.Recurrence

structure SameTiming (preview : Preview) (plan : RunnerPlan) : Prop where
  arithmetic : preview.arithmetic = .binary64
  timezone : plan.timezone = preview.timezoneName
  recurrence : plan.recurrence = preview.recurrence
  startsAt : plan.startsAt = preview.startsAt
  endsAt : plan.endsAt = preview.endsAt

structure Consumes (preview : Preview) (plan : RunnerPlan) (consumed : List Int) : Prop where
  timing : SameTiming preview plan
  cursor : plan.occurrenceCursor = consumed.length
  times : ∀ i time, consumed[i]? = some time → occurrence preview i = .ok time ∧ ∀ endsAt ∈ preview.endsAt, time ≤ endsAt
  maximum : ∀ maximum ∈ plan.maxOccurrences, (plan.occurrenceCursor : Int) ≤ maximum

structure Awaits (preview : Preview) (plan : RunnerPlan) (time : Int) : Prop where
  next : plan.nextFireAt = some time
  here : occurrence preview plan.occurrenceCursor = .ok time
  inside : ∀ endsAt ∈ preview.endsAt, time ≤ endsAt
  room : ¬ planExhausted plan

structure Timed (preview : Preview) (plan : RunnerPlan) (consumed : List Int) : Prop where
  consumes : Consumes preview plan consumed
  waiting : plan.status = .active ∨ plan.status = .paused → ∃ time, Awaits preview plan time

variable (preview : Preview)

theorem occurrence_succ (n : Nat) (time : Int) (here : occurrence preview n = .ok time) :
    occurrence preview (n + 1) =
      (nextFireDetails preview.arithmetic preview.zones preview.timezoneName preview.recurrence preview.startsAt
        (some time)).map Prod.fst := by
  rw [occurrence, here]
  simp only [bind, Except.bind, previewFire, reduceCtorEq, and_false, if_false]

theorem consumed_time (consumed : List Int) (time : Int) (i : Nat) (found : Int)
    (read : (consumed ++ [time])[i]? = some found) :
    consumed[i]? = some found ∨ (i = consumed.length ∧ found = time) := by
  by_cases old : i < consumed.length
  · rw [List.getElem?_append_left old] at read
    exact .inl read
  · rw [List.getElem?_append_right (not_lt.mp old)] at read
    by_cases last : i - consumed.length = 0
    · rw [last] at read
      cases read
      exact .inr ⟨by omega, rfl⟩
    · rw [List.getElem?_eq_none (by simp only [List.length_singleton]; omega)] at read
      cases read

theorem consume_next (plan : RunnerPlan) (consumed : List Int) (time : Int) (consumes : Consumes preview plan consumed)
    (awaits : Awaits preview plan time) (fired : RunnerPlan) (timing : SameTiming preview fired)
    (maximum : fired.maxOccurrences = plan.maxOccurrences) (cursor : fired.occurrenceCursor = plan.occurrenceCursor + 1) :
    Consumes preview fired (consumed ++ [time]) := by
  refine ⟨timing, by rw [cursor, consumes.cursor, List.length_append, List.length_singleton], ?_, ?_⟩
  · intro i found read
    cases consumed_time consumed time i found read with
    | inl old => exact consumes.times i found old
    | inr last =>
        obtain ⟨rfl, rfl⟩ := last
        rw [← consumes.cursor]
        exact ⟨awaits.here, awaits.inside⟩
  · intro most given
    rw [maximum] at given
    have room : (plan.occurrenceCursor : Int) < most := not_le.mp fun full => awaits.room ⟨most, given, full⟩
    rw [cursor]
    push_cast
    omega

def skippedBy (event : PlanEvent) : List Nat :=
  match event.eventType, event.occurrence with
  | .misfireSkipped, some start => List.range' start (event.count.getD 0)
  | .overlapSkipped, some occurrence => [occurrence]
  | _, _ => []

def skippedIndices (events : List PlanEvent) : List Nat :=
  events.flatMap skippedBy

theorem skipped_indices_append (events more : List PlanEvent) :
    skippedIndices (events ++ more) = skippedIndices events ++ skippedIndices more := List.flatMap_append

theorem dst_events_skip (occurrence : Nat) (adjustments : List Adjustment) (plannerId : Option String) :
    skippedIndices (dstEvents occurrence adjustments plannerId) = [] := by
  rw [skippedIndices, dstEvents, List.flatMap_map, List.flatMap_eq_nil_iff]
  intro adjustment _
  rfl

theorem completed_events_skip (plan : RunnerPlan) (plannerId : Option String) :
    skippedIndices (completedEvents plan plannerId) = [] := by
  unfold completedEvents
  split <;> rfl

theorem misfire_events_skip (start : Nat) (progress : Progress) (plannerId : Option String) :
    skippedIndices (misfireEvents start progress plannerId) =
      List.range' start (progress.plan.occurrenceCursor - start) := by
  unfold misfireEvents
  by_cases none : progress.plan.occurrenceCursor - start = 0
  · simp only [none, if_true]
    rfl
  · simp only [none, if_false, skippedIndices, List.flatMap_cons, List.flatMap_nil, List.append_nil, skippedBy, planEvent,
      Option.getD_some]

theorem scheduled_event_skip (progress : Progress) (emits : Bool) (plannerId : Option String) :
    skippedIndices [scheduledEvent progress emits plannerId] =
      if emits then [] else [progress.plan.occurrenceCursor] := by
  cases emits <;> rfl

structure SameCounts (plan next : RunnerPlan) : Prop where
  emitted : next.emittedCount = plan.emittedCount
  skipped : next.skippedCount = plan.skippedCount
  cursor : next.occurrenceCursor = plan.occurrenceCursor
  maximum : next.maxOccurrences = plan.maxOccurrences

structure Advanced (preview : Preview) (progress next : Progress) (consumed : List Int) : Prop where
  timed : Timed preview next.plan consumed
  counts : SameCounts progress.plan next.plan
  consumed : next.consumed = progress.consumed
  events : skippedIndices next.events = skippedIndices progress.events
  moved : next.plan.status = .completed ∨
    (next.plan.status = progress.plan.status ∧ Awaits preview next.plan next.plannedFor)

theorem complete_timed (plan : RunnerPlan) (consumed : List Int) (consumes : Consumes preview plan consumed) :
    Timed preview (completePlan plan) consumed := by
  refine ⟨⟨⟨consumes.timing.arithmetic, consumes.timing.timezone, consumes.timing.recurrence, consumes.timing.startsAt, consumes.timing.endsAt⟩,
    consumes.cursor, consumes.times, consumes.maximum⟩, ?_⟩
  rintro (active | paused)
  · cases active
  · cases paused

theorem advance_spec (plannerId : Option String) (progress next : Progress) (consumed : List Int)
    (consumes : Consumes preview progress.plan consumed)
    (last : ∃ n, progress.plan.occurrenceCursor = n + 1 ∧ occurrence preview n = .ok progress.plannedFor)
    (result : advance preview.zones plannerId progress = .ok next) : Advanced preview progress next consumed := by
  obtain ⟨n, cursor, here⟩ := last
  unfold advance at result
  by_cases exhausted : planExhausted progress.plan
  · rw [if_pos exhausted] at result
    cases result
    exact ⟨complete_timed preview _ consumed consumes, ⟨rfl, rfl, rfl, rfl⟩, rfl, rfl, .inl rfl⟩
  · rw [if_neg exhausted] at result
    have step := occurrence_succ preview n progress.plannedFor here
    have timing := consumes.timing
    rw [timing.timezone, timing.recurrence, timing.startsAt, ← timing.arithmetic] at result
    cases fire : nextFireDetails preview.arithmetic preview.zones preview.timezoneName preview.recurrence preview.startsAt
        (some progress.plannedFor) with
    | error text => rw [fire] at result; cases result
    | ok found =>
        obtain ⟨candidate, adjustments⟩ := found
        rw [fire] at result step
        simp only [bind, Except.bind] at result
        have quiet : skippedIndices (progress.events ++ dstEvents progress.plan.occurrenceCursor adjustments plannerId) =
            skippedIndices progress.events := by
          rw [skipped_indices_append, dst_events_skip, List.append_nil]
        by_cases past : ∃ endsAt ∈ progress.plan.endsAt, endsAt < candidate
        · rw [if_pos past] at result
          cases result
          exact ⟨complete_timed preview _ consumed consumes, ⟨rfl, rfl, rfl, rfl⟩, rfl, quiet, .inl rfl⟩
        · rw [if_neg past] at result
          cases result
          have inside : ∀ endsAt ∈ preview.endsAt, candidate ≤ endsAt := by
            intro endsAt given
            rw [← timing.endsAt] at given
            exact not_lt.mp fun beyond => past ⟨endsAt, given, beyond⟩
          have awaits : Awaits preview { progress.plan with nextFireAt := some candidate } candidate :=
            ⟨rfl, by rw [cursor]; exact step, inside, exhausted⟩
          exact ⟨⟨⟨⟨timing.arithmetic, timing.timezone, timing.recurrence, timing.startsAt, timing.endsAt⟩, consumes.cursor, consumes.times,
            consumes.maximum⟩, fun _ => ⟨candidate, awaits⟩⟩, ⟨rfl, rfl, rfl, rfl⟩, rfl, quiet, .inr ⟨rfl, awaits⟩⟩

theorem skip_consumes (progress : Progress) (base : List Int)
    (consumes : Consumes preview progress.plan (base ++ progress.consumed))
    (awaits : Awaits preview progress.plan progress.plannedFor) :
    Consumes preview (skipOne progress).plan (base ++ (skipOne progress).consumed) := by
  have timing := consumes.timing
  have next := consume_next preview progress.plan _ progress.plannedFor consumes awaits (skipOne progress).plan
    ⟨timing.arithmetic, timing.timezone, timing.recurrence, timing.startsAt, timing.endsAt⟩ rfl rfl
  rwa [List.append_assoc] at next

structure Skipped (preview : Preview) (base : List Int) (start next : Progress) : Prop where
  timed : Timed preview next.plan (base ++ next.consumed)
  state : next.plan.status = .completed ∨ (next.plan.status = start.plan.status ∧ Awaits preview next.plan next.plannedFor)
  emitted : next.plan.emittedCount = start.plan.emittedCount
  maximum : next.plan.maxOccurrences = start.plan.maxOccurrences
  skipped : next.plan.skippedCount + start.plan.occurrenceCursor = start.plan.skippedCount + next.plan.occurrenceCursor
  events : skippedIndices next.events = skippedIndices start.events
  kept : ∃ more, next.consumed = start.consumed ++ more ∧
    next.plan.occurrenceCursor = start.plan.occurrenceCursor + more.length

theorem skip_misfires_spec (plannerId : Option String) (graceBoundary : Int) (base : List Int) (fuel : Nat)
    (progress next : Progress) (consumes : Consumes preview progress.plan (base ++ progress.consumed))
    (awaits : Awaits preview progress.plan progress.plannedFor)
    (result : skipMisfires preview.zones plannerId graceBoundary fuel progress = .ok next) : Skipped preview base progress next := by
  have unchanged : Skipped preview base progress progress :=
    ⟨⟨consumes, fun _ => ⟨_, awaits⟩⟩, .inr ⟨rfl, awaits⟩, rfl, rfl, rfl, rfl, [], by simp, by simp⟩
  induction fuel generalizing progress with
  | zero =>
      rw [skipMisfires] at result
      split at result
      · cases result
      · cases result
        exact unchanged
  | succ fuel ih =>
      rw [skipMisfires] at result
      by_cases late : progress.plannedFor < graceBoundary
      · rw [if_pos late] at result
        cases moved : advance preview.zones plannerId (skipOne progress) with
        | error text => rw [moved] at result; cases result
        | ok middle =>
            rw [moved] at result
            simp only [bind, Except.bind] at result
            have skipped := skip_consumes preview progress base consumes awaits
            have advanced := advance_spec preview plannerId (skipOne progress) middle _ skipped
              ⟨progress.plan.occurrenceCursor, rfl, awaits.here⟩ moved
            have counts := advanced.counts
            have same : middle.consumed = progress.consumed ++ [progress.plannedFor] := advanced.consumed
            have cursor : middle.plan.occurrenceCursor = progress.plan.occurrenceCursor + 1 := counts.cursor
            have skips : middle.plan.skippedCount = progress.plan.skippedCount + 1 := counts.skipped
            have timed : Timed preview middle.plan (base ++ middle.consumed) := by
              rw [advanced.consumed]
              exact advanced.timed
            by_cases completed : middle.plan.status = .completed
            · rw [if_pos completed] at result
              cases result
              exact ⟨timed, .inl completed, counts.emitted, counts.maximum, by omega, advanced.events, [progress.plannedFor], same,
                by simpa using cursor⟩
            · rw [if_neg completed] at result
              obtain ⟨status, waiting⟩ := advanced.moved.resolve_left completed
              have rest := ih middle timed.consumes waiting result
                ⟨timed, .inr ⟨rfl, waiting⟩, rfl, rfl, rfl, rfl, [], by simp, by simp⟩
              obtain ⟨more, kept, length⟩ := rest.kept
              refine ⟨rest.timed, rest.state.imp_right fun ⟨stays, held⟩ => ⟨stays.trans status, held⟩,
                rest.emitted.trans counts.emitted, rest.maximum.trans counts.maximum, ?_, rest.events.trans advanced.events,
                progress.plannedFor :: more, ?_, ?_⟩
              · have := rest.skipped
                omega
              · rw [kept, same, List.append_assoc, List.singleton_append]
              · rw [length, cursor, List.length_cons]
                omega
      · rw [if_neg late] at result
        cases result
        exact unchanged

structure NewDispatch (id : PlanId) (plan : RunnerPlan) (consumed : List Int) (now : Int) (next : RunnerPlan)
    (dispatch : Dispatch) : Prop where
  owner : dispatch.runnerPlan = id
  pending : dispatch.state = .pending
  fresh : plan.occurrenceCursor ≤ dispatch.planOccurrence
  last : dispatch.planOccurrence + 1 = next.occurrenceCursor
  time : consumed[dispatch.planOccurrence]? = some dispatch.dueAt
  due : dispatch.dueAt ≤ now

-- What one _materialize_plan does to the times and the counters of its plan.
structure Materializes (preview : Preview) (id : PlanId) (plan : RunnerPlan) (base : List Int) (now : Int)
    (done : Materialized) : Prop where
  timed : Timed preview done.plan (base ++ done.consumed)
  status : done.plan.status = .active ∨ done.plan.status = .completed
  emitted : done.plan.emittedCount = plan.emittedCount
  maximum : done.plan.maxOccurrences = plan.maxOccurrences
  counted : done.plan.skippedCount + done.dispatch.toList.length + plan.occurrenceCursor =
    plan.skippedCount + done.plan.occurrenceCursor
  cursor : done.plan.occurrenceCursor = plan.occurrenceCursor + done.consumed.length
  split : skippedIndices done.events ++ done.dispatch.toList.map Dispatch.planOccurrence =
    List.range' plan.occurrenceCursor done.consumed.length
  dispatch : ∀ dispatch ∈ done.dispatch, NewDispatch id plan (base ++ done.consumed) now done.plan dispatch

theorem touch_timed (plan : RunnerPlan) (consumed : List Int) (now : Int) (timed : Timed preview plan consumed) :
    Timed preview { plan with updatedAt := now } consumed := by
  have timing := timed.consumes.timing
  refine ⟨⟨⟨timing.arithmetic, timing.timezone, timing.recurrence, timing.startsAt, timing.endsAt⟩, timed.consumes.cursor,
    timed.consumes.times, timed.consumes.maximum⟩, fun alive => ?_⟩
  obtain ⟨time, awaits⟩ := timed.waiting alive
  exact ⟨time, awaits.next, awaits.here, awaits.inside, awaits.room⟩

theorem fire_occurrence_spec (id : PlanId) (now : Int) (emits : Bool) (plannerId : Option String) (progress : Progress)
    (base : List Int) (consumes : Consumes preview progress.plan (base ++ progress.consumed))
    (awaits : Awaits preview progress.plan progress.plannedFor) (active : progress.plan.status = .active) (done : Materialized)
    (result : fireOccurrence preview.zones id now emits plannerId progress = .ok done) :
    Timed preview done.plan (base ++ done.consumed) ∧
      (done.plan.status = .active ∨ done.plan.status = .completed) ∧
      done.plan.emittedCount = progress.plan.emittedCount ∧
      done.plan.maxOccurrences = progress.plan.maxOccurrences ∧
      done.plan.skippedCount + done.dispatch.toList.length = progress.plan.skippedCount + 1 ∧
      done.plan.occurrenceCursor = progress.plan.occurrenceCursor + 1 ∧
      done.consumed = progress.consumed ++ [progress.plannedFor] ∧
      skippedIndices done.events ++ done.dispatch.toList.map Dispatch.planOccurrence =
        skippedIndices progress.events ++ [progress.plan.occurrenceCursor] ∧
      ∀ dispatch ∈ done.dispatch, dispatch = newDispatch id progress.plan progress.plannedFor progress.plan.occurrenceCursor := by
  have timing := consumes.timing
  have fired := consume_next preview progress.plan _ progress.plannedFor consumes awaits (firedPlan progress emits)
    ⟨timing.arithmetic, timing.timezone, timing.recurrence, timing.startsAt, timing.endsAt⟩ rfl rfl
  rw [List.append_assoc] at fired
  unfold fireOccurrence at result
  cases moved : advance preview.zones plannerId (fireOne progress emits) with
  | error text => rw [moved] at result; cases result
  | ok next =>
      rw [moved] at result
      cases result
      have advanced := advance_spec preview plannerId (fireOne progress emits) next (base ++ (progress.consumed ++ [progress.plannedFor])) fired
        ⟨progress.plan.occurrenceCursor, rfl, awaits.here⟩ moved
      have counts := advanced.counts
      have skips : next.plan.skippedCount = progress.plan.skippedCount + (if emits then 0 else 1) := counts.skipped
      refine ⟨touch_timed preview _ _ now (by rw [advanced.consumed]; exact advanced.timed), ?_, counts.emitted,
        counts.maximum, ?_, counts.cursor, advanced.consumed, ?_, ?_⟩
      · cases advanced.moved with
        | inl completed => exact .inr completed
        | inr stays => exact .inl (stays.1.trans active)
      · cases emits with
        | true => simp only [if_true, Option.toList_some, List.length_singleton, skips]
        | false => simp only [Bool.false_eq_true, if_false, Option.toList_none, List.length_nil, skips]
      · have quiet : skippedIndices next.events = skippedIndices progress.events := advanced.events
        simp only [skipped_indices_append, quiet, scheduled_event_skip, completed_events_skip, List.append_nil]
        cases emits with
        | true => simp [newDispatch]
        | false => simp
      · intro dispatch member
        cases emits with
        | true => cases member; rfl
        | false => cases member

theorem materialize_plan_spec (id : PlanId) (plan : RunnerPlan) (base : List Int) (now : Int)
    (activeRunners pendingDispatches : Nat) (plannerId : Option String) (timed : Timed preview plan base)
    (active : plan.status = .active) (done : Materialized)
    (result : materializePlan preview.zones id plan now activeRunners pendingDispatches plannerId = .ok done) :
    Materializes preview id plan base now done := by
  obtain ⟨first, awaits⟩ := timed.waiting (.inl active)
  unfold materializePlan at result
  rw [awaits.next] at result
  simp only at result
  cases looped : skipMisfires preview.zones plannerId (now - timedelta plan.misfireGraceSeconds)
      (misfirePasses plan (now - timedelta plan.misfireGraceSeconds)) ⟨plan, first, [], []⟩ with
  | error text => rw [looped] at result; cases result
  | ok skipping =>
      rw [looped] at result
      simp only [bind, Except.bind] at result
      have consumes : Consumes preview plan (base ++ []) := by
        rw [List.append_nil]
        exact timed.consumes
      have skipped := skip_misfires_spec preview plannerId _ base _ ⟨plan, first, [], []⟩ skipping consumes awaits looped
      have emitted : skipping.plan.emittedCount = plan.emittedCount := skipped.emitted
      have maximum : skipping.plan.maxOccurrences = plan.maxOccurrences := skipped.maximum
      have count : skipping.plan.skippedCount + plan.occurrenceCursor = plan.skippedCount + skipping.plan.occurrenceCursor :=
        skipped.skipped
      obtain ⟨more, kept, length⟩ := skipped.kept
      have cursor : skipping.plan.occurrenceCursor = plan.occurrenceCursor + skipping.consumed.length := by
        rw [kept, List.nil_append]
        exact length
      have misfired : skippedIndices (skipping.events ++ misfireEvents plan.occurrenceCursor skipping plannerId) =
          List.range' plan.occurrenceCursor skipping.consumed.length := by
        rw [skipped_indices_append, skipped.events, misfire_events_skip, cursor, Nat.add_sub_cancel_left]
        rfl
      by_cases stops : skipping.plan.status = .completed ∨ now < skipping.plannedFor
      · rw [if_pos stops] at result
        cases result
        have split : skippedIndices (skipping.events ++ misfireEvents plan.occurrenceCursor skipping plannerId ++
            completedEvents { skipping.plan with updatedAt := now } plannerId) =
              List.range' plan.occurrenceCursor skipping.consumed.length := by
          rw [skipped_indices_append, completed_events_skip, List.append_nil]
          exact misfired
        refine ⟨touch_timed preview _ _ now skipped.timed, ?_, emitted, maximum, by simpa using count, cursor,
          by simpa using split, fun dispatch member => by cases member⟩
        cases skipped.state with
        | inl completed => exact .inr completed
        | inr stays => exact .inl (stays.1.trans active)
      · rw [if_neg stops] at result
        obtain ⟨notCompleted, notLater⟩ := not_or.mp stops
        obtain ⟨status, waiting⟩ := skipped.state.resolve_left notCompleted
        obtain ⟨after, state, emits, most, counted, moved, times, indices, dispatched⟩ := fire_occurrence_spec preview id now _ plannerId
          { skipping with events := skipping.events ++ misfireEvents plan.occurrenceCursor skipping plannerId } base
          skipped.timed.consumes waiting (status.trans active) done result
        simp only at emits most counted moved times indices dispatched
        have full : (base ++ done.consumed)[skipping.plan.occurrenceCursor]? = some skipping.plannedFor := by
          rw [skipped.timed.consumes.cursor, times, ← List.append_assoc, List.getElem?_append_right le_rfl]
          simp
        refine ⟨after, state, emits.trans emitted, most.trans maximum, by omega, ?_, ?_, fun dispatch member => ?_⟩
        · rw [moved, cursor, times, List.length_append, List.length_singleton]
          omega
        · rw [indices, misfired, times, List.length_append, List.length_singleton, List.range'_concat, cursor, one_mul]
        · rw [dispatched dispatch member]
          exact ⟨rfl, rfl, by simp only [newDispatch]; omega, by simp only [newDispatch]; omega, full, not_lt.mp notLater⟩

end LlmperfOrchestrator.Storage.Plans

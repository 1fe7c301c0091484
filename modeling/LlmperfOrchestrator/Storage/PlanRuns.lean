import LlmperfOrchestrator.Library.Outcomes
import LlmperfOrchestrator.Library.Runs
import LlmperfOrchestrator.Storage.PlanAccounting

set_option autoImplicit false

namespace LlmperfOrchestrator.Storage.Plans

open Tables Runs Outcomes Runtime.Recurrence

abbrev PlanTable := Dict PlanId PlanRows

def PlanRows.due (now : Int) (rows : PlanRows) : Prop :=
  rows.plan.status = .active ∧ ∃ time ∈ rows.plan.nextFireAt, time ≤ now

instance (now : Int) (rows : PlanRows) : Decidable (rows.due now) :=
  inferInstanceAs (Decidable (_ ∧ _))

def Dispatch.due (now : Int) (dispatch : Dispatch) : Prop :=
  dispatch.state = .pending ∧ dispatch.dueAt ≤ now

instance (now : Int) (dispatch : Dispatch) : Decidable (dispatch.due now) :=
  inferInstanceAs (Decidable (_ ∧ _))

def duePlans (now : Int) (plans : PlanTable) : List PlanId :=
  (plans.filter fun entry => entry.2.due now).map Prod.fst

def PlanRows.dueDispatches (now : Int) (rows : PlanRows) : List Nat :=
  (List.range rows.dispatches.length).filter fun index => ∃ dispatch ∈ rows.dispatches[index]?, dispatch.due now

def dueDispatches (now : Int) (plans : PlanTable) : List (PlanId × Nat) :=
  plans.flatMap fun entry => (entry.2.dueDispatches now).map fun index => (entry.1, index)

-- SELECT ... ORDER BY order LIMIT limit over the qualifying rows; rows of equal order come in any order.
def Selects {Row : Type} [DecidableEq Row] (order : Row → Int) (limit : Nat) (qualifying chosen : List Row) : Prop :=
  chosen.Nodup ∧ (∀ row ∈ chosen, row ∈ qualifying) ∧ chosen.length = min limit qualifying.length ∧
    ∀ row ∈ chosen, ∀ other ∈ qualifying, other ∉ chosen → order row ≤ order other

instance {Row : Type} [DecidableEq Row] (order : Row → Int) (limit : Nat) (qualifying chosen : List Row) :
    Decidable (Selects order limit qualifying chosen) :=
  inferInstanceAs (Decidable (_ ∧ _))

def fireOrder (plans : PlanTable) (id : PlanId) : Int :=
  ((Dict.get id plans).bind fun rows => rows.plan.nextFireAt).getD 0

def dueOrder (plans : PlanTable) (row : PlanId × Nat) : Int :=
  (((Dict.get row.1 plans).bind fun rows => rows.dispatches[row.2]?).map Dispatch.dueAt).getD 0

def materializePlans (zones : Zones) (now : Int) (plannerId : Option String) : List PlanId → PlanTable → Except String PlanTable
  | [], plans => .ok plans
  | id :: rest, plans =>
      match Dict.get id plans with
      | none => .error "no such plan"
      | some rows => do
          let next ← rows.materialize zones id now plannerId
          materializePlans zones now plannerId rest (Dict.put id next plans)

def emitDispatches (now : Int) (plannerId : Option String) : List ((PlanId × Nat) × RunnerId) → PlanTable → Except String PlanTable
  | [], plans => .ok plans
  | ((id, index), runner) :: rest, plans =>
      match Dict.get id plans with
      | none => .error "Dispatch has no owning RunnerPlan"
      | some rows => do
          let next ← rows.emit index runner now plannerId
          emitDispatches now plannerId rest (Dict.put id next plans)

inductive Transaction where
  | create (id : PlanId) (campaign : CampaignId) (timing : RunnerPlanTiming) (runnerTemplate : Json)
      (templateVersion createdBy : String) (runtime : Option String) (defaultStartsAt now : Int)
  | materialize (now : Int) (limit : Nat) (plannerId : Option String) (plans : List PlanId)
      (dispatches : List ((PlanId × Nat) × RunnerId))
  | change (id : PlanId) (action : PlanAction) (now : Int)
  | runnerStatus (id : PlanId) (index : Nat) (status : RunnerStatus)

def committed (plans : PlanTable) (result : Except String PlanTable) : PlanTable :=
  match result with
  | .ok next => next
  | .error _ => plans

def step (zones : Zones) (plans : PlanTable) : Transaction → Option PlanTable
  | .create id campaign timing runnerTemplate templateVersion createdBy runtime defaultStartsAt now =>
      if Dict.get id plans = none ∧ validateTiming .binary64 zones timing = .ok () then
        match newRunnerPlan zones campaign timing runnerTemplate templateVersion createdBy runtime defaultStartsAt now with
        | .ok (plan, adjustments) => some (Dict.put id (created timing defaultStartsAt plan adjustments) plans)
        | .error _ => some plans
      else none
  | .materialize now limit plannerId chosen dispatches =>
      if Selects (fireOrder plans) limit (duePlans now plans) chosen then
        match materializePlans zones now plannerId chosen plans with
        | .error _ => some plans
        | .ok middle =>
            if Selects (dueOrder middle) limit (dueDispatches now middle) (dispatches.map Prod.fst) then
              some (committed plans (emitDispatches now plannerId dispatches middle))
            else none
      else none
  | .change id action now =>
      match Dict.get id plans with
      | none => some plans
      | some rows => some (Dict.put id (rows.change action now) plans)
  | .runnerStatus id index status =>
      match Dict.get id plans with
      | none => none
      | some rows => some (Dict.put id (rows.setStatus index status) plans)

def AllAccounted (zones : Zones) (plans : PlanTable) : Prop :=
  ∀ id rows, Dict.get id plans = some rows → ∃ zone, Accounted zones zone rows

theorem put_accounted (zones : Zones) (plans : PlanTable) (id : PlanId) (next : PlanRows) (all : AllAccounted zones plans)
    (here : ∃ zone, Accounted zones zone next) : AllAccounted zones (Dict.put id next plans) := by
  intro other rows held
  rw [dict_get_put] at held
  by_cases same : other = id
  · rw [if_pos same] at held
    cases held
    exact here
  · rw [if_neg same] at held
    exact all other rows held

-- Every plan is still there, and its rows before and after are related.
def Related (rel : PlanRows → PlanRows → Prop) (plans next : PlanTable) : Prop :=
  ∀ id rows, Dict.get id plans = some rows → ∃ later, Dict.get id next = some later ∧ rel rows later

variable (rel : PlanRows → PlanRows → Prop)

theorem related_refl (refl : ∀ rows, rel rows rows) (plans : PlanTable) :
    Related rel plans plans := fun _ rows held => ⟨rows, held, refl rows⟩

theorem related_put (refl : ∀ rows, rel rows rows) (plans : PlanTable) (id : PlanId) (next : PlanRows)
    (here : ∀ rows, Dict.get id plans = some rows → rel rows next) : Related rel plans (Dict.put id next plans) := by
  intro other rows held
  rw [dict_get_put]
  by_cases same : other = id
  · rw [if_pos same]
    exact ⟨next, rfl, here rows (same ▸ held)⟩
  · rw [if_neg same]
    exact ⟨rows, held, refl rows⟩

structure Follows (rows next : PlanRows) : Prop where
  dispatched : rows.dispatches.length < next.dispatches.length → rows.plan.status = .active
  cancelled : rows.plan.status = .cancelled → next.plan.status = .cancelled ∧
    next.runners.map PlanRunner.planOccurrence = rows.runners.map PlanRunner.planOccurrence
  kept : rows.dispatches.length ≤ next.dispatches.length

theorem follows_refl (rows : PlanRows) : Follows rows rows :=
  ⟨fun less => absurd less (lt_irrefl _), fun cancelled => ⟨cancelled, rfl⟩, le_rfl⟩

theorem follows_active (rows next : PlanRows) (active : rows.plan.status = .active)
    (kept : rows.dispatches.length ≤ next.dispatches.length) : Follows rows next := by
  refine ⟨fun _ => active, fun cancelled => ?_, kept⟩
  rw [active] at cancelled
  cases cancelled

section Materialize
variable (zones : Zones) (now : Int) (plannerId : Option String)

theorem materialize_plans_spec (chosen : List PlanId) (plans middle : PlanTable) (distinct : chosen.Nodup)
    (all : AllAccounted zones plans)
    (active : ∀ id ∈ chosen, ∀ rows, Dict.get id plans = some rows → rows.plan.status = .active)
    (result : materializePlans zones now plannerId chosen plans = .ok middle) :
    AllAccounted zones middle ∧ Related (fun rows next => next = rows ∨
      (rows.plan.status = .active ∧ rows.dispatches.length ≤ next.dispatches.length)) plans middle := by
  induction chosen generalizing plans with
  | nil =>
      cases result
      exact ⟨all, fun _ rows held => ⟨rows, held, .inl rfl⟩⟩
  | cons id rest ih =>
      obtain ⟨fresh, others⟩ := List.nodup_cons.mp distinct
      rw [materializePlans] at result
      cases held : Dict.get id plans with
      | none => rw [held] at result; cases result
      | some rows =>
          rw [held] at result
          simp only [bind, Except.bind, PlanRows.materialize] at result
          cases done : materializePlan zones id rows.plan now rows.activeRunners (rows.inState .pending) plannerId with
          | error text => rw [done] at result; cases result
          | ok materialized =>
              rw [done] at result
              simp only [Except.map] at result
              have status := active id List.mem_cons_self rows held
              obtain ⟨zone, accounted⟩ := all id rows held
              have next := absorb_accounted zones zone id rows accounted status now _ _ plannerId materialized done
              have longer : rows.dispatches.length ≤ (rows.absorb materialized).dispatches.length := by
                simp only [PlanRows.absorb, List.length_append]
                omega
              have later : ∀ other ∈ rest, ∀ found, Dict.get other (Dict.put id (rows.absorb materialized) plans) = some found →
                  found.plan.status = .active := by
                intro other member found there
                rw [dict_get_put, if_neg (fun same : other = id => fresh (same ▸ member))] at there
                exact active other (List.mem_cons_of_mem _ member) found there
              obtain ⟨kept, related⟩ := ih _ others (put_accounted zones plans id _ all ⟨zone, next⟩) later result
              refine ⟨kept, ?_⟩
              intro other found there
              by_cases same : other = id
              · subst same
                rw [held] at there
                cases there
                obtain ⟨last, final, change⟩ := related other (rows.absorb materialized) (by rw [dict_get_put, if_pos rfl])
                refine ⟨last, final, .inr ⟨status, ?_⟩⟩
                cases change with
                | inl unchanged => rw [unchanged]; exact longer
                | inr grown => exact longer.trans grown.2
              · exact related other found (by rw [dict_get_put, if_neg same]; exact there)

theorem emitted_others (rows : PlanRows) (index other : Nat) (dispatch : Dispatch) (runner : PlanRunner)
    (apart : other ≠ index) : (rows.emitted index dispatch runner now plannerId).dispatches[other]? = rows.dispatches[other]? := by
  rw [PlanRows.emitted]
  exact List.getElem?_set_ne (Ne.symm apart)

theorem emit_dispatches_spec (chosen : List ((PlanId × Nat) × RunnerId)) (plans last : PlanTable)
    (distinct : (chosen.map Prod.fst).Nodup) (all : AllAccounted zones plans)
    (pending : ∀ row ∈ chosen.map Prod.fst, ∀ rows, Dict.get row.1 plans = some rows →
      ∃ dispatch, rows.dispatches[row.2]? = some dispatch ∧ dispatch.state = .pending)
    (result : emitDispatches now plannerId chosen plans = .ok last) :
    AllAccounted zones last ∧ Related (fun rows next => next.plan.status = rows.plan.status ∧
      next.dispatches.length = rows.dispatches.length ∧ (rows.plan.status = .cancelled → next = rows)) plans last := by
  induction chosen generalizing plans with
  | nil =>
      cases result
      exact ⟨all, fun _ rows held => ⟨rows, held, rfl, rfl, fun _ => rfl⟩⟩
  | cons head rest ih =>
      obtain ⟨⟨id, index⟩, fresh⟩ := head
      rw [List.map_cons, List.nodup_cons] at distinct
      obtain ⟨absent, others⟩ := distinct
      rw [emitDispatches] at result
      cases held : Dict.get id plans with
      | none => rw [held] at result; cases result
      | some rows =>
          rw [held] at result
          obtain ⟨dispatch, read, waits⟩ := pending (id, index) (by simp) rows held
          simp only [bind, Except.bind, PlanRows.emit, read] at result
          cases made : fromDispatch dispatch fresh rows.plan.runtime with
          | error text => rw [made] at result; cases result
          | ok runner =>
              rw [made] at result
              simp only [Except.map] at result
              obtain ⟨zone, accounted⟩ := all id rows held
              have next := emit_accounted zones zone rows accounted index dispatch read waits fresh runner made now plannerId
              have later : ∀ row ∈ rest.map Prod.fst, ∀ found,
                  Dict.get row.1 (Dict.put id (rows.emitted index dispatch runner now plannerId) plans) = some found →
                  ∃ dispatch, found.dispatches[row.2]? = some dispatch ∧ dispatch.state = .pending := by
                intro row member found there
                rw [dict_get_put] at there
                by_cases same : row.1 = id
                · rw [if_pos same] at there
                  cases there
                  have apart : row.2 ≠ index := fun equal => absent (by
                    have whole : row = (id, index) := Prod.ext same equal
                    exact whole ▸ member)
                  rw [emitted_others now plannerId rows index row.2 dispatch runner apart]
                  exact pending row (List.mem_cons_of_mem _ member) rows (same ▸ held)
                · rw [if_neg same] at there
                  exact pending row (List.mem_cons_of_mem _ member) found there
              obtain ⟨kept, related⟩ := ih _ others (put_accounted zones plans id _ all ⟨zone, next⟩) later result
              refine ⟨kept, ?_⟩
              intro other found there
              by_cases same : other = id
              · subst same
                rw [held] at there
                cases there
                obtain ⟨final, reached, status, length, _⟩ :=
                  related other (rows.emitted index dispatch runner now plannerId) (by rw [dict_get_put, if_pos rfl])
                refine ⟨final, reached, status, by rw [length]; simp [PlanRows.emitted], fun cancelled => ?_⟩
                have none := List.countP_eq_zero.mp (accounted.ended cancelled) dispatch (List.mem_of_getElem? read)
                simp [waits] at none
              · exact related other found (by rw [dict_get_put, if_neg same]; exact there)

end Materialize

theorem due_plan_active (now : Int) (plans : PlanTable) (unique : (Dict.keys plans).Nodup) (id : PlanId)
    (due : id ∈ duePlans now plans) (rows : PlanRows) (held : Dict.get id plans = some rows) : rows.due now := by
  obtain ⟨entry, listed, rfl⟩ := List.mem_map.mp due
  obtain ⟨member, qualifies⟩ := List.mem_filter.mp listed
  have found := dict_get_mem plans entry.1 rows held
  have same : entry = (entry.1, rows) := List.inj_on_of_nodup_map unique member found rfl
  rw [same] at qualifies
  exact of_decide_eq_true qualifies

theorem due_dispatch_pending (now : Int) (plans : PlanTable) (unique : (Dict.keys plans).Nodup) (row : PlanId × Nat)
    (due : row ∈ dueDispatches now plans) (rows : PlanRows) (held : Dict.get row.1 plans = some rows) :
    ∃ dispatch, rows.dispatches[row.2]? = some dispatch ∧ dispatch.due now := by
  obtain ⟨entry, member, listed⟩ := List.mem_flatMap.mp due
  obtain ⟨index, qualifies, rfl⟩ := List.mem_map.mp listed
  have found := dict_get_mem plans entry.1 rows held
  have same : entry = (entry.1, rows) := List.inj_on_of_nodup_map unique member found rfl
  have waits := of_decide_eq_true (List.mem_filter.mp qualifies).2
  rw [same] at waits
  exact waits

theorem materialize_plans_keys (zones : Zones) (now : Int) (plannerId : Option String) (chosen : List PlanId)
    (plans middle : PlanTable) (unique : (Dict.keys plans).Nodup)
    (result : materializePlans zones now plannerId chosen plans = .ok middle) : (Dict.keys middle).Nodup := by
  induction chosen generalizing plans with
  | nil => cases result; exact unique
  | cons id rest ih =>
      rw [materializePlans] at result
      split at result
      · cases result
      · obtain ⟨next, _, later⟩ := (bind_ok _ _ _).mp result
        exact ih _ (dict_keys_put plans id next unique).1 later

theorem emit_dispatches_keys (now : Int) (plannerId : Option String) (chosen : List ((PlanId × Nat) × RunnerId))
    (plans last : PlanTable) (unique : (Dict.keys plans).Nodup)
    (result : emitDispatches now plannerId chosen plans = .ok last) : (Dict.keys last).Nodup := by
  induction chosen generalizing plans with
  | nil => cases result; exact unique
  | cons head rest ih =>
      obtain ⟨⟨id, index⟩, fresh⟩ := head
      rw [emitDispatches] at result
      split at result
      · cases result
      · obtain ⟨next, _, later⟩ := (bind_ok _ _ _).mp result
        exact ih _ (dict_keys_put plans id next unique).1 later

structure Sound (zones : Zones) (plans : PlanTable) : Prop where
  accounted : AllAccounted zones plans
  unique : (Dict.keys plans).Nodup

theorem put_sound (zones : Zones) (plans : PlanTable) (sound : Sound zones plans) (id : PlanId) (next : PlanRows)
    (here : ∃ zone, Accounted zones zone next) : Sound zones (Dict.put id next plans) :=
  ⟨put_accounted zones plans id next sound.accounted here, (dict_keys_put plans id next sound.unique).1⟩

theorem changed_follows (rows : PlanRows) (action : PlanAction) (now : Int) : Follows rows (rows.change action now) := by
  unfold PlanRows.change
  by_cases allowed : rows.plan.status ∈ action.allowed
  · rw [if_pos allowed]
    have length : (rows.changed action now).dispatches.length = rows.dispatches.length := by
      rw [PlanRows.changed]
      by_cases cancels : action = .cancel
      · simp only [if_pos cancels, List.length_map]
      · simp only [if_neg cancels]
    refine ⟨fun less => absurd less (by omega), fun cancelled => ?_, by omega⟩
    rw [cancelled] at allowed
    cases action with
    | pause => cases List.mem_singleton.mp allowed
    | resume => cases List.mem_singleton.mp allowed
    | cancel => simp [PlanAction.allowed] at allowed
  · rw [if_neg allowed]
    exact follows_refl rows

theorem status_follows (rows : PlanRows) (index : Nat) (status : RunnerStatus) :
    Follows rows (rows.setStatus index status) := by
  unfold PlanRows.setStatus
  cases read : rows.runners[index]? with
  | none => exact follows_refl rows
  | some runner =>
      refine ⟨fun less => absurd less (lt_irrefl _), fun cancelled => ⟨cancelled, ?_⟩, le_rfl⟩
      exact map_set_same PlanRunner.planOccurrence rows.runners index runner { runner with status } read rfl

theorem step_follows (zones : Zones) (plans next : PlanTable) (transaction : Transaction) (sound : Sound zones plans)
    (taken : step zones plans transaction = some next) : Sound zones next ∧ Related Follows plans next := by
  have unchanged : Sound zones plans ∧ Related Follows plans plans := ⟨sound, related_refl _ follows_refl plans⟩
  cases transaction with
  | create id campaign timing runnerTemplate templateVersion createdBy runtime defaultStartsAt now =>
      rw [step] at taken
      split at taken
      · rename_i fresh
        cases made : newRunnerPlan zones campaign timing runnerTemplate templateVersion createdBy runtime defaultStartsAt now with
        | error text => rw [made] at taken; cases taken; exact unchanged
        | ok found =>
            obtain ⟨plan, adjustments⟩ := found
            rw [made] at taken
            cases taken
            have accepted := (accepted_timing .binary64 zones timing).mp fresh.2
            obtain ⟨zone, known⟩ := Option.ne_none_iff_exists'.mp accepted.known
            have accounted := created_accounted zones zone campaign timing runnerTemplate templateVersion createdBy runtime
              defaultStartsAt now accepted known plan adjustments made
            refine ⟨put_sound zones plans sound id _ ⟨zone, accounted⟩, related_put _ follows_refl plans id _ ?_⟩
            intro rows held
            rw [fresh.1] at held
            cases held
      · cases taken
  | materialize now limit plannerId chosen dispatches =>
      rw [step] at taken
      split at taken
      · rename_i selected
        cases result : materializePlans zones now plannerId chosen plans with
        | error text => rw [result] at taken; cases taken; exact unchanged
        | ok middle =>
            rw [result] at taken
            simp only at taken
            split at taken
            · rename_i claimed
              have active : ∀ id ∈ chosen, ∀ rows, Dict.get id plans = some rows → rows.plan.status = .active :=
                fun id member rows held => (due_plan_active now plans sound.unique id (selected.2.1 id member) rows held).1
              obtain ⟨all, grown⟩ := materialize_plans_spec zones now plannerId chosen plans middle selected.1
                sound.accounted active result
              have unique := materialize_plans_keys zones now plannerId chosen plans middle sound.unique result
              cases emitting : emitDispatches now plannerId dispatches middle with
              | error text => rw [emitting] at taken; cases taken; exact unchanged
              | ok last =>
                  rw [emitting] at taken
                  cases taken
                  have pending : ∀ row ∈ dispatches.map Prod.fst, ∀ rows, Dict.get row.1 middle = some rows →
                      ∃ dispatch, rows.dispatches[row.2]? = some dispatch ∧ dispatch.state = .pending := by
                    intro row member rows held
                    obtain ⟨dispatch, read, due⟩ :=
                      due_dispatch_pending now middle unique row (claimed.2.1 row member) rows held
                    exact ⟨dispatch, read, due.1⟩
                  obtain ⟨kept, emitted⟩ := emit_dispatches_spec zones now plannerId dispatches middle last claimed.1 all
                    pending emitting
                  refine ⟨⟨kept, emit_dispatches_keys now plannerId dispatches middle last unique emitting⟩, ?_⟩
                  intro id rows held
                  obtain ⟨mid, there, change⟩ := grown id rows held
                  obtain ⟨final, reached, status, length, still⟩ := emitted id mid there
                  refine ⟨final, reached, ?_⟩
                  cases change with
                  | inl same =>
                      subst same
                      refine ⟨fun less => absurd less (by omega), fun cancelled => ?_, by omega⟩
                      rw [still cancelled]
                      exact ⟨cancelled, rfl⟩
                  | inr added => exact follows_active rows final added.1 (by rw [length]; exact added.2)
            · cases taken
      · cases taken
  | change id action now =>
      rw [step] at taken
      cases held : Dict.get id plans with
      | none => rw [held] at taken; cases taken; exact unchanged
      | some rows =>
          rw [held] at taken
          cases taken
          obtain ⟨zone, accounted⟩ := sound.accounted id rows held
          have next : Accounted zones zone (rows.change action now) := by
            unfold PlanRows.change
            split
            · rename_i allowed
              exact changed_accounted zones zone rows accounted action allowed now
            · exact accounted
          refine ⟨put_sound zones plans sound id _ ⟨zone, next⟩, related_put _ follows_refl plans id _ ?_⟩
          intro found there
          rw [held] at there
          cases there
          exact changed_follows rows action now
  | runnerStatus id index status =>
      rw [step] at taken
      cases held : Dict.get id plans with
      | none => rw [held] at taken; cases taken
      | some rows =>
          rw [held] at taken
          cases taken
          obtain ⟨zone, accounted⟩ := sound.accounted id rows held
          refine ⟨put_sound zones plans sound id _ ⟨zone, status_accounted zones zone rows accounted index status⟩,
            related_put _ follows_refl plans id _ ?_⟩
          intro found there
          rw [held] at there
          cases there
          exact status_follows rows index status

end LlmperfOrchestrator.Storage.Plans

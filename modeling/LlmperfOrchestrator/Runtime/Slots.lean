import LlmperfOrchestrator.Runtime.RequestPool

set_option autoImplicit false

namespace LlmperfOrchestrator.RequestPool

open Runs Tables

def holds (r : Request) : Bool := r.phase = .executing ∨ r.phase = .draining ∨ r.phase = .releasing

def slot (r : Request) : Nat := if holds r then 1 else 0
def slotOn (actor : Nat) (r : Request) : Nat := if holds r ∧ r.actor = some actor then 1 else 0
def slotOf (runner : RunnerId) (r : Request) : Nat := if holds r ∧ r.runner = runner then 1 else 0

def RequestOk (actors : Nat) (r : Request) : Prop :=
  match r.phase with
  | .entering => r.actor = none ∧ r.physical = .none ∧ r.frees = 0
  | .waiting => r.actor = none ∧ r.physical = .none ∧ r.frees = 0
  | .executing => (∃ actor < actors, r.actor = some actor) ∧ r.physical ≠ .none ∧ r.frees = 0
  | .draining => (∃ actor < actors, r.actor = some actor) ∧ r.physical ≠ .none ∧ r.frees = 0
  | .releasing => (∃ actor < actors, r.actor = some actor) ∧ r.physical = .finished ∧ r.frees = 0
  | .finished => (r.actor = none ∧ r.physical = .none ∧ r.frees = 0) ∨
      ((∃ actor < actors, r.actor = some actor) ∧ r.physical = .finished ∧ r.frees = 1)

structure SlotInvariant (actors : Nat) (s : Router) : Prop where
  size : s.busy.length = actors
  each : ∀ r ∈ s.requests, RequestOk actors r
  perActor : ∀ actor, s.busy.getD actor 0 = total (slotOn actor) s.requests
  perRunner : ∀ runner, (Dict.get runner s.executingByRunner).getD 0 = total (slotOf runner) s.requests
  busySum : s.busy.sum = total slot s.requests
  runnerSum : Dict.sum s.executingByRunner = total slot s.requests
  unique : (Dict.keys s.executingByRunner).Nodup
  bounded : ∀ load ∈ s.busy, load ≤ s.limit
  within : s.busy.sum ≤ s.capacity

def Exposed (r : Request) : Prop := (r.phase = .draining ∧ r.physical = .inFlight) ∨ r.phase = .releasing

instance (r : Request) : Decidable (Exposed r) := inferInstanceAs (Decidable (_ ∨ _))

def Undisturbed (s : Router) : Event → Prop
  | .cancelTask waiter => ∀ r ∈ s.requests[waiter]?, ¬ Exposed r
  | _ => True

instance (s : Router) (event : Event) : Decidable (Undisturbed s event) :=
  match event with
  | .cancelTask waiter => inferInstanceAs (Decidable (∀ r ∈ s.requests[waiter]?, ¬ Exposed r))
  | .call _ | .enter _ | .wake _ | .complete _ | .resume _ | .release _ | .cancel _ | .forget _ => .isTrue trivial

theorem remove_frame (s : Router) (runner : RunnerId) (waiter : Nat) :
    ∃ queues order, remove s runner waiter = { s with queues := queues, order := order } := by
  unfold remove
  cases Dict.get runner s.queues with
  | none => exact ⟨s.queues, s.order, rfl⟩
  | some queue =>
      dsimp only
      split
      · split <;> exact ⟨_, _, rfl⟩
      · exact ⟨s.queues, s.order, rfl⟩

theorem enqueue_frame (s : Router) (runner : RunnerId) (waiter : Nat) :
    ∃ queues order, enqueue s runner waiter = { s with queues := queues, order := order } := by
  unfold enqueue
  cases Dict.get runner s.queues <;> exact ⟨_, _, rfl⟩

variable (actors : Nat) (s : Router)

theorem invariant_queues (queues : Dict RunnerId (List Nat)) (order : List RunnerId) (inv : SlotInvariant actors s) :
    SlotInvariant actors { s with queues := queues, order := order } :=
  ⟨inv.size, inv.each, inv.perActor, inv.perRunner, inv.busySum, inv.runnerSum, inv.unique, inv.bounded, inv.within⟩

variable (runner : RunnerId) (waiter : Nat)

theorem remove_keeps (inv : SlotInvariant actors s) : SlotInvariant actors (remove s runner waiter) := by
  obtain ⟨queues, order, same⟩ := remove_frame s runner waiter
  exact same ▸ invariant_queues actors s queues order inv

theorem enqueue_keeps (inv : SlotInvariant actors s) : SlotInvariant actors (enqueue s runner waiter) := by
  obtain ⟨queues, order, same⟩ := enqueue_frame s runner waiter
  exact same ▸ invariant_queues actors s queues order inv

theorem remove_requests : (remove s runner waiter).requests = s.requests := by
  obtain ⟨queues, order, same⟩ := remove_frame s runner waiter
  rw [same]

theorem enqueue_requests : (enqueue s runner waiter).requests = s.requests := by
  obtain ⟨queues, order, same⟩ := enqueue_frame s runner waiter
  rw [same]

theorem neutral_keeps (old moved : Request) (inv : SlotInvariant actors s) (read : s.requests[waiter]? = some old)
    (ok : RequestOk actors moved) (runner : moved.runner = old.runner) (actor : moved.actor = old.actor)
    (held : holds moved = holds old) : SlotInvariant actors (setRequest s waiter moved) := by
  have slots : total slot (s.requests.set waiter moved) = total slot s.requests := by
    have change := total_set slot s.requests waiter old moved read
    have same : slot moved = slot old := by simp only [slot, held]
    omega
  refine ⟨inv.size, forall_set (RequestOk actors) s.requests waiter moved inv.each ok, fun a => ?_, fun r => ?_,
    inv.busySum.trans slots.symm, inv.runnerSum.trans slots.symm, inv.unique, inv.bounded, inv.within⟩
  · have change := total_set (slotOn a) s.requests waiter old moved read
    have same : slotOn a moved = slotOn a old := by simp only [slotOn, held, actor]
    have before := inv.perActor a
    simp only [setRequest]
    omega
  · have change := total_set (slotOf r) s.requests waiter old moved read
    have same : slotOf r moved = slotOf r old := by simp only [slotOf, held, runner]
    have before := inv.perRunner r
    simp only [setRequest]
    omega

theorem get_load (loads : List Nat) (index default : Nat) (bound : index < loads.length) :
    loads.getD index default = loads[index] := by
  rw [List.getD_eq_getElem?_getD, List.getElem?_eq_getElem bound, Option.getD_some]

theorem sum_set (loads : List Nat) (index load : Nat) (bound : index < loads.length) :
    (loads.set index load).sum + loads.getD index 0 = loads.sum + load := by
  have change := total_set id loads index loads[index] load (List.getElem?_eq_getElem bound)
  rw [get_load loads index 0 bound]
  simpa [total] using change

theorem get_set_load (loads : List Nat) (index other load : Nat) (bound : index < loads.length) :
    (loads.set index load).getD other 0 = if other = index then load else loads.getD other 0 := by
  by_cases same : other = index
  · subst same
    simp [List.getD_eq_getElem?_getD, bound]
  · simp [List.getD_eq_getElem?_getD, same, Ne.symm same]

theorem dispatch_keeps (waiter candidate : Nat) (old : Request) (inv : SlotInvariant actors s)
    (read : s.requests[waiter]? = some old) (idle : holds old = false) (unspent : old.frees = 0)
    (free : s.busy.getD candidate s.limit < s.limit) (room : s.busy.sum < s.capacity) :
    SlotInvariant actors (setRequest { s with
      busy := s.busy.set candidate (s.busy.getD candidate 0 + 1)
      executingByRunner := addExecuting old.runner s.executingByRunner } waiter
      { old with phase := .executing, actor := some candidate, physical := .inFlight }) := by
  have bound : candidate < s.busy.length := by
    by_contra outside
    simp [List.getD_eq_getElem?_getD, List.getElem?_eq_none (Nat.le_of_not_lt outside)] at free
  have load : s.busy.getD candidate s.limit = s.busy.getD candidate 0 := by
    rw [get_load _ _ _ bound, get_load _ _ _ bound]
  have slots := total_set slot s.requests waiter old
    { old with phase := .executing, actor := some candidate, physical := .inFlight } read
  have lostSlot : slot old = 0 := by simp [slot, idle]
  have gained : slot { old with phase := .executing, actor := some candidate, physical := .inFlight } = 1 := by
    simp [slot, holds]
  refine ⟨by simpa [setRequest] using inv.size, ?_, fun a => ?_, fun r => ?_, ?_, ?_, ?_, ?_, ?_⟩
  · exact forall_set (RequestOk actors) s.requests waiter _ inv.each
      ⟨⟨candidate, inv.size ▸ bound, rfl⟩, by simp, unspent⟩
  · have change := total_set (slotOn a) s.requests waiter old
      { old with phase := .executing, actor := some candidate, physical := .inFlight } read
    have before := inv.perActor a
    have lost : slotOn a old = 0 := by simp [slotOn, idle]
    simp only [setRequest, get_set_load s.busy candidate a _ bound]
    by_cases same : a = candidate
    · subst same
      have one : slotOn a { old with phase := .executing, actor := some a, physical := .inFlight } = 1 := by
        simp [slotOn, holds]
      simp only [if_true]
      omega
    · have none : slotOn a { old with phase := .executing, actor := some candidate, physical := .inFlight } = 0 := by
        simp [slotOn, Ne.symm same]
      simp only [if_neg same]
      omega
  · have change := total_set (slotOf r) s.requests waiter old
      { old with phase := .executing, actor := some candidate, physical := .inFlight } read
    have before := inv.perRunner r
    have lost : slotOf r old = 0 := by simp [slotOf, idle]
    simp only [setRequest, addExecuting, dict_get_put]
    by_cases same : r = old.runner
    · subst same
      have one : slotOf old.runner { old with phase := .executing, actor := some candidate, physical := .inFlight } = 1 := by
        simp [slotOf, holds]
      simp only [if_true, Option.getD_some]
      omega
    · have none : slotOf r { old with phase := .executing, actor := some candidate, physical := .inFlight } = 0 := by
        simp [slotOf, Ne.symm same]
      simp only [if_neg same]
      omega
  · have grown := sum_set s.busy candidate (s.busy.getD candidate 0 + 1) bound
    have before := inv.busySum
    simp only [setRequest]
    omega
  · have grown := dict_sum_put s.executingByRunner old.runner ((Dict.get old.runner s.executingByRunner).getD 0 + 1)
    have before := inv.runnerSum
    simp only [setRequest, addExecuting]
    omega
  · exact (dict_keys_put _ _ _ inv.unique).1
  · refine forall_set (fun load => load ≤ s.limit) s.busy candidate _ inv.bounded ?_
    omega
  · have grown := sum_set s.busy candidate (s.busy.getD candidate 0 + 1) bound
    simp only [setRequest]
    omega

theorem release_keeps (waiter actor : Nat) (old : Request) (inv : SlotInvariant actors s) (read : s.requests[waiter]? = some old)
    (phase : old.phase = .releasing) (owned : old.actor = some actor) :
    SlotInvariant actors (setRequest { s with
      busy := s.busy.set actor (s.busy.getD actor 0 - 1)
      executingByRunner := dropExecuting old.runner s.executingByRunner } waiter
      { old with phase := .finished, frees := old.frees + 1 }) := by
  have ok := inv.each old (mem_of_read s.requests waiter old read)
  simp only [RequestOk, phase] at ok
  obtain ⟨⟨a', within, same'⟩, past, unspent⟩ := ok
  have held : holds old = true := by simp [holds, phase]
  have bound : actor < s.busy.length := by
    have eq : a' = actor := by simpa [owned] using same'.symm
    rw [inv.size, ← eq]
    exact within
  have slots := total_set slot s.requests waiter old { old with phase := .finished, frees := old.frees + 1 } read
  have slotOne : slot old = 1 := by simp [slot, held]
  have slotGone : slot { old with phase := .finished, frees := old.frees + 1 } = 0 := by simp [slot, holds]
  have onActor := total_set (slotOn actor) s.requests waiter old { old with phase := .finished, frees := old.frees + 1 } read
  have ofRunner := total_set (slotOf old.runner) s.requests waiter old
    { old with phase := .finished, frees := old.frees + 1 } read
  have actorOne : slotOn actor old = 1 := by simp [slotOn, held, owned]
  have runnerOne : slotOf old.runner old = 1 := by simp [slotOf, held]
  have actorGone : ∀ a, slotOn a { old with phase := .finished, frees := old.frees + 1 } = 0 := by simp [slotOn, holds]
  have runnerGone : ∀ r, slotOf r { old with phase := .finished, frees := old.frees + 1 } = 0 := by simp [slotOf, holds]
  have actorLast := actorGone actor
  have runnerLast := runnerGone old.runner
  have actorLoad := inv.perActor actor
  have runnerLoad := inv.perRunner old.runner
  have shrunk := sum_set s.busy actor (s.busy.getD actor 0 - 1) bound
  refine ⟨by simpa [setRequest] using inv.size, ?_, fun a => ?_, fun r => ?_, ?_, ?_, ?_, ?_, ?_⟩
  · exact forall_set (RequestOk actors) s.requests waiter _ inv.each
      (.inr ⟨⟨a', within, same'⟩, past, by simp [unspent]⟩)
  · have change := total_set (slotOn a) s.requests waiter old { old with phase := .finished, frees := old.frees + 1 } read
    have gone := actorGone a
    have before := inv.perActor a
    simp only [setRequest, get_set_load s.busy actor a _ bound]
    by_cases same : a = actor
    · subst same
      simp only [if_true]
      omega
    · have other : slotOn a old = 0 := by simp [slotOn, owned, Ne.symm same]
      simp only [if_neg same]
      omega
  · have change := total_set (slotOf r) s.requests waiter old { old with phase := .finished, frees := old.frees + 1 } read
    have gone := runnerGone r
    have before := inv.perRunner r
    simp only [setRequest, dropExecuting]
    by_cases same : r = old.runner
    · subst same
      split
      · simp only [dict_get_pop, if_true, Option.getD_none]
        omega
      · simp only [dict_get_put, if_true, Option.getD_some]
        omega
    · have other : slotOf r old = 0 := by simp [slotOf, Ne.symm same]
      split
      · simp only [dict_get_pop, if_neg same]
        omega
      · simp only [dict_get_put, if_neg same]
        omega
  · have before := inv.busySum
    simp only [setRequest]
    omega
  · have before := inv.runnerSum
    simp only [setRequest, dropExecuting]
    split
    · have popped := dict_sum_pop s.executingByRunner old.runner inv.unique
      omega
    · have put := dict_sum_put s.executingByRunner old.runner ((Dict.get old.runner s.executingByRunner).getD 0 - 1)
      omega
  · simp only [setRequest, dropExecuting]
    split
    · exact (dict_keys_pop _ _ inv.unique).1
    · exact (dict_keys_put _ _ _ inv.unique).1
  · refine forall_set (fun load => load ≤ s.limit) s.busy actor _ inv.bounded ?_
    have fits := inv.bounded s.busy[actor] (List.getElem_mem bound)
    rw [get_load _ _ _ bound]
    omega
  · have fits := inv.within
    simp only [setRequest]
    omega

def Idle (r : Request) : Prop := r.actor = none ∧ r.physical = .none ∧ r.frees = 0

theorem attempt_keeps (r : Request) (inv : SlotInvariant actors s) (read : s.requests[waiter]? = some r) (idle : Idle r)
    (unheld : holds r = false) : SlotInvariant actors (attempt s waiter r) := by
  unfold attempt
  split
  · refine neutral_keeps actors _ waiter r _ (remove_keeps actors s r.runner waiter inv) ?_ (.inl idle) rfl rfl ?_
    · rw [remove_requests]
      exact read
    · rw [unheld]
      rfl
  · split
    · rename_i admitted
      simp only [canDispatch, decide_eq_true_eq] at admitted
      obtain ⟨_, _, free, room⟩ := admitted
      have kept := dispatch_keeps actors s waiter (leastBusy s.busy) r inv read unheld idle.2.2 free room
      -- Neither the rotation nor the removal from the queue touches a counter.
      obtain ⟨queues, order, same⟩ := remove_frame { s with
        busy := s.busy.set (leastBusy s.busy) (s.busy.getD (leastBusy s.busy) 0 + 1)
        executingByRunner := addExecuting r.runner s.executingByRunner
        order := rotate s.order } r.runner waiter
      simp only [same]
      exact invariant_queues actors _ queues order kept
    · exact neutral_keeps actors s waiter r _ inv read idle rfl rfl (by rw [unheld]; rfl)

theorem enter_keeps (s next : Router) (waiter : Nat) (r : Request) (inv : SlotInvariant actors s)
    (read : s.requests[waiter]? = some r) (taken : enter s waiter r = some next) : SlotInvariant actors next := by
  unfold enter at taken
  split at taken
  · rename_i entering
    have ok := inv.each r (mem_of_read s.requests waiter r read)
    simp only [RequestOk, entering] at ok
    have unheld : holds r = false := by simp [holds, entering]
    split at taken
    · cases taken
      exact neutral_keeps actors s waiter r _ inv read (.inl ok) rfl rfl (by rw [unheld]; rfl)
    · cases taken
      refine attempt_keeps actors _ waiter r (enqueue_keeps actors s r.runner waiter inv) ?_ ok unheld
      rw [enqueue_requests]
      exact read
  · cases taken

theorem wake_keeps (s next : Router) (waiter : Nat) (r : Request) (inv : SlotInvariant actors s)
    (read : s.requests[waiter]? = some r) (taken : wake s waiter r = some next) : SlotInvariant actors next := by
  unfold wake at taken
  split at taken
  · rename_i waiting
    cases taken
    have ok := inv.each r (mem_of_read s.requests waiter r read)
    simp only [RequestOk, waiting] at ok
    exact attempt_keeps actors s waiter r inv read ok (by simp [holds, waiting])
  · cases taken

theorem complete_keeps (s next : Router) (waiter : Nat) (r : Request) (inv : SlotInvariant actors s)
    (read : s.requests[waiter]? = some r) (taken : complete s waiter r = some next) : SlotInvariant actors next := by
  unfold complete at taken
  split at taken
  · rename_i inFlight
    cases taken
    have ok := inv.each r (mem_of_read s.requests waiter r read)
    refine neutral_keeps actors s waiter r _ inv read ?_ rfl rfl rfl
    cases phase : r.phase <;> simp_all [RequestOk]
  · cases taken

theorem resume_keeps (s next : Router) (waiter : Nat) (r : Request) (inv : SlotInvariant actors s)
    (read : s.requests[waiter]? = some r) (taken : resume s waiter r = some next) : SlotInvariant actors next := by
  unfold resume at taken
  split at taken
  · rename_i ready
    cases taken
    obtain ⟨phase, past⟩ := ready
    have ok := inv.each r (mem_of_read s.requests waiter r read)
    have owned : (∃ actor < actors, r.actor = some actor) ∧ r.frees = 0 := by
      cases phase with
      | inl executing =>
          simp only [RequestOk, executing] at ok
          exact ⟨ok.1, ok.2.2⟩
      | inr draining =>
          simp only [RequestOk, draining] at ok
          exact ⟨ok.1, ok.2.2⟩
    refine neutral_keeps actors s waiter r _ inv read ⟨owned.1, past, owned.2⟩ rfl rfl ?_
    cases phase with
    | inl executing => simp [holds, executing]
    | inr draining => simp [holds, draining]
  · cases taken

theorem free_keeps (s next : Router) (waiter : Nat) (r : Request) (inv : SlotInvariant actors s)
    (read : s.requests[waiter]? = some r) (taken : release s waiter r = some next) : SlotInvariant actors next := by
  unfold release at taken
  split at taken
  · rename_i releasing
    cases owned : r.actor with
    | none => simp [owned] at taken
    | some actor =>
        have kept := release_keeps actors s waiter actor r inv read releasing owned
        simp only [owned, Option.some.injEq] at taken kept
        exact taken ▸ kept
  · cases taken

theorem cancel_task_keeps (s next : Router) (waiter : Nat) (r : Request) (inv : SlotInvariant actors s)
    (read : s.requests[waiter]? = some r) (hidden : ¬ Exposed r) (taken : cancelTask s waiter r = some next) :
    SlotInvariant actors next := by
  have ok := inv.each r (mem_of_read s.requests waiter r read)
  cases phase : r.phase with
  | entering =>
      simp only [cancelTask, phase, Option.some.injEq] at taken
      subst taken
      simp only [RequestOk, phase] at ok
      exact neutral_keeps actors s waiter r _ inv read (.inl ok) rfl rfl (by simp [holds, phase])
  | waiting =>
      simp only [cancelTask, phase, Option.some.injEq] at taken
      subst taken
      simp only [RequestOk, phase] at ok
      refine neutral_keeps actors _ waiter r _ (remove_keeps actors s r.runner waiter inv) ?_ (.inl ok) rfl rfl (by simp [holds, phase])
      rw [remove_requests]
      exact read
  | executing =>
      simp only [cancelTask, phase, Option.some.injEq] at taken
      subst taken
      simp only [RequestOk, phase] at ok
      exact neutral_keeps actors s waiter r _ inv read ok rfl rfl (by simp [holds, phase])
  | draining =>
      simp only [cancelTask, phase, Option.some.injEq] at taken
      subst taken
      simp only [RequestOk, phase] at ok
      have past : r.physical = .finished := by
        cases physical : r.physical with
        | none => exact absurd physical ok.2.1
        | inFlight => exact absurd (.inl ⟨phase, physical⟩) hidden
        | finished => rfl
      exact neutral_keeps actors s waiter r _ inv read ⟨ok.1, past, ok.2.2⟩ rfl rfl (by simp [holds, phase])
  | releasing => exact absurd (.inr phase) hidden
  | finished => simp [cancelTask, phase] at taken

theorem call_keeps (inv : SlotInvariant actors s) :
    SlotInvariant actors { s with requests := s.requests ++ [⟨runner, .entering, none, .none, 0⟩] } := by
  have fresh : holds ⟨runner, .entering, none, .none, 0⟩ = false := rfl
  refine ⟨inv.size, forall_append _ s.requests _ inv.each ⟨rfl, rfl, rfl⟩, fun a => ?_, fun r => ?_, ?_, ?_, inv.unique,
    inv.bounded, inv.within⟩
  · simpa [slotOn, fresh] using inv.perActor a
  · simpa [slotOf, fresh] using inv.perRunner r
  · simpa [slot, fresh] using inv.busySum
  · simpa [slot, fresh] using inv.runnerSum

theorem on_request_some (s next : Router) (waiter : Nat) (move : Router → Nat → Request → Option Router)
    (taken : onRequest s waiter move = some next) : ∃ r, s.requests[waiter]? = some r ∧ move s waiter r = some next := by
  unfold onRequest at taken
  cases read : s.requests[waiter]? with
  | none => simp [read] at taken
  | some r => exact ⟨r, rfl, by simpa [read] using taken⟩

theorem step_keeps_slots (event : Event) (next : Router) (inv : SlotInvariant actors s) (allowed : Undisturbed s event)
    (taken : step s event = some next) : SlotInvariant actors next := by
  cases event with
  | call runner =>
      cases taken
      exact call_keeps actors s runner inv
  | enter waiter =>
      obtain ⟨r, read, moved⟩ := on_request_some s next waiter enter taken
      exact enter_keeps actors s next waiter r inv read moved
  | wake waiter =>
      obtain ⟨r, read, moved⟩ := on_request_some s next waiter wake taken
      exact wake_keeps actors s next waiter r inv read moved
  | complete waiter =>
      obtain ⟨r, read, moved⟩ := on_request_some s next waiter complete taken
      exact complete_keeps actors s next waiter r inv read moved
  | resume waiter =>
      obtain ⟨r, read, moved⟩ := on_request_some s next waiter resume taken
      exact resume_keeps actors s next waiter r inv read moved
  | release waiter =>
      obtain ⟨r, read, moved⟩ := on_request_some s next waiter release taken
      exact free_keeps actors s next waiter r inv read moved
  | cancelTask waiter =>
      obtain ⟨r, read, moved⟩ := on_request_some s next waiter cancelTask taken
      exact cancel_task_keeps actors s next waiter r inv read (allowed r read) moved
  | cancel runner =>
      cases taken
      exact ⟨inv.size, inv.each, inv.perActor, inv.perRunner, inv.busySum, inv.runnerSum, inv.unique, inv.bounded, inv.within⟩
  | forget runner =>
      cases taken
      exact ⟨inv.size, inv.each, inv.perActor, inv.perRunner, inv.busySum, inv.runnerSum, inv.unique, inv.bounded, inv.within⟩

end LlmperfOrchestrator.RequestPool

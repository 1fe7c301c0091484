import LlmperfOrchestrator.Runtime.Slots

set_option autoImplicit false

namespace LlmperfOrchestrator.RequestPool

open Runs Tables

def inFlightOn (actor : Nat) (r : Request) : Nat := if r.physical = .inFlight ∧ r.actor = some actor then 1 else 0

def unreturnedOn (actor : Nat) (r : Request) : Nat :=
  if r.physical = .finished ∧ r.phase ≠ .finished ∧ r.actor = some actor then 1 else 0

structure SlotAccounting (actors requestsPerActor : Nat) (s : Router) : Prop where
  size : s.busy.length = actors
  perActor : ∀ load ∈ s.busy, load ≤ requestsPerActor
  within : s.busy.sum ≤ s.capacity
  calls : ∀ actor, s.busy.getD actor 0 = total (inFlightOn actor) s.requests + total (unreturnedOn actor) s.requests
  runners : s.busy.sum = Dict.sum s.executingByRunner
  once : ∀ r ∈ s.requests, r.frees ≤ 1
  returned : ∀ r ∈ s.requests, r.frees = 1 ↔ r.phase = .finished ∧ r.actor ≠ none
  after : ∀ r ∈ s.requests, r.frees = 1 → r.physical = .finished

theorem total_add {Row : Type} (a b c : Row → Nat) (rows : List Row) (same : ∀ row ∈ rows, a row = b row + c row) :
    total a rows = total b rows + total c rows := by
  induction rows with
  | nil => rfl
  | cons row rest ih =>
      have here := same row (by simp)
      have later := ih fun other member => same other (by simp [member])
      simp only [total_cons]
      omega

theorem slot_on_split (actors actor : Nat) (r : Request) (ok : RequestOk actors r) :
    slotOn actor r = inFlightOn actor r + unreturnedOn actor r := by
  cases phase : r.phase with
  | entering =>
      simp only [RequestOk, phase] at ok
      simp [slotOn, inFlightOn, unreturnedOn, ok.1]
  | waiting =>
      simp only [RequestOk, phase] at ok
      simp [slotOn, inFlightOn, unreturnedOn, ok.1]
  | executing =>
      simp only [RequestOk, phase] at ok
      cases physical : r.physical <;> simp_all [slotOn, inFlightOn, unreturnedOn, holds]
  | draining =>
      simp only [RequestOk, phase] at ok
      cases physical : r.physical <;> simp_all [slotOn, inFlightOn, unreturnedOn, holds]
  | releasing =>
      simp only [RequestOk, phase] at ok
      simp [slotOn, inFlightOn, unreturnedOn, holds, phase, ok.2.1]
  | finished =>
      simp only [RequestOk, phase] at ok
      rcases ok with ⟨unowned, past, _⟩ | ⟨_, past, _⟩ <;> simp [slotOn, inFlightOn, unreturnedOn, holds, phase, past]

theorem frees_once (actors : Nat) (r : Request) (ok : RequestOk actors r) :
    r.frees ≤ 1 ∧ (r.frees = 1 ↔ r.phase = .finished ∧ r.actor ≠ none) ∧ (r.frees = 1 → r.physical = .finished) := by
  cases phase : r.phase with
  | finished =>
      simp only [RequestOk, phase] at ok
      rcases ok with ⟨unowned, _, unspent⟩ | ⟨⟨actor, _, owned⟩, past, spent⟩
      · simp [unowned, unspent]
      · simp [owned, past, spent]
  | entering | waiting | executing | draining | releasing =>
      simp only [RequestOk, phase] at ok
      simp [ok.2.2]

theorem invariant_accounting (actors requestsPerActor : Nat) (s : Router) (inv : SlotInvariant actors s)
    (limit : s.limit = requestsPerActor) : SlotAccounting actors requestsPerActor s :=
  ⟨inv.size, limit ▸ inv.bounded, inv.within,
    fun actor => (inv.perActor actor).trans
      (total_add _ _ _ s.requests fun r member => slot_on_split actors actor r (inv.each r member)),
    inv.busySum.trans inv.runnerSum.symm,
    fun r member => (frees_once actors r (inv.each r member)).1,
    fun r member => (frees_once actors r (inv.each r member)).2.1,
    fun r member => (frees_once actors r (inv.each r member)).2.2⟩

theorem create_invariant (actors requestsPerActor maxPending : Nat) (maxRequests : Option Nat) (origin : Router)
    (created : create actors requestsPerActor maxPending maxRequests = .ok origin) :
    SlotInvariant actors origin ∧ origin.limit = requestsPerActor := by
  unfold create at created
  split at created
  · cases created
  · cases created
    have empty : (List.replicate actors 0).sum = 0 := by simp
    refine ⟨⟨by simp, by simp, fun actor => ?_, fun runner => rfl, empty, rfl, List.nodup_nil, by simp, by simp⟩, rfl⟩
    cases found : (List.replicate actors 0)[actor]? with
    | none => simp [List.getD_eq_getElem?_getD, found]
    | some load =>
        have zero := List.eq_of_mem_replicate (List.mem_of_getElem? found)
        simp [List.getD_eq_getElem?_getD, found, zero]

@[simp] theorem remove_limit (s : Router) (runner : RunnerId) (waiter : Nat) : (remove s runner waiter).limit = s.limit := by
  obtain ⟨queues, order, same⟩ := remove_frame s runner waiter
  rw [same]

@[simp] theorem enqueue_limit (s : Router) (runner : RunnerId) (waiter : Nat) : (enqueue s runner waiter).limit = s.limit := by
  obtain ⟨queues, order, same⟩ := enqueue_frame s runner waiter
  rw [same]

@[simp] theorem set_request_limit (s : Router) (waiter : Nat) (r : Request) : (setRequest s waiter r).limit = s.limit := rfl

@[simp] theorem attempt_limit (s : Router) (waiter : Nat) (r : Request) : (attempt s waiter r).limit = s.limit := by
  unfold attempt
  split
  · simp
  · split <;> simp

theorem step_limit (s next : Router) (event : Event) (taken : step s event = some next) : next.limit = s.limit := by
  cases event with
  | call runner | cancel runner | forget runner =>
      cases taken
      rfl
  | enter waiter =>
      obtain ⟨r, _, moved⟩ := on_request_some s next waiter enter taken
      unfold enter at moved
      split at moved
      · split at moved <;> cases moved <;> simp
      · cases moved
  | wake waiter =>
      obtain ⟨r, _, moved⟩ := on_request_some s next waiter wake taken
      unfold wake at moved
      split at moved <;> cases moved
      simp
  | complete waiter =>
      obtain ⟨r, _, moved⟩ := on_request_some s next waiter complete taken
      unfold complete at moved
      split at moved <;> cases moved
      simp
  | resume waiter =>
      obtain ⟨r, _, moved⟩ := on_request_some s next waiter resume taken
      unfold resume at moved
      split at moved <;> cases moved
      simp
  | release waiter =>
      obtain ⟨r, _, moved⟩ := on_request_some s next waiter release taken
      unfold release at moved
      split at moved
      · split at moved <;> cases moved
        simp
      · cases moved
  | cancelTask waiter =>
      obtain ⟨r, _, moved⟩ := on_request_some s next waiter cancelTask taken
      unfold cancelTask at moved
      split at moved <;> cases moved <;> simp

theorem slots_run (actors requestsPerActor maxPending : Nat) (maxRequests : Option Nat) (origin s : Router)
    (events : List Event) (created : create actors requestsPerActor maxPending maxRequests = .ok origin)
    (undisturbed : EveryStep step Undisturbed origin events) (reached : run step origin events = some s) :
    SlotInvariant actors s ∧ s.limit = requestsPerActor := by
  obtain ⟨start, limit⟩ := create_invariant actors requestsPerActor maxPending maxRequests origin created
  exact run_keeps step Undisturbed (fun state => SlotInvariant actors state ∧ state.limit = requestsPerActor)
    (fun state event next held allowed taken =>
      ⟨step_keeps_slots actors state event next held.1 allowed taken, (step_limit state next event taken).trans held.2⟩)
    events origin s ⟨start, limit⟩ undisturbed reached

theorem release_frees (actors : Nat) (s : Router) (waiter : Nat) (r : Request) (ok : RequestOk actors r)
    (read : s.requests[waiter]? = some r) (phase : r.phase = .releasing) :
    ∃ last, run step s [.release waiter] = some last ∧ ∃ past, last.requests[waiter]? = some past ∧ past.frees = 1 := by
  simp only [RequestOk, phase] at ok
  obtain ⟨⟨actor, _, owned⟩, _, unspent⟩ := ok
  have taken : step s (.release waiter) = some (setRequest { s with
      busy := s.busy.set actor (s.busy.getD actor 0 - 1)
      executingByRunner := dropExecuting r.runner s.executingByRunner } waiter
      { r with phase := .finished, frees := r.frees + 1 }) := by
    simp [step, onRequest, read, release, phase, owned]
  have bound := (List.getElem?_eq_some_iff.mp read).1
  exact ⟨_, (run_cons step s _ _ _).mpr ⟨_, taken, rfl⟩, { r with phase := .finished, frees := r.frees + 1 },
    by simp [setRequest, bound], by simp [unspent]⟩

theorem resume_frees (actors : Nat) (s : Router) (waiter : Nat) (r : Request) (ok : RequestOk actors r)
    (read : s.requests[waiter]? = some r) (phase : r.phase = .executing ∨ r.phase = .draining)
    (past : r.physical = .finished) :
    ∃ last, run step s [.resume waiter, .release waiter] = some last ∧
      ∃ freed, last.requests[waiter]? = some freed ∧ freed.frees = 1 := by
  have bound := (List.getElem?_eq_some_iff.mp read).1
  have resumed : step s (.resume waiter) = some (setRequest s waiter { r with phase := .releasing }) := by
    simp [step, onRequest, read, resume, phase, past]
  have owned : (∃ actor < actors, r.actor = some actor) ∧ r.frees = 0 := by
    cases phase with
    | inl executing =>
        simp only [RequestOk, executing] at ok
        exact ⟨ok.1, ok.2.2⟩
    | inr draining =>
        simp only [RequestOk, draining] at ok
        exact ⟨ok.1, ok.2.2⟩
  obtain ⟨last, taken, freed⟩ := release_frees actors (setRequest s waiter { r with phase := .releasing }) waiter
    { r with phase := .releasing } ⟨owned.1, past, owned.2⟩ (by simp [setRequest, bound]) rfl
  exact ⟨last, (run_cons step s last _ _).mpr ⟨_, resumed, taken⟩, freed⟩

theorem call_frees (actors : Nat) (s : Router) (waiter : Nat) (r : Request) (ok : RequestOk actors r)
    (read : s.requests[waiter]? = some r) (dispatched : r.actor ≠ none) (running : r.phase ≠ .finished) :
    ∃ events last, (∀ event ∈ events, event ∈ [Event.complete waiter, .resume waiter, .release waiter]) ∧
      run step s events = some last ∧ ∃ freed, last.requests[waiter]? = some freed ∧ freed.frees = 1 := by
  have bound := (List.getElem?_eq_some_iff.mp read).1
  by_cases releasing : r.phase = .releasing
  · obtain ⟨last, taken, freed⟩ := release_frees actors s waiter r ok read releasing
    exact ⟨_, last, by simp, taken, freed⟩
  · have held : (r.phase = .executing ∨ r.phase = .draining) ∧ r.physical ≠ .none := by
      cases phase : r.phase with
      | entering | waiting =>
          simp only [RequestOk, phase] at ok
          exact absurd ok.1 dispatched
      | executing | draining =>
          simp only [RequestOk, phase] at ok
          exact ⟨by simp, ok.2.1⟩
      | releasing => exact absurd phase releasing
      | finished => exact absurd phase running
    obtain ⟨phase, started⟩ := held
    by_cases past : r.physical = .finished
    · obtain ⟨last, taken, freed⟩ := resume_frees actors s waiter r ok read phase past
      exact ⟨_, last, by simp, taken, freed⟩
    · have inFlight : r.physical = .inFlight := by
        cases physical : r.physical with
        | none => exact absurd physical started
        | inFlight => rfl
        | finished => exact absurd physical past
      have completed : step s (.complete waiter) = some (setRequest s waiter { r with physical := .finished }) := by
        simp [step, onRequest, read, complete, inFlight]
      have okNext : RequestOk actors { r with physical := .finished } := by
        cases phase with
        | inl executing =>
            simp only [RequestOk, executing] at ok ⊢
            exact ⟨ok.1, by simp, ok.2.2⟩
        | inr draining =>
            simp only [RequestOk, draining] at ok ⊢
            exact ⟨ok.1, by simp, ok.2.2⟩
      obtain ⟨last, taken, freed⟩ := resume_frees actors (setRequest s waiter { r with physical := .finished }) waiter
        { r with physical := .finished } okNext (by simp [setRequest, bound]) phase rfl
      exact ⟨_, last, by simp, (run_cons step s last _ _).mpr ⟨_, completed, taken⟩, freed⟩

theorem slots_follow_calls (actors requestsPerActor maxPending : Nat) (maxRequests : Option Nat) (origin s : Router)
    (events : List Event) (created : create actors requestsPerActor maxPending maxRequests = .ok origin)
    (undisturbed : EveryStep step Undisturbed origin events) (reached : run step origin events = some s) :
    SlotAccounting actors requestsPerActor s ∧
      ∀ (waiter : Nat) (r : Request), s.requests[waiter]? = some r → r.actor ≠ none → r.phase ≠ .finished →
        ∃ after last, (∀ event ∈ after, event ∈ [Event.complete waiter, .resume waiter, .release waiter]) ∧
          run step s after = some last ∧ ∃ freed, last.requests[waiter]? = some freed ∧ freed.frees = 1 := by
  obtain ⟨inv, limit⟩ := slots_run actors requestsPerActor maxPending maxRequests origin s events created undisturbed reached
  exact ⟨invariant_accounting actors requestsPerActor s inv limit, fun waiter r read dispatched running =>
    call_frees actors s waiter r (inv.each r (mem_of_read s.requests waiter r read)) read dispatched running⟩

def singleSlot : Router := ⟨1, 4, 1, [0], [], [], [], [], []⟩

def orderlyCalls : List Event :=
  [.call "a", .enter 0, .call "b", .enter 1, .cancelTask 0, .complete 0, .resume 0, .release 0, .wake 1]

theorem slots_follow_calls_orderly :
    ∃ s, run step singleSlot orderlyCalls = some s ∧ SlotAccounting 1 1 s ∧ s.busy = [1] := by
  cases reached : run step singleSlot orderlyCalls with
  | none => exact absurd reached (by decide)
  | some s =>
      have accounted := slots_follow_calls 1 1 4 none singleSlot s orderlyCalls rfl (by decide) reached
      refine ⟨s, rfl, accounted.1, ?_⟩
      have busy : (run step singleSlot orderlyCalls).map Router.busy = some [1] := by decide
      simpa [reached] using busy

-- Between the end of the physical call and the final block the slot is still
-- counted, although nothing is in flight.
theorem busy_outlasts_call :
    ∃ s, create 1 1 4 none = .ok singleSlot ∧ run step singleSlot [.call "a", .enter 0, .complete 0] = some s ∧
      s.busy.getD 0 0 = 1 ∧ total (inFlightOn 0) s.requests = 0 :=
  ⟨_, rfl, rfl, rfl, rfl⟩

example : (run step singleSlot [.call "a", .enter 0, .call "b", .enter 1, .cancelTask 0, .cancelTask 0, .release 0, .wake 1]).map
    (fun s => total (inFlightOn 0) s.requests) = some 2 := by decide

end LlmperfOrchestrator.RequestPool

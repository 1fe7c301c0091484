import LlmperfOrchestrator.Runtime.GateProgress
import LlmperfOrchestrator.Runtime.Permits

set_option autoImplicit false

namespace LlmperfOrchestrator.Gates

open Runs Tables Outcomes Semaphores Dispatch

def permitOf (runtime : Option RuntimeId) : Permit := runtime.elim .capacity .gate

def permitAt (runtimes : List (Option RuntimeId)) (gate : Nat) : Permit := permitOf (runtimes[gate]?.getD none)

-- executing covers every stage of _execute, created is the first of them.
def Phase.counted : Phase → Dispatch.Phase
  | .waiting => .acquiring
  | .reserving => .reserving
  | .executing => .created
  | .settled => .settled

structure Pair (runtimes : List (Option RuntimeId)) (s : Submission) (t : Dispatch.Submission) : Prop where
  runner : t.runner = s.runner
  phase : t.phase = s.phase.counted
  acquired : s.phase ≠ .settled → t.acquired = s.acquired.map (permitAt runtimes)
  wanted : s.phase = .waiting → t.wanted = (s.acquired ++ s.remaining).map (permitAt runtimes)
  known : ∀ gate ∈ s.acquired ++ s.remaining, gate < runtimes.length

-- Permits handed to a waiter that has not run since are still to be acquired.
def Stocked (gates : List Gate) (semaphores : Permit → Nat) : Prop :=
  ∀ gate ∈ gates, semaphores (permitOf gate.runtime) = stock gate.semaphore

structure Same (d : Dispatcher) (e : Dispatch.Dispatcher) : Prop where
  apart : (runtimesOf d.gates).Nodup
  stocked : Stocked d.gates e.semaphores
  limits : e.runtimeLimits = d.runtimeLimits
  registry : ∀ runtime, runtime ∈ e.runtimeGates ↔ Dict.get runtime d.runtimeGates ≠ none
  runners : e.runnerRuntimes = d.runnerRuntimes
  cancelled : ∀ runner, runner ∈ e.cancelled ↔ runner ∈ d.cancelled
  counted : e.submissions.length = d.submissions.length
  submissions : ∀ (index : Nat) s t, d.submissions[index]? = some s → e.submissions[index]? = some t → Pair (runtimesOf d.gates) s t

section Permits

variable {gates : List Gate} {semaphores : Permit → Nat} (apart : (runtimesOf gates).Nodup) (stocked : Stocked gates semaphores)

theorem permit_at {target : Nat} {found : Gate} (read : gates[target]? = some found) :
    permitAt (runtimesOf gates) target = permitOf found.runtime := by
  rw [permitAt, runtimesOf, List.getElem?_map, read]
  rfl

theorem permit_of_apart {one other : Option RuntimeId} (same : permitOf one = permitOf other) : one = other := by
  cases one <;> cases other <;> cases same <;> rfl

include apart stocked

theorem on_gate_stocked {after : Permit → Nat} {target : Nat} {found : Gate} (change : Semaphore Nat → Semaphore Nat)
    (read : gates[target]? = some found) (here : after (permitOf found.runtime) = stock (change found.semaphore))
    (others : ∀ permit, permit ≠ permitOf found.runtime → after permit = semaphores permit) :
    Stocked (onGate gates target change) after := by
  intro gate member
  obtain ⟨index, there⟩ := List.mem_iff_getElem?.mp member
  rw [onGate, List.getElem?_modify] at there
  obtain ⟨old, listed, same⟩ := Option.map_eq_some_iff.mp there
  by_cases hit : target = index
  · subst hit
    cases Option.some.inj (read.symm.trans listed)
    rw [if_pos rfl] at same
    rw [← same]
    exact here
  · rw [if_neg hit] at same
    subst same
    rw [others _ fun equal => hit ?_]
    · exact stocked old (List.mem_of_getElem? listed)
    · apply (List.getElem?_inj (by rw [runtimesOf, List.length_map]; exact (List.getElem?_eq_some_iff.mp read).1) apart).mp
      rw [runtimesOf, List.getElem?_map, List.getElem?_map, read, listed, Option.map_some, Option.map_some, permit_of_apart equal]

theorem on_gate_kept {target : Nat} {found : Gate} (change : Semaphore Nat → Semaphore Nat) (read : gates[target]? = some found)
    (kept : stock (change found.semaphore) = stock found.semaphore) : Stocked (onGate gates target change) semaphores :=
  on_gate_stocked apart stocked change read ((stocked found (List.mem_of_getElem? read)).trans kept.symm) fun _ _ => rfl

theorem on_gate_taken {target : Nat} {found : Gate} (change : Semaphore Nat → Semaphore Nat) (read : gates[target]? = some found)
    (less : stock (change found.semaphore) + 1 = stock found.semaphore) :
    semaphores (permitAt (runtimesOf gates) target) ≠ 0 ∧ Stocked (onGate gates target change)
      (Function.update semaphores (permitAt (runtimesOf gates) target) (semaphores (permitAt (runtimesOf gates) target) - 1)) := by
  have full := stocked found (List.mem_of_getElem? read)
  rw [permit_at read]
  refine ⟨by omega, on_gate_stocked apart stocked change read ?_ fun permit other => Function.update_of_ne other _ _⟩
  rw [Function.update_self]
  omega

omit apart stocked

theorem releases_stocked (permits : List Nat) (gates : List Gate) (semaphores : Permit → Nat) (apart : (runtimesOf gates).Nodup)
    (stocked : Stocked gates semaphores) (inside : ∀ gate ∈ permits, gate < (runtimesOf gates).length) :
    Stocked (permits.foldl (fun gates gate => onGate gates gate release) gates)
      (fun permit => semaphores permit + (permits.map (permitAt (runtimesOf gates))).count permit) := by
  induction permits generalizing gates semaphores with
  | nil => exact stocked
  | cons gate rest ih =>
      have here : gate < gates.length := by simpa [runtimesOf] using inside gate List.mem_cons_self
      have read := List.getElem?_eq_getElem here
      let freed : Permit → Nat := fun permit => semaphores permit + if permitAt (runtimesOf gates) gate = permit then 1 else 0
      have one : Stocked (onGate gates gate release) freed := by
        apply on_gate_stocked apart stocked release read
        · simp only [freed, permit_at read, ↓reduceIte, release_stock, stocked _ (List.getElem_mem here)]
        · intro permit other
          simp only [freed, permit_at read, if_neg (Ne.symm other), Nat.add_zero]
      have later := ih (onGate gates gate release) freed (by rw [on_gate_runtimes]; exact apart) one
        (by rw [on_gate_runtimes]; exact fun other member => inside other (List.mem_cons_of_mem gate member))
      rw [on_gate_runtimes] at later
      intro found member
      rw [← later found member]
      simp only [List.map_cons, List.count_cons, beq_iff_eq, freed]
      ac_rfl

theorem settle_stocked {s : Submission} {t : Dispatch.Submission} (apart : (runtimesOf gates).Nodup)
    (stocked : Stocked gates semaphores) (inside : ∀ gate ∈ s.acquired, gate < (runtimesOf gates).length)
    (acquired : t.acquired = s.acquired.map (permitAt (runtimesOf gates))) :
    Stocked (settle gates s).1 (Dispatch.release semaphores t).1 := by
  have freed := releases_stocked s.acquired.reverse gates semaphores apart stocked fun gate member => inside gate (List.mem_reverse.mp member)
  simp only [List.map_reverse, List.count_reverse, ← acquired] at freed
  exact freed

theorem settled_pair (s : Submission) (t : Dispatch.Submission) (runtimes : List (Option RuntimeId)) (runner : t.runner = s.runner) :
    Pair runtimes (settle gates s).2 (Dispatch.release semaphores t).2 :=
  ⟨runner, rfl, fun unsettled => absurd rfl unsettled, (fun waiting => by cases waiting), fun gate member => by cases member⟩

end Permits

def Calls (e last : Dispatch.Dispatcher) : Prop :=
  ∃ events, EveryStep Dispatch.step Unforced e events ∧ run Dispatch.step e events = some last

section Calls

variable {e middle last : Dispatch.Dispatcher}

theorem calls_refl : Calls e e := ⟨[], trivial, rfl⟩

theorem calls_cons (event : Dispatch.Event) (allowed : Unforced e event) (taken : Dispatch.step e event = some middle)
    (later : Calls middle last) : Calls e last := by
  obtain ⟨events, meets, reached⟩ := later
  refine ⟨event :: events, ⟨allowed, fun next same => ?_⟩, (run_cons _ _ _ _ _).mpr ⟨middle, taken, reached⟩⟩
  cases Option.some.inj (taken.symm.trans same)
  exact meets

theorem calls_trans (early : Calls e middle) (late : Calls middle last) : Calls e last := by
  obtain ⟨events, meets, reached⟩ := early
  induction events generalizing e with
  | nil =>
      cases reached
      exact late
  | cons event rest ih =>
      obtain ⟨next, taken, reached⟩ := (run_cons _ _ _ _ _).mp reached
      exact calls_cons event meets.1 taken (ih (meets.2 next taken) reached)

end Calls

section Placed

variable {e : Dispatch.Dispatcher} {index : Nat} {t : Dispatch.Submission}

def placed (e : Dispatch.Dispatcher) (index : Nat) (result : (Permit → Nat) × Dispatch.Submission) : Dispatch.Dispatcher :=
  { e with semaphores := result.1, submissions := e.submissions.set index result.2 }

theorem placed_same (read : e.submissions[index]? = some t) : placed e index (e.semaphores, t) = e := by
  obtain ⟨inside, rfl⟩ := List.getElem?_eq_some_iff.mp read
  rw [placed, List.set_getElem_self]

theorem placed_read (result : (Permit → Nat) × Dispatch.Submission) (read : e.submissions[index]? = some t) :
    (placed e index result).submissions[index]? = some result.2 :=
  List.getElem?_set_self (List.getElem?_eq_some_iff.mp read).1

theorem placed_again (early late : (Permit → Nat) × Dispatch.Submission) :
    placed (placed e index early) index late = placed e index late := by
  simp only [placed, List.set_set]

variable (read : e.submissions[index]? = some t)

include read

theorem moved_call {result : (Permit → Nat) × Dispatch.Submission} (event : Dispatch.Event)
    (move : Dispatch.Dispatcher → Dispatch.Submission → Option ((Permit → Nat) × Dispatch.Submission))
    (allowed : Unforced e event) (steps : Dispatch.step e event = Dispatch.advance e index move)
    (moved : move e t = some result) : Calls e (placed e index result) := by
  apply calls_cons event allowed _ calls_refl
  rw [steps, Dispatch.advance, read]
  simp only [moved, Option.map_some, placed]

theorem unforced_task (early : t.phase ≠ .draining) : Unforced e (.cancelTask index) := by
  intro other found forced
  cases Option.some.inj (read.symm.trans found)
  exact early forced.1

theorem withdrawn_calls (early : t.phase = .acquiring ∨ t.phase = .reserving) :
    Calls e (placed e index (Dispatch.release e.semaphores t)) := by
  apply moved_call read (.cancelTask index) Dispatch.cancelTask (unforced_task read ?_) rfl
  · rcases early with phase | phase <;> rw [Dispatch.cancelTask, phase]
  · rcases early with phase | phase <;> simp [phase]

theorem acquire_calls (permit : Permit) (phase : t.phase = .acquiring) (next : t.wanted[t.acquired.length]? = some permit)
    (positive : e.semaphores permit ≠ 0) (taken : Permit → Nat)
    (same : taken = Function.update e.semaphores permit (e.semaphores permit - 1)) :
    Calls e (placed e index
      (if t.acquired.length + 1 < t.wanted.length then (taken, { t with acquired := t.acquired ++ [permit] })
      else if t.runner ∈ e.cancelled then Dispatch.release taken { t with acquired := t.acquired ++ [permit] }
      else (taken, { t with acquired := t.acquired ++ [permit], phase := .reserving }))) := by
  apply moved_call read (.acquire index) Dispatch.acquire trivial rfl
  rw [Dispatch.acquire, if_pos phase, next, same]
  simp only [if_neg positive, List.length_append, List.length_singleton]
  split
  · rfl
  · split <;> rfl

end Placed

def Matched (index : Nat) (e : Dispatch.Dispatcher) (result : List Gate × Submission) : Prop :=
  ∃ after, Calls e (placed e index after) ∧ Stocked result.1 after.1 ∧ Pair (runtimesOf result.1) result.2 after.2

-- The state in which submit or a woken waiter goes on, seen from both sides.
structure Ready (cancelled : List RunnerId) (index : Nat) (gates : List Gate) (semaphores : Permit → Nat) (s : Submission)
    (e : Dispatch.Dispatcher) (t : Dispatch.Submission) : Prop where
  apart : (runtimesOf gates).Nodup
  unlisted : ∀ (place : Nat) gate, gates[place]? = some gate → ¬ Listed gate.semaphore index
  stocked : Stocked gates semaphores
  known : ∀ runner, runner ∈ e.cancelled ↔ runner ∈ cancelled
  read : e.submissions[index]? = some t
  pair : Pair (runtimesOf gates) s t

theorem settle_matched {e : Dispatch.Dispatcher} {index : Nat} {t : Dispatch.Submission} {gates : List Gate} {s : Submission}
    (calls : Calls e (placed e index (Dispatch.release e.semaphores t))) (apart : (runtimesOf gates).Nodup)
    (stocked : Stocked gates e.semaphores) (pair : Pair (runtimesOf gates) s t) (unsettled : s.phase ≠ .settled) :
    Matched index e (settle gates s) :=
  ⟨_, calls, settle_stocked apart stocked (fun gate member => pair.known gate (List.mem_append_left _ member)) (pair.acquired unsettled),
    settled_pair s t _ pair.runner⟩

section Advance

variable (cancelled : List RunnerId) (index : Nat) (runner : RunnerId)

theorem taken_matched (rest : List Nat)
    (later : rest ≠ [] → ∀ acquired gates e t, Ready cancelled index gates e.semaphores ⟨runner, acquired, rest, .waiting⟩ e t →
      Matched index e (advance cancelled index runner acquired rest gates))
    (acquired : List Nat) (gate : Nat) (gates : List Gate) (e : Dispatch.Dispatcher) (t : Dispatch.Submission) (taken : Permit → Nat)
    (same : taken = Function.update e.semaphores (permitAt (runtimesOf gates) gate) (e.semaphores (permitAt (runtimesOf gates) gate) - 1))
    (positive : e.semaphores (permitAt (runtimesOf gates) gate) ≠ 0)
    (ready : Ready cancelled index gates taken ⟨runner, acquired, gate :: rest, .waiting⟩ e t) :
    Matched index e (advance cancelled index runner (acquired ++ [gate]) rest gates) := by
  have pair := ready.pair
  have held : t.acquired = acquired.map (permitAt (runtimesOf gates)) := pair.acquired fun bad => by cases bad
  have wanted : t.wanted = (acquired ++ gate :: rest).map (permitAt (runtimesOf gates)) := pair.wanted rfl
  have step := acquire_calls ready.read _ pair.phase (by simp [wanted, held]) positive taken same
  have grown : t.acquired ++ [permitAt (runtimesOf gates) gate] = (acquired ++ [gate]).map (permitAt (runtimesOf gates)) := by
    simp [held]
  have within : ∀ other ∈ (acquired ++ [gate]) ++ rest, other < (runtimesOf gates).length := by
    rw [← List.append_cons]
    exact pair.known
  have count : (t.acquired.length + 1 < t.wanted.length) ↔ rest ≠ [] := by
    rw [held, wanted, ← List.length_pos_iff_ne_nil]
    simp only [List.length_map, List.length_append, List.length_cons]
    omega
  cases rest with
  | nil =>
      rw [if_neg fun more => count.mp more rfl] at step
      have listed : t.runner ∈ e.cancelled ↔ runner ∈ cancelled := by
        rw [pair.runner]
        exact ready.known runner
      rw [advance]
      by_cases stop : runner ∈ cancelled
      · rw [if_pos (listed.mpr stop)] at step
        rw [if_pos stop]
        exact ⟨_, step, settle_stocked ready.apart ready.stocked (fun other member => within other (List.mem_append_left _ member)) grown,
          settled_pair _ _ _ pair.runner⟩
      · rw [if_neg (mt listed.mp stop)] at step
        rw [if_neg stop]
        exact ⟨_, step, ready.stocked, pair.runner, rfl, fun _ => grown, (fun waiting => by cases waiting), within⟩
  | cons other more =>
      rw [if_pos (count.mpr (by simp))] at step
      obtain ⟨after, calls, stocked, paired⟩ := later (by simp) (acquired ++ [gate]) gates
        (placed e index (taken, { t with acquired := t.acquired ++ [permitAt (runtimesOf gates) gate] })) _
        ⟨ready.apart, ready.unlisted, ready.stocked, ready.known, placed_read _ ready.read,
          pair.runner, pair.phase, fun _ => grown, (fun _ => by rw [wanted, List.append_cons]), within⟩
      rw [placed_again] at calls
      exact ⟨after, calls_trans step calls, stocked, paired⟩

theorem advance_matched (remaining : List Nat) (left : remaining ≠ [])
    (acquired : List Nat) (gates : List Gate) (e : Dispatch.Dispatcher) (t : Dispatch.Submission)
    (ready : Ready cancelled index gates e.semaphores ⟨runner, acquired, remaining, .waiting⟩ e t) :
    Matched index e (advance cancelled index runner acquired remaining gates) := by
  induction remaining generalizing acquired gates e t with
  | nil => exact absurd rfl left
  | cons gate rest ih =>
      obtain ⟨apart, unlisted, stocked, known, read, pair⟩ := ready
      have inside : gate < gates.length := by simpa [runtimesOf] using pair.known gate (by simp)
      have found := List.getElem?_eq_getElem inside
      rw [advance, found]
      dsimp only
      cases closed : locked gates[gate].semaphore with
      | true =>
          refine ⟨(e.semaphores, t), ?_, ?_, by rw [if_pos rfl, on_gate_runtimes]; exact pair⟩
          · rw [placed_same read]
            exact calls_refl
          · exact on_gate_kept apart stocked (enqueue index) found (enqueue_stock _ index (unlisted gate _ found))
      | false =>
          obtain ⟨positive, less⟩ := on_gate_taken apart stocked take found (take_stock _ closed)
          simp only [Bool.false_eq_true, ↓reduceIte]
          apply taken_matched cancelled index runner rest ih acquired gate (onGate gates gate take) e t _ rfl <;> rw [on_gate_runtimes]
          · exact positive
          · refine ⟨by rwa [on_gate_runtimes], fun place row there => ?_, less, known, read, by rwa [on_gate_runtimes]⟩
            rw [onGate, List.getElem?_modify] at there
            obtain ⟨old, listed, same⟩ := Option.map_eq_some_iff.mp there
            rw [← same]
            split <;> exact unlisted place old listed

end Advance

theorem on_submission_calls (d next : Dispatcher) (e : Dispatch.Dispatcher) (index : Nat)
    (move : List Gate → Submission → Option (List Gate × Submission)) (same : Same d e) (taken : onSubmission d index move = some next)
    (moves : ∀ s t result, d.submissions[index]? = some s → e.submissions[index]? = some t → Pair (runtimesOf d.gates) s t →
      move d.gates s = some result → runtimesOf result.1 = runtimesOf d.gates ∧ Matched index e result) :
    ∃ last, Calls e last ∧ Same next last := by
  rw [onSubmission] at taken
  cases read : d.submissions[index]? with
  | none =>
      rw [read] at taken
      cases taken
  | some s =>
      rw [read] at taken
      obtain ⟨result, moved, rfl⟩ := Option.map_eq_some_iff.mp taken
      have inside : index < e.submissions.length := by
        rw [same.counted]
        exact (List.getElem?_eq_some_iff.mp read).1
      have there := List.getElem?_eq_getElem inside
      obtain ⟨names, after, calls, stocked, pair⟩ := moves s _ result read there (same.submissions index s _ read there) moved
      rw [names] at pair
      refine ⟨_, calls, by rw [names]; exact same.apart, stocked, same.limits, same.registry, same.runners, same.cancelled,
        by simp [placed, same.counted], ?_⟩
      rw [names]
      intro place s' t' early late
      by_cases here : index = place
      · subst here
        rw [List.getElem?_set_self (List.getElem?_eq_some_iff.mp read).1] at early
        cases early
        cases Option.some.inj ((placed_read after there).symm.trans late)
        exact pair
      · rw [List.getElem?_set_ne here] at early
        exact same.submissions place s' t' early ((List.getElem?_set_ne here).symm.trans late)

section Moves

variable {d : Dispatcher} {e : Dispatch.Dispatcher} {index : Nat} {s : Submission} {t : Dispatch.Submission}
variable {result : List Gate × Submission} (same : Same d e) (read : e.submissions[index]? = some t)
variable (pair : Pair (runtimesOf d.gates) s t)

include same read pair

theorem resume_matched (records : Dict RuntimeId RuntimeRecord) (inv : GateInvariant records d)
    (own : d.submissions[index]? = some s) (taken : resume d.cancelled index d.gates s = some result) :
    runtimesOf result.1 = runtimesOf d.gates ∧ Matched index e result := by
  unfold resume at taken
  split at taken
  · rename_i gate rest waiting remaining
    have names (ticket : Ticket) := on_gate_runtimes d.gates gate (leave index ticket)
    have withdrawn (ticket : Ticket) (held : ticketOf d.gates gate index = some ticket) (lost : ticket ≠ .granted) :
        Matched index e (settle (onGate d.gates gate (leave index ticket)) s) := by
      obtain ⟨found, there, waiter⟩ := Option.bind_eq_some_iff.mp held
      have left := leave_stock found.semaphore index ticket waiter
      rw [if_neg lost] at left
      exact settle_matched (withdrawn_calls read (.inl (pair.phase.trans (by rw [waiting]; rfl)))) (by rw [names]; exact same.apart)
        (on_gate_kept same.apart same.stocked _ there left) (by rwa [names]) (by simp [waiting])
    split at taken
    · rename_i ticket
      cases Option.some.inj taken
      refine ⟨by rw [advance_runtimes, names], ?_⟩
      obtain ⟨found, there, waiter⟩ := Option.bind_eq_some_iff.mp ticket
      have left := leave_stock found.semaphore index .granted waiter
      obtain ⟨positive, less⟩ := on_gate_taken same.apart same.stocked _ there left
      apply taken_matched d.cancelled index s.runner rest (advance_matched d.cancelled index s.runner rest) s.acquired gate _ e t _ rfl
      · rwa [names]
      · rw [names]
        refine ⟨by rw [names]; exact same.apart, fun place row there listed => ?_, less, same.cancelled, read, ?_⟩
        · rw [onGate, List.getElem?_modify] at there
          obtain ⟨old, known, rfl⟩ := Option.map_eq_some_iff.mp there
          split at listed
          · exact ((leave_listed old.semaphore index index .granted).mp listed).1 rfl
          · rename_i other
            obtain ⟨holder, found, _, tail, next⟩ := (inv.gates place old known).listed index listed
            cases Option.some.inj (own.symm.trans found)
            exact other (List.cons.inj (remaining.symm.trans next)).1
        · rw [names, ← remaining, ← waiting]
          exact pair
    · rename_i ticket
      cases Option.some.inj taken
      exact ⟨by rw [settle_runtimes, names], withdrawn .cancelled ticket (by simp)⟩
    · rename_i ticket
      cases Option.some.inj taken
      exact ⟨by rw [settle_runtimes, names], withdrawn .revoked ticket (by simp)⟩
    · cases taken
  · cases taken

theorem reserve_matched (accepted : Bool) (taken : reserve accepted d.gates s = some result) :
    runtimesOf result.1 = runtimesOf d.gates ∧ Matched index e result := by
  by_cases reserving : s.phase = .reserving
  · have phase : t.phase = .reserving := pair.phase.trans (by rw [reserving]; rfl)
    have unsettled : s.phase ≠ .settled := by simp [reserving]
    rw [reserve, if_pos reserving] at taken
    have call (after) (moved : Dispatch.reserve accepted e t = some after) : Calls e (placed e index after) :=
      moved_call read (.reserve index accepted) (Dispatch.reserve accepted) trivial rfl moved
    rw [Dispatch.reserve, if_pos phase] at call
    cases accepted <;> cases Option.some.inj taken
    · exact ⟨settle_runtimes d.gates s, settle_matched (call _ rfl) same.apart same.stocked pair unsettled⟩
    · exact ⟨rfl, _, call _ rfl, same.stocked, pair.runner, rfl, fun _ => pair.acquired unsettled, (fun waiting => by cases waiting),
        pair.known⟩
  · rw [reserve, if_neg reserving] at taken
    cases taken

-- The task of an executing submission is cancelled before it starts, which ends it.
theorem callback_matched (taken : callback d.gates s = some result) :
    runtimesOf result.1 = runtimesOf d.gates ∧ Matched index e result := by
  by_cases executing : s.phase = .executing
  · have phase : t.phase = .created := pair.phase.trans (by rw [executing]; rfl)
    rw [callback, if_pos executing] at taken
    cases Option.some.inj taken
    refine ⟨settle_runtimes d.gates s, settle_matched ?_ same.apart same.stocked pair (by simp [executing])⟩
    have ended := moved_call read (.cancelTask index) Dispatch.cancelTask (unforced_task read (by simp [phase])) rfl
      (by rw [Dispatch.cancelTask, phase])
    simp only [Dispatch.interrupt, phase] at ended
    have released := moved_call (placed_read (e.semaphores, { t with phase := .ended }) read) (.callback index) Dispatch.callback
      trivial rfl (by rw [Dispatch.callback, if_pos rfl])
    rw [placed_again] at released
    exact calls_trans ended released
  · rw [callback, if_neg executing] at taken
    cases taken

theorem cancel_task_matched (taken : cancelTask index d.gates s = some result) :
    runtimesOf result.1 = runtimesOf d.gates ∧ Matched index e result := by
  unfold cancelTask at taken
  split at taken
  · rename_i gate rest waiting remaining
    cases Option.some.inj taken
    have inside : gate < d.gates.length := by simpa [runtimesOf] using pair.known gate (by simp [remaining])
    have names := on_gate_runtimes d.gates gate (interrupt index)
    refine ⟨names, (e.semaphores, t), ?_, ?_, by rwa [names]⟩
    · rw [placed_same read]
      exact calls_refl
    · exact on_gate_kept same.apart same.stocked (interrupt index) (List.getElem?_eq_getElem inside) (interrupt_stock _ index)
  · rename_i reserving
    cases Option.some.inj taken
    refine ⟨settle_runtimes d.gates s, settle_matched ?_ same.apart same.stocked pair (by simp [reserving])⟩
    exact withdrawn_calls read (.inr (pair.phase.trans (by rw [reserving]; rfl)))
  · cases taken

end Moves

theorem wanted_permits (d : Dispatcher) (runtimes : List RuntimeId) (gates : List Nat)
    (registry : ∀ runtime gate, Dict.get runtime d.runtimeGates = some gate → (runtimesOf d.gates)[gate]? = some (some runtime))
    (found : runtimes.mapM (fun runtime => Dict.get runtime d.runtimeGates) = some gates) :
    gates.map (permitAt (runtimesOf d.gates)) = runtimes.map .gate ∧ (∀ gate ∈ gates, gate < (runtimesOf d.gates).length) ∧
      ∀ runtime ∈ runtimes, Dict.get runtime d.runtimeGates ≠ none := by
  induction runtimes generalizing gates with
  | nil =>
      cases Option.some.inj found
      simp
  | cons runtime rest ih =>
      rw [List.mapM_cons] at found
      obtain ⟨gate, first, others⟩ := Option.bind_eq_some_iff.mp found
      obtain ⟨more, later, joined⟩ := Option.bind_eq_some_iff.mp others
      cases Option.some.inj joined
      obtain ⟨permits, inside, known⟩ := ih more later
      have own := registry runtime gate first
      refine ⟨?_, ?_, ?_⟩
      · rw [List.map_cons, List.map_cons, permits, permitAt, own]
        rfl
      · exact List.forall_mem_cons.mpr ⟨(List.getElem?_eq_some_iff.mp own).1, inside⟩
      · exact List.forall_mem_cons.mpr ⟨by rw [first]; simp, known⟩

variable (records : Dict RuntimeId RuntimeRecord)

theorem submit_calls (d : Dispatcher) (e : Dispatch.Dispatcher) (runner : RunnerId) (inv : GateInvariant records d)
    (same : Same d e) : ∃ last, Calls e last ∧ Same (submit d runner) last := by
  rw [submit]
  cases found : ((Dict.get runner d.runnerRuntimes).getD []).mapM fun runtime => Dict.get runtime d.runtimeGates with
  | none => exact ⟨e, calls_refl, same⟩
  | some gates =>
      obtain ⟨permits, inside, known⟩ := wanted_permits d _ gates inv.registry found
      have capacity := inv.capacity
      let t : Dispatch.Submission := ⟨runner, wantedPermits e runner, [], [], .acquiring, .none, false⟩
      have taken : Dispatch.step e (.submit runner) = some { e with submissions := e.submissions ++ [t] } := by
        rw [Dispatch.step, Dispatch.submit, if_pos]
        intro runtime member
        rw [Dispatch.runtimesOf, same.runners] at member
        exact (same.registry runtime).mpr (known runtime member)
      have unlisted : ∀ (place : Nat) gate, d.gates[place]? = some gate → ¬ Listed gate.semaphore d.submissions.length := by
        intro place gate there listed
        obtain ⟨s, read, _⟩ := (inv.gates place gate there).listed _ listed
        rw [List.getElem?_eq_none (Nat.le_refl _)] at read
        cases read
      have pair : Pair (runtimesOf d.gates) ⟨runner, [], gates ++ [0], .waiting⟩ t := by
        refine ⟨rfl, rfl, fun _ => rfl, fun _ => ?_, ?_⟩
        · rw [List.nil_append, List.map_append, permits, List.map_singleton, permitAt, capacity]
          simp only [t, wantedPermits, Dispatch.runtimesOf, same.runners]
          rfl
        · intro gate (member : gate ∈ gates ++ [0])
          rcases List.mem_append.mp member with listed | last
          · exact inside gate listed
          · rw [List.mem_singleton.mp last]
            exact (List.getElem?_eq_some_iff.mp capacity).1
      obtain ⟨after, calls, stocked, paired⟩ := advance_matched d.cancelled d.submissions.length runner (gates ++ [0]) (by simp)
        [] d.gates { e with submissions := e.submissions ++ [t] } t
        ⟨same.apart, unlisted, same.stocked, same.cancelled, by simp [← same.counted], pair⟩
      refine ⟨_, calls_cons (.submit runner) trivial taken calls, ?_⟩
      have names := advance_runtimes d.cancelled d.submissions.length runner (gates ++ [0]) [] d.gates
      rw [names] at paired
      refine ⟨by rw [names]; exact same.apart, stocked, same.limits, same.registry, same.runners, same.cancelled,
        by simp [placed, same.counted], ?_⟩
      rw [names]
      intro index s' t' early late
      simp only [placed, ← same.counted, List.set_append_right _ _ (Nat.le_refl _), Nat.sub_self, List.set_cons_zero] at late
      rcases Nat.lt_or_ge index d.submissions.length with old | beyond
      · rw [List.getElem?_append_left old] at early
        rw [List.getElem?_append_left (same.counted ▸ old)] at late
        exact same.submissions index s' t' early late
      · rw [List.getElem?_append_right beyond] at early
        rw [List.getElem?_append_right (same.counted ▸ beyond), same.counted] at late
        cases place : index - d.submissions.length with
        | zero =>
            rw [place] at early late
            cases early
            cases late
            exact paired
        | succ => simp [place] at early

theorem cancel_same (d : Dispatcher) (e : Dispatch.Dispatcher) (runner : RunnerId) (same : Same d e) :
    Same { d with cancelled := runner :: d.cancelled }
      { e with cancelled := if runner ∈ e.cancelled then e.cancelled else e.cancelled ++ [runner] } := by
  refine ⟨same.apart, same.stocked, same.limits, same.registry, same.runners, fun other => ?_, same.counted, same.submissions⟩
  have known := same.cancelled other
  by_cases member : runner ∈ e.cancelled
  · simp only [if_pos member, List.mem_cons, ← known]
    exact ⟨.inr, fun either => either.elim (fun here => here ▸ member) id⟩
  · simp [if_neg member, ← known, or_comm]

theorem unregister_same (d : Dispatcher) (e : Dispatch.Dispatcher) (runner : RunnerId) (same : Same d e) :
    Same (unregister d runner) (Dispatch.unregister e runner) := by
  refine ⟨same.apart, same.stocked, ?_, fun runtime => ?_, ?_, fun other => ?_, same.counted, same.submissions⟩
  · simp only [unregister, Dispatch.unregister, Dispatch.runtimesOf, same.limits, same.runners]
  · simp only [unregister, Dispatch.unregister, Dispatch.runtimesOf, same.runners, List.mem_filter, same.registry]
    rw [dict_get_filter d.runtimeGates (fun id => decide (¬ (id ∈ (Dict.get runner d.runnerRuntimes).getD [] ∧
      ∀ entry ∈ Dict.pop runner d.runnerRuntimes, id ∉ entry.2))) runtime]
    split <;> rename_i orphan <;> simp only [decide_eq_true_eq] at orphan ⊢
    · exact and_iff_left orphan
    · exact ⟨fun both => absurd both.2 orphan, fun bad => absurd rfl bad⟩
  · simp only [unregister, Dispatch.unregister, same.runners]
  · simp only [unregister, Dispatch.unregister, List.mem_filter, same.cancelled]

def Event.registers : Event → Bool
  | .register _ _ => true
  | _ => false

theorem step_calls (d next : Dispatcher) (e : Dispatch.Dispatcher) (event : Event) (inv : GateInvariant records d)
    (same : Same d e) (later : event.registers = false) (taken : step records d event = some next) :
    ∃ last, Calls e last ∧ Same next last := by
  cases event with
  | register => cases later
  | submit runner =>
      cases Option.some.inj taken
      exact submit_calls records d e runner inv same
  | resume index =>
      exact on_submission_calls d next e index _ same taken fun s t result own read pair =>
        resume_matched same read pair records inv own
  | reserve index accepted =>
      exact on_submission_calls d next e index _ same taken fun s t result _ read pair => reserve_matched same read pair accepted
  | callback index =>
      exact on_submission_calls d next e index _ same taken fun s t result _ read pair => callback_matched same read pair
  | cancelTask index =>
      exact on_submission_calls d next e index _ same taken fun s t result _ read pair => cancel_task_matched same read pair
  | cancel runner =>
      cases Option.some.inj taken
      exact ⟨_, calls_cons (.cancel runner) trivial rfl calls_refl, cancel_same d e runner same⟩
  | unregister runner =>
      cases Option.some.inj taken
      exact ⟨_, calls_cons (.unregister runner) trivial rfl calls_refl, unregister_same d e runner same⟩

-- What the registrations made before the run add: every gate is registered and no permit is asked for.
structure Opening (d : Dispatcher) (e : Dispatch.Dispatcher) : Prop where
  same : Same d e
  known : ∀ runtime, some runtime ∈ Gates.runtimesOf d.gates ↔ runtime ∈ e.runtimeGates
  idle : d.submissions = []

theorem opening_initial (capacity : Nat) : Opening (initial capacity) (Dispatch.fresh capacity) := by
  refine ⟨⟨by simp [initial, runtimesOf], fun gate member => ?_, rfl, fun _ => by simp [initial, Dispatch.fresh, Dict.get], rfl,
    fun _ => Iff.rfl, rfl, fun index s t read => by simp [initial] at read⟩,
    fun runtime => by simp [initial, Dispatch.fresh, runtimesOf], rfl⟩
  cases List.mem_singleton.mp member
  rfl

theorem register_limit_opening (d : Dispatcher) (e after : Dispatch.Dispatcher) (runtime : RuntimeId) (limit : Nat)
    (opening : Opening d e) (taken : registerLimit e (runtime, limit) = .ok after) :
    ¬ limit < 1 ∧ (Dict.get runtime d.runtimeLimits).getD limit = limit ∧
      Opening (setGate runtime limit { d with runtimeLimits := Dict.put runtime limit d.runtimeLimits }) after := by
  obtain ⟨same, known, idle⟩ := opening
  have listed := same.registry runtime
  unfold registerLimit at taken
  split at taken
  · cases taken
  · rename_i positive
    split at taken
    · cases taken
    · rename_i kept
      cases taken
      rw [same.limits] at kept
      refine ⟨positive, not_not.mp kept, ?_⟩
      unfold setGate
      dsimp only
      split
      · rename_i gate found
        simp only [if_pos (listed.mpr (by rw [found]; simp))]
        exact ⟨⟨same.apart, same.stocked, by rw [same.limits], same.registry, same.runners, same.cancelled, same.counted,
          same.submissions⟩, known, idle⟩
      · rename_i absent
        have fresh : runtime ∉ e.runtimeGates := fun member => listed.mp member absent
        have unused : some runtime ∉ runtimesOf d.gates := fun member => fresh ((known runtime).mp member)
        have grown : runtimesOf (d.gates ++ [⟨some runtime, limit, Semaphores.fresh limit⟩]) = runtimesOf d.gates ++ [some runtime] := by
          rw [runtimesOf, List.map_append]
          rfl
        simp only [if_neg fresh]
        refine ⟨⟨?_, ?_, by rw [same.limits], fun other => ?_, same.runners, same.cancelled, same.counted, ?_⟩, fun other => ?_, idle⟩
        · rw [grown]
          exact List.nodup_append.mpr ⟨same.apart, by simp, by grind⟩
        · apply forall_append
          · intro gate member
            rw [← same.stocked gate member]
            apply Function.update_of_ne
            intro equal
            have owner : gate.runtime = some runtime := permit_of_apart equal
            exact unused (owner ▸ List.mem_map_of_mem member)
          · exact Function.update_self _ _ _
        · rw [dict_get_put, List.mem_append, List.mem_singleton, same.registry other]
          by_cases here : other = runtime <;> simp [here]
        · rw [idle]
          intro index s t read
          cases read
        · rw [grown, List.mem_append, List.mem_append, known other]
          simp

theorem register_limits_opening (limits : Dict RuntimeId Nat) (d : Dispatcher) (e after : Dispatch.Dispatcher) (opening : Opening d e)
    (taken : limits.foldlM registerLimit e = .ok after) :
    (registerLimits limits d).2 = none ∧ Opening (registerLimits limits d).1 after := by
  induction limits generalizing d e with
  | nil =>
      cases taken
      exact ⟨rfl, opening⟩
  | cons entry rest ih =>
      obtain ⟨middle, first, others⟩ := (fold_ok _ _ _ _ _).mp taken
      obtain ⟨positive, kept, next⟩ := register_limit_opening d e middle entry.1 entry.2 opening first
      rw [registerLimits, if_neg positive, if_neg (not_not.mpr kept)]
      exact ih _ middle next others

theorem registered_opening (runners : List (RunnerId × Dict RuntimeId Nat)) (d : Dispatcher) (e origin : Dispatch.Dispatcher)
    (opening : Opening d e) (taken : runners.foldlM (fun e entry => Dispatch.register e entry.1 entry.2) e = .ok origin) :
    Opening (runners.foldl (fun d entry => (register d entry.1 entry.2).1) d) origin := by
  induction runners generalizing d e with
  | nil =>
      cases taken
      exact opening
  | cons entry rest ih =>
      obtain ⟨middle, first, others⟩ := (fold_ok _ _ _ _ _).mp taken
      refine ih (register d entry.1 entry.2).1 middle ?_ others
      obtain ⟨limited, folded, finished⟩ := (bind_ok _ _ _).mp first
      cases finished
      obtain ⟨fine, same, known, idle⟩ := register_limits_opening entry.2 d e limited opening folded
      unfold register
      split
      · rename_i outcome
        rw [outcome] at fine
        cases fine
      · rename_i next outcome
        rw [outcome] at same known idle
        exact ⟨⟨same.apart, same.stocked, same.limits, same.registry, by rw [same.runners], same.cancelled, same.counted,
          same.submissions⟩, known, idle⟩

-- Every run of the gates after the registrations is a run of the permits.
theorem gates_refine_dispatch (capacity : Nat) (runners : List (RunnerId × Dict RuntimeId Nat)) (origin : Dispatch.Dispatcher)
    (setup : registered capacity runners = .ok origin)
    (chains : ∀ entry ∈ runners, ∃ runtime, runtimeLimits records runtime = .ok entry.2) (events : List Event)
    (later : ∀ event ∈ events, event.registers = false) (d : Dispatcher)
    (reached : run (step records) (runners.foldl (fun d entry => (register d entry.1 entry.2).1) (initial capacity)) events = some d) :
    ∃ e, Calls origin e ∧ Same d e := by
  obtain ⟨positive, taken⟩ := (checked_ok _ _ _ _).mp setup
  have opening := registered_opening runners (initial capacity) (Dispatch.fresh capacity) origin (opening_initial capacity) taken
  have inv : GateInvariant records (runners.foldl (fun d entry => (register d entry.1 entry.2).1) (initial capacity)) := by
    refine List.foldlRecOn runners _ (initial_invariant records capacity (Nat.not_lt.mp positive)) ?_
    intro before held entry member
    obtain ⟨runtime, read⟩ := chains entry member
    exact register_invariant records before entry.1 runtime entry.2 (runtime_limits_chain records runtime entry.2 read) held
  refine (run_keeps (step records) (fun _ event => event.registers = false)
    (fun d => GateInvariant records d ∧ ∃ e, Calls origin e ∧ Same d e) (fun before event after held unregistered taken => ?_) events _ d
    ⟨inv, origin, calls_refl, opening.same⟩ (every_step_events _ _ events _ later) reached).2
  obtain ⟨inv, e, calls, same⟩ := held
  obtain ⟨last, more, agreed⟩ := step_calls records before after e event inv same unregistered taken
  exact ⟨step_invariant records before event after inv taken, last, calls_trans calls more, agreed⟩

end LlmperfOrchestrator.Gates

import LlmperfOrchestrator.Runtime.GateInvariants

set_option autoImplicit false

namespace LlmperfOrchestrator.Gates

open Runs Tables Semaphores Dispatch

theorem leave_ok (gates : List Gate) (s : Submission) (held : Nat → Nat) (base : Nat → Nat → Prop) (index gate : Nat)
    (rest : List Nat) (ticket : Ticket) (remaining : s.remaining = gate :: rest) (read : ticketOf gates gate index = some ticket)
    (owed : Owed gates held base index s) :
    GatesOk (onGate gates gate (leave index ticket))
      (fun other => held other + (if ticket = .granted then s.acquired ++ [gate] else s.acquired).count other) base := by
  refine on_gate_ok gates gate (leave index ticket) _ _ _ base owed ?_ ?_
  · intro other different
    constructor
    · by_cases granted : ticket = .granted
      · rw [if_pos granted, List.count_append, List.count_cons_of_ne (Ne.symm different), List.count_nil, Nat.add_zero]
      · rw [if_neg granted]
    · intro client waiting
      rcases waiting with others | ⟨_, _, tail, here⟩
      · exact others
      · rw [remaining] at here
        exact absurd (List.cons.inj here).1 (Ne.symm different)
  · intro found there before
    have waiter : found.semaphore.waiters.get index = some ticket := by
      rw [ticketOf, there] at read
      exact read
    have left := leave_stock found.semaphore index ticket waiter
    have stocked := before.stocked
    refine ⟨before.positive, ?_, leave_served found.semaphore index ticket, ?_⟩
    · by_cases granted : ticket = .granted
      · simp only [if_pos granted, List.count_append, List.count_singleton_self] at left ⊢
        omega
      · simp only [if_neg granted] at left ⊢
        omega
    · intro client listed
      obtain ⟨different, earlier⟩ := (leave_listed found.semaphore index client ticket).mp listed
      rcases before.listed client earlier with others | ⟨same, _⟩
      · exact others
      · exact absurd same different

variable (records : Dict RuntimeId RuntimeRecord)

theorem resume_keeps (cancelled : List RunnerId) (index : Nat) (gates : List Gate) (s : Submission)
    (result : List Gate × Submission) (held : Nat → Nat) (base : Nat → Nat → Prop)
    (ok : SubmissionOk records (runtimesOf gates) s) (taken : resume cancelled index gates s = some result)
    (apart : ∀ gate, ¬ base gate index) (owed : Owed gates held base index s) :
    Owed result.1 held base index result.2 ∧ runtimesOf result.1 = runtimesOf gates ∧
      SubmissionOk records (runtimesOf gates) result.2 := by
  unfold resume at taken
  split at taken
  · rename_i gate rest waiting remaining
    split at taken
    · rename_i ticket
      cases Option.some.inj taken
      have left := leave_ok gates s held base index gate rest .granted remaining ticket owed
      have ranked := ok.ranked
      rw [remaining, List.append_cons] at ranked
      exact ⟨advance_owed cancelled index s.runner held base apart rest (s.acquired ++ [gate]) _ left,
        by rw [advance_runtimes, on_gate_runtimes],
        advance_submission records (runtimesOf gates) cancelled index s.runner rest (s.acquired ++ [gate]) _ ranked⟩
    · rename_i ticket
      cases Option.some.inj taken
      have left := leave_ok gates s held base index gate rest .cancelled remaining ticket owed
      exact ⟨settle_owed _ held base index s left, by rw [settle_runtimes, on_gate_runtimes], settle_submission records _ _ s⟩
    · rename_i ticket
      cases Option.some.inj taken
      have left := leave_ok gates s held base index gate rest .revoked remaining ticket owed
      exact ⟨settle_owed _ held base index s left, by rw [settle_runtimes, on_gate_runtimes], settle_submission records _ _ s⟩
    · cases taken
  · cases taken

theorem settle_keeps (index : Nat) (gates : List Gate) (s : Submission) (held : Nat → Nat) (base : Nat → Nat → Prop)
    (idle : s.phase ≠ .waiting) (owed : Owed gates held base index s) :
    Owed (settle gates s).1 held base index (settle gates s).2 ∧ runtimesOf (settle gates s).1 = runtimesOf gates ∧
      SubmissionOk records (runtimesOf gates) (settle gates s).2 := by
  refine ⟨settle_owed gates held base index s ?_, settle_runtimes gates s, settle_submission records _ gates s⟩
  intro gate found read
  have here := owed gate found read
  refine ⟨here.positive, here.stocked, here.served, ?_⟩
  intro client listed
  rcases here.listed client listed with others | ⟨_, waiting, _⟩
  · exact others
  · exact absurd waiting idle

theorem reserve_keeps (accepted : Bool) (index : Nat) (gates : List Gate) (s : Submission) (result : List Gate × Submission)
    (held : Nat → Nat) (base : Nat → Nat → Prop) (ok : SubmissionOk records (runtimesOf gates) s)
    (taken : reserve accepted gates s = some result) (owed : Owed gates held base index s) :
    Owed result.1 held base index result.2 ∧ runtimesOf result.1 = runtimesOf gates ∧
      SubmissionOk records (runtimesOf gates) result.2 := by
  by_cases reserving : s.phase = .reserving
  · have idle : s.phase ≠ .waiting := by
      rw [reserving]
      exact fun same => by cases same
    rw [reserve, if_pos reserving] at taken
    cases accepted with
    | false =>
        cases Option.some.inj taken
        exact settle_keeps records index gates s held base idle owed
    | true =>
        cases Option.some.inj taken
        refine ⟨?_, rfl, ok.ranked, (fun waiting => by cases waiting), fun settled => by cases settled⟩
        intro gate found read
        have here := owed gate found read
        refine ⟨here.positive, here.stocked, here.served, ?_⟩
        intro client listed
        rcases here.listed client listed with others | ⟨_, waiting, _⟩
        · exact .inl others
        · exact absurd waiting idle
  · rw [reserve, if_neg reserving] at taken
    cases taken

theorem callback_keeps (index : Nat) (gates : List Gate) (s : Submission) (result : List Gate × Submission) (held : Nat → Nat)
    (base : Nat → Nat → Prop) (taken : callback gates s = some result) (owed : Owed gates held base index s) :
    Owed result.1 held base index result.2 ∧ runtimesOf result.1 = runtimesOf gates ∧
      SubmissionOk records (runtimesOf gates) result.2 := by
  by_cases executing : s.phase = .executing
  · rw [callback, if_pos executing] at taken
    cases Option.some.inj taken
    refine settle_keeps records index gates s held base ?_ owed
    rw [executing]
    exact fun same => by cases same
  · rw [callback, if_neg executing] at taken
    cases taken

theorem cancel_task_keeps (index : Nat) (gates : List Gate) (s : Submission) (result : List Gate × Submission) (held : Nat → Nat)
    (base : Nat → Nat → Prop) (ok : SubmissionOk records (runtimesOf gates) s) (taken : cancelTask index gates s = some result)
    (owed : Owed gates held base index s) :
    Owed result.1 held base index result.2 ∧ runtimesOf result.1 = runtimesOf gates ∧
      SubmissionOk records (runtimesOf gates) result.2 := by
  unfold cancelTask at taken
  split at taken
  · rename_i gate rest _ _
    cases Option.some.inj taken
    refine ⟨?_, on_gate_runtimes gates gate (interrupt index), ok⟩
    refine on_gate_ok gates gate (interrupt index) _ _ _ _ owed ?_ ?_
    · exact fun other _ => ⟨rfl, fun client waiting => waiting⟩
    · intro found _ before
      refine ⟨before.positive, ?_, interrupt_served found.semaphore index before.served, ?_⟩
      · simp only [interrupt_stock]
        exact before.stocked
      · intro client listed
        exact before.listed client ((interrupt_listed found.semaphore index client).mp listed)
  · rename_i reserving
    cases Option.some.inj taken
    refine settle_keeps records index gates s held base ?_ owed
    rw [reserving]
    exact fun same => by cases same
  · cases taken

theorem set_gate_invariant (runtime : RuntimeId) (limit : Nat) (d : Dispatcher) (positive : 0 < limit)
    (inv : GateInvariant records d) : GateInvariant records (setGate runtime limit d) := by
  unfold setGate
  split
  · exact inv
  · have grown : runtimesOf (d.gates ++ [⟨some runtime, limit, fresh limit⟩]) = runtimesOf d.gates ++ [some runtime] := by
      rw [runtimesOf, List.map_append]
      rfl
    refine ⟨?_, ?_, ?_, ?_, inv.chains⟩
    · intro index gate read
      rcases Nat.lt_or_ge index d.gates.length with old | new
      · rw [List.getElem?_append_left old] at read
        exact inv.gates index gate read
      · rw [List.getElem?_append_right new] at read
        obtain ⟨place, same⟩ := List.getElem?_eq_some_iff.mp read
        have last : index = d.gates.length := by
          simp only [List.length_singleton] at place
          omega
        have here : gate = ⟨some runtime, limit, fresh limit⟩ := by
          rw [← same]
          exact List.getElem_singleton _
        -- nobody holds a permit of a gate that was not there
        have none : heldOf d.submissions index = 0 := by
          apply List.sum_eq_zero_iff_forall_eq_nat.mpr
          intro share member
          obtain ⟨s, listed, rfl⟩ := List.mem_map.mp member
          apply List.count_eq_zero.mpr
          intro holds
          obtain ⟨rank, level, _⟩ := ranked_before records (runtimesOf d.gates) s.acquired s.remaining (inv.submissions s listed).ranked
            index holds
          have inside : index < (runtimesOf d.gates).length := by
            rcases level with ⟨root, _⟩ | ⟨_, _, found, _⟩
            · exact (List.getElem?_eq_some_iff.mp root).1
            · exact (List.getElem?_eq_some_iff.mp found).1
          rw [runtimesOf, List.length_map] at inside
          omega
        rw [here]
        refine ⟨positive, ?_, fun _ client pending => (by cases pending), fun client listed => absurd rfl listed⟩
        show limit + 0 + heldOf d.submissions index = limit
        omega
    · rw [grown]
      intro s member
      have before := inv.submissions s member
      exact ⟨ranked_append records (runtimesOf d.gates) [some runtime] _ before.ranked, before.waiting, before.settled⟩
    · rw [grown]
      have inside := (List.getElem?_eq_some_iff.mp inv.capacity).1
      exact (List.getElem?_append_left inside).trans inv.capacity
    · rw [grown]
      intro other gate read
      rw [dict_get_put] at read
      by_cases same : other = runtime
      · rw [if_pos same] at read
        cases Option.some.inj read
        have length : (runtimesOf d.gates).length = d.gates.length := List.length_map _
        rw [← length, List.getElem?_concat_length, same]
      · rw [if_neg same] at read
        have found := inv.registry other gate read
        exact (List.getElem?_append_left (List.getElem?_eq_some_iff.mp found).1).trans found

theorem register_limits_invariant (limits : Dict RuntimeId Nat) (d : Dispatcher) (inv : GateInvariant records d) :
    GateInvariant records (registerLimits limits d).1 := by
  induction limits generalizing d with
  | nil => exact inv
  | cons entry rest ih =>
      obtain ⟨runtime, limit⟩ := entry
      rw [registerLimits]
      split
      · exact inv
      · rename_i positive
        split
        · exact inv
        · apply ih
          exact set_gate_invariant records runtime limit _ (Nat.not_lt.mp positive)
            ⟨inv.gates, inv.submissions, inv.capacity, inv.registry, inv.chains⟩

variable (d : Dispatcher)

theorem register_invariant (runner : RunnerId) (start : Option RuntimeId) (limits : Dict RuntimeId Nat)
    (chain : Chain records start limits) (inv : GateInvariant records d) : GateInvariant records (register d runner limits).1 := by
  have after := register_limits_invariant records limits d inv
  unfold register
  split
  · rename_i next _ outcome
    rw [outcome] at after
    exact after
  · rename_i next outcome
    rw [outcome] at after
    refine ⟨after.gates, after.submissions, after.capacity, after.registry, ?_⟩
    intro owner runtimes read
    rw [dict_get_put] at read
    by_cases same : owner = runner
    · rw [if_pos same] at read
      cases Option.some.inj read
      exact ⟨start, limits, chain, rfl⟩
    · rw [if_neg same] at read
      exact after.chains owner runtimes read

theorem wanted_ranked (inv : GateInvariant records d) (start : Option RuntimeId) (chain : Dict RuntimeId Nat)
    (own : Chain records start chain) (before limits : Dict RuntimeId Nat) (split : chain = before ++ limits) (gates : List Nat)
    (found : (Dict.keys limits).mapM (fun runtime => Dict.get runtime d.runtimeGates) = some gates) :
    gates.length = limits.length ∧ Ranked records (runtimesOf d.gates) (gates ++ [0]) := by
  induction limits generalizing before gates with
  | nil =>
      cases Option.some.inj found
      exact ⟨rfl, .inl ⟨inv.capacity, rfl⟩, trivial⟩
  | cons entry rest ih =>
      obtain ⟨runtime, limit⟩ := entry
      rw [Dict.keys, List.map_cons, List.mapM_cons] at found
      obtain ⟨gate, read, others⟩ := Option.bind_eq_some_iff.mp found
      obtain ⟨later, listed, same⟩ := Option.bind_eq_some_iff.mp others
      cases Option.some.inj same
      obtain ⟨length, ranked⟩ := ih (before ++ [(runtime, limit)]) (by rw [split, List.append_assoc]; rfl) later listed
      refine ⟨by rw [List.length_cons, List.length_cons, length], .inr ⟨runtime, (runtime, limit) :: rest, ?_, ?_, ?_⟩, ranked⟩
      · exact inv.registry runtime gate read
      · exact chain_suffix records start chain own before rest runtime limit split
      · show (later ++ [0]).length = rest.length + 1
        rw [List.length_append, length]
        rfl

theorem submit_invariant (runner : RunnerId) (inv : GateInvariant records d) : GateInvariant records (submit d runner) := by
  unfold submit
  split
  · exact inv
  · rename_i gates found
    have ranked : Ranked records (runtimesOf d.gates) (gates ++ [0]) := by
      cases own : Dict.get runner d.runnerRuntimes with
      | none =>
          rw [own] at found
          cases Option.some.inj found
          exact ⟨.inl ⟨inv.capacity, rfl⟩, trivial⟩
      | some runtimes =>
          obtain ⟨start, limits, chain, keys⟩ := inv.chains runner runtimes own
          rw [own, Option.getD_some, ← keys] at found
          exact (wanted_ranked records d inv start limits chain [] limits rfl gates found).2
    have apart : ∀ gate, ¬ waitsFor d.submissions gate d.submissions.length := by
      intro gate waits
      obtain ⟨s, read, _⟩ := waits
      rw [List.getElem?_eq_none (Nat.le_refl _)] at read
      cases read
    have start : GatesOk d.gates (fun gate => heldOf d.submissions gate + ([] : List Nat).count gate) (waitsFor d.submissions) := inv.gates
    have owed := advance_owed d.cancelled d.submissions.length runner _ _ apart (gates ++ [0]) [] d.gates start
    have kept := advance_runtimes d.cancelled d.submissions.length runner (gates ++ [0]) [] d.gates
    have ok := advance_submission records (runtimesOf d.gates) d.cancelled d.submissions.length runner (gates ++ [0]) [] d.gates ranked
    refine ⟨?_, ?_, ?_, ?_, inv.chains⟩
    · intro gate here read
      have after := owed gate here read
      refine ⟨after.positive, ?_, after.served, ?_⟩
      · rw [heldOf, total_append, total_cons, total_nil]
        exact after.stocked
      · intro client listed
        rcases after.listed client listed with ⟨s, found, waits⟩ | ⟨last, waits⟩
        · exact ⟨s, (List.getElem?_append_left (List.getElem?_eq_some_iff.mp found).1).trans found, waits⟩
        · exact ⟨_, by rw [last, List.getElem?_concat_length], waits⟩
    · rw [kept]
      exact forall_append _ d.submissions _ inv.submissions ok
    · rw [kept]
      exact inv.capacity
    · rw [kept]
      exact inv.registry

theorem unregister_invariant (runner : RunnerId) (inv : GateInvariant records d) : GateInvariant records (unregister d runner) := by
  refine ⟨inv.gates, inv.submissions, inv.capacity, ?_, ?_⟩
  · intro runtime gate read
    have kept : (if _ then Dict.get runtime d.runtimeGates else none) = some gate :=
      (dict_get_filter d.runtimeGates (fun id => decide (¬ (id ∈ (Dict.get runner d.runnerRuntimes).getD [] ∧
        ∀ entry ∈ Dict.pop runner d.runnerRuntimes, id ∉ entry.2))) runtime).symm.trans read
    split at kept
    · exact inv.registry runtime gate kept
    · cases kept
  · intro owner runtimes read
    have popped : Dict.get owner (Dict.pop runner d.runnerRuntimes) = some runtimes := read
    rw [dict_get_pop] at popped
    by_cases same : owner = runner
    · rw [if_pos same] at popped
      cases popped
    · rw [if_neg same] at popped
      exact inv.chains owner runtimes popped

theorem step_invariant (event : Event) (next : Dispatcher) (inv : GateInvariant records d)
    (taken : step records d event = some next) : GateInvariant records next := by
  cases event with
  | register runner runtime =>
      rw [step] at taken
      split at taken
      · cases Option.some.inj taken
        exact inv
      · rename_i limits read
        cases Option.some.inj taken
        exact register_invariant records d runner runtime limits (runtime_limits_chain records runtime limits read) inv
  | submit runner =>
      cases Option.some.inj taken
      exact submit_invariant records d runner inv
  | resume index =>
      exact on_submission_invariant records d next index _ inv taken fun s result held base ok moved apart owed =>
        resume_keeps records d.cancelled index d.gates s result held base ok moved apart owed
  | reserve index accepted =>
      exact on_submission_invariant records d next index _ inv taken fun s result held base ok moved _ owed =>
        reserve_keeps records accepted index d.gates s result held base ok moved owed
  | callback index =>
      exact on_submission_invariant records d next index _ inv taken fun s result held base _ moved _ owed =>
        callback_keeps records index d.gates s result held base moved owed
  | cancelTask index =>
      exact on_submission_invariant records d next index _ inv taken fun s result held base ok moved _ owed =>
        cancel_task_keeps records index d.gates s result held base ok moved owed
  | cancel runner =>
      cases Option.some.inj taken
      exact ⟨inv.gates, inv.submissions, inv.capacity, inv.registry, inv.chains⟩
  | unregister runner =>
      cases Option.some.inj taken
      exact unregister_invariant records d runner inv

theorem waiting_descends (inv : GateInvariant records d) (index : Nat) (s : Submission) (read : d.submissions[index]? = some s)
    (waiting : s.phase = .waiting) :
    (underWay d ∨ ∃ waiter next, awaits d waiter next ∧ (free d next ∨ granted d next waiter)) ∨
      ∃ (other : Nat) (holder : Submission), d.submissions[other]? = some holder ∧ holder.phase = .waiting ∧
        holder.remaining.length < s.remaining.length := by
  have ok := inv.submissions s (List.mem_of_getElem? read)
  cases remaining : s.remaining with
  | nil => exact absurd remaining (ok.waiting waiting)
  | cons gate rest =>
      have ranked := ranked_suffix records (runtimesOf d.gates) s.acquired s.remaining ok.ranked
      rw [remaining] at ranked
      have level := ranked.1
      have inside : gate < d.gates.length := by
        have place : gate < (runtimesOf d.gates).length := by
          rcases level with ⟨root, _⟩ | ⟨_, _, found, _⟩
          · exact (List.getElem?_eq_some_iff.mp root).1
          · exact (List.getElem?_eq_some_iff.mp found).1
        rwa [runtimesOf, List.length_map] at place
      obtain ⟨found, there⟩ : ∃ found, d.gates[gate]? = some found := ⟨d.gates[gate], List.getElem?_eq_getElem inside⟩
      have here := inv.gates gate found there
      by_cases left : 0 < stock found.semaphore
      · apply Or.inl
        apply Or.inr
        rcases free_or_granted found.semaphore here.served left with ready | ⟨waiter, ticket, held, holds⟩
        · exact ⟨index, gate, ⟨s, rest, read, waiting, remaining⟩, .inl ⟨found, there, ready⟩⟩
        · obtain ⟨other, listed, waits, tail, next⟩ := here.listed waiter (by rw [Listed, held]; simp)
          refine ⟨waiter, gate, ⟨other, tail, listed, waits, next⟩, .inr ⟨ticket, ?_, holds⟩⟩
          rw [ticketOf, there]
          exact held
      · -- every permit of the gate is with a submission
        have some : heldOf d.submissions gate ≠ 0 := by
          have stocked := here.stocked
          have positive := here.positive
          omega
        obtain ⟨holder, member, holds⟩ : ∃ holder ∈ d.submissions, gate ∈ holder.acquired := by
          by_contra nobody
          apply some
          apply List.sum_eq_zero_iff_forall_eq_nat.mpr
          intro share listed
          obtain ⟨other, member, rfl⟩ := List.mem_map.mp listed
          exact List.count_eq_zero.mpr fun holds => nobody ⟨other, member, holds⟩
        have theirs := inv.submissions holder member
        obtain ⟨rank, high, bound⟩ := ranked_before records (runtimesOf d.gates) holder.acquired holder.remaining theirs.ranked gate holds
        have same := level_unique records (runtimesOf d.gates) gate rest.length rank level high
        obtain ⟨other, place⟩ := List.mem_iff_getElem?.mp member
        cases phase : holder.phase with
        | waiting =>
            refine .inr ⟨other, holder, place, phase, ?_⟩
            rw [List.length_cons]
            omega
        | reserving => exact .inl (.inl ⟨holder, member, .inl phase⟩)
        | executing => exact .inl (.inl ⟨holder, member, .inr phase⟩)
        | settled =>
            rw [theirs.settled phase] at holds
            cases holds

theorem gates_progress (records : Dict RuntimeId RuntimeRecord) (capacity : Nat) (events : List Event) (d : Dispatcher)
    (positive : 0 < capacity) (reached : run (step records) (initial capacity) events = some d) (index : Nat) (s : Submission)
    (read : d.submissions[index]? = some s) (waiting : s.phase = .waiting) :
    (underWay d ∨ ∃ waiter next, awaits d waiter next ∧ (free d next ∨ granted d next waiter)) ∧ 0 ∉ s.acquired := by
  have inv := run_invariant (step records) (GateInvariant records) (step_invariant records) events (initial capacity) d
    (initial_invariant records capacity positive) reached
  constructor
  · apply progress_by_rank (fun s : Submission => ∃ index : Nat, d.submissions[index]? = some s ∧ s.phase = .waiting)
      (fun s => s.remaining.length) _ ?_ s ⟨index, read, waiting⟩
    intro other waits
    obtain ⟨place, found, phase⟩ := waits
    rcases waiting_descends records d inv place other found phase with done | ⟨next, holder, listed, later, lower⟩
    · exact .inl done
    · exact .inr ⟨holder, ⟨next, listed, later⟩, lower⟩
  · -- nothing stands below the capacity
    intro holds
    have ok := inv.submissions s (List.mem_of_getElem? read)
    obtain ⟨rank, level, bound⟩ := ranked_before records (runtimesOf d.gates) s.acquired s.remaining ok.ranked 0 holds
    have bottom := level_unique records (runtimesOf d.gates) 0 rank 0 level (.inl ⟨inv.capacity, rfl⟩)
    have empty : s.remaining = [] := List.eq_nil_of_length_eq_zero (by omega)
    exact ok.waiting waiting empty

def rootAndChild : Dict RuntimeId RuntimeRecord :=
  [("root", ⟨none, some 1, by simp⟩), ("child", ⟨some "root", some 1, by simp⟩)]

def contended : List Event := [.register "a" (some "root"), .register "b" (some "child"), .submit "a", .submit "b"]

theorem contended_progress : ∃ d s, run (step rootAndChild) (initial 1) contended = some d ∧ d.submissions[1]? = some s ∧
    s.acquired = [2] ∧
    ((underWay d ∨ ∃ waiter next, awaits d waiter next ∧ (free d next ∨ granted d next waiter)) ∧ 0 ∉ s.acquired) := by
  have ends : ((run (step rootAndChild) (initial 1) contended).bind fun d => d.submissions[1]?) =
      some ⟨"b", [2], [1, 0], .waiting⟩ := by
    decide +kernel
  obtain ⟨d, reached, read⟩ := Option.bind_eq_some_iff.mp ends
  exact ⟨d, _, reached, read, rfl, gates_progress rootAndChild 1 contended d (by decide) reached 1 _ read rfl⟩

end LlmperfOrchestrator.Gates

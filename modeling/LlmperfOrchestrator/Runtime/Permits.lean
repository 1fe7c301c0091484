import LlmperfOrchestrator.Library.Outcomes
import LlmperfOrchestrator.Runtime.Dispatch

set_option autoImplicit false

namespace LlmperfOrchestrator.Dispatch

open Runs Tables Outcomes

def acquiredOf (permit : Permit) (s : Submission) : Nat := s.acquired.count permit
def returnedOf (permit : Permit) (s : Submission) : Nat := s.returned.count permit

def SubmissionOk (s : Submission) : Prop :=
  match s.phase with
  | .acquiring => s.acquired = s.wanted.take s.acquired.length ∧ s.returned = [] ∧ s.physical = .none ∧ s.reserved = false
  | .reserving => s.acquired = s.wanted ∧ s.returned = [] ∧ s.physical = .none ∧ s.reserved = false
  | .created => s.acquired = s.wanted ∧ s.returned = [] ∧ s.physical = .none ∧ s.reserved = true
  | .shielded => s.acquired = s.wanted ∧ s.returned = [] ∧ s.physical ≠ .none ∧ s.reserved = true
  | .draining => s.acquired = s.wanted ∧ s.returned = [] ∧ s.physical ≠ .none ∧ s.reserved = true
  | .committing => s.acquired = s.wanted ∧ s.returned = [] ∧ s.physical ≠ .inFlight ∧ s.reserved = true
  | .ended => s.acquired = s.wanted ∧ s.returned = [] ∧ s.physical ≠ .inFlight ∧ s.reserved = true
  | .settled => s.returned = s.acquired.reverse ∧ s.physical ≠ .inFlight ∧ (s.reserved = true → s.acquired = s.wanted)

-- A cancellation that reaches _execute while its handler still waits for the
-- physical execution. Every other cancellation is allowed anywhere.
def Forced (s : Submission) : Prop := s.phase = .draining ∧ s.physical = .inFlight

instance (s : Submission) : Decidable (Forced s) := inferInstanceAs (Decidable (_ ∧ _))

def Unforced (d : Dispatcher) : Event → Prop
  | .cancelTask index => ∀ s, d.submissions[index]? = some s → ¬ Forced s
  | .cancelActive runner => ∀ s ∈ d.submissions, s.runner = runner → ¬ Forced s
  | _ => True

instance (d : Dispatcher) (event : Event) : Decidable (Unforced d event) :=
  match event with
  | .cancelTask index =>
      match read : d.submissions[index]? with
      | none => .isTrue fun s found => by simp [read] at found
      | some s => decidable_of_iff (¬ Forced s)
          ⟨fun quiet other found => Option.some.inj (read.symm.trans found) ▸ quiet, fun all => all s read⟩
  | .cancelActive runner => inferInstanceAs (Decidable (∀ s ∈ d.submissions, s.runner = runner → ¬ Forced s))
  | .submit _ | .acquire _ | .reserve _ _ | .start _ | .complete _ _ | .resume _ | .finish _ | .callback _
  | .cancel _ | .unregister _ => .isTrue trivial

structure Move (d : Dispatcher) (s : Submission) (result : (Permit → Nat) × Submission) : Prop where
  runner : result.2.runner = s.runner
  wanted : result.2.wanted = s.wanted
  balance : ∀ permit, result.1 permit + acquiredOf permit result.2 + returnedOf permit s =
    d.semaphores permit + acquiredOf permit s + returnedOf permit result.2
  begins : result.2.physical ≠ .none → s.physical ≠ .none ∨ s.runner ∈ d.environments
  ok : SubmissionOk result.2

theorem release_balance (semaphores : Permit → Nat) (s : Submission) (permit : Permit) :
    (release semaphores s).1 permit + acquiredOf permit (release semaphores s).2 + returnedOf permit s =
      semaphores permit + acquiredOf permit s + returnedOf permit (release semaphores s).2 := by
  simp only [release, acquiredOf, returnedOf, List.count_append, List.count_reverse]
  omega

theorem release_ok (semaphores : Permit → Nat) (s : Submission) (untouched : s.returned = [])
    (finished : s.physical ≠ .inFlight) (complete : s.reserved = true → s.acquired = s.wanted) :
    SubmissionOk (release semaphores s).2 :=
  ⟨by simp [release, untouched], finished, complete⟩

variable (d : Dispatcher) (s : Submission)

theorem release_move (untouched : s.returned = []) (finished : s.physical ≠ .inFlight)
    (complete : s.reserved = true → s.acquired = s.wanted) :
    Move d s (release d.semaphores s) :=
  ⟨rfl, rfl, release_balance d.semaphores s, fun begun => .inl begun, release_ok d.semaphores s untouched finished complete⟩

theorem quiet_move (s moved : Submission) (runner : moved.runner = s.runner) (wanted : moved.wanted = s.wanted)
    (acquired : moved.acquired = s.acquired) (returned : moved.returned = s.returned)
    (begins : moved.physical ≠ .none → s.physical ≠ .none ∨ s.runner ∈ d.environments) (ok : SubmissionOk moved) :
    Move d s (d.semaphores, moved) :=
  ⟨runner, wanted, fun permit => by simp only [acquiredOf, returnedOf, acquired, returned], begins, ok⟩

theorem take_next (wanted : List Permit) (count : Nat) (permit : Permit) (read : wanted[count]? = some permit) :
    wanted.take count ++ [permit] = wanted.take (count + 1) := by
  rw [List.take_add_one, read]
  rfl

variable (result : (Permit → Nat) × Submission)

theorem acquire_move (ok : SubmissionOk s) (taken : acquire d s = some result) : Move d s result := by
  unfold acquire at taken
  split at taken
  case isFalse => cases taken
  case isTrue waiting =>
    simp only [SubmissionOk, waiting] at ok
    obtain ⟨pfx, untouched, idle, unreserved⟩ := ok
    cases read : s.wanted[s.acquired.length]? with
    | none => simp [read] at taken
    | some permit =>
        by_cases empty : d.semaphores permit = 0
        · simp [read, empty] at taken
        · simp only [read, if_neg empty] at taken
          have longer : s.acquired ++ [permit] = s.wanted.take (s.acquired.length + 1) := by
            conv_lhs => rw [pfx]
            exact take_next s.wanted s.acquired.length permit read
          have balance : ∀ p, Function.update d.semaphores permit (d.semaphores permit - 1) p +
              (s.acquired ++ [permit]).count p = d.semaphores p + s.acquired.count p := by
            intro p
            by_cases same : p = permit
            · subst same
              simp only [Function.update_self, List.count_append, List.count_singleton_self]
              omega
            · simp [Function.update_of_ne same, List.count_append, Ne.symm same]
          split at taken
          case isTrue partially =>
            cases Option.some.inj taken
            refine ⟨rfl, rfl, fun p => ?_, fun begun => .inl begun, ?_⟩
            · simpa [acquiredOf, returnedOf] using balance p
            · simpa [SubmissionOk, waiting, untouched, idle, unreserved] using longer
          case isFalse full =>
            have bound := List.getElem?_eq_some_iff.mp read
            have all : s.acquired ++ [permit] = s.wanted := by
              rw [longer, List.take_of_length_le]
              simp only [List.length_append, List.length_singleton] at full
              omega
            split at taken
            · cases Option.some.inj taken
              refine ⟨rfl, rfl, fun p => ?_, fun begun => .inl begun, ?_⟩
              · have returned := release_balance (Function.update d.semaphores permit (d.semaphores permit - 1))
                  { s with acquired := s.acquired ++ [permit] } p
                simp only [acquiredOf, returnedOf] at returned ⊢
                have same := balance p
                omega
              · exact release_ok _ _ untouched (by simp [idle]) (by simp [unreserved])
            · cases Option.some.inj taken
              refine ⟨rfl, rfl, fun p => ?_, fun begun => .inl begun, ?_⟩
              · simpa [acquiredOf, returnedOf] using balance p
              · exact ⟨all, untouched, idle, unreserved⟩

theorem reserve_move (accepted : Bool) (result : (Permit → Nat) × Submission) (ok : SubmissionOk s)
    (taken : reserve accepted d s = some result) : Move d s result := by
  unfold reserve at taken
  split at taken
  case isFalse => cases taken
  case isTrue waiting =>
    simp only [SubmissionOk, waiting] at ok
    obtain ⟨full, untouched, idle, unreserved⟩ := ok
    cases accepted with
    | true =>
        cases Option.some.inj taken
        exact quiet_move d s _ rfl rfl rfl rfl (fun begun => .inl begun) ⟨full, untouched, idle, rfl⟩
    | false =>
        cases Option.some.inj taken
        exact release_move d s untouched (by simp [idle]) (by simp [unreserved])

theorem start_move (ok : SubmissionOk s) (taken : start d s = some result) : Move d s result := by
  unfold start at taken
  split at taken
  case isFalse => cases taken
  case isTrue waiting =>
    simp only [SubmissionOk, waiting] at ok
    obtain ⟨full, untouched, idle, reserved⟩ := ok
    split at taken
    case isTrue present =>
      cases Option.some.inj taken
      exact quiet_move d s _ rfl rfl rfl rfl (fun _ => .inr present) ⟨full, untouched, by simp, reserved⟩
    case isFalse =>
      cases Option.some.inj taken
      exact quiet_move d s _ rfl rfl rfl rfl (fun begun => .inl begun) ⟨full, untouched, by simp [idle], reserved⟩

theorem complete_move (succeeded : Bool) (result : (Permit → Nat) × Submission) (ok : SubmissionOk s)
    (taken : complete succeeded d s = some result) : Move d s result := by
  unfold complete at taken
  split at taken
  case isFalse => cases taken
  case isTrue running =>
    cases Option.some.inj taken
    refine quiet_move d s _ rfl rfl rfl rfl (fun _ => .inl (by simp [running])) ?_
    cases succeeded <;> cases phase : s.phase <;> simp_all [SubmissionOk]

theorem resume_move (ok : SubmissionOk s) (taken : resume d s = some result) : Move d s result := by
  cases phase : s.phase with
  | shielded | draining =>
      simp only [SubmissionOk, phase] at ok
      cases past : s.physical with
      | finished | failed =>
          simp only [resume, phase, past, Option.some.injEq] at taken
          subst taken
          exact quiet_move d s _ rfl rfl rfl rfl (fun _ => .inl (by simp [past])) ⟨ok.1, ok.2.1, by simp, ok.2.2.2⟩
      | none | inFlight => simp [resume, phase, past] at taken
  | acquiring | reserving | created | committing | ended | settled => simp [resume, phase] at taken

theorem finish_move (ok : SubmissionOk s) (taken : finish d s = some result) : Move d s result := by
  unfold finish at taken
  split at taken
  case isFalse => cases taken
  case isTrue waiting =>
    cases Option.some.inj taken
    simp only [SubmissionOk, waiting] at ok
    exact quiet_move d s _ rfl rfl rfl rfl (fun begun => .inl begun) ok

theorem callback_move (ok : SubmissionOk s) (taken : callback d s = some result) : Move d s result := by
  unfold callback at taken
  split at taken
  case isFalse => cases taken
  case isTrue waiting =>
    cases Option.some.inj taken
    simp only [SubmissionOk, waiting] at ok
    exact release_move d s ok.2.1 ok.2.2.1 (fun _ => ok.1)

theorem interrupt_ok (ok : SubmissionOk s) (unforced : ¬ Forced s) : SubmissionOk (interrupt s) := by
  cases phase : s.phase with
  | created | committing => simp_all [interrupt, SubmissionOk]
  | draining =>
      have past : s.physical ≠ .inFlight := fun running => unforced ⟨phase, running⟩
      simp_all [interrupt, SubmissionOk]
  | shielded => simp_all [interrupt, SubmissionOk]
  | acquiring | reserving | ended | settled => simpa [interrupt, phase] using ok

theorem interrupt_keeps : (interrupt s).runner = s.runner ∧ (interrupt s).wanted = s.wanted ∧
    (interrupt s).acquired = s.acquired ∧ (interrupt s).returned = s.returned ∧
    (interrupt s).physical = s.physical ∧ (interrupt s).reserved = s.reserved := by
  cases phase : s.phase <;> simp [interrupt, phase]

theorem cancel_task_move (ok : SubmissionOk s) (unforced : ¬ Forced s) (taken : cancelTask d s = some result) : Move d s result := by
  cases phase : s.phase with
  | acquiring | reserving =>
      simp only [cancelTask, phase, Option.some.injEq] at taken
      subst taken
      simp only [SubmissionOk, phase] at ok
      exact release_move d s ok.2.1 (by simp [ok.2.2.1]) (by simp [ok.2.2.2])
  | ended | settled => simp [cancelTask, phase] at taken
  | created | shielded | draining | committing =>
      simp only [cancelTask, phase, Option.some.injEq] at taken
      subst taken
      obtain ⟨runner, wanted, acquired, returned, physical, _⟩ := interrupt_keeps s
      exact quiet_move d s _ runner wanted acquired returned (fun begun => .inl (physical ▸ begun))
        (interrupt_ok s ok unforced)

def Chained (origin d : Dispatcher) (s : Submission) : Prop :=
  s.runner ∈ d.environments ∨ s.physical ≠ .none → s.wanted = wantedPermits origin s.runner

structure PermitInvariant (origin d : Dispatcher) : Prop where
  accounted : ∀ permit, d.semaphores permit + total (acquiredOf permit) d.submissions =
    origin.semaphores permit + total (returnedOf permit) d.submissions
  each : ∀ s ∈ d.submissions, SubmissionOk s
  chains : ∀ s ∈ d.submissions, Chained origin d s
  registry : ∀ runner ∈ d.environments, Dict.get runner d.runnerRuntimes = Dict.get runner origin.runnerRuntimes

theorem advance_keeps (origin d next : Dispatcher) (index : Nat)
    (move : Dispatcher → Submission → Option ((Permit → Nat) × Submission)) (inv : PermitInvariant origin d)
    (moves : ∀ s result, d.submissions[index]? = some s → SubmissionOk s → move d s = some result → Move d s result)
    (taken : advance d index move = some next) : PermitInvariant origin next := by
  unfold advance at taken
  cases read : d.submissions[index]? with
  | none => simp [read] at taken
  | some s =>
      obtain ⟨result, moved, same⟩ := Option.map_eq_some_iff.mp (by simpa only [read] using taken)
      subst same
      have member := mem_of_read d.submissions index s read
      have local' := moves s result read (inv.each s member) moved
      refine ⟨fun permit => ?_, ?_, ?_, inv.registry⟩
      · have acquired := total_set (acquiredOf permit) d.submissions index s result.2 read
        have returned := total_set (returnedOf permit) d.submissions index s result.2 read
        have before := inv.accounted permit
        have here := local'.balance permit
        simp only
        omega
      · exact forall_set SubmissionOk d.submissions index result.2 inv.each local'.ok
      · refine forall_set (Chained origin d) d.submissions index result.2 inv.chains ?_
        intro live
        rw [local'.wanted, local'.runner]
        rw [local'.runner] at live
        rcases live with present | begun
        · exact inv.chains s member (.inl present)
        · exact inv.chains s member (local'.begins begun).symm

theorem submit_keeps (origin d : Dispatcher) (runner : RunnerId) (inv : PermitInvariant origin d) :
    PermitInvariant origin (submit d runner) := by
  unfold submit
  split
  case isFalse => exact inv
  case isTrue =>
    refine ⟨fun permit => ?_, ?_, ?_, inv.registry⟩
    · simpa [acquiredOf, returnedOf] using inv.accounted permit
    · exact forall_append SubmissionOk _ _ inv.each ⟨by simp, rfl, rfl, rfl⟩
    · refine forall_append (Chained origin d) _ _ inv.chains ?_
      rintro (present | begun)
      · simp only [wantedPermits, runtimesOf, inv.registry runner present]
      · exact absurd rfl begun

theorem cancel_active_keeps (origin d : Dispatcher) (runner : RunnerId) (inv : PermitInvariant origin d)
    (unforced : ∀ s ∈ d.submissions, s.runner = runner → ¬ Forced s) :
    PermitInvariant origin { d with submissions := d.submissions.map fun s => if s.runner = runner then interrupt s else s } := by
  refine ⟨fun permit => ?_, ?_, ?_, inv.registry⟩
  · simp only
    rw [total_map, total_map]
    · exact inv.accounted permit
    · intro s _
      split
      · simp only [returnedOf, (interrupt_keeps s).2.2.2.1]
      · rfl
    · intro s _
      split
      · simp only [acquiredOf, (interrupt_keeps s).2.2.1]
      · rfl
  · intro changed member
    obtain ⟨s, old, same⟩ := List.mem_map.mp member
    subst same
    split
    · exact interrupt_ok s (inv.each s old) (unforced s old (by assumption))
    · exact inv.each s old
  · intro changed member
    obtain ⟨s, old, same⟩ := List.mem_map.mp member
    subst same
    obtain ⟨owner, wanted, _, _, physical, _⟩ := interrupt_keeps s
    split
    · rw [Chained, owner, wanted, physical]
      exact inv.chains s old
    · exact inv.chains s old

theorem unregister_keeps (origin d : Dispatcher) (runner : RunnerId) (inv : PermitInvariant origin d) :
    PermitInvariant origin (unregister d runner) := by
  refine ⟨inv.accounted, inv.each, fun s member live => ?_, fun other present => ?_⟩
  · refine inv.chains s member (live.imp_left fun present => ?_)
    exact (List.mem_filter.mp present).1
  · have kept := List.mem_filter.mp present
    have different : other ≠ runner := by simpa using kept.2
    simpa only [unregister, dict_get_pop, if_neg different] using inv.registry other kept.1

theorem step_keeps_permits (origin d next : Dispatcher) (event : Event) (inv : PermitInvariant origin d)
    (allowed : Unforced d event) (taken : step d event = some next) : PermitInvariant origin next := by
  cases event with
  | submit runner =>
      cases Option.some.inj taken
      exact submit_keeps origin d runner inv
  | acquire index => exact advance_keeps origin d next index _ inv (fun s r _ ok => acquire_move d s r ok) taken
  | reserve index accepted =>
      exact advance_keeps origin d next index _ inv (fun s r _ ok => reserve_move d s accepted r ok) taken
  | start index => exact advance_keeps origin d next index _ inv (fun s r _ ok => start_move d s r ok) taken
  | complete index succeeded =>
      exact advance_keeps origin d next index _ inv (fun s r _ ok => complete_move d s succeeded r ok) taken
  | resume index => exact advance_keeps origin d next index _ inv (fun s r _ ok => resume_move d s r ok) taken
  | finish index => exact advance_keeps origin d next index _ inv (fun s r _ ok => finish_move d s r ok) taken
  | callback index => exact advance_keeps origin d next index _ inv (fun s r _ ok => callback_move d s r ok) taken
  | cancelTask index =>
      exact advance_keeps origin d next index _ inv
        (fun s r read ok => cancel_task_move d s r ok (allowed s read)) taken
  | cancel runner =>
      cases Option.some.inj taken
      exact ⟨inv.accounted, inv.each, inv.chains, inv.registry⟩
  | cancelActive runner =>
      cases Option.some.inj taken
      exact cancel_active_keeps origin d runner inv allowed
  | unregister runner =>
      cases Option.some.inj taken
      exact unregister_keeps origin d runner inv

structure RegistryOk (capacity : Nat) (d : Dispatcher) : Prop where
  idle : d.submissions = []
  global : d.semaphores .capacity = capacity
  gates : ∀ runtime limit, Dict.get runtime d.runtimeLimits = some limit → d.semaphores (.gate runtime) = limit
  known : ∀ runtime, runtime ∈ d.runtimeGates ↔ ∃ limit, Dict.get runtime d.runtimeLimits = some limit

theorem register_limit_ok (capacity : Nat) (d next : Dispatcher) (entry : RuntimeId × Nat) (ok : RegistryOk capacity d)
    (done : registerLimit d entry = .ok next) : RegistryOk capacity next := by
  obtain ⟨runtime, limit⟩ := entry
  unfold registerLimit at done
  split at done
  case isTrue => cases done
  case isFalse =>
    split at done
    case isTrue => cases done
    case isFalse agreed =>
      cases done
      have member : ∀ other, other ∈ (if runtime ∈ d.runtimeGates then d.runtimeGates else d.runtimeGates ++ [runtime]) ↔
          other = runtime ∨ other ∈ d.runtimeGates := by
        intro other
        split
        case isTrue present =>
          constructor
          · exact Or.inr
          · rintro (rfl | old)
            · exact present
            · exact old
        case isFalse => simp [or_comm]
      refine ⟨ok.idle, ?_, fun other bound found => ?_, fun other => ?_⟩
      · simp only
        split
        · exact ok.global
        · simpa using ok.global
      · simp only [dict_get_put] at found
        by_cases present : runtime ∈ d.runtimeGates
        · simp only [if_pos present]
          by_cases same : other = runtime
          · subst same
            obtain ⟨old, read⟩ := (ok.known other).mp present
            have value : limit = bound := by simpa using found
            have kept : old = limit := by simpa [read] using agreed
            exact (ok.gates other old read).trans (kept.trans value)
          · exact ok.gates other bound (by simpa [same] using found)
        · simp only [if_neg present]
          by_cases same : other = runtime
          · subst same
            simpa using found
          · rw [Function.update_of_ne (by simpa using same)]
            exact ok.gates other bound (by simpa [same] using found)
      · rw [member other]
        simp only [dict_get_put]
        by_cases same : other = runtime
        · simp [same]
        · simpa [same] using ok.known other

theorem register_ok (capacity : Nat) (d next : Dispatcher) (runner : RunnerId) (limits : Dict RuntimeId Nat)
    (ok : RegistryOk capacity d) (done : register d runner limits = .ok next) : RegistryOk capacity next := by
  obtain ⟨middle, limited, last⟩ := (bind_ok _ _ next).mp done
  have kept := fold_keeps registerLimit (RegistryOk capacity)
    (fun d entry next => register_limit_ok capacity d next entry) limits d middle ok limited
  cases last
  exact ⟨kept.idle, kept.global, kept.gates, kept.known⟩

theorem registered_ok (capacity : Nat) (runners : List (RunnerId × Dict RuntimeId Nat)) (origin : Dispatcher)
    (done : registered capacity runners = .ok origin) : RegistryOk capacity origin := by
  unfold registered at done
  split at done
  case isTrue => cases done
  case isFalse =>
    exact fold_keeps (fun d entry => register d entry.1 entry.2) (RegistryOk capacity)
      (fun d entry next => register_ok capacity d next entry.1 entry.2) runners (fresh capacity) origin
      ⟨rfl, by simp [fresh], by simp [fresh, Dict.get], by simp [fresh, Dict.get]⟩ done

theorem registered_invariant (capacity : Nat) (origin : Dispatcher) (ok : RegistryOk capacity origin) :
    PermitInvariant origin origin := by
  refine ⟨fun permit => ?_, ?_, ?_, fun _ _ => rfl⟩ <;> simp [ok.idle]

def executing (s : Submission) : Bool := s.physical = .inFlight

def executingIn (origin : Dispatcher) (runtime : RuntimeId) (s : Submission) : Bool :=
  s.physical = .inFlight ∧ runtime ∈ runtimesOf origin s.runner

-- Steps without a forced cancellation that bring one submission to its end.
def Settles (d : Dispatcher) (index : Nat) : Prop :=
  ∃ events last s, EveryStep step Unforced d events ∧ run step d events = some last ∧
    last.submissions[index]? = some s ∧ s.phase = .settled

structure PermitOwnership (capacity : Nat) (origin d : Dispatcher) : Prop where
  once : ∀ s ∈ d.submissions, s.returned = if s.phase = .settled then s.acquired.reverse else []
  complete : ∀ s ∈ d.submissions, s.reserved = true → s.acquired = s.wanted
  returns : ∀ index s, d.submissions[index]? = some s → s.reserved = true → Settles d index
  unfinished : ∀ s ∈ d.submissions, s.physical = .inFlight → s.returned = []
  global : d.submissions.countP executing ≤ capacity
  perRuntime : ∀ runtime limit, Dict.get runtime origin.runtimeLimits = some limit →
    d.submissions.countP (executingIn origin runtime) ≤ limit

theorem submission_once (ok : SubmissionOk s) : s.returned = if s.phase = .settled then s.acquired.reverse else [] := by
  cases phase : s.phase <;> simp_all [SubmissionOk]

theorem submission_complete (ok : SubmissionOk s) (reserved : s.reserved = true) : s.acquired = s.wanted := by
  cases phase : s.phase <;> simp_all [SubmissionOk]

theorem submission_unfinished (ok : SubmissionOk s) (running : s.physical = .inFlight) : s.returned = [] ∧ s.acquired = s.wanted := by
  cases phase : s.phase <;> simp_all [SubmissionOk]

theorem held_slack (permit : Permit) (counted : Bool) (ok : SubmissionOk s)
    (holds : counted = true → s.physical = .inFlight ∧ permit ∈ s.wanted) :
    (if counted = true then 1 else 0) + returnedOf permit s ≤ acquiredOf permit s := by
  cases counted with
  | true =>
      obtain ⟨running, member⟩ := holds rfl
      obtain ⟨untouched, full⟩ := submission_unfinished s ok running
      have positive : 0 < s.wanted.count permit := List.count_pos_iff.mpr member
      simp only [returnedOf, acquiredOf, untouched, full, List.count_nil, if_true]
      omega
  | false =>
      rw [returnedOf, submission_once s ok, acquiredOf]
      by_cases settled : s.phase = .settled <;> simp [settled]

theorem executing_le_limit (origin d : Dispatcher) (permit : Permit) (counted : Submission → Bool)
    (inv : PermitInvariant origin d)
    (holds : ∀ s ∈ d.submissions, counted s = true → s.physical = .inFlight ∧ permit ∈ s.wanted) :
    d.submissions.countP counted ≤ origin.semaphores permit := by
  have slack := count_le_slack counted (returnedOf permit) (acquiredOf permit) d.submissions
    fun s member => held_slack s permit (counted s) (inv.each s member) (holds s member)
  have accounted := inv.accounted permit
  omega

theorem global_bound (origin d : Dispatcher) (inv : PermitInvariant origin d) :
    d.submissions.countP executing ≤ origin.semaphores .capacity := by
  refine executing_le_limit origin d .capacity executing inv fun s member counted => ?_
  have running : s.physical = .inFlight := by simpa [executing] using counted
  refine ⟨running, ?_⟩
  rw [inv.chains s member (.inr (by simp [running]))]
  simp [wantedPermits]

theorem runtime_bound (origin d : Dispatcher) (runtime : RuntimeId) (inv : PermitInvariant origin d) :
    d.submissions.countP (executingIn origin runtime) ≤ origin.semaphores (.gate runtime) := by
  refine executing_le_limit origin d (.gate runtime) (executingIn origin runtime) inv fun s member counted => ?_
  obtain ⟨running, listed⟩ : s.physical = .inFlight ∧ runtime ∈ runtimesOf origin s.runner := by
    simpa [executingIn] using counted
  refine ⟨running, ?_⟩
  rw [inv.chains s member (.inr (by simp [running]))]
  simpa [wantedPermits] using listed

variable (index : Nat)

theorem advance_reads (s : Submission) (move : Dispatcher → Submission → Option ((Permit → Nat) × Submission))
    (result : (Permit → Nat) × Submission) (read : d.submissions[index]? = some s) (moved : move d s = some result) :
    ∃ next, advance d index move = some next ∧ next.submissions[index]? = some result.2 ∧
      next.environments = d.environments := by
  refine ⟨{ d with semaphores := result.1, submissions := d.submissions.set index result.2 }, ?_, ?_, rfl⟩
  · simp only [advance, read, moved, Option.map_some]
  · exact List.getElem?_set_self (List.getElem?_eq_some_iff.mp read).1

theorem settles_after (d next : Dispatcher) (index : Nat) (event : Event) (allowed : Unforced d event)
    (taken : step d event = some next) (later : Settles next index) : Settles d index := by
  obtain ⟨events, last, s, meets, reached, read, settled⟩ := later
  refine ⟨event :: events, last, s, ⟨allowed, fun other same => ?_⟩, ?_, read, settled⟩
  · cases Option.some.inj (taken.symm.trans same)
    exact meets
  · exact (run_cons step d last event events).mpr ⟨next, taken, reached⟩

theorem settles_ended (s : Submission) (read : d.submissions[index]? = some s) (phase : s.phase = .ended) : Settles d index := by
  obtain ⟨next, taken, after, _⟩ := advance_reads d index s callback (release d.semaphores s) read (by simp [callback, phase])
  exact settles_after d next index (.callback index) trivial taken
    ⟨[], next, _, trivial, rfl, after, rfl⟩

theorem settles_committing (s : Submission) (read : d.submissions[index]? = some s) (phase : s.phase = .committing) :
    Settles d index := by
  obtain ⟨next, taken, after, _⟩ := advance_reads d index s finish (d.semaphores, { s with phase := .ended }) read
    (by simp [finish, phase])
  exact settles_after d next index (.finish index) trivial taken (settles_ended next index _ after rfl)

theorem settles_resumed (s moved : Submission) (read : d.submissions[index]? = some s)
    (resumed : resume d s = some (d.semaphores, moved)) (phase : moved.phase = .committing ∨ moved.phase = .ended) :
    Settles d index := by
  obtain ⟨next, taken, after, _⟩ := advance_reads d index s resume (d.semaphores, moved) read resumed
  refine settles_after d next index (.resume index) trivial taken ?_
  rcases phase with committing | ended
  · exact settles_committing next index moved after committing
  · exact settles_ended next index moved after ended

theorem settles_delivered (s : Submission) (read : d.submissions[index]? = some s) (phase : s.phase = .shielded ∨ s.phase = .draining)
    (past : s.physical = .finished ∨ s.physical = .failed) : Settles d index := by
  rcases phase with first | second <;> rcases past with done | raised
  · exact settles_resumed d index s _ read (by rw [resume, first, done]) (.inl rfl)
  · exact settles_resumed d index s _ read (by rw [resume, first, raised]) (.inl rfl)
  · exact settles_resumed d index s _ read (by rw [resume, second, done]) (.inr rfl)
  · exact settles_resumed d index s _ read (by rw [resume, second, raised]) (.inl rfl)

theorem settles_shielded (s : Submission) (read : d.submissions[index]? = some s)
    (phase : s.phase = .shielded ∨ s.phase = .draining) (begun : s.physical ≠ .none) : Settles d index := by
  cases physical : s.physical with
  | none => exact absurd physical begun
  | finished => exact settles_delivered d index s read phase (.inl physical)
  | failed => exact settles_delivered d index s read phase (.inr physical)
  | inFlight =>
      obtain ⟨next, taken, after, _⟩ := advance_reads d index s (complete true)
        (d.semaphores, { s with physical := .finished }) read (by simp [complete, physical])
      exact settles_after d next index (.complete index true) trivial taken (settles_delivered next index _ after phase (.inl rfl))

theorem settles_created (s : Submission) (read : d.submissions[index]? = some s) (phase : s.phase = .created) : Settles d index := by
  by_cases present : s.runner ∈ d.environments
  · obtain ⟨next, taken, after, _⟩ := advance_reads d index s start
      (d.semaphores, { s with phase := .shielded, physical := .inFlight }) read (by simp [start, phase, present])
    exact settles_after d next index (.start index) trivial taken (settles_shielded next index _ after (.inl rfl) (by simp))
  · obtain ⟨next, taken, after, _⟩ := advance_reads d index s start
      (d.semaphores, { s with phase := .committing }) read (by simp [start, phase, present])
    exact settles_after d next index (.start index) trivial taken (settles_committing next index _ after rfl)

theorem reserved_settles (s : Submission) (read : d.submissions[index]? = some s) (ok : SubmissionOk s)
    (reserved : s.reserved = true) : Settles d index := by
  cases phase : s.phase with
  | acquiring | reserving => simp [SubmissionOk, phase, reserved] at ok
  | created => exact settles_created d index s read phase
  | shielded =>
      simp only [SubmissionOk, phase] at ok
      exact settles_shielded d index s read (.inl phase) ok.2.2.1
  | draining =>
      simp only [SubmissionOk, phase] at ok
      exact settles_shielded d index s read (.inr phase) ok.2.2.1
  | committing => exact settles_committing d index s read phase
  | ended => exact settles_ended d index s read phase
  | settled => exact ⟨[], d, s, trivial, rfl, read, phase⟩

theorem permits_outlive_execution (capacity : Nat) (runners : List (RunnerId × Dict RuntimeId Nat))
    (origin d : Dispatcher) (events : List Event) (setup : registered capacity runners = .ok origin)
    (unforced : EveryStep step Unforced origin events) (reached : run step origin events = some d) :
    PermitOwnership capacity origin d := by
  have registry := registered_ok capacity runners origin setup
  have inv := run_keeps step Unforced (PermitInvariant origin) (fun s e n => step_keeps_permits origin s n e)
    events origin d (registered_invariant capacity origin registry) unforced reached
  refine ⟨fun s member => submission_once s (inv.each s member),
    fun s member => submission_complete s (inv.each s member), fun index s read => ?_,
    fun s member running => (submission_unfinished s (inv.each s member) running).1, ?_, fun runtime limit found => ?_⟩
  · exact reserved_settles d index s read (inv.each s (mem_of_read _ index s read))
  · exact registry.global ▸ global_bound origin d inv
  · exact registry.gates runtime limit found ▸ runtime_bound origin d runtime inv

def twoRunners : List (RunnerId × Dict RuntimeId Nat) := [("first", [("a", 1)]), ("next", [("a", 1)])]

def forcedRun : List Event :=
  [.submit "first", .acquire 0, .acquire 0, .reserve 0 true, .start 0, .cancel "first", .cancelActive "first",
    .cancelActive "first", .callback 0, .submit "next", .acquire 1, .acquire 1, .reserve 1 true, .start 1]

def orderlyRun : List Event :=
  [.submit "first", .acquire 0, .acquire 0, .reserve 0 true, .start 0, .cancel "first", .cancelActive "first",
    .complete 0 false, .resume 0, .finish 0, .callback 0]

theorem permits_outlive_execution_orderly :
    ∃ origin d, registered 2 twoRunners = .ok origin ∧ run step origin orderlyRun = some d ∧
      PermitOwnership 2 origin d := by
  exact ⟨_, _, rfl, rfl, permits_outlive_execution 2 twoRunners _ _ orderlyRun rfl (by decide) rfl⟩

theorem forced_cancel_frees_early :
    ¬ ∀ (capacity : Nat) (runners : List (RunnerId × Dict RuntimeId Nat)) (origin d : Dispatcher) (events : List Event),
      registered capacity runners = .ok origin → run step origin events = some d → PermitOwnership capacity origin d := by
  intro claim
  have owned := claim 2 twoRunners _ _ forcedRun rfl rfl
  have running := owned.perRuntime "a" 1 rfl
  revert running
  decide

end LlmperfOrchestrator.Dispatch

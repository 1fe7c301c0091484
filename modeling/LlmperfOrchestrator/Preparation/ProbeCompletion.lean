import LlmperfOrchestrator.Preparation.ProbeDispatch

set_option autoImplicit false

namespace LlmperfOrchestrator.Preparation

open Tables Runs Chains

structure ProbeInvariant (plan : List CacheProbeRequest) (s : ProbeRun) : Prop where
  chains : ∀ family, Sound (familyOrder plan family) (s.chain family)
  counted : s.queue.inflight = s.timers.length + s.held.length
  balance : s.claims.Perm (s.completions ++ s.held)
  known : ∀ request ∈ plan, Dict.get request.familyId s.queue.families ≠ none

theorem start_known (plan : List CacheProbeRequest) (request : CacheProbeRequest) (member : request ∈ plan) :
    Dict.get request.familyId (DependentPlanQueue.new plan).families ≠ none := by
  obtain ⟨families, _, orders, _, rests, _⟩ := sorted_families plan
  have listed : request ∈ familyOrder plan request.familyId :=
    (family_order_perm plan request.familyId).mem_iff.mpr ((mem_of_family _ plan request).mpr ⟨member, rfl⟩)
  rw [← orders request.familyId] at listed
  rw [rests, dict_get_map fun _ requests => List.tail requests]
  intro absent
  rw [Option.map_eq_none_iff.mp absent] at listed
  cases listed

theorem start_invariant (plan : List CacheProbeRequest) (threads : Nat) : ProbeInvariant plan (.start plan threads) := by
  have idle : (ProbeRun.start plan threads).held = [] := by
    rw [ProbeRun.held, List.filterMap_eq_nil_iff]
    intro thread member
    rw [List.eq_of_mem_replicate member]
    rfl
  constructor
  · exact start_sound plan threads
  · rw [idle]
    rfl
  · rw [idle]
    exact .refl _
  · exact start_known plan

theorem attempt_families (s : ProbeRun) (thread : Nat) (deadline : Option Rat) (now : Rat) :
    (s.attempt thread deadline now).queue.families = s.queue.families ∧
      (s.attempt thread deadline now).queue.skipped = s.queue.skipped := by
  rcases s.queue.claim_cases deadline now with ⟨waits, _⟩ | ⟨flag, closed, _, _⟩ | ⟨request, rest, _, _, granted⟩
  · rw [ProbeRun.attempt, waits]
    exact ⟨rfl, rfl⟩
  · rw [ProbeRun.attempt, closed]
    exact ⟨rfl, rfl⟩
  · rw [ProbeRun.attempt, granted]
    exact ⟨rfl, rfl⟩

theorem attempt_invariant (plan : List CacheProbeRequest) (s : ProbeRun) (thread : Nat) (old : ProbeThread)
    (deadline : Option Rat) (now : Rat) (inv : ProbeInvariant plan s) (read : s.threads[thread]? = some old)
    (free : old.held = none) : ProbeInvariant plan (s.attempt thread deadline now) := by
  have chains : ∀ family, Sound (familyOrder plan family) ((s.attempt thread deadline now).chain family) :=
    fun family => step_sound _ _ _ (inv.chains family) (attempt_chain s thread old deadline now read free family)
  have counted := inv.counted
  have families := (attempt_families s thread deadline now).1
  refine ⟨chains, ?_, ?_, families ▸ inv.known⟩
  · rcases s.queue.claim_cases deadline now with ⟨waits, _⟩ | ⟨flag, closed, _, _⟩ | ⟨request, rest, ready, _, granted⟩
    · rw [ProbeRun.attempt, waits]
      have same := (held_unchanged s thread old (.claiming deadline) read free rfl).length_eq
      simp only [ProbeRun.held] at counted same ⊢
      omega
    · rw [ProbeRun.attempt, closed]
      have same := (held_unchanged s thread old .idle read free rfl).length_eq
      simp only [ProbeRun.held] at counted same ⊢
      omega
    · rw [ProbeRun.attempt, granted]
      have more := (held_taken s thread old request read free).length_eq
      rw [List.length_cons] at more
      simp only [ProbeRun.held] at counted more ⊢
      omega
  · rcases s.queue.claim_cases deadline now with ⟨waits, _⟩ | ⟨flag, closed, _, _⟩ | ⟨request, rest, ready, _, granted⟩
    · rw [ProbeRun.attempt, waits]
      exact inv.balance.trans ((held_unchanged s thread old (.claiming deadline) read free rfl).symm.append_left s.completions)
    · rw [ProbeRun.attempt, closed]
      exact inv.balance.trans ((held_unchanged s thread old .idle read free rfl).symm.append_left s.completions)
    · rw [ProbeRun.attempt, granted]
      have taken := (held_taken s thread old request read free).symm.append_left s.completions
      exact (List.perm_append_singleton request s.claims).trans
        ((inv.balance.cons request).trans (List.perm_middle.symm.trans taken))

theorem put_known (families : Dict String (List CacheProbeRequest)) (key query : String) (requests : List CacheProbeRequest)
    (known : Dict.get query families ≠ none) : Dict.get query (Dict.put key requests families) ≠ none := by
  rw [dict_get_put]
  by_cases same : query = key
  · rw [if_pos same]
    exact Option.some_ne_none requests
  · rwa [if_neg same]

theorem complete_invariant (plan : List CacheProbeRequest) (s : ProbeRun) (thread : Nat) (request : CacheProbeRequest)
    (success : Bool) (result : DependentPlanQueue × Option CacheProbeRequest) (inv : ProbeInvariant plan s)
    (read : s.threads[thread]? = some (.holding request)) (done : s.queue.complete request success = some result) :
    ProbeInvariant plan
      { s with queue := result.1, threads := s.threads.set thread .idle, timers := s.timers ++ result.2.toList,
               completions := s.completions ++ [request] } := by
  have returned := held_returned s thread request read
  constructor
  · intro family
    exact step_sound _ _ _ (inv.chains family) (complete_chain s thread plan request success result read done inv.chains family)
  · obtain ⟨_, _, _, inflight, _⟩ := s.queue.complete_cases request success result done
    have less := returned.length_eq
    have counted := inv.counted
    simp only [List.length_cons, List.length_append, ProbeRun.held] at less counted ⊢
    omega
  · have split := inv.balance.trans (returned.append_left s.completions)
    exact split.trans (by rw [List.append_assoc]; exact .refl _)
  · obtain ⟨_, _, _, _, cases⟩ := s.queue.complete_cases request success result done
    intro other member
    rcases cases with ⟨_, families, _⟩ | ⟨_, later, _, _, families, _⟩ | ⟨_, _, families, _⟩
    · exact families ▸ inv.known other member
    · exact families ▸ put_known s.queue.families request.familyId other.familyId later (inv.known other member)
    · exact families ▸ put_known s.queue.families request.familyId other.familyId [] (inv.known other member)

theorem fire_invariant (plan : List CacheProbeRequest) (s : ProbeRun) (timer : Nat) (request : CacheProbeRequest)
    (inv : ProbeInvariant plan s) (read : s.timers[timer]? = some request) :
    ProbeInvariant plan { s with queue := s.queue.release request, timers := s.timers.eraseIdx timer } := by
  constructor
  · intro family
    exact step_sound _ _ _ (inv.chains family) (fire_chain s timer request read family)
  · obtain ⟨inside, _⟩ := List.getElem?_eq_some_iff.mp read
    have less := List.length_eraseIdx_of_lt inside
    have counted := inv.counted
    have released : (s.queue.release request).inflight = s.queue.inflight - 1 := rfl
    simp only [ProbeRun.held, less, released] at counted ⊢
    omega
  · exact inv.balance
  · exact inv.known

theorem step_cases (s next : ProbeRun) (event : ProbeEvent) (taken : s.step event = some next) :
    (∃ thread old deadline now, s.threads[thread]? = some old ∧ old.held = none ∧ next = s.attempt thread deadline now ∧
      s.closing event = s.queue.expires deadline now ∧
      s.signalled event = (s.queue.claim deadline now).isClosed ∧ ∀ other success, event ≠ .complete other success) ∨
    (∃ thread request success result, event = .complete thread success ∧ s.threads[thread]? = some (.holding request) ∧
      s.queue.complete request success = some result ∧
      next = { s with queue := result.1, threads := s.threads.set thread .idle, timers := s.timers ++ result.2.toList,
                      completions := s.completions ++ [request] }) ∨
    (∃ timer request, event = .fire timer ∧ s.timers[timer]? = some request ∧
      next = { s with queue := s.queue.release request, timers := s.timers.eraseIdx timer }) ∨
    event = .close ∧ next = { s with queue := s.queue.close } := by
  cases event with
  | claim thread deadline now =>
      left
      by_cases idle : s.threads[thread]? = some .idle
      · rw [ProbeRun.step, if_pos idle] at taken
        exact ⟨thread, .idle, deadline, now, idle, rfl, (Option.some.inj taken).symm, rfl, rfl, fun _ _ same => by cases same⟩
      · rw [ProbeRun.step, if_neg idle] at taken
        cases taken
  | wake thread now =>
      left
      simp only [ProbeRun.step] at taken
      split at taken
      · rename_i deadline claiming
        refine ⟨thread, .claiming deadline, deadline, now, claiming, rfl, (Option.some.inj taken).symm, ?_, ?_, ?_⟩
        · simp [ProbeRun.closing, claiming]
        · simp [ProbeRun.signalled, claiming]
        · intro other success same
          cases same
      · cases taken
  | complete thread success =>
      right
      left
      simp only [ProbeRun.step] at taken
      split at taken
      · rename_i request holding
        obtain ⟨result, done, same⟩ := Option.map_eq_some_iff.mp taken
        exact ⟨thread, request, success, result, rfl, holding, done, same.symm⟩
      · cases taken
  | fire timer =>
      right
      right
      left
      obtain ⟨request, read, same⟩ := Option.map_eq_some_iff.mp taken
      exact ⟨timer, request, rfl, read, same.symm⟩
  | close =>
      right
      right
      right
      exact ⟨rfl, (Option.some.inj taken).symm⟩

theorem step_invariant (plan : List CacheProbeRequest) (s : ProbeRun) (event : ProbeEvent) (next : ProbeRun)
    (inv : ProbeInvariant plan s) (taken : s.step event = some next) : ProbeInvariant plan next := by
  rcases step_cases s next event taken with ⟨thread, old, deadline, now, read, free, rfl, _⟩ |
    ⟨thread, request, success, result, _, read, done, rfl⟩ | ⟨timer, request, _, read, rfl⟩ | ⟨_, rfl⟩
  · exact attempt_invariant plan s thread old deadline now inv read free
  · exact complete_invariant plan s thread request success result inv read done
  · exact fire_invariant plan s timer request inv read
  · exact ⟨inv.chains, inv.counted, inv.balance, inv.known⟩

theorem count_of_family (request : CacheProbeRequest) (requests : List CacheProbeRequest) :
    (ofFamily request.familyId requests).count request = requests.count request :=
  List.count_filter (by simp)

theorem order_count (plan : List CacheProbeRequest) (request : CacheProbeRequest) :
    (familyOrder plan request.familyId).count request = plan.count request :=
  ((family_order_perm plan request.familyId).count_eq request).trans (count_of_family request plan)

section Outcome

variable (plan : List CacheProbeRequest) (s : ProbeRun) (inv : ProbeInvariant plan s)

include inv

theorem used_subperm : (s.claims ++ s.queue.skipped).Subperm plan := by
  rw [List.subperm_ext_iff]
  intro request _
  have whole := congrArg (List.count request) (inv.chains request.familyId).whole
  simp only [List.count_append, ProbeRun.chain, count_of_family, order_count] at whole
  rw [List.count_append]
  omega

theorem held_known (request : CacheProbeRequest) (held : request ∈ s.held) : Dict.get request.familyId s.queue.families ≠ none := by
  have claimed : request ∈ s.claims := inv.balance.mem_iff.mpr (List.mem_append_right _ held)
  exact inv.known request ((used_subperm plan s inv).subset (List.mem_append_left _ claimed))

theorem drained_plan (ready : s.queue.ready = []) (inflight : s.queue.inflight = 0) :
    plan.Perm (s.completions ++ s.queue.skipped) := by
  have counted := inv.counted
  have timers : s.timers = [] := List.length_eq_zero_iff.mp (by omega)
  have held : s.held = [] := List.length_eq_zero_iff.mp (by omega)
  have done := inv.balance
  rw [held, List.append_nil] at done
  rw [List.perm_iff_count]
  intro request
  have offered : (s.chain request.familyId).offered = [] := by
    simp only [ProbeRun.chain, ready, timers, List.append_nil]
    rfl
  have holders : (s.chain request.familyId).held = [] := by
    simp only [ProbeRun.chain, held]
    rfl
  have ended := congrArg (List.count request) (idle_ended _ _ (inv.chains request.familyId) offered holders)
  simp only [List.count_append, ProbeRun.chain, count_of_family, order_count] at ended
  rw [List.count_append, ended, done.count_eq request]

theorem single_flight (family : String) : (ofFamily family (s.held ++ s.timers)).length ≤ 1 := by
  have single := (inv.chains family).single
  simp only [ProbeRun.chain, of_family_append, List.length_append] at single ⊢
  omega

theorem signal_drained (event : ProbeEvent) (next : ProbeRun) (taken : s.step event = some next)
    (signalled : s.signalled event = true) : next.queue.closed = true ∨ plan.Perm (s.completions ++ s.queue.skipped) := by
  rcases step_cases s next event taken with ⟨thread, old, deadline, now, read, free, rfl, _, signal, _⟩ |
    ⟨thread, request, success, result, rfl, _⟩ | ⟨timer, request, rfl, _⟩ | ⟨rfl, _⟩
  · rw [signal] at signalled
    rcases s.queue.claim_cases deadline now with ⟨waits, _⟩ | ⟨flag, closed, _, exhausted⟩ | ⟨request, rest, _, _, granted⟩
    · rw [waits] at signalled
      cases signalled
    · rcases exhausted with shut | ⟨ready, inflight⟩
      · left
        rw [ProbeRun.attempt, closed]
        exact shut
      · exact .inr (drained_plan plan s inv ready inflight)
    · rw [granted] at signalled
      cases signalled
  · cases signalled
  · cases signalled
  · cases signalled

theorem failure_skips (thread : Nat) (request : CacheProbeRequest) (next : ProbeRun)
    (holding : s.threads[thread]? = some (.holding request)) (taken : s.step (.complete thread false) = some next) :
    ∃ rest, next.queue.skipped = s.queue.skipped ++ rest ∧
      familyOrder plan request.familyId = ofFamily request.familyId s.claims ++ rest := by
  rw [ProbeRun.step, holding] at taken
  obtain ⟨result, done, same⟩ := Option.map_eq_some_iff.mp taken
  obtain ⟨remaining, known, _, _, cases⟩ := s.queue.complete_cases request false result done
  have returned := of_family_perm request.familyId _ _ (held_returned s thread request holding)
  rw [of_family_own request.familyId request _ rfl] at returned
  have order := held_remaining (familyOrder plan request.familyId) (s.chain request.familyId)
    { s.chain request.familyId with held := ofFamily request.familyId ((s.threads.set thread .idle).filterMap ProbeThread.held) }
    request (inv.chains request.familyId) returned
  have rest : (s.chain request.familyId).rest = remaining := by
    rw [ProbeRun.chain, known]
    rfl
  rw [rest] at order
  refine ⟨remaining, ?_, order⟩
  rw [← same]
  rcases cases with ⟨exhausted, _, skipped, _⟩ | ⟨_, _, _, success, _⟩ | ⟨_, _, _, skipped, _⟩
  · rw [exhausted, List.append_nil]
    exact skipped
  · cases success
  · exact skipped

omit inv in
theorem others_skip_nothing (event : ProbeEvent) (next : ProbeRun) (taken : s.step event = some next)
    (other : ∀ thread, event ≠ .complete thread false) : next.queue.skipped = s.queue.skipped := by
  rcases step_cases s next event taken with ⟨thread, old, deadline, now, read, free, rfl, _⟩ |
    ⟨thread, request, success, result, rfl, _, done, rfl⟩ | ⟨timer, request, rfl, _, rfl⟩ | ⟨rfl, rfl⟩
  · exact (attempt_families s thread deadline now).2
  · obtain ⟨_, _, _, _, cases⟩ := s.queue.complete_cases request success result done
    rcases cases with ⟨_, _, skipped, _⟩ | ⟨_, _, _, _, _, skipped, _⟩ | ⟨_, failed, _⟩
    · exact skipped
    · exact skipped
    · rw [failed] at other
      exact absurd rfl (other thread)
  · rfl
  · rfl

omit inv in
theorem stays_open (event : ProbeEvent) (next : ProbeRun) (taken : s.step event = some next) (quiet : s.closing event = false)
    (opened : s.queue.closed = false) : next.queue.closed = false := by
  rcases step_cases s next event taken with ⟨thread, old, deadline, now, read, free, rfl, closes, _⟩ |
    ⟨thread, request, success, result, rfl, _, done, rfl⟩ | ⟨timer, request, rfl, _, rfl⟩ | ⟨rfl, _⟩
  · have early : s.queue.expires deadline now = false := closes.symm.trans quiet
    rcases s.queue.claim_cases deadline now with ⟨waits, _⟩ | ⟨flag, closed, same, _⟩ | ⟨request, rest, _, _, granted⟩
    · rw [ProbeRun.attempt, waits]
      exact opened
    · rw [ProbeRun.attempt, closed]
      exact (same early).trans opened
    · rw [ProbeRun.attempt, granted]
      exact opened
  · obtain ⟨_, _, closed, _⟩ := s.queue.complete_cases request success result done
    exact closed.trans opened
  · exact opened
  · cases quiet

end Outcome

theorem family_order_sorted (plan : List CacheProbeRequest) (family : String) :
    (familyOrder plan family).Pairwise fun a b => a.occurrence ≤ b.occurrence :=
  List.pairwise_insertionSort (fun a b : CacheProbeRequest => a.occurrence ≤ b.occurrence) _

theorem probe_dispatch_queue (plan : List CacheProbeRequest) (threads : Nat) (events : List ProbeEvent) (s : ProbeRun)
    (reached : run ProbeRun.step (.start plan threads) events = some s) :
    (∀ family, (ofFamily family (s.held ++ s.timers)).length ≤ 1) ∧
    (∀ family, (ofFamily family s.claims).Pairwise (fun a b => a.occurrence ≤ b.occurrence) ∧
      ofFamily family s.claims <+: familyOrder plan family) ∧
    (s.claims ++ s.queue.skipped).Subperm plan ∧
    (∀ thread request, s.threads[thread]? = some (.holding request) →
      ∀ success, ∃ next, s.step (.complete thread success) = some next) ∧
    (∀ event next, s.step event = some next →
      (∀ thread request, event = .complete thread false → s.threads[thread]? = some (.holding request) →
        ∃ rest, next.queue.skipped = s.queue.skipped ++ rest ∧
          familyOrder plan request.familyId = ofFamily request.familyId s.claims ++ rest) ∧
      ((∀ thread, event ≠ .complete thread false) → next.queue.skipped = s.queue.skipped) ∧
      (s.signalled event = true → next.queue.closed = true ∨ plan.Perm (s.completions ++ s.queue.skipped))) ∧
    (EveryStep ProbeRun.step (fun s event => s.closing event = false) (.start plan threads) events → s.queue.closed = false) := by
  have inv := run_invariant ProbeRun.step (ProbeInvariant plan) (step_invariant plan) events _ s
    (start_invariant plan threads) reached
  refine ⟨single_flight plan s inv, ?_, used_subperm plan s inv, ?_, ?_, ?_⟩
  · intro family
    have claimed : ofFamily family s.claims <+: familyOrder plan family := served_prefix _ _ (inv.chains family)
    exact ⟨(family_order_sorted plan family).sublist claimed.sublist, claimed⟩
  · intro thread request holding success
    have member : request ∈ s.held :=
      List.mem_filterMap.mpr ⟨.holding request, List.mem_of_getElem? holding, rfl⟩
    obtain ⟨remaining, known⟩ := Option.ne_none_iff_exists'.mp (held_known plan s inv request member)
    have done : ∃ result, s.queue.complete request success = some result := by
      rw [DependentPlanQueue.complete, known]
      exact ⟨_, rfl⟩
    obtain ⟨result, completed⟩ := done
    rw [ProbeRun.step, holding]
    exact ⟨_, Option.map_eq_some_iff.mpr ⟨result, completed, rfl⟩⟩
  · intro event next taken
    refine ⟨?_, others_skip_nothing s event next taken, signal_drained plan s inv event next taken⟩
    rintro thread request rfl holding
    exact failure_skips plan s inv thread request next holding taken
  · intro quiet
    exact run_keeps ProbeRun.step (fun s event => s.closing event = false) (fun s => s.queue.closed = false)
      (fun s event next opened silent taken => stays_open s event next taken silent opened) events _ s rfl quiet reached

def sampleProbe (family : String) (occurrence dispatchIndex : Nat) (delaySeconds : Rat) : CacheProbeRequest where
  requestId := s!"{family}-{occurrence}"
  familyId := family
  role := if occurrence = 0 then .prime else .warm
  occurrence := occurrence
  dispatchIndex := dispatchIndex
  prompt := []
  promptHash := "sha256:"
  localInputTokens := 8
  expectedSharedPrefixTokens := 8
  delaySeconds := delaySeconds
  seed := 1
  persistPromptText := false

def samplePlan : List CacheProbeRequest :=
  [sampleProbe "family-00000" 0 0 0, sampleProbe "family-00000" 1 1 0, sampleProbe "family-00001" 0 2 0,
    sampleProbe "family-00001" 1 3 5]

def sampleEvents : List ProbeEvent :=
  [.claim 0 none 0, .claim 1 none 0, .claim 2 none 0, .complete 0 false, .complete 1 true, .wake 2 1, .fire 0, .wake 2 5, .complete 2 true]

def reachedRun (result : Option ProbeRun) (reached : result.isSome) : { s // result = some s } :=
  match result, reached with
  | some s, _ => ⟨s, rfl⟩

def sampleRun := reachedRun (run ProbeRun.step (.start samplePlan 3) sampleEvents) (by decide +kernel)

theorem probe_dispatch_queue_sample :
    sampleRun.1.queue.closed = false ∧ samplePlan.Perm (sampleRun.1.completions ++ sampleRun.1.queue.skipped) := by
  obtain ⟨_, _, _, _, steps, opened⟩ := probe_dispatch_queue samplePlan 3 sampleEvents sampleRun.1 sampleRun.2
  have still := opened (by decide +kernel)
  have next := reachedRun (sampleRun.1.step (.claim 0 none 9)) (by decide +kernel)
  obtain ⟨_, _, signal⟩ := steps (.claim 0 none 9) next.1 next.2
  have stayed := stays_open sampleRun.1 (.claim 0 none 9) next.1 next.2 (by decide +kernel) still
  rcases signal (by decide +kernel) with closed | drained
  · rw [stayed] at closed
    cases closed
  · exact ⟨still, drained⟩

def waitingEvents : List ProbeEvent := [.claim 0 none 0, .complete 0 false, .claim 0 none 1]

def waitingRun := reachedRun (run ProbeRun.step (.start samplePlan 2) waitingEvents) (by decide +kernel)

def expiredRun := reachedRun (waitingRun.1.step (.claim 1 (some 5) 5)) (by decide +kernel)

theorem deadline_signals_early :
    ∃ s next, run ProbeRun.step (.start samplePlan 2) waitingEvents = some s ∧ s.step (.claim 1 (some 5) 5) = some next ∧
      s.signalled (.claim 1 (some 5) 5) = true ∧ ¬ samplePlan.Perm (next.completions ++ next.queue.skipped) :=
  ⟨waitingRun.1, expiredRun.1, waitingRun.2, expiredRun.2, by decide +kernel, by decide +kernel⟩

end LlmperfOrchestrator.Preparation

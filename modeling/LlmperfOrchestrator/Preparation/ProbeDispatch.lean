import LlmperfOrchestrator.Library.Chains
import LlmperfOrchestrator.Library.Runs
import LlmperfOrchestrator.Preparation.ProbePlans

set_option autoImplicit false

namespace LlmperfOrchestrator.Preparation

open Tables Runs Chains

def byOccurrence (requests : List CacheProbeRequest) : List CacheProbeRequest :=
  requests.insertionSort fun a b => a.occurrence ≤ b.occurrence

def byDispatchIndex (requests : List CacheProbeRequest) : List CacheProbeRequest :=
  requests.insertionSort fun a b => a.dispatchIndex ≤ b.dispatchIndex

structure DependentPlanQueue where
  families : Dict String (List CacheProbeRequest)
  ready : List CacheProbeRequest
  skipped : List CacheProbeRequest
  inflight : Int
  closed : Bool
deriving DecidableEq

inductive Claim where
  | waits
  | closed (queue : DependentPlanQueue)
  | granted (queue : DependentPlanQueue) (request : CacheProbeRequest)
deriving DecidableEq

def Claim.isClosed : Claim → Bool
  | .closed _ => true
  | .waits | .granted _ _ => false

namespace DependentPlanQueue

-- self._families.setdefault(request.family_id, []).append(request)
def addRequest (families : Dict String (List CacheProbeRequest)) (request : CacheProbeRequest) :
    Dict String (List CacheProbeRequest) :=
  Dict.put request.familyId ((Dict.get request.familyId families).getD [] ++ [request]) families

def new (plan : List CacheProbeRequest) : DependentPlanQueue :=
  let families := (plan.foldl addRequest []).map fun family => (family.1, byOccurrence family.2)
  { families := families.map fun family => (family.1, family.2.tail)
    ready := byDispatchIndex (families.filterMap fun family => family.2.head?)
    skipped := []
    inflight := 0
    closed := false }

def blocks (queue : DependentPlanQueue) : Bool := queue.ready = [] ∧ queue.inflight ≠ 0 ∧ queue.closed = false

def expires (queue : DependentPlanQueue) (deadline : Option Rat) (now : Rat) : Bool :=
  queue.blocks && deadline.any fun deadline => deadline - now ≤ 0

def claim (queue : DependentPlanQueue) (deadline : Option Rat) (now : Rat) : Claim :=
  if queue.blocks then
    if queue.expires deadline now then .closed { queue with closed := true } else .waits
  else if queue.closed then .closed queue
  else
    match queue.ready with
    | [] => .closed queue
    | request :: rest => .granted { queue with ready := rest, inflight := queue.inflight + 1 } request

def offer (queue : DependentPlanQueue) (request : CacheProbeRequest) : DependentPlanQueue :=
  { queue with ready := byDispatchIndex (queue.ready ++ [request]) }

-- The queue after a request, and the request whose timer was started. An
-- unknown family is a KeyError.
def complete (queue : DependentPlanQueue) (request : CacheProbeRequest) (success : Bool) :
    Option (DependentPlanQueue × Option CacheProbeRequest) :=
  let queue := { queue with inflight := queue.inflight - 1 }
  (Dict.get request.familyId queue.families).map fun remaining =>
    match remaining with
    | [] => (queue, none)
    | next :: rest =>
        if success then
          let queue := { queue with families := Dict.put request.familyId rest queue.families }
          if next.delaySeconds ≠ 0 then ({ queue with inflight := queue.inflight + 1 }, some next)
          else (queue.offer next, none)
        else
          ({ queue with skipped := queue.skipped ++ remaining, families := Dict.put request.familyId [] queue.families }, none)

def release (queue : DependentPlanQueue) (request : CacheProbeRequest) : DependentPlanQueue :=
  { queue with inflight := queue.inflight - 1 }.offer request

def close (queue : DependentPlanQueue) : DependentPlanQueue := { queue with closed := true }

theorem claim_cases (queue : DependentPlanQueue) (deadline : Option Rat) (now : Rat) :
    queue.claim deadline now = .waits ∧ queue.expires deadline now = false ∨
    (∃ flag, queue.claim deadline now = .closed { queue with closed := flag } ∧
      (queue.expires deadline now = false → flag = queue.closed) ∧ (flag = true ∨ queue.ready = [] ∧ queue.inflight = 0)) ∨
    ∃ request rest, queue.ready = request :: rest ∧ queue.expires deadline now = false ∧
      queue.claim deadline now = .granted { queue with ready := rest, inflight := queue.inflight + 1 } request := by
  by_cases blocked : queue.blocks = true
  · by_cases late : queue.expires deadline now = true
    · right
      left
      exact ⟨true, by simp [claim, blocked, late], by simp [late], .inl rfl⟩
    · left
      exact ⟨by simp [claim, blocked, late], by simpa using late⟩
  · have early : queue.expires deadline now = false := by simp [expires, blocked]
    right
    by_cases closed : queue.closed = true
    · left
      exact ⟨true, by simp [claim, blocked, ← closed], fun _ => closed.symm, .inl rfl⟩
    · cases ready : queue.ready with
      | nil =>
          left
          have same : queue.claim deadline now = .closed queue := by simp [claim, blocked, closed, ready]
          refine ⟨queue.closed, by rw [same, ← ready], fun _ => rfl, .inr ⟨rfl, ?_⟩⟩
          by_contra busy
          exact blocked (by simp [blocks, ready, busy, closed])
      | cons request rest =>
          right
          exact ⟨request, rest, rfl, early, by simp [claim, blocked, closed, ready]⟩

theorem complete_cases (queue : DependentPlanQueue) (request : CacheProbeRequest) (success : Bool)
    (result : DependentPlanQueue × Option CacheProbeRequest) (done : queue.complete request success = some result) :
    ∃ remaining, Dict.get request.familyId queue.families = some remaining ∧ result.1.closed = queue.closed ∧
      result.1.inflight = queue.inflight - 1 + result.2.toList.length ∧
      (remaining = [] ∧ result.1.families = queue.families ∧ result.1.skipped = queue.skipped ∧
          result.1.ready = queue.ready ∧ result.2 = none ∨
        (∃ next rest, remaining = next :: rest ∧ success = true ∧
          result.1.families = Dict.put request.familyId rest queue.families ∧ result.1.skipped = queue.skipped ∧
          ∀ timers, (result.1.ready ++ (timers ++ result.2.toList)).Perm (next :: (queue.ready ++ timers))) ∨
        remaining ≠ [] ∧ success = false ∧ result.1.families = Dict.put request.familyId [] queue.families ∧
          result.1.skipped = queue.skipped ++ remaining ∧ result.1.ready = queue.ready ∧ result.2 = none) := by
  obtain ⟨remaining, known, rfl⟩ := Option.map_eq_some_iff.mp done
  refine ⟨remaining, known, ?_⟩
  cases remaining with
  | nil => exact ⟨rfl, by simp, .inl ⟨rfl, rfl, rfl, rfl, rfl⟩⟩
  | cons next rest =>
      cases success with
      | false =>
          refine ⟨rfl, by simp, .inr (.inr ⟨by simp, rfl, rfl, rfl, rfl, rfl⟩)⟩
      | true =>
          by_cases delayed : next.delaySeconds = 0
          · simp only [delayed, ne_eq, not_true_eq_false, if_false, if_true]
            refine ⟨rfl, by simp [offer], .inr (.inl ⟨next, rest, rfl, trivial, rfl, rfl, ?_⟩)⟩
            intro timers
            rw [Option.toList_none, List.append_nil]
            have sorted := List.perm_insertionSort (fun a b : CacheProbeRequest => a.dispatchIndex ≤ b.dispatchIndex) (queue.ready ++ [next])
            exact (sorted.trans (List.perm_append_singleton _ _)).append_right timers
          · simp only [delayed, ne_eq, not_false_eq_true, if_true]
            refine ⟨trivial, by simp, .inr (.inl ⟨next, rest, rfl, trivial, rfl, trivial, ?_⟩)⟩
            intro timers
            rw [Option.toList_some, ← List.append_assoc]
            exact List.perm_append_singleton _ _

end DependentPlanQueue

inductive ProbeThread where
  | idle
  | claiming (deadline : Option Rat)
  | holding (request : CacheProbeRequest)
deriving DecidableEq

def ProbeThread.held : ProbeThread → Option CacheProbeRequest
  | .holding request => some request
  | _ => none

structure ProbeRun where
  queue : DependentPlanQueue
  threads : List ProbeThread
  timers : List CacheProbeRequest
  claims : List CacheProbeRequest
  completions : List CacheProbeRequest
deriving DecidableEq

inductive ProbeEvent where
  | claim (thread : Nat) (deadline : Option Rat) (now : Rat)
  | wake (thread : Nat) (now : Rat)
  | complete (thread : Nat) (success : Bool)
  | fire (timer : Nat)
  | close
deriving DecidableEq

namespace ProbeRun

def start (plan : List CacheProbeRequest) (threads : Nat) : ProbeRun :=
  ⟨.new plan, List.replicate threads .idle, [], [], []⟩

def held (s : ProbeRun) : List CacheProbeRequest := s.threads.filterMap ProbeThread.held

def attempt (s : ProbeRun) (thread : Nat) (deadline : Option Rat) (now : Rat) : ProbeRun :=
  match s.queue.claim deadline now with
  | .waits => { s with threads := s.threads.set thread (.claiming deadline) }
  | .closed queue => { s with queue := queue, threads := s.threads.set thread .idle }
  | .granted queue request =>
      { s with queue := queue, threads := s.threads.set thread (.holding request), claims := s.claims ++ [request] }

def step (s : ProbeRun) : ProbeEvent → Option ProbeRun
  | .claim thread deadline now =>
      if s.threads[thread]? = some .idle then some (s.attempt thread deadline now) else none
  | .wake thread now =>
      match s.threads[thread]? with
      | some (.claiming deadline) => some (s.attempt thread deadline now)
      | _ => none
  | .complete thread success =>
      match s.threads[thread]? with
      | some (.holding request) =>
          (s.queue.complete request success).map fun result =>
            { s with
              queue := result.1, threads := s.threads.set thread .idle, timers := s.timers ++ result.2.toList,
              completions := s.completions ++ [request] }
      | _ => none
  | .fire timer =>
      s.timers[timer]?.map fun request =>
        { s with queue := s.queue.release request, timers := s.timers.eraseIdx timer }
  | .close => some { s with queue := s.queue.close }

def signalled (s : ProbeRun) : ProbeEvent → Bool
  | .claim _ deadline now => (s.queue.claim deadline now).isClosed
  | .wake thread now =>
      match s.threads[thread]? with
      | some (.claiming deadline) => (s.queue.claim deadline now).isClosed
      | _ => false
  | .complete _ _ | .fire _ | .close => false

def closing (s : ProbeRun) : ProbeEvent → Bool
  | .claim _ deadline now => s.queue.expires deadline now
  | .wake thread now =>
      match s.threads[thread]? with
      | some (.claiming deadline) => s.queue.expires deadline now
      | _ => false
  | .close => true
  | .complete _ _ | .fire _ => false

end ProbeRun

def ofFamily (family : String) (requests : List CacheProbeRequest) : List CacheProbeRequest :=
  requests.filter fun request => request.familyId = family

def familyOrder (plan : List CacheProbeRequest) (family : String) : List CacheProbeRequest := byOccurrence (ofFamily family plan)

theorem by_dispatch_perm (requests : List CacheProbeRequest) : (byDispatchIndex requests).Perm requests :=
  List.perm_insertionSort _ requests

variable (plan : List CacheProbeRequest) (family : String)

theorem family_order_perm : (familyOrder plan family).Perm (ofFamily family plan) :=
  List.perm_insertionSort _ _

theorem of_family_append (first second : List CacheProbeRequest) :
    ofFamily family (first ++ second) = ofFamily family first ++ ofFamily family second :=
  List.filter_append first second

variable (request : CacheProbeRequest)

theorem of_family_own (others : List CacheProbeRequest) (own : request.familyId = family) :
    ofFamily family (request :: others) = request :: ofFamily family others :=
  List.filter_cons_of_pos (by simpa using own)

theorem of_family_other (others : List CacheProbeRequest) (other : request.familyId ≠ family) :
    ofFamily family (request :: others) = ofFamily family others :=
  List.filter_cons_of_neg (by simpa using other)

theorem of_family_perm (first second : List CacheProbeRequest) (same : first.Perm second) :
    (ofFamily family first).Perm (ofFamily family second) := same.filter _

theorem mem_of_family (requests : List CacheProbeRequest) (request : CacheProbeRequest) :
    request ∈ ofFamily family requests ↔ request ∈ requests ∧ request.familyId = family := by
  simp [ofFamily]

section Start

theorem grouped_family (plan : List CacheProbeRequest) (families : Dict String (List CacheProbeRequest)) :
    (Dict.get family (plan.foldl DependentPlanQueue.addRequest families)).getD [] =
      (Dict.get family families).getD [] ++ ofFamily family plan := by
  induction plan generalizing families with
  | nil => exact (List.append_nil _).symm
  | cons request rest ih =>
      rw [List.foldl_cons, ih, DependentPlanQueue.addRequest, dict_get_put]
      by_cases own : request.familyId = family
      · rw [if_pos own.symm, of_family_own family request rest own, Option.getD_some, own, List.append_assoc]
        rfl
      · rw [if_neg (Ne.symm own), of_family_other family request rest own]

theorem grouped_keys (families : Dict String (List CacheProbeRequest)) (unique : (Dict.keys families).Nodup) :
    (Dict.keys (plan.foldl DependentPlanQueue.addRequest families)).Nodup := by
  induction plan generalizing families with
  | nil => exact unique
  | cons request rest ih => exact ih _ (dict_keys_put families request.familyId _ unique).1

theorem heads_of_family (families : Dict String (List CacheProbeRequest)) (unique : (Dict.keys families).Nodup)
    (owned : ∀ entry ∈ families, ∀ request ∈ entry.2, request.familyId = entry.1) (family : String) :
    ofFamily family (families.filterMap fun entry => entry.2.head?) = ((Dict.get family families).bind List.head?).toList := by
  induction families with
  | nil => rfl
  | cons entry rest ih =>
      obtain ⟨key, requests⟩ := entry
      simp only [Dict.keys, List.map_cons, List.nodup_cons] at unique
      have later := ih unique.2 fun other member => owned other (List.mem_cons_of_mem _ member)
      by_cases here : key = family
      · have absent : Dict.get family rest = none := dict_get_absent rest family (here ▸ unique.1)
        rw [absent] at later
        rw [Dict.get, if_pos here, filterMap_split, of_family_append, later]
        cases requests with
        | nil => rfl
        | cons request others =>
            have own : request.familyId = family := (owned _ List.mem_cons_self request List.mem_cons_self).trans here
            exact congrArg (· ++ []) (of_family_own family request [] own)
      · rw [Dict.get, if_neg here, ← later, filterMap_split, of_family_append]
        cases requests with
        | nil => rfl
        | cons request others =>
            have other : request.familyId ≠ family := by
              intro own
              exact here ((owned _ List.mem_cons_self request List.mem_cons_self).symm.trans own)
            exact congrArg (· ++ _) (of_family_other family request [] other)

end Start

namespace ProbeRun

def chain (s : ProbeRun) (family : String) : Chain CacheProbeRequest where
  served := ofFamily family s.claims
  offered := ofFamily family (s.queue.ready ++ s.timers)
  held := ofFamily family s.held
  rest := (Dict.get family s.queue.families).getD []
  dropped := ofFamily family s.queue.skipped

end ProbeRun

theorem sorted_families :
    ∃ families : Dict String (List CacheProbeRequest), (Dict.keys families).Nodup ∧
      (∀ family, (Dict.get family families).getD [] = familyOrder plan family) ∧
      (∀ entry ∈ families, ∀ request ∈ entry.2, request.familyId = entry.1) ∧
      (DependentPlanQueue.new plan).families = families.map (fun entry => (entry.1, entry.2.tail)) ∧
      (DependentPlanQueue.new plan).ready = byDispatchIndex (families.filterMap fun entry => entry.2.head?) := by
  have unique := grouped_keys plan [] List.nodup_nil
  have grouped : ∀ family, (Dict.get family (plan.foldl DependentPlanQueue.addRequest [])).getD [] = ofFamily family plan :=
    fun family => grouped_family family plan []
  refine ⟨(plan.foldl DependentPlanQueue.addRequest []).map fun entry => (entry.1, byOccurrence entry.2), ?_, ?_, ?_, rfl, rfl⟩
  · rw [Dict.keys, List.map_map]
    exact unique
  · intro family
    rw [dict_get_map fun _ requests => byOccurrence requests, familyOrder, ← grouped family]
    cases Dict.get family (plan.foldl DependentPlanQueue.addRequest []) with
    | none => rfl
    | some requests => rfl
  · intro entry member request inside
    obtain ⟨⟨key, requests⟩, listed, rfl⟩ := List.mem_map.mp member
    have held : request ∈ requests := (List.perm_insertionSort _ requests).mem_iff.mp inside
    have read := grouped key
    rw [dict_get_of_mem _ key requests unique listed, Option.getD_some] at read
    rw [read] at held
    exact ((mem_of_family key plan request).mp held).2

theorem start_chain (threads : Nat) (family : String) :
    (ProbeRun.start plan threads).chain family =
      ⟨[], (familyOrder plan family).head?.toList, [], (familyOrder plan family).tail, []⟩ := by
  obtain ⟨families, unique, orders, owned, rests, heads⟩ := sorted_families plan
  have order := orders family
  have idle : (ProbeRun.start plan threads).held = [] := by
    rw [ProbeRun.held, List.filterMap_eq_nil_iff]
    intro thread member
    rw [List.eq_of_mem_replicate member]
    rfl
  have offered : ofFamily family ((DependentPlanQueue.new plan).ready ++ []) = (familyOrder plan family).head?.toList := by
    rw [List.append_nil, heads]
    have sorted := of_family_perm family _ _ (by_dispatch_perm (families.filterMap fun entry => entry.2.head?))
    rw [heads_of_family families unique owned family] at sorted
    have same : ((Dict.get family families).bind List.head?).toList = (familyOrder plan family).head?.toList := by
      rw [← order]
      cases Dict.get family families with
      | none => rfl
      | some requests => rfl
    rw [same] at sorted
    refine perm_short _ _ sorted ?_
    cases (familyOrder plan family).head? with
    | none => exact Nat.zero_le _
    | some request => exact Nat.le_refl _
  have rest : (Dict.get family (DependentPlanQueue.new plan).families).getD [] = (familyOrder plan family).tail := by
    rw [rests, dict_get_map fun _ requests => List.tail requests, ← order]
    cases Dict.get family families with
    | none => rfl
    | some requests => rfl
  rw [ProbeRun.chain, idle]
  exact congrArg₂ (fun offered rest => (⟨[], offered, [], rest, []⟩ : Chain CacheProbeRequest)) offered rest

theorem start_sound (threads : Nat) (family : String) :
    Sound (familyOrder plan family) ((ProbeRun.start plan threads).chain family) := by
  rw [start_chain]
  cases familyOrder plan family with
  | nil => exact empty_sound
  | cons request rest => exact fresh_sound request rest

section Steps

variable (s : ProbeRun) (thread : Nat)

theorem held_set (old fresh : ProbeThread) (read : s.threads[thread]? = some old) :
    (old.held.toList ++ (s.threads.set thread fresh).filterMap ProbeThread.held).Perm (fresh.held.toList ++ s.held) :=
  filterMap_set ProbeThread.held s.threads thread old fresh read

theorem held_unchanged (old fresh : ProbeThread) (read : s.threads[thread]? = some old) (free : old.held = none)
    (still : fresh.held = none) : ((s.threads.set thread fresh).filterMap ProbeThread.held).Perm s.held := by
  have change := held_set s thread old fresh read
  rwa [free, still] at change

theorem held_taken (old : ProbeThread) (request : CacheProbeRequest) (read : s.threads[thread]? = some old)
    (free : old.held = none) :
    ((s.threads.set thread (.holding request)).filterMap ProbeThread.held).Perm (request :: s.held) := by
  have change := held_set s thread old (.holding request) read
  rwa [free] at change

theorem held_returned (request : CacheProbeRequest) (read : s.threads[thread]? = some (.holding request)) :
    s.held.Perm (request :: (s.threads.set thread .idle).filterMap ProbeThread.held) :=
  (held_set s thread (.holding request) .idle read).symm

theorem attempt_chain (old : ProbeThread) (deadline : Option Rat) (now : Rat) (read : s.threads[thread]? = some old)
    (free : old.held = none) (family : String) :
    Chains.Step (s.chain family) ((s.attempt thread deadline now).chain family) := by
  rcases s.queue.claim_cases deadline now with ⟨waits, _⟩ | ⟨flag, closed, _, _⟩ | ⟨request, rest, ready, _, granted⟩
  · rw [ProbeRun.attempt, waits]
    exact .stays _ _ rfl (.refl _) (of_family_perm family _ _ (held_unchanged s thread old _ read free rfl)) rfl rfl
  · rw [ProbeRun.attempt, closed]
    exact .stays _ _ rfl (.refl _) (of_family_perm family _ _ (held_unchanged s thread old _ read free rfl)) rfl rfl
  · rw [ProbeRun.attempt, granted]
    have held := of_family_perm family _ _ (held_taken s thread old request read free)
    by_cases own : request.familyId = family
    · rw [of_family_own family request _ own] at held
      refine .serve _ _ request ?_ ?_ held rfl rfl
      · rw [ProbeRun.chain, ProbeRun.chain, of_family_append, of_family_own family request [] own]
        rfl
      · rw [ProbeRun.chain, ready, List.cons_append, of_family_own family request _ own]
        exact .refl _
    · rw [of_family_other family request _ own] at held
      refine .stays _ _ ?_ ?_ held rfl rfl
      · rw [ProbeRun.chain, of_family_append, of_family_other family request [] own]
        exact List.append_nil _
      · rw [ProbeRun.chain, ProbeRun.chain, ready, List.cons_append, of_family_other family request _ own]

theorem remaining_own (plan : List CacheProbeRequest) (family : String) (remaining : List CacheProbeRequest)
    (sound : Sound (familyOrder plan family) (s.chain family))
    (known : Dict.get family s.queue.families = some remaining) : ofFamily family remaining = remaining := by
  rw [ofFamily, List.filter_eq_self]
  intro request member
  have inOrder : request ∈ familyOrder plan family := by
    rw [← sound.whole, ProbeRun.chain, known]
    simp only [Option.getD_some, List.mem_append]
    exact .inl (.inr member)
  have listed := (family_order_perm plan family).mem_iff.mp inOrder
  exact decide_eq_true ((mem_of_family family plan request).mp listed).2

theorem foreign_none (family other : String) (requests : List CacheProbeRequest) (own : ofFamily family requests = requests)
    (different : family ≠ other) : ofFamily other requests = [] := by
  rw [ofFamily, List.filter_eq_nil_iff]
  intro request member same
  rw [← own] at member
  have mine := ((mem_of_family family requests request).mp member).2
  exact different (mine.symm.trans (of_decide_eq_true same))

theorem complete_chain (plan : List CacheProbeRequest) (request : CacheProbeRequest) (success : Bool)
    (result : DependentPlanQueue × Option CacheProbeRequest) (read : s.threads[thread]? = some (.holding request))
    (done : s.queue.complete request success = some result)
    (sound : ∀ family, Sound (familyOrder plan family) (s.chain family)) (family : String) :
    Chains.Step (s.chain family) (ProbeRun.chain
      { s with queue := result.1, threads := s.threads.set thread .idle, timers := s.timers ++ result.2.toList,
               completions := s.completions ++ [request] } family) := by
  have returned := of_family_perm family _ _ (held_returned s thread request read)
  obtain ⟨remaining, known, _, _, cases⟩ := s.queue.complete_cases request success result done
  have mine := remaining_own s plan request.familyId remaining (sound request.familyId) known
  by_cases own : request.familyId = family
  · rw [of_family_own family request _ own] at returned
    rw [own] at known mine
    have rest : (s.chain family).rest = remaining := by
      rw [ProbeRun.chain, known]
      rfl
    rcases cases with ⟨exhausted, families, skipped, ready, timer⟩ | ⟨next, later, shape, _, families, skipped, arrived⟩ |
      ⟨_, _, families, skipped, ready, timer⟩
    · refine .finish _ _ request rfl returned ?_ (rest.trans exhausted) ?_ ?_
      · simp only [ProbeRun.chain, ready, timer, Option.toList_none, List.append_nil]
        exact .refl _
      · simp only [ProbeRun.chain, families, known]
        exact exhausted
      · simp only [ProbeRun.chain, skipped]
    · refine .advance _ _ request rfl returned ⟨next, ?_, ?_⟩ ?_
      · rw [rest, shape]
        simp only [ProbeRun.chain, families, own, dict_get_put, if_true, Option.getD_some]
      · have nextOwn : next.familyId = family := by
          rw [shape] at mine
          exact ((mem_of_family family _ next).mp (mine ▸ List.mem_cons_self)).2
        have grown := of_family_perm family _ _ (arrived s.timers)
        rwa [of_family_own family next _ nextOwn] at grown
      · simp only [ProbeRun.chain, skipped]
    · refine .drop _ _ request rfl returned ?_ ?_ ?_
      · simp only [ProbeRun.chain, ready, timer, Option.toList_none, List.append_nil]
        exact .refl _
      · simp only [ProbeRun.chain, families, own, dict_get_put, if_true, Option.getD_some]
      · rw [rest]
        simp only [ProbeRun.chain, skipped, of_family_append, mine]
  · rw [of_family_other family request _ own] at returned
    have foreign := foreign_none request.familyId family remaining mine own
    refine .stays _ _ rfl ?_ returned.symm ?_ ?_
    · rcases cases with ⟨_, _, _, ready, timer⟩ | ⟨next, later, shape, _, _, _, arrived⟩ | ⟨_, _, _, _, ready, timer⟩
      · simp only [ProbeRun.chain, ready, timer, Option.toList_none, List.append_nil]
        exact .refl _
      · have other : next.familyId ≠ family := by
          intro same
          rw [shape, of_family_own family next _ same] at foreign
          cases foreign
        have grown := of_family_perm family _ _ (arrived s.timers)
        rwa [of_family_other family next _ other] at grown
      · simp only [ProbeRun.chain, ready, timer, Option.toList_none, List.append_nil]
        exact .refl _
    · rcases cases with ⟨_, families, _⟩ | ⟨_, _, _, _, families, _⟩ | ⟨_, _, families, _⟩
      · simp only [ProbeRun.chain, families]
      · simp only [ProbeRun.chain, families, dict_get_put, if_neg (Ne.symm own)]
      · simp only [ProbeRun.chain, families, dict_get_put, if_neg (Ne.symm own)]
    · rcases cases with ⟨_, _, skipped, _⟩ | ⟨_, _, _, _, _, skipped, _⟩ | ⟨_, _, _, skipped, _⟩
      · simp only [ProbeRun.chain, skipped]
      · simp only [ProbeRun.chain, skipped]
      · simp only [ProbeRun.chain, skipped, of_family_append, foreign, List.append_nil]

theorem fire_chain (timer : Nat) (request : CacheProbeRequest) (read : s.timers[timer]? = some request) (family : String) :
    Chains.Step (s.chain family)
      (ProbeRun.chain { s with queue := s.queue.release request, timers := s.timers.eraseIdx timer } family) := by
  refine .stays _ _ rfl (of_family_perm family _ _ ?_) (.refl _) rfl rfl
  obtain ⟨inside, same⟩ := List.getElem?_eq_some_iff.mp read
  have timers := List.getElem_cons_eraseIdx_perm inside
  rw [same] at timers
  have ready := (by_dispatch_perm (s.queue.ready ++ [request])).append_right (s.timers.eraseIdx timer)
  rw [List.append_assoc] at ready
  exact ready.trans (timers.append_left s.queue.ready)

end Steps

end LlmperfOrchestrator.Preparation

import LlmperfOrchestrator.Library.Outcomes
import LlmperfOrchestrator.Library.Runs
import LlmperfOrchestrator.Runtime.Deliveries

set_option autoImplicit false

namespace LlmperfOrchestrator.Runtime.Progression

open Tables Runs Storage

structure Admissible (settings : Settings) (now : Instant) (results : Dict String WorkerResult) (previous : Option String)
    (step : RequestStep) : Prop where
  known : step ∈ settings.steps
  dependencies : ∀ parent ∈ step.dependencies, ∃ result, Dict.get parent results = some result ∧ result.succeeded = true ∧
    result.completedAt + step.delay ≤ now
  created : step.dependencies = [] → settings.createdAt + step.delay ≤ now
  due : ∀ due ∈ step.dueAt, due ≤ now
  cooldown : ∀ cooldown ∈ settings.cooldown, ∀ id, previous = some id →
    ∃ result, Dict.get id results = some result ∧ result.completedAt + cooldown ≤ now

theorem completions_get (results : Dict String WorkerResult) (id : String) :
    Dict.get id (completionsOf results) =
      (Dict.get id results).map fun result => ⟨result.succeeded, result.completedAt⟩ :=
  dict_get_map (fun _ (result : WorkerResult) => (⟨result.succeeded, result.completedAt⟩ : Completion)) results id

variable (settings : Settings)

theorem eligibility_ready (step : RequestStep) (now : Instant) (results : Dict String WorkerResult)
    (ready : (eligibility settings step now results).ready = true)
    (unblocked : (eligibility settings step now results).blocked = false) :
    (∀ parent ∈ step.dependencies, ∃ result, Dict.get parent results = some result ∧ result.succeeded = true ∧
      result.completedAt + step.delay ≤ now) ∧
    (step.dependencies = [] → settings.createdAt + step.delay ≤ now) ∧ ∀ due ∈ step.dueAt, due ≤ now := by
  unfold eligibility at ready unblocked
  split at ready
  · rename_i none
    have reached : max (settings.createdAt + step.delay) (step.dueAt.getD settings.createdAt) ≤ now := of_decide_eq_true ready
    refine ⟨fun parent member => (by rw [none] at member; cases member), fun _ => Int.le_trans (Int.le_max_left _ _) reached,
      fun due given => ?_⟩
    have same : step.dueAt = some due := given
    rw [same, Option.getD_some] at reached
    exact Int.le_trans (Int.le_max_right _ _) reached
  · rename_i some_
    rw [if_neg some_] at unblocked
    dsimp only at ready unblocked
    generalize decided : dependencyTrigger step.dependencies settings.createdAt step.delay now (completionsOf results) = decision
      at ready unblocked
    split at ready
    · rename_i dueAt _ reachedAt
      have facts := dependency_trigger_due _ _ _ _ _ _ ((congrArg Eligibility.dueAt decided).trans reachedAt)
      have reached : max dueAt (step.dueAt.getD dueAt) ≤ now := of_decide_eq_true ready
      refine ⟨fun parent member => ?_, fun none => absurd none some_, fun due given => ?_⟩
      · obtain ⟨completion, found, won, late⟩ := facts.met parent member
        rw [completions_get, Option.map_eq_some_iff] at found
        obtain ⟨result, held, rfl⟩ := found
        exact ⟨result, held, won, Int.le_trans late (Int.le_trans (Int.le_max_left _ _) reached)⟩
      · have same : step.dueAt = some due := given
        rw [same, Option.getD_some] at reached
        exact Int.le_trans (Int.le_max_right _ _) reached
    · rename_i open_
      split at unblocked
      · rename_i notBlocked dueAt
        exact absurd dueAt (open_ _ notBlocked)
      · obtain ⟨due, reachedAt, _⟩ := dependency_trigger_ready step.dependencies settings.createdAt step.delay now
          (completionsOf results) (by rw [decided]; exact ready)
        rw [decided] at reachedAt
        exact absurd reachedAt (open_ due unblocked)

def sentIds (scan : Scan) : List String := (scan.sent.map RequestStep.stepId).reverse

structure ScanInvariant (settings : Settings) (now : Instant) (submitted : List String) (start : Loop) (scan : Scan) : Prop where
  loop : LoopInvariant settings (sentIds scan ++ submitted) scan.loop
  keeps : Keeps start scan.loop
  results : scan.loop.results = start.results
  status : scan.loop.status = start.status
  published : ∀ cancellation ∈ scan.published, known settings cancellation.stepId = true ∧
    Dict.get cancellation.stepId scan.loop.cancelledSteps ≠ none
  sent : scan.sent = [] ∨ ∃ step, scan.sent = [step] ∧ scan.loop.submission ≠ none ∧ step.stepId ∉ submitted ∧
    Admissible settings now start.results submitted.head? step

theorem step_known (step : RequestStep) (member : step ∈ settings.steps) : known settings step.stepId = true :=
  decide_eq_true (List.mem_map_of_mem member)

theorem pop_pending (loop : Loop) (id other : String) (step : RequestStep)
    (found : Dict.get other (Dict.pop id loop.pending) = some step) : other ≠ id ∧ Dict.get other loop.pending = some step := by
  rw [dict_get_pop] at found
  split at found
  · cases found
  · rename_i different
    exact ⟨different, found⟩

variable (now : Instant)

theorem cancel_step_keeps (submitted : List String) (start : Loop) (scan : Scan) (step : RequestStep) (failed : List String)
    (inv : ScanInvariant settings now submitted start scan) (member : step ∈ settings.steps) :
    ScanInvariant settings now submitted start (cancelStep scan step failed) := by
  have held : ∀ id, Dict.get id scan.loop.cancelledSteps ≠ none →
      Dict.get id (cancelStep scan step failed).loop.cancelledSteps ≠ none := by
    intro id held
    simp only [cancelStep, dict_get_put]
    split
    · simp
    · exact held
  refine ⟨⟨(dict_keys_pop _ _ inv.loop.pendingKeys).1, fun id other found => ?_, inv.loop.once, inv.loop.known, inv.loop.results,
    inv.loop.outstanding, inv.loop.accounted, inv.loop.bounded, inv.loop.serial, inv.loop.paced⟩,
    ⟨inv.keeps.results, fun id before => held id (inv.keeps.cancelled id before)⟩, inv.results, inv.status,
    fun cancellation listed => ?_, inv.sent⟩
  · obtain ⟨different, before⟩ := pop_pending scan.loop step.stepId id other found
    obtain ⟨declared, named, fresh, open_⟩ := inv.loop.pending id other before
    exact ⟨declared, named, fresh, by simp only [cancelStep, dict_get_put, if_neg different]; exact open_⟩
  · rcases List.mem_append.mp listed with old | here
    · exact ⟨(inv.published cancellation old).1, held _ (inv.published cancellation old).2⟩
    · rw [List.mem_singleton.mp here]
      exact ⟨step_known settings step member, by simp [cancelStep, dict_get_put]⟩

theorem submit_step_keeps (submitted : List String) (start : Loop) (scan : Scan) (step : RequestStep)
    (inv : ScanInvariant settings now submitted start scan) (waiting : Dict.get step.stepId scan.loop.pending = some step)
    (free : scan.loop.submission = none) (room : capacity settings scan.loop = true)
    (alone : settings.cooldown ≠ none → scan.loop.outstanding = [])
    (admissible : Admissible settings now start.results submitted.head? step) :
    ScanInvariant settings now submitted start (submitStep scan step) := by
  have none : scan.sent = [] := by
    rcases inv.sent with none | ⟨_, _, busy, _⟩
    · exact none
    · exact absurd free busy
  have loop := inv.loop
  simp only [sentIds, none, List.map_nil, List.reverse_nil, List.nil_append] at loop
  obtain ⟨declared, _, fresh, _⟩ := loop.pending step.stepId step waiting
  have unanswered : Dict.get step.stepId scan.loop.results = Option.none := by
    cases found : Dict.get step.stepId scan.loop.results with
    | none => rfl
    | some result => exact absurd (loop.results _ result found) fresh
  have ids : sentIds (submitStep scan step) ++ submitted = step.stepId :: submitted := by
    simp [sentIds, submitStep, none]
  refine ⟨?_, ⟨inv.keeps.results, inv.keeps.cancelled⟩, inv.results, inv.status, inv.published,
    .inr ⟨step, by simp [submitStep, none], by simp [submitStep], fresh, admissible⟩⟩
  rw [ids]
  refine ⟨(dict_keys_pop _ _ loop.pendingKeys).1, fun id other found => ?_, List.nodup_cons.mpr ⟨fresh, loop.once⟩, fun id member => ?_,
    fun id result found => List.mem_cons_of_mem _ (loop.results id result found), fun id member => ?_, fun id member => ?_,
    fun window bound => ?_, fun serial id member => ?_, fun cooldown _ id result head found => ?_⟩
  · obtain ⟨different, before⟩ := pop_pending scan.loop step.stepId id other found
    obtain ⟨declared', named, unsent, open_⟩ := loop.pending id other before
    exact ⟨declared', named, fun bad => (List.mem_cons.mp bad).elim different unsent, open_⟩
  · rcases List.mem_cons.mp member with rfl | old
    · exact step_known settings step declared
    · exact loop.known id old
  · rcases List.mem_cons.mp member with rfl | old
    · exact ⟨List.mem_cons_self, unanswered⟩
    · exact ⟨List.mem_cons_of_mem _ (loop.outstanding id old).1, (loop.outstanding id old).2⟩
  · rcases List.mem_cons.mp member with rfl | old
    · exact .inl List.mem_cons_self
    · exact (loop.accounted id old).imp_left (List.mem_cons_of_mem _)
  · exact of_decide_eq_true room window bound
  · simp only [submitStep, alone serial, List.mem_singleton] at member
    rw [member, List.head?_cons]
  · obtain rfl : step.stepId = id := by simpa using head
    rw [show (submitStep scan step).loop.results = scan.loop.results from rfl, unanswered] at found
    cases found

theorem gate_passed (loop : Loop) (passed : gate settings now loop = .passed) (serial : settings.cooldown ≠ none) :
    loop.outstanding = [] ∧ ∀ dueAt ∈ loop.nextWorkerAt, dueAt ≤ now := by
  unfold gate at passed
  rw [if_neg serial] at passed
  split at passed
  · cases passed
  · rename_i free
    have empty : loop.outstanding = [] := by
      by_contra other
      exact free (.inl other)
    refine ⟨empty, fun dueAt set => ?_⟩
    rw [show loop.nextWorkerAt = some dueAt from set] at passed
    dsimp only at passed
    split at passed
    · cases passed
    · rename_i late
      exact Int.not_lt.mp late

theorem visit_keeps (beforeDeadline : Bool) (submitted : List String) (start : Loop) (scan : Scan) (step : RequestStep)
    (inv : ScanInvariant settings now submitted start scan) (waiting : Dict.get step.stepId scan.loop.pending = some step)
    (passed : gate settings now scan.loop = .passed) :
    ScanInvariant settings now submitted start (visit settings now beforeDeadline scan step) := by
  have declared := (inv.loop.pending step.stepId step waiting).1
  unfold visit
  dsimp only
  split
  · exact cancel_step_keeps settings now submitted start scan step _ inv declared
  · split
    · exact inv
    · split
      · exact cancel_step_keeps settings now submitted start scan step _ inv declared
      · rename_i unblocked
        split
        · rename_i ready
          split
          · rename_i allowed
            obtain ⟨free, room, _⟩ := allowed
            obtain ⟨dependencies, created, due⟩ := eligibility_ready settings step now scan.loop.results ready (by simpa using unblocked)
            rw [inv.results] at dependencies
            refine submit_step_keeps settings now submitted start scan step inv waiting free room
              (fun serial => (gate_passed settings now scan.loop passed serial).1)
              ⟨declared, dependencies, created, due, fun cooldown set id head => ?_⟩
            obtain ⟨idle, paused⟩ := gate_passed settings now scan.loop passed (by rw [show settings.cooldown = some cooldown from set]; simp)
            have none : scan.sent = [] := by
              rcases inv.sent with none | ⟨_, _, busy, _⟩
              · exact none
              · exact absurd free busy
            have loop := inv.loop
            simp only [sentIds, none, List.map_nil, List.reverse_nil, List.nil_append] at loop
            have recorded := (loop.accounted id (List.mem_of_mem_head? head)).resolve_left (by rw [idle]; simp)
            obtain ⟨result, found⟩ := Option.ne_none_iff_exists'.mp recorded
            exact ⟨result, inv.results ▸ found, paused _ (loop.paced cooldown set id result head found)⟩
          · exact inv
        · unfold postpone
          split
          · exact inv
          · exact ⟨inv.loop, inv.keeps, inv.results, inv.status, inv.published, inv.sent⟩

theorem visit_others (beforeDeadline : Bool) (scan : Scan) (step : RequestStep) (id : String) (other : id ≠ step.stepId) :
    Dict.get id (visit settings now beforeDeadline scan step).loop.pending = Dict.get id scan.loop.pending := by
  have popped : Dict.get id (Dict.pop step.stepId scan.loop.pending) = Dict.get id scan.loop.pending := by
    rw [dict_get_pop, if_neg other]
  unfold visit
  dsimp only
  split
  · exact popped
  · split
    · rfl
    · split
      · exact popped
      · split
        · split
          · exact popped
          · rfl
        · unfold postpone
          split <;> rfl

theorem scan_pending_keeps (beforeDeadline : Bool) (submitted : List String) (start : Loop) (items : List (String × RequestStep))
    (scan : Scan) (inv : ScanInvariant settings now submitted start scan) (unique : (Dict.keys items).Nodup)
    (waiting : ∀ item ∈ items, Dict.get item.1 scan.loop.pending = some item.2) :
    ScanInvariant settings now submitted start (scanPending settings now beforeDeadline items scan) := by
  induction items generalizing scan with
  | nil => exact inv
  | cons item rest ih =>
      obtain ⟨id, step⟩ := item
      simp only [Dict.keys, List.map_cons, List.nodup_cons] at unique
      have here : Dict.get id scan.loop.pending = some step := waiting (id, step) List.mem_cons_self
      obtain rfl : step.stepId = id := (inv.loop.pending id step here).2.1
      unfold scanPending
      split
      · exact inv
      · exact ⟨inv.loop, inv.keeps, inv.results, inv.status, inv.published, inv.sent⟩
      · rename_i passed
        refine ih _ (visit_keeps settings now beforeDeadline submitted start scan step inv here passed) unique.2 fun other member => ?_
        have different : other.1 ≠ step.stepId := fun same => unique.1 (List.mem_map.mpr ⟨other, member, same⟩)
        rw [visit_others settings now beforeDeadline scan step other.1 different]
        exact waiting other (List.mem_cons_of_mem _ member)

theorem pending_entry (dict : Dict String RequestStep) (unique : (Dict.keys dict).Nodup) (item : String × RequestStep)
    (member : item ∈ dict) : Dict.get item.1 dict = some item.2 := dict_get_of_mem dict item.1 item.2 unique member

structure SubmissionInvariant (settings : Settings) (s : State) : Prop where
  loop : LoopInvariant settings s.submitted s.loop
  posted : ∀ message ∈ s.posted, Committed settings s.submitted s.loop message
  processed : ∀ message ∈ s.processed, Absorbed settings s.loop message
  recorded : ∀ id result, Dict.get id s.loop.results = some result → Delivered.completed result ∈ s.posted ∧ result.stepId = id

-- One iteration of run() that takes committed messages.
structure Iterated (settings : Settings) (s : State) (wake : Wake) (scan : Scan) : Prop where
  loop : LoopInvariant settings (sentIds scan ++ s.submitted) scan.loop
  keeps : Keeps s.loop scan.loop
  absorbed : ¬ idle s.loop = true → ∀ message ∈ wake.messages, Absorbed settings scan.loop message
  published : ∀ cancellation ∈ scan.published, known settings cancellation.stepId = true ∧
    Dict.get cancellation.stepId scan.loop.cancelledSteps ≠ none
  sent : scan.sent = [] ∨ ∃ step, scan.sent = [step] ∧ step.stepId ∉ s.submitted ∧
    Admissible settings wake.now scan.loop.results s.submitted.head? step
  sources : ∀ id result, Dict.get id scan.loop.results = some result →
    Dict.get id s.loop.results = some result ∨ (Delivered.completed result ∈ wake.messages ∧ result.stepId = id)

theorem settle_same (loop : Loop) (expired : Bool) : (settle loop expired).pending = loop.pending ∧
    (settle loop expired).results = loop.results ∧ (settle loop expired).cancelledSteps = loop.cancelledSteps ∧
    (settle loop expired).outstanding = loop.outstanding ∧ (settle loop expired).nextWorkerAt = loop.nextWorkerAt := by
  unfold settle
  split
  · exact ⟨rfl, rfl, rfl, rfl, rfl⟩
  · split
    · exact ⟨rfl, rfl, rfl, rfl, rfl⟩
    · split <;> exact ⟨rfl, rfl, rfl, rfl, rfl⟩

variable (s : State)

theorem iterate_keeps (wake : Wake) (inv : SubmissionInvariant settings s) (running : s.loop.status = .running)
    (available : ∀ message ∈ wake.messages, message ∈ s.posted) : Iterated settings s wake (iterate settings s.loop wake) := by
  unfold iterate
  split
  · rename_i done
    exact ⟨loop_invariant_same settings s.submitted s.loop _ inv.loop rfl rfl rfl rfl rfl, keeps_same s.loop _ rfl rfl,
      fun busy => absurd done busy, (fun _ none => by cases none), .inl rfl, fun _ _ found => .inl found⟩
  · obtain ⟨loop, keeps, status, _, _, absorbed⟩ := deliver_committed settings s.submitted wake.messages s.loop inv.loop
      fun message member => inv.posted message (available message member)
    dsimp only
    rw [if_neg (by rw [status, running]; simp)]
    have ready : LoopInvariant settings s.submitted (collectTasks (deliver settings wake.messages s.loop) wake) :=
      loop_invariant_same settings s.submitted _ _ loop rfl rfl rfl rfl rfl
    have scanned := scan_pending_keeps settings wake.now wake.beforeDeadline s.submitted
      (collectTasks (deliver settings wake.messages s.loop) wake) (collectTasks (deliver settings wake.messages s.loop) wake).pending
      ⟨collectTasks (deliver settings wake.messages s.loop) wake, none, [], []⟩
      ⟨ready, keeps_refl _, rfl, rfl, (fun _ none => by cases none), .inl rfl⟩ ready.pendingKeys
      fun item member => pending_entry _ ready.pendingKeys item member
    generalize scanPending settings wake.now wake.beforeDeadline
      (collectTasks (deliver settings wake.messages s.loop) wake).pending
      ⟨collectTasks (deliver settings wake.messages s.loop) wake, none, [], []⟩ = scan at scanned
    obtain ⟨pending, results, cancelled, outstanding, paced⟩ :=
      settle_same { scan.loop with timerDue := nextTimer scan.nextDue scan.loop.timerDue } wake.expired
    have settled : Keeps scan.loop (settle { scan.loop with timerDue := nextTimer scan.nextDue scan.loop.timerDue } wake.expired) :=
      keeps_same scan.loop _ results cancelled
    have collected : Keeps (deliver settings wake.messages s.loop) (collectTasks (deliver settings wake.messages s.loop) wake) :=
      keeps_same _ _ rfl rfl
    have later := keeps_trans _ _ _ collected (keeps_trans _ _ _ scanned.keeps settled)
    refine ⟨loop_invariant_same settings _ scan.loop _ scanned.loop pending results cancelled outstanding paced,
      keeps_trans _ _ _ keeps later, fun _ message member => ?_, fun cancellation listed => ?_, ?_, fun id result found => ?_⟩
    · exact absorbed_keeps settings (deliver settings wake.messages s.loop) _ later message (absorbed message member)
    · exact ⟨(scanned.published cancellation listed).1, settled.cancelled _ (scanned.published cancellation listed).2⟩
    · rcases scanned.sent with none | ⟨step, one, _, fresh, admissible⟩
      · exact .inl none
      · refine .inr ⟨step, one, fresh, ?_⟩
        rw [show (settle { scan.loop with timerDue := nextTimer scan.nextDue scan.loop.timerDue } wake.expired).results =
          (collectTasks (deliver settings wake.messages s.loop) wake).results from results.trans scanned.results]
        exact admissible
    · exact deliver_sources settings wake.messages s.loop id result ((results.trans scanned.results) ▸ found)

theorem wake_keeps (wake : Wake) (inv : SubmissionInvariant settings s) (running : s.loop.status = .running)
    (available : ∀ message ∈ wake.messages, message ∈ s.posted) : SubmissionInvariant settings (wakeStep settings s wake) := by
  obtain ⟨loop, keeps, absorbed, published, _, sources⟩ := iterate_keeps settings s wake inv running available
  refine ⟨loop, fun message member => ?_, fun message member => ?_, fun id result found => ?_⟩
  · rcases List.mem_append.mp member with old | fresh
    · exact committed_keeps settings s.submitted _ s.loop _ keeps (fun id => List.mem_append_right _) message (inv.posted message old)
    · obtain ⟨cancellation, listed, rfl⟩ := List.mem_map.mp fresh
      exact published cancellation listed
  · simp only [wakeStep] at member
    split at member
    · exact absorbed_keeps settings s.loop _ keeps message (inv.processed message member)
    · rename_i busy
      rcases List.mem_append.mp member with old | fresh
      · exact absorbed_keeps settings s.loop _ keeps message (inv.processed message old)
      · exact absorbed busy message fresh
  · rcases sources id result found with old | ⟨delivered, named⟩
    · exact ⟨List.mem_append_left _ (inv.recorded id result old).1, (inv.recorded id result old).2⟩
    · exact ⟨List.mem_append_left _ (available _ delivered), named⟩

theorem submission_step (event : Event) (next : State) (inv : SubmissionInvariant settings s)
    (taken : step settings s event = some next) : SubmissionInvariant settings next := by
  cases event with
  | tick later =>
      simp only [step] at taken
      split at taken <;> cases taken
      exact ⟨inv.loop, inv.posted, inv.processed, inv.recorded⟩
  | complete result =>
      simp only [step] at taken
      split at taken <;> cases taken
      rename_i member
      exact ⟨inv.loop, forall_append _ s.posted _ inv.posted member, inv.processed, fun id result found =>
        ⟨List.mem_append_left _ (inv.recorded id result found).1, (inv.recorded id result found).2⟩⟩
  | fire =>
      cases taken
      exact ⟨inv.loop, forall_append _ s.posted _ inv.posted rfl, inv.processed, fun id result found =>
        ⟨List.mem_append_left _ (inv.recorded id result found).1, (inv.recorded id result found).2⟩⟩
  | wake messages submissionDone timerDone beforeDeadline expired =>
      simp only [step] at taken
      split at taken <;> cases taken
      rename_i allowed
      exact wake_keeps settings s _ inv allowed.1 allowed.2.1
  | interrupt error =>
      cases taken
      refine ⟨loop_invariant_same settings s.submitted s.loop _ inv.loop rfl rfl rfl rfl rfl, fun message member => ?_,
        fun message member => ?_, inv.recorded⟩
      · exact committed_keeps settings s.submitted s.submitted s.loop _ (keeps_same s.loop _ rfl rfl) (fun _ => id) message (inv.posted message member)
      · exact absorbed_keeps settings s.loop _ (keeps_same s.loop _ rfl rfl) message (inv.processed message member)

theorem initial_pending (steps : List RequestStep) (id : String) (step : RequestStep)
    (found : Dict.get id (steps.map fun step => (step.stepId, step)) = some step) : step ∈ steps ∧ step.stepId = id := by
  obtain ⟨other, member, same⟩ := List.mem_map.mp (dict_get_mem _ id step found)
  cases same
  exact ⟨member, rfl⟩

theorem runtime_settings (steps : List RequestStep) (createdAt : Instant) (timeout : Rat) (maxOutstandingWorkers : Option Int)
    (cooldown : Option Nat) (settings : Settings)
    (accepted : runnerRuntime steps createdAt timeout maxOutstandingWorkers cooldown = .ok settings) :
    settings.steps = steps ∧ (steps.map RequestStep.stepId).Nodup ∧ checkSteps steps [] = .ok () ∧
      ∀ window ∈ settings.window, 0 < window := by
  unfold runnerRuntime at accepted
  obtain ⟨_, checked, opened⟩ := (Outcomes.bind_ok _ _ _).mp accepted
  unfold workflowTaskLogic at checked
  split at checked
  · cases checked
  · rename_i unique
    split at opened
    · cases opened
    · rename_i positive
      split at opened
      · cases opened
      · split at opened <;> cases opened
        refine ⟨rfl, not_not.mp unique, checked, fun window bound => ?_⟩
        dsimp only at bound
        split at bound
        · cases bound
          exact Nat.one_pos
        · obtain ⟨limit, given, rfl⟩ := Option.map_eq_some_iff.mp bound
          by_contra zero
          exact positive ⟨limit, given, by omega⟩

theorem initial_submissions (clock : Instant) (unique : (settings.steps.map RequestStep.stepId).Nodup) :
    SubmissionInvariant settings (State.initial settings clock) := by
  refine ⟨⟨?_, fun id step found => ?_, List.nodup_nil, (fun _ none => by cases none), (fun _ _ none => by cases none),
    (fun _ none => by cases none), (fun _ none => by cases none), fun window _ => Nat.zero_le window,
    (fun _ _ none => by cases none), (fun _ _ _ _ none => by cases none)⟩, (fun _ none => by cases none), (fun _ none => by cases none), fun _ _ none => by cases none⟩
  · simpa [Dict.keys, State.initial, Loop.initial, Function.comp_def] using unique
  · obtain ⟨member, named⟩ := initial_pending settings.steps id step found
    exact ⟨member, named, (fun bad => by cases bad), rfl⟩

def completes (id : String) : Delivered → Bool
  | .completed result => result.stepId = id
  | .cancelled _ | .other _ => false

def unfinished (s : State) : List String := s.submitted.filter fun id => ¬ s.posted.any (completes id)

theorem unfinished_outstanding (inv : SubmissionInvariant settings s) (id : String) (member : id ∈ unfinished s) :
    id ∈ s.loop.outstanding := by
  obtain ⟨sent, open_⟩ := List.mem_filter.mp member
  refine (inv.loop.accounted id sent).resolve_right fun held => ?_
  obtain ⟨result, found⟩ := Option.ne_none_iff_exists'.mp held
  obtain ⟨posted, named⟩ := inv.recorded id result found
  exact of_decide_eq_true open_ (List.any_eq_true.mpr ⟨_, posted, decide_eq_true named⟩)

theorem unfinished_bounded (inv : SubmissionInvariant settings s) (window : Nat) (bound : window ∈ settings.window) :
    (unfinished s).length ≤ window := by
  have unique : (unfinished s).Nodup := inv.loop.once.filter _
  have subset : unfinished s ⊆ s.loop.outstanding := fun id member => unfinished_outstanding settings s inv id member
  exact Nat.le_trans (List.subperm_of_subset unique subset).length_le (inv.loop.bounded window bound)

structure SubmissionContract (settings : Settings) (s : State) : Prop where
  submits : ∀ event next, step settings s event = some next → next.submitted = s.submitted ∨
    ∃ step, next.submitted = step.stepId :: s.submitted ∧ step.stepId ∉ s.submitted ∧
      Admissible settings s.clock next.loop.results s.submitted.head? step
  once : s.submitted.Nodup
  window : ∀ window ∈ settings.window, s.loop.outstanding.length ≤ window ∧ (unfinished s).length ≤ window
  recorded : ∀ id result, Dict.get id s.loop.results = some result → ∀ later last, run (step settings) s later = some last →
    Dict.get id last.loop.results = some result
  redelivery : ∀ messages, (∀ message ∈ messages, message ∈ s.processed) → deliver settings messages s.loop = s.loop

theorem step_submits (event : Event) (next : State) (inv : SubmissionInvariant settings s)
    (taken : step settings s event = some next) : Keeps s.loop next.loop ∧ (next.submitted = s.submitted ∨
      ∃ step, next.submitted = step.stepId :: s.submitted ∧ step.stepId ∉ s.submitted ∧
        Admissible settings s.clock next.loop.results s.submitted.head? step) := by
  cases event with
  | tick later =>
      simp only [step] at taken
      split at taken <;> cases taken
      exact ⟨keeps_refl s.loop, .inl rfl⟩
  | complete result =>
      simp only [step] at taken
      split at taken <;> cases taken
      exact ⟨keeps_refl s.loop, .inl rfl⟩
  | fire =>
      cases taken
      exact ⟨keeps_refl s.loop, .inl rfl⟩
  | wake messages submissionDone timerDone beforeDeadline expired =>
      simp only [step] at taken
      split at taken <;> cases taken
      rename_i allowed
      obtain ⟨_, keeps, _, _, sent, _⟩ := iterate_keeps settings s ⟨messages, submissionDone, timerDone, s.clock, beforeDeadline, expired⟩
        inv allowed.1 allowed.2.1
      refine ⟨keeps, ?_⟩
      rcases sent with none | ⟨step, one, fresh, admissible⟩
      · exact .inl (by simp [wakeStep, none])
      · exact .inr ⟨step, by simp [wakeStep, one], fresh, admissible⟩
  | interrupt error =>
      cases taken
      exact ⟨keeps_same s.loop _ rfl rfl, .inl rfl⟩

theorem submission_contract (inv : SubmissionInvariant settings s) : SubmissionContract settings s := by
  refine ⟨fun event next taken => (step_submits settings s event next inv taken).2, inv.loop.once, fun window bound =>
    ⟨inv.loop.bounded window bound, unfinished_bounded settings s inv window bound⟩, fun id result found later last ran => ?_,
    fun messages processed => ?_⟩
  · have keeps := run_relates (step settings) (SubmissionInvariant settings) (fun a b => Keeps a.loop b.loop)
      (fun a => keeps_refl a.loop) (fun a b c => keeps_trans a.loop b.loop c.loop) (submission_step settings)
      (fun a event b held taken => (step_submits settings a event b held taken).1) later s last inv ran
    exact keeps.results id result found
  · exact deliver_absorbed settings s.submitted messages s.loop inv.loop fun message member => inv.processed message (processed message member)

theorem runner_submissions (steps : List RequestStep) (createdAt clock : Instant) (timeout : Rat) (maxOutstandingWorkers : Option Int)
    (cooldown : Option Nat) (settings : Settings) (events : List Event) (s : State)
    (accepted : runnerRuntime steps createdAt timeout maxOutstandingWorkers cooldown = .ok settings)
    (reached : run (step settings) (State.initial settings clock) events = some s) : SubmissionContract settings s := by
  obtain ⟨same, unique, _, _⟩ := runtime_settings steps createdAt timeout maxOutstandingWorkers cooldown settings accepted
  exact submission_contract settings s (run_invariant (step settings) (SubmissionInvariant settings) (submission_step settings)
    events (State.initial settings clock) s (initial_submissions settings clock (same ▸ unique)) reached)

def serialSteps : List RequestStep := [⟨"0", [], [], 0, none, none⟩, ⟨"1", ["0"], [], 0, none, none⟩]

def serialSettings : Settings := ⟨serialSteps, 0, some 1, some 2⟩

def answer : WorkerResult := ⟨"0", [], "", .null, 5⟩

def serialEvents : List Event :=
  [.wake [] false false true false, .complete answer, .tick 6, .wake [.completed answer, .completed answer] true false true false,
    .tick 7, .wake [.completed answer] false true true false]

theorem runner_submissions_serial : ∃ s, run (step serialSettings) (State.initial serialSettings 0) serialEvents = some s ∧
    SubmissionContract serialSettings s ∧ s.submitted = ["1", "0"] :=
  ⟨_, rfl, runner_submissions serialSteps 0 0 60 none (some 2) serialSettings serialEvents _ rfl rfl, rfl⟩

end LlmperfOrchestrator.Runtime.Progression

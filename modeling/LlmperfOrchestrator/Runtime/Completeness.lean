import LlmperfOrchestrator.Runtime.PendingScan

set_option autoImplicit false

namespace LlmperfOrchestrator.Runtime.Progression

open Tables Runs Storage Cascade

theorem idle_settle (loop : Loop) (expired : Bool) : idle (settle loop expired) = idle loop := by
  unfold settle
  split
  · rfl
  · split
    · rfl
    · split <;> rfl

theorem timer_quiet (nextDue timerDue : Option Instant) (none_ : nextTimer nextDue timerDue = none) : nextDue = none := by
  unfold nextTimer at none_
  split at none_
  · rfl
  · cases none_
  · split at none_ <;> cases none_

structure Completed (settings : Settings) (submitted : List String) (scan : Scan) : Prop where
  sorted : Sorted settings (sentIds scan ++ submitted) scan.loop
  unraised : ∀ error, scan.loop.status ≠ .raised error
  finished : scan.loop.status = .finished → idle scan.loop = true

structure Accepted (settings : Settings) : Prop where
  ordered : Topological RequestStep.stepId RequestStep.dependencies settings.steps []
  unique : (settings.steps.map RequestStep.stepId).Nodup
  windows : ∀ window ∈ settings.window, 0 < window

variable (settings : Settings)

theorem settle_sorted (submitted : List String) (scan : Scan) (expired : Bool) (accepted : Accepted settings)
    (inv : LoopInvariant settings (sentIds scan ++ submitted) scan.loop)
    (sorted : Sorted settings (sentIds scan ++ submitted) scan.loop) (running : scan.loop.status = .running)
    (stalled : expired = false → Quiet scan → ∀ item ∈ scan.loop.pending, Waits scan.loop item.2) :
    Completed settings submitted
      { scan with loop := settle { scan.loop with timerDue := nextTimer scan.nextDue scan.loop.timerDue } expired } := by
  obtain ⟨pending, results, cancelled, _, _⟩ :=
    settle_same { scan.loop with timerDue := nextTimer scan.nextDue scan.loop.timerDue } expired
  refine ⟨sorted_keeps settings _ scan.loop _ sorted (keeps_same _ _ results cancelled) pending cancelled, fun error => ?_, fun ended => ?_⟩
  · unfold settle
    split
    · simp
    · rename_i busy
      split
      · simp
      · rename_i early
        split
        · rename_i stuck
          obtain ⟨waiting, answered, free, untimed⟩ := stuck
          have quiet : Quiet scan := ⟨answered, free, timer_quiet _ _ untimed⟩
          have empty := waiting_none settings _ scan.loop inv sorted accepted.ordered accepted.unique answered
            (stalled (by simpa using early) quiet)
          exact absurd empty waiting
        · rw [running]
          simp
  · rw [idle_settle]
    unfold settle at ended
    split at ended
    · assumption
    · split at ended
      · cases ended
      · split at ended
        · cases ended
        · rw [running] at ended
          cases ended

theorem iterate_completes (s : State) (wake : Wake) (accepted : Accepted settings) (inv : SubmissionInvariant settings s)
    (sorted : Sorted settings s.submitted s.loop) (running : s.loop.status = .running)
    (available : ∀ message ∈ wake.messages, message ∈ s.posted) (deadline : wake.beforeDeadline ∨ wake.expired) :
    Completed settings s.submitted (iterate settings s.loop wake) := by
  unfold iterate
  split
  · rename_i done
    refine ⟨sorted_keeps settings _ s.loop _ sorted (keeps_same _ _ rfl rfl) rfl rfl, fun error => ?_, fun _ => done⟩
    simp
  · have delivery := deliver_committed settings s.submitted wake.messages s.loop inv.loop
      fun message member => inv.posted message (available message member)
    dsimp only
    rw [if_neg (by rw [delivery.status, running]; simp)]
    generalize collected : collectTasks (deliver settings wake.messages s.loop) wake = ready
    have loop : LoopInvariant settings s.submitted ready := by
      rw [← collected]
      exact loop_invariant_same settings s.submitted _ _ delivery.loop rfl rfl rfl rfl rfl
    have known : Sorted settings s.submitted ready := by
      rw [← collected]
      exact sorted_keeps settings s.submitted s.loop _ sorted (keeps_trans _ _ _ delivery.keeps (keeps_same _ _ rfl rfl))
        delivery.pending delivery.cancelled
    have status : ready.status = .running := by
      rw [← collected]
      exact delivery.status.trans running
    have start : ScanInvariant settings wake.now s.submitted ready ⟨ready, none, [], []⟩ :=
      ⟨loop, keeps_refl _, rfl, rfl, (fun _ bad => by cases bad), .inl rfl⟩
    have entries := fun item member => pending_entry ready.pending loop.pendingKeys item member
    have scanned := scan_pending_keeps settings wake.now wake.beforeDeadline s.submitted ready ready.pending _ start
      loop.pendingKeys entries
    apply settle_sorted settings s.submitted _ wake.expired accepted scanned.loop
      (scan_pending_sorted settings wake.now wake.beforeDeadline s.submitted ready ready.pending _ start known loop.pendingKeys entries)
      (scanned.status.trans status)
    intro early quiet item member
    have before : wake.beforeDeadline = true := deadline.resolve_right (by rw [early]; simp)
    obtain ⟨_, apart⟩ := topological_pairwise _ _ settings.steps [] accepted.ordered accepted.unique fun _ _ bad => by cases bad
    have pairs : ready.pending.Pairwise fun early late => late.2.stepId ∉ early.2.dependencies :=
      (List.pairwise_map.mpr apart).sublist known.ordered
    rw [before] at quiet member scanned ⊢
    have named : ∀ item ∈ ready.pending, item.2.stepId = item.1 :=
      fun item listed => (loop.pending item.1 item.2 (entries item listed)).2.1
    have was := (scan_pending_frame settings wake.now true ready.pending ⟨ready, none, [], []⟩).pending item member
    exact scan_pending_waits settings wake.now ready.pending _ accepted.windows named pairs quiet item was member

structure CompletenessInvariant (settings : Settings) (s : State) : Prop where
  submissions : SubmissionInvariant settings s
  sorted : Sorted settings s.submitted s.loop
  finished : s.loop.status = .finished → idle s.loop = true

theorem completeness_step (accepted : Accepted settings) (s : State) (event : Event) (next : State)
    (inv : CompletenessInvariant settings s) (taken : step settings s event = some next) : CompletenessInvariant settings next := by
  have submissions := submission_step settings s event next inv.submissions taken
  cases event with
  | tick later =>
      simp only [step] at taken
      split at taken <;> cases taken
      exact ⟨submissions, inv.sorted, inv.finished⟩
  | complete result =>
      simp only [step] at taken
      split at taken <;> cases taken
      exact ⟨submissions, inv.sorted, inv.finished⟩
  | fire =>
      cases taken
      exact ⟨submissions, inv.sorted, inv.finished⟩
  | wake messages submissionDone timerDone beforeDeadline expired =>
      simp only [step] at taken
      split at taken <;> cases taken
      rename_i allowed
      obtain ⟨running, available, deadline⟩ := allowed
      have completed := iterate_completes settings s ⟨messages, submissionDone, timerDone, s.clock, beforeDeadline, expired⟩
        accepted inv.submissions inv.sorted running available deadline
      exact ⟨submissions, completed.sorted, completed.finished⟩
  | interrupt error =>
      cases taken
      exact ⟨submissions, sorted_keeps settings _ s.loop _ inv.sorted (keeps_same _ _ rfl rfl) rfl rfl, fun bad => by cases bad⟩

theorem initial_sorted (clock : Instant) (unique : (settings.steps.map RequestStep.stepId).Nodup) :
    CompletenessInvariant settings (State.initial settings clock) := by
  refine ⟨initial_submissions settings clock unique, ⟨List.Sublist.refl _, fun step member => .inl ?_,
    (fun _ bad => by cases bad), fun _ bad => absurd rfl bad⟩, fun bad => by cases bad⟩
  have keys : (Dict.keys (Loop.initial settings).pending).Nodup := by
    simpa [Dict.keys, Loop.initial, Function.comp_def] using unique
  have entry : (step.stepId, step) ∈ (Loop.initial settings).pending := List.mem_map_of_mem member
  have found : Dict.get step.stepId (Loop.initial settings).pending = some step := pending_entry _ keys _ entry
  rw [State.initial, found]
  simp

theorem step_raises (accepted : Accepted settings) (s : State) (event : Event) (next : State) (error : String)
    (inv : CompletenessInvariant settings s) (taken : step settings s event = some next)
    (raised : next.loop.status = .raised error) : s.loop.status = .raised error ∨ event = .interrupt error := by
  cases event with
  | tick later =>
      simp only [step] at taken
      split at taken <;> cases taken
      exact .inl raised
  | complete result =>
      simp only [step] at taken
      split at taken <;> cases taken
      exact .inl raised
  | fire =>
      cases taken
      exact .inl raised
  | wake messages submissionDone timerDone beforeDeadline expired =>
      simp only [step] at taken
      split at taken <;> cases taken
      rename_i allowed
      obtain ⟨running, available, deadline⟩ := allowed
      have completed := iterate_completes settings s ⟨messages, submissionDone, timerDone, s.clock, beforeDeadline, expired⟩
        accepted inv.submissions inv.sorted running available deadline
      exact absurd raised (completed.unraised error)
  | interrupt other =>
      cases taken
      cases raised
      exact .inr rfl

def Failed (loop : Loop) (id : String) : Prop := ∃ result, Dict.get id loop.results = some result ∧ result.succeeded = false

structure Complete (settings : Settings) (loop : Loop) : Prop where
  disjoint : ∀ id ∈ Dict.keys loop.results, id ∉ Dict.keys loop.cancelledSteps
  all : ∀ id, id ∈ settings.steps.map RequestStep.stepId ↔ id ∈ Dict.keys loop.results ∨ id ∈ Dict.keys loop.cancelledSteps
  cascade : ∀ id, id ∈ Dict.keys loop.cancelledSteps ↔
    ∃ ancestor, Ancestor RequestStep.stepId RequestStep.dependencies settings.steps ancestor id ∧ Failed loop ancestor

theorem idle_law (submitted : List String) (loop : Loop) (accepted : Accepted settings)
    (inv : LoopInvariant settings submitted loop) (sorted : Sorted settings submitted loop) (done : loop.pending = []) :
    ∀ step ∈ settings.steps, Dict.get step.stepId loop.cancelledSteps ≠ none ↔
      ∃ parent ∈ step.dependencies, Dict.get parent loop.cancelledSteps ≠ none ∨ Failed loop parent := by
  intro step member
  rw [show (∃ parent ∈ step.dependencies, Dict.get parent loop.cancelledSteps ≠ none ∨ Failed loop parent) ↔
    failedDependencies loop step ≠ [] from (failed_dependency loop step).symm]
  constructor
  · intro gone
    obtain ⟨_, other, listed, named, failed⟩ := sorted.dropped step.stepId gone
    have same : other = step := List.inj_on_of_nodup_map accepted.unique listed member named
    exact same ▸ failed
  · intro failed
    cases sorted.covered step member with
    | inl pending =>
        rw [done] at pending
        exact absurd rfl pending
    | inr other =>
        cases other with
        | inr gone => exact gone
        | inl sent =>
            obtain ⟨other, listed, named, won⟩ := sorted.admitted step.stepId sent
            have same : other = step := List.inj_on_of_nodup_map accepted.unique listed member named
            subst same
            obtain ⟨parent, needed, cause⟩ := (failed_dependency loop other).mp failed
            obtain ⟨result, found, outcome⟩ := won parent needed
            cases cause with
            | inl gone => exact absurd (inv.results parent result found) (sorted.dropped parent gone).1
            | inr lost =>
                obtain ⟨again, same, bad⟩ := lost
                cases found.symm.trans same
                rw [outcome] at bad
                cases bad

theorem finished_complete (submitted : List String) (loop : Loop) (accepted : Accepted settings)
    (inv : LoopInvariant settings submitted loop) (sorted : Sorted settings submitted loop) (done : idle loop = true) :
    Complete settings loop := by
  obtain ⟨pending, outstanding, _⟩ := of_decide_eq_true done
  have law := idle_law settings submitted loop accepted inv sorted pending
  refine ⟨fun id answered gone => ?_, fun id => ?_, fun id => ?_⟩
  · rw [dict_key_held] at answered gone
    obtain ⟨result, found⟩ := Option.ne_none_iff_exists'.mp answered
    exact (sorted.dropped id gone).1 (inv.results id result found)
  · rw [dict_key_held, dict_key_held]
    constructor
    · intro known
      obtain ⟨step, member, rfl⟩ := List.mem_map.mp known
      cases sorted.covered step member with
      | inl waiting =>
          rw [pending] at waiting
          exact absurd rfl waiting
      | inr other =>
          cases other with
          | inr gone => exact .inr gone
          | inl sent =>
              refine .inl ((inv.accounted step.stepId sent).resolve_left fun open_ => ?_)
              rw [outstanding] at open_
              cases open_
    · intro held
      cases held with
      | inl answered =>
          obtain ⟨result, found⟩ := Option.ne_none_iff_exists'.mp answered
          exact of_decide_eq_true (inv.known id (inv.results id result found))
      | inr gone =>
          obtain ⟨_, step, member, named, _⟩ := sorted.dropped id gone
          exact named ▸ List.mem_map_of_mem member
  · rw [dict_key_held]
    have exact_ := cascade_exact RequestStep.stepId RequestStep.dependencies settings.steps (Failed loop)
      (fun id => Dict.get id loop.cancelledSteps ≠ none) accepted.ordered law
    constructor
    · intro gone
      obtain ⟨_, step, member, rfl, _⟩ := sorted.dropped id gone
      exact (exact_ step member).mp gone
    · intro ⟨ancestor, above, lost⟩
      obtain ⟨step, member, rfl⟩ := ancestor_named _ _ settings.steps ancestor id above
      exact (exact_ step member).mpr ⟨ancestor, above, lost⟩

structure CompletenessContract (settings : Settings) (s : State) : Prop where
  raises : ∀ event next error, step settings s event = some next → next.loop.status = .raised error →
    s.loop.status = .raised error ∨ event = .interrupt error
  finished : s.loop.status = .finished → Complete settings s.loop

theorem check_steps_ordered (steps : List RequestStep) (visited : List String) (checked : checkSteps steps visited = .ok ()) :
    Topological RequestStep.stepId RequestStep.dependencies steps visited := by
  induction steps generalizing visited with
  | nil => trivial
  | cons step rest ih =>
      unfold checkSteps at checked
      split at checked
      · cases checked
      · rename_i earlier
        split at checked
        · cases checked
        · exact ⟨(not_not.mp (not_or.mp earlier).2), ih (step.stepId :: visited) checked⟩

theorem accepted_settings (steps : List RequestStep) (createdAt : Instant) (timeout : Rat) (maxOutstandingWorkers : Option Int)
    (cooldown : Option Nat) (settings : Settings)
    (opened : runnerRuntime steps createdAt timeout maxOutstandingWorkers cooldown = .ok settings) : Accepted settings := by
  obtain ⟨same, unique, checked, windows⟩ :=
    runtime_settings steps createdAt timeout maxOutstandingWorkers cooldown settings opened
  cases same
  exact ⟨check_steps_ordered settings.steps [] checked, unique, windows⟩

theorem completeness_contract (accepted : Accepted settings) (s : State) (inv : CompletenessInvariant settings s) :
    CompletenessContract settings s := by
  constructor
  · intro event next error taken raised
    exact step_raises settings accepted s event next error inv taken raised
  · intro ended
    exact finished_complete settings s.submitted s.loop accepted inv.submissions.loop inv.sorted (inv.finished ended)

theorem runner_completeness (steps : List RequestStep) (createdAt clock : Instant) (timeout : Rat) (maxOutstandingWorkers : Option Int)
    (cooldown : Option Nat) (settings : Settings) (events : List Event) (s : State)
    (accepted : runnerRuntime steps createdAt timeout maxOutstandingWorkers cooldown = .ok settings)
    (reached : run (step settings) (State.initial settings clock) events = some s) : CompletenessContract settings s := by
  have checked := accepted_settings steps createdAt timeout maxOutstandingWorkers cooldown settings accepted
  have inv := run_invariant (step settings) (CompletenessInvariant settings) (completeness_step settings checked)
    events (State.initial settings clock) s (initial_sorted settings clock checked.unique) reached
  exact completeness_contract settings checked s inv

theorem submitted_dependencies (steps : List RequestStep) (createdAt clock : Instant) (timeout : Rat)
    (maxOutstandingWorkers : Option Int) (cooldown : Option Nat) (settings : Settings) (events : List Event) (s : State)
    (accepted : runnerRuntime steps createdAt timeout maxOutstandingWorkers cooldown = .ok settings)
    (reached : run (step settings) (State.initial settings clock) events = some s) (child : RequestStep)
    (declared : child ∈ settings.steps) (sent : child.stepId ∈ s.submitted) (parent : String) (needed : parent ∈ child.dependencies) :
    ∃ result, Dict.get parent s.loop.results = some result ∧ result.succeeded = true := by
  have checked := accepted_settings steps createdAt timeout maxOutstandingWorkers cooldown settings accepted
  have inv := run_invariant (step settings) (CompletenessInvariant settings) (completeness_step settings checked)
    events (State.initial settings clock) s (initial_sorted settings clock checked.unique) reached
  obtain ⟨other, listed, named, won⟩ := inv.sorted.admitted child.stepId sent
  have same : other = child := List.inj_on_of_nodup_map checked.unique listed declared named
  exact won parent (same ▸ needed)

def failingSteps : List RequestStep :=
  [⟨"0", [], [], 0, none, none⟩, ⟨"1", ["0"], [], 0, none, none⟩, ⟨"2", [], [], 0, none, none⟩]

def failingSettings : Settings := ⟨failingSteps, 0, none, none⟩

def lost : WorkerResult := ⟨"0", [("error_code", .number 500)], "", .null, 5⟩

def won : WorkerResult := ⟨"2", [], "", .null, 5⟩

def failingEvents : List Event :=
  [.wake [] false false true false, .wake [] true false true false, .complete won, .complete lost, .tick 6,
    .wake [.completed won, .completed lost] true false true false]

theorem runner_completeness_failing : ∃ s, run (step failingSettings) (State.initial failingSettings 0) failingEvents = some s ∧
    CompletenessContract failingSettings s ∧ s.loop.status = .finished ∧ Dict.keys s.loop.cancelledSteps = ["1"] :=
  ⟨_, rfl, runner_completeness failingSteps 0 0 60 none none failingSettings failingEvents _ rfl rfl, rfl, rfl⟩

end LlmperfOrchestrator.Runtime.Progression

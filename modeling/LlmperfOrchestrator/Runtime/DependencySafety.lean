import LlmperfOrchestrator.Runtime.CoordinatorSteps

set_option autoImplicit false

namespace LlmperfOrchestrator.Runtime

open Tables Runs Storage Compiler

variable {Digest : Type} [DecidableEq Digest]

structure ReadyBy (store : Store Digest) (node : ExecutionNode) (time : Instant) : Prop where
  dependencies : ∀ dependency ∈ node.dependencies, ∃ parent completedAt, store.nodes.get dependency = some parent ∧
    parent.terminalStatus = some .succeeded ∧ parent.actualCompletedAt = some completedAt ∧ completedAt + node.delay ≤ time
  created : node.dependencies = [] → ∃ task, store.instances.get node.taskInstance = some task ∧ task.createdAt + node.delay ≤ time

theorem ready_by_goes (s next : Store Digest) (goes : StoreGoes s next) (before after : ExecutionNode) (time later : Instant)
    (gone : NodeGoes before after) (forward : time ≤ later) (ready : ReadyBy s before time) : ReadyBy next after later := by
  refine ⟨fun dependency member => ?_, fun none => ?_⟩
  · rw [gone.dependencies] at member
    obtain ⟨parent, completedAt, read, succeeded, completed, due⟩ := ready.dependencies dependency member
    obtain ⟨current, found, kept⟩ := goes.nodes dependency parent read
    obtain ⟨status, instant⟩ := kept.checkpoint (by simp [succeeded])
    exact ⟨current, completedAt, found, status.trans succeeded, instant.trans completed,
      gone.delay ▸ Int.le_trans due forward⟩
  · obtain ⟨task, read, due⟩ := ready.created (gone.dependencies ▸ none)
    obtain ⟨current, found, created⟩ := goes.creations _ task read
    exact ⟨current, gone.taskInstance ▸ found, by rw [created, gone.delay]; exact Int.le_trans due forward⟩

-- A row of a snapshot may be old, but the node keeps its place in the graph, and
-- a checkpoint that the snapshot has seen is still there.
structure FaithfulNode (store : Store Digest) (instanceId : InstanceId) (seen : NodeSnapshot) (node : ExecutionNode) : Prop where
  read : store.nodes.get seen.nodeId = some node
  place : node.taskInstance = instanceId
  dependencies : node.dependencies = seen.dependencies
  delay : node.delay = seen.delay
  checkpoint : seen.terminalStatus ≠ none →
    node.terminalStatus = seen.terminalStatus ∧ node.actualCompletedAt = seen.completedAt

structure FaithfulInstance (store : Store Digest) (seen : InstanceSnapshot) : Prop where
  created : ∃ task, store.instances.get seen.instanceId = some task ∧ task.createdAt = seen.createdAt
  nodes : ∀ row ∈ seen.nodes, ∃ node, FaithfulNode store seen.instanceId row node

structure FaithfulPass (store : Store Digest) (clock : Instant) (pass : Pass) : Prop where
  instances : ∀ task ∈ pass.instances, FaithfulInstance store task
  candidates : ∀ candidate ∈ pass.candidates, ∀ entry ∈ candidate.2, entry.2 ≤ clock ∧
    ∃ node, store.nodes.get entry.1 = some node ∧ ReadyBy store node entry.2

theorem faithful_pass_goes (s next : Store Digest) (clock later : Instant) (goes : StoreGoes s next) (forward : clock ≤ later)
    (pass : Pass) (faithful : FaithfulPass s clock pass) : FaithfulPass next later pass := by
  refine ⟨fun task member => ?_, fun candidate member entry due => ?_⟩
  · obtain ⟨⟨row, read, created⟩, nodes⟩ := faithful.instances task member
    obtain ⟨current, found, kept⟩ := goes.creations _ row read
    refine ⟨⟨current, found, kept.trans created⟩, fun seen listed => ?_⟩
    obtain ⟨node, place⟩ := nodes seen listed
    obtain ⟨after, found', gone⟩ := goes.nodes _ node place.read
    refine ⟨after, found', gone.taskInstance.trans place.place, gone.dependencies.trans place.dependencies,
      gone.delay.trans place.delay, fun past => ?_⟩
    obtain ⟨status, instant⟩ := place.checkpoint past
    obtain ⟨status', instant'⟩ := gone.checkpoint (by rw [status]; exact past)
    exact ⟨status'.trans status, instant'.trans instant⟩
  · obtain ⟨reached, node, read, ready⟩ := faithful.candidates candidate member entry due
    obtain ⟨after, found, gone⟩ := goes.nodes _ node read
    exact ⟨Int.le_trans reached forward, after, found, ready_by_goes s next goes node after _ _ gone (Int.le_refl _) ready⟩

theorem ready_nodes_ready (store : Store Digest) (seen : InstanceSnapshot) (now : Instant) (faithful : FaithfulInstance store seen)
    (entry : DispatchId × Instant) (member : entry ∈ readyNodes seen.nodes seen.createdAt now) :
    entry.2 ≤ now ∧ ∃ node, store.nodes.get entry.1 = some node ∧ ReadyBy store node entry.2 := by
  obtain ⟨row, listed, placed⟩ := dict_collect_mem _ _ entry member
  unfold readyEntry at placed
  split at placed
  · dsimp only at placed
    split at placed
    · rename_i ready
      obtain ⟨due, decided, reached⟩ := dependency_trigger_ready _ _ _ _ _ ready
      have facts := dependency_trigger_due _ _ _ _ _ _ decided
      rw [decided] at placed
      cases placed
      obtain ⟨node, place⟩ := faithful.nodes row listed
      refine ⟨reached, node, place.read, fun dependency required => ?_, fun none => ?_⟩
      · obtain ⟨completion, found, succeeded, late⟩ := facts.met dependency (place.dependencies ▸ required)
        obtain ⟨parentRow, parentListed, recorded⟩ := dict_collect_mem _ _ _ (dict_get_mem _ _ _ found)
        obtain ⟨parent, parentPlace⟩ := faithful.nodes parentRow parentListed
        unfold completionEntry at recorded
        split at recorded
        · rename_i status completedAt hasStatus hasInstant
          cases recorded
          obtain ⟨sameStatus, sameInstant⟩ := parentPlace.checkpoint (by simp [hasStatus])
          have won : status = .succeeded := of_decide_eq_true succeeded
          exact ⟨parent, completedAt, parentPlace.read, by rw [sameStatus, hasStatus, won], sameInstant.trans hasInstant,
            place.delay ▸ late⟩
        · cases recorded
      · obtain ⟨task, read, created⟩ := faithful.created
        exact ⟨task, place.place ▸ read, by rw [created, place.delay]; exact facts.created (place.dependencies ▸ none)⟩
    · cases placed
  · cases placed

theorem rotated_mem (instances : List InstanceSnapshot) (last : Option InstanceId) (task : InstanceSnapshot)
    (member : task ∈ rotated instances last) : task ∈ instances := by
  unfold rotated at member
  dsimp only at member
  rcases List.mem_append.mp member with late | early
  · exact (List.mem_filter.mp (List.mem_of_mem_drop late)).1
  · exact (List.mem_filter.mp (List.mem_of_mem_take early)).1

theorem rest_of_mem (rest : Candidates) (instanceId : InstanceId) (pending : Dict DispatchId Instant)
    (candidate : InstanceId × Dict DispatchId Instant) (member : candidate ∈ restOf rest instanceId pending) :
    candidate ∈ rest ∨ candidate = (instanceId, pending) := by
  unfold restOf at member
  split at member
  · exact .inl member
  · exact (List.mem_append.mp member).imp_right List.mem_singleton.mp

theorem frontier_faithful (store : Store Digest) (instances : List InstanceSnapshot) (instanceId : InstanceId) :
    ∀ row ∈ frontierNodes store instances instanceId, ∃ node, FaithfulNode store instanceId row node := by
  intro row member
  obtain ⟨⟨id, node⟩, listed, rfl⟩ := List.mem_map.mp member
  obtain ⟨read, selected⟩ := (table_filter store.nodes _ id node).mp listed
  exact ⟨node, read, (of_decide_eq_true selected).2, rfl, rfl, fun _ => ⟨rfl, rfl⟩⟩

def FaithfulPasses (s : System Digest) : Prop :=
  ∀ k pass, Dict.get k s.passes = some pass → FaithfulPass s.store s.clock pass

-- Statements that read the store see its current rows; all others keep what the
-- pass has already read.
theorem pass_effect_faithful (s : System Digest) (pass : Pass) (faithful : FaithfulPasses s) (effect : PassEffect s pass) :
    FaithfulPass s.store s.clock pass := by
  cases effect with
  | kept k pass held => exact faithful k pass held
  | readRunners hint => exact ⟨(fun _ member => by cases member), (fun _ member => by cases member)⟩
  | readRounds k before held | enqueued k before held =>
      exact ⟨(faithful k before held).instances, (faithful k before held).candidates⟩
  | readInstances k before held =>
      refine ⟨fun task member => ?_, (faithful k before held).candidates⟩
      obtain ⟨⟨id, row⟩, listed, rfl⟩ := List.mem_map.mp member
      have read : s.store.instances.get id = some row := by
        unfold selectedInstances at listed
        split at listed <;> exact ((table_filter s.store.instances _ id row).mp listed).1
      exact ⟨⟨row, read, rfl⟩, fun _ none => by cases none⟩
  | readNodes k before held =>
      refine ⟨fun task member => ?_, (faithful k before held).candidates⟩
      obtain ⟨seen, listed, rfl⟩ := List.mem_map.mp member
      exact ⟨((faithful k before held).instances seen listed).created, frontier_faithful s.store before.instances seen.instanceId⟩
  | decided k before held =>
      refine ⟨(faithful k before held).instances, fun candidate member entry due => ?_⟩
      obtain ⟨seen, listed, placed⟩ := List.mem_filterMap.mp member
      have known := (faithful k before held).instances seen (rotated_mem _ _ _ listed)
      dsimp only at placed
      split at placed
      · cases placed
      · cases placed
        exact ready_nodes_ready s.store seen s.clock known entry due
  | activated k before held _ instanceId head pending rest first =>
      refine ⟨(faithful k before held).instances, fun candidate member entry due => ?_⟩
      have known := (faithful k before held).candidates
      rw [first] at known
      rcases rest_of_mem rest instanceId pending candidate member with later | rfl
      · exact known candidate (List.mem_cons_of_mem _ later) entry due
      · exact known _ List.mem_cons_self entry (List.mem_cons_of_mem _ due)

structure CoordinatorInvariant (s : System Digest) : Prop where
  tasks : TaskInvariant s.store
  passes : FaithfulPasses s

variable (digest : Json → Digest)

theorem coordinator_step (s : System Digest) (event : Event Digest) (next : System Digest) (inv : CoordinatorInvariant s)
    (taken : systemStep digest s event = some next) : CoordinatorInvariant next := by
  obtain ⟨goes, tasks⟩ := system_goes digest s next event inv.tasks taken
  refine ⟨tasks, fun k pass held => ?_⟩
  exact faithful_pass_goes s.store next.store s.clock next.clock goes (store_effect digest s next event taken).2 pass
    (pass_effect_faithful s pass inv.passes (pass_effect digest s next event taken k pass held))

-- The event emits the node, gives it a Runner that was not there, or starts a Runner.
def emits (digest : Json → Digest) (id : DispatchId) (s : System Digest) (event : Event Digest) : Bool :=
  ¬ emitted s.store id ∧ ((systemStep digest s event).any fun next => emitted next.store id)

def creates (digest : Json → Digest) (id : DispatchId) (s : System Digest) (event : Event Digest) : Bool :=
  (systemStep digest s event).any fun next => ((next.store.nodes.get id).bind ExecutionNode.runner).any fun rid =>
    (s.store.runners.get rid).isNone

def starts (digest : Json → Digest) (rid : RunnerId) (s : System Digest) (event : Event Digest) : Bool :=
  statusOf s.store rid = some .queued ∧ ((systemStep digest s event).any fun next => statusOf next.store rid = some .running)

structure SafeEmission (s next : System Digest) (id : DispatchId) (fresh : RunnerId) (node : ExecutionNode) : Prop where
  read : s.store.nodes.get id = some node
  waiting : node.state.waiting = true
  ready : ReadyBy s.store node s.clock
  row : ∃ after, next.store.nodes.get id = some after ∧ after.runner = some fresh ∧ after.emittedAt = some s.clock
  free : s.store.runners.get fresh = none
  runner : next.store.runners.get fresh = some (fromDispatch node)
  only : ∀ rid, rid ≠ fresh → next.store.runners.get rid = s.store.runners.get rid

variable (s next : System Digest)

theorem activation_safe (inv : CoordinatorInvariant s) (k : Nat) (pass : Pass) (instanceId : InstanceId) (id : DispatchId)
    (dueAt : Instant) (pending : Dict DispatchId Instant) (rest : Candidates) (fresh : RunnerId)
    (held : Dict.get k s.passes = some pass) (first : pass.candidates = (instanceId, (id, dueAt) :: pending) :: rest)
    (effect : ActivateEffect s.store next.store (callerOf s) id dueAt fresh (some fresh)) :
    ∃ node, SafeEmission s next id fresh node := by
  have known := (inv.passes k pass held).candidates
  rw [first] at known
  obtain ⟨reached, node, read, ready⟩ := known _ List.mem_cons_self (id, dueAt) List.mem_cons_self
  cases effect with
  | emitted found task read' waiting owner live free same =>
      cases Option.some.inj (read.symm.trans read')
      refine ⟨node, read, waiting, ?_, ?_, free, ?_, fun rid other => ?_⟩
      · exact ready_by_goes s.store s.store (store_goes_refl s.store) node node dueAt s.clock (node_goes_refl node) reached ready
      · exact ⟨_, by rw [same]; exact table_get_put_self _ _ _, rfl, rfl⟩
      · rw [same]
        exact table_get_put_self _ _ _
      · rw [same]
        exact table_get_put_other _ _ _ _ other

theorem system_emission (event : Event Digest) (inv : CoordinatorInvariant s) (taken : systemStep digest s event = some next)
    (id : DispatchId) (before : emitted s.store id = false) (after : emitted next.store id = true) :
    ∃ fresh node, SafeEmission s next id fresh node := by
  have effect := (store_effect digest s next event taken).1
  generalize same : next.store = store at effect
  rw [same] at after
  cases effect with
  | still =>
      rw [before] at after
      cases after
  | foreign call kind =>
      obtain ⟨_, _, _, rfl, _⟩ := emission_call digest s.store call inv.tasks id before after
      cases kind
  | activated k fresh pass instanceId nodeId dueAt pending rest held first =>
      obtain ⟨_, _, _, called, effect⟩ := emission_call digest s.store _ inv.tasks id before after
      cases called
      exact ⟨fresh, activation_safe s next inv k pass instanceId id dueAt pending rest fresh held first (same ▸ effect)⟩
  | started rid owner claimed =>
      obtain ⟨_, _, _, called, _⟩ := emission_call digest s.store _ inv.tasks id before after
      cases called

theorem system_creation (event : Event Digest) (inv : CoordinatorInvariant s) (taken : systemStep digest s event = some next)
    (rid : RunnerId) (runner : Runner) (before : s.store.runners.get rid = none)
    (after : next.store.runners.get rid = some runner) : ∃ id node, SafeEmission s next id rid node := by
  have effect := (store_effect digest s next event taken).1
  generalize same : next.store = store at effect
  rw [same] at after
  cases effect with
  | still =>
      rw [before] at after
      cases after
  | foreign call kind =>
      obtain ⟨_, _, _, rfl, _⟩ := creation_call digest s.store call inv.tasks rid runner before after
      cases kind
  | activated k fresh pass instanceId nodeId dueAt pending rest held first =>
      obtain ⟨_, _, _, called, effect⟩ := creation_call digest s.store _ inv.tasks rid runner before after
      cases called
      exact ⟨nodeId, activation_safe s next inv k pass instanceId nodeId dueAt pending rest rid held first (same ▸ effect)⟩
  | started id owner claimed =>
      obtain ⟨_, _, _, called, _⟩ := creation_call digest s.store _ inv.tasks rid runner before after
      cases called

theorem safe_emission_emits (event : Event Digest) (inv : CoordinatorInvariant s) (taken : systemStep digest s event = some next)
    (id : DispatchId) (fresh : RunnerId) (node : ExecutionNode) (safe : SafeEmission s next id fresh node) :
    emits digest id s event = true := by
  obtain ⟨after, read, owner, _⟩ := safe.row
  have state := ((coordinator_step digest s event next inv taken).tasks.linked.emitted id after read).mpr (by simp [owner])
  have unemitted : ¬ emitted s.store id = true := by
    intro bad
    obtain ⟨old, found, done⟩ := (emitted_true s.store id).mp bad
    cases Option.some.inj (safe.read.symm.trans found)
    have waiting := safe.waiting
    rw [done] at waiting
    cases waiting
  exact decide_eq_true ⟨unemitted, by simpa [taken] using (emitted_true next.store id).mpr ⟨after, read, state⟩⟩

theorem emits_once (id : DispatchId) (events : List (Event Digest)) (origin : System Digest) (inv : CoordinatorInvariant origin) :
    occurrences (systemStep digest) (emits digest id) origin events ≤ 1 := by
  refine at_most_once (systemStep digest) (emits digest id) CoordinatorInvariant (fun s => emitted s.store id = true)
    (coordinator_step digest) (fun s event next held past taken => ?_) (fun s event fired => (of_decide_eq_true fired).1)
    (fun s event next _ fired taken => ?_) events origin inv
  · obtain ⟨node, read, state⟩ := (emitted_true s.store id).mp past
    obtain ⟨after, found, gone⟩ := (system_goes digest s next event held.tasks taken).1.nodes id node read
    exact (emitted_true next.store id).mpr ⟨after, found, (gone.emission state).1⟩
  · simpa [taken] using (of_decide_eq_true fired).2

theorem creates_emits (s : System Digest) (event : Event Digest) (inv : CoordinatorInvariant s) (id : DispatchId)
    (fired : creates digest id s event = true) : emits digest id s event = true := by
  obtain ⟨next, taken, named⟩ := Option.any_eq_true _ _ |>.mp fired
  obtain ⟨rid, owner, absent⟩ := Option.any_eq_true _ _ |>.mp named
  obtain ⟨node, read, owned⟩ := Option.bind_eq_some_iff.mp owner
  have linked := (coordinator_step digest s event next inv taken).tasks.linked
  obtain ⟨runner, stored, _⟩ := linked.runner id node rid read owned
  obtain ⟨other, source, safe⟩ := system_creation digest s next event inv taken rid runner (by simpa using absent) stored
  obtain ⟨after, read', owned', _⟩ := safe.row
  obtain rfl := linked.apart id other node after rid read read' owned owned'
  exact safe_emission_emits digest s next event inv taken id rid source safe

theorem starts_once (rid : RunnerId) (events : List (Event Digest)) (origin : System Digest) (inv : CoordinatorInvariant origin) :
    occurrences (systemStep digest) (starts digest rid) origin events ≤ 1 := by
  refine at_most_once (systemStep digest) (starts digest rid) CoordinatorInvariant
    (fun s => ∃ runner, s.store.runners.get rid = some runner ∧ runner.status ≠ .queued)
    (coordinator_step digest) (fun s event next held past taken => ?_) (fun s event fired => ?_)
    (fun s event next _ fired taken => ?_) events origin inv
  · obtain ⟨runner, read, left⟩ := past
    obtain ⟨after, found, moved⟩ := (system_goes digest s next event held.tasks taken).1.runners rid runner read
    exact ⟨after, found, fun queued => left (moved.queued queued)⟩
  · rintro ⟨runner, read, left⟩
    obtain ⟨other, found, queued⟩ := Option.map_eq_some_iff.mp (of_decide_eq_true fired).1
    cases Option.some.inj (read.symm.trans found)
    exact left queued
  · have running := (of_decide_eq_true fired).2
    rw [taken, Option.any_some, decide_eq_true_eq] at running
    obtain ⟨after, found, state⟩ := Option.map_eq_some_iff.mp running
    exact ⟨after, found, by simp [state]⟩

structure FreshSystem (s : System Digest) : Prop where
  submitted : Submitted s.store
  queues : s.coordinator.queues = []
  passes : s.passes = []
  claims : s.claims = []

theorem fresh_invariant (s : System Digest) (fresh : FreshSystem s) : CoordinatorInvariant s := by
  refine ⟨submitted_invariant s.store fresh.submitted, fun k pass held => ?_⟩
  rw [fresh.passes] at held
  cases held

structure DependencyContract (digest : Json → Digest) (origin : System Digest) (events : List (Event Digest))
    (s : System Digest) : Prop where
  safe : ∀ event next id, systemStep digest s event = some next → emits digest id s event = true →
    ∃ fresh node, SafeEmission s next id fresh node
  created : ∀ event next rid, systemStep digest s event = some next → s.store.runners.get rid = none →
    next.store.runners.get rid ≠ none → ∃ id node, emits digest id s event = true ∧ SafeEmission s next id rid node
  fixed : ∀ id node rid, s.store.nodes.get id = some node → node.runner = some rid → ∀ later last,
    run (systemStep digest) s later = some last →
    ∃ after, last.store.nodes.get id = some after ∧ after.state = .emitted ∧ after.runner = some rid
  emittedOnce : ∀ id, occurrences (systemStep digest) (emits digest id) origin events ≤ 1
  createdOnce : ∀ id, occurrences (systemStep digest) (creates digest id) origin events ≤ 1
  startedOnce : ∀ rid, occurrences (systemStep digest) (starts digest rid) origin events ≤ 1

theorem emissions_follow_dependencies (digest : Json → Digest) (origin s : System Digest) (events : List (Event Digest))
    (fresh : FreshSystem origin) (reached : run (systemStep digest) origin events = some s) :
    DependencyContract digest origin events s := by
  have start := fresh_invariant origin fresh
  have inv := run_invariant (systemStep digest) CoordinatorInvariant (coordinator_step digest) events origin s start reached
  refine ⟨fun event next id taken fired => ?_, fun event next rid taken absent present => ?_,
    fun id node rid read owned later last ran => ?_, fun id => emits_once digest id events origin start, fun id => ?_,
    fun rid => starts_once digest rid events origin start⟩
  · obtain ⟨before, after⟩ := of_decide_eq_true fired
    rw [taken] at after
    exact system_emission digest s next event inv taken id (by simpa using before) after
  · obtain ⟨runner, stored⟩ := Option.ne_none_iff_exists'.mp present
    obtain ⟨id, node, safe⟩ := system_creation digest s next event inv taken rid runner absent stored
    exact ⟨id, node, safe_emission_emits digest s next event inv taken id rid node safe, safe⟩
  · have goes := run_relates (systemStep digest) CoordinatorInvariant (fun a b => StoreGoes a.store b.store)
      (fun a => store_goes_refl a.store) (fun a b c => store_goes_trans a.store b.store c.store) (coordinator_step digest)
      (fun a event b held taken => (system_goes digest a b event held.tasks taken).1) later s last inv ran
    have state := (inv.tasks.linked.emitted id node read).mpr (by simp [owned])
    obtain ⟨after, found, gone⟩ := goes.nodes id node read
    obtain ⟨emitted, runner⟩ := gone.emission state
    exact ⟨after, found, emitted, runner.trans owned⟩
  · exact Nat.le_trans (occurrences_le (systemStep digest) (creates digest id) (emits digest id) CoordinatorInvariant
      (coordinator_step digest) (fun a event held fired => creates_emits digest a event held id fired) events origin start)
      (emits_once digest id events origin start)

def idleCoordinator : Coordinator := ⟨[], [], [], none, 1024⟩

def batchSystem : System Json := ⟨batchStore, 5, none, 1, idleCoordinator, [], []⟩

def passEvents : List (Event Json) :=
  [.readRunners 0 none, .readRounds 0, .readInstances 0, .readNodes 0, .tick 7, .enqueue 0, .decide 0, .activate 0 "r"]

theorem emissions_follow_dependencies_pass :
    ∃ s, run (systemStep id) batchSystem passEvents = some s ∧ DependencyContract id batchSystem passEvents s ∧
      emitted s.store "first" = true ∧ emitted s.store "second" = false :=
  ⟨_, rfl, emissions_follow_dependencies id batchSystem _ passEvents ⟨batch_submitted, rfl, rfl, rfl⟩ rfl, rfl, rfl⟩

end LlmperfOrchestrator.Runtime

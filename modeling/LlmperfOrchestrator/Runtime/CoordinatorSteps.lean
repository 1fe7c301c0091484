import LlmperfOrchestrator.Runtime.Coordinator
import LlmperfOrchestrator.Storage.Growth

set_option autoImplicit false

namespace LlmperfOrchestrator.Runtime

open Tables Runs Storage Compiler

variable {Digest : Type} [DecidableEq Digest]

-- Where the store of the next state comes from. The coordinator itself calls
-- activate_node for a candidate of a decided pass and start_selected for a claim.
inductive StoreEffect (digest : Json → Digest) (s : System Digest) : Event Digest → Store Digest → Prop where
  | still (event : Event Digest) : StoreEffect digest s event s.store
  | foreign (call : Call Digest) (kind : foreignCall call = true) :
      StoreEffect digest s (.call call) (perform digest s.store call).1
  | activated (k : Nat) (fresh : RunnerId) (pass : Pass) (instanceId : InstanceId) (nodeId : DispatchId) (dueAt : Instant)
      (pending : Dict DispatchId Instant) (rest : Candidates) (held : Dict.get k s.passes = some pass)
      (first : pass.candidates = (instanceId, (nodeId, dueAt) :: pending) :: rest) :
      StoreEffect digest s (.activate k fresh) (perform digest s.store (.activateNode (callerOf s) nodeId dueAt fresh)).1
  | started (rid : RunnerId) (owner : String) (claimed : rid ∈ s.claims) :
      StoreEffect digest s (.start rid owner) (perform digest s.store (.startSelected (callerOf s) rid owner)).1

theorem on_pass_some (s next : System Digest) (k : Nat) (stage : Stage) (then_ : Pass → Option (System Digest))
    (taken : onPass s k stage then_ = some next) :
    ∃ pass, Dict.get k s.passes = some pass ∧ pass.stage = stage ∧ then_ pass = some next := by
  unfold onPass at taken
  obtain ⟨pass, found, done⟩ := Option.bind_eq_some_iff.mp taken
  obtain ⟨held, reached⟩ := Option.filter_eq_some_iff.mp found
  exact ⟨pass, held, of_decide_eq_true reached, done⟩

theorem read_runners_some (s next : System Digest) (k : Nat) (hint : Option RunnerId)
    (taken : readRunners s k hint = some next) :
    next = setPass s k ⟨hint, .runners, if hint = none then queuedRunners s.store else [], [], [], []⟩ := by
  unfold readRunners at taken
  split at taken
  · cases taken
  · exact (Option.some.inj taken).symm

inductive ActivateStep (digest : Json → Digest) (s next : System Digest) (k : Nat) (pass : Pass) (fresh : RunnerId) : Prop where
  | taken (instanceId : InstanceId) (nodeId : DispatchId) (dueAt : Instant) (pending : Dict DispatchId Instant)
      (rest : Candidates) (emitted : Option RunnerId)
      (first : pass.candidates = (instanceId, (nodeId, dueAt) :: pending) :: rest)
      (reply : (perform digest s.store (.activateNode (callerOf s) nodeId dueAt fresh)).2 = .emitted emitted)
      (same : next = setPass { s with
          store := (perform digest s.store (.activateNode (callerOf s) nodeId dueAt fresh)).1
          coordinator := afterActivation s.coordinator
            (perform digest s.store (.activateNode (callerOf s) nodeId dueAt fresh)).1 instanceId emitted } k
        { pass with candidates := restOf rest instanceId pending })
  | raised (instanceId : InstanceId) (nodeId : DispatchId) (dueAt : Instant) (pending : Dict DispatchId Instant)
      (rest : Candidates) (first : pass.candidates = (instanceId, (nodeId, dueAt) :: pending) :: rest)
      (same : next = { s with
        store := (perform digest s.store (.activateNode (callerOf s) nodeId dueAt fresh)).1
        passes := Dict.pop k s.passes })

variable (digest : Json → Digest) (s next : System Digest)

theorem activate_pass_some (k : Nat) (pass : Pass) (fresh : RunnerId) (taken : activatePass digest s k pass fresh = some next) :
    ActivateStep digest s next k pass fresh := by
  unfold activatePass at taken
  split at taken
  · rename_i instanceId nodeId dueAt pending rest first
    split at taken
    · cases taken
    · generalize performed : perform digest s.store (.activateNode (callerOf s) nodeId dueAt fresh) = result at taken
      obtain ⟨store, reply⟩ := result
      have after : (perform digest s.store (.activateNode (callerOf s) nodeId dueAt fresh)).1 = store := by rw [performed]
      have replied : (perform digest s.store (.activateNode (callerOf s) nodeId dueAt fresh)).2 = reply := by rw [performed]
      cases reply with
      | emitted emitted =>
          exact .taken instanceId nodeId dueAt pending rest emitted first replied (by rw [after]; exact (Option.some.inj taken).symm)
      | raised | done | flag | message | admitted =>
          exact .raised instanceId nodeId dueAt pending rest first (by rw [after]; exact (Option.some.inj taken).symm)
  · cases taken

theorem start_step_frame (s : System Digest) (rid : RunnerId) (owner : String) :
    (startStep digest s rid owner).store = (perform digest s.store (.startSelected (callerOf s) rid owner)).1 ∧
      (startStep digest s rid owner).passes = s.passes ∧ (startStep digest s rid owner).clock = s.clock ∧
      (startStep digest s rid owner).coordinator.queues = s.coordinator.queues ∧
      (startStep digest s rid owner).claims = s.claims.erase rid := by
  unfold startStep
  generalize perform digest s.store (.startSelected (callerOf s) rid owner) = result
  obtain ⟨store, reply⟩ := result
  cases reply with
  | admitted value =>
      cases value with
      | none => exact ⟨rfl, rfl, rfl, rfl, rfl⟩
      | some _ => exact ⟨rfl, rfl, rfl, rfl, rfl⟩
  | raised | done | flag | message | emitted => exact ⟨rfl, rfl, rfl, rfl, rfl⟩

theorem store_effect (event : Event Digest) (taken : systemStep digest s event = some next) :
    StoreEffect digest s event next.store ∧ s.clock ≤ next.clock := by
  cases event with
  | call call =>
      simp only [systemStep] at taken
      split at taken
      · rename_i kind
        cases taken
        exact ⟨.foreign call kind, Int.le_refl _⟩
      · cases taken
  | tick later =>
      simp only [systemStep] at taken
      split at taken
      · rename_i forward
        cases taken
        exact ⟨.still _, forward⟩
      · cases taken
  | readRunners k hint =>
      rw [read_runners_some s next k hint taken]
      exact ⟨.still _, Int.le_refl _⟩
  | readRounds k | readInstances k | readNodes k | enqueue k | decide k =>
      obtain ⟨pass, _, _, done⟩ := on_pass_some s next k _ _ taken
      cases done
      exact ⟨.still _, Int.le_refl _⟩
  | activate k fresh =>
      obtain ⟨pass, held, _, done⟩ := on_pass_some s next k _ _ taken
      cases activate_pass_some digest s next k pass fresh done with
      | taken instanceId nodeId dueAt pending rest emitted first _ same =>
          rw [same]
          exact ⟨.activated k fresh pass instanceId nodeId dueAt pending rest held first, Int.le_refl _⟩
      | raised instanceId nodeId dueAt pending rest first same =>
          rw [same]
          exact ⟨.activated k fresh pass instanceId nodeId dueAt pending rest held first, Int.le_refl _⟩
  | claim =>
      obtain ⟨_, _, rfl⟩ := Option.map_eq_some_iff.mp taken
      exact ⟨.still _, Int.le_refl _⟩
  | start rid owner =>
      simp only [systemStep] at taken
      split at taken
      · rename_i claimed
        cases taken
        obtain ⟨store, _, clock, _⟩ := start_step_frame digest s rid owner
        rw [store, clock]
        exact ⟨.started rid owner claimed, Int.le_refl _⟩
      · cases taken
  | abandon rid =>
      simp only [systemStep] at taken
      split at taken
      · cases taken
        exact ⟨.still _, Int.le_refl _⟩
      · cases taken
  | own | finish | release | stop =>
      cases taken
      exact ⟨.still _, Int.le_refl _⟩

theorem system_goes (event : Event Digest) (inv : TaskInvariant s.store) (taken : systemStep digest s event = some next) :
    StoreGoes s.store next.store ∧ TaskInvariant next.store := by
  have effect := (store_effect digest s next event taken).1
  generalize next.store = after at effect
  cases effect with
  | still => exact ⟨store_goes_refl s.store, inv⟩
  | foreign | activated | started => exact ⟨call_goes digest s.store _ inv, task_step digest s.store _ _ inv rfl⟩

-- Where a pass of the next state comes from.
inductive PassEffect (s : System Digest) : Pass → Prop where
  | kept (k : Nat) (pass : Pass) (held : Dict.get k s.passes = some pass) : PassEffect s pass
  | readRunners (hint : Option RunnerId) :
      PassEffect s ⟨hint, .runners, if hint = none then queuedRunners s.store else [], [], [], []⟩
  | readRounds (k : Nat) (pass : Pass) (held : Dict.get k s.passes = some pass) (reached : pass.stage = .runners) :
      PassEffect s { pass with stage := .rounds, rounds := roundStates s.store pass.runners }
  | readInstances (k : Nat) (pass : Pass) (held : Dict.get k s.passes = some pass) (reached : pass.stage = .rounds) :
      PassEffect s { pass with
        stage := .instances
        instances := (selectedInstances s.store pass.hint).map fun row => ⟨row.1, row.2.state, row.2.createdAt, []⟩ }
  | readNodes (k : Nat) (pass : Pass) (held : Dict.get k s.passes = some pass) (reached : pass.stage = .instances) :
      PassEffect s { pass with
        stage := .nodes
        instances := pass.instances.map fun task =>
          { task with nodes := frontierNodes s.store pass.instances task.instanceId } }
  | enqueued (k : Nat) (pass : Pass) (held : Dict.get k s.passes = some pass) (reached : pass.stage = .nodes) :
      PassEffect s { pass with stage := .enqueued }
  | decided (k : Nat) (pass : Pass) (held : Dict.get k s.passes = some pass) (reached : pass.stage = .enqueued) :
      PassEffect s { pass with
        stage := .decided
        candidates := candidatesOf (rotated pass.instances s.coordinator.lastMaterialized) s.clock }
  | activated (k : Nat) (pass : Pass) (held : Dict.get k s.passes = some pass) (reached : pass.stage = .decided)
      (instanceId : InstanceId) (entry : DispatchId × Instant) (pending : Dict DispatchId Instant) (rest : Candidates)
      (first : pass.candidates = (instanceId, entry :: pending) :: rest) :
      PassEffect s { pass with candidates := restOf rest instanceId pending }

theorem put_pass (s : System Digest) (passes : Dict Nat Pass) (k query : Nat) (fresh pass : Pass)
    (found : Dict.get query (Dict.put k fresh passes) = some pass) (here : PassEffect s fresh)
    (others : ∀ pass, Dict.get query passes = some pass → PassEffect s pass) : PassEffect s pass := by
  rw [dict_get_put] at found
  split at found
  · cases found
    exact here
  · exact others pass found

theorem pop_pass (s : System Digest) (k query : Nat) (pass : Pass)
    (found : Dict.get query (Dict.pop k s.passes) = some pass) : PassEffect s pass := by
  rw [dict_get_pop] at found
  split at found
  · cases found
  · exact .kept query pass found

theorem pass_effect (event : Event Digest) (taken : systemStep digest s event = some next) (query : Nat) (pass : Pass)
    (found : Dict.get query next.passes = some pass) : PassEffect s pass := by
  have old : ∀ pass, Dict.get query s.passes = some pass → PassEffect s pass := fun pass held => .kept query pass held
  cases event with
  | call call =>
      simp only [systemStep] at taken
      split at taken <;> cases taken
      exact old pass found
  | tick later =>
      simp only [systemStep] at taken
      split at taken <;> cases taken
      exact old pass found
  | readRunners k hint =>
      rw [read_runners_some s next k hint taken] at found
      exact put_pass s s.passes k query _ pass found (.readRunners hint) old
  | readRounds k =>
      obtain ⟨before, held, reached, done⟩ := on_pass_some s next k _ _ taken
      cases done
      exact put_pass s s.passes k query _ pass found (.readRounds k before held reached) old
  | readInstances k =>
      obtain ⟨before, held, reached, done⟩ := on_pass_some s next k _ _ taken
      cases done
      exact put_pass s s.passes k query _ pass found (.readInstances k before held reached) old
  | readNodes k =>
      obtain ⟨before, held, reached, done⟩ := on_pass_some s next k _ _ taken
      cases done
      exact put_pass s s.passes k query _ pass found (.readNodes k before held reached) old
  | enqueue k =>
      obtain ⟨before, held, reached, done⟩ := on_pass_some s next k _ _ taken
      cases done
      exact put_pass s s.passes k query _ pass found (.enqueued k before held reached) old
  | decide k =>
      obtain ⟨before, held, reached, done⟩ := on_pass_some s next k _ _ taken
      cases done
      exact put_pass s s.passes k query _ pass found (.decided k before held reached) old
  | activate k fresh =>
      obtain ⟨before, held, reached, done⟩ := on_pass_some s next k _ _ taken
      cases activate_pass_some digest s next k before fresh done with
      | taken instanceId nodeId dueAt pending rest emitted first _ same =>
          rw [same] at found
          exact put_pass s s.passes k query _ pass found
            (.activated k before held reached instanceId (nodeId, dueAt) pending rest first) old
      | raised instanceId nodeId dueAt pending rest first same =>
          rw [same] at found
          exact pop_pass s k query pass found
  | finish k =>
      cases taken
      exact pop_pass s k query pass found
  | claim =>
      obtain ⟨_, _, rfl⟩ := Option.map_eq_some_iff.mp taken
      exact old pass found
  | start rid owner =>
      simp only [systemStep] at taken
      split at taken <;> cases taken
      rw [(start_step_frame digest s rid owner).2.1] at found
      exact old pass found
  | abandon rid =>
      simp only [systemStep] at taken
      split at taken <;> cases taken
      exact old pass found
  | own | release =>
      cases taken
      exact old pass found
  | stop =>
      cases taken
      cases found

end LlmperfOrchestrator.Runtime

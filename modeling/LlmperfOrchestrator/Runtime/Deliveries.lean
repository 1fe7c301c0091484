import LlmperfOrchestrator.Runtime.Progression

set_option autoImplicit false

namespace LlmperfOrchestrator.Runtime.Progression

open Tables Storage

structure LoopInvariant (settings : Settings) (submitted : List String) (loop : Loop) : Prop where
  pendingKeys : (Dict.keys loop.pending).Nodup
  pending : ∀ id step, Dict.get id loop.pending = some step →
    step ∈ settings.steps ∧ step.stepId = id ∧ id ∉ submitted ∧ Dict.get id loop.cancelledSteps = none
  once : submitted.Nodup
  known : ∀ id ∈ submitted, known settings id = true
  results : ∀ id result, Dict.get id loop.results = some result → id ∈ submitted
  outstanding : ∀ id ∈ loop.outstanding, id ∈ submitted ∧ Dict.get id loop.results = none
  accounted : ∀ id ∈ submitted, id ∈ loop.outstanding ∨ Dict.get id loop.results ≠ none
  bounded : ∀ window ∈ settings.window, loop.outstanding.length ≤ window
  serial : settings.cooldown ≠ none → ∀ id ∈ loop.outstanding, submitted.head? = some id
  paced : ∀ cooldown ∈ settings.cooldown, ∀ id result, submitted.head? = some id → Dict.get id loop.results = some result →
    loop.nextWorkerAt = some (result.completedAt + cooldown)

variable (settings : Settings) (submitted : List String)

theorem loop_invariant_same (before after : Loop) (inv : LoopInvariant settings submitted before)
    (pending : after.pending = before.pending) (results : after.results = before.results)
    (cancelled : after.cancelledSteps = before.cancelledSteps) (outstanding : after.outstanding = before.outstanding)
    (paced : after.nextWorkerAt = before.nextWorkerAt) : LoopInvariant settings submitted after := by
  obtain ⟨p, r, c, o, _, n, _, _⟩ := after
  cases pending
  cases results
  cases cancelled
  cases outstanding
  cases paced
  exact ⟨inv.pendingKeys, inv.pending, inv.once, inv.known, inv.results, inv.outstanding, inv.accounted, inv.bounded,
    inv.serial, inv.paced⟩

def Committed (settings : Settings) (submitted : List String) (loop : Loop) : Delivered → Prop
  | .completed result => result.stepId ∈ submitted
  | .cancelled cancellation => known settings cancellation.stepId = true ∧ Dict.get cancellation.stepId loop.cancelledSteps ≠ none
  | .other topic => topic = "timer.due"

def Absorbed (settings : Settings) (loop : Loop) : Delivered → Prop
  | .completed result => known settings result.stepId = true ∧ Dict.get result.stepId loop.results ≠ none
  | .cancelled cancellation => known settings cancellation.stepId = true ∧ Dict.get cancellation.stepId loop.cancelledSteps ≠ none
  | .other topic => topic = "timer.due"

structure Keeps (before after : Loop) : Prop where
  results : ∀ id result, Dict.get id before.results = some result → Dict.get id after.results = some result
  cancelled : ∀ id, Dict.get id before.cancelledSteps ≠ none → Dict.get id after.cancelledSteps ≠ none

theorem keeps_same (before after : Loop) (results : after.results = before.results)
    (cancelled : after.cancelledSteps = before.cancelledSteps) : Keeps before after :=
  ⟨fun _ _ found => results ▸ found, fun _ held => cancelled ▸ held⟩

theorem keeps_refl (loop : Loop) : Keeps loop loop := keeps_same loop loop rfl rfl

theorem keeps_trans (a b c : Loop) (first : Keeps a b) (second : Keeps b c) : Keeps a c :=
  ⟨fun id result found => second.results id result (first.results id result found),
    fun id held => second.cancelled id (first.cancelled id held)⟩

theorem absorbed_keeps (before after : Loop) (keeps : Keeps before after) (message : Delivered)
    (absorbed : Absorbed settings before message) : Absorbed settings after message := by
  cases message with
  | completed result =>
      obtain ⟨member, held⟩ := absorbed
      obtain ⟨first, found⟩ := Option.ne_none_iff_exists'.mp held
      exact ⟨member, by rw [keeps.results _ first found]; simp⟩
  | cancelled cancellation => exact ⟨absorbed.1, keeps.cancelled _ absorbed.2⟩
  | other topic => exact absorbed

theorem committed_keeps (earlier later : List String) (before after : Loop) (keeps : Keeps before after)
    (grows : ∀ id ∈ earlier, id ∈ later) (message : Delivered) (committed : Committed settings earlier before message) :
    Committed settings later after message := by
  cases message with
  | completed result => exact grows _ committed
  | cancelled cancellation => exact ⟨committed.1, keeps.cancelled _ committed.2⟩
  | other topic => exact committed

theorem discard_absent (stepId : String) (steps : List String) (absent : stepId ∉ steps) : discard stepId steps = steps :=
  List.filter_eq_self.mpr fun _ member => decide_eq_true fun same => absent (same ▸ member)

theorem discard_mem (stepId other : String) (steps : List String) : other ∈ discard stepId steps ↔ other ∈ steps ∧ other ≠ stepId := by
  simp [discard]

theorem receive_absorbed (loop : Loop) (message : Delivered) (inv : LoopInvariant settings submitted loop)
    (absorbed : Absorbed settings loop message) : receive settings loop message = .ok loop := by
  cases message with
  | completed result =>
      obtain ⟨member, held⟩ := absorbed
      obtain ⟨first, found⟩ := Option.ne_none_iff_exists'.mp held
      have absent : result.stepId ∉ loop.outstanding := fun bad => held (inv.outstanding _ bad).2
      simp only [receive, member, if_true, recordResult, found, discard_absent _ _ absent]
  | cancelled cancellation =>
      obtain ⟨member, held⟩ := absorbed
      have absent : Dict.get cancellation.stepId loop.pending = none := by
        cases waiting : Dict.get cancellation.stepId loop.pending with
        | none => rfl
        | some step => exact absurd (inv.pending _ step waiting).2.2.2 held
      simp only [receive, member, if_true, recordCancellation, if_neg held, dict_pop_absent _ _ absent]
  | other topic =>
      have timer : topic = "timer.due" := absorbed
      simp only [receive, timer, if_true]

theorem deliver_absorbed (messages : List Delivered) (loop : Loop) (inv : LoopInvariant settings submitted loop)
    (absorbed : ∀ message ∈ messages, Absorbed settings loop message) : deliver settings messages loop = loop := by
  induction messages with
  | nil => rfl
  | cons message rest ih =>
      rw [deliver, receive_absorbed settings submitted loop message inv (absorbed message List.mem_cons_self)]
      exact ih fun other member => absorbed other (List.mem_cons_of_mem _ member)

theorem record_result_keeps (loop : Loop) (result : WorkerResult) (inv : LoopInvariant settings submitted loop)
    (member : result.stepId ∈ submitted) (first : Dict.get result.stepId loop.results = none) :
    LoopInvariant settings submitted (recordResult settings loop result) := by
  have open_ : result.stepId ∈ loop.outstanding := (inv.accounted _ member).resolve_right fun bad => bad first
  have same : recordResult settings loop result = { loop with
      results := Dict.put result.stepId result loop.results
      outstanding := discard result.stepId loop.outstanding
      nextWorkerAt := pauseAfter settings loop result } := by
    simp only [recordResult, first]
  rw [same]
  refine ⟨inv.pendingKeys, inv.pending, inv.once, inv.known, fun id other found => ?_, fun id outstanding => ?_, fun id known => ?_,
    fun window bound => ?_, fun serial id outstanding => ?_, fun cooldown set id other head found => ?_⟩
  · rw [dict_get_put] at found
    split at found
    · rename_i here
      exact here ▸ member
    · exact inv.results id other found
  · obtain ⟨old, different⟩ := (discard_mem _ _ _).mp outstanding
    obtain ⟨sent, absent⟩ := inv.outstanding id old
    exact ⟨sent, by rw [dict_get_put, if_neg different]; exact absent⟩
  · by_cases here : id = result.stepId
    · exact .inr (by rw [dict_get_put, if_pos here]; simp)
    · rcases inv.accounted id known with old | held
      · exact .inl ((discard_mem _ _ _).mpr ⟨old, here⟩)
      · exact .inr (by rw [dict_get_put, if_neg here]; exact held)
  · exact Nat.le_trans (List.length_filter_le _ _) (inv.bounded window bound)
  · exact inv.serial serial id ((discard_mem _ _ _).mp outstanding).1
  · have latest := inv.serial (by rw [show settings.cooldown = some cooldown from set]; simp) _ open_
    obtain rfl : result.stepId = id := Option.some.inj (latest.symm.trans head)
    rw [dict_get_put, if_pos rfl] at found
    cases found
    simp only [pauseAfter, show settings.cooldown = some cooldown from set]

structure Delivery (settings : Settings) (submitted : List String) (messages : List Delivered) (before after : Loop) : Prop where
  loop : LoopInvariant settings submitted after
  keeps : Keeps before after
  status : after.status = before.status
  cancelled : after.cancelledSteps = before.cancelledSteps
  pending : after.pending = before.pending
  absorbed : ∀ message ∈ messages, Absorbed settings after message

theorem deliver_committed (messages : List Delivered) (loop : Loop) (inv : LoopInvariant settings submitted loop)
    (committed : ∀ message ∈ messages, Committed settings submitted loop message) :
    Delivery settings submitted messages loop (deliver settings messages loop) := by
  induction messages generalizing loop with
  | nil => exact ⟨inv, keeps_refl loop, rfl, rfl, rfl, fun _ member => by cases member⟩
  | cons message rest ih =>
      have later := fun other member => committed other (List.mem_cons_of_mem _ member)
      have again : Absorbed settings loop message →
          Delivery settings submitted (message :: rest) loop (deliver settings (message :: rest) loop) := by
        intro absorbed
        rw [deliver, receive_absorbed settings submitted loop message inv absorbed]
        have tail := ih loop inv later
        refine ⟨tail.loop, tail.keeps, tail.status, tail.cancelled, tail.pending, fun other member => ?_⟩
        cases List.mem_cons.mp member with
        | inl same => exact same ▸ absorbed_keeps settings loop _ tail.keeps message absorbed
        | inr inRest => exact tail.absorbed other inRest
      have here := committed message List.mem_cons_self
      cases message with
      | cancelled cancellation => exact again here
      | other topic => exact again here
      | completed result =>
          have member : known settings result.stepId = true := inv.known _ here
          cases first : Dict.get result.stepId loop.results with
          | some old => exact again ⟨member, by rw [first]; simp⟩
          | none =>
              have fresh := record_result_keeps settings submitted loop result inv here first
              have kept : Keeps loop (recordResult settings loop result) := by
                refine ⟨fun id old found => ?_, fun id held => ?_⟩
                · simp only [recordResult, first]
                  rw [dict_get_put, if_neg (fun same => by rw [same, first] at found; cases found)]
                  exact found
                · simpa only [recordResult, first] using held
              have sameStatus : (recordResult settings loop result).status = loop.status := by simp only [recordResult, first]
              have sameCancelled : (recordResult settings loop result).cancelledSteps = loop.cancelledSteps := by
                simp only [recordResult, first]
              have samePending : (recordResult settings loop result).pending = loop.pending := by simp only [recordResult, first]
              have held : Dict.get result.stepId (recordResult settings loop result).results = some result := by
                simp only [recordResult, first, dict_get_put, if_true]
              have taken : receive settings loop (.completed result) = .ok (recordResult settings loop result) := by
                simp only [receive, member, if_true]
              rw [deliver, taken]
              have tail := ih (recordResult settings loop result) fresh fun other inRest =>
                committed_keeps settings submitted submitted loop _ kept (fun _ => id) other (later other inRest)
              refine ⟨tail.loop, keeps_trans _ _ _ kept tail.keeps, tail.status.trans sameStatus, tail.cancelled.trans sameCancelled,
                tail.pending.trans samePending, fun other listed => ?_⟩
              cases List.mem_cons.mp listed with
              | inl same => exact same ▸ ⟨member, by rw [tail.keeps.results _ result held]; simp⟩
              | inr inRest => exact tail.absorbed other inRest

theorem deliver_sources (messages : List Delivered) (loop : Loop) (id : String) (result : WorkerResult)
    (found : Dict.get id (deliver settings messages loop).results = some result) :
    Dict.get id loop.results = some result ∨ (Delivered.completed result ∈ messages ∧ result.stepId = id) := by
  induction messages generalizing loop with
  | nil => exact .inl found
  | cons message rest ih =>
      unfold deliver at found
      split at found
      · rename_i next received
        rcases ih next found with held | ⟨member, named⟩
        · cases message with
          | completed fresh =>
              simp only [receive] at received
              split at received
              · cases received
                unfold recordResult at held
                split at held
                · exact .inl held
                · rw [dict_get_put] at held
                  split at held
                  · rename_i here
                    cases held
                    exact .inr ⟨List.mem_cons_self, here.symm⟩
                  · exact .inl held
              · cases received
          | cancelled cancellation =>
              simp only [receive] at received
              split at received
              · cases received
                exact .inl held
              · cases received
          | other topic =>
              simp only [receive] at received
              split at received
              · cases received
                exact .inl held
              · cases received
        · exact .inr ⟨List.mem_cons_of_mem _ member, named⟩
      · exact .inl found

end LlmperfOrchestrator.Runtime.Progression

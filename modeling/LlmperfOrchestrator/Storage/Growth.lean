import LlmperfOrchestrator.Storage.Progress

set_option autoImplicit false

namespace LlmperfOrchestrator.Storage

open Tables Runs Outcomes

variable {Digest : Type} [DecidableEq Digest]

-- What survives between two states of the store, however many calls lie
-- between them. A Runner that was not there comes from an emitted node.
structure StoreGoes (s next : Store Digest) : Prop where
  nodes : ∀ id before, s.nodes.get id = some before → ∃ after, next.nodes.get id = some after ∧ NodeGoes before after
  runners : ∀ rid before, s.runners.get rid = some before → ∃ after, next.runners.get rid = some after ∧ RunnerMoves before after
  creations : CreationsStay s next
  origins : ∀ rid after, next.runners.get rid = some after → s.runners.get rid = none →
    ∃ id node, s.nodes.get id = some node ∧ after.template = node.template
  places : ∀ id after, next.nodes.get id = some after → ∃ before, s.nodes.get id = some before ∧ NodeGoes before after

theorem node_goes_refl (node : ExecutionNode) : NodeGoes node node := ⟨rfl, rfl, rfl, rfl, fun _ => ⟨rfl, rfl⟩, fun state => ⟨state, rfl⟩⟩

theorem store_goes_refl (s : Store Digest) : StoreGoes s s := by
  refine ⟨fun id before read => ⟨before, read, node_goes_refl before⟩, fun rid before read => ⟨before, read, runner_moves_refl before⟩,
    creations_same s s rfl, fun rid after read absent => ?_, fun id after read => ⟨after, read, node_goes_refl after⟩⟩
  rw [read] at absent
  cases absent

theorem node_goes_trans (a b c : ExecutionNode) (first : NodeGoes a b) (second : NodeGoes b c) : NodeGoes a c := by
  refine ⟨second.taskInstance.trans first.taskInstance, second.dependencies.trans first.dependencies, second.delay.trans first.delay,
    second.template.trans first.template, fun past => ?_, fun emitted => ?_⟩
  · obtain ⟨status, instant⟩ := first.checkpoint past
    obtain ⟨status', instant'⟩ := second.checkpoint (by rw [status]; exact past)
    exact ⟨status'.trans status, instant'.trans instant⟩
  · obtain ⟨state, runner⟩ := first.emission emitted
    obtain ⟨state', runner'⟩ := second.emission state
    exact ⟨state', runner'.trans runner⟩

theorem runner_moves_trans (a b c : Runner) (first : RunnerMoves a b) (second : RunnerMoves b c) : RunnerMoves a c := by
  refine ⟨second.template.trans first.template, second.campaign.trans first.campaign,
    fun queued => first.queued (second.queued queued), fun past => ?_⟩
  have kept := first.terminal past
  exact (second.terminal (by rw [kept]; exact past)).trans kept

theorem store_goes_trans (a b c : Store Digest) (first : StoreGoes a b) (second : StoreGoes b c) : StoreGoes a c := by
  refine ⟨fun id before read => ?_, fun rid before read => ?_, fun id task read => ?_, fun rid after read absent => ?_,
    fun id after read => ?_⟩
  · obtain ⟨middle, found, early⟩ := first.nodes id before read
    obtain ⟨after, found', late⟩ := second.nodes id middle found
    exact ⟨after, found', node_goes_trans before middle after early late⟩
  · obtain ⟨middle, found, early⟩ := first.runners rid before read
    obtain ⟨after, found', late⟩ := second.runners rid middle found
    exact ⟨after, found', runner_moves_trans before middle after early late⟩
  · obtain ⟨middle, found, early⟩ := first.creations id task read
    obtain ⟨after, found', late⟩ := second.creations id middle found
    exact ⟨after, found', late.trans early⟩
  · cases between : b.runners.get rid with
    | some middle =>
        obtain ⟨after', read', moved⟩ := second.runners rid middle between
        cases Option.some.inj (read.symm.trans read')
        obtain ⟨id, node, found, template⟩ := first.origins rid middle between absent
        exact ⟨id, node, found, moved.template.trans template⟩
    | none =>
        obtain ⟨id, middle, found, template⟩ := second.origins rid after read between
        obtain ⟨node, found', gone⟩ := first.places id middle found
        exact ⟨id, node, found', template.trans gone.template⟩
  · obtain ⟨middle, found, late⟩ := second.places id after read
    obtain ⟨before, found', early⟩ := first.places id middle found
    exact ⟨before, found', node_goes_trans before middle after early late⟩

variable (digest : Json → Digest) (s : Store Digest) (call : Call Digest)

theorem call_node_known (inv : TaskInvariant s) (id : DispatchId) (absent : s.nodes.get id = none) :
    (perform digest s call).1.nodes.get id = none := by
  cases call_progress digest s call inv with
  | inPlace rows _ => exact rows.nodes.known id absent
  | emitted caller nid dueAt fresh _ _ effect =>
      cases effect with
      | emitted node task read waiting owner live free same =>
          have other : id ≠ nid := by
            rintro rfl
            rw [read] at absent
            cases absent
          rw [same]
          exact (table_get_put_other _ _ _ _ other).trans absent
  | started caller rid owner runner messages _ _ _ _ same =>
      rw [same]
      exact absent

theorem call_goes (inv : TaskInvariant s) : StoreGoes s (perform digest s call).1 := by
  refine ⟨call_nodes_go digest s call inv, call_runners_go digest s call inv, call_creations digest s call inv,
    fun rid after read absent => ?_, fun id after read => ?_⟩
  · cases call_progress digest s call inv with
    | inPlace rows _ =>
        rw [rows.fresh rid absent] at read
        cases read
    | emitted caller nid dueAt fresh _ _ effect =>
        cases effect with
        | emitted node task found waiting owner live free same =>
            rw [same] at read
            rcases table_put_cases _ _ _ _ _ read with ⟨_, rfl⟩ | ⟨_, older⟩
            · exact ⟨nid, node, found, rfl⟩
            · rw [absent] at older
              cases older
    | started caller id owner runner messages _ _ found queued same =>
        rw [same] at read
        rcases table_put_cases _ _ _ _ _ read with ⟨rfl, _⟩ | ⟨_, older⟩
        · rw [absent] at found
          cases found
        · rw [absent] at older
          cases older
  · cases known : s.nodes.get id with
    | none =>
        rw [call_node_known digest s call inv id known] at read
        cases read
    | some before =>
        obtain ⟨found, read', gone⟩ := call_nodes_go digest s call inv id before known
        cases Option.some.inj (read.symm.trans read')
        exact ⟨before, rfl, gone⟩

def emitted (s : Store Digest) (id : DispatchId) : Bool := (s.nodes.get id).any fun node => node.state = .emitted

def statusOf (s : Store Digest) (rid : RunnerId) : Option RunnerStatus := (s.runners.get rid).map Runner.status

theorem emitted_true (id : DispatchId) : emitted s id = true ↔ ∃ node, s.nodes.get id = some node ∧ node.state = .emitted := by
  simp only [emitted, Option.any_eq_true, decide_eq_true_eq]

theorem emission_call (inv : TaskInvariant s) (id : DispatchId) (before : emitted s id = false)
    (after : emitted (perform digest s call).1 id = true) :
    ∃ caller dueAt fresh, call = .activateNode caller id dueAt fresh ∧
      ActivateEffect s (perform digest s call).1 caller id dueAt fresh (some fresh) := by
  obtain ⟨node, read, state⟩ := (emitted_true _ id).mp after
  have unemitted : ∀ old, s.nodes.get id = some old → old.state ≠ .emitted := by
    intro old found bad
    rw [(emitted_true s id).mpr ⟨old, found, bad⟩] at before
    cases before
  cases call_progress digest s call inv with
  | inPlace rows _ =>
      cases known : s.nodes.get id with
      | none =>
          rw [rows.nodes.known id known] at read
          cases read
      | some old =>
          obtain ⟨moved, read', moves⟩ := rows.nodes.moves id old known
          cases Option.some.inj (read.symm.trans read')
          rcases moves.state with same | ⟨_, dropped⟩
          · exact absurd (same ▸ state) (unemitted old known)
          · rw [dropped] at state
            cases state
  | emitted caller nid dueAt fresh called _ effect =>
      by_cases here : id = nid
      · exact ⟨caller, dueAt, fresh, here ▸ called, here ▸ effect⟩
      · cases effect with
        | emitted old task found waiting owner live free same =>
            rw [same] at read
            exact absurd state (unemitted node ((table_get_put_other _ _ _ _ here).symm.trans read))
  | started caller rid owner runner messages _ _ _ _ same =>
      rw [same] at read
      exact absurd state (unemitted node read)

theorem start_call (inv : TaskInvariant s) (rid : RunnerId) (after : statusOf (perform digest s call).1 rid = some .running) :
    statusOf s rid = some .running ∨ (statusOf s rid = some .queued ∧ ∃ caller owner, call = .startSelected caller rid owner) := by
  obtain ⟨fresh, read, running⟩ := Option.map_eq_some_iff.mp after
  cases call_progress digest s call inv with
  | inPlace rows _ =>
      cases known : s.runners.get rid with
      | none =>
          rw [rows.fresh rid known] at read
          cases read
      | some old =>
          obtain ⟨moved, read', _, idle⟩ := rows.runners rid old known
          cases Option.some.inj (read.symm.trans read')
          exact .inl (by rw [statusOf, known, Option.map_some, idle running])
  | emitted caller nid dueAt other _ _ effect =>
      cases effect with
      | emitted old task found waiting owner live free same =>
          rw [same] at read
          rcases table_put_cases _ _ _ _ _ read with ⟨_, rfl⟩ | ⟨_, older⟩
          · cases running
          · exact .inl (by rw [statusOf, older, Option.map_some, running])
  | started caller id owner runner messages called _ found queued same =>
      rw [same] at read
      rcases table_put_cases _ _ _ _ _ read with ⟨rfl, _⟩ | ⟨_, older⟩
      · exact .inr ⟨by rw [statusOf, found, Option.map_some, queued], caller, owner, called⟩
      · exact .inl (by rw [statusOf, older, Option.map_some, running])

theorem creation_call (inv : TaskInvariant s) (rid : RunnerId) (runner : Runner) (before : s.runners.get rid = none)
    (after : (perform digest s call).1.runners.get rid = some runner) :
    ∃ caller id dueAt, call = .activateNode caller id dueAt rid ∧
      ActivateEffect s (perform digest s call).1 caller id dueAt rid (some rid) := by
  cases call_progress digest s call inv with
  | inPlace rows _ =>
      rw [rows.fresh rid before] at after
      cases after
  | emitted caller nid dueAt fresh called _ effect =>
      cases effect with
      | emitted old task found waiting owner live free same =>
          have read := after
          rw [same] at read
          rcases table_put_cases _ _ _ _ _ read with ⟨rfl, _⟩ | ⟨_, older⟩
          · exact ⟨caller, nid, dueAt, called, .emitted old task found waiting owner live free same⟩
          · rw [before] at older
            cases older
  | started caller id owner other messages _ _ found queued same =>
      rw [same] at after
      rcases table_put_cases _ _ _ _ _ after with ⟨rfl, _⟩ | ⟨_, older⟩
      · rw [before] at found
        cases found
      · rw [before] at older
        cases older

end LlmperfOrchestrator.Storage

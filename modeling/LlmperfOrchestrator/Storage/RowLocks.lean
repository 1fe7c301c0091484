import LlmperfOrchestrator.Library.LockOrder
import LlmperfOrchestrator.Storage.RowPrograms

set_option autoImplicit false

namespace LlmperfOrchestrator.Storage.RowLocks

open Tables Transactions Runs

-- Runners come before plans, plans before task instances, and these before nodes.
def rank (row : Row) : Nat :=
  match row.kind with
  | .runner => 0
  | .plan => 1
  | .taskInstance => 2
  | .node => 3

theorem mapped_rank {Source : Type} {sources : List Source} {made : Source → Row} {row : Row} (level : Nat)
    (member : row ∈ sources.map made) (each : ∀ source, rank (made source) = level) : rank row = level := by
  obtain ⟨source, _, rfl⟩ := List.mem_map.mp member
  exact each source

theorem campaign_kind (rows : Rows) (row : Row) (campaign : CampaignId) (kind : Kind)
    (member : row ∈ rows.ofCampaign campaign kind) : row.kind = kind := by
  cases kind with
  | runner | plan | taskInstance | node =>
      obtain ⟨_, _, rfl⟩ := List.mem_map.mp member
      rfl

theorem onward_disciplined (level next : Nat) (above : level ≤ next) (matching : Rows → List Row)
    (later : List Row → Rows → Code) (kind : ∀ rows, ∀ row ∈ matching rows, rank row = next)
    (disciplined : ∀ locked rows, Disciplined rank next (later locked rows)) :
    Disciplined rank level (.lock .onward matching later) :=
  ⟨next, above, fun rows row member => ⟨Nat.le_of_eq (kind rows row member), fun _ => kind rows row member⟩, disciplined⟩

section Checkpoints
variable (rest : Code) (last : Disciplined rank 3 rest)
include last

theorem dispatches_disciplined (instanceId : InstanceId) (now : Instant) :
    Disciplined rank 3 (cancelTaskDispatches instanceId now rest) := by
  refine ⟨3, Nat.le_refl 3, fun rows row member => ⟨?_, fun onward => by cases onward⟩, fun siblings _ => ?_⟩
  · rw [mapped_rank 0 member fun _ => rfl]
    exact Nat.zero_le 3
  · exact onward_disciplined 3 3 (Nat.le_refl 3) _ _ (fun _ _ member => mapped_rank 3 member fun _ => rfl) fun _ _ => last

theorem end_disciplined (instanceId : InstanceId) (state : InstanceState) (error : String) (now : Instant) :
    Disciplined rank 3 (endInstance instanceId state error now rest) :=
  dispatches_disciplined rest last instanceId now

theorem advance_disciplined (instanceId : InstanceId) : Disciplined rank 3 (advanceInstance instanceId rest) :=
  onward_disciplined 3 3 (Nat.le_refl 3) _ _ (fun _ _ member => absurd member List.not_mem_nil) fun _ _ => last

theorem settle_disciplined (context : TaskContext) (task : TaskInstance) (status : RunnerStatus) (evidence : Evidence)
    (now : Instant) : Disciplined rank 3 (settleInstance context task status evidence now rest) := by
  rw [settleInstance]
  split
  · exact last
  · split
    · exact end_disciplined rest last _ _ _ now
    · split
      · exact advance_disciplined rest last context.instanceId
      · split
        · exact end_disciplined rest last _ _ _ now
        · exact advance_disciplined rest last context.instanceId

theorem context_disciplined (level : Nat) (direction : Direction) (runnerId : RunnerId) (runner : Runner) (context : TaskContext)
    (status : RunnerStatus) (occurredAt : Instant) (evidence : Evidence)
    (place : (direction = .onward ∧ level = 2) ∨ (direction = .backward ∧ level = 3)) :
    Disciplined rank level (checkpointContext direction runnerId runner context status occurredAt evidence rest) := by
  have below : level ≤ 3 := by rcases place with ⟨_, rfl⟩ | ⟨_, rfl⟩ <;> decide
  rw [checkpointContext]
  split
  · exact disciplined_below rank level 3 below rest last
  · refine ⟨level, Nat.le_refl level, fun rows row member => ?_, fun _ rows => ?_⟩
    · rw [mapped_rank 2 member fun _ => rfl]
      rcases place with ⟨rfl, rfl⟩ | ⟨rfl, rfl⟩ <;> simp
    · dsimp only
      split
      · exact disciplined_below rank level 3 below rest last
      · refine onward_disciplined level 3 below _ _ (fun _ _ member => mapped_rank 3 member fun _ => rfl) fun sources _ => ?_
        split
        · exact last
        · exact settle_disciplined rest last context _ status evidence occurredAt
        · trivial

theorem invocations_disciplined (runnerId : RunnerId) (runner : Runner) (status : RunnerStatus) (occurredAt : Instant)
    (requests : List RequestMetrics) (contexts : List TaskContext) :
    ∀ (level : Nat) (direction : Direction), (direction = .onward ∧ level = 2) ∨ (direction = .backward ∧ level = 3) →
      Disciplined rank level (checkpointInvocations runnerId runner status occurredAt requests rest direction contexts) := by
  induction contexts with
  | nil =>
      intro level direction place
      refine disciplined_below rank level 3 ?_ rest last
      rcases place with ⟨_, rfl⟩ | ⟨_, rfl⟩ <;> decide
  | cons invocation later ih =>
      intro level direction place
      exact context_disciplined _ (ih 3 .backward (.inr ⟨rfl, rfl⟩)) level direction runnerId runner invocation _ occurredAt _ place

theorem checkpoint_disciplined (runnerId : RunnerId) (runner : Runner) (status : RunnerStatus) (occurredAt : Instant)
    (evidence : Evidence) (requests : List RequestMetrics) :
    Disciplined rank 0 (checkpointTaskResult runnerId runner status occurredAt evidence requests rest) := by
  refine disciplined_below rank 0 2 (Nat.zero_le 2) _ ?_
  rw [checkpointTaskResult]
  split
  · exact invocations_disciplined rest last runnerId runner status occurredAt requests _ 2 .onward (.inl ⟨rfl, rfl⟩)
  · split
    · exact disciplined_below rank 2 3 (by decide) rest last
    · exact context_disciplined rest last 2 .onward runnerId runner _ status occurredAt evidence (.inl ⟨rfl, rfl⟩)

end Checkpoints

variable (now : Instant)

theorem activate_disciplined (id : DispatchId) (dueAt : Instant) (fresh : RunnerId) :
    Disciplined rank 0 (activateNode now id dueAt fresh) := by
  refine onward_disciplined 0 3 (Nat.zero_le 3) _ _ (fun _ _ member => mapped_rank 3 member fun _ => rfl) fun _ rows => ?_
  split
  · trivial
  · rename_i node _
    refine ⟨3, Nat.le_refl 3, fun rows row member => ⟨?_, fun onward => by cases onward⟩, fun _ rows => ?_⟩
    · rw [mapped_rank 2 member fun _ => rfl]
      decide
    · dsimp only
      split <;> trivial

theorem start_disciplined (id : RunnerId) (owner : String) : Disciplined rank 0 (startSelected now id owner) := by
  refine onward_disciplined 0 0 (Nat.le_refl 0) _ _ (fun _ _ member => mapped_rank 0 member fun _ => rfl) fun _ rows => ?_
  split
  · trivial
  · dsimp only
    split
    · trivial
    · rename_i context _
      refine onward_disciplined 0 2 (Nat.zero_le 2) _ _ (fun _ _ member => mapped_rank 2 member fun _ => rfl) fun _ rows => ?_
      split <;> trivial

theorem complete_disciplined (id : RunnerId) (requests : List RequestMetrics) (status : RunnerStatus)
    (errorMessage : Option String) : Disciplined rank 0 (completeRunner now id requests status errorMessage) := by
  rw [completeRunner]
  split
  · trivial
  · refine onward_disciplined 0 0 (Nat.le_refl 0) _ _ (fun _ _ member => mapped_rank 0 member fun _ => rfl) fun _ rows => ?_
    split
    · trivial
    · split
      · trivial
      · exact checkpoint_disciplined .commit trivial id _ status now _ requests

theorem finish_disciplined (id : RunnerId) (status : RunnerStatus) (message : String) :
    Disciplined rank 0 (finishRunner now id status message) := by
  rw [finishRunner]
  split
  · trivial
  · refine onward_disciplined 0 0 (Nat.le_refl 0) _ _ (fun _ _ member => mapped_rank 0 member fun _ => rfl) fun _ rows => ?_
    split
    · trivial
    · exact checkpoint_disciplined .commit trivial id _ status now noEvidence []

theorem cancel_disciplined (id : RunnerId) : Disciplined rank 0 (requestCancel now id) := by
  refine onward_disciplined 0 0 (Nat.le_refl 0) _ _ (fun _ _ member => mapped_rank 0 member fun _ => rfl) fun _ rows => ?_
  split
  · trivial
  · simp only [Disciplined]
    split
    · exact checkpoint_disciplined .commit trivial id _ .cancelled now noEvidence []
    · trivial

theorem campaign_disciplined (campaign : CampaignId) : Disciplined rank 0 (requestCancelCampaign now campaign) := by
  have statement : ∀ (kind : Kind) (rows : Rows), ∀ row ∈ rows.ofCampaign campaign kind, row.kind = kind :=
    fun kind rows row => campaign_kind rows row campaign kind
  refine onward_disciplined 0 0 (Nat.le_refl 0) _ _ (fun _ _ member => absurd member List.not_mem_nil) fun _ rows => ?_
  split
  · trivial
  · refine onward_disciplined 0 0 (Nat.le_refl 0) _ _ (fun rows row member => ?_) fun _ _ =>
      onward_disciplined 0 1 (by decide) _ _ (fun rows row member => ?_) fun _ _ =>
      onward_disciplined 1 2 (by decide) _ _ (fun rows row member => ?_) fun _ _ =>
      onward_disciplined 2 3 (by decide) _ _ (fun rows row member => ?_) fun _ _ => trivial
    all_goals rw [rank, statement _ rows row member]

theorem code_disciplined (call : Call) : Disciplined rank 0 (code call) := by
  cases call with
  | activateNode now node dueAt fresh => exact activate_disciplined now node dueAt fresh
  | startSelected now runner owner => exact start_disciplined now runner owner
  | completeRunner now runner requests status errorMessage => exact complete_disciplined now runner requests status errorMessage
  | finishRunner now runner status message => exact finish_disciplined now runner status message
  | requestCancel now runner => exact cancel_disciplined now runner
  | requestCancelCampaign now campaign => exact campaign_disciplined now campaign

-- A wait is orderly where no transaction waits for a queued sibling Runner in _cancel_task_dispatches
-- or for the instance of a further grouped invocation, no transaction that holds rows waits for one of
-- an activate_node that waits for its instance, and rows of one kind are asked for in one order.
theorem row_locks_deadlock_free (order : Row → Nat) (rows : Rows) (events : List (Event Row Call)) (last : Machine Rows Row Call)
    (meets : EveryStep (Transactions.step code) (Orderly rank order) (start rows) events)
    (reached : run (Transactions.step code) (start rows) events = some last) : ¬ Deadlocked last :=
  disciplined_run_free rank order code code_disciplined rows events last meets reached

def siblingContext (nodeId : String) : TaskContext := ⟨"instance", nodeId, some "payload", .atomic, none, []⟩

def siblingTemplate (nodeId : String) : Template := queuedTemplate (some (siblingContext nodeId)) none .blank

def siblingRunner (nodeId : String) (status : RunnerStatus) : RunnerRow :=
  ⟨⟨some "campaign", status, false, siblingTemplate nodeId, none, none, none, none⟩, none⟩

def siblingNode (nodeId : String) (runner : RunnerId) : NodeRow :=
  .task ⟨"campaign", "instance", nodeId, .emitted, some 0, siblingTemplate nodeId, [], 0, none, none, none, some runner, some 0⟩

def siblings : Rows where
  campaigns := ["campaign"]
  runners := (Table.empty.put "first" (siblingRunner "left" .running)).put "second" (siblingRunner "right" .queued)
  plans := Table.empty
  instances := Table.empty.put "instance" ⟨"campaign", .active, 0, [], [], [], none⟩
  nodes := (Table.empty.put "one" (siblingNode "left" "first")).put "two" (siblingNode "right" "second")

def waitingStart : List (Event Row Call) :=
  [.begin 0 (.completeRunner 1 "first" [⟨none, none, none, none, some "hash", none, none, none⟩] .succeeded none),
    .begin 1 (.startSelected 1 "second" "scheduler"),
    .execute 0 [.runner "first"], .request 0, .finish 0, .write 0,
    .execute 0 [.taskInstance "instance"], .request 0, .finish 0,
    .execute 1 [.runner "second"], .request 1, .finish 1, .execute 1 [.taskInstance "instance"], .request 1,
    .execute 0 [.node "one"], .request 0, .finish 0, .write 0, .write 0, .write 0, .execute 0 [], .finish 0, .write 0, .commit 0,
    .grant 1, .finish 1, .write 1, .commit 1]

theorem row_locks_deadlock_free_waiting :
    ∃ last, run (Transactions.step code) (start siblings) waitingStart = some last ∧ ¬ Deadlocked last := by
  have ends : (run (Transactions.step code) (start siblings) waitingStart).map (fun last =>
      last.committed.runners.rows.map fun entry => (entry.1, entry.2.runner.status)) =
        some [("first", .succeeded), ("second", .running)] := by decide +kernel
  obtain ⟨last, reached, _⟩ := Option.map_eq_some_iff.mp ends
  exact ⟨last, reached, row_locks_deadlock_free (fun _ => 0) siblings waitingStart last (by decide +kernel) reached⟩

end LlmperfOrchestrator.Storage.RowLocks

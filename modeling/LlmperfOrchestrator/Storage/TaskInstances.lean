import LlmperfOrchestrator.Storage.TaskCalls
import LlmperfOrchestrator.Storage.AtMostOnce

set_option autoImplicit false

namespace LlmperfOrchestrator.Storage

open Tables Runs Outcomes

variable {Digest : Type} [DecidableEq Digest]

structure SameTasks (s next : Store Digest) : Prop where
  runners : next.runners = s.runners
  instances : next.instances = s.instances
  nodes : next.nodes = s.nodes

theorem same_tasks_refl (s : Store Digest) : SameTasks s s := ⟨rfl, rfl, rfl⟩

theorem worker_call_tasks (digest : Json → Digest) (s : Store Digest) (call : Call Digest) (kind : workerCall call = true) :
    SameTasks s (perform digest s call).1 := by
  cases call with
  | createWorkers caller runner steps =>
      rcases transact_unit_cases s (createWorkers s caller runner steps) with ⟨_, _, same⟩ | ⟨next, done, same⟩
      · rw [perform, same]
        exact same_tasks_refl s
      · rw [perform, same]
        rcases create_workers_effect s next caller runner steps done with eq | ⟨_, _, eq⟩
        · exact eq ▸ same_tasks_refl s
        · exact eq ▸ ⟨rfl, rfl, rfl⟩
  | reserveWorker caller runner stepId window =>
      rcases transact_cases s .flag (reserveWorker s caller runner stepId window) with ⟨_, _, same⟩ | ⟨next, reply, done, same⟩
      · rw [perform, same]
        exact same_tasks_refl s
      · rw [perform, same]
        rcases reserve_worker_effect s next caller runner stepId window reply done with ⟨_, eq⟩ | ⟨_, _, _, _, _, eq⟩
        · exact eq ▸ same_tasks_refl s
        · exact eq ▸ ⟨rfl, rfl, rfl⟩
  | commitWorker caller runner result =>
      rcases perform_commit digest s caller runner result with ⟨_, same⟩ | ⟨next, message, same, effect⟩
      · rw [same]
        exact ⟨rfl, rfl, rfl⟩
      · rw [same]
        cases effect with
        | refused eq => exact eq ▸ ⟨rfl, rfl, rfl⟩
        | repeated eq => exact eq ▸ ⟨rfl, rfl, rfl⟩
        | recorded record read open_ free eq => exact eq ▸ ⟨rfl, rfl, rfl⟩
  | publishMessage caller message =>
      rcases transact_cases s .flag (publishMessage s caller message) with ⟨_, _, same⟩ | ⟨next, reply, done, same⟩
      · rw [perform, same]
        exact same_tasks_refl s
      · rw [perform, same]
        cases publish_effect s next caller message reply done with
        | untouched eq => exact eq ▸ same_tasks_refl s
        | added _ eq => exact eq ▸ ⟨rfl, rfl, rfl⟩
        | cancelled stepId worker metadata read created _ eq => exact eq ▸ ⟨rfl, rfl, rfl⟩
  | activateNode | startSelected | completeRunner | finishRunner | requestCancel | requestCancelCampaign | changeLease =>
      cases kind

def Silent (reply : Reply Digest) : Prop :=
  ∀ rid, reply ≠ .emitted (some rid) ∧ ∀ messages, reply ≠ .admitted (some ⟨rid, messages⟩)

theorem worker_call_silent (digest : Json → Digest) (s : Store Digest) (call : Call Digest) (kind : workerCall call = true) :
    Silent (perform digest s call).2 := by
  cases call with
  | createWorkers caller runner steps =>
      rcases transact_unit_cases s (createWorkers s caller runner steps) with ⟨_, _, same⟩ | ⟨_, _, same⟩ <;>
        rw [perform, same] <;> exact fun _ => ⟨by simp, by simp⟩
  | reserveWorker caller runner stepId window =>
      rcases transact_cases s .flag (reserveWorker s caller runner stepId window) with ⟨_, _, same⟩ | ⟨_, _, _, same⟩ <;>
        rw [perform, same] <;> exact fun _ => ⟨by simp, by simp⟩
  | commitWorker caller runner result =>
      rcases perform_commit digest s caller runner result with ⟨_, same⟩ | ⟨_, _, same, _⟩ <;>
        rw [same] <;> exact fun _ => ⟨by simp, by simp⟩
  | publishMessage caller message =>
      rcases transact_cases s .flag (publishMessage s caller message) with ⟨_, _, same⟩ | ⟨_, _, _, same⟩ <;>
        rw [perform, same] <;> exact fun _ => ⟨by simp, by simp⟩
  | activateNode | startSelected | completeRunner | finishRunner | requestCancel | requestCancelCampaign | changeLease =>
      cases kind

inductive TaskEffect (s next : Store Digest) : Call Digest → Reply Digest → Prop where
  | untouched (call : Call Digest) (reply : Reply Digest) (same : SameTasks s next)
      (silent : Silent reply) : TaskEffect s next call reply
  | emitted (caller : Caller) (id : DispatchId) (dueAt : Instant) (fresh : RunnerId)
      (effect : ActivateEffect s next caller id dueAt fresh (some fresh)) :
      TaskEffect s next (.activateNode caller id dueAt fresh) (.emitted (some fresh))
  | dropped (caller : Caller) (rid : RunnerId) (owner : String) (runner : Runner) (read : s.runners.get rid = some runner)
      (queued : runner.status = .queued)
      (same : next = setRunner s rid { runner with status := .cancelled, finishedAt := some caller.now }) :
      TaskEffect s next (.startSelected caller rid owner) (.admitted none)
  | started (caller : Caller) (rid : RunnerId) (owner : String) (runner : Runner) (messages : Option (List Json))
      (read : s.runners.get rid = some runner) (queued : runner.status = .queued)
      (live : ∀ context ∈ runner.template.taskContext, ∃ task, s.instances.get context.instanceId = some task ∧
        task.state.terminal = false)
      (same : next = setRunner s rid
        { runner with status := .running, startedAt := some caller.now, schedulerId := some owner }) :
      TaskEffect s next (.startSelected caller rid owner) (.admitted (some ⟨rid, messages⟩))
  | requested (now : Instant) (rid : RunnerId) (runner : Runner) (read : s.runners.get rid = some runner)
      (running : runner.status = .running) (same : next = setRunner s rid { runner with cancelRequested := true }) :
      TaskEffect s next (.requestCancel now rid) .done
  | ended (call : Call Digest) (reply : Reply Digest) (closed : Store Digest) (rid : RunnerId) (old fresh runner : Runner)
      (status : RunnerStatus) (now : Instant) (evidence : Evidence) (requests : List RequestMetrics)
      (read : s.runners.get rid = some old)
      (done : checkpointTaskResult closed rid runner status now evidence requests = .ok next)
      (runners : closed.runners = s.runners.put rid fresh) (instances : closed.instances = s.instances)
      (nodes : closed.nodes = s.nodes) (open_ : old.status.terminal = false) (finalStatus : fresh.status = status)
      (terminal : status.terminal = true) (template : fresh.template = old.template) (campaign : fresh.campaign = old.campaign)
      (same : runner.template = old.template)
      (silent : Silent reply) : TaskEffect s next call reply
  | campaign (now : Instant) (campaign : CampaignId) (same : next = requestCancelCampaign s now campaign) :
      TaskEffect s next (.requestCancelCampaign now campaign) .done

theorem task_effect (digest : Json → Digest) (s : Store Digest) (call : Call Digest) :
    TaskEffect s (perform digest s call).1 call (perform digest s call).2 := by
  cases call with
  | createWorkers | reserveWorker | commitWorker | publishMessage =>
      exact .untouched _ _ (worker_call_tasks digest s _ rfl) (worker_call_silent digest s _ rfl)
  | activateNode caller node dueAt fresh =>
      rcases transact_cases s .emitted (activateNode s caller node dueAt fresh) with ⟨_, _, same⟩ | ⟨next, reply, done, same⟩
      · rw [perform, same]
        exact .untouched _ _ (same_tasks_refl s) fun _ => ⟨by simp, by simp⟩
      · rw [perform, same]
        have effect := activate_effect s next caller node dueAt fresh reply done
        cases effect with
        | refused eq => exact .untouched _ _ (eq ▸ same_tasks_refl s) fun _ => ⟨by simp, by simp⟩
        | emitted a b c d e f g h => exact .emitted caller node dueAt fresh (.emitted a b c d e f g h)
  | startSelected caller runner owner =>
      rcases transact_cases s .admitted (startSelected s caller runner owner) with ⟨_, _, same⟩ | ⟨next, reply, done, same⟩
      · rw [perform, same]
        exact .untouched _ _ (same_tasks_refl s) fun _ => ⟨by simp, by simp⟩
      · rw [perform, same]
        cases start_effect s next caller runner owner reply done with
        | refused eq => exact .untouched _ _ (eq ▸ same_tasks_refl s) fun _ => ⟨by simp, by simp⟩
        | dropped old read queued eq => exact .dropped caller runner owner old read queued eq
        | started old messages read queued live eq => exact .started caller runner owner old messages read queued live eq
  | completeRunner caller runner requests status errorMessage =>
      rcases transact_cases s .flag (completeRunner s caller runner requests status errorMessage) with
        ⟨_, _, same⟩ | ⟨next, reply, done, same⟩
      · rw [perform, same]
        exact .untouched _ _ (same_tasks_refl s) fun _ => ⟨by simp, by simp⟩
      · rw [perform, same]
        cases complete_effect s next caller runner requests status errorMessage reply done with
        | refused eq => exact .untouched _ _ (eq ▸ same_tasks_refl s) fun _ => ⟨by simp, by simp⟩
        | completed old read running open_ ends one settled =>
            have terminal : status.terminal = true := by rcases ends with same | same <;> rw [same] <;> rfl
            exact .ended _ _ _ runner old _ old status caller.now _ requests read settled rfl rfl rfl (by rw [running]; rfl)
              rfl terminal rfl rfl rfl fun _ => ⟨by simp, by simp⟩
  | finishRunner caller runner status message =>
      rcases transact_cases s .flag (finishRunner s caller runner status message) with ⟨_, _, same⟩ | ⟨next, reply, done, same⟩
      · rw [perform, same]
        exact .untouched _ _ (same_tasks_refl s) fun _ => ⟨by simp, by simp⟩
      · rw [perform, same]
        cases finish_effect s next caller runner status message reply done with
        | refused eq => exact .untouched _ _ (eq ▸ same_tasks_refl s) fun _ => ⟨by simp, by simp⟩
        | finished old read running ends settled =>
            have terminal : status.terminal = true := by rcases ends with same | same <;> rw [same] <;> rfl
            exact .ended _ _ _ runner old _ _ status caller.now _ [] read settled rfl rfl rfl (by rw [running]; rfl)
              rfl terminal rfl rfl rfl fun _ => ⟨by simp, by simp⟩
  | requestCancel now runner =>
      rcases transact_unit_cases s (requestCancel s now runner) with ⟨_, _, same⟩ | ⟨next, done, same⟩
      · rw [perform, same]
        exact .untouched _ _ (same_tasks_refl s) fun _ => ⟨by simp, by simp⟩
      · rw [perform, same]
        cases cancel_effect s next now runner done with
        | refused eq => exact .untouched _ _ (eq ▸ same_tasks_refl s) fun _ => ⟨by simp, by simp⟩
        | unstarted old read queued settled =>
            exact .ended _ _ _ runner old _ _ .cancelled now _ [] read settled rfl rfl rfl (by rw [queued]; rfl)
              rfl rfl rfl rfl rfl fun _ => ⟨by simp, by simp⟩
        | requested old read running eq => exact .requested now runner old read running eq
  | requestCancelCampaign now campaign => exact .campaign now campaign rfl
  | changeLease lease => exact .untouched _ _ ⟨rfl, rfl, rfl⟩ fun _ => ⟨by simp [perform], by simp [perform]⟩

end LlmperfOrchestrator.Storage

import LlmperfOrchestrator.Storage.CallFates

set_option autoImplicit false

namespace LlmperfOrchestrator.Storage

open Tables Outcomes

variable {Digest : Type} [DecidableEq Digest]

structure RowsSettle (s next : Store Digest) : Prop where
  rows : ∀ rid before, s.runners.get rid = some before → ∃ after, next.runners.get rid = some after ∧
    (after = before ∨ (before.status = .queued ∧ after.status = .cancelled))
  fresh : NoNewRunner s next

theorem rows_settle_same (s next : Store Digest) (same : next.runners = s.runners) : RowsSettle s next :=
  ⟨fun _ before read => ⟨before, same ▸ read, .inl rfl⟩, fun _ absent => same ▸ absent⟩

theorem rows_settle_trans (a b c : Store Digest) (first : RowsSettle a b) (second : RowsSettle b c) : RowsSettle a c := by
  refine ⟨fun rid before read => ?_, fun rid absent => second.fresh rid (first.fresh rid absent)⟩
  obtain ⟨middle, found, early⟩ := first.rows rid before read
  obtain ⟨after, held, late⟩ := second.rows rid middle found
  refine ⟨after, held, ?_⟩
  rcases early with rfl | ⟨queued, cancelled⟩
  · exact late
  · rcases late with rfl | ⟨again, _⟩
    · exact .inr ⟨queued, cancelled⟩
    · cases cancelled.symm.trans again

theorem settle_rows_settle (s : Store Digest) (context : TaskContext) (task : TaskInstance) (status : RunnerStatus)
    (evidence : Evidence) (now : Instant) : RowsSettle s (settleInstance s context task status evidence now) := by
  obtain ⟨_, _, _, _, same | ⟨place, updated⟩⟩ := settle_tables s context task status evidence now
  · exact rows_settle_same s _ same
  · refine ⟨fun rid before read => ?_, fun rid absent => ?_⟩
    · refine ⟨cancelQueued place context.instanceId now rid before, ?_, ?_⟩
      · rw [updated, table_get_update, read]
        rfl
      · unfold cancelQueued
        split
        · rename_i dropped
          exact .inr ⟨dropped.1, rfl⟩
        · exact .inl rfl
    · rw [updated, table_get_update, absent]
      rfl

theorem context_rows_settle (s next : Store Digest) (rid : RunnerId) (runner : Runner) (context : TaskContext)
    (status : RunnerStatus) (occurredAt : Instant) (evidence : Evidence)
    (done : checkpointContext s rid runner context status occurredAt evidence = .ok next) : RowsSettle s next := by
  unfold checkpointContext at done
  split at done
  · cases done
    exact rows_settle_same s s rfl
  · split at done
    · cases done
      exact rows_settle_same s s rfl
    · obtain ⟨source, _, placed⟩ := (bind_ok _ _ _).mp done
      cases source with
      | none =>
          cases placed
          exact rows_settle_same s _ rfl
      | some found =>
          cases placed
          exact rows_settle_trans s (setNode s found.1 _) _ (rows_settle_same s _ rfl) (settle_rows_settle _ _ _ _ _ _)

theorem checkpoint_rows_settle (s next : Store Digest) (rid : RunnerId) (runner : Runner) (status : RunnerStatus)
    (occurredAt : Instant) (evidence : Evidence) (requests : List RequestMetrics)
    (done : checkpointTaskResult s rid runner status occurredAt evidence requests = .ok next) : RowsSettle s next := by
  unfold checkpointTaskResult at done
  split at done
  · refine fold_keeps _ (RowsSettle s) (fun state invocation after before taken => ?_) _ s next
      (rows_settle_same s s rfl) done
    exact rows_settle_trans s state after before (context_rows_settle _ _ _ _ _ _ _ _ taken)
  · split at done
    · cases done
      exact rows_settle_same s s rfl
    · exact context_rows_settle _ _ _ _ _ _ _ _ done

inductive RowStep (s : Store Digest) (call : Call Digest) (rid : RunnerId) (before after : Runner) : Prop where
  | kept (status : after.status = before.status) (requested : before.cancelRequested = true → after.cancelRequested = true)
      (ended : before.status.terminal = true → after.cancelRequested = before.cancelRequested)
  | stopped (queued : before.status = .queued) (cancelled : after.status = .cancelled)
  | started (caller : Caller) (owner : String) (called : call = .startSelected caller rid owner)
      (holds : checkRuntime s caller = .ok ()) (queued : before.status = .queued) (running : after.status = .running)
  | completed (caller : Caller) (requests : List RequestMetrics) (status : RunnerStatus) (error : Option String)
      (called : call = .completeRunner caller rid requests status error) (running : before.status = .running)
      (open_ : before.cancelRequested = false) (ends : status = .succeeded ∨ status = .failed)
      (final : after.status = status) (unrequested : after.cancelRequested = false)
  | finished (caller : Caller) (status : RunnerStatus) (message : String)
      (called : call = .finishRunner caller rid status message) (running : before.status = .running)
      (ends : status = .failed ∨ status = .cancelled) (final : after.status = status)

theorem row_step_refl (s : Store Digest) (call : Call Digest) (rid : RunnerId) (runner : Runner) :
    RowStep s call rid runner runner := .kept rfl id fun _ => rfl

structure RowsStep (s : Store Digest) (call : Call Digest) (next : Store Digest) : Prop where
  rows : ∀ rid before, s.runners.get rid = some before →
    ∃ after, next.runners.get rid = some after ∧ RowStep s call rid before after
  fresh : ∀ rid after, next.runners.get rid = some after → s.runners.get rid = none → after.status = .queued

theorem rows_step_same (s next : Store Digest) (call : Call Digest) (same : next.runners = s.runners) :
    RowsStep s call next := by
  refine ⟨fun rid before read => ⟨before, same ▸ read, row_step_refl s call rid before⟩, fun rid after read absent => ?_⟩
  rw [same, absent] at read
  cases read

theorem rows_step_put (s next : Store Digest) (call : Call Digest) (rid : RunnerId) (old fresh : Runner)
    (read : s.runners.get rid = some old) (same : next.runners = s.runners.put rid fresh)
    (step : RowStep s call rid old fresh) : RowsStep s call next := by
  refine ⟨fun query before found => ?_, fun query after found absent => ?_⟩
  · rw [same]
    by_cases here : query = rid
    · subst here
      cases Option.some.inj (read.symm.trans found)
      exact ⟨fresh, table_get_put_self _ _ _, step⟩
    · exact ⟨before, (table_get_put_other _ _ _ _ here).trans found, row_step_refl s call query before⟩
  · rw [same] at found
    rcases table_put_cases _ _ _ _ _ found with ⟨rfl, _⟩ | ⟨_, older⟩
    · cases absent.symm.trans read
    · cases absent.symm.trans older

theorem rows_step_ended (s closed next : Store Digest) (call : Call Digest) (rid : RunnerId) (old fresh runner : Runner)
    (status : RunnerStatus) (now : Instant) (evidence : Evidence) (requests : List RequestMetrics)
    (read : s.runners.get rid = some old) (same : closed.runners = s.runners.put rid fresh)
    (done : checkpointTaskResult closed rid runner status now evidence requests = .ok next)
    (past : fresh.status ≠ .queued) (step : RowStep s call rid old fresh) : RowsStep s call next := by
  have first := rows_step_put s closed call rid old fresh read same step
  have settled := checkpoint_rows_settle closed next rid runner status now evidence requests done
  refine ⟨fun query before found => ?_, fun query after found absent => ?_⟩
  · obtain ⟨middle, there, early⟩ := first.rows query before found
    obtain ⟨after, here, late⟩ := settled.rows query middle there
    refine ⟨after, here, ?_⟩
    rcases late with rfl | ⟨queued, cancelled⟩
    · exact early
    · have apart : query ≠ rid := by
        rintro rfl
        rw [same, table_get_put_self] at there
        exact past (Option.some.inj there ▸ queued)
      rw [same, table_get_put_other _ _ _ _ apart, found] at there
      cases there
      exact .stopped queued cancelled
  · have unknown : closed.runners.get query = none := by
      have apart : query ≠ rid := by
        rintro rfl
        cases absent.symm.trans read
      rw [same, table_get_put_other _ _ _ _ apart]
      exact absent
    rw [settled.fresh query unknown] at found
    cases found

theorem cancel_runner_row (s : Store Digest) (call : Call Digest) (rid : RunnerId) (campaign : CampaignId) (now : Instant)
    (runner : Runner) : RowStep s call rid runner (cancelRunner campaign now runner) := by
  unfold cancelRunner
  split
  · exact row_step_refl s call rid runner
  · rename_i live
    split
    · rename_i queued
      exact .stopped queued rfl
    · exact .kept rfl (fun _ => rfl) fun past => absurd (.inr past) live

theorem campaign_rows (s : Store Digest) (call : Call Digest) (now : Instant) (campaign : CampaignId) :
    RowsStep s call (requestCancelCampaign s now campaign) := by
  unfold requestCancelCampaign
  split
  · exact rows_step_same s s call rfl
  · refine ⟨fun rid before read => ⟨cancelRunner campaign now before, ?_, cancel_runner_row s call rid campaign now before⟩,
      fun rid after read absent => ?_⟩
    · simp [read]
    · simp [absent] at read

variable (digest : Json → Digest) (s : Store Digest) (call : Call Digest)

theorem call_rows : RowsStep s call (perform digest s call).1 := by
  have worker : workerCall call = true → RowsStep s call (perform digest s call).1 := by
    intro kind
    exact rows_step_same s _ call (worker_call_tasks digest s call kind).runners
  have still : RowsStep s call s := rows_step_same s s call rfl
  cases call with
  | createWorkers | reserveWorker | commitWorker | publishMessage => exact worker rfl
  | changeLease lease => exact rows_step_same s _ _ rfl
  | requestCancelCampaign now campaign => exact campaign_rows s _ now campaign
  | activateNode caller id dueAt fresh =>
      apply transact_keeps (RowsStep s _) s .emitted _ still
      intro next reply done
      cases activate_effect s next caller id dueAt fresh reply done with
      | refused same => exact same ▸ still
      | emitted node task read waiting owner live free same =>
          subst same
          refine ⟨fun rid before found => ?_, fun rid after found absent => ?_⟩
          · have apart : rid ≠ fresh := by
              rintro rfl
              cases free.symm.trans found
            exact ⟨before, (table_get_put_other _ _ _ _ apart).trans found, row_step_refl s _ rid before⟩
          · rcases table_put_cases _ _ _ _ _ found with ⟨_, rfl⟩ | ⟨_, older⟩
            · rfl
            · cases absent.symm.trans older
  | startSelected caller rid owner =>
      apply transact_keeps (RowsStep s _) s .admitted _ still
      intro next reply done
      obtain ⟨_, holds, _⟩ := (bind_ok _ _ _).mp done
      cases start_effect s next caller rid owner reply done with
      | refused same => exact same ▸ still
      | dropped old read queued same =>
          subst same
          exact rows_step_put s _ _ rid old _ read rfl (.stopped queued rfl)
      | started old messages read queued live same =>
          subst same
          exact rows_step_put s _ _ rid old _ read rfl (.started caller owner rfl holds queued rfl)
  | completeRunner caller rid requests status errorMessage =>
      apply transact_keeps (RowsStep s _) s .flag _ still
      intro next reply done
      cases complete_effect s next caller rid requests status errorMessage reply done with
      | refused same => exact same ▸ still
      | completed old read running open_ ends one settled =>
          refine rows_step_ended s _ next _ rid old
            { old with status := status, finishedAt := some caller.now, errorMessage := errorMessage } old status caller.now _
            requests read rfl settled ?_ (.completed caller requests status errorMessage rfl running open_ ends rfl open_)
          rcases ends with rfl | rfl <;> simp
  | finishRunner caller rid status message =>
      apply transact_keeps (RowsStep s _) s .flag _ still
      intro next reply done
      cases finish_effect s next caller rid status message reply done with
      | refused same => exact same ▸ still
      | finished old read running ends settled =>
          refine rows_step_ended s _ next _ rid old _ _ status caller.now _ [] read rfl settled ?_
            (.finished caller status message rfl running ends rfl)
          rcases ends with rfl | rfl <;> simp
  | requestCancel now rid =>
      apply transact_unit_keeps (RowsStep s _) s _ still
      intro next done
      cases cancel_effect s next now rid done with
      | refused same => exact same ▸ still
      | unstarted old read queued settled =>
          exact rows_step_ended s _ next _ rid old _ _ .cancelled now _ [] read rfl settled nofun
            (.stopped queued rfl)
      | requested old read running same =>
          subst same
          refine rows_step_put s _ _ rid old _ read rfl (.kept rfl (fun _ => rfl) fun past => ?_)
          rw [running] at past
          cases past

theorem settled_row (s next : Store Digest) (rid : RunnerId) (fresh row : Runner) (settled : RowsSettle s next)
    (ended : s.runners.get rid = some fresh) (final : fresh.status.terminal = true) (read : next.runners.get rid = some row) :
    row.status ≠ .running := by
  obtain ⟨after, found, late⟩ := settled.rows rid fresh ended
  cases Option.some.inj (read.symm.trans found)
  rcases late with rfl | ⟨_, cancelled⟩
  · intro running
    rw [running] at final
    cases final
  · simp [cancelled]

theorem finish_ends (caller : Caller) (rid : RunnerId) (status : RunnerStatus) (message : String) (flag : Bool)
    (answered : (perform digest s (.finishRunner caller rid status message)).2 = .flag flag) (row : Runner)
    (read : (perform digest s (.finishRunner caller rid status message)).1.runners.get rid = some row) : row.status ≠ .running := by
  rcases transact_cases s .flag (finishRunner s caller rid status message) with ⟨error, _, raised⟩ | ⟨next, value, done, same⟩
  · rw [perform, raised] at answered
    cases answered
  · rw [perform, same] at read
    dsimp only at read
    have effect := finish_effect s next caller rid status message value done
    cases effect with
    | finished old found running ends settled =>
        exact settled_row _ next rid _ row (checkpoint_rows_settle _ next rid _ _ _ _ _ settled) (table_get_put_self _ _ _)
          (by rcases ends with rfl | rfl <;> rfl) read
    | refused =>
        intro running
        unfold finishRunner at done
        split at done
        · cases done
        · obtain ⟨_, _, opened⟩ := (bind_ok _ _ _).mp done
          split at opened
          · rename_i missing
            cases opened
            rw [read, Option.filter_eq_none_iff] at missing
            exact missing row rfl (decide_eq_true running)
          · obtain ⟨_, _, final⟩ := (bind_ok _ _ _).mp opened
            cases final

theorem complete_ends (caller : Caller) (rid : RunnerId) (requests : List RequestMetrics) (status : RunnerStatus)
    (error : Option String) (flag : Bool)
    (answered : (perform digest s (.completeRunner caller rid requests status error)).2 = .flag flag) (row : Runner)
    (read : (perform digest s (.completeRunner caller rid requests status error)).1.runners.get rid = some row) :
    row.status ≠ .running ∨ (flag = false ∧ row.cancelRequested = true) := by
  rcases transact_cases s .flag (completeRunner s caller rid requests status error) with ⟨raised, _, same⟩ | ⟨next, value, done, same⟩
  · rw [perform, same] at answered
    cases answered
  · rw [perform, same] at read answered
    cases answered
    dsimp only at read
    have effect := complete_effect s next caller rid requests status error flag done
    cases effect with
    | completed old found running open_ ends one settled =>
        exact .inl (settled_row _ next rid _ row (checkpoint_rows_settle _ next rid _ _ _ _ _ settled) (table_get_put_self _ _ _)
          (by rcases ends with rfl | rfl <;> rfl) read)
    | refused =>
        by_cases running : row.status = .running
        · refine .inr ⟨rfl, ?_⟩
          unfold completeRunner at done
          split at done
          · cases done
          · obtain ⟨_, _, opened⟩ := (bind_ok _ _ _).mp done
            split at opened
            · rename_i missing
              cases opened
              rw [accepting, read, Option.filter_eq_none_iff] at missing
              have closed := missing row rfl
              simpa [running] using closed
            · split at opened
              · cases opened
              · obtain ⟨_, _, final⟩ := (bind_ok _ _ _).mp opened
                cases final
        · exact .inl running

structure RowLater (before after : Runner) : Prop where
  unqueued : before.status ≠ .queued → after.status ≠ .queued
  ended : before.status.terminal = true → after.status = before.status ∧ after.cancelRequested = before.cancelRequested
  requested : before.status = .running → before.cancelRequested = true → after.status = .running → after.cancelRequested = true

def RowsLater (s next : Store Digest) : Prop :=
  ∀ rid before, s.runners.get rid = some before → ∃ after, next.runners.get rid = some after ∧ RowLater before after

def NoneNew (status : RunnerStatus) (s next : Store Digest) : Prop :=
  ∀ rid after, next.runners.get rid = some after → after.status = status →
    ∃ before, s.runners.get rid = some before ∧ before.status = status

theorem row_later_refl (runner : Runner) : RowLater runner runner := ⟨id, fun _ => ⟨rfl, rfl⟩, fun _ requested _ => requested⟩

theorem rows_later_same (s next : Store Digest) (same : next.runners = s.runners) : RowsLater s next :=
  fun _ before read => ⟨before, same ▸ read, row_later_refl before⟩

theorem none_new_same (status : RunnerStatus) (s next : Store Digest) (same : next.runners = s.runners) :
    NoneNew status s next := fun _ after read held => ⟨after, same ▸ read, held⟩

theorem row_step_later (rid : RunnerId) (before after : Runner) (step : RowStep s call rid before after) : RowLater before after := by
  cases step with
  | kept status requested ended =>
      exact ⟨fun past => status ▸ past, fun past => ⟨status, ended past⟩, fun _ asked _ => requested asked⟩
  | stopped queued cancelled =>
      exact ⟨fun past => absurd queued past, by rw [queued]; nofun, by rw [cancelled]; nofun⟩
  | started _ _ _ _ queued _ => exact ⟨fun past => absurd queued past, by rw [queued]; nofun, by rw [queued]; nofun⟩
  | completed _ _ status _ _ running open_ ends final _ =>
      refine ⟨fun _ => ?_, by rw [running]; nofun, by rw [open_]; nofun⟩
      rw [final]
      rcases ends with rfl | rfl <;> simp
  | finished _ status _ _ running ends final =>
      refine ⟨fun _ => ?_, by rw [running]; nofun, ?_⟩
      all_goals
        rw [final]
        rcases ends with rfl | rfl <;> simp

theorem call_rows_later : RowsLater s (perform digest s call).1 := by
  intro rid before read
  obtain ⟨after, found, step⟩ := (call_rows digest s call).rows rid before read
  exact ⟨after, found, row_step_later s call rid before after step⟩

theorem row_origin (rid : RunnerId) (after : Runner) (read : (perform digest s call).1.runners.get rid = some after)
    (past : after.status ≠ .queued) : ∃ before, s.runners.get rid = some before ∧ RowStep s call rid before after := by
  have moved := call_rows digest s call
  cases known : s.runners.get rid with
  | none => exact absurd (moved.fresh rid after read known) past
  | some before =>
      obtain ⟨found, held, step⟩ := moved.rows rid before known
      cases Option.some.inj (read.symm.trans held)
      exact ⟨before, rfl, step⟩

theorem running_origin (rid : RunnerId) (after : Runner) (read : (perform digest s call).1.runners.get rid = some after)
    (running : after.status = .running) :
    ∃ before, s.runners.get rid = some before ∧ (before.status = .running ∨
      ∃ caller owner, call = .startSelected caller rid owner ∧ checkRuntime s caller = .ok () ∧ before.status = .queued) := by
  obtain ⟨before, found, step⟩ := row_origin digest s call rid after read (by rw [running]; nofun)
  refine ⟨before, found, ?_⟩
  cases step with
  | kept status _ _ => exact .inl (status ▸ running)
  | stopped _ cancelled => cases cancelled.symm.trans running
  | started caller owner called holds queued _ => exact .inr ⟨caller, owner, called, holds, queued⟩
  | completed _ _ _ _ _ held => exact .inl held
  | finished _ _ _ _ held => exact .inl held

theorem none_started (other : ∀ caller rid owner, call ≠ .startSelected caller rid owner) :
    NoneNew .running s (perform digest s call).1 := by
  intro rid after read running
  obtain ⟨before, found, held | ⟨caller, owner, called, _⟩⟩ := running_origin digest s call rid after read running
  · exact ⟨before, found, held⟩
  · exact absurd called (other caller rid owner)

theorem succeeded_origin (rid : RunnerId) (after : Runner) (read : (perform digest s call).1.runners.get rid = some after)
    (succeeded : after.status = .succeeded) :
    (∃ before, s.runners.get rid = some before ∧ before.status = .succeeded) ∨ (after.cancelRequested = false ∧
      ∃ caller requests error, call = .completeRunner caller rid requests .succeeded error) := by
  obtain ⟨before, found, step⟩ := row_origin digest s call rid after read (by rw [succeeded]; nofun)
  cases step with
  | kept status _ _ => exact .inl ⟨before, found, status ▸ succeeded⟩
  | stopped _ cancelled => cases cancelled.symm.trans succeeded
  | started _ _ _ _ _ running => cases running.symm.trans succeeded
  | completed caller requests status error called _ _ _ final unrequested =>
      cases final.symm.trans succeeded
      exact .inr ⟨unrequested, caller, requests, error, called⟩
  | finished _ status _ _ _ ends final =>
      rcases ends with rfl | rfl <;> cases final.symm.trans succeeded

theorem none_succeeded (other : ∀ caller rid requests error, call ≠ .completeRunner caller rid requests .succeeded error) :
    NoneNew .succeeded s (perform digest s call).1 := by
  intro rid after read succeeded
  rcases succeeded_origin digest s call rid after read succeeded with before | ⟨_, caller, requests, error, called⟩
  · exact before
  · exact absurd called (other caller rid requests error)

theorem call_lease (other : ∀ lease, call ≠ .changeLease lease) : (perform digest s call).1.lease = s.lease := by
  let same (next : Store Digest) : Prop := next.lease = s.lease
  cases call with
  | changeLease lease => exact absurd rfl (other lease)
  | requestCancelCampaign now campaign =>
      rw [perform, requestCancelCampaign]
      split <;> rfl
  | createWorkers caller rid steps =>
      refine transact_unit_keeps same s _ rfl fun next done => ?_
      rcases create_workers_effect s next caller rid steps done with rfl | ⟨_, _, rfl⟩ <;> rfl
  | reserveWorker caller rid stepId window =>
      refine transact_keeps same s .flag _ rfl fun next granted done => ?_
      rcases reserve_worker_effect s next caller rid stepId window granted done with ⟨_, rfl⟩ | ⟨_, _, _, _, _, rfl⟩ <;> rfl
  | commitWorker caller rid result =>
      change (commitWorker digest s caller rid result).1.lease = s.lease
      unfold commitWorker
      dsimp only
      split
      · rename_i next message done
        cases commit_effect _ next caller rid result _ _ message done with
        | refused same => exact same ▸ rfl
        | repeated same => exact same ▸ rfl
        | recorded _ _ _ _ same => exact same ▸ rfl
      · rfl
  | publishMessage caller message =>
      refine transact_keeps same s .flag _ rfl fun next accepted done => ?_
      cases publish_effect s next caller message accepted done with
      | untouched same => exact same ▸ rfl
      | added _ same => exact same ▸ rfl
      | cancelled _ _ _ _ _ _ same => exact same ▸ rfl
  | activateNode caller id dueAt fresh =>
      refine transact_keeps same s .emitted _ rfl fun next reply done => ?_
      cases activate_effect s next caller id dueAt fresh reply done with
      | refused same => exact same ▸ rfl
      | emitted _ _ _ _ _ _ _ same => exact same ▸ rfl
  | startSelected caller rid owner =>
      refine transact_keeps same s .admitted _ rfl fun next reply done => ?_
      cases start_effect s next caller rid owner reply done with
      | refused same => exact same ▸ rfl
      | dropped _ _ _ same => exact same ▸ rfl
      | started _ _ _ _ _ same => exact same ▸ rfl
  | completeRunner caller rid requests status errorMessage =>
      refine transact_keeps same s .flag _ rfl fun next reply done => ?_
      cases complete_effect s next caller rid requests status errorMessage reply done with
      | refused same => exact same ▸ rfl
      | completed _ _ _ _ _ _ settled => exact (checkpoint_same_work _ _ _ _ _ _ _ _ settled).lease
  | finishRunner caller rid status message =>
      refine transact_keeps same s .flag _ rfl fun next reply done => ?_
      cases finish_effect s next caller rid status message reply done with
      | refused same => exact same ▸ rfl
      | finished _ _ _ _ settled => exact (checkpoint_same_work _ _ _ _ _ _ _ _ settled).lease
  | requestCancel now rid =>
      refine transact_unit_keeps same s _ rfl fun next done => ?_
      cases cancel_effect s next now rid done with
      | refused same => exact same ▸ rfl
      | unstarted _ _ _ settled => exact (checkpoint_same_work _ _ _ _ _ _ _ _ settled).lease
      | requested _ _ _ same => exact same ▸ rfl

theorem start_answer (caller : Caller) (rid : RunnerId) (owner : String) :
    ((∀ admitted, (perform digest s (.startSelected caller rid owner)).2 ≠ .admitted (some admitted)) ∧
      NoneNew .running s (perform digest s (.startSelected caller rid owner)).1) ∨
    (checkRuntime s caller = .ok () ∧ ∃ before admitted, s.runners.get rid = some before ∧ before.status = .queued ∧
      (perform digest s (.startSelected caller rid owner)).2 = .admitted (some admitted) ∧
      (perform digest s (.startSelected caller rid owner)).1.runners.get rid =
        some { before with status := .running, startedAt := some caller.now, schedulerId := some owner }) := by
  rcases transact_cases s .admitted (startSelected s caller rid owner) with ⟨error, _, raised⟩ | ⟨next, value, done, reply⟩
  · rw [perform, raised]
    exact .inl ⟨by simp, none_new_same _ s s rfl⟩
  · rw [perform, reply]
    obtain ⟨_, holds, _⟩ := (bind_ok _ _ _).mp done
    cases start_effect s next caller rid owner value done with
    | refused same => exact .inl ⟨by simp, none_new_same _ s next (by rw [same])⟩
    | dropped old read queued same =>
        refine .inl ⟨by simp, fun query after found running => ?_⟩
        change next.runners.get query = some after at found
        rw [same] at found
        rcases table_put_cases _ _ _ _ _ found with ⟨_, rfl⟩ | ⟨_, older⟩
        · cases running
        · exact ⟨after, older, running⟩
    | started old messages read queued live same =>
        refine .inr ⟨holds, old, _, read, queued, rfl, ?_⟩
        change next.runners.get rid = _
        rw [same]
        exact table_get_put_self _ _ _

end LlmperfOrchestrator.Storage

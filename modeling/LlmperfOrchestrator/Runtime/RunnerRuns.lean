import LlmperfOrchestrator.Runtime.RunnerPermits

set_option autoImplicit false

namespace LlmperfOrchestrator.Runners

open Runs Tables Semaphores

section

structure SchedulerOk (maximum : Nat) (s : Scheduler) : Prop where
  admission : AdmissionOk maximum s.admission
  holds : .slot ∈ s.admission.active ↔ s.worker = .claiming
  waits : Listed s.admission.capacity .slot ↔ s.worker = .acquiring
  unclaimed : ∀ runner, s.runs.get runner = none →
    .runner runner ∉ s.admission.active ∧ ¬ Listed s.admission.capacity (.runner runner)
  runs : ∀ runner run, s.runs.get runner = some run → RunOk s.admission runner run

def Lost (s : Scheduler) : Prop := ∃ runner run, s.runs.get runner = some run ∧ Keeps s.admission runner run

def loses (s : Scheduler) : Event → Bool
  | .cancelUnstarted _ => true
  | .submit runner =>
      (s.runs.get runner).any fun run => run.supervisor = .ended && !locked s.admission.capacity
  | .resumeSubmission runner =>
      (s.runs.get runner).any fun run =>
        run.supervisor = .ended && s.admission.capacity.waiters.get (.runner runner) = some .granted
  | _ => false

variable (maximum : Nat) (s next : Scheduler)

theorem run_ok_congr (a b : RunnerAdmission) (runner : RunnerId) (run : Run) (ok : RunOk a runner run)
    (active : .runner runner ∈ b.active ↔ .runner runner ∈ a.active)
    (listed : Listed b.capacity (.runner runner) ↔ Listed a.capacity (.runner runner)) : RunOk b runner run where
  waiting := listed.trans ok.waiting
  ended := ok.ended
  created := by
    intro created
    obtain ⟨claimed, holding⟩ := ok.created created
    exact ⟨claimed, active.mpr holding⟩

theorem initial_ok : SchedulerOk maximum (initial maximum) where
  admission := ⟨rfl, List.nodup_nil, fun holder member => absurd member List.not_mem_nil⟩
  holds := iff_of_false List.not_mem_nil (by simp [initial])
  waits := iff_of_false (fun listed => listed rfl) (by simp [initial])
  unclaimed := fun _ _ => ⟨List.not_mem_nil, fun listed => listed rfl⟩
  runs := fun _ _ read => by cases read

theorem slot_ok (b : RunnerAdmission) (worker : WorkerLoop) (holds waits : Prop) (ok : SchedulerOk maximum s)
    (moves : Moves maximum .slot s.admission b holds waits) (claiming : holds ↔ worker = .claiming)
    (acquiring : waits ↔ worker = .acquiring) :
    SchedulerOk maximum ⟨b, worker, s.runs⟩ ∧ (Lost ⟨b, worker, s.runs⟩ ↔ Lost s) := by
  have other : ∀ runner : RunnerId, Holder.runner runner ≠ .slot := fun runner same => by cases same
  constructor
  · exact {
      admission := moves.ok
      holds := moves.holds.trans claiming
      waits := moves.waits.trans acquiring
      unclaimed := by
        intro runner absent
        obtain ⟨active, listed⟩ := moves.rest _ (other runner)
        rw [active, listed]
        exact ok.unclaimed runner absent
      runs := by
        intro runner run read
        obtain ⟨active, listed⟩ := moves.rest _ (other runner)
        exact run_ok_congr s.admission b runner run (ok.runs runner run read) active listed }
  · apply exists_congr
    intro runner
    apply exists_congr
    intro run
    exact and_congr_right fun _ => and_congr_right fun _ => (moves.rest _ (other runner)).1

section Put

variable (b : RunnerAdmission) (worker : WorkerLoop) (runner : RunnerId) (fresh : Run)
  (rest : ∀ other : RunnerId, other ≠ runner →
    (.runner other ∈ b.active ↔ .runner other ∈ s.admission.active) ∧
      (Listed b.capacity (.runner other) ↔ Listed s.admission.capacity (.runner other)))

include rest

theorem put_run_ok (ok : SchedulerOk maximum s) (admission : AdmissionOk maximum b) (holds : .slot ∈ b.active ↔ worker = .claiming)
    (waits : Listed b.capacity .slot ↔ worker = .acquiring) (standing : RunOk b runner fresh) :
    SchedulerOk maximum ⟨b, worker, s.runs.put runner fresh⟩ where
  admission := admission
  holds := holds
  waits := waits
  unclaimed := by
    intro other absent
    obtain ⟨different, before⟩ := table_put_absent s.runs runner other fresh absent
    obtain ⟨active, listed⟩ := rest other different
    rw [active, listed]
    exact ok.unclaimed other before
  runs := by
    intro other found stored
    cases table_put_cases s.runs runner other fresh found stored with
    | inl here =>
        rw [here.1, here.2]
        exact standing
    | inr before =>
        obtain ⟨active, listed⟩ := rest other before.1
        exact run_ok_congr s.admission b other found (ok.runs other found before.2) active listed

theorem put_run_lost :
    Lost ⟨b, worker, s.runs.put runner fresh⟩ ↔
      Keeps b runner fresh ∨ ∃ other found, other ≠ runner ∧ s.runs.get other = some found ∧ Keeps s.admission other found := by
  constructor
  · rintro ⟨other, found, stored, keeps⟩
    cases table_put_cases s.runs runner other fresh found stored with
    | inl here =>
        rw [here.1, here.2] at keeps
        exact .inl keeps
    | inr before => exact .inr ⟨other, found, before.1, before.2, keeps.1, (rest other before.1).1.mp keeps.2⟩
  · rintro (keeps | ⟨other, found, different, stored, keeps⟩)
    · exact ⟨runner, fresh, table_get_put_self s.runs runner fresh, keeps⟩
    · exact ⟨other, found, (table_get_put_other s.runs runner other fresh different).trans stored, keeps.1,
        (rest other different).1.mpr keeps.2⟩

end Put

theorem on_run_ok (runner : RunnerId) (action : Action) (lost : Run → Prop) (ok : SchedulerOk maximum s)
    (taken : onRun runner action s = some next)
    (spec : ∀ run result, s.runs.get runner = some run → RunOk s.admission runner run → action s.admission run = some result →
      ActionOk maximum runner s.admission result.1 run result.2 (lost run)) :
    SchedulerOk maximum next ∧ (Lost next ↔ Lost s ∨ ∃ run, s.runs.get runner = some run ∧ lost run) := by
  obtain ⟨run, read, moved⟩ := Option.bind_eq_some_iff.mp taken
  obtain ⟨result, acted, same⟩ := Option.map_eq_some_iff.mp moved
  subst same
  have done := spec run result read (ok.runs runner run read) acted
  have slot := done.rest .slot fun same => by cases same
  have rest := fun (other : RunnerId) (different : other ≠ runner) =>
    done.rest (.runner other) fun same => different (Holder.runner.inj same)
  constructor
  · exact put_run_ok maximum s result.1 s.worker runner result.2 rest ok done.ok (slot.1.trans ok.holds) (slot.2.trans ok.waits) done.run
  · rw [put_run_lost s result.1 s.worker runner result.2 rest, done.keeps]
    constructor
    · rintro ((before | lose) | ⟨other, found, _, stored, keeps⟩)
      · exact .inl ⟨runner, run, read, before⟩
      · exact .inr ⟨run, read, lose⟩
      · exact .inl ⟨other, found, stored, keeps⟩
    · rintro (⟨other, found, stored, keeps⟩ | ⟨found, stored, lose⟩)
      · by_cases here : other = runner
        · subst here
          cases Option.some.inj (read.symm.trans stored)
          exact .inl (.inl keeps)
        · exact .inr ⟨other, found, here, stored, keeps⟩
      · cases Option.some.inj (read.symm.trans stored)
        exact .inl (.inr lose)

theorem claim_ok (runner : RunnerId) (ok : SchedulerOk maximum s) (taken : claim runner s = some next) :
    SchedulerOk maximum next ∧ (Lost next ↔ Lost s) := by
  obtain ⟨⟨claiming, fresh⟩, same⟩ := Option.ite_none_right_eq_some.mp taken
  cases Option.some.inj same
  obtain ⟨absent, idle⟩ := ok.unclaimed runner fresh
  have active := transfer_active maximum runner s.admission ok.admission
  have rest : ∀ other : RunnerId, other ≠ runner →
      (.runner other ∈ (s.admission.transfer runner).active ↔ .runner other ∈ s.admission.active) ∧
        (Listed (s.admission.transfer runner).capacity (.runner other) ↔ Listed s.admission.capacity (.runner other)) := by
    intro other different
    rw [active]
    simp [different, RunnerAdmission.transfer]
  have admission := transfer_ok maximum runner s.admission ok.admission (ok.holds.mpr claiming) absent idle
  constructor
  · apply put_run_ok maximum s _ _ runner Run.claimed rest ok admission
    · exact iff_of_false (fun member => by simpa using (active .slot).mp member) (by simp)
    · exact iff_of_false (fun listed => by simpa [claiming] using ok.waits.mp listed) (by simp)
    · exact ⟨iff_of_false idle (by simp [Run.claimed]), by simp [Run.claimed], fun _ => ⟨rfl, (active _).mpr (.inl rfl)⟩⟩
  · rw [put_run_lost s _ _ runner Run.claimed rest]
    constructor
    · rintro (keeps | ⟨other, found, _, stored, keeps⟩)
      · cases keeps.1
      · exact ⟨other, found, stored, keeps⟩
    · rintro ⟨other, found, stored, keeps⟩
      have here : other ≠ runner := by
        intro same
        rw [same, fresh] at stored
        cases stored
      exact .inr ⟨other, found, here, stored, keeps⟩

theorem acquire_slot_ok (ok : SchedulerOk maximum s) (taken : acquireSlot s = some next) :
    SchedulerOk maximum next ∧ (Lost next ↔ Lost s) := by
  obtain ⟨idle, same⟩ := Option.ite_none_right_eq_some.mp taken
  cases Option.some.inj same
  have absent : ¬ Listed s.admission.capacity .slot := by
    rw [ok.waits, idle]
    simp
  apply slot_ok maximum s _ _ _ _ ok (acquire_moves maximum .slot s.admission ok.admission absent)
  · cases (s.admission.acquire .slot).2 <;> simp
  · cases (s.admission.acquire .slot).2 <;> simp

theorem ticket_read (holder : Holder) (ticket : Ticket) (found : ticketOf holder s = some ticket) :
    s.admission.capacity.waiters.get holder = some ticket :=
  (Option.ite_none_left_eq_some.mp found).2

theorem resume_slot_ok (ok : SchedulerOk maximum s) (taken : resumeSlot s = some next) :
    SchedulerOk maximum next ∧ (Lost next ↔ Lost s) := by
  obtain ⟨ticket, found, resumed⟩ := Option.bind_eq_some_iff.mp taken
  obtain ⟨_, same⟩ := Option.ite_none_right_eq_some.mp resumed
  cases Option.some.inj same
  apply slot_ok maximum s _ _ _ _ ok (resume_moves maximum .slot ticket s.admission ok.admission (ticket_read s .slot ticket found))
  · cases (s.admission.resume .slot ticket).2 <;> simp
  · cases (s.admission.resume .slot ticket).2 <;> simp

theorem release_slot_ok (worker : WorkerLoop) (ok : SchedulerOk maximum s) (claiming : s.worker = .claiming)
    (done : worker = .idle ∨ worker = .ended) :
    SchedulerOk maximum ⟨s.admission.release .slot, worker, s.runs⟩ ∧ (Lost ⟨s.admission.release .slot, worker, s.runs⟩ ↔ Lost s) := by
  apply slot_ok maximum s _ _ _ _ ok (release_moves maximum .slot s.admission ok.admission)
  · rcases done with rfl | rfl <;> simp
  · rw [ok.waits, claiming]
    rcases done with rfl | rfl <;> simp

theorem rest_slot_ok (worker : WorkerLoop) (ok : SchedulerOk maximum s) (before : s.worker = .idle ∨ s.worker = .ended)
    (after : worker = .idle ∨ worker = .ended) :
    SchedulerOk maximum ⟨s.admission, worker, s.runs⟩ ∧ (Lost ⟨s.admission, worker, s.runs⟩ ↔ Lost s) := by
  have still : Moves maximum .slot s.admission s.admission (.slot ∈ s.admission.active) (Listed s.admission.capacity .slot) :=
    ⟨ok.admission, fun _ _ => ⟨Iff.rfl, Iff.rfl⟩, Iff.rfl, Iff.rfl⟩
  apply slot_ok maximum s _ _ _ _ ok still
  · rw [ok.holds]
    rcases before with same | same <;> rcases after with rfl | rfl <;> simp [same]
  · rw [ok.waits]
    rcases before with same | same <;> rcases after with rfl | rfl <;> simp [same]

theorem cancel_worker_ok (ok : SchedulerOk maximum s) (taken : cancelWorker s = some next) :
    SchedulerOk maximum next ∧ (Lost next ↔ Lost s) := by
  rw [cancelWorker] at taken
  cases standing : s.worker with
  | idle =>
      simp only [standing] at taken
      cases Option.some.inj taken
      exact rest_slot_ok maximum s .ended ok (.inl standing) (.inr rfl)
  | acquiring =>
      simp only [standing] at taken
      cases Option.some.inj taken
      apply slot_ok maximum s _ _ _ _ ok (interrupt_moves maximum .slot s.admission ok.admission)
      · rw [ok.holds, standing]
      · rw [ok.waits, standing]
  | claiming =>
      simp only [standing] at taken
      cases Option.some.inj taken
      exact release_slot_ok maximum s .ended ok standing (.inr rfl)
  | ended =>
      simp only [standing] at taken
      cases taken

theorem claim_nothing_ok (ok : SchedulerOk maximum s) (taken : claimNothing s = some next) :
    SchedulerOk maximum next ∧ (Lost next ↔ Lost s) := by
  obtain ⟨claiming, same⟩ := Option.ite_none_right_eq_some.mp taken
  cases Option.some.inj same
  exact release_slot_ok maximum s .idle ok claiming (.inl rfl)

theorem restart_ok (ok : SchedulerOk maximum s) (taken : restart s = some next) :
    SchedulerOk maximum next ∧ (Lost next ↔ Lost s) := by
  obtain ⟨ended, same⟩ := Option.ite_none_right_eq_some.mp taken
  cases Option.some.inj same
  exact rest_slot_ok maximum s .idle ok (.inr ended) (.inl rfl)

theorem safe_run_ok (runner : RunnerId) (action : Action) (ok : SchedulerOk maximum s)
    (taken : onRun runner action s = some next)
    (spec : ∀ run result, AdmissionOk maximum s.admission → RunOk s.admission runner run → action s.admission run = some result →
      ActionOk maximum runner s.admission result.1 run result.2 False) :
    SchedulerOk maximum next ∧ (Lost next ↔ Lost s) := by
  obtain ⟨kept, lost⟩ := on_run_ok maximum s next runner action (fun _ => False) ok taken
    fun run result _ standing acted => spec run result ok.admission standing acted
  refine ⟨kept, lost.trans (or_iff_left ?_)⟩
  rintro ⟨_, _, never⟩
  exact never

theorem step_ok (event : Event) (ok : SchedulerOk maximum s) (running : event ≠ .stop) (taken : step s event = some next) :
    SchedulerOk maximum next ∧ (Lost next ↔ Lost s ∨ loses s event = true) := by
  have safe : loses s event = false → SchedulerOk maximum next ∧ (Lost next ↔ Lost s) →
      SchedulerOk maximum next ∧ (Lost next ↔ Lost s ∨ loses s event = true) := by
    rintro quiet ⟨kept, lost⟩
    simp [quiet, kept, lost]
  cases event with
  | acquire => exact safe rfl (acquire_slot_ok maximum s next ok taken)
  | resume => exact safe rfl (resume_slot_ok maximum s next ok taken)
  | cancelWorker => exact safe rfl (cancel_worker_ok maximum s next ok taken)
  | claimNothing => exact safe rfl (claim_nothing_ok maximum s next ok taken)
  | claim runner => exact safe rfl (claim_ok maximum s next runner ok taken)
  | restart => exact safe rfl (restart_ok maximum s next ok taken)
  | supervise runner =>
      exact safe rfl (safe_run_ok maximum s next runner _ ok taken (supervise_action maximum runner s.admission))
  | cancelUnstarted runner =>
      obtain ⟨kept, lost⟩ := on_run_ok maximum s next runner _ (fun _ => True) ok taken
        fun run result _ standing acted => cancel_unstarted_action maximum runner s.admission run result ok.admission standing acted
      obtain ⟨run, read, _⟩ := Option.bind_eq_some_iff.mp taken
      exact ⟨kept, iff_of_true (lost.mpr (.inr ⟨run, read, trivial⟩)) (.inr rfl)⟩
  | execute runner => exact safe rfl (safe_run_ok maximum s next runner _ ok taken (execute_action maximum runner s.admission))
  | coolDown runner => exact safe rfl (safe_run_ok maximum s next runner _ ok taken (cool_down_action maximum runner s.admission))
  | createSubmission runner =>
      exact safe rfl (safe_run_ok maximum s next runner _ ok taken (create_submission_action maximum runner s.admission))
  | submit runner =>
      obtain ⟨kept, lost⟩ := on_run_ok maximum s next runner _
        (fun run => run.supervisor = .ended ∧ locked s.admission.capacity = false) ok taken
        fun run result _ standing acted => submit_action maximum runner s.admission run result ok.admission standing acted
      refine ⟨kept, lost.trans (or_congr_right ?_)⟩
      simp [loses, Option.any_eq_true]
  | resumeSubmission runner =>
      obtain ⟨ticket, found, resumed⟩ := Option.bind_eq_some_iff.mp taken
      have read := ticket_read s (.runner runner) ticket found
      obtain ⟨kept, lost⟩ := on_run_ok maximum s next runner _ (fun run => run.supervisor = .ended ∧ ticket = .granted) ok resumed
        fun run result _ standing acted =>
          resume_submission_action maximum runner s.admission run ticket result ok.admission standing read acted
      refine ⟨kept, lost.trans (or_congr_right ?_)⟩
      simp [loses, Option.any_eq_true, read]
  | submitted runner => exact safe rfl (safe_run_ok maximum s next runner _ ok taken (submitted_action maximum runner s.admission))
  | cancelRuntime runner =>
      exact safe rfl (safe_run_ok maximum s next runner _ ok taken (cancel_runtime_action maximum runner s.admission))
  | unwind runner => exact safe rfl (safe_run_ok maximum s next runner _ ok taken (unwind_action maximum runner s.admission))
  | finish runner => exact safe rfl (safe_run_ok maximum s next runner _ ok taken (finish_action maximum runner s.admission))
  | stop => exact absurd rfl running

end

section

variable (maximum : Nat) (s next : Scheduler)

theorem none_any (holds : Run → Bool) (absent : (s.runs.any fun _ run => holds run) = false) (runner : RunnerId) (run : Run)
    (read : s.runs.get runner = some run) : holds run = false := by
  by_contra held
  have present := (table_any s.runs fun _ run => holds run).mpr ⟨runner, run, read, by simpa using held⟩
  rw [absent] at present
  cases present

theorem settled_active (ok : SchedulerOk maximum s) (unlost : ¬ Lost s) (resting : s.worker ≠ .claiming)
    (ended : ∀ runner run, s.runs.get runner = some run → run.supervisor = .ended) : s.admission.active = [] := by
  apply List.eq_nil_iff_forall_not_mem.mpr
  intro holder member
  cases holder with
  | slot => exact resting (ok.holds.mp member)
  | runner runner =>
      cases read : s.runs.get runner with
      | none => exact (ok.unclaimed runner read).1 member
      | some run => exact unlost ⟨runner, run, read, ended runner run read, member⟩

theorem over_active (ok : SchedulerOk maximum s) (unlost : ¬ Lost s) (cleared : Over s) : s.admission.active = [] := by
  apply settled_active maximum s ok unlost
  · rcases cleared.1 with idle | ended
    · simp [idle]
    · simp [ended]
  · intro runner run read
    have done := none_any s _ cleared.2 runner run read
    simp only [Run.gone, Bool.not_eq_false', Bool.and_eq_true, decide_eq_true_eq] at done
    exact done.1

theorem over_grantees (ok : SchedulerOk maximum s) (cleared : Over s) : grantees s.admission.capacity = [] := by
  apply List.eq_nil_iff_forall_not_mem.mpr
  intro holder granted
  have listed := grantees_listed s.admission.capacity holder granted
  cases holder with
  | slot =>
      have acquiring := ok.waits.mp listed
      rcases cleared.1 with idle | ended
      · simp [idle] at acquiring
      · simp [ended] at acquiring
  | runner runner =>
      cases read : s.runs.get runner with
      | none => exact (ok.unclaimed runner read).2 listed
      | some run =>
          have waiting := (ok.runs runner run read).waiting.mp listed
          have done := none_any s _ cleared.2 runner run read
          simp [Run.gone, waiting] at done

theorem supervisors_ended (ended : supervisorsEnded s = true) (runner : RunnerId) (run : Run)
    (read : s.runs.get runner = some run) : run.supervisor = .ended := by
  have absent := none_any s (fun run => run.supervisor ≠ .ended) (by simpa [supervisorsEnded] using ended) runner run read
  simpa using absent

theorem stop_ok (ok : SchedulerOk maximum s) (taken : stop s = some next) :
    SchedulerOk (maximum - s.admission.active.length) next ∧ ¬ Lost next ∧ s.worker = .ended ∧
      next = { s with admission := { s.admission with active := [] } } ∧
      ∀ runner run, s.runs.get runner = some run → run.supervisor = .ended := by
  obtain ⟨⟨ended, supervisors⟩, same⟩ := Option.ite_none_right_eq_some.mp taken
  have cleared := supervisors_ended s supervisors
  cases Option.some.inj same
  refine ⟨?_, fun ⟨_, _, _, keeps⟩ => List.not_mem_nil keeps.2, ended, rfl, cleared⟩
  have balance := ok.admission.balance
  exact {
    admission :=
      { balance := by
          simp only [List.length_nil]
          omega
        distinct := List.nodup_nil
        apart := fun holder member => absurd member List.not_mem_nil }
    holds := iff_of_false List.not_mem_nil (by simp [ended])
    waits := ok.waits
    unclaimed := fun runner absent => ⟨List.not_mem_nil, (ok.unclaimed runner absent).2⟩
    runs := by
      intro runner run read
      have before := ok.runs runner run read
      have finished := cleared runner run read
      exact ⟨before.waiting, before.ended, fun created => by rw [finished] at created; cases created⟩ }

def Complete : Prop := SchedulerOk maximum s ∧ ¬ Lost s

def Short : Prop := ∃ left, SchedulerOk left s ∧ left ≤ maximum ∧ (Lost s ∨ left < maximum)

theorem complete_step (event : Event) (complete : Complete maximum s) (safe : loses s event = false)
    (taken : step s event = some next) : Complete maximum next := by
  obtain ⟨ok, unlost⟩ := complete
  by_cases stopping : event = .stop
  · subst stopping
    obtain ⟨kept, clear, ended, _, cleared⟩ := stop_ok maximum s next ok taken
    have empty := settled_active maximum s ok unlost (by simp [ended]) cleared
    rw [empty] at kept
    exact ⟨kept, clear⟩
  · obtain ⟨kept, lost⟩ := step_ok maximum s next event ok stopping taken
    exact ⟨kept, fun later => (lost.mp later).elim unlost (by simp [safe])⟩

theorem lost_active (lost : Lost s) : 0 < s.admission.active.length := by
  obtain ⟨_, _, _, keeps⟩ := lost
  exact List.length_pos_of_mem keeps.2

theorem short_step (event : Event) (short : Short maximum s) (taken : step s event = some next) : Short maximum next := by
  obtain ⟨left, ok, bound, less⟩ := short
  by_cases stopping : event = .stop
  · subst stopping
    have stopped := (stop_ok left s next ok taken).1
    refine ⟨_, stopped, Nat.le_trans (Nat.sub_le _ _) bound, .inr ?_⟩
    rcases less with lost | fewer
    · have kept := lost_active s lost
      have balance := ok.admission.balance
      omega
    · omega
  · obtain ⟨kept, lost⟩ := step_ok left s next event ok stopping taken
    exact ⟨left, kept, bound, less.imp_left fun before => lost.mpr (.inl before)⟩

theorem losing_step (event : Event) (complete : Complete maximum s) (loss : loses s event = true)
    (taken : step s event = some next) : Short maximum next := by
  have running : event ≠ .stop := by
    intro stopping
    rw [stopping] at loss
    cases loss
  obtain ⟨kept, lost⟩ := step_ok maximum s next event complete.1 running taken
  exact ⟨maximum, kept, Nat.le_refl maximum, .inl (lost.mpr (.inr loss))⟩

theorem short_value (short : Short maximum s) : s.admission.capacity.value < maximum := by
  obtain ⟨left, ok, bound, less⟩ := short
  have balance := ok.admission.balance
  rw [stock] at balance
  rcases less with lost | fewer
  · have kept := lost_active s lost
    omega
  · omega

theorem run_short (events : List Event) (last : Scheduler) (complete : Complete maximum s)
    (reached : run step s events = some last) (losing : ¬ EveryStep step (fun s event => loses s event = false) s events) :
    Short maximum last := by
  induction events generalizing s with
  | nil => exact absurd trivial losing
  | cons event rest ih =>
      obtain ⟨middle, taken, remaining⟩ := (run_cons step s last event rest).mp reached
      cases safe : loses s event with
      | true =>
          have short := losing_step maximum s middle event complete safe taken
          exact run_invariant step (Short maximum) (fun s event next held moved => short_step maximum s next event held moved)
            rest middle last short remaining
      | false =>
          apply ih middle (complete_step maximum s middle event complete safe taken) remaining
          intro later
          apply losing
          refine ⟨safe, fun other same => ?_⟩
          cases Option.some.inj (taken.symm.trans same)
          exact later

theorem runner_permits (maximum : Nat) (events : List Event) (s : Scheduler) (reached : run step (initial maximum) events = some s) :
    (EveryStep step (fun s event => loses s event = false) (initial maximum) events →
      s.admission.capacity.value + s.admission.holders.length = maximum ∧ s.admission.holders.Nodup ∧
        (Over s → s.admission.capacity.value = maximum ∧ s.admission.holders = [])) ∧
    (¬ EveryStep step (fun s event => loses s event = false) (initial maximum) events →
      s.admission.capacity.value < maximum) := by
  have start : Complete maximum (initial maximum) := ⟨initial_ok maximum, fun ⟨_, _, read, _⟩ => by cases read⟩
  constructor
  · intro safe
    obtain ⟨ok, unlost⟩ := run_keeps step (fun s event => loses s event = false) (Complete maximum)
      (fun s event next held quiet taken => complete_step maximum s next event held quiet taken) events _ s start safe reached
    have balance := holders_balance maximum s.admission ok.admission
    refine ⟨balance, holders_distinct maximum s.admission ok.admission, fun cleared => ?_⟩
    have empty : s.admission.holders = [] := by
      rw [RunnerAdmission.holders, over_active maximum s ok unlost cleared, over_grantees maximum s ok cleared]
      rfl
    rw [empty] at balance
    exact ⟨balance, empty⟩
  · intro losing
    exact short_value maximum s (run_short maximum _ events s start reached losing)

def sharedEvents : List Event :=
  [.acquire, .claim "a", .supervise "a", .execute "a", .acquire, .coolDown "a", .resume, .claim "b", .supervise "b", .execute "b",
    .createSubmission "a", .submit "a", .cancelRuntime "b", .unwind "b", .finish "b", .resumeSubmission "a", .submitted "a",
    .cancelRuntime "a", .finish "a", .unwind "a"]

theorem runner_permits_shared :
    ∃ s, run step (initial 1) sharedEvents = some s ∧ s.admission.capacity.value = 1 ∧ s.admission.holders = [] :=
  ⟨_, rfl, ((runner_permits 1 sharedEvents _ rfl).1 (by decide)).2.2 (by decide)⟩

-- The execution task of a claimed Runner is cancelled before its first step: all
-- has ended and the permit is gone.
theorem cancelled_unstarted_loses :
    ∃ s, run step (initial 1) [.acquire, .claim "a", .cancelUnstarted "a"] = some s ∧ Over s ∧ s.admission.capacity.value ≠ 1 :=
  ⟨_, rfl, by decide, by decide⟩

end

end LlmperfOrchestrator.Runners

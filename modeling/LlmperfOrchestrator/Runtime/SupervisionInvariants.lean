import LlmperfOrchestrator.Runtime.Supervision

set_option autoImplicit false

namespace LlmperfOrchestrator.Supervision

open Tables Runs Storage

variable {Digest : Type} [DecidableEq Digest]

section Frames
variable (w : World Digest) (b other : BackendId) (backend : Backend) (id query : RunnerId) (execution : Execution)

@[simp] theorem set_backend_self : (w.setBackend b backend).backends b = backend := if_pos rfl

theorem set_backend_other (apart : other ≠ b) : (w.setBackend b backend).backends other = w.backends other := if_neg apart

theorem set_backend_each (holds : BackendId → Backend → Prop) (here : holds b backend)
    (others : ∀ other, other ≠ b → holds other (w.backends other)) : holds other ((w.setBackend b backend).backends other) := by
  by_cases own : other = b
  · rw [own, set_backend_self]
    exact here
  · rw [set_backend_other _ _ _ _ own]
    exact others other own

theorem put_execution : Dict.get query ((w.put b id execution).backends other).executions =
    if other = b ∧ query = id then some execution else Dict.get query (w.backends other).executions := by
  by_cases here : other = b
  · subst here
    rw [World.put, set_backend_self, dict_get_put]
    simp
  · rw [World.put, set_backend_other _ _ _ _ here, if_neg fun both => here both.1]

theorem dropLost_self : (w.dropLost b id).backends b =
    { w.backends b with executions := Dict.pop id (w.backends b).executions, lost := id :: (w.backends b).lost } := by
  rw [World.dropLost, World.lose, set_backend_self, World.drop, set_backend_self]

theorem drop_execution : Dict.get query ((w.drop b id).backends other).executions =
    if other = b ∧ query = id then none else Dict.get query (w.backends other).executions := by
  by_cases here : other = b
  · subst here
    rw [World.drop, set_backend_self, dict_get_pop]
    simp
  · rw [World.drop, set_backend_other _ _ _ _ here, if_neg fun both => here both.1]

end Frames

def Stage.early : Stage → Bool
  | .created | .checking | .resolving | .starting => true
  | _ => false

def Earned (returned : List (RunnerId × Summary × List RequestResult)) (id : RunnerId) : Prop :=
  ∃ summary requests, (id, summary, requests) ∈ returned ∧ counted summary.completed 0 ≠ 0

structure ExecutionOk (w : World Digest) (id : RunnerId) (execution : Execution) : Prop where
  begun : ∃ row, w.store.runners.get id = some row ∧ row.status ≠ .queued
  early : execution.stage.early = true → id ∉ w.launches
  waiting : execution.stage = .waiting → id ∈ w.launches
  leaving : execution.stage = .leaving → ∀ row, w.store.runners.get id = some row → row.status ≠ .running
  unconfirmed : execution.stage = .unconfirmed → ∀ row, w.store.runners.get id = some row → row.status = .running →
    row.cancelRequested = true
  committing : ∀ requests error, execution.stage = .committing requests .succeeded error → Earned w.returned id

def Finished (w : World Digest) (id : RunnerId) (row : Runner) : Prop :=
  row.cancelRequested = false ∧ Earned w.returned id

structure Sound (w : World Digest) : Prop where
  executions : ∀ b id execution, Dict.get id (w.backends b).executions = some execution → ExecutionOk w id execution
  idle : ∀ b, (w.backends b).phase ≠ .serving → (w.backends b).executions = []
  one : ∀ b other id, Dict.get id (w.backends b).executions ≠ none → Dict.get id (w.backends other).executions ≠ none →
    b = other
  once : w.launches.Nodup
  launched : ∀ id ∈ w.launches, ∃ row, w.store.runners.get id = some row ∧ row.status ≠ .queued
  returned : ∀ entry ∈ w.returned, entry.1 ∈ w.launches
  earned : ∀ id row, w.store.runners.get id = some row → row.status = .succeeded → Finished w id row

structure Calm (w next : World Digest) : Prop where
  rows : RowsLater w.store next.store
  earned : ∀ id row, next.store.runners.get id = some row → row.status = .succeeded →
    (∃ before, w.store.runners.get id = some before ∧ before.status = .succeeded) ∨ Finished w id row
  launches : next.launches = w.launches
  returned : next.returned = w.returned
  executions : ∀ b id execution, Dict.get id (next.backends b).executions = some execution →
    Dict.get id (w.backends b).executions = some execution
  idle : ∀ b, (next.backends b).phase ≠ .serving → (next.backends b).executions = []

theorem row_past (w next : World Digest) (rows : RowsLater w.store next.store) (id : RunnerId)
    (begun : ∃ row, w.store.runners.get id = some row ∧ row.status ≠ .queued) :
    ∃ row, next.store.runners.get id = some row ∧ row.status ≠ .queued := by
  obtain ⟨row, read, past⟩ := begun
  obtain ⟨after, found, later⟩ := rows id row read
  exact ⟨after, found, later.unqueued past⟩

theorem not_running (status : RunnerStatus) (past : status ≠ .queued) (idle : status ≠ .running) : status.terminal = true := by
  cases status with
  | queued => exact absurd rfl past
  | running => exact absurd rfl idle
  | succeeded | failed | cancelled => rfl

theorem execution_later (w next : World Digest) (id : RunnerId) (execution : Execution) (ok : ExecutionOk w id execution)
    (rows : RowsLater w.store next.store) (launches : next.launches = w.launches) (returned : next.returned = w.returned) :
    ExecutionOk next id execution := by
  obtain ⟨row, read, past⟩ := ok.begun
  obtain ⟨after, found, later⟩ := rows id row read
  refine ⟨⟨after, found, later.unqueued past⟩, fun early => launches ▸ ok.early early, fun waiting => launches ▸ ok.waiting waiting,
    fun leaving row' read' running => ?_, fun unconfirmed row' read' running => ?_,
    fun requests error stage => returned ▸ ok.committing requests error stage⟩
  · cases Option.some.inj (found.symm.trans read')
    have ended := later.ended (not_running row.status past (ok.leaving leaving row read))
    exact ok.leaving leaving row read (ended.1 ▸ running)
  · cases Option.some.inj (found.symm.trans read')
    by_cases before : row.status = .running
    · exact later.requested before (ok.unconfirmed unconfirmed row read before) running
    · have ended := later.ended (not_running row.status past before)
      exact absurd (ended.1 ▸ running) before

theorem finished_later (w next : World Digest) (calm : Calm w next) (id : RunnerId) (row : Runner) (sound : Sound w)
    (read : next.store.runners.get id = some row) (succeeded : row.status = .succeeded) : Finished next id row := by
  rcases calm.earned id row read succeeded with ⟨before, held, past⟩ | earned
  · obtain ⟨unrequested, earned⟩ := sound.earned id before held past
    obtain ⟨after, found, later⟩ := calm.rows id before held
    cases Option.some.inj (read.symm.trans found)
    refine ⟨(later.ended (by rw [past]; rfl)).2.trans unrequested, ?_⟩
    rw [Earned, calm.returned]
    exact earned
  · refine ⟨earned.1, ?_⟩
    rw [Earned, calm.returned]
    exact earned.2

theorem calm_sound (w next : World Digest) (sound : Sound w) (calm : Calm w next) : Sound next := by
  have held : ∀ b id, Dict.get id (next.backends b).executions ≠ none → Dict.get id (w.backends b).executions ≠ none := by
    intro b id present
    obtain ⟨execution, found⟩ := Option.ne_none_iff_exists'.mp present
    rw [calm.executions b id execution found]
    exact nofun
  refine ⟨fun b id execution found => ?_, calm.idle, fun b other id one two => sound.one b other id (held b id one) (held other id two),
    calm.launches ▸ sound.once, fun id member => ?_, fun entry member => ?_, fun id row read succeeded => ?_⟩
  · exact execution_later w next id execution (sound.executions b id execution (calm.executions b id execution found)) calm.rows
      calm.launches calm.returned
  · rw [calm.launches] at member
    exact row_past w next calm.rows id (sound.launched id member)
  · rw [calm.launches]
    rw [calm.returned] at member
    exact sound.returned entry member
  · exact finished_later w next calm id row sound read succeeded

structure Recorded (w next : World Digest) (id : RunnerId) : Prop where
  store : next.store = w.store
  backends : next.backends = w.backends
  once : next.launches.Nodup
  kept : ∀ query ∈ w.launches, query ∈ next.launches
  own : ∀ query ∈ next.launches, query = id ∨ query ∈ w.launches
  earlier : ∀ entry ∈ w.returned, entry ∈ next.returned
  returned : ∀ entry ∈ next.returned, entry.1 ∈ next.launches

theorem recorded_same (w : World Digest) (id : RunnerId) (sound : Sound w) : Recorded w w id :=
  ⟨rfl, rfl, sound.once, fun _ held => held, fun _ held => .inr held, fun _ held => held, sound.returned⟩

theorem earned_more (w next : World Digest) (id query : RunnerId) (recorded : Recorded w next id)
    (earned : Earned w.returned query) : Earned next.returned query := by
  obtain ⟨summary, requests, member, completed⟩ := earned
  exact ⟨summary, requests, recorded.earlier _ member, completed⟩

theorem put_sound (w next : World Digest) (b : BackendId) (id : RunnerId) (execution : Execution) (sound : Sound w)
    (recorded : Recorded w next id) (serving : (w.backends b).phase = .serving) (ok : ExecutionOk next id execution)
    (own : ∀ other, Dict.get id (w.backends other).executions ≠ none → other = b) : Sound (next.put b id execution) := by
  have phase : ∀ other, ((next.put b id execution).backends other).phase = (w.backends other).phase := fun other =>
    set_backend_each next b other _ (fun other after => after.phase = (w.backends other).phase)
      (by rw [recorded.backends]) fun _ _ => by rw [recorded.backends]
  have holder : ∀ other query, Dict.get query ((next.put b id execution).backends other).executions ≠ none →
      (query = id ∧ other = b) ∨ Dict.get query (w.backends other).executions ≠ none := by
    intro other query present
    rw [put_execution, recorded.backends] at present
    split at present
    · rename_i here
      exact .inl ⟨here.2, here.1⟩
    · exact .inr present
  refine ⟨fun other query held read => ?_, fun other idle => ?_, fun one two query first second => ?_, recorded.once,
    fun query member => ?_, recorded.returned, fun query row read succeeded => ?_⟩
  · rw [put_execution, recorded.backends] at read
    split at read
    · rename_i here
      cases read
      obtain ⟨rfl, rfl⟩ := here
      exact ⟨ok.begun, ok.early, ok.waiting, ok.leaving, ok.unconfirmed, ok.committing⟩
    · rename_i apart
      have before := sound.executions other query held read
      have stored : ∀ row, next.store.runners.get query = some row → w.store.runners.get query = some row :=
        fun row here => recorded.store ▸ here
      refine ⟨?_, fun early member => ?_, fun waiting => recorded.kept query (before.waiting waiting),
        fun leaving row here => before.leaving leaving row (stored row here),
        fun unconfirmed row here => before.unconfirmed unconfirmed row (stored row here),
        fun requests error stage => earned_more w next id query recorded (before.committing requests error stage)⟩
      · obtain ⟨row, here, past⟩ := before.begun
        exact ⟨row, (congrArg (fun store => Table.get query store.runners) recorded.store).trans here, past⟩
      · rcases recorded.own query member with rfl | earlier
        · exact apart ⟨own other (by simp [read]), rfl⟩
        · exact before.early early earlier
  · rw [phase] at idle
    have apart : other ≠ b := by
      rintro rfl
      exact idle serving
    rw [World.put, set_backend_other _ _ _ _ apart, recorded.backends]
    exact sound.idle other idle
  · rcases holder one query first with ⟨rfl, rfl⟩ | before
    · rcases holder two query second with ⟨_, rfl⟩ | after
      · rfl
      · exact (own two after).symm
    · rcases holder two query second with ⟨rfl, rfl⟩ | after
      · exact own one before
      · exact sound.one one two query before after
  · have begun : ∃ row, w.store.runners.get query = some row ∧ row.status ≠ .queued := by
      rcases recorded.own query member with rfl | earlier
      · obtain ⟨row, here, past⟩ := ok.begun
        exact ⟨row, recorded.store ▸ here, past⟩
      · exact sound.launched query earlier
    obtain ⟨row, here, past⟩ := begun
    exact ⟨row, (congrArg (fun store => Table.get query store.runners) recorded.store).trans here, past⟩
  · obtain ⟨unrequested, earned⟩ := sound.earned query row (recorded.store ▸ read) succeeded
    exact ⟨unrequested, earned_more w next id query recorded earned⟩

theorem lose_sound (w : World Digest) (b : BackendId) (id : RunnerId) (sound : Sound w) : Sound (w.lose b id) := by
  have same : ∀ other, ((w.lose b id).backends other).executions = (w.backends other).executions ∧
      ((w.lose b id).backends other).phase = (w.backends other).phase := fun other =>
    set_backend_each w b other _ (fun other after => after.executions = (w.backends other).executions ∧
      after.phase = (w.backends other).phase) ⟨rfl, rfl⟩ fun _ _ => ⟨rfl, rfl⟩
  refine calm_sound w _ sound ⟨rows_later_same _ _ rfl, fun query row read past => .inl ⟨row, read, past⟩, rfl, rfl,
    fun other query execution read => (same other).1 ▸ read, fun other quiet => ?_⟩
  rw [(same other).1]
  exact sound.idle other ((same other).2 ▸ quiet)

def Covered (backend : Backend) (id : RunnerId) : Prop := Dict.get id backend.executions ≠ none ∨ id ∈ backend.lost

structure Held (w next : World Digest) (b : BackendId) : Prop where
  running : NoneNew .running w.store next.store
  lease : next.store.lease = w.store.lease
  others : ∀ other, other ≠ b → next.backends other = w.backends other
  owner : (next.backends b).owner = (w.backends b).owner
  generation : (next.backends b).generation = (w.backends b).generation
  phase : (next.backends b).phase = (w.backends b).phase
  covered : ∀ id, Covered (w.backends b) id → Covered (next.backends b) id ∨
    ∀ row, next.store.runners.get id = some row → row.status ≠ .running

theorem none_new_trans (status : RunnerStatus) (a b c : Store Digest) (first : NoneNew status a b)
    (second : NoneNew status b c) : NoneNew status a c := by
  intro rid after read held
  obtain ⟨middle, found, same⟩ := second rid after read held
  exact first rid middle found same

theorem held_trans (a m c : World Digest) (b : BackendId) (first : Held a m b) (second : Held m c b) : Held a c b := by
  refine ⟨none_new_trans _ _ _ _ first.running second.running, second.lease.trans first.lease,
    fun other apart => (second.others other apart).trans (first.others other apart), second.owner.trans first.owner,
    second.generation.trans first.generation, second.phase.trans first.phase, fun id before => ?_⟩
  rcases first.covered id before with middle | idle
  · exact second.covered id middle
  · refine .inr fun row read running => ?_
    obtain ⟨old, found, was⟩ := second.running id row read running
    exact idle old found was

structure Moves (w next : World Digest) (b : BackendId) : Prop where
  sound : Sound next
  held : Held w next b

section Executions
variable {w : World Digest} {b : BackendId} {id : RunnerId} {execution : Execution} (sound : Sound w)
  (found : Dict.get id (w.backends b).executions = some execution)
include sound found

theorem execution_serving : (w.backends b).phase = .serving := by
  by_contra other
  rw [sound.idle b other] at found
  cases found

theorem execution_own (other : BackendId) (present : Dict.get id (w.backends other).executions ≠ none) : other = b :=
  sound.one other b id present (by simp [found])

theorem record_moves (next : World Digest) (fresh : Execution) (recorded : Recorded w next id)
    (ok : ExecutionOk next id fresh) : Moves w (next.put b id fresh) b := by
  refine ⟨put_sound w next b id fresh sound recorded (execution_serving sound found) ok
      (execution_own sound found), ?_⟩
  refine ⟨none_new_same _ _ _ (congrArg Store.runners recorded.store), congrArg Store.lease recorded.store,
    fun other apart => ?_, ?_, ?_, ?_, fun query before => .inl ?_⟩
  · rw [World.put, set_backend_other _ _ _ _ apart, recorded.backends]
  · rw [World.put, set_backend_self, recorded.backends]
  · rw [World.put, set_backend_self, recorded.backends]
  · rw [World.put, set_backend_self, recorded.backends]
  · rcases before with present | lost
    · refine .inl ?_
      rw [put_execution, recorded.backends]
      split
      · exact Option.some_ne_none _
      · exact present
    · refine .inr ?_
      rw [World.put, set_backend_self, recorded.backends]
      exact lost

theorem put_moves (fresh : Execution) (ok : ExecutionOk w id fresh) : Moves w (w.put b id fresh) b :=
  record_moves sound found w fresh (recorded_same w id sound) ok

theorem drop_calm : Calm w (w.drop b id) := by
  refine ⟨rows_later_same _ _ rfl, fun query row read succeeded => .inl ⟨row, read, succeeded⟩, rfl, rfl,
    fun other query held read => ?_, fun other idle => ?_⟩
  · rw [drop_execution] at read
    split at read
    · cases read
    · exact read
  · have same : ((w.drop b id).backends other).phase = (w.backends other).phase :=
      set_backend_each w b other _ (fun other after => after.phase = (w.backends other).phase) rfl fun _ _ => rfl
    have phase : (w.backends other).phase ≠ .serving := same ▸ idle
    have apart : other ≠ b := by
      rintro rfl
      exact phase (execution_serving sound found)
    rw [World.drop, set_backend_other _ _ _ _ apart]
    exact sound.idle other phase

theorem drop_moves (idle : ∀ row, w.store.runners.get id = some row → row.status ≠ .running) : Moves w (w.drop b id) b := by
  refine ⟨calm_sound w _ sound (drop_calm sound found), none_new_same _ _ _ rfl, rfl,
    fun other apart => set_backend_other _ _ _ _ apart, ?_, ?_, ?_, fun query before => ?_⟩
  · rw [World.drop, set_backend_self]
  · rw [World.drop, set_backend_self]
  · rw [World.drop, set_backend_self]
  · by_cases here : query = id
    · exact .inr (here ▸ idle)
    · rcases before with present | lost
      · refine .inl (.inl ?_)
        rw [drop_execution, if_neg fun both => here both.2]
        exact present
      · refine .inl (.inr ?_)
        rw [World.drop, set_backend_self]
        exact lost

theorem drop_lost_moves : Moves w (w.dropLost b id) b := by
  refine ⟨lose_sound _ b id (calm_sound w _ sound (drop_calm sound found)), none_new_same _ _ _ rfl, rfl,
    fun other apart => (set_backend_other _ _ _ _ apart).trans (set_backend_other _ _ _ _ apart), by rw [dropLost_self],
    by rw [dropLost_self], by rw [dropLost_self], fun query before => .inl ?_⟩
  · rw [dropLost_self]
    by_cases here : query = id
    · exact .inr (here ▸ List.mem_cons_self)
    · refine before.imp (fun present => ?_) (List.mem_cons_of_mem id)
      rwa [dict_get_pop, if_neg here]

end Executions

def Stage.plain : Stage → Bool
  | .cancelling | .closing _ _ | .interrupted | .requeueing | .clearing _ | .failing _ => true
  | .created | .checking | .resolving | .starting | .waiting | .committing _ _ _ | .unconfirmed | .leaving => false

theorem plain_late (stage : Stage) (plain : stage.plain = true) : stage.early = false := by
  cases stage with
  | created | checking | resolving | starting => cases plain
  | waiting | cancelling | closing | committing | unconfirmed | interrupted | requeueing | clearing | failing | leaving => rfl

theorem cleanup_leaving (stage : Stage) (part : stage.part = .cleanup) : stage = .leaving := by
  cases stage <;> first | rfl | cases part

theorem plain_ok (w : World Digest) (id : RunnerId) (old fresh : Execution) (ok : ExecutionOk w id old)
    (plain : fresh.stage.plain = true) : ExecutionOk w id fresh := by
  refine ⟨ok.begun, fun early => ?_, fun same => ?_, fun same => ?_, fun same => ?_, fun requests error same => ?_⟩
  · cases (plain_late _ plain).symm.trans early
  all_goals
    rw [same] at plain
    cases plain

theorem plain_moves {w : World Digest} {b : BackendId} {id : RunnerId} {execution : Execution} (sound : Sound w)
    (found : Dict.get id (w.backends b).executions = some execution) (fresh : Execution) (plain : fresh.stage.plain = true) :
    Moves w (w.put b id fresh) b :=
  put_moves sound found fresh (plain_ok w id execution fresh (sound.executions b id execution found) plain)

theorem leaving_ok {w : World Digest} {id : RunnerId} {execution : Execution}
    (begun : ∃ row, w.store.runners.get id = some row ∧ row.status ≠ .queued)
    (idle : ∀ row, w.store.runners.get id = some row → row.status ≠ .running) :
    ExecutionOk w id { execution with stage := .leaving } := ⟨begun, nofun, nofun, fun _ => idle, nofun, nofun⟩

theorem early_ok {w : World Digest} {id : RunnerId} (fresh : Execution)
    (begun : ∃ row, w.store.runners.get id = some row ∧ row.status ≠ .queued) (unlaunched : id ∉ w.launches)
    (early : fresh.stage.early = true) : ExecutionOk w id fresh := by
  refine ⟨begun, fun _ => unlaunched, fun same => ?_, fun same => ?_, fun same => ?_, fun requests error same => ?_⟩
  all_goals
    rw [same] at early
    cases early

section Actions
variable {digest : Json → Digest} {w next : World Digest} {b : BackendId} {id : RunnerId} {execution : Execution}
  (sound : Sound w) (found : Dict.get id (w.backends b).executions = some execution)
include sound found

theorem except_moves (error : String) (taken : w.except b id execution error = some next) : Moves w next b := by
  have ok := sound.executions b id execution found
  unfold World.except at taken
  cases part : execution.stage.part with
  | unstarted =>
      rw [part] at taken
      cases taken
  | body =>
      rw [part] at taken
      cases taken
      refine put_moves sound found _ (plain_ok w id execution _ ok ?_)
      dsimp only
      split <;> rfl
  | handler =>
      rw [part] at taken
      cases taken
      exact drop_lost_moves sound found
  | cleanup =>
      rw [part] at taken
      cases taken
      exact drop_moves sound found (ok.leaving (cleanup_leaving execution.stage part))

theorem cancel_moves : Moves w (w.cancel b id execution) b := by
  have ok := sound.executions b id execution found
  unfold World.cancel
  cases part : execution.stage.part with
  | unstarted | handler => exact drop_lost_moves sound found
  | body => exact plain_moves sound found _ rfl
  | cleanup =>
      exact drop_moves sound found (ok.leaving (cleanup_leaving execution.stage part))

omit found in
theorem stored_moves (call : Call Digest) (scheduler : ∀ lease, call ≠ .changeLease lease)
    (other : ∀ caller rid owner, call ≠ .startSelected caller rid owner)
    (earned : ∀ caller query requests error, call = .completeRunner caller query requests .succeeded error →
      Earned w.returned query) : Moves w (w.setStore (perform digest w.store call).1) b := by
  refine ⟨calm_sound w _ sound ⟨call_rows_later digest w.store call, fun query row read succeeded => ?_, rfl, rfl,
      fun _ _ _ read => read, sound.idle⟩,
    ⟨none_started digest w.store call other, call_lease digest w.store call scheduler, fun _ _ => rfl, rfl, rfl, rfl,
      fun _ before => .inl before⟩⟩
  rcases succeeded_origin digest w.store call query row read succeeded with before | ⟨unrequested, caller, requests, error, called⟩
  · exact .inl before
  · exact .inr ⟨unrequested, earned caller query requests error called⟩

theorem saved_moves (call : Call Digest) (failure : Option String) (stage : Bool → Stage)
    (scheduler : ∀ lease, call ≠ .changeLease lease) (other : ∀ caller rid owner, call ≠ .startSelected caller rid owner)
    (earned : ∀ caller query requests error, call = .completeRunner caller query requests .succeeded error →
      Earned w.returned query)
    (ends : ∀ flag, (perform digest w.store call).2 = .flag flag →
      ExecutionOk (w.setStore (perform digest w.store call).1) id { execution with stage := stage flag })
    (taken : saved digest w b id execution call failure stage = some next) : Moves w next b := by
  have stored : Moves w (w.setStore (perform digest w.store call).1) b := stored_moves sound call scheduler other earned
  unfold saved at taken
  dsimp only at taken
  split at taken
  · exact except_moves sound found _ taken
  · rename_i flag answer
    cases taken
    have moved := put_moves stored.sound found _ (ends flag answer)
    exact ⟨moved.sound, held_trans _ _ _ _ stored.held moved.held⟩
  · have moved := except_moves stored.sound found _ taken
    exact ⟨moved.sound, held_trans _ _ _ _ stored.held moved.held⟩
  · cases taken

theorem finish_moves (status : RunnerStatus) (message : String) (failure : Option String)
    (taken : saved digest w b id execution (.finishRunner (w.caller b) id status message) failure (fun _ => .leaving) = some next) :
    Moves w next b := by
  have ok := sound.executions b id execution found
  refine saved_moves sound found (.finishRunner (w.caller b) id status message) failure _ nofun nofun nofun
    (fun flag answer => leaving_ok (row_past w _ (call_rows_later digest w.store _) id ok.begun) ?_) taken
  exact finish_ends digest w.store (w.caller b) id status message flag answer

theorem complete_earned (requests : List RequestMetrics) (status : RunnerStatus) (error : Option String)
    (stage : execution.stage = .committing requests status error) (caller : Caller) (query : RunnerId)
    (metrics : List RequestMetrics) (message : Option String)
    (called : (Call.completeRunner (w.caller b) id requests status error : Call Digest) =
      .completeRunner caller query metrics .succeeded message) : Earned w.returned query := by
  cases called
  exact (sound.executions b id execution found).committing requests error stage

theorem complete_moves (requests : List RequestMetrics) (status : RunnerStatus) (error : Option String)
    (stage : execution.stage = .committing requests status error)
    (taken : saved digest w b id execution (.completeRunner (w.caller b) id requests status error) none
      (fun flag => if flag then .leaving else .unconfirmed) = some next) : Moves w next b := by
  have ok := sound.executions b id execution found
  refine saved_moves sound found (.completeRunner (w.caller b) id requests status error) none _
    nofun nofun (complete_earned sound found requests status error stage) (fun flag answer => ?_) taken
  have past := row_past w (w.setStore (perform digest w.store (.completeRunner (w.caller b) id requests status error)).1)
    (call_rows_later digest w.store _) id ok.begun
  have ends := complete_ends digest w.store (w.caller b) id requests status error flag answer
  cases flag with
  | true =>
      refine leaving_ok past fun row read => ?_
      rcases ends row read with idle | ⟨bad, _⟩
      · exact idle
      · cases bad
  | false =>
      refine ⟨past, nofun, nofun, nofun, fun _ row read running => ?_, nofun⟩
      rcases ends row read with idle | ⟨_, requested⟩
      · exact absurd running idle
      · exact requested

theorem save_moves (failure : Option String) (taken : save digest w b id execution failure = some next) : Moves w next b := by
  unfold save at taken
  cases stage : execution.stage with
  | created | checking | resolving | starting | waiting | cancelling | unconfirmed | interrupted | clearing | leaving =>
      rw [stage] at taken
      cases taken
  | closing status message =>
      rw [stage] at taken
      exact finish_moves sound found status message failure taken
  | requeueing =>
      rw [stage] at taken
      exact finish_moves sound found .failed indeterminate failure taken
  | failing error =>
      rw [stage] at taken
      exact finish_moves sound found .failed error failure taken
  | committing requests status error =>
      rw [stage] at taken
      cases failure with
      | none => exact complete_moves sound found requests status error stage taken
      | some _ =>
          cases taken
          exact stored_moves sound (.completeRunner (w.caller b) id requests status error)
            nofun nofun (complete_earned sound found requests status error stage)

theorem inspect_moves (taken : inspect w b id execution = some next) : Moves w next b := by
  have ok := sound.executions b id execution found
  obtain ⟨runner, read, past⟩ := ok.begun
  unfold inspect at taken
  rw [read] at taken
  cases stage : execution.stage with
  | created | checking | resolving | starting | waiting | cancelling | closing | committing | requeueing | clearing | failing | leaving =>
      rw [stage] at taken
      cases taken
  | unconfirmed =>
      rw [stage] at taken
      cases taken
      refine put_moves sound found _ ?_
      by_cases requested : runner.cancelRequested = true
      · rw [if_pos requested]
        exact plain_ok w id execution _ ok rfl
      · rw [if_neg requested]
        refine leaving_ok ok.begun fun row held running => ?_
        cases Option.some.inj (read.symm.trans held)
        exact requested (ok.unconfirmed stage runner read running)
  | interrupted =>
      rw [stage] at taken
      cases taken
      refine put_moves sound found _ ?_
      by_cases ended : runner.status.terminal = true
      · rw [if_pos ended]
        refine leaving_ok ok.begun fun row held running => ?_
        cases Option.some.inj (read.symm.trans held)
        rw [running] at ended
        cases ended
      · rw [if_neg ended]
        exact plain_ok w id execution _ ok rfl

theorem launch_moves (failure : Option (Bool × String)) (stage : execution.stage = .starting) :
    Moves w (launch w b id execution failure) b := by
  have ok := sound.executions b id execution found
  cases failure with
  | none =>
      have fresh : id ∉ w.launches := ok.early (by rw [stage]; rfl)
      refine record_moves sound found { w with launches := id :: w.launches } _
        ⟨rfl, rfl, List.nodup_cons.mpr ⟨fresh, sound.once⟩, fun _ held => List.mem_cons_of_mem _ held,
          fun _ held => List.mem_cons.mp held, fun _ held => held,
          fun entry held => List.mem_cons_of_mem _ (sound.returned entry held)⟩ ?_
      exact ⟨ok.begun, nofun, fun _ => List.mem_cons_self, nofun, nofun, nofun⟩
  | some raised =>
      obtain ⟨built, error⟩ := raised
      cases built with
      | true => exact plain_moves sound found _ rfl
      | false => exact plain_moves sound found _ rfl

theorem result_moves (payload : Payload) (stage : execution.stage = .waiting) : Moves w (result w b id execution payload) b := by
  have ok := sound.executions b id execution found
  cases payload with
  | failed error => exact plain_moves sound found _ rfl
  | finished summary requests =>
      have launched := ok.waiting stage
      refine record_moves sound found { w with returned := (id, summary, requests) :: w.returned } _
        ⟨rfl, rfl, sound.once, fun _ held => held, fun _ held => .inr held, fun _ held => List.mem_cons_of_mem _ held,
          fun entry held => ?_⟩ ⟨ok.begun, nofun, nofun, nofun, nofun, fun metrics error same => ?_⟩
      · rcases List.mem_cons.mp held with rfl | earlier
        · exact launched
        · exact sound.returned entry earlier
      · injection same with _ succeeded _
        exact ⟨summary, requests, List.mem_cons_self, success_completed summary requests succeeded⟩

theorem heartbeat_moves (early : execution.stage = .checking ∨ execution.stage = .resolving) (answered : Stage)
    (unstarted : answered.early = true)
    (taken : (match continuing w b id with
      | .error error => w.except b id execution error
      | .ok true => some (w.goto b id execution answered)
      | .ok false => some (w.goto b id execution (.closing .cancelled "Benchmark cancelled before Worker start"))) = some next) :
    Moves w next b := by
  have ok := sound.executions b id execution found
  split at taken
  · exact except_moves sound found _ taken
  · cases taken
    refine put_moves sound found _ (early_ok _ ok.begun (ok.early ?_) unstarted)
    rcases early with stage | stage <;> rw [stage] <;> rfl
  · cases taken
    exact plain_moves sound found _ rfl

theorem act_moves (action : Action) (taken : act digest w b id execution action = some next) : Moves w next b := by
  have ok := sound.executions b id execution found
  cases action with
  | begin =>
      rw [act, Option.ite_none_right_eq_some] at taken
      obtain ⟨stage, taken⟩ := taken
      cases taken
      exact put_moves sound found _ (early_ok _ ok.begun (ok.early (by rw [stage]; rfl)) rfl)
  | heartbeat resolved =>
      rw [act, Option.ite_none_left_eq_some] at taken
      refine heartbeat_moves sound found ?_ _ ?_ taken.2
      · by_contra other
        exact taken.1 (not_or.mp other)
      · split <;> rfl
  | launch failure =>
      rw [act, Option.ite_none_right_eq_some] at taken
      obtain ⟨stage, taken⟩ := taken
      cases taken
      exact launch_moves sound found failure stage
  | result payload =>
      rw [act, Option.ite_none_right_eq_some] at taken
      obtain ⟨stage, taken⟩ := taken
      cases taken
      exact result_moves sound found payload stage
  | noticed =>
      rw [act, Option.ite_none_right_eq_some] at taken
      obtain ⟨_, taken⟩ := taken
      cases taken
      exact plain_moves sound found _ rfl
  | cleared =>
      cases stage : execution.stage with
      | created | checking | resolving | starting | waiting | closing | committing | unconfirmed | interrupted | requeueing | failing | leaving =>
          simp only [act, stage] at taken
          cases taken
      | cancelling | clearing =>
          simp only [act, stage] at taken
          cases taken
          exact plain_moves sound found _ rfl
  | save failure => exact save_moves sound found failure taken
  | inspect => exact inspect_moves sound found taken
  | raised error => exact except_moves sound found error taken
  | interrupt =>
      rw [act, Option.ite_none_right_eq_some] at taken
      obtain ⟨_, taken⟩ := taken
      cases taken
      exact cancel_moves sound found
  | leave =>
      rw [act, Option.ite_none_right_eq_some] at taken
      obtain ⟨stage, taken⟩ := taken
      cases taken
      exact drop_moves sound found (ok.leaving stage)

end Actions

end LlmperfOrchestrator.Supervision

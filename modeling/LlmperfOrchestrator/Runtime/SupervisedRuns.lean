import LlmperfOrchestrator.Runtime.SupervisionInvariants

set_option autoImplicit false

namespace LlmperfOrchestrator.Supervision

open Tables Runs Storage

variable {Digest : Type} [DecidableEq Digest]

structure Leased (w : World Digest) : Prop where
  held : ∀ b, (w.backends b).phase ≠ .stopped →
    ∃ lease, w.store.lease = some lease ∧ (w.backends b).generation ≤ lease.generation
  owner : ∀ b, (w.backends b).phase ≠ .stopped → (w.backends b).owner ≠ none
  apart : ∀ b other, (w.backends b).phase ≠ .stopped → (w.backends other).phase ≠ .stopped →
    (w.backends b).generation = (w.backends other).generation → b = other

def Holds (w : World Digest) (b : BackendId) : Prop :=
  ∃ lease, w.store.lease = some lease ∧ lease.generation = (w.backends b).generation

structure Supervised (w : World Digest) : Prop where
  recovering : ∀ b left, Holds w b → (w.backends b).phase = .recovering left →
    ∀ id row, w.store.runners.get id = some row → row.status = .running → id ∈ left
  serving : ∀ b, Holds w b → (w.backends b).phase = .serving →
    ∀ id row, w.store.runners.get id = some row → row.status = .running → Covered (w.backends b) id

structure Invariant (w : World Digest) : Prop where
  sound : Sound w
  leased : Leased w
  supervised : Supervised w

def SameGeneration (s next : Store Digest) : Prop := next.lease.map Lease.generation = s.lease.map Lease.generation

theorem generation_back (s next : Store Digest) (same : SameGeneration s next) (lease : Lease) (stored : next.lease = some lease) :
    ∃ before, s.lease = some before ∧ before.generation = lease.generation := by
  rw [SameGeneration, stored] at same
  obtain ⟨before, found, number⟩ := Option.map_eq_some_iff.mp same.symm
  exact ⟨before, found, number⟩

theorem generation_on (s next : Store Digest) (same : SameGeneration s next) (lease : Lease) (stored : s.lease = some lease) :
    ∃ after, next.lease = some after ∧ after.generation = lease.generation :=
  generation_back next s same.symm lease stored

structure Stays (before after : Backend) : Prop where
  running : after.phase ≠ .stopped → before.phase ≠ .stopped ∧ after.owner = before.owner ∧ after.generation = before.generation

theorem stays_refl (backend : Backend) : Stays backend backend := ⟨fun running => ⟨running, rfl, rfl⟩⟩

theorem leased_stays (w next : World Digest) (leased : Leased w) (same : SameGeneration w.store next.store)
    (stays : ∀ b, Stays (w.backends b) (next.backends b)) : Leased next := by
  refine ⟨fun b running => ?_, fun b running => ?_, fun b other one two equal => ?_⟩
  · obtain ⟨before, _, generation⟩ := (stays b).running running
    obtain ⟨lease, stored, below⟩ := leased.held b before
    obtain ⟨after, found, number⟩ := generation_on _ _ same lease stored
    exact ⟨after, found, by rw [generation, number]; exact below⟩
  · obtain ⟨before, owner, _⟩ := (stays b).running running
    exact owner ▸ leased.owner b before
  · obtain ⟨before, _, generation⟩ := (stays b).running one
    obtain ⟨before', _, generation'⟩ := (stays other).running two
    exact leased.apart b other before before' (generation.symm.trans (equal.trans generation'))

theorem holds_back (w next : World Digest) (b : BackendId) (same : SameGeneration w.store next.store)
    (generation : (next.backends b).generation = (w.backends b).generation) (holds : Holds next b) : Holds w b := by
  obtain ⟨lease, stored, number⟩ := holds
  obtain ⟨before, found, equal⟩ := generation_back _ _ same lease stored
  exact ⟨before, found, equal.trans (number.trans generation)⟩

def Ended (w : World Digest) (id : RunnerId) : Prop :=
  ∀ row, w.store.runners.get id = some row → row.status ≠ .running

inductive Answers (w next : World Digest) (b : BackendId) : Prop where
  | silent (recovering : ∀ left, (next.backends b).phase ≠ .recovering left) (serving : (next.backends b).phase ≠ .serving)
  | listed (left : List RunnerId) (phase : (next.backends b).phase = .recovering left)
      (all : ∀ id row, next.store.runners.get id = some row → row.status = .running → id ∈ left)
  | recovers (before left : List RunnerId) (old : (w.backends b).phase = .recovering before)
      (phase : (next.backends b).phase = .recovering left)
      (generation : (next.backends b).generation = (w.backends b).generation)
      (fewer : ∀ id ∈ before, id ∈ left ∨ Ended next id)
  | recovered (old : (w.backends b).phase = .recovering []) (phase : (next.backends b).phase = .serving)
      (generation : (next.backends b).generation = (w.backends b).generation)
  | serves (old : (w.backends b).phase = .serving) (phase : (next.backends b).phase = .serving)
      (generation : (next.backends b).generation = (w.backends b).generation)
      (covered : ∀ id, Covered (w.backends b) id → Covered (next.backends b) id ∨ Ended next id)

theorem supervised_stays (w next : World Digest) (supervised : Supervised w) (same : SameGeneration w.store next.store)
    (running : NoneNew .running w.store next.store) (answers : ∀ b, Answers w next b) : Supervised next := by
  refine ⟨fun b left holds phase id row read runs => ?_, fun b holds phase id row read runs => ?_⟩
  · obtain ⟨old, found, was⟩ := running id row read runs
    cases answers b with
    | silent recovering _ => exact absurd phase (recovering left)
    | listed left' listed all =>
        cases listed.symm.trans phase
        exact all id row read runs
    | recovers before left' old' phase' generation fewer =>
        cases phase'.symm.trans phase
        have member := supervised.recovering b before (holds_back w next b same generation holds) old' id old found was
        rcases fewer id member with kept | ended
        · exact kept
        · exact absurd runs (ended row read)
    | recovered _ phase' _ => cases phase'.symm.trans phase
    | serves _ phase' _ _ => cases phase'.symm.trans phase
  · obtain ⟨old, found, was⟩ := running id row read runs
    cases answers b with
    | silent _ serving => exact absurd phase serving
    | listed left phase' _ => cases phase'.symm.trans phase
    | recovers before left _ phase' _ _ => cases phase'.symm.trans phase
    | recovered old' _ generation =>
        have member := supervised.recovering b [] (holds_back w next b same generation holds) old' id old found was
        exact absurd member List.not_mem_nil
    | serves old' _ generation covered =>
        rcases covered id (supervised.serving b (holds_back w next b same generation holds) old' id old found was) with kept | ended
        · exact kept
        · exact absurd runs (ended row read)

-- A Backend that only its own executions change.
theorem answers_stay (w next : World Digest) (b : BackendId) (phase : (next.backends b).phase = (w.backends b).phase)
    (generation : (next.backends b).generation = (w.backends b).generation)
    (covered : ∀ id, Covered (w.backends b) id → Covered (next.backends b) id ∨ Ended next id) : Answers w next b := by
  cases old : (w.backends b).phase with
  | stopped | acquired | failed =>
      rw [old] at phase
      exact .silent (fun left => by rw [phase]; nofun) (by rw [phase]; nofun)
  | recovering left => exact .recovers left left old (phase.trans old) generation fun _ member => .inl member
  | serving => exact .serves old (phase.trans old) generation covered

theorem answers_same (w next : World Digest) (b : BackendId) (same : next.backends b = w.backends b) : Answers w next b :=
  answers_stay w next b (congrArg Backend.phase same) (congrArg Backend.generation same) fun _ covered => .inl (same ▸ covered)

theorem checked_holds (w : World Digest) (b : BackendId) (leased : Leased w) (running : (w.backends b).phase ≠ .stopped)
    (checked : checkRuntime w.store (w.caller b) = .ok ()) : Holds w b := by
  obtain ⟨owner, named⟩ := Option.ne_none_iff_exists'.mp (leased.owner b running)
  obtain ⟨lease, stored, _⟩ := leased.held b running
  have caller : (w.caller b).runtimeOwner = some owner := named
  unfold checkRuntime at checked
  rw [caller, stored] at checked
  dsimp only at checked
  split at checked
  · cases checked
  · rename_i fine
    simp only [not_or, Decidable.not_not] at fine
    exact ⟨lease, stored, fine.2.1⟩

theorem holds_unique (w : World Digest) (b other : BackendId) (leased : Leased w) (one : (w.backends b).phase ≠ .stopped)
    (two : (w.backends other).phase ≠ .stopped) (first : Holds w b) (second : Holds w other) : b = other := by
  obtain ⟨lease, stored, number⟩ := first
  obtain ⟨lease', stored', number'⟩ := second
  cases Option.some.inj (stored.symm.trans stored')
  exact leased.apart b other one two (number.symm.trans number')

theorem moves_invariant (w next : World Digest) (b : BackendId) (inv : Invariant w) (moves : Moves w next b) : Invariant next := by
  obtain ⟨sound, held⟩ := moves
  have same : SameGeneration w.store next.store := congrArg (Option.map Lease.generation) held.lease
  have stays : ∀ other, (next.backends other).phase = (w.backends other).phase ∧
      (next.backends other).owner = (w.backends other).owner ∧
      (next.backends other).generation = (w.backends other).generation := by
    intro other
    by_cases here : other = b
    · subst here
      exact ⟨held.phase, held.owner, held.generation⟩
    · rw [held.others other here]
      exact ⟨rfl, rfl, rfl⟩
  refine ⟨sound, leased_stays w next inv.leased same fun other => ⟨fun running => ⟨(stays other).1 ▸ running, (stays other).2⟩⟩,
    supervised_stays w next inv.supervised same held.running fun other => ?_⟩
  refine answers_stay w next other (stays other).1 (stays other).2.2 fun id covered => ?_
  by_cases here : other = b
  · subst here
    exact held.covered id covered
  · rw [held.others other here]
    exact .inl covered

theorem store_calm (w : World Digest) (sound : Sound w) (store : Store Digest) (rows : RowsLater w.store store)
    (succeeded : NoneNew .succeeded w.store store) : Calm w (w.setStore store) :=
  ⟨rows, fun id row read past => .inl (succeeded id row read past), rfl, rfl, fun _ _ _ read => read, sound.idle⟩

theorem store_invariant (w : World Digest) (inv : Invariant w) (store : Store Digest) (rows : RowsLater w.store store)
    (succeeded : NoneNew .succeeded w.store store) (running : NoneNew .running w.store store)
    (same : SameGeneration w.store store) : Invariant (w.setStore store) :=
  ⟨calm_sound w _ inv.sound (store_calm w inv.sound store rows succeeded),
    leased_stays w _ inv.leased same fun b => stays_refl (w.backends b),
    supervised_stays w _ inv.supervised same running fun b => answers_same w _ b rfl⟩

theorem call_invariant (digest : Json → Digest) (w : World Digest) (inv : Invariant w) (call : Call Digest)
    (lease : ∀ lease, call ≠ .changeLease lease) (start : ∀ caller rid owner, call ≠ .startSelected caller rid owner)
    (complete : ∀ caller rid requests error, call ≠ .completeRunner caller rid requests .succeeded error) :
    Invariant (w.setStore (perform digest w.store call).1) :=
  store_invariant w inv _ (call_rows_later digest w.store call) (none_succeeded digest w.store call complete)
    (none_started digest w.store call start) (congrArg (Option.map Lease.generation) (call_lease digest w.store call lease))

theorem backend_invariant (w : World Digest) (inv : Invariant w) (b : BackendId) (backend : Backend)
    (stays : Stays (w.backends b) backend)
    (executions : backend.executions = (w.backends b).executions ∨ backend.executions = [])
    (idle : backend.phase ≠ .serving → backend.executions = [])
    (answers : Answers w (w.setBackend b backend) b) : Invariant (w.setBackend b backend) := by
  refine ⟨calm_sound w _ inv.sound ⟨rows_later_same _ _ rfl, fun id row read past => .inl ⟨row, read, past⟩, rfl, rfl,
      fun other id execution read => ?_, fun other quiet => ?_⟩,
    leased_stays w _ inv.leased rfl fun other => ?_, supervised_stays w _ inv.supervised rfl (none_new_same _ _ _ rfl) fun other => ?_⟩
  · refine set_backend_each w b other backend (fun other after => Dict.get id after.executions = some execution →
      Dict.get id (w.backends other).executions = some execution) (fun held => ?_) (fun _ _ held => held) read
    rcases executions with same | none
    · exact same ▸ held
    · rw [none] at held
      cases held
  · exact set_backend_each w b other backend (fun _ after => after.phase ≠ .serving → after.executions = []) idle
      (fun other _ => inv.sound.idle other) quiet
  · exact set_backend_each w b other backend (fun other after => Stays (w.backends other) after) stays fun _ _ => stays_refl _
  · by_cases here : other = b
    · exact here ▸ answers
    · exact answers_same w _ other (set_backend_other _ _ _ _ here)

theorem silent_invariant (w : World Digest) (inv : Invariant w) (b : BackendId) (backend : Backend)
    (stays : Stays (w.backends b) backend) (executions : backend.executions = [])
    (recovering : ∀ left, backend.phase ≠ .recovering left) (serving : backend.phase ≠ .serving) :
    Invariant (w.setBackend b backend) :=
  backend_invariant w inv b backend stays (.inr executions) (fun _ => executions)
    (.silent (by rw [set_backend_self]; exact recovering) (by rw [set_backend_self]; exact serving))

theorem idle_invariant (w : World Digest) (inv : Invariant w) (b : BackendId) (backend : Backend)
    (owner : backend.owner = (w.backends b).owner) (generation : backend.generation = (w.backends b).generation)
    (executions : backend.executions = (w.backends b).executions) (quiet : (w.backends b).phase ≠ .serving)
    (running : (w.backends b).phase ≠ .stopped) (answers : Answers w (w.setBackend b backend) b) :
    Invariant (w.setBackend b backend) :=
  backend_invariant w inv b backend ⟨fun _ => ⟨running, owner, generation⟩⟩ (.inl executions)
    (fun _ => executions.trans (inv.sound.idle b quiet)) answers

theorem running_listed (store : Store Digest) (id : RunnerId) (row : Runner) (read : store.runners.get id = some row)
    (running : row.status = .running) : id ∈ runningIds store :=
  List.mem_map.mpr ⟨(id, row), List.mem_filter.mpr ⟨dict_get_mem _ _ _ read, decide_eq_true running⟩, rfl⟩

section Steps
variable (digest : Json → Digest) (w next : World Digest) (inv : Invariant w)
include inv

theorem insert_invariant (id : RunnerId) (runner : Runner) (taken : insert w id runner = some next) : Invariant next := by
  unfold insert at taken
  split at taken
  · cases taken
  · rename_i free
    rw [Option.ite_none_right_eq_some] at taken
    obtain ⟨⟨queued, _⟩, taken⟩ := taken
    cases taken
    have older : ∀ status, status ≠ .queued → NoneNew status w.store
        { setRunner w.store id runner with campaigns := runner.campaign.toList ++ w.store.campaigns } := by
      intro status other query after read held
      rcases table_put_cases _ _ _ _ _ read with ⟨_, rfl⟩ | ⟨_, before⟩
      · exact absurd (held.symm.trans queued) other
      · exact ⟨after, before, held⟩
    refine store_invariant w inv _ (fun query before read => ⟨before, ?_, row_later_refl before⟩)
      (older .succeeded nofun) (older .running nofun) rfl
    have apart : query ≠ id := by
      rintro rfl
      rw [free] at read
      cases read
    exact (table_get_put_other _ _ _ _ apart).trans read

theorem tick_invariant (later : Instant) : Invariant { w with now := later } := by
  have sound : Sound { w with now := later } := calm_sound w _ inv.sound
    ⟨rows_later_same _ _ rfl, fun id row read past => .inl ⟨row, read, past⟩, rfl, rfl, fun _ _ _ read => read, inv.sound.idle⟩
  exact ⟨sound, leased_stays w _ inv.leased rfl fun b => stays_refl (w.backends b),
    supervised_stays w _ inv.supervised rfl (none_new_same _ _ _ rfl) fun b => answers_same w _ b rfl⟩

theorem lease_invariant (lease : Option Lease) (same : lease.map Lease.generation = w.store.lease.map Lease.generation) :
    Invariant (w.setLease lease) :=
  store_invariant w inv { w.store with lease := lease } (rows_later_same _ _ rfl) (none_new_same _ _ _ rfl)
    (none_new_same _ _ _ rfl) same

variable (b : BackendId)

theorem stop_invariant : Invariant (w.stop b) := by
  refine backend_invariant w inv b _ ⟨fun running => ⟨running, rfl, rfl⟩⟩ (.inl rfl) (inv.sound.idle b) ?_
  exact answers_stay w _ b (by rw [set_backend_self]) (by rw [set_backend_self]) fun id covered => .inl (by
    rw [set_backend_self]
    exact covered)

theorem renew_invariant : Invariant (renew w b) := by
  unfold renew
  split
  · exact stop_invariant w inv b
  · exact lease_invariant w inv _ (by rw [Option.map_map]; rfl)

theorem release_invariant (taken : release w b = some next) : Invariant next := by
  simp only [release, Option.ite_none_right_eq_some] at taken
  obtain ⟨⟨_, empty⟩, taken⟩ := taken
  cases taken
  have released : Invariant (w.setLease (w.store.lease.map fun lease =>
      if some lease.owner = (w.backends b).owner ∧ lease.generation = (w.backends b).generation then { lease with expiresAt := w.now }
      else lease)) := by
    refine lease_invariant w inv _ ?_
    rw [Option.map_map]
    congr 1
    funext lease
    dsimp only [Function.comp_apply]
    split <;> rfl
  exact silent_invariant _ released b _ ⟨fun running => absurd rfl running⟩ empty nofun
    nofun

theorem crash_invariant : Invariant (w.setBackend b idle) :=
  silent_invariant w inv b idle ⟨fun running => absurd rfl running⟩ rfl nofun nofun

theorem fenced_invariant (later : World Digest) (b : BackendId) (lease : Lease)
    (store : later.store = { w.store with lease := some lease }) (launches : later.launches = w.launches)
    (returned : later.returned = w.returned) (newest : ∀ before, w.store.lease = some before → before.generation < lease.generation)
    (others : ∀ other, other ≠ b → later.backends other = w.backends other) (empty : (later.backends b).executions = [])
    (own : (later.backends b).phase = .stopped ∨ ((later.backends b).phase = .acquired ∧
      (later.backends b).generation = lease.generation ∧ (later.backends b).owner ≠ none)) : Invariant later := by
  have older : ∀ other, (w.backends other).phase ≠ .stopped → (w.backends other).generation < lease.generation := by
    intro other running
    obtain ⟨before, stored, below⟩ := inv.leased.held other running
    exact Nat.lt_of_le_of_lt below (newest before stored)
  have mine : (later.backends b).phase ≠ .stopped →
      (later.backends b).generation = lease.generation ∧ (later.backends b).owner ≠ none := by
    intro running
    rcases own with stopped | ⟨_, here⟩
    · exact absurd stopped running
    · exact here
  have theirs : ∀ other, other ≠ b → (later.backends other).phase ≠ .stopped →
      (w.backends other).phase ≠ .stopped ∧ (later.backends other).generation < lease.generation := by
    intro other apart running
    rw [others other apart] at running ⊢
    exact ⟨running, older other running⟩
  -- Whoever holds the new lease has only just acquired it.
  have fresh : ∀ other, Holds later other → (later.backends other).phase = .stopped ∨ (later.backends other).phase = .acquired := by
    rintro other ⟨held, stored, equal⟩
    rw [store] at stored
    cases Option.some.inj stored
    by_cases here : other = b
    · rcases own with stopped | ⟨acquired, _⟩
      · exact .inl (here ▸ stopped)
      · exact .inr (here ▸ acquired)
    · by_contra neither
      obtain ⟨_, below⟩ := theirs other here (not_or.mp neither).1
      exact absurd equal (Nat.ne_of_gt below)
  refine ⟨calm_sound w later inv.sound ⟨rows_later_same _ _ (by rw [store]), fun id row read past => .inl ⟨row, ?_, past⟩,
      launches, returned, fun other id execution read => ?_, fun other quiet => ?_⟩, ⟨fun other running => ?_, fun other running => ?_,
      fun one two first second equal => ?_⟩, fun other left holds phase => ?_, fun other holds phase => ?_⟩
  · rw [store] at read
    exact read
  · by_cases here : other = b
    · rw [here, empty] at read
      cases read
    · exact others other here ▸ read
  · by_cases here : other = b
    · exact here ▸ empty
    · rw [others other here] at quiet ⊢
      exact inv.sound.idle other quiet
  · refine ⟨lease, by rw [store], ?_⟩
    by_cases here : other = b
    · rw [here] at running ⊢
      exact Nat.le_of_eq (mine running).1
    · exact Nat.le_of_lt (theirs other here running).2
  · by_cases here : other = b
    · rw [here] at running ⊢
      exact (mine running).2
    · have before := (theirs other here running).1
      rw [others other here]
      exact inv.leased.owner other before
  · by_cases one_here : one = b
    · by_cases two_here : two = b
      · exact one_here.trans two_here.symm
      · rw [one_here] at first equal
        rw [(mine first).1] at equal
        exact absurd equal (Nat.ne_of_gt (theirs two two_here second).2)
    · by_cases two_here : two = b
      · rw [two_here] at second equal
        rw [(mine second).1] at equal
        exact absurd equal (Nat.ne_of_lt (theirs one one_here first).2)
      · have before := (theirs one one_here first).1
        have before' := (theirs two two_here second).1
        rw [others one one_here, others two two_here] at equal
        exact inv.leased.apart one two before before' equal
  · rcases fresh other holds with stopped | acquired
    · cases stopped.symm.trans phase
    · cases acquired.symm.trans phase
  · rcases fresh other holds with stopped | acquired
    · cases stopped.symm.trans phase
    · cases acquired.symm.trans phase

theorem acquire_invariant (owner : String) (answered : Bool) (taken : acquire w b owner answered = some next) : Invariant next := by
  simp only [acquire, Option.ite_none_left_eq_some, not_or, Decidable.not_not] at taken
  obtain ⟨⟨stopped, _⟩, taken⟩ := taken
  have newest : ∀ before, w.store.lease = some before → before.generation < (w.store.lease.map Lease.generation).getD 0 + 1 := by
    intro before stored
    rw [stored]
    exact Nat.lt_succ_self _
  have empty : (w.backends b).executions = [] := inv.sound.idle b (by rw [stopped]; nofun)
  cases answered with
  | false =>
      rw [if_neg Bool.false_ne_true] at taken
      cases taken
      exact fenced_invariant w inv _ b _ rfl rfl rfl newest (fun _ _ => rfl) empty (.inl stopped)
  | true =>
      rw [if_pos rfl] at taken
      cases taken
      refine fenced_invariant w inv _ b _ rfl rfl rfl newest (fun other apart => set_backend_other _ _ _ _ apart)
        (by rw [set_backend_self]) (.inr ?_)
      rw [set_backend_self]
      exact ⟨rfl, rfl, nofun⟩

theorem read_stale_invariant (acquired : (w.backends b).phase = .acquired) :
    Invariant (w.setPhase b (.recovering (runningIds w.store))) := by
  refine idle_invariant w inv b _ rfl rfl rfl (by rw [acquired]; nofun)
    (by rw [acquired]; nofun) (.listed (runningIds w.store) (by rw [set_backend_self]) ?_)
  exact fun id row read running => running_listed w.store id row read running

theorem fail_invariant (quiet : (w.backends b).phase ≠ .serving) (running : (w.backends b).phase ≠ .stopped) :
    Invariant (w.setPhase b .failed) :=
  silent_invariant w inv b _ ⟨fun _ => ⟨running, rfl, rfl⟩⟩ (inv.sound.idle b quiet) nofun
    nofun

theorem requeue_stale_invariant (id : RunnerId) (left : List RunnerId) (answered : Bool)
    (recovering : (w.backends b).phase = .recovering (id :: left)) : Invariant (requeueStale digest w b id left answered) := by
  have quiet : (w.backends b).phase ≠ .serving := by simp [recovering]
  have running : (w.backends b).phase ≠ .stopped := by simp [recovering]
  have stored := call_invariant digest w inv (.finishRunner (w.caller b) id .failed indeterminate) nofun
    nofun nofun
  unfold requeueStale
  dsimp only
  split
  · rename_i flag answer
    cases answered with
    | false => exact fail_invariant _ stored b quiet running
    | true =>
        refine idle_invariant _ stored b _ rfl rfl rfl quiet running
          (.recovers (id :: left) left recovering (by rw [set_backend_self]; rfl) (by rw [set_backend_self]) fun query member => ?_)
        rcases List.mem_cons.mp member with rfl | later
        · exact .inr fun row read => finish_ends digest w.store (w.caller b) query .failed indeterminate flag answer row read
        · exact .inl later
  · exact fail_invariant w inv b quiet running

theorem recovered_invariant (recovering : (w.backends b).phase = .recovering []) :
    Invariant (w.setPhase b (if (w.backends b).stopping then .failed else .serving)) := by
  have quiet : (w.backends b).phase ≠ .serving := by simp [recovering]
  have running : (w.backends b).phase ≠ .stopped := by simp [recovering]
  split
  · exact fail_invariant w inv b quiet running
  · exact idle_invariant w inv b _ rfl rfl rfl quiet running
      (.recovered recovering (by rw [set_backend_self]) (by rw [set_backend_self]))

omit inv in
theorem queued_unclaimed (id : RunnerId) (before : Runner) (sound : Sound w) (read : w.store.runners.get id = some before)
    (queued : before.status = .queued) : (∀ other, Dict.get id (w.backends other).executions = none) ∧ id ∉ w.launches := by
  refine ⟨fun other => ?_, fun member => ?_⟩
  · by_contra present
    obtain ⟨execution, found⟩ := Option.ne_none_iff_exists'.mp present
    obtain ⟨row, held, past⟩ := (sound.executions other id execution found).begun
    cases Option.some.inj (read.symm.trans held)
    exact past queued
  · obtain ⟨row, held, past⟩ := sound.launched id member
    cases Option.some.inj (read.symm.trans held)
    exact past queued

theorem started_supervised (id : RunnerId) (serving : (w.backends b).phase = .serving) (holds : Holds w b)
    (lease : SameGeneration w.store next.store)
    (older : ∀ query row, next.store.runners.get query = some row → row.status = .running → query = id ∨ ∃ old, w.store.runners.get query = some old ∧ old.status = .running)
    (others : ∀ other, other ≠ b → next.backends other = w.backends other) (phase : (next.backends b).phase = .serving)
    (own : Covered (next.backends b) id) (kept : ∀ query, Covered (w.backends b) query → Covered (next.backends b) query) :
    Supervised next := by
  have back : ∀ other, Holds next other → (next.backends other).phase ≠ .stopped → other = b := by
    intro other held running
    by_contra apart
    rw [others other apart] at running
    refine apart (holds_unique w other b inv.leased running (by rw [serving]; nofun) ?_ holds)
    exact holds_back w next other lease (by rw [others other apart]) held
  refine ⟨fun other left held recovering => ?_, fun other held served query row found running => ?_⟩
  · cases back other held (by rw [recovering]; nofun)
    cases recovering.symm.trans phase
  · cases back other held (by rw [served]; nofun)
    rcases older query row found running with rfl | ⟨old, was, ran⟩
    · exact own
    · exact kept query (inv.supervised.serving b holds serving query old was ran)

theorem claim_invariant (id : RunnerId) (slot : String) (answered : Bool) (serving : (w.backends b).phase = .serving) :
    Invariant (claim digest w b id slot answered) := by
  obtain ⟨call, called⟩ : ∃ call : Call Digest, call = .startSelected (w.caller b) id slot := ⟨_, rfl⟩
  have rows : RowsLater w.store (perform digest w.store call).1 := call_rows_later digest w.store call
  have succeeded : NoneNew .succeeded w.store (perform digest w.store call).1 :=
    none_succeeded digest w.store call (by simp [called])
  have lease : SameGeneration w.store (perform digest w.store call).1 :=
    congrArg (Option.map Lease.generation) (call_lease digest w.store call (by simp [called]))
  have older : ∀ query row, (perform digest w.store call).1.runners.get query = some row → row.status = .running →
      query = id ∨ ∃ old, w.store.runners.get query = some old ∧ old.status = .running := by
    intro query row found running
    obtain ⟨old, was, ran | ⟨caller, owner, same, _⟩⟩ := running_origin digest w.store call query row found running
    · exact .inr ⟨old, was, ran⟩
    · cases called.symm.trans same
      exact .inl rfl
  have answer := start_answer digest w.store (w.caller b) id slot
  unfold claim
  rw [← called] at answer ⊢
  generalize perform digest w.store call = outcome at *
  obtain ⟨store, reply⟩ := outcome
  dsimp only at *
  rcases answer with ⟨none, quiet⟩ | ⟨checked, before, admitted, read, queued, rfl, started⟩
  · have kept := store_invariant w inv store rows succeeded quiet lease
    split
    · rename_i admitted
      exact absurd rfl (none admitted)
    · exact kept
  · dsimp only
    have alive : (w.backends b).phase ≠ .stopped := by simp [serving]
    have leased : ∀ backend : Backend, backend.owner = (w.backends b).owner → backend.generation = (w.backends b).generation →
        Leased ((w.setStore store).setBackend b backend) := fun backend owner generation =>
      leased_stays w _ inv.leased lease fun other =>
        set_backend_each _ b other _ (fun other after => Stays (w.backends other) after) ⟨fun _ => ⟨alive, owner, generation⟩⟩
          fun _ _ => stays_refl _
    have holds := checked_holds w b inv.leased alive checked
    have sound := calm_sound w _ inv.sound (store_calm w inv.sound store rows succeeded)
    obtain ⟨unclaimed, unlaunched⟩ := queued_unclaimed w id before inv.sound read queued
    cases answered with
    | true =>
        rw [if_pos rfl]
        have phase : (((w.setStore store).put b id ⟨.created, false, false⟩).backends b).phase = (w.backends b).phase := by
          rw [World.put, set_backend_self]
          rfl
        refine ⟨put_sound _ _ b id _ sound (recorded_same _ id sound) serving
            (early_ok _ ⟨_, started, by simp⟩ unlaunched rfl) fun other present => absurd (unclaimed other) present, leased _ rfl rfl,
          started_supervised w _ inv b id serving holds lease older (fun other apart => set_backend_other _ _ _ _ apart)
            (phase.trans serving) (.inl ?_) fun query covered => ?_⟩
        · rw [put_execution, if_pos ⟨rfl, rfl⟩]
          exact Option.some_ne_none _
        · rcases covered with present | lost
          · refine .inl ?_
            rw [put_execution]
            split
            · exact Option.some_ne_none _
            · exact present
          · refine .inr ?_
            rw [World.put, set_backend_self]
            exact lost
    | false =>
        rw [if_neg Bool.false_ne_true]
        have own : ((w.setStore store).lose b id).backends b = { w.backends b with lost := id :: (w.backends b).lost } :=
          set_backend_self _ _ _
        refine ⟨lose_sound _ b id sound, leased _ rfl rfl,
          started_supervised w _ inv b id serving holds lease older (fun other apart => set_backend_other _ _ _ _ apart)
            (by rw [own]; exact serving) (.inr (by rw [own]; exact List.mem_cons_self)) fun query covered => ?_⟩
        · rw [own]
          rcases covered with present | lost
          · exact .inl present
          · exact .inr (List.mem_cons_of_mem _ lost)

theorem notice_invariant (id : RunnerId) (execution : Execution) (found : Dict.get id (w.backends b).executions = some execution) :
    Invariant (w.put b id { execution with notified := true }) := by
  have ok := inv.sound.executions b id execution found
  exact moves_invariant w _ b inv (put_moves inv.sound found _
    ⟨ok.begun, ok.early, ok.waiting, ok.leaving, ok.unconfirmed, ok.committing⟩)

theorem step_invariant (event : Event Digest) (taken : step digest w event = some next) : Invariant next := by
  cases event with
  | call call =>
      rw [step, Option.ite_none_left_eq_some] at taken
      obtain ⟨foreign, taken⟩ := taken
      cases taken
      exact call_invariant digest w inv call (by rintro lease rfl; exact foreign rfl) (by rintro caller rid owner rfl; exact foreign rfl)
        (by rintro caller rid requests error rfl; exact foreign rfl)
  | insert id runner => exact insert_invariant w next inv id runner taken
  | tick later =>
      rw [step, Option.ite_none_right_eq_some] at taken
      cases taken.2
      exact tick_invariant w inv later
  | acquire b owner answered => exact acquire_invariant w next inv b owner answered taken
  | renew b =>
      rw [step, Option.ite_none_left_eq_some] at taken
      cases taken.2
      exact renew_invariant w inv b
  | halt b =>
      rw [step, Option.ite_none_left_eq_some] at taken
      cases taken.2
      exact stop_invariant w inv b
  | release b => exact release_invariant w next inv b taken
  | crash b =>
      cases taken
      exact crash_invariant w inv b
  | readStale b =>
      rw [step, Option.ite_none_right_eq_some] at taken
      cases taken.2
      exact read_stale_invariant w inv b taken.1
  | requeueStale b answered =>
      cases phase : (w.backends b).phase with
      | stopped | acquired | serving | failed =>
          simp only [step, phase] at taken
          cases taken
      | recovering left =>
          cases left with
          | nil =>
              simp only [step, phase] at taken
              cases taken
          | cons id left =>
              simp only [step, phase] at taken
              cases taken
              exact requeue_stale_invariant digest w inv b id left answered phase
  | abort b =>
      cases phase : (w.backends b).phase with
      | stopped | serving | failed =>
          simp only [step, phase] at taken
          cases taken
      | acquired | recovering =>
          simp only [step, phase] at taken
          cases taken
          exact fail_invariant w inv b (by rw [phase]; nofun) (by rw [phase]; nofun)
  | recovered b =>
      rw [step, Option.ite_none_right_eq_some] at taken
      cases taken.2
      exact recovered_invariant w inv b taken.1
  | claim b id slot answered =>
      rw [step, Option.ite_none_right_eq_some] at taken
      cases taken.2
      exact claim_invariant digest w inv b id slot answered taken.1
  | notice b id =>
      rw [step] at taken
      split at taken
      · rename_i execution found _
        rw [Option.ite_none_left_eq_some] at taken
        cases taken.2
        exact notice_invariant w inv b id execution found
      · cases taken
  | act b id action =>
      rw [step] at taken
      split at taken
      · rename_i execution found
        exact moves_invariant w next b inv (act_moves inv.sound found action taken)
      · cases taken

end Steps

structure Origin (w : World Digest) : Prop where
  backends : ∀ b, w.backends b = idle
  launches : w.launches = []
  returned : w.returned = []
  unfinished : ∀ id row, w.store.runners.get id = some row → row.status ≠ .succeeded

theorem origin_invariant (w : World Digest) (origin : Origin w) : Invariant w := by
  have stopped : ∀ b, (w.backends b).phase = .stopped ∧ (w.backends b).executions = [] := by
    intro b
    rw [origin.backends b]
    exact ⟨rfl, rfl⟩
  refine ⟨⟨fun b id execution found => ?_, fun b _ => (stopped b).2, fun b _ id present => ?_, origin.launches ▸ List.nodup_nil,
    fun id member => ?_, fun entry member => ?_, fun id row read past => absurd past (origin.unfinished id row read)⟩,
    ⟨fun b running => absurd (stopped b).1 running, fun b running => absurd (stopped b).1 running,
      fun b _ running => absurd (stopped b).1 running⟩,
    ⟨fun b left _ phase => ?_, fun b _ phase => ?_⟩⟩
  · rw [(stopped b).2] at found
    cases found
  · rw [(stopped b).2] at present
    exact absurd rfl present
  · rw [origin.launches] at member
    cases member
  · rw [origin.returned] at member
    cases member
  · rw [(stopped b).1] at phase
    cases phase
  · rw [(stopped b).1] at phase
    cases phase

theorem run_invariant (digest : Json → Digest) (origin last : World Digest) (fresh : Origin origin) (events : List (Event Digest))
    (reached : run (step digest) origin events = some last) : Invariant last :=
  Runs.run_invariant (step digest) Invariant (fun w event next inv taken => step_invariant digest w next inv event taken)
    events origin last (origin_invariant origin fresh) reached

theorem workers_start_once (digest : Json → Digest) (origin last : World Digest) (fresh : Origin origin)
    (events : List (Event Digest)) (reached : run (step digest) origin events = some last) :
    last.launches.Nodup ∧
    (∀ b other id, Dict.get id (last.backends b).executions ≠ none → Dict.get id (last.backends other).executions ≠ none →
      b = other) ∧
    ∀ id row, last.store.runners.get id = some row → row.status = .succeeded → id ∈ last.launches ∧ row.cancelRequested = false ∧
      ∃ summary requests, (id, summary, requests) ∈ last.returned ∧ counted summary.completed 0 ≠ 0 := by
  have sound := (run_invariant digest origin last fresh events reached).sound
  refine ⟨sound.once, sound.one, fun id row read succeeded => ?_⟩
  obtain ⟨unrequested, summary, requests, member, completed⟩ := sound.earned id row read succeeded
  exact ⟨sound.returned _ member, unrequested, summary, requests, member, completed⟩

theorem running_supervised (digest : Json → Digest) (origin last : World Digest) (fresh : Origin origin)
    (events : List (Event Digest)) (reached : run (step digest) origin events = some last) (b : BackendId)
    (holds : Holds last b) (serving : (last.backends b).phase = .serving) :
    (∀ id row, last.store.runners.get id = some row → row.status = .running →
      (∃ execution, Dict.get id (last.backends b).executions = some execution ∧ execution.stage ≠ .leaving) ∨
        id ∈ (last.backends b).lost) ∧
    ((last.backends b).executions = [] → (last.backends b).lost = [] →
      ∀ id row, last.store.runners.get id = some row → row.status ≠ .running) := by
  have inv := run_invariant digest origin last fresh events reached
  have answered : ∀ id row, last.store.runners.get id = some row → row.status = .running →
      (∃ execution, Dict.get id (last.backends b).executions = some execution ∧ execution.stage ≠ .leaving) ∨
        id ∈ (last.backends b).lost := by
    intro id row read running
    rcases inv.supervised.serving b holds serving id row read running with present | lost
    · obtain ⟨execution, found⟩ := Option.ne_none_iff_exists'.mp present
      exact .inl ⟨execution, found, fun leaving => (inv.sound.executions b id execution found).leaving leaving row read running⟩
    · exact .inr lost
  refine ⟨answered, fun empty kept id row read running => ?_⟩
  rcases answered id row read running with ⟨execution, found, _⟩ | lost
  · rw [empty] at found
    cases found
  · rw [kept] at lost
    cases lost

def plainRunner (status : RunnerStatus) : Runner := ⟨none, status, false, queuedTemplate none none .blank, none, none, none, none⟩

def interruptedStore : Store Json where
  lease := none
  campaigns := []
  runners := (Table.empty.put "left" (plainRunner .running)).put "next" (plainRunner .queued)
  instances := Table.empty
  nodes := Table.empty
  workers := Table.empty
  messages := Table.empty
  logs := []

def interrupted : World Json := ⟨interruptedStore, 0, fun _ => idle, [], []⟩

theorem interrupted_origin : Origin interrupted := by
  refine ⟨fun _ => rfl, rfl, rfl, fun id row read => ?_⟩
  have rows : ∀ entry ∈ interrupted.store.runners.rows, entry.2.status ≠ .succeeded := by decide
  exact rows (id, row) (dict_get_mem _ _ _ read)

def recoveredRun : List (Event Json) :=
  [.acquire 0 "scheduler" true, .readStale 0, .requeueStale 0 true, .recovered 0, .claim 0 "next" "slot" true,
    .act 0 "next" .begin, .act 0 "next" (.heartbeat false), .act 0 "next" (.heartbeat true), .act 0 "next" (.launch none)]

def completedRun : List (Event Json) :=
  recoveredRun ++ [.act 0 "next" (.result (.finished ⟨some 1, some 1, none, false⟩ [])), .act 0 "next" (.save none),
    .act 0 "next" .leave]

theorem workers_start_once_recovered : ∃ last, run (step id) interrupted completedRun = some last ∧ last.launches.Nodup ∧
    (last.store.runners.get "next").map Runner.status = some .succeeded := by
  have ends : (run (step id) interrupted completedRun).map (fun last => (last.store.runners.get "next").map Runner.status) =
      some (some .succeeded) := by decide +kernel
  obtain ⟨last, reached, status⟩ := Option.map_eq_some_iff.mp ends
  exact ⟨last, reached, (workers_start_once id interrupted last interrupted_origin completedRun reached).1, status⟩

theorem running_supervised_recovered : ∃ last row execution, run (step id) interrupted recoveredRun = some last ∧
    last.store.runners.get "next" = some row ∧ row.status = .running ∧
    Dict.get "next" (last.backends 0).executions = some execution ∧ execution.stage ≠ .leaving := by
  have ends : (run (step id) interrupted recoveredRun).map (fun last => ((last.store.runners.get "next").map Runner.status,
      last.store.lease.map Lease.generation, (last.backends 0).generation, (last.backends 0).phase, (last.backends 0).lost)) =
      some (some .running, some 1, 1, .serving, []) := by decide +kernel
  obtain ⟨last, reached, shown⟩ := Option.map_eq_some_iff.mp ends
  simp only [Prod.mk.injEq] at shown
  obtain ⟨status, lease, generation, serving, lost⟩ := shown
  obtain ⟨row, read, running⟩ := Option.map_eq_some_iff.mp status
  obtain ⟨stored, found, number⟩ := Option.map_eq_some_iff.mp lease
  have supervised := running_supervised id interrupted last interrupted_origin recoveredRun reached 0
    ⟨stored, found, number.trans generation.symm⟩ serving
  rcases supervised.1 "next" row read running with ⟨execution, held, working⟩ | gone
  · exact ⟨last, row, execution, reached, read, running, held, working⟩
  · rw [lost] at gone
    cases gone

end LlmperfOrchestrator.Supervision

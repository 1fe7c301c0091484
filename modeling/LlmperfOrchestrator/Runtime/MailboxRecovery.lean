import LlmperfOrchestrator.Runtime.MailboxPasses

set_option autoImplicit false

namespace LlmperfOrchestrator.Runtime.Mailbox

open Tables Storage Runs

section Store

variable (store : MessageStore) (runner : RunnerId) (key : Key)

theorem pending_listed (message : RunnerMessage) (pending : Pending store runner key message) :
    store.pending runner key.2 key.1 1 ≠ [] := by
  have listed : message ∈ store.unacknowledged runner key.2 key.1 := by
    apply List.mem_map.mpr
    refine ⟨(message.id, message), (table_filter _ _ _ _).mpr ⟨pending.stored, ?_⟩, rfl⟩
    exact decide_eq_true ⟨pending.owner, pending.destination, pending.unsettled⟩
  intro none
  have sorted : message ∈ (store.unacknowledged runner key.2 key.1).insertionSort older :=
    (List.mem_insertionSort older).mpr listed
  rw [MessageStore.pending, List.take_eq_nil_iff] at none
  cases none with
  | inl zero => cases zero
  | inr empty =>
      rw [empty] at sorted
      cases sorted

theorem pending_found (keyed : Keyed store) (message : RunnerMessage) (member : message ∈ store.pending runner key.2 key.1 1) :
    Pending store runner key message := by
  obtain ⟨stored, owner, destination, unsettled⟩ := pending_mem store keyed runner key.2 key.1 1 message member
  exact ⟨stored, owner, destination, unsettled⟩

theorem pending_one (message : RunnerMessage) (pending : Pending store runner key message) :
    ∃ oldest, store.pending runner key.2 key.1 1 = [oldest] := by
  have short : (store.pending runner key.2 key.1 1).length ≤ 1 := List.length_take_le 1 _
  cases found : store.pending runner key.2 key.1 1 with
  | nil => exact absurd found (pending_listed store runner key message pending)
  | cons oldest rest =>
      rw [found, List.length_cons] at short
      have empty : rest = [] := List.eq_nil_of_length_eq_zero (by omega)
      exact ⟨oldest, by rw [empty]⟩

theorem batch_one (keyed : Keyed store) (owners : List (RunnerId × Nat)) (revision : Nat)
    (once : (owners.filter fun owner => owner.1 = runner) = [(runner, revision)]) (oldest : RunnerMessage)
    (first : store.pending runner key.2 key.1 1 = [oldest]) :
    ((store.pendingBatch (owners.map Prod.fst) key.2 key.1 1).filter fun message => message.runner = runner) = [oldest] := by
  have each : ∀ owner : RunnerId × Nat, ((store.pending owner.1 key.2 key.1 1).filter fun message => message.runner = runner) =
      if owner.1 = runner then [oldest] else [] := by
    intro owner
    by_cases same : owner.1 = runner
    · rw [if_pos same, same, first]
      have pending := pending_found store runner key keyed oldest (by rw [first]; exact List.mem_singleton.mpr rfl)
      simp [pending.owner]
    · rw [if_neg same, List.filter_eq_nil_iff]
      intro message member
      have pending := pending_found store owner.1 key keyed message member
      simpa [pending.owner] using same
  rw [MessageStore.pendingBatch, List.flatMap_map, List.filter_flatMap]
  simp only [each]
  have chosen : (owners.flatMap fun owner => if owner.1 = runner then [oldest] else []) =
      (owners.filter fun owner => owner.1 = runner).flatMap fun _ => [oldest] := by
    clear once
    induction owners with
    | nil => rfl
    | cons owner rest ih =>
        by_cases same : owner.1 = runner
        · simp [same, ih]
        · simp [same, ih]
  rw [chosen, once]
  rfl

theorem owner_revision (owners : List (RunnerId × Nat)) (revision : Nat)
    (once : (owners.filter fun owner => owner.1 = runner) = [(runner, revision)]) : Dict.get runner owners = some revision := by
  have filtered := dict_get_filter owners (fun other => other = runner) runner
  rw [if_pos (by simp), once] at filtered
  rw [← filtered]
  simp [Dict.get]

end Store

structure Live (runner : RunnerId) (key : Key) (capacity revision : Nat) (crowded : Prop) (w : World) (bus : Bus)
    (subscription : Subscription) : Prop where
  held : w.buses.get runner = some bus
  there : bus.subscriptions.get key = some subscription
  limit : bus.capacity = capacity
  revision : subscription.revision = revision
  room : subscription.size < capacity ∨ crowded

structure Awaits (pass : Nat) (runner : RunnerId) (key : Key) (revision : Nat) (w : World) : Prop where
  waiting : ∃ batches recovering, w.passes pass = some ⟨1, batches, recovering⟩ ∧
    batches.flatMap (Batch.mine key runner) = [(runner, revision)] ∧
    ∀ batch messages, recovering = some (batch, messages) → ∀ message ∈ messages, message.runner = runner →
      (batch.consumer, message.destination) ≠ key
  keyed : Keyed w.store
  backlog : ∃ message, Pending w.store runner key message

structure Reads (pass : Nat) (runner : RunnerId) (key : Key) (revision : Nat) (message : RunnerMessage) (w : World) : Prop where
  running : ∃ batch messages batches, w.passes pass = some ⟨1, batches, some (batch, messages)⟩ ∧ batch.consumer = key.1 ∧
    Dict.get runner batch.owners = some revision ∧ (messages.filter fun other => other.runner = runner) = [message]
  destination : message.destination = key.2

structure Settled (runner : RunnerId) (key : Key) (capacity : Nat) (crowded : Prop) (message : RunnerMessage) (w : World) (bus : Bus)
    (subscription : Subscription) : Prop where
  held : w.buses.get runner = some bus
  there : bus.subscriptions.get key = some subscription
  limit : bus.capacity = capacity
  buffered : subscription.messages.get message.id ≠ none ∨ (capacity ≤ subscription.size ∧ crowded)

section Steps

variable (pass : Nat) (runner : RunnerId) (key : Key) (capacity revision : Nat) (crowded : Prop) (w next : World) (bus : Bus)
  (subscription : Subscription) (event : PassEvent) (allowed : Allowed pass runner w event)
  (fills : Fills pass runner key event → crowded) (taken : passStep w event = some next)
include allowed taken

theorem settled_step (message : RunnerMessage) (settled : Settled runner key capacity crowded message w bus subscription) :
    ∃ later after, Settled runner key capacity crowded message next later after := by
  obtain ⟨later, after, grown, _⟩ :=
    (pass_effect pass runner key w next bus subscription settled.held settled.there event allowed taken).grows
  refine ⟨later, after, grown.held, grown.there, grown.capacity.trans settled.limit, ?_⟩
  cases settled.buffered with
  | inl present => exact .inl (grown.kept message.id present)
  | inr full => exact .inr ⟨Nat.le_trans full.1 grown.size, full.2⟩

include fills

theorem live_step (live : Live runner key capacity revision crowded w bus subscription)
    (other : event ≠ .mailbox (.recover pass)) : ∃ later after, Live runner key capacity revision crowded next later after := by
  obtain ⟨later, after, grown, change⟩ :=
    (pass_effect pass runner key w next bus subscription live.held live.there event allowed taken).grows
  refine ⟨later, after, grown.held, grown.there, grown.capacity.trans live.limit, grown.revision.trans live.revision, ?_⟩
  rcases change with same | filled | own
  · rw [same]
    exact live.room
  · exact .inr (fills filled)
  · exact absurd own other

end Steps

section Recovery

variable (pass : Nat) (runner : RunnerId) (key : Key) (capacity revision : Nat) (crowded : Prop) (w next : World) (bus : Bus)
  (subscription : Subscription)

theorem recover_taken (batches : List Batch) (batch : Batch) (message : RunnerMessage) (rest : List RunnerMessage)
    (running : w.passes pass = some ⟨1, batches, some (batch, message :: rest)⟩)
    (taken : passStep w (.mailbox (.recover pass)) = some next) :
    next.passes pass = some ⟨1, batches, some (batch, rest)⟩ ∧ next.store = w.store ∧
      ((next.buses = w.buses ∧ (Dict.get message.runner batch.owners = none ∨ w.buses.get message.runner = none)) ∨
        ∃ revision current, Dict.get message.runner batch.owners = some revision ∧ w.buses.get message.runner = some current ∧
          next.buses = w.buses.put message.runner (current.recover message batch.consumer revision)) := by
  simp only [passStep, step, running] at taken
  have moved : ∀ state, (w.putPass pass state).passes pass = state := fun state => by simp [World.putPass]
  cases owner : Dict.get message.runner batch.owners with
  | none =>
      rw [owner] at taken
      cases taken
      exact ⟨moved _, rfl, .inl ⟨rfl, .inl rfl⟩⟩
  | some revision =>
      cases current : w.buses.get message.runner with
      | none =>
          rw [owner, current] at taken
          cases taken
          exact ⟨moved _, rfl, .inl ⟨rfl, .inr rfl⟩⟩
      | some bus =>
          rw [owner, current] at taken
          cases taken
          exact ⟨moved _, rfl, .inr ⟨revision, bus, rfl, rfl, rfl⟩⟩

theorem recover_elsewhere (live : Live runner key capacity revision crowded w bus subscription) (batches : List Batch) (batch : Batch)
    (message : RunnerMessage) (rest : List RunnerMessage)
    (running : w.passes pass = some ⟨1, batches, some (batch, message :: rest)⟩)
    (other : message.runner = runner → (batch.consumer, message.destination) ≠ key)
    (taken : passStep w (.mailbox (.recover pass)) = some next) :
    ∃ later, Live runner key capacity revision crowded next later subscription := by
  obtain ⟨_, _, moved⟩ := recover_taken pass w next batches batch message rest running taken
  rcases moved with ⟨same, _⟩ | ⟨seen, current, _, found, written⟩
  · exact ⟨bus, by rw [same]; exact live.held, live.there, live.limit, live.revision, live.room⟩
  · by_cases mine : message.runner = runner
    · rw [mine] at found written
      cases Option.some.inj (live.held.symm.trans found)
      have there : next.buses.get runner = some (bus.recover message batch.consumer seen) := by
        rw [written]
        exact table_get_put_self _ _ _
      obtain ⟨after, grown, change⟩ := grown_recover runner key next bus subscription live.there message batch.consumer seen there
      cases change with
      | inl same =>
          subst same
          exact ⟨_, grown.held, grown.there, grown.capacity.trans live.limit, live.revision, live.room⟩
      | inr here => exact absurd here (other mine)
    · refine ⟨bus, ?_, live.there, live.limit, live.revision, live.room⟩
      rw [written, table_get_put_other _ _ _ _ (Ne.symm mine)]
      exact live.held

theorem recover_here (live : Live runner key capacity revision crowded w bus subscription) (batches : List Batch) (batch : Batch)
    (message : RunnerMessage) (rest : List RunnerMessage)
    (running : w.passes pass = some ⟨1, batches, some (batch, message :: rest)⟩) (mine : message.runner = runner)
    (place : (batch.consumer, message.destination) = key) (owner : Dict.get runner batch.owners = some revision)
    (taken : passStep w (.mailbox (.recover pass)) = some next) :
    ∃ later after, Settled runner key capacity crowded message next later after := by
  obtain ⟨_, _, moved⟩ := recover_taken pass w next batches batch message rest running taken
  rw [mine] at moved
  rcases moved with ⟨_, absent⟩ | ⟨seen, current, listed, found, written⟩
  · cases absent with
    | inl unowned => rw [owner] at unowned; cases unowned
    | inr closed => rw [live.held] at closed; cases closed
  · cases Option.some.inj (owner.symm.trans listed)
    cases Option.some.inj (live.held.symm.trans found)
    have there : next.buses.get runner = some (bus.recover message batch.consumer revision) := by
      rw [written]
      exact table_get_put_self _ _ _
    obtain ⟨after, grown, _⟩ := grown_recover runner key next bus subscription live.there message batch.consumer revision there
    refine ⟨_, after, grown.held, grown.there, grown.capacity.trans live.limit, ?_⟩
    by_cases room : subscription.size < bus.capacity
    · obtain ⟨inserted, read, present⟩ := recover_present bus message key subscription live.there (congrArg Prod.snd place) room
      rw [live.revision, ← congrArg Prod.fst place] at read
      cases Option.some.inj (grown.there.symm.trans read)
      exact .inl present
    · rw [live.limit] at room
      have full := Nat.not_lt.mp room
      exact .inr ⟨Nat.le_trans full grown.size, live.room.resolve_left room⟩

end Recovery

end LlmperfOrchestrator.Runtime.Mailbox

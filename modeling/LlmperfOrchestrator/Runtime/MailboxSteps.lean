import LlmperfOrchestrator.Library.Runs
import LlmperfOrchestrator.Runtime.MailboxBuffers

set_option autoImplicit false

namespace LlmperfOrchestrator.Runtime.Mailbox

open Tables Storage Runs

section Kinds
variable (w next : World) (sound : Sound w)

theorem buses_moves (buses : ∀ runner bus, w.buses.get runner = some bus →
      ∃ later, next.buses.get runner = some later ∧ BusMoves w.store.receipts bus later)
    (runner : RunnerId) (key : Key) (subscription : Subscription) (held : w.subscription runner key = some subscription) :
    ∃ later, next.subscription runner key = some later ∧ Moves w.store.receipts key.1 subscription later := by
  obtain ⟨bus, there, found⟩ := Option.bind_eq_some_iff.mp held
  obtain ⟨after, kept, moves⟩ := buses runner bus there
  obtain ⟨later, present, change⟩ := moves key subscription found
  refine ⟨later, ?_, change⟩
  rw [World.subscription, kept]
  exact present

theorem same_buses_move (buses : next.buses = w.buses) (runner : RunnerId) (bus : Bus) (held : w.buses.get runner = some bus) :
    ∃ later, next.buses.get runner = some later ∧ BusMoves w.store.receipts bus later :=
  ⟨bus, buses ▸ held, bus_moves_refl w.store.receipts bus⟩

theorem put_buses_move (runner : RunnerId) (bus fresh : Bus) (held : w.buses.get runner = some bus)
    (buses : next.buses = w.buses.put runner fresh) (moves : BusMoves w.store.receipts bus fresh) (other : RunnerId)
    (before : Bus) (there : w.buses.get other = some before) :
    ∃ later, next.buses.get other = some later ∧ BusMoves w.store.receipts before later := by
  rw [buses, table_get_put]
  by_cases same : other = runner
  · rw [same, held] at there
    cases there
    rw [if_pos same]
    exact ⟨fresh, rfl, moves⟩
  · rw [if_neg same]
    exact ⟨before, there, bus_moves_refl w.store.receipts before⟩

theorem same_store_follows (store : next.store = w.store) (received : next.received = w.received)
    (buses : ∀ runner bus, w.buses.get runner = some bus →
      ∃ later, next.buses.get runner = some later ∧ BusMoves w.store.receipts bus later) : Follows w next := by
  refine ⟨?_, ?_, ?_, ?_, buses_moves w next buses⟩
  · rw [store]
    exact fun _ _ found => found
  · rw [store]
    exact fun _ member => member
  · rw [store]
    exact fun _ _ settled => .inl settled
  · rw [received]
    exact fun _ member => member

include sound

theorem bus_step (runner : RunnerId) (bus fresh : Bus) (held : w.buses.get runner = some bus)
    (moves : BusMoves w.store.receipts bus fresh) (here : BusSound w.store runner fresh)
    (store : next.store = w.store) (received : next.received = w.received) (buses : next.buses = w.buses.put runner fresh)
    (passes : ∀ id pass, next.passes id = some pass → w.passes id = some pass ∨ PassSound next pass)
    (acks : ∀ id ack, next.acks id = some ack → w.acks id = some ack ∨ AckSound next ack) : Sound next ∧ Follows w next := by
  have follows := same_store_follows w next store received (put_buses_move w next runner bus fresh held buses moves)
  refine ⟨sound_follows w next follows sound ?_ ?_ ?_ passes acks, follows⟩
  · rw [store]
    exact sound.rows
  · intro other found there
    rw [store]
    rw [buses] at there
    cases table_put_cases _ _ _ _ _ there with
    | inl same =>
        obtain ⟨rfl, rfl⟩ := same
        exact here
    | inr old => exact sound.buses other found old.2
  · rw [received]
    exact fun _ _ member => .inl member

theorem coroutine_step (store : next.store = w.store) (received : next.received = w.received) (buses : next.buses = w.buses)
    (passes : ∀ id pass, next.passes id = some pass → w.passes id = some pass ∨ PassSound w pass)
    (acks : ∀ id ack, next.acks id = some ack → w.acks id = some ack ∨ AckSound w ack) : Sound next ∧ Follows w next := by
  have follows := same_store_follows w next store received (same_buses_move w next buses)
  refine ⟨sound_follows w next follows sound ?_ ?_ ?_ ?_ ?_, follows⟩
  · rw [store]
    exact sound.rows
  · rw [store, buses]
    exact sound.buses
  · rw [received]
    exact fun _ _ member => .inl member
  · exact fun id pass held => (passes id pass held).imp_right (pass_follows w next follows sound pass)
  · exact fun id ack held => (acks id ack held).imp_right (ack_follows w next follows ack)

end Kinds

theorem put_pass_cases (w : World) (pass : Nat) (state : Option Pass) (id : Nat) (found : Pass)
    (held : (w.putPass pass state).passes id = some found) : w.passes id = some found ∨ state = some found := by
  dsimp only [World.putPass] at held
  by_cases same : id = pass
  · rw [if_pos same] at held
    exact .inr held
  · rw [if_neg same] at held
    exact .inl held

theorem put_ack_cases (w : World) (ack : Nat) (state : Option Ack) (id : Nat) (found : Ack)
    (held : (w.putAck ack state).acks id = some found) : w.acks id = some found ∨ state = some found := by
  dsimp only [World.putAck] at held
  by_cases same : id = ack
  · rw [if_pos same] at held
    exact .inr held
  · rw [if_neg same] at held
    exact .inl held

theorem acknowledge_receipts (before after : MessageStore) (runner : RunnerId) (ids : List MessageId) (consumer : Consumer)
    (acknowledged : before.acknowledge runner ids consumer = some after) : after.messages = before.messages ∧
      ∀ row, row ∈ after.receipts ↔ row ∈ before.receipts ∨ ∃ id ∈ ids, row = (id, consumer) := by
  obtain ⟨_, made⟩ := Option.ite_none_right_eq_some.mp acknowledged
  cases made
  refine ⟨rfl, fun row => ?_⟩
  rw [List.mem_append, List.mem_filter, List.mem_map, decide_eq_true_iff]
  by_cases old : row ∈ before.receipts
  · exact ⟨fun _ => .inl old, fun _ => .inl old⟩
  · constructor
    · rintro (held | ⟨⟨id, listed, same⟩, _⟩)
      · exact absurd held old
      · exact .inr ⟨id, listed, same.symm⟩
    · rintro (held | ⟨id, listed, same⟩)
      · exact absurd held old
      · exact .inr ⟨⟨id, listed, same.symm⟩, old⟩

section Steps
variable (w : World) (sound : Sound w)
include sound

theorem put_pass_step (pass : Nat) (state : Option Pass) (here : ∀ found, state = some found → PassSound w found) :
    Sound (w.putPass pass state) ∧ Follows w (w.putPass pass state) := by
  apply coroutine_step w (w.putPass pass state) sound rfl rfl rfl
  · intro id found held
    exact (put_pass_cases w pass state id found held).imp_right (here found)
  · exact fun _ _ held => .inl held

theorem put_ack_step (ack : Nat) (state : Option Ack) (here : ∀ found, state = some found → AckSound w found) :
    Sound (w.putAck ack state) ∧ Follows w (w.putAck ack state) := by
  apply coroutine_step w (w.putAck ack state) sound rfl rfl rfl
  · exact fun _ _ held => .inl held
  · intro id found held
    exact (put_ack_cases w ack state id found held).imp_right (here found)

theorem create_step (runner : RunnerId) (fresh : w.buses.get runner = none) (capacity : Nat) (managed : Bool) :
    Sound (w.putBus runner ⟨capacity, managed, .empty⟩) ∧ Follows w (w.putBus runner ⟨capacity, managed, .empty⟩) := by
  have follows : Follows w (w.putBus runner ⟨capacity, managed, .empty⟩) := by
    apply same_store_follows w (w.putBus runner ⟨capacity, managed, .empty⟩) rfl rfl
    intro other bus held
    have apart : other ≠ runner := fun same => by
      rw [same, fresh] at held
      cases held
    exact ⟨bus, (table_get_put_other _ _ _ _ apart).trans held, bus_moves_refl w.store.receipts bus⟩
  refine ⟨sound_follows w _ follows sound sound.rows ?_ (fun _ _ member => .inl member) (fun _ _ held => .inl held)
    (fun _ _ held => .inl held), follows⟩
  intro other bus there
  cases table_put_cases _ _ _ _ _ there with
  | inl same =>
      obtain ⟨rfl, rfl⟩ := same
      intro key subscription none
      cases none
  | inr old => exact sound.buses other bus old.2

theorem publish_step (message : RunnerMessage) (store : MessageStore) (published : w.store.publish message = some store) :
    Sound { w with store } ∧ Follows w { w with store } := by
  unfold MessageStore.publish at published
  have kept : ∀ id row, w.store.messages.get id = some row → store.messages.get id = some row := by
    intro id row held
    split at published
    · rename_i absent
      cases published
      have apart : id ≠ message.id := fun same => by
        rw [same, absent] at held
        cases held
      exact (table_get_put_other _ _ _ _ apart).trans held
    · split at published
      · cases published
        exact held
      · cases published
  have receipts : store.receipts = w.store.receipts := by
    split at published
    · cases published
      rfl
    · split at published
      · cases published
        rfl
      · cases published
  have rows : ∀ id row, store.messages.get id = some row → row.id = id := by
    intro id row held
    split at published
    · cases published
      cases table_put_cases _ _ _ _ _ held with
      | inl fresh =>
          obtain ⟨rfl, rfl⟩ := fresh
          rfl
      | inr old => exact sound.rows id row old.2
    · split at published
      · cases published
        exact sound.rows id row held
      · cases published
  have follows : Follows w { w with store } := by
    refine ⟨kept, ?_, ?_, fun _ member => member, buses_moves w _ (same_buses_move w _ rfl)⟩
    · intro row member
      exact receipts ▸ member
    · intro id consumer settled
      exact .inl (receipts ▸ settled)
  refine ⟨sound_follows w _ follows sound rows ?_ (fun _ _ member => .inl member) (fun _ _ held => .inl held)
    (fun _ _ held => .inl held), follows⟩
  intro runner bus held
  exact bus_sound_kept w.store store kept runner bus (sound.buses runner bus held)

theorem receive_step (runner : RunnerId) (key : Key) (limit : Nat) (subscription : Subscription)
    (held : w.subscription runner key = some subscription) (later : World)
    (same : later = { w with received := w.received ++
      (subscription.messages.rows.take limit).map fun entry => (key.1, entry.2) }) : Sound later ∧ Follows w later := by
  subst same
  have follows : Follows w { w with received := w.received ++
      (subscription.messages.rows.take limit).map fun entry => (key.1, entry.2) } :=
    ⟨fun _ _ found => found, fun _ member => member, fun _ _ settled => .inl settled,
      fun _ member => List.mem_append_left _ member, buses_moves w _ (same_buses_move w _ rfl)⟩
  refine ⟨sound_follows w _ follows sound sound.rows sound.buses ?_ (fun _ _ found => .inl found)
    (fun _ _ found => .inl found), follows⟩
  intro consumer message member
  cases List.mem_append.mp member with
  | inl old => exact .inl old
  | inr taken =>
      obtain ⟨entry, listed, pair⟩ := List.mem_map.mp taken
      cases pair
      obtain ⟨bus, there, found⟩ := Option.bind_eq_some_iff.mp held
      have read := (table_mem subscription.messages entry.1 entry.2).mp (List.mem_of_mem_take listed)
      obtain ⟨same, owner, destination, accepted⟩ := (sound.buses runner bus there key subscription found).rows _ _ read
      refine .inr ⟨accepted, fun _ => ⟨subscription, ?_, ?_⟩⟩
      · rw [owner, destination]
        exact held
      · rw [same, read]
        exact Option.some_ne_none _

theorem read_pending_step (pass limit : Nat) (batch : Batch) (batches : List Batch)
    (held : w.passes pass = some ⟨limit, batch :: batches, none⟩) :
    PassSound w ⟨limit, batches, some (batch,
      w.store.pendingBatch (batch.owners.map Prod.fst) batch.destination batch.consumer limit)⟩ := by
  have waiting := (sound.passes pass _ held).waiting
  refine ⟨fun other listed => waiting other (List.mem_cons_of_mem _ listed), ?_⟩
  intro current messages same message member
  cases same
  obtain ⟨runner, _, found⟩ := List.mem_flatMap.mp member
  obtain ⟨read, _, destination, unsettled⟩ := pending_mem w.store sound.rows runner _ _ limit message found
  refine ⟨destination, read, fun revision owner => ?_⟩
  obtain ⟨subscription, there, low⟩ := waiting batch List.mem_cons_self _ (dict_get_mem batch.owners _ _ owner)
  exact ⟨subscription, there, low, fun _ settled => absurd settled unsettled⟩

theorem recover_step (pass limit : Nat) (batches : List Batch) (batch : Batch) (message : RunnerMessage)
    (rest : List RunnerMessage) (held : w.passes pass = some ⟨limit, batches, some (batch, message :: rest)⟩) :
    (Sound (w.putPass pass (some ⟨limit, batches, some (batch, rest)⟩)) ∧
      Follows w (w.putPass pass (some ⟨limit, batches, some (batch, rest)⟩))) ∧
    ∀ revision bus, w.buses.get message.runner = some bus →
      Sound ((w.putPass pass (some ⟨limit, batches, some (batch, rest)⟩)).putBus message.runner
        (bus.recover message batch.consumer revision)) ∧
      Follows w ((w.putPass pass (some ⟨limit, batches, some (batch, rest)⟩)).putBus message.runner
        (bus.recover message batch.consumer revision)) := by
  have before := sound.passes pass _ held
  have remaining : PassSound w ⟨limit, batches, some (batch, rest)⟩ := by
    refine ⟨before.waiting, fun current messages same other member => ?_⟩
    cases same
    exact before.recovering batch _ rfl other (List.mem_cons_of_mem _ member)
  have quiet := put_pass_step w sound pass _ fun found same => Option.some.inj same ▸ remaining
  refine ⟨quiet, fun revision bus there => ?_⟩
  have read := before.recovering batch _ rfl message List.mem_cons_self
  have accepted : w.store.accepts message := ⟨message, read.stored, rfl, rfl, rfl, rfl, rfl⟩
  have moves := recover_moves w.store.receipts bus message batch.consumer revision
  have here := recover_sound w.store message.runner bus message rfl accepted batch.consumer revision
    (sound.buses _ bus there)
  have follows : Follows w ((w.putPass pass (some ⟨limit, batches, some (batch, rest)⟩)).putBus message.runner
      (bus.recover message batch.consumer revision)) := by
    apply same_store_follows
    · rfl
    · rfl
    · exact put_buses_move w _ message.runner bus _ there rfl moves
  apply bus_step w _ sound message.runner bus _ there moves here
  · rfl
  · rfl
  · rfl
  · intro id found kept
    refine (put_pass_cases w pass _ id found kept).imp_right fun same => ?_
    cases same
    exact pass_follows w _ follows sound _ remaining
  · exact fun _ _ kept => .inl kept

theorem commit_receipts_step (ack : Nat) (runner : RunnerId) (consumer : Consumer) (messages : List RunnerMessage)
    (held : w.acks ack = some ⟨runner, consumer, messages, false⟩) (store : MessageStore)
    (acknowledged : w.store.acknowledge runner (messages.map RunnerMessage.id) consumer = some store) :
    Sound { w.putAck ack (some ⟨runner, consumer, messages, true⟩) with store } ∧
      Follows w { w.putAck ack (some ⟨runner, consumer, messages, true⟩) with store } := by
  obtain ⟨same, receipts⟩ := acknowledge_receipts w.store store runner _ consumer acknowledged
  obtain ⟨received, _⟩ := sound.acks ack _ held
  have kept : ∀ id row, w.store.messages.get id = some row → store.messages.get id = some row := by
    intro id row found
    rw [same]
    exact found
  have follows : Follows w { w.putAck ack (some ⟨runner, consumer, messages, true⟩) with store } := by
    refine ⟨kept, fun row member => (receipts row).mpr (.inl member), ?_, fun _ member => member,
      buses_moves w _ (same_buses_move w _ rfl)⟩
    intro id other settled
    cases (receipts (id, other)).mp settled with
    | inl old => exact .inl old
    | inr fresh =>
        obtain ⟨name, listed, pair⟩ := fresh
        obtain ⟨message, member, rfl⟩ := List.mem_map.mp listed
        cases pair
        exact .inr ⟨message, (received message member).2, rfl⟩
  refine ⟨sound_follows w _ follows sound ?_ ?_ (fun _ _ member => .inl member) (fun _ _ found => .inl found) ?_, follows⟩
  · dsimp only
    rw [same]
    exact sound.rows
  · intro owner bus there
    exact bus_sound_kept w.store store kept owner bus (sound.buses owner bus there)
  · intro id found there
    refine (put_ack_cases w ack _ id found there).imp_right fun whole => ?_
    cases whole
    refine ⟨received, fun _ message member => ?_⟩
    exact (receipts (message.id, consumer)).mpr (.inr ⟨message.id, List.mem_map.mpr ⟨message, member, rfl⟩, rfl⟩)

theorem settle_step (ack : Nat) (runner : RunnerId) (consumer : Consumer) (messages : List RunnerMessage)
    (held : w.acks ack = some ⟨runner, consumer, messages, true⟩) (bus : Bus) (there : w.buses.get runner = some bus) :
    Sound ((w.putAck ack none).putBus runner (bus.settleAll consumer messages)) ∧
      Follows w ((w.putAck ack none).putBus runner (bus.settleAll consumer messages)) := by
  have settled := (sound.acks ack _ held).receipts rfl
  apply bus_step w _ sound runner bus _ there
  · exact settle_all_moves w.store.receipts bus consumer messages settled
  · exact settle_all_sound w.store runner bus consumer messages (sound.buses runner bus there)
  · rfl
  · rfl
  · rfl
  · exact fun _ _ kept => .inl kept
  · intro id found kept
    exact (put_ack_cases w ack none id found kept).imp_right (fun none => by cases none)

end Steps

end LlmperfOrchestrator.Runtime.Mailbox

import LlmperfOrchestrator.Library.Keyed
import LlmperfOrchestrator.Storage.Documents
import Mathlib.Data.List.Sort

set_option autoImplicit false

namespace LlmperfOrchestrator.Runtime.Mailbox

open Tables Storage

abbrev RunnerId := String
abbrev MessageId := String
abbrev Consumer := String
abbrev Destination := String

structure RunnerMessage where
  runner : RunnerId
  topic : String
  payload : Json
  id : MessageId
  source : Option String
  destination : Destination
  createdAt : Int
deriving DecidableEq

-- runner_messages by id, and the primary keys of runner_message_receipts.
structure MessageStore where
  messages : Table MessageId RunnerMessage
  receipts : List (MessageId × Consumer)

def SameContent (existing message : RunnerMessage) : Prop :=
  existing.runner = message.runner ∧ existing.topic = message.topic ∧ existing.destination = message.destination ∧
    existing.source = message.source ∧ existing.payload = message.payload

instance (existing message : RunnerMessage) : Decidable (SameContent existing message) :=
  inferInstanceAs (Decidable (_ ∧ _))

-- What publish_message checks when the id is taken. A caller may deliver the message afterwards.
def MessageStore.accepts (store : MessageStore) (message : RunnerMessage) : Prop :=
  ∃ existing, store.messages.get message.id = some existing ∧ SameContent existing message

instance (store : MessageStore) (message : RunnerMessage) : Decidable (store.accepts message) :=
  match found : store.messages.get message.id with
  | none => .isFalse fun ⟨_, held, _⟩ => by simp [found] at held
  | some existing => decidable_of_iff (SameContent existing message)
      ⟨fun same => ⟨existing, found, same⟩, fun ⟨_, held, same⟩ => Option.some.inj (found.symm.trans held) ▸ same⟩

def MessageStore.publish (store : MessageStore) (message : RunnerMessage) : Option MessageStore :=
  match store.messages.get message.id with
  | none => some { store with messages := store.messages.put message.id message }
  | some existing => if SameContent existing message then some store else none

def older (a b : RunnerMessage) : Prop := a.createdAt < b.createdAt ∨ (a.createdAt = b.createdAt ∧ a.id ≤ b.id)

instance : DecidableRel older := fun a b =>
  inferInstanceAs (Decidable (a.createdAt < b.createdAt ∨ (a.createdAt = b.createdAt ∧ a.id ≤ b.id)))

def MessageStore.unacknowledged (store : MessageStore) (runner : RunnerId) (destination : Destination)
    (consumer : Consumer) : List RunnerMessage :=
  (store.messages.filter fun id row =>
    row.runner = runner ∧ row.destination = destination ∧ (id, consumer) ∉ store.receipts).map Prod.snd

-- pending_messages: no receipt of the consumer yet, the oldest first.
def MessageStore.pending (store : MessageStore) (runner : RunnerId) (destination : Destination) (consumer : Consumer)
    (limit : Nat) : List RunnerMessage :=
  ((store.unacknowledged runner destination consumer).insertionSort older).take limit

def MessageStore.pendingBatch (store : MessageStore) (runners : List RunnerId) (destination : Destination)
    (consumer : Consumer) (limit : Nat) : List RunnerMessage :=
  runners.flatMap fun runner => store.pending runner destination consumer limit

def MessageStore.owns (store : MessageStore) (runner : RunnerId) (id : MessageId) : Bool :=
  ((store.messages.get id).map RunnerMessage.runner) = some runner

-- acknowledge_messages: one transaction, ON CONFLICT DO NOTHING.
def MessageStore.acknowledge (store : MessageStore) (runner : RunnerId) (ids : List MessageId) (consumer : Consumer) :
    Option MessageStore :=
  if ∀ id ∈ ids, store.owns runner id then
    some { store with receipts := store.receipts ++ (ids.map fun id => (id, consumer)).filter fun row => row ∉ store.receipts }
  else none

structure Subscription where
  messages : Table MessageId RunnerMessage
  recoveredIds : List MessageId
  revision : Nat

def Subscription.empty : Subscription := ⟨.empty, [], 0⟩

def Subscription.size (subscription : Subscription) : Nat := subscription.messages.rows.length

abbrev Key := Consumer × Destination

-- managed tells whether a MessageReconciler serves the bus. _generation and the condition only
-- wake receivers; here a receiver may look at its buffer at any time.
structure Bus where
  capacity : Nat
  managed : Bool
  subscriptions : Table Key Subscription

def Subscription.setdefault (subscription : Subscription) (message : RunnerMessage) : Subscription :=
  match subscription.messages.get message.id with
  | none => { subscription with messages := subscription.messages.put message.id message }
  | some _ => subscription

def Bus.deliverCommitted (bus : Bus) (message : RunnerMessage) : Bus :=
  { bus with subscriptions := bus.subscriptions.update fun key subscription =>
      if key.2 = message.destination ∧ subscription.size < bus.capacity then subscription.setdefault message
      else subscription }

def Subscription.recover (subscription : Subscription) (message : RunnerMessage) : Subscription :=
  match subscription.messages.get message.id with
  | none => { subscription with
      messages := subscription.messages.put message.id message
      recoveredIds := message.id :: subscription.recoveredIds }
  | some _ => subscription

-- A receipt committed during the read makes that snapshot stale.
def Bus.recover (bus : Bus) (message : RunnerMessage) (consumer : Consumer) (revision : Nat) : Bus :=
  match bus.subscriptions.get (consumer, message.destination) with
  | none => bus
  | some subscription =>
      if subscription.revision = revision ∧ subscription.size < bus.capacity then
        { bus with subscriptions := bus.subscriptions.put (consumer, message.destination) (subscription.recover message) }
      else bus

def Subscription.settle (subscription : Subscription) (id : MessageId) : Subscription :=
  ⟨subscription.messages.pop id, subscription.recoveredIds.filter fun other => other ≠ id, subscription.revision + 1⟩

-- acknowledge_many after the receipts are committed, for one message.
def Bus.settle (bus : Bus) (consumer : Consumer) (message : RunnerMessage) : Bus :=
  match bus.subscriptions.get (consumer, message.destination) with
  | none => bus
  | some subscription =>
      { bus with subscriptions :=
          bus.subscriptions.put (consumer, message.destination) (subscription.settle message.id) }

def Bus.settleAll (bus : Bus) (consumer : Consumer) (messages : List RunnerMessage) : Bus :=
  messages.foldl (fun bus message => bus.settle consumer message) bus

def Bus.subscribe (bus : Bus) (key : Key) : Bus :=
  match bus.subscriptions.get key with
  | none => { bus with subscriptions := bus.subscriptions.put key .empty }
  | some _ => bus

structure Batch where
  consumer : Consumer
  destination : Destination
  owners : List (RunnerId × Nat)

structure Pass where
  limit : Nat
  batches : List Batch
  recovering : Option (Batch × List RunnerMessage)

structure Ack where
  runner : RunnerId
  consumer : Consumer
  messages : List RunnerMessage
  committed : Bool

structure World where
  store : MessageStore
  buses : Table RunnerId Bus
  received : List (Consumer × RunnerMessage)
  passes : Nat → Option Pass
  acks : Nat → Option Ack

def empty : World := ⟨⟨.empty, []⟩, .empty, [], fun _ => none, fun _ => none⟩

def World.putPass (w : World) (pass : Nat) (state : Option Pass) : World :=
  { w with passes := fun other => if other = pass then state else w.passes other }

def World.putAck (w : World) (ack : Nat) (state : Option Ack) : World :=
  { w with acks := fun other => if other = ack then state else w.acks other }

def World.putBus (w : World) (runner : RunnerId) (bus : Bus) : World :=
  { w with buses := w.buses.put runner bus }

def World.subscription (w : World) (runner : RunnerId) (key : Key) : Option Subscription :=
  (w.buses.get runner).bind fun bus => bus.subscriptions.get key

def candidates (buses : Table RunnerId Bus) : List (Key × RunnerId × Nat) :=
  buses.rows.flatMap fun bus =>
    if bus.2.managed then
      (bus.2.subscriptions.filter fun _ subscription => subscription.size < bus.2.capacity).map fun entry =>
        (entry.1, bus.1, entry.2.revision)
    else []

def groups (buses : Table RunnerId Bus) : Dict Key (List (RunnerId × Nat)) :=
  (candidates buses).foldl
    (fun groups found => Dict.put found.1 ((Dict.get found.1 groups).getD [] ++ [found.2]) groups) []

def slices (owners : List (RunnerId × Nat)) : List (List (RunnerId × Nat)) :=
  (List.range ((owners.length + 63) / 64)).map fun i => (owners.drop (64 * i)).take 64

def reconcileBatches (buses : Table RunnerId Bus) : List Batch :=
  (groups buses).flatMap fun group => (slices group.2).map fun owners => ⟨group.1.1, group.1.2, owners⟩

inductive Event where
  | create (runner : RunnerId) (capacity : Nat) (managed : Bool)
  | subscribe (runner : RunnerId) (key : Key)
  | publish (message : RunnerMessage)
  | deliverCommitted (message : RunnerMessage)
  | receive (runner : RunnerId) (key : Key) (limit : Nat)
  | reconcile (pass : Nat)
  | readLocally (pass : Nat) (runner : RunnerId) (key : Key) (limit : Nat)
  | readPending (pass : Nat)
  | recover (pass : Nat)
  | endPass (pass : Nat)
  | acknowledge (ack : Nat) (runner : RunnerId) (consumer : Consumer) (messages : List RunnerMessage)
  | commitReceipts (ack : Nat)
  | settle (ack : Nat)
  | failAck (ack : Nat)

-- Between two awaits a coroutine runs alone. endPass is the end of a pass or an exception in it;
-- failAck is an exception, before its transaction has committed or on the way back from it.
def step (w : World) : Event → Option World
  | .create runner capacity managed =>
      if w.buses.get runner = none ∧ 1 ≤ capacity then some (w.putBus runner ⟨capacity, managed, .empty⟩) else none
  | .subscribe runner key => (w.buses.get runner).map fun bus => w.putBus runner (bus.subscribe key)
  | .publish message => (w.store.publish message).map fun store => { w with store }
  | .deliverCommitted message =>
      if w.store.accepts message then
        (w.buses.get message.runner).map fun bus => w.putBus message.runner (bus.deliverCommitted message)
      else none
  | .receive runner key limit =>
      match w.subscription runner key with
      | none => none
      | some subscription =>
          if 1 ≤ limit ∧ subscription.size ≠ 0 then
            some { w with received := w.received ++
              (subscription.messages.rows.take limit).map fun entry => (key.1, entry.2) }
          else none
  | .reconcile pass =>
      match w.passes pass with
      | some _ => none
      | none => some (w.putPass pass (some ⟨1, reconcileBatches w.buses, none⟩))
  | .readLocally pass runner key limit =>
      match w.passes pass, w.buses.get runner, w.subscription runner key with
      | none, some bus, some subscription =>
          if bus.managed = false ∧ subscription.size = 0 ∧ 1 ≤ limit then
            some (w.putPass pass (some
              ⟨min limit bus.capacity, [⟨key.1, key.2, [(runner, subscription.revision)]⟩], none⟩))
          else none
      | _, _, _ => none
  | .readPending pass =>
      match w.passes pass with
      | some ⟨limit, batch :: batches, none⟩ =>
          some (w.putPass pass (some ⟨limit, batches, some (batch,
            w.store.pendingBatch (batch.owners.map Prod.fst) batch.destination batch.consumer limit)⟩))
      | _ => none
  | .recover pass =>
      match w.passes pass with
      | some ⟨limit, batches, some (batch, message :: rest)⟩ =>
          let next := w.putPass pass (some ⟨limit, batches, some (batch, rest)⟩)
          match Dict.get message.runner batch.owners, w.buses.get message.runner with
          | some revision, some bus => some (next.putBus message.runner (bus.recover message batch.consumer revision))
          | _, _ => some next
      | some ⟨limit, batches, some (_, [])⟩ => some (w.putPass pass (some ⟨limit, batches, none⟩))
      | _ => none
  | .endPass pass => (w.passes pass).map fun _ => w.putPass pass none
  -- A consumer acknowledges what receive has returned to it.
  | .acknowledge ack runner consumer messages =>
      match w.acks ack with
      | some _ => none
      | none =>
          if messages ≠ [] ∧ (∀ message ∈ messages, message.runner = runner ∧ (consumer, message) ∈ w.received) then
            some (w.putAck ack (some ⟨runner, consumer, messages, false⟩))
          else none
  | .commitReceipts ack =>
      match w.acks ack with
      | some ⟨runner, consumer, messages, false⟩ =>
          match w.store.acknowledge runner (messages.map RunnerMessage.id) consumer with
          | none => some (w.putAck ack none)
          | some store => some { w.putAck ack (some ⟨runner, consumer, messages, true⟩) with store }
      | _ => none
  | .settle ack =>
      match w.acks ack with
      | some ⟨runner, consumer, messages, true⟩ =>
          (w.buses.get runner).map fun bus => (w.putAck ack none).putBus runner (bus.settleAll consumer messages)
      | _ => none
  | .failAck ack => (w.acks ack).map fun _ => w.putAck ack none

attribute [grind =] step

structure Moves (receipts : List (MessageId × Consumer)) (consumer : Consumer) (before after : Subscription) : Prop where
  revision : before.revision ≤ after.revision
  kept : after.revision = before.revision → ∀ id, before.messages.get id ≠ none → after.messages.get id ≠ none
  left : ∀ id, before.messages.get id ≠ none → after.messages.get id = none → (id, consumer) ∈ receipts

variable (receipts : List (MessageId × Consumer))

theorem moves_refl (consumer : Consumer) (subscription : Subscription) :
    Moves receipts consumer subscription subscription :=
  ⟨le_rfl, fun _ _ held => held, fun _ held gone => absurd gone held⟩

theorem moves_trans (consumer : Consumer) (a b c : Subscription) (first : Moves receipts consumer a b)
    (second : Moves receipts consumer b c) : Moves receipts consumer a c := by
  refine ⟨first.revision.trans second.revision, fun same id held => ?_, fun id held gone => ?_⟩
  · have low := first.revision
    have high := second.revision
    exact second.kept (by omega) id (first.kept (by omega) id held)
  · by_cases middle : b.messages.get id = none
    · exact first.left id held middle
    · exact second.left id middle gone

theorem moves_grown (consumer : Consumer) (before after : Subscription) (revision : after.revision = before.revision)
    (kept : ∀ id, before.messages.get id ≠ none → after.messages.get id ≠ none) : Moves receipts consumer before after :=
  ⟨revision.ge, fun _ => kept, fun id held gone => absurd gone (kept id held)⟩

structure BufferSound (store : MessageStore) (runner : RunnerId) (capacity : Nat) (key : Key) (subscription : Subscription) :
    Prop where
  bounded : subscription.size ≤ capacity
  rows : ∀ id message, subscription.messages.get id = some message →
    message.id = id ∧ message.runner = runner ∧ message.destination = key.2 ∧ store.accepts message

def BusMoves (receipts : List (MessageId × Consumer)) (before after : Bus) : Prop :=
  ∀ key subscription, before.subscriptions.get key = some subscription →
    ∃ later, after.subscriptions.get key = some later ∧ Moves receipts key.1 subscription later

def BusSound (store : MessageStore) (runner : RunnerId) (bus : Bus) : Prop :=
  ∀ key subscription, bus.subscriptions.get key = some subscription → BufferSound store runner bus.capacity key subscription

def World.buffered (w : World) (runner : RunnerId) (key : Key) (id : MessageId) : Prop :=
  ∃ subscription, w.subscription runner key = some subscription ∧ subscription.messages.get id ≠ none

-- The owner of a batch is a subscription that is still there, at the revision seen or a later one.
def Seen (w : World) (batch : Batch) (owner : RunnerId × Nat) : Prop :=
  ∃ subscription, w.subscription owner.1 (batch.consumer, batch.destination) = some subscription ∧
    owner.2 ≤ subscription.revision

structure ReadSound (w : World) (batch : Batch) (message : RunnerMessage) : Prop where
  destination : message.destination = batch.destination
  stored : w.store.messages.get message.id = some message
  fresh : ∀ revision, Dict.get message.runner batch.owners = some revision → ∃ subscription,
    w.subscription message.runner (batch.consumer, batch.destination) = some subscription ∧
    revision ≤ subscription.revision ∧ (subscription.revision = revision →
      (message.id, batch.consumer) ∈ w.store.receipts → subscription.messages.get message.id ≠ none)

structure PassSound (w : World) (pass : Pass) : Prop where
  waiting : ∀ batch ∈ pass.batches, ∀ owner ∈ batch.owners, Seen w batch owner
  recovering : ∀ batch messages, pass.recovering = some (batch, messages) → ∀ message ∈ messages, ReadSound w batch message

structure AckSound (w : World) (ack : Ack) : Prop where
  received : ∀ message ∈ ack.messages, message.runner = ack.runner ∧ (ack.consumer, message) ∈ w.received
  receipts : ack.committed = true → ∀ message ∈ ack.messages, (message.id, ack.consumer) ∈ w.store.receipts

structure ReceivedSound (w : World) (consumer : Consumer) (message : RunnerMessage) : Prop where
  accepted : w.store.accepts message
  buffered : (message.id, consumer) ∉ w.store.receipts → w.buffered message.runner (consumer, message.destination) message.id

structure Sound (w : World) : Prop where
  rows : ∀ id message, w.store.messages.get id = some message → message.id = id
  buses : ∀ runner bus, w.buses.get runner = some bus → BusSound w.store runner bus
  received : ∀ consumer message, (consumer, message) ∈ w.received → ReceivedSound w consumer message
  passes : ∀ id pass, w.passes id = some pass → PassSound w pass
  acks : ∀ id ack, w.acks id = some ack → AckSound w ack

structure Follows (w next : World) : Prop where
  rows : ∀ id message, w.store.messages.get id = some message → next.store.messages.get id = some message
  receipts : ∀ row ∈ w.store.receipts, row ∈ next.store.receipts
  receipted : ∀ id consumer, (id, consumer) ∈ next.store.receipts →
    (id, consumer) ∈ w.store.receipts ∨ ∃ message, (consumer, message) ∈ w.received ∧ message.id = id
  received : ∀ row ∈ w.received, row ∈ next.received
  moves : ∀ runner key subscription, w.subscription runner key = some subscription →
    ∃ later, next.subscription runner key = some later ∧ Moves w.store.receipts key.1 subscription later

theorem accepts_kept (before after : MessageStore)
    (rows : ∀ id message, before.messages.get id = some message → after.messages.get id = some message)
    (message : RunnerMessage) (accepted : before.accepts message) : after.accepts message := by
  obtain ⟨existing, found, same⟩ := accepted
  exact ⟨existing, rows _ _ found, same⟩

theorem bus_sound_kept (before after : MessageStore)
    (rows : ∀ id message, before.messages.get id = some message → after.messages.get id = some message)
    (runner : RunnerId) (bus : Bus) (sound : BusSound before runner bus) : BusSound after runner bus := by
  intro key subscription held
  obtain ⟨bounded, entries⟩ := sound key subscription held
  refine ⟨bounded, fun id message read => ?_⟩
  obtain ⟨same, owner, destination, accepted⟩ := entries id message read
  exact ⟨same, owner, destination, accepts_kept before after rows message accepted⟩

section Follow
variable (w next : World) (follows : Follows w next)
include follows

theorem buffered_follows (runner : RunnerId) (key : Key) (id : MessageId) (unsettled : (id, key.1) ∉ w.store.receipts)
    (buffered : w.buffered runner key id) : next.buffered runner key id := by
  obtain ⟨subscription, held, present⟩ := buffered
  obtain ⟨later, there, moves⟩ := follows.moves runner key subscription held
  exact ⟨later, there, fun gone => unsettled (moves.left id present gone)⟩

theorem received_follows (consumer : Consumer) (message : RunnerMessage) (sound : ReceivedSound w consumer message) :
    ReceivedSound next consumer message := by
  refine ⟨accepts_kept w.store next.store follows.rows message sound.accepted, fun unsettled => ?_⟩
  have before : (message.id, consumer) ∉ w.store.receipts := fun settled => unsettled (follows.receipts _ settled)
  exact buffered_follows w next follows _ (consumer, message.destination) message.id before (sound.buffered before)

theorem seen_follows (batch : Batch) (owner : RunnerId × Nat) (seen : Seen w batch owner) : Seen next batch owner := by
  obtain ⟨subscription, held, revision⟩ := seen
  obtain ⟨later, there, moves⟩ := follows.moves _ _ subscription held
  exact ⟨later, there, revision.trans moves.revision⟩

theorem read_follows (sound : Sound w) (batch : Batch) (message : RunnerMessage) (read : ReadSound w batch message) :
    ReadSound next batch message := by
  refine ⟨read.destination, follows.rows _ _ read.stored, fun revision owner => ?_⟩
  obtain ⟨subscription, held, low, fresh⟩ := read.fresh revision owner
  obtain ⟨later, there, moves⟩ := follows.moves _ _ subscription held
  have high := moves.revision
  refine ⟨later, there, low.trans high, fun same settled => ?_⟩
  apply moves.kept (by omega)
  have current : subscription.revision = revision := by omega
  by_cases old : (message.id, batch.consumer) ∈ w.store.receipts
  · exact fresh current old
  · cases follows.receipted _ _ settled with
    | inl before => exact absurd before old
    | inr acknowledged =>
        obtain ⟨other, taken, identical⟩ := acknowledged
        obtain ⟨⟨existing, found, content⟩, buffered⟩ := sound.received _ other taken
        rw [identical] at found buffered
        have whole := Option.some.inj (found.symm.trans read.stored)
        obtain ⟨runner, _, destination, _⟩ := whole ▸ content
        obtain ⟨found, present, nonempty⟩ := buffered old
        rw [← runner, ← destination, read.destination, held] at present
        exact Option.some.inj present ▸ nonempty

theorem pass_follows (sound : Sound w) (pass : Pass) (before : PassSound w pass) : PassSound next pass := by
  refine ⟨fun batch listed owner member => ?_, fun batch messages recovering message member => ?_⟩
  · exact seen_follows w next follows batch owner (before.waiting batch listed owner member)
  · exact read_follows w next follows sound batch message (before.recovering batch messages recovering message member)

theorem ack_follows (ack : Ack) (before : AckSound w ack) : AckSound next ack := by
  refine ⟨fun message member => ?_, fun committed message member => ?_⟩
  · obtain ⟨owner, taken⟩ := before.received message member
    exact ⟨owner, follows.received _ taken⟩
  · exact follows.receipts _ (before.receipts committed message member)

theorem sound_follows (sound : Sound w)
    (rows : ∀ id message, next.store.messages.get id = some message → message.id = id)
    (buses : ∀ runner bus, next.buses.get runner = some bus → BusSound next.store runner bus)
    (received : ∀ consumer message, (consumer, message) ∈ next.received →
      (consumer, message) ∈ w.received ∨ ReceivedSound next consumer message)
    (passes : ∀ id pass, next.passes id = some pass → w.passes id = some pass ∨ PassSound next pass)
    (acks : ∀ id ack, next.acks id = some ack → w.acks id = some ack ∨ AckSound next ack) : Sound next := by
  refine ⟨rows, buses, fun consumer message member => ?_, fun id pass held => ?_, fun id ack held => ?_⟩
  · cases received consumer message member with
    | inl old => exact received_follows w next follows consumer message (sound.received consumer message old)
    | inr fresh => exact fresh
  · cases passes id pass held with
    | inl old => exact pass_follows w next follows sound pass (sound.passes id pass old)
    | inr fresh => exact fresh
  · cases acks id ack held with
    | inl old => exact ack_follows w next follows ack (sound.acks id ack old)
    | inr fresh => exact fresh

end Follow

theorem empty_sound : Sound empty := by
  refine ⟨?_, ?_, ?_, ?_, ?_⟩
  · intro id message held
    cases held
  · intro runner bus held
    cases held
  · intro consumer message member
    cases member
  · intro id pass held
    cases held
  · intro id ack held
    cases held

end LlmperfOrchestrator.Runtime.Mailbox

import LlmperfOrchestrator.Runtime.MailboxDelivery

set_option autoImplicit false

namespace LlmperfOrchestrator.Runtime.Mailbox

open Tables Storage Runs

inductive PassEvent where
  | mailbox (event : Event)
  | close (runner : RunnerId)

def passStep (w : World) : PassEvent → Option World
  | .mailbox event => step w event
  | .close runner => some { w with buses := w.buses.pop runner }

section Events

variable (pass : Nat) (runner : RunnerId) (key : Key)

def Allowed (w : World) : PassEvent → Prop
  | .close other => other ≠ runner
  | .mailbox (.commitReceipts ack) => ∀ next, step w (.commitReceipts ack) = some next → next.store.receipts = w.store.receipts
  | .mailbox (.settle ack) => ∀ state, w.acks ack = some state → state.runner ≠ runner
  | .mailbox (.endPass other) => other ≠ pass
  | .mailbox _ => True

def Fills : PassEvent → Prop
  | .mailbox (.deliverCommitted message) => message.runner = runner ∧ message.destination = key.2
  | .mailbox (.recover other) => other ≠ pass
  | .mailbox _ | .close _ => False

end Events

structure Grown (runner : RunnerId) (key : Key) (bus : Bus) (before : Subscription) (next : World) (later : Bus)
    (after : Subscription) : Prop where
  held : next.buses.get runner = some later
  there : later.subscriptions.get key = some after
  capacity : later.capacity = bus.capacity
  revision : after.revision = before.revision
  kept : ∀ id, before.messages.get id ≠ none → after.messages.get id ≠ none
  size : before.size ≤ after.size

theorem setdefault_size (subscription : Subscription) (message : RunnerMessage) :
    subscription.size ≤ (subscription.setdefault message).size := by
  unfold Subscription.setdefault
  cases found : subscription.messages.get message.id with
  | some _ => exact Nat.le_refl _
  | none =>
      simp only [Subscription.size, Table.put]
      rw [dict_put_absent _ _ _ found, List.length_append]
      exact Nat.le_add_right _ _

theorem recover_size (subscription : Subscription) (message : RunnerMessage) :
    (subscription.recover message).size = (subscription.setdefault message).size := by
  rw [Subscription.size, recover_messages, Subscription.size]

section Growth

variable (runner : RunnerId) (key : Key) (w next : World) (bus : Bus) (before : Subscription)
  (held : w.buses.get runner = some bus) (there : bus.subscriptions.get key = some before)
include held there

theorem grown_same (same : next.buses.get runner = w.buses.get runner) : Grown runner key bus before next bus before :=
  ⟨same.trans held, there, rfl, rfl, fun _ present => present, Nat.le_refl _⟩

omit held in
theorem grown_subscribe (other : Key) (same : next.buses.get runner = some (bus.subscribe other)) :
    Grown runner key bus before next (bus.subscribe other) before := by
  refine ⟨same, ?_, ?_, rfl, fun _ present => present, Nat.le_refl _⟩
  · rw [Bus.subscribe]
    cases found : bus.subscriptions.get other with
    | some _ => exact there
    | none =>
        have apart : key ≠ other := fun equal => by
          rw [equal, found] at there
          cases there
        exact (table_get_put_other _ _ _ _ apart).trans there
  · rw [Bus.subscribe]
    cases bus.subscriptions.get other <;> rfl

omit held in
theorem grown_deliver (message : RunnerMessage) (same : next.buses.get runner = some (bus.deliverCommitted message)) :
    ∃ after, Grown runner key bus before next (bus.deliverCommitted message) after ∧
      (after = before ∨ message.destination = key.2) := by
  refine ⟨_, ⟨same, (table_get_update bus.subscriptions _ key).trans (congrArg _ there), rfl, ?_, ?_, ?_⟩, ?_⟩
  · dsimp only
    split
    · exact setdefault_revision before message
    · rfl
  · intro id present
    dsimp only
    split
    · exact setdefault_messages before message id present
    · exact present
  · dsimp only
    split
    · exact setdefault_size before message
    · exact Nat.le_refl _
  · dsimp only
    by_cases room : key.2 = message.destination ∧ before.size < bus.capacity
    · exact .inr room.1.symm
    · exact .inl (if_neg room)

omit held in
theorem grown_recover (message : RunnerMessage) (consumer : Consumer) (revision : Nat)
    (same : next.buses.get runner = some (bus.recover message consumer revision)) :
    ∃ after, Grown runner key bus before next (bus.recover message consumer revision) after ∧
      (after = before ∨ (consumer, message.destination) = key) := by
  cases recover_cases bus message consumer revision with
  | inl quiet =>
      rw [quiet] at same ⊢
      exact ⟨before, ⟨same, there, rfl, rfl, fun _ present => present, Nat.le_refl _⟩, .inl rfl⟩
  | inr inserted =>
      obtain ⟨subscription, found, _, _, written⟩ := inserted
      rw [written] at same ⊢
      by_cases here : (consumer, message.destination) = key
      · rw [here, there] at found
        cases found
        refine ⟨before.recover message, ⟨same, ?_, rfl, recover_revision before message, ?_, ?_⟩, .inr here⟩
        · rw [here]
          exact table_get_put_self _ _ _
        · intro id present
          rw [recover_messages]
          exact setdefault_messages before message id present
        · rw [recover_size]
          exact setdefault_size before message
      · exact ⟨before, ⟨same, (table_get_put_other _ _ _ _ (Ne.symm here)).trans there, rfl, rfl, fun _ present => present,
          Nat.le_refl _⟩, .inl rfl⟩

end Growth

structure Pending (store : MessageStore) (runner : RunnerId) (key : Key) (message : RunnerMessage) : Prop where
  stored : store.messages.get message.id = some message
  owner : message.runner = runner
  destination : message.destination = key.2
  unsettled : (message.id, key.1) ∉ store.receipts

structure PassEffect (pass : Nat) (runner : RunnerId) (key : Key) (w next : World) (event : PassEvent) (bus : Bus)
    (before : Subscription) : Prop where
  grows : ∃ later after, Grown runner key bus before next later after ∧
    (after = before ∨ Fills pass runner key event ∨ event = .mailbox (.recover pass))
  receipts : next.store.receipts = w.store.receipts
  rows : ∀ id message, w.store.messages.get id = some message → next.store.messages.get id = some message
  quiet : (∀ message, event ≠ .mailbox (.publish message)) → next.store = w.store
  waits : event ≠ .mailbox (.readPending pass) → event ≠ .mailbox (.recover pass) → w.passes pass ≠ none →
    next.passes pass = w.passes pass

def Keyed (store : MessageStore) : Prop := ∀ id message, store.messages.get id = some message → message.id = id

theorem publish_keyed (before after : MessageStore) (message : RunnerMessage) (keyed : Keyed before)
    (published : before.publish message = some after) : Keyed after := by
  unfold MessageStore.publish at published
  split at published
  · cases published
    intro id row read
    cases table_put_cases _ _ _ _ _ read with
    | inl fresh =>
        obtain ⟨rfl, rfl⟩ := fresh
        rfl
    | inr old => exact keyed id row old.2
  · split at published
    · cases published
      exact keyed
    · cases published

theorem pass_step_keyed (w next : World) (event : PassEvent) (keyed : Keyed w.store) (taken : passStep w event = some next) :
    Keyed next.store := by
  cases event with
  | close runner =>
      cases taken
      exact keyed
  | mailbox event =>
      cases event with
      | publish message =>
          obtain ⟨store, published, rfl⟩ := Option.map_eq_some_iff.mp taken
          exact publish_keyed w.store store message keyed published
      | commitReceipts ack =>
          simp only [passStep, step] at taken
          split at taken
          · split at taken
            · cases taken
              exact keyed
            · rename_i store acknowledged
              cases taken
              obtain ⟨same, _⟩ := acknowledge_receipts w.store store _ _ _ acknowledged
              intro id message read
              rw [same] at read
              exact keyed id message read
          · cases taken
      | create | subscribe | deliverCommitted | receive | reconcile | readLocally | readPending | recover | endPass | acknowledge
      | settle | failAck =>
          simp only [passStep, step] at taken
          have same : next.store = w.store := by
            repeat' split at taken
            all_goals first
              | (obtain ⟨_, _, rfl⟩ := Option.map_eq_some_iff.mp taken; rfl)
              | (cases taken; rfl)
              | cases taken
          rw [same]
          exact keyed

theorem store_same (after before : MessageStore) (messages : after.messages = before.messages)
    (receipts : after.receipts = before.receipts) : after = before := by
  cases after
  cases before
  cases messages
  cases receipts
  rfl

theorem put_pass_apart (w : World) (pass other : Nat) (state : Option Pass) (apart : other ≠ pass) :
    (w.putPass other state).passes pass = w.passes pass := by
  simp [World.putPass, Ne.symm apart]

section Effects

variable (pass : Nat) (runner : RunnerId) (key : Key) (w next : World) (bus : Bus) (before : Subscription)
  (held : w.buses.get runner = some bus) (there : bus.subscriptions.get key = some before)

theorem same_store_effect (event : PassEvent) (store : next.store = w.store)
    (grows : ∃ later after, Grown runner key bus before next later after ∧
      (after = before ∨ Fills pass runner key event ∨ event = .mailbox (.recover pass)))
    (waits : event ≠ .mailbox (.readPending pass) → event ≠ .mailbox (.recover pass) → w.passes pass ≠ none →
      next.passes pass = w.passes pass) : PassEffect pass runner key w next event bus before := by
  refine ⟨grows, by rw [store], ?_, fun _ => store, waits⟩
  intro id message read
  rw [store]
  exact read

include held there

theorem quiet_effect (event : PassEvent) (store : next.store = w.store) (buses : next.buses.get runner = w.buses.get runner)
    (waits : event ≠ .mailbox (.readPending pass) → event ≠ .mailbox (.recover pass) → w.passes pass ≠ none →
      next.passes pass = w.passes pass) : PassEffect pass runner key w next event bus before :=
  same_store_effect pass runner key w next bus before event store
    ⟨bus, before, grown_same runner key w next bus before held there buses, .inl rfl⟩ waits

theorem publish_effect (message : RunnerMessage) (store : MessageStore) (published : w.store.publish message = some store) :
    PassEffect pass runner key w { w with store := store } (.mailbox (.publish message)) bus before := by
  have grows : ∃ later after, Grown runner key bus before { w with store := store } later after ∧
      (after = before ∨ Fills pass runner key (.mailbox (.publish message)) ∨
        PassEvent.mailbox (.publish message) = .mailbox (.recover pass)) :=
    ⟨bus, before, grown_same runner key w _ bus before held there rfl, .inl rfl⟩
  unfold MessageStore.publish at published
  split at published
  · rename_i absent
    cases published
    refine ⟨grows, rfl, ?_, fun other => absurd rfl (other message), fun _ _ _ => rfl⟩
    intro id row read
    have apart : id ≠ message.id := fun same => by
      rw [same, absent] at read
      cases read
    exact (table_get_put_other _ _ _ _ apart).trans read
  · split at published
    · cases published
      exact ⟨grows, rfl, fun _ _ read => read, fun _ => rfl, fun _ _ _ => rfl⟩
    · cases published

theorem put_bus_effect (event : PassEvent) (owner : RunnerId) (changed : Bus)
    (store : next.store = w.store) (buses : next.buses = w.buses.put owner changed)
    (mine : owner = runner → ∃ later after, Grown runner key bus before next later after ∧
      (after = before ∨ Fills pass runner key event ∨ event = .mailbox (.recover pass)))
    (waits : event ≠ .mailbox (.readPending pass) → event ≠ .mailbox (.recover pass) → w.passes pass ≠ none →
      next.passes pass = w.passes pass) : PassEffect pass runner key w next event bus before := by
  by_cases same : owner = runner
  · exact same_store_effect pass runner key w next bus before event store (mine same) waits
  · apply quiet_effect pass runner key w next bus before held there event store _ waits
    rw [buses, table_get_put_other _ _ _ _ (Ne.symm same)]

theorem create_pass_effect (other : RunnerId) (capacity : Nat) (managed : Bool)
    (taken : passStep w (.mailbox (.create other capacity managed)) = some next) :
    PassEffect pass runner key w next (.mailbox (.create other capacity managed)) bus before := by
  obtain ⟨⟨fresh, _⟩, same⟩ := Option.ite_none_right_eq_some.mp taken
  cases same
  refine quiet_effect pass runner key w _ bus before held there _ rfl ?_ fun _ _ _ => rfl
  have apart : runner ≠ other := fun same => by
    rw [← same, held] at fresh
    cases fresh
  exact table_get_put_other _ _ _ _ apart

theorem subscribe_pass_effect (other : RunnerId) (place : Key) (taken : passStep w (.mailbox (.subscribe other place)) = some next) :
    PassEffect pass runner key w next (.mailbox (.subscribe other place)) bus before := by
  obtain ⟨current, found, rfl⟩ := Option.map_eq_some_iff.mp taken
  refine put_bus_effect pass runner key w _ bus before held there _ other (current.subscribe place) rfl rfl ?_ ?_
  · intro mine
    subst mine
    cases Option.some.inj (held.symm.trans found)
    exact ⟨_, before, grown_subscribe other key _ bus before there place (table_get_put_self _ _ _), .inl rfl⟩
  · exact fun _ _ _ => rfl

theorem deliver_committed_pass_effect (message : RunnerMessage)
    (taken : passStep w (.mailbox (.deliverCommitted message)) = some next) :
    PassEffect pass runner key w next (.mailbox (.deliverCommitted message)) bus before := by
  simp only [passStep, step] at taken
  split at taken
  · obtain ⟨current, found, rfl⟩ := Option.map_eq_some_iff.mp taken
    refine put_bus_effect pass runner key w _ bus before held there _ message.runner _ rfl rfl ?_ ?_
    · intro mine
      rw [mine] at found ⊢
      cases Option.some.inj (held.symm.trans found)
      obtain ⟨after, grown, change⟩ := grown_deliver runner key (w.putBus runner (bus.deliverCommitted message)) bus before
        there message (table_get_put_self _ _ _)
      refine ⟨_, after, grown, ?_⟩
      exact change.imp_right fun destination => .inl ⟨mine, destination⟩
    · exact fun _ _ _ => rfl
  · cases taken

theorem receive_pass_effect (other : RunnerId) (place : Key) (limit : Nat)
    (taken : passStep w (.mailbox (.receive other place limit)) = some next) :
    PassEffect pass runner key w next (.mailbox (.receive other place limit)) bus before := by
  simp only [passStep, step] at taken
  split at taken
  · cases taken
  · obtain ⟨_, same⟩ := Option.ite_none_right_eq_some.mp taken
    cases same
    exact quiet_effect pass runner key w _ bus before held there _ rfl rfl fun _ _ _ => rfl

theorem reconcile_pass_effect (other : Nat) (taken : passStep w (.mailbox (.reconcile other)) = some next) :
    PassEffect pass runner key w next (.mailbox (.reconcile other)) bus before := by
  simp only [passStep, step] at taken
  split at taken
  · cases taken
  · rename_i idle
    cases taken
    refine quiet_effect pass runner key w _ bus before held there _ rfl rfl ?_
    intro _ _ running
    exact put_pass_apart _ pass other _ fun same => running (same ▸ idle)

theorem read_locally_pass_effect (other : Nat) (place : RunnerId) (runnerKey : Key) (limit : Nat)
    (taken : passStep w (.mailbox (.readLocally other place runnerKey limit)) = some next) :
    PassEffect pass runner key w next (.mailbox (.readLocally other place runnerKey limit)) bus before := by
  simp only [passStep, step] at taken
  split at taken
  · rename_i idle _ _
    obtain ⟨_, same⟩ := Option.ite_none_right_eq_some.mp taken
    cases same
    refine quiet_effect pass runner key w _ bus before held there _ rfl rfl ?_
    intro _ _ running
    exact put_pass_apart _ pass other _ fun same => running (same ▸ idle)
  · cases taken

theorem read_pending_pass_effect (other : Nat) (taken : passStep w (.mailbox (.readPending other)) = some next) :
    PassEffect pass runner key w next (.mailbox (.readPending other)) bus before := by
  simp only [passStep, step] at taken
  split at taken
  · cases taken
    refine quiet_effect pass runner key w _ bus before held there _ rfl rfl ?_
    intro elsewhere _ _
    exact put_pass_apart _ pass other _ fun same => elsewhere (by rw [same])
  · cases taken

theorem recover_pass_effect (other : Nat) (taken : passStep w (.mailbox (.recover other)) = some next) :
    PassEffect pass runner key w next (.mailbox (.recover other)) bus before := by
  simp only [passStep, step] at taken
  split at taken
  · rename_i limit batches batch message rest running
    split at taken
    · rename_i revision current _ found
      cases taken
      refine put_bus_effect pass runner key w _ bus before held there _ message.runner _ rfl rfl ?_ ?_
      · intro mine
        rw [mine] at found ⊢
        cases Option.some.inj (held.symm.trans found)
        obtain ⟨after, grown, _⟩ := grown_recover runner key
          ((w.putPass other (some ⟨limit, batches, some (batch, rest)⟩)).putBus runner
            (bus.recover message batch.consumer revision)) bus before there message batch.consumer revision
          (table_get_put_self _ _ _)
        refine ⟨_, after, grown, .inr ?_⟩
        by_cases own : other = pass
        · exact .inr (by rw [own])
        · exact .inl own
      · intro _ elsewhere _
        exact put_pass_apart _ pass other _ fun same => elsewhere (by rw [same])
    · cases taken
      refine quiet_effect pass runner key w _ bus before held there _ rfl rfl ?_
      intro _ elsewhere _
      exact put_pass_apart _ pass other _ fun same => elsewhere (by rw [same])
  · cases taken
    refine quiet_effect pass runner key w _ bus before held there _ rfl rfl ?_
    intro _ elsewhere _
    exact put_pass_apart _ pass other _ fun same => elsewhere (by rw [same])
  · cases taken

theorem end_pass_pass_effect (other : Nat) (allowed : Allowed pass runner w (.mailbox (.endPass other)))
    (taken : passStep w (.mailbox (.endPass other)) = some next) :
    PassEffect pass runner key w next (.mailbox (.endPass other)) bus before := by
  obtain ⟨_, _, rfl⟩ := Option.map_eq_some_iff.mp taken
  refine quiet_effect pass runner key w _ bus before held there _ rfl rfl ?_
  intro _ _ _
  exact put_pass_apart _ pass other _ allowed

theorem acknowledge_pass_effect (ack : Nat) (other : RunnerId) (consumer : Consumer) (messages : List RunnerMessage)
    (taken : passStep w (.mailbox (.acknowledge ack other consumer messages)) = some next) :
    PassEffect pass runner key w next (.mailbox (.acknowledge ack other consumer messages)) bus before := by
  simp only [passStep, step] at taken
  split at taken
  · cases taken
  · obtain ⟨_, same⟩ := Option.ite_none_right_eq_some.mp taken
    cases same
    exact quiet_effect pass runner key w _ bus before held there _ rfl rfl fun _ _ _ => rfl

theorem commit_receipts_pass_effect (ack : Nat) (allowed : Allowed pass runner w (.mailbox (.commitReceipts ack)))
    (taken : passStep w (.mailbox (.commitReceipts ack)) = some next) :
    PassEffect pass runner key w next (.mailbox (.commitReceipts ack)) bus before := by
  have receipts := allowed next taken
  simp only [passStep, step] at taken
  split at taken
  · split at taken
    · cases taken
      exact quiet_effect pass runner key w _ bus before held there _ rfl rfl fun _ _ _ => rfl
    · rename_i store acknowledged
      cases taken
      obtain ⟨same, _⟩ := acknowledge_receipts w.store store _ _ _ acknowledged
      refine quiet_effect pass runner key w _ bus before held there _ ?_ rfl fun _ _ _ => rfl
      exact store_same store w.store same receipts
  · cases taken

theorem settle_pass_effect (ack : Nat) (allowed : Allowed pass runner w (.mailbox (.settle ack)))
    (taken : passStep w (.mailbox (.settle ack)) = some next) :
    PassEffect pass runner key w next (.mailbox (.settle ack)) bus before := by
  simp only [passStep, step] at taken
  split at taken
  · rename_i owner consumer messages waiting
    obtain ⟨current, found, rfl⟩ := Option.map_eq_some_iff.mp taken
    refine put_bus_effect pass runner key w _ bus before held there _ owner _ rfl rfl ?_ fun _ _ _ => rfl
    exact fun mine => absurd mine (allowed _ waiting)
  · cases taken

theorem pass_effect (event : PassEvent) (allowed : Allowed pass runner w event) (taken : passStep w event = some next) :
    PassEffect pass runner key w next event bus before := by
  cases event with
  | close other =>
      cases taken
      refine quiet_effect pass runner key w _ bus before held there _ rfl ?_ fun _ _ _ => rfl
      exact (table_get_pop _ _ _).trans (if_neg (Ne.symm allowed))
  | mailbox event =>
      cases event with
      | create other capacity managed =>
          exact create_pass_effect pass runner key w next bus before held there other capacity managed taken
      | subscribe other place =>
          exact subscribe_pass_effect pass runner key w next bus before held there other place taken
      | publish message =>
          obtain ⟨store, published, rfl⟩ := Option.map_eq_some_iff.mp taken
          exact publish_effect pass runner key w bus before held there message store published
      | deliverCommitted message =>
          exact deliver_committed_pass_effect pass runner key w next bus before held there message taken
      | receive other place limit =>
          exact receive_pass_effect pass runner key w next bus before held there other place limit taken
      | reconcile other =>
          exact reconcile_pass_effect pass runner key w next bus before held there other taken
      | readLocally other place runnerKey limit =>
          exact read_locally_pass_effect pass runner key w next bus before held there other place runnerKey limit taken
      | readPending other =>
          exact read_pending_pass_effect pass runner key w next bus before held there other taken
      | recover other =>
          exact recover_pass_effect pass runner key w next bus before held there other taken
      | endPass other =>
          exact end_pass_pass_effect pass runner key w next bus before held there other allowed taken
      | acknowledge ack other consumer messages =>
          exact acknowledge_pass_effect pass runner key w next bus before held there ack other consumer messages taken
      | commitReceipts ack =>
          exact commit_receipts_pass_effect pass runner key w next bus before held there ack allowed taken
      | settle ack =>
          exact settle_pass_effect pass runner key w next bus before held there ack allowed taken
      | failAck ack =>
          obtain ⟨_, _, rfl⟩ := Option.map_eq_some_iff.mp taken
          exact quiet_effect pass runner key w _ bus before held there _ rfl rfl fun _ _ _ => rfl

end Effects

end LlmperfOrchestrator.Runtime.Mailbox

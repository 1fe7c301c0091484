import LlmperfOrchestrator.Runtime.MailboxSteps

set_option autoImplicit false

namespace LlmperfOrchestrator.Runtime.Mailbox

open Tables Storage Runs

variable (w next : World)

theorem subscribe_event_sound (sound : Sound w) (runner : RunnerId) (key : Key)
    (taken : step w (.subscribe runner key) = some next) : Sound next ∧ Follows w next := by
  obtain ⟨bus, held, rfl⟩ := Option.map_eq_some_iff.mp taken
  apply bus_step w _ sound runner bus (bus.subscribe key) held
  · exact subscribe_moves w.store.receipts bus key
  · exact subscribe_sound w.store runner bus key (sound.buses runner bus held)
  · rfl
  · rfl
  · rfl
  · exact fun _ _ kept => .inl kept
  · exact fun _ _ kept => .inl kept

theorem deliver_committed_event_sound (sound : Sound w) (message : RunnerMessage)
    (taken : step w (.deliverCommitted message) = some next) : Sound next ∧ Follows w next := by
  rw [step] at taken
  split at taken
  · rename_i accepted
    obtain ⟨bus, held, rfl⟩ := Option.map_eq_some_iff.mp taken
    apply bus_step w _ sound message.runner bus (bus.deliverCommitted message) held
    · exact deliver_moves w.store.receipts bus message
    · exact deliver_sound w.store message.runner bus message rfl accepted (sound.buses message.runner bus held)
    · rfl
    · rfl
    · rfl
    · exact fun _ _ kept => .inl kept
    · exact fun _ _ kept => .inl kept
  · cases taken

theorem receive_event_sound (sound : Sound w) (runner : RunnerId) (key : Key) (limit : Nat)
    (taken : step w (.receive runner key limit) = some next) : Sound next ∧ Follows w next := by
  rw [step] at taken
  split at taken
  · cases taken
  · rename_i subscription held
    obtain ⟨_, same⟩ := Option.ite_none_right_eq_some.mp taken
    cases same
    exact receive_step w sound runner key limit subscription held _ rfl

theorem reconcile_event_sound (sound : Sound w) (pass : Nat) (taken : step w (.reconcile pass) = some next) :
    Sound next ∧ Follows w next := by
  rw [step] at taken
  split at taken
  · cases taken
  · cases taken
    apply put_pass_step w sound pass
    intro found same
    cases same
    refine ⟨fun batch listed owner owned => reconcile_batches_seen w batch listed owner owned, ?_⟩
    intro batch messages none
    cases none

theorem read_locally_event_sound (sound : Sound w) (pass : Nat) (runner : RunnerId) (key : Key) (limit : Nat)
    (taken : step w (.readLocally pass runner key limit) = some next) : Sound next ∧ Follows w next := by
  rw [step] at taken
  split at taken
  · rename_i bus subscription idle there held
    obtain ⟨_, same⟩ := Option.ite_none_right_eq_some.mp taken
    cases same
    apply put_pass_step w sound pass
    intro found same
    cases same
    refine ⟨fun batch listed owner owned => ?_, ?_⟩
    · rw [List.mem_singleton.mp listed] at owned ⊢
      rw [List.mem_singleton.mp owned]
      exact ⟨subscription, held, le_rfl⟩
    · intro batch messages none
      cases none
  · cases taken

theorem read_pending_event_sound (sound : Sound w) (pass : Nat) (taken : step w (.readPending pass) = some next) :
    Sound next ∧ Follows w next := by
  rw [step] at taken
  split at taken
  · rename_i limit batch batches held
    cases taken
    apply put_pass_step w sound pass
    intro found same
    cases same
    exact read_pending_step w sound pass limit batch batches held
  · cases taken

theorem recover_event_sound (sound : Sound w) (pass : Nat) (taken : step w (.recover pass) = some next) :
    Sound next ∧ Follows w next := by
  rw [step] at taken
  split at taken
  · rename_i limit batches batch message rest held
    obtain ⟨quiet, inserted⟩ := recover_step w sound pass limit batches batch message rest held
    dsimp only at taken
    split at taken
    · rename_i revision bus _ there
      cases taken
      exact inserted revision bus there
    · cases taken
      exact quiet
  · rename_i limit batches batch held
    cases taken
    apply put_pass_step w sound pass
    intro found same
    cases same
    refine ⟨(sound.passes pass _ held).waiting, ?_⟩
    intro batch messages none
    cases none
  · cases taken

theorem acknowledge_event_sound (sound : Sound w) (ack : Nat) (runner : RunnerId) (consumer : Consumer)
    (messages : List RunnerMessage) (taken : step w (.acknowledge ack runner consumer messages) = some next) :
    Sound next ∧ Follows w next := by
  rw [step] at taken
  split at taken
  · cases taken
  · obtain ⟨⟨_, received⟩, same⟩ := Option.ite_none_right_eq_some.mp taken
    cases same
    apply put_ack_step w sound ack
    intro found same
    cases same
    exact ⟨received, fun committed => by cases committed⟩

theorem commit_receipts_event_sound (sound : Sound w) (ack : Nat) (taken : step w (.commitReceipts ack) = some next) :
    Sound next ∧ Follows w next := by
  rw [step] at taken
  split at taken
  · rename_i runner consumer messages held
    split at taken
    · cases taken
      exact put_ack_step w sound ack none (fun _ none => by cases none)
    · rename_i store acknowledged
      cases taken
      exact commit_receipts_step w sound ack runner consumer messages held store acknowledged
  · cases taken

theorem settle_event_sound (sound : Sound w) (ack : Nat) (taken : step w (.settle ack) = some next) : Sound next ∧ Follows w next := by
  rw [step] at taken
  split at taken
  · rename_i runner consumer messages held
    obtain ⟨bus, there, rfl⟩ := Option.map_eq_some_iff.mp taken
    exact settle_step w sound ack runner consumer messages held bus there
  · cases taken

theorem step_sound (event : Event) (sound : Sound w) (taken : step w event = some next) : Sound next ∧ Follows w next := by
  cases event with
  | create runner capacity managed =>
      obtain ⟨⟨fresh, _⟩, same⟩ := Option.ite_none_right_eq_some.mp taken
      cases same
      exact create_step w sound runner fresh capacity managed
  | subscribe runner key => exact subscribe_event_sound w next sound runner key taken
  | publish message =>
      obtain ⟨store, published, rfl⟩ := Option.map_eq_some_iff.mp taken
      exact publish_step w sound message store published
  | deliverCommitted message => exact deliver_committed_event_sound w next sound message taken
  | receive runner key limit => exact receive_event_sound w next sound runner key limit taken
  | reconcile pass => exact reconcile_event_sound w next sound pass taken
  | readLocally pass runner key limit => exact read_locally_event_sound w next sound pass runner key limit taken
  | readPending pass => exact read_pending_event_sound w next sound pass taken
  | recover pass => exact recover_event_sound w next sound pass taken
  | endPass pass =>
      obtain ⟨found, held, rfl⟩ := Option.map_eq_some_iff.mp taken
      exact put_pass_step w sound pass none (fun _ none => by cases none)
  | acknowledge ack runner consumer messages => exact acknowledge_event_sound w next sound ack runner consumer messages taken
  | commitReceipts ack => exact commit_receipts_event_sound w next sound ack taken
  | settle ack => exact settle_event_sound w next sound ack taken
  | failAck ack =>
      obtain ⟨found, held, rfl⟩ := Option.map_eq_some_iff.mp taken
      exact put_ack_step w sound ack none (fun _ none => by cases none)

theorem receipt_buffers (event : Event) (ack : Nat) (kind : event = .failAck ack ∨ event = .commitReceipts ack)
    (taken : step w event = some next) : next.buses = w.buses := by
  cases kind with
  | inl fails =>
      subst fails
      obtain ⟨found, held, rfl⟩ := Option.map_eq_some_iff.mp taken
      rfl
  | inr commits =>
      subst commits
      rw [step] at taken
      split at taken
      · split at taken
        · cases taken
          rfl
        · cases taken
          rfl
      · cases taken

theorem recover_inserts (bus : Bus) (message : RunnerMessage) (consumer : Consumer) (revision : Nat) (key : Key)
    (before after : Subscription) (held : bus.subscriptions.get key = some before)
    (later : (bus.recover message consumer revision).subscriptions.get key = some after) (id : MessageId)
    (absent : before.messages.get id = none) (present : after.messages.get id ≠ none) :
    key = (consumer, message.destination) ∧ id = message.id ∧ before.revision = revision := by
  have changed : after ≠ before := fun same => present (same ▸ absent)
  cases recover_cases bus message consumer revision with
  | inl unchanged =>
      rw [unchanged] at later
      exact absurd (Option.some.inj (later.symm.trans held)) changed
  | inr inserted =>
      obtain ⟨found, reading, seen, _, written⟩ := inserted
      rw [written] at later
      by_cases here : key = (consumer, message.destination)
      · rw [here, reading] at held
        rw [here, table_get_put_self] at later
        cases held
        cases later
        refine ⟨here, ?_, seen⟩
        by_contra other
        rw [recover_messages] at present
        unfold Subscription.setdefault at present
        split at present
        · rw [table_get_put_other _ _ _ _ other] at present
          exact present absent
        · exact present absent
      · rw [table_get_put_other _ _ _ _ here] at later
        exact absurd (Option.some.inj (later.symm.trans held)) changed

theorem recover_present (bus : Bus) (message : RunnerMessage) (key : Key) (subscription : Subscription)
    (held : bus.subscriptions.get key = some subscription) (destination : message.destination = key.2)
    (room : subscription.size < bus.capacity) : ∃ after,
      (bus.recover message key.1 subscription.revision).subscriptions.get key = some after ∧
        after.messages.get message.id ≠ none := by
  have here : (key.1, message.destination) = key := by rw [destination]
  refine ⟨subscription.recover message, ?_, ?_⟩
  · simp only [Bus.recover, here, held, room, and_self, if_true, table_get_put_self]
  · unfold Subscription.recover
    cases found : subscription.messages.get message.id with
    | none =>
        rw [table_get_put_self]
        exact Option.some_ne_none message
    | some other =>
        rw [found]
        exact Option.some_ne_none other

theorem recover_unsettled (sound : Sound w) (pass : Nat) (taken : step w (.recover pass) = some next) (runner : RunnerId)
    (key : Key) (before after : Subscription) (held : w.subscription runner key = some before)
    (later : next.subscription runner key = some after) (id : MessageId) (absent : before.messages.get id = none)
    (present : after.messages.get id ≠ none) : (id, key.1) ∉ w.store.receipts := by
  have unchanged : next.subscription runner key ≠ w.subscription runner key := by
    rw [later, held]
    exact fun same => present (Option.some.inj same ▸ absent)
  rw [step] at taken
  split at taken
  · rename_i limit batches batch message rest running
    dsimp only at taken
    split at taken
    · rename_i revision bus owner there
      cases taken
      have read := (sound.passes pass _ running).recovering batch _ rfl message List.mem_cons_self
      obtain ⟨subscription, current, _, fresh⟩ := read.fresh revision owner
      by_cases mine : runner = message.runner
      · subst mine
        have reading : bus.subscriptions.get key = some before := by
          rw [World.subscription, there] at held
          exact held
        rw [World.subscription, World.putBus, table_get_put_self] at later
        obtain ⟨rfl, rfl, seen⟩ := recover_inserts bus message batch.consumer revision key before after reading later id absent
          present
        rw [← read.destination, held] at current
        cases current
        exact fun settled => fresh seen settled absent
      · refine absurd ?_ unchanged
        rw [World.subscription, World.putBus, table_get_put_other _ _ _ _ mine]
        rfl
    · cases taken
      exact absurd rfl unchanged
  · cases taken
    exact absurd rfl unchanged
  · cases taken

structure SubscriptionDelivery (store : MessageStore) (runner : RunnerId) (bus : Bus) (key : Key)
    (subscription : Subscription) : Prop where
  bounded : subscription.size ≤ bus.capacity
  kept : ∀ message, store.messages.get message.id = some message → message.runner = runner → message.destination = key.2 →
    (message.id, key.1) ∉ store.receipts → subscription.messages.get message.id ≠ none ∨
      message ∈ store.pending runner key.2 key.1 store.messages.rows.length
  repaired : subscription.size < bus.capacity → ∀ limit, ∀ message ∈ store.pending runner key.2 key.1 limit, ∃ after,
    (bus.recover message key.1 subscription.revision).subscriptions.get key = some after ∧
      after.messages.get message.id ≠ none

structure StepDelivery (w : World) (event : Event) (next : World) : Prop where
  stored : ∀ id message, w.store.messages.get id = some message → next.store.messages.get id = some message
  leaves : ∀ runner key before, w.subscription runner key = some before → ∃ after, next.subscription runner key = some after ∧
    ∀ id, before.messages.get id ≠ none → after.messages.get id = none → (id, key.1) ∈ w.store.receipts
  receipt : ∀ ack, event = .failAck ack ∨ event = .commitReceipts ack → next.buses = w.buses
  recovers : ∀ pass, event = .recover pass → ∀ runner key before after, w.subscription runner key = some before →
    next.subscription runner key = some after → ∀ id, before.messages.get id = none → after.messages.get id ≠ none →
      (id, key.1) ∉ w.store.receipts

theorem run_sound (events : List Event) (last : World) (reached : run step empty events = some last) : Sound last :=
  run_invariant step Sound (fun w event next sound taken => (step_sound w next event sound taken).1) events empty last
    empty_sound reached

theorem mailbox_delivery (events : List Event) (last : World) (reached : run step empty events = some last) :
    (∀ runner bus key subscription, last.buses.get runner = some bus → bus.subscriptions.get key = some subscription →
      SubscriptionDelivery last.store runner bus key subscription) ∧
    ∀ event next, step last event = some next → StepDelivery last event next := by
  have sound := run_sound events last reached
  refine ⟨fun runner bus key subscription held there => ?_, fun event next taken => ?_⟩
  · refine ⟨(sound.buses runner bus held key subscription there).bounded, ?_, ?_⟩
    · intro message stored owner destination unsettled
      have waits := pending_complete last.store message key.1 stored unsettled
      rw [owner, destination] at waits
      exact .inr waits
    · intro room limit message waits
      obtain ⟨_, _, destination, _⟩ := pending_mem last.store sound.rows runner key.2 key.1 limit message waits
      exact recover_present bus message key subscription there destination room
  · obtain ⟨_, follows⟩ := step_sound last next event sound taken
    refine ⟨follows.rows, ?_, fun ack kind => receipt_buffers last next event ack kind taken, ?_⟩
    · intro runner key before held
      obtain ⟨after, there, moves⟩ := follows.moves runner key before held
      exact ⟨after, there, moves.left⟩
    · intro pass recovers runner key before after held later
      subst recovers
      exact recover_unsettled last next sound pass taken runner key before after held later

def output (id : MessageId) (createdAt : Int) : RunnerMessage :=
  ⟨"runner", "output", .null, id, none, "runner", createdAt⟩

def staleRun : List Event :=
  [.create "runner" 1 true, .subscribe "runner" ("consumer", "runner"), .publish (output "first" 1),
    .reconcile 0, .readPending 0, .deliverCommitted (output "first" 1), .publish (output "second" 2),
    .deliverCommitted (output "second" 2), .receive "runner" ("consumer", "runner") 64,
    .acknowledge 0 "runner" "consumer" [output "first" 1], .failAck 0,
    .acknowledge 1 "runner" "consumer" [output "first" 1], .commitReceipts 1, .settle 1, .recover 0,
    .reconcile 1, .readPending 1, .recover 1]

theorem mailbox_delivery_stale :
    ∃ last, run step empty staleRun = some last ∧
      (last.subscription "runner" ("consumer", "runner")).map
          (fun subscription => (Dict.keys subscription.messages.rows, subscription.revision)) = some (["second"], 1) ∧
      ∀ event next, step last event = some next → StepDelivery last event next := by
  have shown : (run step empty staleRun).bind (fun last => (last.subscription "runner" ("consumer", "runner")).map
      (fun subscription => (Dict.keys subscription.messages.rows, subscription.revision))) = some (["second"], 1) := by
    decide +kernel
  obtain ⟨last, reached, buffer⟩ := Option.bind_eq_some_iff.mp shown
  exact ⟨last, reached, buffer, (mailbox_delivery staleRun last reached).2⟩

theorem slices_flatten (owners : List (RunnerId × Nat)) : (slices owners).flatten = owners := by
  have prefixes : ∀ count, ((List.range count).map fun i => (owners.drop (64 * i)).take 64).flatten = owners.take (64 * count) := by
    intro count
    induction count with
    | zero => rfl
    | succ count ih =>
        rw [List.range_succ, List.map_append, List.flatten_append, ih, Nat.mul_succ, List.take_add]
        simp
  rw [slices, prefixes, List.take_of_length_le]
  omega

theorem keyed_filter {Key Value : Type} [DecidableEq Key] (rows : Dict Key Value) (unique : (Dict.keys rows).Nodup) (key : Key) :
    (rows.filter fun entry => entry.1 = key) = ((Dict.get key rows).map fun value => (key, value)).toList := by
  induction rows with
  | nil => rfl
  | cons entry rest ih =>
      obtain ⟨fresh, others⟩ := List.nodup_cons.mp unique
      have later := ih others
      by_cases same : entry.1 = key
      · have absent : Dict.get key rest = none := dict_get_absent rest key (same ▸ fresh)
        rw [absent] at later
        rw [List.filter_cons, if_pos (decide_eq_true same), later]
        obtain ⟨name, value⟩ := entry
        cases same
        simp [Dict.get]
      · rw [List.filter_cons, if_neg (by simpa using same), later]
        simp [Dict.get, same]

theorem keyed_flatMap {Key Value Item : Type} [DecidableEq Key] (rows : Dict Key Value) (unique : (Dict.keys rows).Nodup) (key : Key)
    (items : Key × Value → List Item) (elsewhere : ∀ entry ∈ rows, entry.1 ≠ key → items entry = []) :
    rows.flatMap items = ((Dict.get key rows).map fun value => items (key, value)).getD [] := by
  have own : rows.flatMap items = (rows.filter fun entry => entry.1 = key).flatMap items := by
    clear unique
    induction rows with
    | nil => rfl
    | cons entry rest ih =>
        have later := ih fun other member => elsewhere other (List.mem_cons_of_mem entry member)
        by_cases same : entry.1 = key
        · rw [List.filter_cons, if_pos (decide_eq_true same), List.flatMap_cons, List.flatMap_cons, later]
        · rw [List.filter_cons, if_neg (by simpa using same), List.flatMap_cons, elsewhere entry List.mem_cons_self same, later]
          rfl
  rw [own, keyed_filter rows unique key]
  cases Dict.get key rows with
  | none => rfl
  | some value => simp

section Candidates

variable (buses : Table RunnerId Bus) (key : Key) (runner : RunnerId)

theorem candidate_once (bus : Bus) (subscription : Subscription) (held : buses.get runner = some bus) (managed : bus.managed = true)
    (there : bus.subscriptions.get key = some subscription) (room : subscription.size < bus.capacity) :
    ((candidates buses).filter fun found => found.1 = key ∧ found.2.1 = runner) = [(key, runner, subscription.revision)] := by
  rw [candidates, List.filter_flatMap]
  rw [keyed_flatMap buses.rows buses.unique runner]
  · have read : Dict.get runner buses.rows = some bus := held
    rw [read, Option.map_some, Option.getD_some]
    simp only [if_pos managed]
    rw [List.filter_map]
    have chosen : ((bus.subscriptions.filter fun _ other => other.size < bus.capacity).filter
        ((fun found : Key × RunnerId × Nat => decide (found.1 = key ∧ found.2.1 = runner)) ∘
          fun entry : Key × Subscription => (entry.1, runner, entry.2.revision))) = [(key, subscription)] := by
      have only : ((bus.subscriptions.filter fun _ other => other.size < bus.capacity).filter
          ((fun found : Key × RunnerId × Nat => decide (found.1 = key ∧ found.2.1 = runner)) ∘
            fun entry : Key × Subscription => (entry.1, runner, entry.2.revision))) =
          (bus.subscriptions.rows.filter fun entry => entry.1 = key).filter fun entry => entry.2.size < bus.capacity := by
        rw [Table.filter, List.filter_filter, List.filter_filter]
        apply List.filter_congr
        intro entry _
        simp [Bool.and_comm]
      have found : Dict.get key bus.subscriptions.rows = some subscription := there
      rw [only, keyed_filter bus.subscriptions.rows bus.subscriptions.unique key, found]
      simp [room]
    rw [chosen]
    rfl
  · intro entry _ other
    rw [List.filter_eq_nil_iff]
    intro found member
    by_cases served : entry.2.managed = true
    · rw [if_pos served] at member
      obtain ⟨row, _, rfl⟩ := List.mem_map.mp member
      simp [other]
    · rw [if_neg served] at member
      cases member

theorem groups_get : (Dict.get key (groups buses)).getD [] = ((candidates buses).filter fun found => found.1 = key).map Prod.snd := by
  have general : ∀ (found : List (Key × RunnerId × Nat)) (start : Dict Key (List (RunnerId × Nat))),
      (Dict.get key (found.foldl (fun groups found => Dict.put found.1 ((Dict.get found.1 groups).getD [] ++ [found.2]) groups)
        start)).getD [] = (Dict.get key start).getD [] ++ (found.filter fun entry => entry.1 = key).map Prod.snd := by
    intro found
    induction found with
    | nil => intro start; simp
    | cons first rest ih =>
        intro start
        rw [List.foldl_cons, ih, dict_get_put]
        by_cases same : first.1 = key
        · simp [same]
        · simp [same, Ne.symm same]
  rw [groups, general]
  rfl

theorem groups_keys : (Dict.keys (groups buses)).Nodup := by
  have general : ∀ (found : List (Key × RunnerId × Nat)) (start : Dict Key (List (RunnerId × Nat))), (Dict.keys start).Nodup →
      (Dict.keys (found.foldl (fun groups found => Dict.put found.1 ((Dict.get found.1 groups).getD [] ++ [found.2]) groups)
        start)).Nodup := by
    intro found
    induction found with
    | nil => exact fun start unique => unique
    | cons first rest ih => exact fun start unique => ih _ (dict_keys_put start first.1 _ unique).1
  exact general (candidates buses) [] List.nodup_nil

end Candidates

-- Where a pass still has to read for a subscription.
def Batch.mine (key : Key) (runner : RunnerId) (batch : Batch) : List (RunnerId × Nat) :=
  if (batch.consumer, batch.destination) = key then batch.owners.filter fun owner => owner.1 = runner else []

theorem reconcile_once (buses : Table RunnerId Bus) (key : Key) (runner : RunnerId) (bus : Bus) (subscription : Subscription)
    (held : buses.get runner = some bus) (managed : bus.managed = true) (there : bus.subscriptions.get key = some subscription)
    (room : subscription.size < bus.capacity) :
    (reconcileBatches buses).flatMap (Batch.mine key runner) = [(runner, subscription.revision)] := by
  have group : ∀ entry : Key × List (RunnerId × Nat),
      ((slices entry.2).map fun owners => (⟨entry.1.1, entry.1.2, owners⟩ : Batch)).flatMap (Batch.mine key runner) =
        if entry.1 = key then entry.2.filter fun owner => owner.1 = runner else [] := by
    intro entry
    rw [List.flatMap_map]
    by_cases same : entry.1 = key
    · rw [if_pos same]
      have each : ∀ owners, Batch.mine key runner ⟨entry.1.1, entry.1.2, owners⟩ = owners.filter fun owner => owner.1 = runner :=
        fun owners => if_pos same
      simp only [each]
      rw [List.flatMap, ← List.filter_flatten, slices_flatten]
    · rw [if_neg same, List.flatMap_eq_nil_iff]
      intro owners _
      exact if_neg same
  rw [reconcileBatches, List.flatMap_assoc]
  simp only [group]
  rw [keyed_flatMap (groups buses) (groups_keys buses) key _ fun entry _ other => if_neg other]
  have listed := candidate_once buses key runner bus subscription held managed there room
  have own : ((Dict.get key (groups buses)).getD []).filter (fun owner => owner.1 = runner) = [(runner, subscription.revision)] := by
    rw [groups_get, List.filter_map, List.filter_filter]
    have same : ((candidates buses).filter fun found => ((fun owner : RunnerId × Nat => decide (owner.1 = runner)) ∘ Prod.snd) found &&
        decide (found.1 = key)) = (candidates buses).filter fun found => found.1 = key ∧ found.2.1 = runner := by
      apply List.filter_congr
      intro found _
      simp [Bool.and_comm]
    rw [same, listed]
    rfl
  rw [← own]
  cases Dict.get key (groups buses) with
  | none => rfl
  | some owners => simp

end LlmperfOrchestrator.Runtime.Mailbox

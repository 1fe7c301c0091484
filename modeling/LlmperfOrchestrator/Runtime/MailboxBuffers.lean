import LlmperfOrchestrator.Runtime.Mailbox

set_option autoImplicit false

namespace LlmperfOrchestrator.Runtime.Mailbox

open Tables Storage

section Buffer
variable (store : MessageStore) (runner : RunnerId) (capacity : Nat) (key : Key) (subscription : Subscription)
  (message : RunnerMessage)

theorem setdefault_messages (id : MessageId) (held : subscription.messages.get id ≠ none) :
    (subscription.setdefault message).messages.get id ≠ none := by
  unfold Subscription.setdefault
  cases found : subscription.messages.get message.id with
  | none =>
      by_cases same : id = message.id
      · rw [same, found] at held
        exact absurd rfl held
      · rw [table_get_put_other _ _ _ _ same]
        exact held
  | some _ => exact held

theorem setdefault_revision : (subscription.setdefault message).revision = subscription.revision := by
  unfold Subscription.setdefault
  cases subscription.messages.get message.id <;> rfl

theorem setdefault_sound (sound : BufferSound store runner capacity key subscription) (room : subscription.size < capacity)
    (owner : message.runner = runner) (destination : message.destination = key.2) (accepted : store.accepts message) :
    BufferSound store runner capacity key (subscription.setdefault message) := by
  unfold Subscription.setdefault
  cases found : subscription.messages.get message.id with
  | some _ => exact sound
  | none =>
      refine ⟨?_, fun id row read => ?_⟩
      · simp only [Subscription.size, Table.put]
        rw [dict_put_absent _ _ _ found, List.length_append]
        exact room
      · cases table_put_cases _ _ _ _ _ read with
        | inl fresh =>
            obtain ⟨rfl, rfl⟩ := fresh
            exact ⟨rfl, owner, destination, accepted⟩
        | inr old => exact sound.rows id row old.2

theorem recover_messages : (subscription.recover message).messages = (subscription.setdefault message).messages := by
  unfold Subscription.recover Subscription.setdefault
  cases subscription.messages.get message.id <;> rfl

theorem recover_revision : (subscription.recover message).revision = subscription.revision := by
  unfold Subscription.recover
  cases subscription.messages.get message.id <;> rfl

theorem same_messages_sound (later : Subscription) (same : later.messages = subscription.messages)
    (sound : BufferSound store runner capacity key subscription) : BufferSound store runner capacity key later := by
  refine ⟨?_, ?_⟩
  · rw [Subscription.size, same]
    exact sound.bounded
  · rw [same]
    exact sound.rows

theorem settle_moves (receipts : List (MessageId × Consumer)) (consumer : Consumer) (id : MessageId)
    (settled : (id, consumer) ∈ receipts) : Moves receipts consumer subscription (subscription.settle id) := by
  refine ⟨Nat.le_succ _, fun same => absurd same (Nat.succ_ne_self _), fun other held gone => ?_⟩
  rw [Subscription.settle, table_get_pop] at gone
  by_cases same : other = id
  · rw [same]
    exact settled
  · rw [if_neg same] at gone
    exact absurd gone held

theorem settle_sound (id : MessageId) (sound : BufferSound store runner capacity key subscription) :
    BufferSound store runner capacity key (subscription.settle id) := by
  refine ⟨?_, fun other row read => ?_⟩
  · exact (List.length_filter_le _ _).trans sound.bounded
  · rw [Subscription.settle, table_get_pop] at read
    by_cases same : other = id
    · rw [if_pos same] at read
      cases read
    · rw [if_neg same] at read
      exact sound.rows other row read

end Buffer

section Buses
variable (store : MessageStore) (receipts : List (MessageId × Consumer)) (runner : RunnerId) (bus : Bus)

theorem bus_moves_refl : BusMoves receipts bus bus :=
  fun key subscription held => ⟨subscription, held, moves_refl receipts key.1 subscription⟩

theorem bus_moves_trans (a b c : Bus) (first : BusMoves receipts a b) (second : BusMoves receipts b c) :
    BusMoves receipts a c := by
  intro key subscription held
  obtain ⟨middle, there, before⟩ := first key subscription held
  obtain ⟨last, found, after⟩ := second key middle there
  exact ⟨last, found, moves_trans receipts key.1 subscription middle last before after⟩

theorem put_moves (key : Key) (subscription later : Subscription) (held : bus.subscriptions.get key = some subscription)
    (moves : Moves receipts key.1 subscription later) :
    BusMoves receipts bus { bus with subscriptions := bus.subscriptions.put key later } := by
  intro other found there
  by_cases same : other = key
  · rw [same] at there ⊢
    rw [held] at there
    cases there
    exact ⟨later, table_get_put_self _ _ _, moves⟩
  · exact ⟨found, (table_get_put_other _ _ _ _ same).trans there, moves_refl receipts other.1 found⟩

theorem put_bus_sound (key : Key) (later : Subscription) (sound : BusSound store runner bus)
    (here : BufferSound store runner bus.capacity key later) :
    BusSound store runner { bus with subscriptions := bus.subscriptions.put key later } := by
  intro other found there
  cases table_put_cases _ _ _ _ _ there with
  | inl fresh =>
      obtain ⟨rfl, rfl⟩ := fresh
      exact here
  | inr old => exact sound other found old.2

variable (message : RunnerMessage)

theorem deliver_moves : BusMoves receipts bus (bus.deliverCommitted message) := by
  intro key subscription held
  refine ⟨_, (table_get_update bus.subscriptions _ key).trans (congrArg _ held), ?_⟩
  dsimp only
  by_cases here : key.2 = message.destination ∧ subscription.size < bus.capacity
  · rw [if_pos here]
    exact moves_grown receipts key.1 _ _ (setdefault_revision subscription message) (setdefault_messages subscription message)
  · rw [if_neg here]
    exact moves_refl receipts key.1 subscription

theorem deliver_sound (owner : message.runner = runner) (accepted : store.accepts message) (sound : BusSound store runner bus) :
    BusSound store runner (bus.deliverCommitted message) := by
  intro key later there
  obtain ⟨subscription, held, rfl⟩ := Option.map_eq_some_iff.mp ((table_get_update bus.subscriptions _ key).symm.trans there)
  by_cases here : key.2 = message.destination ∧ subscription.size < bus.capacity
  · rw [if_pos here]
    exact setdefault_sound store runner bus.capacity key subscription message (sound key subscription held) here.2 owner
      here.1.symm accepted
  · rw [if_neg here]
    exact sound key subscription held

theorem subscribe_moves (key : Key) : BusMoves receipts bus (bus.subscribe key) := by
  unfold Bus.subscribe
  cases found : bus.subscriptions.get key with
  | some _ => exact bus_moves_refl receipts bus
  | none =>
      intro other subscription held
      have apart : other ≠ key := fun same => by
        rw [same, found] at held
        cases held
      exact ⟨subscription, (table_get_put_other _ _ _ _ apart).trans held, moves_refl receipts other.1 subscription⟩

theorem subscribe_sound (key : Key) (sound : BusSound store runner bus) : BusSound store runner (bus.subscribe key) := by
  unfold Bus.subscribe
  cases found : bus.subscriptions.get key with
  | some _ => exact sound
  | none =>
      apply put_bus_sound store runner bus key .empty sound
      refine ⟨Nat.zero_le _, fun id message read => ?_⟩
      cases read

variable (consumer : Consumer)

theorem recover_cases (revision : Nat) :
    bus.recover message consumer revision = bus ∨ ∃ subscription,
      bus.subscriptions.get (consumer, message.destination) = some subscription ∧ subscription.revision = revision ∧
      subscription.size < bus.capacity ∧ bus.recover message consumer revision =
        { bus with subscriptions := bus.subscriptions.put (consumer, message.destination) (subscription.recover message) } := by
  unfold Bus.recover
  cases found : bus.subscriptions.get (consumer, message.destination) with
  | none => exact .inl rfl
  | some subscription =>
      by_cases allowed : subscription.revision = revision ∧ subscription.size < bus.capacity
      · exact .inr ⟨subscription, rfl, allowed.1, allowed.2, if_pos allowed⟩
      · exact .inl (if_neg allowed)

theorem recover_moves (revision : Nat) : BusMoves receipts bus (bus.recover message consumer revision) := by
  cases recover_cases bus message consumer revision with
  | inl same =>
      rw [same]
      exact bus_moves_refl receipts bus
  | inr inserted =>
      obtain ⟨subscription, held, _, _, same⟩ := inserted
      rw [same]
      apply put_moves receipts bus _ subscription _ held
      apply moves_grown receipts consumer _ _ (recover_revision subscription message)
      rw [recover_messages]
      exact setdefault_messages subscription message

theorem recover_sound (owner : message.runner = runner) (accepted : store.accepts message) (consumer : Consumer) (revision : Nat)
    (sound : BusSound store runner bus) : BusSound store runner (bus.recover message consumer revision) := by
  cases recover_cases bus message consumer revision with
  | inl same =>
      rw [same]
      exact sound
  | inr inserted =>
      obtain ⟨subscription, held, _, room, same⟩ := inserted
      rw [same]
      apply put_bus_sound store runner bus _ _ sound
      apply same_messages_sound store runner bus.capacity _ _ _ (recover_messages subscription message)
      exact setdefault_sound store runner bus.capacity _ subscription message (sound _ subscription held) room owner rfl accepted

theorem settle_one_moves (message : RunnerMessage) (settled : (message.id, consumer) ∈ receipts) :
    BusMoves receipts bus (bus.settle consumer message) := by
  unfold Bus.settle
  cases found : bus.subscriptions.get (consumer, message.destination) with
  | none => exact bus_moves_refl receipts bus
  | some subscription =>
      exact put_moves receipts bus _ subscription _ found (settle_moves subscription receipts consumer message.id settled)

theorem settle_one_sound (message : RunnerMessage) (sound : BusSound store runner bus) :
    BusSound store runner (bus.settle consumer message) := by
  unfold Bus.settle
  cases found : bus.subscriptions.get (consumer, message.destination) with
  | none => exact sound
  | some subscription =>
      apply put_bus_sound store runner bus _ _ sound
      exact settle_sound store runner bus.capacity _ subscription message.id (sound _ subscription found)

theorem settle_all_moves (messages : List RunnerMessage) (settled : ∀ message ∈ messages, (message.id, consumer) ∈ receipts) :
    BusMoves receipts bus (bus.settleAll consumer messages) := by
  induction messages generalizing bus with
  | nil => exact bus_moves_refl receipts bus
  | cons message rest ih =>
      have first := settle_one_moves receipts bus consumer message (settled message List.mem_cons_self)
      have later := ih (bus.settle consumer message) fun other member => settled other (List.mem_cons_of_mem _ member)
      exact bus_moves_trans receipts _ _ _ first later

theorem settle_all_sound (messages : List RunnerMessage) (sound : BusSound store runner bus) :
    BusSound store runner (bus.settleAll consumer messages) := by
  induction messages generalizing bus with
  | nil => exact sound
  | cons message rest ih => exact ih (bus.settle consumer message) (settle_one_sound store runner bus consumer message sound)

end Buses

theorem pending_mem (store : MessageStore) (rows : ∀ id message, store.messages.get id = some message → message.id = id)
    (runner : RunnerId) (destination : Destination) (consumer : Consumer) (limit : Nat) (message : RunnerMessage)
    (member : message ∈ store.pending runner destination consumer limit) :
    store.messages.get message.id = some message ∧ message.runner = runner ∧ message.destination = destination ∧
      (message.id, consumer) ∉ store.receipts := by
  have listed := (List.mem_insertionSort older).mp (List.mem_of_mem_take member)
  obtain ⟨⟨id, row⟩, kept, rfl⟩ := List.mem_map.mp listed
  obtain ⟨read, selected⟩ := (table_filter _ _ _ _).mp kept
  obtain ⟨owner, destined, unsettled⟩ := of_decide_eq_true selected
  have same := rows id row read
  subst same
  exact ⟨read, owner, destined, unsettled⟩

theorem pending_complete (store : MessageStore) (message : RunnerMessage) (consumer : Consumer)
    (read : store.messages.get message.id = some message) (unsettled : (message.id, consumer) ∉ store.receipts) :
    message ∈ store.pending message.runner message.destination consumer store.messages.rows.length := by
  have listed : message ∈ store.unacknowledged message.runner message.destination consumer := by
    apply List.mem_map.mpr
    refine ⟨(message.id, message), (table_filter _ _ _ _).mpr ⟨read, ?_⟩, rfl⟩
    exact decide_eq_true ⟨rfl, rfl, unsettled⟩
  have short : (store.unacknowledged message.runner message.destination consumer).length ≤ store.messages.rows.length := by
    rw [MessageStore.unacknowledged, List.length_map]
    exact List.length_filter_le _ _
  rw [MessageStore.pending, List.take_of_length_le]
  · exact (List.mem_insertionSort older).mpr listed
  · rw [List.length_insertionSort]
    exact short

theorem candidates_mem (buses : Table RunnerId Bus) (key : Key) (runner : RunnerId) (revision : Nat)
    (member : (key, runner, revision) ∈ candidates buses) : ∃ bus subscription, buses.get runner = some bus ∧
      bus.subscriptions.get key = some subscription ∧ subscription.revision = revision := by
  obtain ⟨⟨owner, bus⟩, listed, found⟩ := List.mem_flatMap.mp member
  by_cases managed : bus.managed = true
  · rw [if_pos managed] at found
    obtain ⟨entry, kept, same⟩ := List.mem_map.mp found
    cases same
    exact ⟨bus, entry.2, (table_mem buses owner bus).mp listed, ((table_filter _ _ _ _).mp kept).1, rfl⟩
  · rw [if_neg managed] at found
    cases found

theorem groups_mem (buses : Table RunnerId Bus) (group : Key × List (RunnerId × Nat)) (member : group ∈ groups buses)
    (owner : RunnerId × Nat) (owned : owner ∈ group.2) : (group.1, owner) ∈ candidates buses := by
  have general : ∀ (found : List (Key × RunnerId × Nat)) (start : Dict Key (List (RunnerId × Nat))),
      (∀ entry ∈ found, entry ∈ candidates buses) →
      (∀ entry ∈ start, ∀ owner ∈ entry.2, (entry.1, owner) ∈ candidates buses) →
      ∀ entry ∈ found.foldl (fun groups found => Dict.put found.1 ((Dict.get found.1 groups).getD [] ++ [found.2]) groups) start,
        ∀ owner ∈ entry.2, (entry.1, owner) ∈ candidates buses := by
    intro found
    induction found with
    | nil => exact fun _ _ held => held
    | cons first rest ih =>
        intro start listed held
        apply ih _ (fun entry later => listed entry (List.mem_cons_of_mem _ later))
        intro entry placed owner owned
        cases dict_put_mem _ _ _ _ placed with
        | inr old => exact held entry old owner owned
        | inl same =>
            subst same
            cases List.mem_append.mp owned with
            | inr last =>
                rw [List.mem_singleton.mp last]
                exact listed first List.mem_cons_self
            | inl earlier =>
                cases known : Dict.get first.1 start with
                | none => rw [known] at earlier; cases earlier
                | some owners =>
                    rw [known] at earlier
                    exact held (first.1, owners) (dict_get_mem start first.1 owners known) owner earlier
  exact general (candidates buses) [] (fun _ listed => listed) (fun _ none => by cases none) group member owner owned

theorem slices_mem (owners slice : List (RunnerId × Nat)) (member : slice ∈ slices owners) (owner : RunnerId × Nat)
    (owned : owner ∈ slice) : owner ∈ owners := by
  obtain ⟨i, _, rfl⟩ := List.mem_map.mp member
  exact List.mem_of_mem_drop (List.mem_of_mem_take owned)

theorem reconcile_batches_seen (w : World) (batch : Batch) (member : batch ∈ reconcileBatches w.buses)
    (owner : RunnerId × Nat) (owned : owner ∈ batch.owners) : Seen w batch owner := by
  obtain ⟨group, listed, made⟩ := List.mem_flatMap.mp member
  obtain ⟨slice, sliced, rfl⟩ := List.mem_map.mp made
  have found := groups_mem w.buses group listed owner (slices_mem group.2 slice sliced owner owned)
  obtain ⟨bus, subscription, held, there, same⟩ := candidates_mem w.buses group.1 owner.1 owner.2 found
  refine ⟨subscription, ?_, same.ge⟩
  rw [World.subscription, held]
  exact there

end LlmperfOrchestrator.Runtime.Mailbox

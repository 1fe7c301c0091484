import LlmperfOrchestrator.Runtime.MailboxRecovery

set_option autoImplicit false

namespace LlmperfOrchestrator.Runtime.Mailbox

open Tables Storage Runs

theorem batch_message (store : MessageStore) (keyed : Keyed store) (batch : Batch) (message : RunnerMessage)
    (member : message ∈ store.pendingBatch (batch.owners.map Prod.fst) batch.destination batch.consumer 1) :
    message.destination = batch.destination ∧ ∃ owner ∈ batch.owners, owner.1 = message.runner := by
  obtain ⟨owner, listed, read⟩ := List.mem_flatMap.mp member
  obtain ⟨row, there, rfl⟩ := List.mem_map.mp listed
  obtain ⟨_, same, destination, _⟩ := pending_mem store keyed row.1 batch.destination batch.consumer 1 message read
  exact ⟨destination, row, there, same.symm⟩

section Steps

variable (pass : Nat) (runner : RunnerId) (key : Key) (capacity revision : Nat) (crowded : Prop) (w next : World) (bus : Bus)
  (subscription : Subscription) (event : PassEvent) (allowed : Allowed pass runner w event)
  (fills : Fills pass runner key event → crowded) (taken : passStep w event = some next)
  (live : Live runner key capacity revision crowded w bus subscription)

theorem read_here (awaits : Awaits pass runner key revision w) (batch : Batch) (batches : List Batch)
    (place : (batch.consumer, batch.destination) = key)
    (once : (batch.owners.filter fun owner => owner.1 = runner) = [(runner, revision)])
    (reading : next.passes pass = some ⟨1, batches, some (batch,
      w.store.pendingBatch (batch.owners.map Prod.fst) batch.destination batch.consumer 1)⟩) :
    ∃ message, w.store.pending runner key.2 key.1 1 = [message] ∧ Reads pass runner key revision message next := by
  obtain ⟨waiting, pending⟩ := awaits.backlog
  obtain ⟨oldest, first⟩ := pending_one w.store runner key waiting pending
  have found := pending_found w.store runner key awaits.keyed oldest (by rw [first]; exact List.mem_singleton.mpr rfl)
  have consumer : batch.consumer = key.1 := congrArg Prod.fst place
  have destination : batch.destination = key.2 := congrArg Prod.snd place
  refine ⟨oldest, first, ⟨⟨batch, _, batches, reading, consumer, ?_, ?_⟩, found.destination⟩⟩
  · exact owner_revision runner batch.owners revision once
  · rw [consumer, destination]
    exact batch_one w.store runner key awaits.keyed batch.owners revision once oldest first

theorem read_elsewhere (keyed : Keyed w.store) (batch : Batch) (none : Batch.mine key runner batch = []) :
    ∀ message ∈ w.store.pendingBatch (batch.owners.map Prod.fst) batch.destination batch.consumer 1,
      message.runner = runner → (batch.consumer, message.destination) ≠ key := by
  intro message member mine place
  obtain ⟨destination, owner, there, same⟩ := batch_message w.store keyed batch message member
  rw [destination] at place
  rw [Batch.mine, if_pos place, List.filter_eq_nil_iff] at none
  exact none owner there (decide_eq_true (same.trans mine))

include allowed taken live

theorem awaits_other (awaits : Awaits pass runner key revision w) (reads : event ≠ .mailbox (.readPending pass))
    (recovers : event ≠ .mailbox (.recover pass)) : Awaits pass runner key revision next := by
  have effect := pass_effect pass runner key w next bus subscription live.held live.there event allowed taken
  obtain ⟨batches, recovering, running, listed, others⟩ := awaits.waiting
  have there : w.passes pass ≠ none := by
    rw [running]
    exact Option.some_ne_none _
  refine ⟨⟨batches, recovering, (effect.waits reads recovers there).trans running, listed, others⟩, ?_, ?_⟩
  · exact pass_step_keyed w next event awaits.keyed taken
  · obtain ⟨message, pending⟩ := awaits.backlog
    refine ⟨message, effect.rows message.id message pending.stored, pending.owner, pending.destination, ?_⟩
    rw [effect.receipts]
    exact pending.unsettled

theorem reads_other (message : RunnerMessage) (reads : Reads pass runner key revision message w)
    (read : event ≠ .mailbox (.readPending pass)) (recovers : event ≠ .mailbox (.recover pass)) :
    Reads pass runner key revision message next := by
  have effect := pass_effect pass runner key w next bus subscription live.held live.there event allowed taken
  obtain ⟨batch, messages, batches, running, consumer, owner, once⟩ := reads.running
  have there : w.passes pass ≠ none := by
    rw [running]
    exact Option.some_ne_none _
  exact ⟨⟨batch, messages, batches, (effect.waits read recovers there).trans running, consumer, owner, once⟩, reads.destination⟩

end Steps

section Turns

variable (pass : Nat) (runner : RunnerId) (key : Key) (capacity revision : Nat) (crowded : Prop) (w next : World) (bus : Bus)
  (subscription : Subscription) (live : Live runner key capacity revision crowded w bus subscription)

theorem awaits_read (awaits : Awaits pass runner key revision w) (taken : passStep w (.mailbox (.readPending pass)) = some next) :
    Awaits pass runner key revision next ∨
      ∃ message, w.store.pending runner key.2 key.1 1 = [message] ∧ Reads pass runner key revision message next := by
  obtain ⟨batches, recovering, running, listed, _⟩ := awaits.waiting
  simp only [passStep, step, running] at taken
  cases recovering with
  | some current => cases batches <;> cases taken
  | none =>
      cases batches with
      | nil => cases taken
      | cons batch rest =>
          cases taken
          have reading : ∀ state, (w.putPass pass state).passes pass = state := fun state => by simp [World.putPass]
          rw [List.flatMap_cons] at listed
          cases mine : Batch.mine key runner batch with
          | nil =>
              rw [mine, List.nil_append] at listed
              refine .inl ⟨⟨rest, _, reading _, listed, ?_⟩, awaits.keyed, awaits.backlog⟩
              intro current messages same
              cases same
              exact read_elsewhere runner key w awaits.keyed batch mine
          | cons owner others =>
              have whole : Batch.mine key runner batch = [(runner, revision)] := by
                rw [mine] at listed ⊢
                obtain ⟨rfl, ends⟩ := List.cons.inj listed
                rw [(List.append_eq_nil_iff.mp ends).1]
              have place : (batch.consumer, batch.destination) = key := by
                by_contra apart
                rw [Batch.mine, if_neg apart] at whole
                cases whole
              rw [Batch.mine, if_pos place] at whole
              exact .inr (read_here pass runner key revision w _ awaits batch rest place whole (reading _))

include live

theorem awaits_recover (awaits : Awaits pass runner key revision w) (taken : passStep w (.mailbox (.recover pass)) = some next) :
    ∃ later, Live runner key capacity revision crowded next later subscription ∧ Awaits pass runner key revision next := by
  obtain ⟨batches, recovering, running, listed, others⟩ := awaits.waiting
  cases recovering with
  | none =>
      simp only [passStep, step, running] at taken
      cases taken
  | some current =>
      obtain ⟨batch, messages⟩ := current
      cases messages with
      | nil =>
          simp only [passStep, step, running] at taken
          cases taken
          refine ⟨bus, ⟨live.held, live.there, live.limit, live.revision, live.room⟩, ⟨⟨batches, none, ?_, listed, ?_⟩, awaits.keyed,
            awaits.backlog⟩⟩
          · simp [World.putPass]
          · intro other found same
            cases same
      | cons message rest =>
          obtain ⟨ran, store, _⟩ := recover_taken pass w next batches batch message rest running taken
          obtain ⟨later, alive⟩ := recover_elsewhere pass runner key capacity revision crowded w next bus subscription live batches
            batch message rest running (others batch _ rfl message List.mem_cons_self) taken
          refine ⟨later, alive, ⟨⟨batches, _, ran, listed, ?_⟩, ?_, ?_⟩⟩
          · intro other found same
            cases same
            exact fun other member => others batch _ rfl other (List.mem_cons_of_mem message member)
          · rw [store]
            exact awaits.keyed
          · rw [store]
            exact awaits.backlog

theorem reads_recover (message : RunnerMessage) (reads : Reads pass runner key revision message w)
    (taken : passStep w (.mailbox (.recover pass)) = some next) :
    (∃ later, Live runner key capacity revision crowded next later subscription ∧ Reads pass runner key revision message next) ∨
      ∃ later after, Settled runner key capacity crowded message next later after := by
  obtain ⟨batch, messages, batches, running, consumer, owner, once⟩ := reads.running
  cases messages with
  | nil => cases once
  | cons first rest =>
      by_cases mine : first.runner = runner
      · rw [List.filter_cons, if_pos (decide_eq_true mine)] at once
        obtain ⟨rfl, _⟩ := List.cons.inj once
        have place : (batch.consumer, first.destination) = key := by
          rw [consumer, reads.destination]
        exact .inr (recover_here pass runner key capacity revision crowded w next bus subscription live batches batch first rest
          running mine place owner taken)
      · obtain ⟨ran, _, _⟩ := recover_taken pass w next batches batch first rest running taken
        obtain ⟨later, alive⟩ := recover_elsewhere pass runner key capacity revision crowded w next bus subscription live batches
          batch first rest running (fun same => absurd same mine) taken
        rw [List.filter_cons, if_neg (by simpa using mine)] at once
        exact .inl ⟨later, alive, ⟨batch, rest, batches, ran, consumer, owner, once⟩, reads.destination⟩

omit live in
theorem reads_read (message : RunnerMessage) (reads : Reads pass runner key revision message w) :
    passStep w (.mailbox (.readPending pass)) = none := by
  obtain ⟨batch, messages, batches, running, _⟩ := reads.running
  simp only [passStep, step, running]

end Turns

def Served (pass : Nat) (runner : RunnerId) (key : Key) (capacity revision : Nat) (crowded : Prop) (message : RunnerMessage)
    (w : World) : Prop :=
  (∃ bus subscription, Live runner key capacity revision crowded w bus subscription ∧ Reads pass runner key revision message w) ∨
    ∃ bus subscription, Settled runner key capacity crowded message w bus subscription

def Unread (pass : Nat) (runner : RunnerId) (key : Key) (capacity revision : Nat) (crowded : Prop) (w : World) : Prop :=
  ∃ bus subscription, Live runner key capacity revision crowded w bus subscription ∧ Awaits pass runner key revision w

section Runs

variable (pass : Nat) (runner : RunnerId) (key : Key) (capacity revision : Nat) (crowded : Prop)

theorem served_step (message : RunnerMessage) (w : World) (event : PassEvent) (next : World)
    (served : Served pass runner key capacity revision crowded message w)
    (meets : Allowed pass runner w event ∧ (Fills pass runner key event → crowded)) (taken : passStep w event = some next) :
    Served pass runner key capacity revision crowded message next := by
  obtain ⟨allowed, fills⟩ := meets
  rcases served with ⟨bus, subscription, live, reads⟩ | ⟨bus, subscription, settled⟩
  · by_cases read : event = .mailbox (.readPending pass)
    · subst read
      rw [reads_read pass runner key revision w message reads] at taken
      cases taken
    · by_cases recovers : event = .mailbox (.recover pass)
      · subst recovers
        cases reads_recover pass runner key capacity revision crowded w next bus subscription live message reads taken with
        | inl still =>
            obtain ⟨later, alive, reading⟩ := still
            exact .inl ⟨later, subscription, alive, reading⟩
        | inr done => exact .inr done
      · obtain ⟨later, after, alive⟩ :=
          live_step pass runner key capacity revision crowded w next bus subscription event allowed fills taken live recovers
        exact .inl ⟨later, after, alive, reads_other pass runner key capacity revision crowded w next bus subscription event allowed
          taken live message reads read recovers⟩
  · exact .inr (settled_step pass runner key capacity crowded w next bus subscription event allowed taken message settled)

theorem unread_step (w : World) (event : PassEvent) (next : World) (unread : Unread pass runner key capacity revision crowded w)
    (allowed : Allowed pass runner w event) (fills : Fills pass runner key event → crowded) (taken : passStep w event = some next) :
    Unread pass runner key capacity revision crowded next ∨ (event = .mailbox (.readPending pass) ∧
      ∃ message, w.store.pending runner key.2 key.1 1 = [message] ∧
        Served pass runner key capacity revision crowded message next) := by
  obtain ⟨bus, subscription, live, awaits⟩ := unread
  by_cases recovers : event = .mailbox (.recover pass)
  · subst recovers
    obtain ⟨later, alive, waiting⟩ :=
      awaits_recover pass runner key capacity revision crowded w next bus subscription live awaits taken
    exact .inl ⟨later, subscription, alive, waiting⟩
  · obtain ⟨later, after, alive⟩ :=
      live_step pass runner key capacity revision crowded w next bus subscription event allowed fills taken live recovers
    by_cases read : event = .mailbox (.readPending pass)
    · subst read
      cases awaits_read pass runner key revision w next awaits taken with
      | inl waiting => exact .inl ⟨later, after, alive, waiting⟩
      | inr found =>
          obtain ⟨message, oldest, reads⟩ := found
          exact .inr ⟨rfl, message, oldest, .inl ⟨later, after, alive, reads⟩⟩
    · exact .inl ⟨later, after, alive, awaits_other pass runner key capacity revision crowded w next bus subscription event allowed
        taken live awaits read recovers⟩

theorem unread_quiet (w : World) (event : PassEvent) (next : World) (unread : Unread pass runner key capacity revision crowded w)
    (allowed : Allowed pass runner w event) (quiet : ∀ message, event ≠ .mailbox (.publish message))
    (taken : passStep w event = some next) : next.store = w.store := by
  obtain ⟨bus, subscription, live, _⟩ := unread
  exact (pass_effect pass runner key w next bus subscription live.held live.there event allowed taken).quiet quiet

theorem unread_run (during : List PassEvent) (w last : World) (unread : Unread pass runner key capacity revision crowded w)
    (allowed : EveryStep passStep (Allowed pass runner) w during) (fills : ∀ event ∈ during, Fills pass runner key event → crowded)
    (runs : run passStep w during = some last) :
    Unread pass runner key capacity revision crowded last ∨ ∃ early middle late message,
      during = early ++ .mailbox (.readPending pass) :: late ∧ run passStep w early = some middle ∧
        middle.store.pending runner key.2 key.1 1 = [message] ∧
        ((∀ message, .mailbox (.publish message) ∉ during) → middle.store = w.store) ∧
        Served pass runner key capacity revision crowded message last := by
  induction during generalizing w with
  | nil =>
      cases runs
      exact .inl unread
  | cons event rest ih =>
      obtain ⟨next, taken, later⟩ := (run_cons passStep w last event rest).mp runs
      obtain ⟨here, others⟩ := allowed
      have filled := fills event List.mem_cons_self
      have remaining := fun other member => fills other (List.mem_cons_of_mem event member)
      cases unread_step pass runner key capacity revision crowded w event next unread here filled taken with
      | inl still =>
          cases ih next still (others next taken) remaining later with
          | inl waiting => exact .inl waiting
          | inr read =>
              obtain ⟨early, middle, late, message, whole, reached, oldest, same, served⟩ := read
              refine .inr ⟨event :: early, middle, late, message, by rw [whole, List.cons_append], ?_, oldest, ?_, served⟩
              · exact (run_cons passStep w middle event early).mpr ⟨next, taken, reached⟩
              · intro quiet
                have first := unread_quiet pass runner key capacity revision crowded w event next unread here
                  (fun message published => quiet message (published ▸ List.mem_cons_self)) taken
                rw [same fun message member => quiet message (List.mem_cons_of_mem event member), first]
      | inr read =>
          obtain ⟨rfl, message, oldest, served⟩ := read
          refine .inr ⟨[], w, rest, message, rfl, rfl, oldest, fun _ => rfl, ?_⟩
          have meets := every_step_and passStep (Allowed pass runner) _ rest next (others next taken)
            (every_step_events passStep (fun event => Fills pass runner key event → crowded) rest next remaining)
          exact run_keeps passStep _ (Served pass runner key capacity revision crowded message)
            (fun state event after => served_step pass runner key capacity revision crowded message state event after)
            rest next last served meets later

theorem served_settled (message : RunnerMessage) (w : World) (served : Served pass runner key capacity revision crowded message w)
    (ends : w.passes pass = some ⟨1, [], none⟩) :
    ∃ bus subscription, Settled runner key capacity crowded message w bus subscription := by
  rcases served with ⟨_, _, _, reads⟩ | settled
  · obtain ⟨_, _, _, running, _⟩ := reads.running
    rw [ends] at running
    cases running
  · exact settled

theorem unread_running (w : World) (unread : Unread pass runner key capacity revision crowded w) :
    w.passes pass ≠ some ⟨1, [], none⟩ := by
  obtain ⟨_, _, _, awaits⟩ := unread
  obtain ⟨batches, recovering, running, listed, _⟩ := awaits.waiting
  intro ends
  rw [ends] at running
  cases running
  cases listed

theorem pass_begins (w first : World) (bus : Bus) (subscription : Subscription) (keyed : Keyed w.store)
    (begins : passStep w (.mailbox (.reconcile pass)) = some first) (held : w.buses.get runner = some bus)
    (managed : bus.managed = true) (there : bus.subscriptions.get key = some subscription)
    (room : subscription.size < bus.capacity) (backlog : w.store.pending runner key.2 key.1 1 ≠ []) :
    Unread pass runner key bus.capacity subscription.revision crowded first ∧ first.store = w.store := by
  simp only [passStep, step] at begins
  split at begins
  · cases begins
  · cases begins
    obtain ⟨message, member⟩ := List.exists_mem_of_ne_nil _ backlog
    refine ⟨⟨bus, subscription, ⟨held, there, rfl, rfl, .inl room⟩, ⟨⟨reconcileBatches w.buses, none, ?_, ?_, ?_⟩, keyed, message, ?_⟩⟩, rfl⟩
    · exact if_pos rfl
    · exact reconcile_once w.buses key runner bus subscription held managed there room
    · intro batch messages same
      cases same
    · exact pending_found w.store runner key keyed message member

end Runs

theorem pass_recovers (history during : List PassEvent) (w first last : World) (pass : Nat) (runner : RunnerId) (key : Key)
    (bus : Bus) (subscription : Subscription) (reached : run passStep empty history = some w)
    (begins : passStep w (.mailbox (.reconcile pass)) = some first) (runs : run passStep first during = some last)
    (ends : last.passes pass = some ⟨1, [], none⟩) (allowed : EveryStep passStep (Allowed pass runner) first during)
    (held : w.buses.get runner = some bus) (managed : bus.managed = true) (there : bus.subscriptions.get key = some subscription)
    (room : subscription.size < bus.capacity) (backlog : w.store.pending runner key.2 key.1 1 ≠ []) :
    ∃ early middle late message after, during = early ++ .mailbox (.readPending pass) :: late ∧
      run passStep first early = some middle ∧ middle.store.pending runner key.2 key.1 1 = [message] ∧
      ((∀ published, .mailbox (.publish published) ∉ during) → w.store.pending runner key.2 key.1 1 = [message]) ∧
      last.subscription runner key = some after ∧
      (after.messages.get message.id ≠ none ∨
        (bus.capacity ≤ after.size ∧ ∃ event ∈ during, Fills pass runner key event)) := by
  have keyed : Keyed w.store := run_invariant passStep (fun w => Keyed w.store)
    (fun w event next keyed taken => pass_step_keyed w next event keyed taken) history empty w (fun _ _ read => by cases read) reached
  obtain ⟨unread, same⟩ := pass_begins pass runner key (∃ event ∈ during, Fills pass runner key event) w first bus subscription keyed
    begins held managed there room backlog
  cases unread_run pass runner key bus.capacity subscription.revision _ during first last unread allowed
      (fun event member filled => ⟨event, member, filled⟩) runs with
  | inl still => exact absurd ends (unread_running pass runner key bus.capacity subscription.revision _ last still)
  | inr read =>
      obtain ⟨early, middle, late, message, whole, prefixRun, oldest, quiet, served⟩ := read
      obtain ⟨later, after, settled⟩ := served_settled pass runner key bus.capacity subscription.revision _ message last served ends
      refine ⟨early, middle, late, message, after, whole, prefixRun, oldest, ?_, ?_, settled.buffered⟩
      · intro unpublished
        rw [← same, ← quiet unpublished]
        exact oldest
      · rw [World.subscription, settled.held]
        exact settled.there

deriving instance DecidableEq for Batch
deriving instance DecidableEq for Pass

def passWorlds (history during : List PassEvent) : Option (World × World × World) :=
  (run passStep empty history).bind fun w => (passStep w (.mailbox (.reconcile 0))).bind fun first =>
    (run passStep first during).map fun last => (w, first, last)

def PassShows (runner : RunnerId) (key : Key) (message : RunnerMessage) (buffer : List MessageId) (worlds : World × World × World) :
    Prop :=
  (worlds.1.buses.get runner).map Bus.managed = some true ∧
    ((worlds.1.buses.get runner).bind fun bus => (bus.subscriptions.get key).map fun subscription =>
      decide (subscription.size < bus.capacity)) = some true ∧
    worlds.1.store.pending runner key.2 key.1 1 = [message] ∧ worlds.2.2.passes 0 = some ⟨1, [], none⟩ ∧
    (worlds.2.2.subscription runner key).map (fun subscription => Dict.keys subscription.messages.rows) = some buffer

instance (runner : RunnerId) (key : Key) (message : RunnerMessage) (buffer : List MessageId) (worlds : World × World × World) :
    Decidable (PassShows runner key message buffer worlds) := inferInstanceAs (Decidable (_ ∧ _))

theorem pass_shown (history during : List PassEvent) (runner : RunnerId) (key : Key) (message : RunnerMessage)
    (buffer : List MessageId)
    (shown : (passWorlds history during).map (fun worlds => decide (PassShows runner key message buffer worlds)) = some true) :
    ∃ w first last bus subscription after, run passStep empty history = some w ∧
      passStep w (.mailbox (.reconcile 0)) = some first ∧ run passStep first during = some last ∧
      last.passes 0 = some ⟨1, [], none⟩ ∧ w.buses.get runner = some bus ∧ bus.managed = true ∧
      bus.subscriptions.get key = some subscription ∧ subscription.size < bus.capacity ∧
      w.store.pending runner key.2 key.1 1 = [message] ∧ last.subscription runner key = some after ∧
      Dict.keys after.messages.rows = buffer := by
  obtain ⟨⟨w, first, last⟩, found, holds⟩ := Option.map_eq_some_iff.mp shown
  obtain ⟨w', reached, later⟩ := Option.bind_eq_some_iff.mp found
  obtain ⟨first', begins, ended⟩ := Option.bind_eq_some_iff.mp later
  obtain ⟨last', runs, same⟩ := Option.map_eq_some_iff.mp ended
  cases same
  obtain ⟨managed, room, oldest, ends, buffered⟩ := of_decide_eq_true holds
  obtain ⟨bus, held, served⟩ := Option.map_eq_some_iff.mp managed
  obtain ⟨other, again, inside⟩ := Option.bind_eq_some_iff.mp room
  cases Option.some.inj (held.symm.trans again)
  obtain ⟨subscription, there, below⟩ := Option.map_eq_some_iff.mp inside
  obtain ⟨after, read, keys⟩ := Option.map_eq_some_iff.mp buffered
  exact ⟨w, first, last, bus, subscription, after, reached, begins, runs, ends, held, served, there, of_decide_eq_true below, oldest,
    read, keys⟩

def backlogHistory : List PassEvent :=
  [.mailbox (.create "busy" 1 true), .mailbox (.create "runner" 1 true), .mailbox (.subscribe "busy" ("consumer", "runner")),
    .mailbox (.subscribe "runner" ("consumer", "runner")), .mailbox (.publish { output "b1" 1 with runner := "busy" }),
    .mailbox (.publish { output "b2" 2 with runner := "busy" }), .mailbox (.publish { output "b3" 3 with runner := "busy" }),
    .mailbox (.publish (output "first" 4)), .mailbox (.publish (output "second" 5))]

def backlogPass : List PassEvent :=
  [.mailbox (.readPending 0), .mailbox (.recover 0), .mailbox (.recover 0), .mailbox (.recover 0)]

theorem pass_recovers_beside_backlog : ∃ w first last after, run passStep empty backlogHistory = some w ∧
    passStep w (.mailbox (.reconcile 0)) = some first ∧ run passStep first backlogPass = some last ∧
    w.store.pending "runner" "runner" "consumer" 1 = [output "first" 4] ∧
    last.subscription "runner" ("consumer", "runner") = some after ∧ after.messages.get "first" ≠ none := by
  obtain ⟨w, first, last, bus, subscription, _, reached, begins, runs, ends, held, managed, there, room, oldest, _, _⟩ :=
    pass_shown backlogHistory backlogPass "runner" ("consumer", "runner") (output "first" 4) ["first"] (by decide +kernel)
  have allowed : EveryStep passStep (Allowed 0 "runner") first backlogPass :=
    ⟨trivial, fun _ _ => ⟨trivial, fun _ _ => ⟨trivial, fun _ _ => ⟨trivial, fun _ _ => trivial⟩⟩⟩⟩
  obtain ⟨_, _, _, message, after, _, _, _, same, read, buffered⟩ := pass_recovers backlogHistory backlogPass w first last 0 "runner"
    ("consumer", "runner") bus subscription reached begins runs ends allowed held managed there room (by rw [oldest]; simp)
  have quiet : ∀ published, PassEvent.mailbox (.publish published) ∉ backlogPass := by
    intro published member
    simp [backlogPass] at member
  have chosen : message = output "first" 4 := (List.cons.inj ((same quiet).symm.trans oldest)).1
  refine ⟨w, first, last, after, reached, begins, runs, oldest, read, ?_⟩
  rcases buffered with present | ⟨_, event, member, fills⟩
  · rw [chosen] at present
    exact present
  · simp only [backlogPass, List.mem_cons, List.not_mem_nil, or_false] at member
    rcases member with rfl | rfl | rfl | rfl
    · exact fills.elim
    · exact absurd rfl fills
    · exact absurd rfl fills
    · exact absurd rfl fills

def Recovers (history during : List PassEvent) : Prop :=
  ∀ w first last runner key bus subscription message, run passStep empty history = some w →
    passStep w (.mailbox (.reconcile 0)) = some first → run passStep first during = some last →
    last.passes 0 = some ⟨1, [], none⟩ → (∀ ack, .mailbox (.commitReceipts ack) ∉ during) → w.buses.get runner = some bus →
    bus.managed = true → bus.subscriptions.get key = some subscription → subscription.size < bus.capacity →
    w.store.pending runner key.2 key.1 1 = [message] →
    ∃ after, last.subscription runner key = some after ∧ after.messages.get message.id ≠ none

theorem recovers_not (history during : List PassEvent) (runner : RunnerId) (key : Key) (message : RunnerMessage)
    (buffer : List MessageId)
    (shown : (passWorlds history during).map (fun worlds => decide (PassShows runner key message buffer worlds)) = some true)
    (uncommitted : ∀ ack, .mailbox (.commitReceipts ack) ∉ during) (absent : message.id ∉ buffer) : ¬ Recovers history during := by
  intro recovers
  obtain ⟨w, first, last, bus, subscription, after, reached, begins, runs, ends, held, managed, there, room, oldest, read, keys⟩ :=
    pass_shown history during runner key message buffer shown
  obtain ⟨found, same, present⟩ := recovers w first last runner key bus subscription message reached begins runs ends uncommitted held
    managed there room oldest
  cases Option.some.inj (read.symm.trans same)
  exact present (dict_get_absent after.messages.rows message.id (by rw [keys]; exact absent))

def filledHistory : List PassEvent :=
  [.mailbox (.create "runner" 1 true), .mailbox (.subscribe "runner" ("consumer", "runner")),
    .mailbox (.publish (output "first" 1))]

def filledPass : List PassEvent :=
  [.mailbox (.readPending 0), .mailbox (.publish (output "second" 2)), .mailbox (.deliverCommitted (output "second" 2)),
    .mailbox (.recover 0), .mailbox (.recover 0)]

def settledHistory : List PassEvent :=
  [.mailbox (.create "runner" 2 true), .mailbox (.subscribe "runner" ("consumer", "runner")),
    .mailbox (.publish (output "first" 1)), .mailbox (.deliverCommitted (output "first" 1)),
    .mailbox (.publish (output "second" 2)), .mailbox (.receive "runner" ("consumer", "runner") 64),
    .mailbox (.acknowledge 0 "runner" "consumer" [output "first" 1]), .mailbox (.commitReceipts 0)]

def settledPass : List PassEvent :=
  [.mailbox (.readPending 0), .mailbox (.settle 0), .mailbox (.recover 0), .mailbox (.recover 0)]

theorem pass_overlooks : ¬ Recovers filledHistory filledPass ∧ ¬ Recovers settledHistory settledPass := by
  constructor
  · exact recovers_not filledHistory filledPass "runner" ("consumer", "runner") (output "first" 1) ["second"] (by decide +kernel)
      (by simp [filledPass]) (by decide)
  · exact recovers_not settledHistory settledPass "runner" ("consumer", "runner") (output "second" 2) [] (by decide +kernel)
      (by simp [settledPass]) (by decide)

end LlmperfOrchestrator.Runtime.Mailbox

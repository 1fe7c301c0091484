import LlmperfOrchestrator.Library.Keyed

set_option autoImplicit false

namespace LlmperfOrchestrator.Semaphores

open Tables

theorem progress_by_rank {Waiter : Type} (waits : Waiter → Prop) (rank : Waiter → Nat) (progress : Prop)
    (descends : ∀ waiter, waits waiter → progress ∨ ∃ other, waits other ∧ rank other < rank waiter) (waiter : Waiter)
    (waiting : waits waiter) : progress := by
  induction bound : rank waiter using Nat.strong_induction_on generalizing waiter with
  | h _ ih =>
      rcases descends waiter waiting with done | ⟨other, later, lower⟩
      · exact done
      · exact ih (rank other) (bound ▸ lower) other later rfl

variable {Client : Type} [DecidableEq Client]

-- The future of a waiter. A granted one whose task is cancelled before it runs
-- again is revoked: the result is set, but the task gives the permit back.
inductive Ticket where
  | pending
  | granted
  | cancelled
  | revoked
deriving DecidableEq, Repr

def Ticket.holds : Ticket → Bool
  | .granted | .revoked => true
  | .pending | .cancelled => false

def Ticket.interrupted : Ticket → Ticket
  | .pending => .cancelled
  | .granted => .revoked
  | .cancelled => .cancelled
  | .revoked => .revoked

structure Semaphore (Client : Type) [DecidableEq Client] where
  value : Nat
  waiters : Table Client Ticket

def fresh (value : Nat) : Semaphore Client := ⟨value, Table.empty⟩

def locked (s : Semaphore Client) : Bool := s.value = 0 || s.waiters.any fun _ ticket => ticket ≠ .cancelled

def firstPending (waiters : Table Client Ticket) : Option Client :=
  ((waiters.filter fun _ ticket => ticket = .pending).head?).map Prod.fst

def take (s : Semaphore Client) : Semaphore Client := { s with value := s.value - 1 }

def enqueue (client : Client) (s : Semaphore Client) : Semaphore Client := { s with waiters := s.waiters.put client .pending }

-- Grants permits while there are both a permit and a pending waiter.
def drain : Nat → Table Client Ticket → Semaphore Client
  | 0, waiters => ⟨0, waiters⟩
  | value + 1, waiters =>
      match firstPending waiters with
      | none => ⟨value + 1, waiters⟩
      | some client => drain value (waiters.put client .granted)

def release (s : Semaphore Client) : Semaphore Client :=
  match firstPending s.waiters with
  | none => { s with value := s.value + 1 }
  | some client => { s with waiters := s.waiters.put client .granted }

def interrupt (client : Client) (s : Semaphore Client) : Semaphore Client :=
  { s with waiters := s.waiters.update fun other ticket => if other = client then ticket.interrupted else ticket }

def leave (client : Client) (ticket : Ticket) (s : Semaphore Client) : Semaphore Client :=
  drain (if ticket = .revoked then s.value + 1 else s.value) (s.waiters.pop client)

def grants (waiters : Table Client Ticket) : Nat := waiters.count fun _ ticket => ticket.holds

def stock (s : Semaphore Client) : Nat := s.value + grants s.waiters

def Listed (s : Semaphore Client) (client : Client) : Prop := s.waiters.get client ≠ none

def Served (s : Semaphore Client) : Prop :=
  0 < s.value → ∀ client, s.waiters.get client = some .pending → ∃ other ticket, s.waiters.get other = some ticket ∧ ticket.holds = true

variable (waiters : Table Client Ticket)

theorem first_pending_some (client : Client) (found : firstPending waiters = some client) : waiters.get client = some .pending := by
  obtain ⟨⟨key, ticket⟩, first, same⟩ := Option.map_eq_some_iff.mp found
  obtain ⟨read, chosen⟩ := (table_filter waiters _ key ticket).mp (List.mem_of_head? first)
  rw [← same, read, of_decide_eq_true chosen]

theorem first_pending_none (absent : firstPending waiters = none) (client : Client) : waiters.get client ≠ some .pending := by
  intro read
  have empty := List.head?_eq_none_iff.mp (Option.map_eq_none_iff.mp absent)
  have member := (table_filter waiters (fun _ ticket => ticket = .pending) client .pending).mpr ⟨read, by simp⟩
  rw [empty] at member
  cases member

theorem grants_put (client : Client) (old fresh : Ticket) (read : waiters.get client = some old) :
    grants (waiters.put client fresh) + (if old.holds then 1 else 0) = grants waiters + (if fresh.holds then 1 else 0) :=
  table_count_put waiters _ client old fresh read

theorem put_listed (client query : Client) (old fresh : Ticket) (read : waiters.get client = some old) :
    (waiters.put client fresh).get query ≠ none ↔ waiters.get query ≠ none := by
  rw [table_get_put]
  by_cases same : query = client
  · rw [if_pos same, same, read]
    simp
  · rw [if_neg same]

theorem drain_stock (value : Nat) (waiters : Table Client Ticket) : stock (drain value waiters) = value + grants waiters := by
  induction value generalizing waiters with
  | zero => rfl
  | succ value ih =>
      rw [drain]
      split
      · rfl
      · rename_i client found
        have granted := grants_put waiters client .pending .granted (first_pending_some waiters client found)
        simp only [Ticket.holds, Bool.false_eq_true, if_false, if_true] at granted
        rw [ih]
        omega

theorem drain_listed (value : Nat) (waiters : Table Client Ticket) (client : Client) :
    Listed (drain value waiters) client ↔ waiters.get client ≠ none := by
  induction value generalizing waiters with
  | zero => exact Iff.rfl
  | succ value ih =>
      rw [drain]
      split
      · exact Iff.rfl
      · rename_i first found
        exact (ih _).trans (put_listed waiters first client .pending .granted (first_pending_some waiters first found))

theorem drain_served (value : Nat) (waiters : Table Client Ticket) : Served (drain value waiters) := by
  induction value generalizing waiters with
  | zero =>
      intro positive
      cases positive
  | succ value ih =>
      rw [drain]
      split
      · rename_i none
        intro _ client pending
        exact absurd pending (first_pending_none waiters none client)
      · exact ih _

variable (s : Semaphore Client)

theorem release_stock : stock (release s) = stock s + 1 := by
  rw [release]
  split
  · simp only [stock]
    omega
  · rename_i client found
    have granted := grants_put s.waiters client .pending .granted (first_pending_some s.waiters client found)
    simp only [Ticket.holds, Bool.false_eq_true, if_false, if_true] at granted
    simp only [stock]
    omega

variable (client : Client)

theorem release_listed : Listed (release s) client ↔ Listed s client := by
  rw [release]
  split
  · exact Iff.rfl
  · rename_i first found
    exact put_listed s.waiters first client .pending .granted (first_pending_some s.waiters first found)

theorem release_served : Served (release s) := by
  rw [release]
  split
  · rename_i absent
    intro _ client pending
    exact absurd pending (first_pending_none s.waiters absent client)
  · rename_i first found
    intro _ _ _
    exact ⟨first, .granted, table_get_put_self s.waiters first .granted, rfl⟩

theorem unlocked (ready : locked s = false) :
    0 < s.value ∧ ∀ client ticket, s.waiters.get client = some ticket → ticket = .cancelled := by
  rw [locked, Bool.or_eq_false_iff] at ready
  refine ⟨Nat.pos_of_ne_zero (of_decide_eq_false ready.1), ?_⟩
  intro client ticket read
  by_contra other
  have present := (table_any s.waiters fun _ ticket => ticket ≠ .cancelled).mpr ⟨client, ticket, read, by simpa using other⟩
  rw [ready.2] at present
  cases present

theorem take_stock (ready : locked s = false) : stock (take s) + 1 = stock s := by
  have positive := (unlocked s ready).1
  simp only [stock, take]
  omega

theorem take_served (ready : locked s = false) : Served (take s) := by
  intro _ client pending
  have cancelled := (unlocked s ready).2 client .pending pending
  cases cancelled

theorem enqueue_stock (absent : ¬ Listed s client) : stock (enqueue client s) = stock s := by
  have missing : Dict.get client s.waiters.rows = none := not_not.mp absent
  have same : grants (s.waiters.put client .pending) = grants s.waiters := by
    have change := dict_total_put (fun entry : Client × Ticket => if entry.2.holds then 1 else 0) s.waiters.rows client .pending
    rw [missing] at change
    exact change
  rw [stock, stock, enqueue, same]

theorem enqueue_listed (client query : Client) : Listed (enqueue client s) query ↔ query = client ∨ Listed s query := by
  rw [Listed, enqueue, table_get_put]
  by_cases same : query = client
  · simp [same]
  · simp [same, Listed]

theorem enqueue_served (absent : ¬ Listed s client) (closed : locked s = true) (served : Served s) : Served (enqueue client s) := by
  intro positive query pending
  -- a permit lies free, so some waiter that is not cancelled closes the semaphore
  have present : (s.waiters.any fun _ ticket => ticket ≠ .cancelled) = true := by
    rw [locked, Bool.or_eq_true] at closed
    rcases closed with empty | present
    · have spent : s.value = 0 := of_decide_eq_true empty
      have free : 0 < s.value := positive
      omega
    · exact present
  obtain ⟨other, ticket, read, active⟩ := (table_any s.waiters _).mp present
  have keep : ∀ holder held, s.waiters.get holder = some held → (enqueue client s).waiters.get holder = some held := by
    intro holder held found
    have different : holder ≠ client := fun same => absent (by rw [Listed, ← same, found]; simp)
    rw [enqueue, table_get_put_other s.waiters client holder .pending different, found]
  cases ticket with
  | granted => exact ⟨other, .granted, keep other .granted read, rfl⟩
  | revoked => exact ⟨other, .revoked, keep other .revoked read, rfl⟩
  | cancelled => simp at active
  | pending =>
      obtain ⟨holder, held, found, holds⟩ := served positive other read
      exact ⟨holder, held, keep holder held found, holds⟩

theorem interrupted_holds (ticket : Ticket) : ticket.interrupted.holds = ticket.holds := by
  cases ticket <;> rfl

theorem interrupt_stock : stock (interrupt client s) = stock s := by
  have same : grants (interrupt client s).waiters = grants s.waiters := by
    apply total_map
    intro entry _
    by_cases here : entry.1 = client
    · simp only [if_pos here, interrupted_holds]
    · simp only [if_neg here]
  rw [stock, stock, same]
  rfl

theorem interrupt_get (client query : Client) :
    (interrupt client s).waiters.get query =
      (s.waiters.get query).map fun ticket => if query = client then ticket.interrupted else ticket :=
  table_get_update s.waiters _ query

theorem interrupt_listed (client query : Client) : Listed (interrupt client s) query ↔ Listed s query := by
  rw [Listed, interrupt_get, Listed, ne_eq, Option.map_eq_none_iff]

theorem interrupt_served (served : Served s) : Served (interrupt client s) := by
  intro positive query pending
  rw [interrupt_get] at pending
  obtain ⟨old, read, same⟩ := Option.map_eq_some_iff.mp pending
  have before : old = .pending := by
    by_cases here : query = client
    · rw [if_pos here] at same
      cases old <;> cases same
    · rwa [if_neg here] at same
  obtain ⟨holder, held, found, holds⟩ := served positive query (before ▸ read)
  refine ⟨holder, if holder = client then held.interrupted else held, by rw [interrupt_get, found]; rfl, ?_⟩
  by_cases here : holder = client
  · rw [if_pos here, interrupted_holds]
    exact holds
  · rwa [if_neg here]

theorem leave_listed (client query : Client) (ticket : Ticket) :
    Listed (leave client ticket s) query ↔ query ≠ client ∧ Listed s query := by
  rw [leave, drain_listed, table_get_pop]
  by_cases same : query = client
  · simp [same]
  · simp [same, Listed]

theorem leave_served (ticket : Ticket) : Served (leave client ticket s) :=
  drain_served _ _

theorem leave_stock (ticket : Ticket) (read : s.waiters.get client = some ticket) :
    stock (leave client ticket s) + (if ticket = .granted then 1 else 0) = stock s := by
  have popped := table_count_pop s.waiters (fun _ ticket => ticket.holds) client ticket read
  have granted : grants (s.waiters.pop client) + (if ticket.holds then 1 else 0) = grants s.waiters := popped
  rw [leave, drain_stock, stock]
  cases ticket <;> simp only [Ticket.holds, Bool.false_eq_true, if_false, if_true, reduceCtorEq] at granted ⊢ <;> omega

def grantees (s : Semaphore Client) : List Client := (s.waiters.filter fun _ ticket => ticket.holds).map Prod.fst

theorem grantees_length : (grantees s).length = grants s.waiters := by
  rw [grantees, List.length_map, Table.filter, ← List.countP_eq_length_filter, grants, Table.count]
  induction s.waiters.rows with
  | nil => rfl
  | cons entry rest ih =>
      rw [List.countP_cons, ih, Tables.total, Tables.total, List.map_cons, List.sum_cons, Nat.add_comm]

theorem grantees_distinct : (grantees s).Nodup :=
  (List.filter_sublist.map Prod.fst).nodup s.waiters.unique

theorem grantees_listed (granted : client ∈ grantees s) : Listed s client := by
  obtain ⟨⟨key, ticket⟩, member, same⟩ := List.mem_map.mp granted
  have read := ((table_filter s.waiters _ key ticket).mp member).1
  rw [Listed, ← same, read]
  exact Option.some_ne_none ticket

theorem free_or_granted (served : Served s) (left : 0 < stock s) :
    locked s = false ∨ ∃ client ticket, s.waiters.get client = some ticket ∧ ticket.holds = true := by
  by_cases granted : ∃ client ticket, s.waiters.get client = some ticket ∧ ticket.holds = true
  · exact .inr granted
  · apply Or.inl
    have ungranted : grants s.waiters = 0 := by
      have bound := table_count_le s.waiters (fun _ ticket => ticket.holds) [] fun key row read holds =>
        absurd ⟨key, row, read, holds⟩ granted
      exact Nat.le_zero.mp bound
    have positive : 0 < s.value := by
      rw [stock, ungranted] at left
      exact left
    rw [locked, Bool.or_eq_false_iff]
    refine ⟨decide_eq_false (Nat.pos_iff_ne_zero.mp positive), Bool.eq_false_iff.mpr ?_⟩
    intro active
    obtain ⟨client, ticket, read, kept⟩ := (table_any s.waiters _).mp active
    cases ticket with
    | granted => exact granted ⟨client, .granted, read, rfl⟩
    | revoked => exact granted ⟨client, .revoked, read, rfl⟩
    | cancelled => simp at kept
    | pending => exact granted (served positive client read)

end LlmperfOrchestrator.Semaphores

import LlmperfOrchestrator.Library.Transactions
import Mathlib.Data.Prod.Lex

set_option autoImplicit false

namespace LlmperfOrchestrator.Transactions

open Runs

variable {Rows Row Op : Type}

def Phase.requested : Phase Rows Row → Option (Direction × Row)
  | .locking direction _ (row :: _) false _ => some (direction, row)
  | _ => none

def Phase.waiting : Phase Rows Row → Option (Direction × Row)
  | .locking direction _ (row :: _) true _ => some (direction, row)
  | _ => none

def Machine.requested (db : Machine Rows Row Op) (sid : SessionId) : Option (Direction × Row) :=
  (db.sessions sid).bind fun session => session.phase.requested

def Machine.waiting (db : Machine Rows Row Op) (sid : SessionId) : Option (Direction × Row) :=
  (db.sessions sid).bind fun session => session.phase.waiting

@[simp] theorem not_waiting (direction : Direction) (locked rest : List Row) (next : List Row → Rows → Program Rows Row) :
    (Phase.locking direction locked rest false next).waiting = none := by
  cases rest <;> rfl

def WaitsFor (db : Machine Rows Row Op) (waiter holder : SessionId) : Prop :=
  ∃ wanted ∈ db.waiting waiter, (wanted.2, holder) ∈ db.locks

def Deadlocked (db : Machine Rows Row Op) : Prop := ∃ sid, Relation.TransGen (WaitsFor db) sid sid

def Engaged (db : Machine Rows Row Op) (sid : SessionId) : Prop := ∃ entry ∈ db.locks, entry.2 = sid

theorem engaged_of_lock (db : Machine Rows Row Op) (sid : SessionId) (row : Row) (lock : (row, sid) ∈ db.locks) :
    Engaged db sid := ⟨(row, sid), lock, rfl⟩

theorem chain_engaged (db : Machine Rows Row Op) (waiter holder : SessionId)
    (chain : Relation.TransGen (WaitsFor db) waiter holder) : Engaged db holder := by
  cases chain with
  | single last | tail _ last =>
      obtain ⟨wanted, _, held⟩ := last
      exact engaged_of_lock db holder wanted.2 held

section Cycles
variable {Position : Type} [Preorder Position]

structure WaitsInOrder (position : Row → Position) (db : Machine Rows Row Op) : Prop where
  onward : ∀ sid, ∀ wanted ∈ db.waiting sid, wanted.1 ≠ .crossing →
    ∀ held, (held, sid) ∈ db.locks → position held < position wanted.2
  apart : ∀ waiter holder, WaitsFor db waiter holder → Engaged db waiter → ∀ wanted ∈ db.waiting holder, wanted.1 ≠ .crossing

variable (position : Row → Position) (db : Machine Rows Row Op) (ordered : WaitsInOrder position db)
include ordered

theorem wait_ascends (waiter holder : SessionId) (first second : Direction × Row) (edge : WaitsFor db waiter holder)
    (engaged : Engaged db waiter) (here : first ∈ db.waiting waiter) (there : second ∈ db.waiting holder) :
    position first.2 < position second.2 := by
  have direction := ordered.apart waiter holder edge engaged second there
  obtain ⟨wanted, same, held⟩ := edge
  cases Option.mem_unique same here
  exact ordered.onward holder second there direction first.2 held

theorem chain_ascends (waiter holder : SessionId) (first : Direction × Row)
    (chain : Relation.TransGen (WaitsFor db) waiter holder) (engaged : Engaged db waiter) (here : first ∈ db.waiting waiter) :
    ∀ second ∈ db.waiting holder, position first.2 < position second.2 := by
  induction chain with
  | single edge => exact fun second there => wait_ascends position db ordered waiter _ first second edge engaged here there
  | tail before edge ih =>
      rename_i middle holder
      intro second there
      have held := chain_engaged db waiter middle before
      obtain ⟨between, waits, _⟩ := id edge
      exact lt_trans (ih between waits) (wait_ascends position db ordered middle holder between second edge held waits there)

theorem in_order_free : ¬ Deadlocked db := by
  rintro ⟨sid, cycle⟩
  have engaged := chain_engaged db sid sid cycle
  obtain ⟨_, ⟨wanted, here, _⟩, _⟩ := Relation.TransGen.head'_iff.mp cycle
  exact lt_irrefl _ (chain_ascends position db ordered sid sid wanted cycle engaged here wanted here)

end Cycles

def Disciplined (rank : Row → Nat) : Nat → Program Rows Row → Prop
  | _, .commit => True
  | level, .write _ rest => Disciplined rank level rest
  | level, .lock direction matching rest => ∃ next, level ≤ next ∧
      (∀ rows, ∀ row ∈ matching rows, rank row ≤ next ∧ (direction = .onward → rank row = next)) ∧
      ∀ locked rows, Disciplined rank next (rest locked rows)
  | level, .claim _ matching _ rest => ∃ next, level ≤ next ∧ (∀ rows, ∀ row ∈ matching rows, rank row ≤ next) ∧
      ∀ locked rows, Disciplined rank next (rest locked rows)

theorem disciplined_below (rank : Row → Nat) (low high : Nat) (below : low ≤ high) (program : Program Rows Row)
    (disciplined : Disciplined rank high program) : Disciplined rank low program := by
  induction program with
  | commit => trivial
  | write change rest ih => exact ih disciplined
  | lock direction matching rest ih =>
      obtain ⟨next, above, fits, later⟩ := disciplined
      exact ⟨next, Nat.le_trans below above, fits, later⟩
  | claim limit matching ordered rest ih =>
      obtain ⟨next, above, fits, later⟩ := disciplined
      exact ⟨next, Nat.le_trans below above, fits, later⟩

def PhaseDisciplined (rank : Row → Nat) (level : Nat) : Phase Rows Row → Prop
  | .ready program => Disciplined rank level program
  | .locking direction _ rest _ next => (∀ row ∈ rest, rank row ≤ level ∧ (direction = .onward → rank row = level)) ∧
      ∀ locked rows, Disciplined rank level (next locked rows)

structure Ranked (rank : Row → Nat) (db : Machine Rows Row Op) : Prop where
  idle : ∀ sid, db.sessions sid = none → ¬ Engaged db sid
  active : ∀ sid session, db.sessions sid = some session →
    ∃ level, (∀ row, (row, sid) ∈ db.locks → rank row ≤ level) ∧ PhaseDisciplined rank level session.phase

def Exclusive (db : Machine Rows Row Op) : Prop :=
  ∀ row one other, (row, one) ∈ db.locks → (row, other) ∈ db.locks → one = other

section Frames
variable (db : Machine Rows Row Op) (sid : SessionId) (session : Option (Session Rows Row Op))

@[simp] theorem set_self : (db.set sid session).sessions sid = session := if_pos rfl

theorem set_other (other : SessionId) (apart : other ≠ sid) : (db.set sid session).sessions other = db.sessions other :=
  if_neg apart

theorem acquired_lock (rows : List Row) (row : Row) (other : SessionId) :
    (row, other) ∈ (db.acquire sid rows).locks ↔ (row ∈ rows ∧ other = sid) ∨ (row, other) ∈ db.locks := by
  simp only [Machine.acquire, List.mem_append, List.mem_map, Prod.mk.injEq]
  constructor
  · rintro (⟨_, member, rfl, rfl⟩ | old)
    · exact .inl ⟨member, rfl⟩
    · exact .inr old
  · rintro (⟨member, rfl⟩ | old)
    · exact .inl ⟨row, member, rfl, rfl⟩
    · exact .inr old

theorem released_lock (locks : List (Row × SessionId)) (row : Row) (other : SessionId) :
    (row, other) ∈ release locks sid ↔ (row, other) ∈ locks ∧ other ≠ sid := by
  simp [release]

theorem exclusive_release (exclusive : Exclusive db) (rows : Rows) :
    Exclusive (db.finish sid rows) := by
  intro row one other first second
  exact exclusive row one other ((released_lock sid db.locks row one).mp first).1
    ((released_lock sid db.locks row other).mp second).1

end Frames

section Ranks
variable (rank : Row → Nat) (db : Machine Rows Row Op) (ranked : Ranked rank db)
include ranked

theorem ranked_set (sid : SessionId) (rows : List Row) (fresh : Session Rows Row Op) (level : Nat)
    (held : ∀ row, (row, sid) ∈ db.locks → rank row ≤ level) (taken : ∀ row ∈ rows, rank row ≤ level)
    (disciplined : PhaseDisciplined rank level fresh.phase) : Ranked rank ((db.acquire sid rows).set sid (some fresh)) := by
  refine ⟨fun other idle => ?_, fun other session active => ?_⟩
  · by_cases same : other = sid
    · rw [same, set_self] at idle
      cases idle
    · rw [set_other _ _ _ _ same] at idle
      rintro ⟨⟨row, holder⟩, lock, rfl⟩
      rcases (acquired_lock db sid rows row holder).mp lock with ⟨_, own⟩ | old
      · exact same own
      · exact ranked.idle holder idle (engaged_of_lock db holder row old)
  · by_cases same : other = sid
    · rw [same, set_self] at active
      cases active
      refine ⟨level, fun row lock => ?_, disciplined⟩
      rcases (acquired_lock db sid rows row other).mp lock with ⟨member, _⟩ | old
      · exact taken row member
      · exact held row (same ▸ old)
    · rw [set_other _ _ _ _ same] at active
      obtain ⟨bound, below, kept⟩ := ranked.active other session active
      refine ⟨bound, fun row lock => ?_, kept⟩
      rcases (acquired_lock db sid rows row other).mp lock with ⟨_, own⟩ | old
      · exact absurd own same
      · exact below row old

theorem ranked_finish (sid : SessionId) (rows : Rows) : Ranked rank (db.finish sid rows) := by
  refine ⟨fun other idle => ?_, fun other session active => ?_⟩
  · rintro ⟨⟨row, holder⟩, lock, rfl⟩
    obtain ⟨old, apart⟩ := (released_lock sid db.locks row holder).mp lock
    exact ranked.idle holder ((set_other db sid none holder apart).symm.trans idle) (engaged_of_lock db holder row old)
  · by_cases same : other = sid
    · have gone : (db.finish sid rows).sessions other = none := same ▸ set_self db sid none
      rw [gone] at active
      cases active
    · obtain ⟨bound, below, kept⟩ := ranked.active other session ((set_other db sid none other same).symm.trans active)
      exact ⟨bound, fun row lock => below row ((released_lock sid db.locks row other).mp lock).1, kept⟩

end Ranks

section Steps
variable [DecidableEq Row] (code : Op → Program Rows Row)

theorem claimed_ordered (locks : List (Row × SessionId)) (sid : SessionId) (limit : Nat) (order : List Row) (row : Row)
    (member : row ∈ claimed locks sid limit order) : row ∈ order ∧ taken locks sid row = false := by
  have kept := List.mem_filter.mp (List.mem_of_mem_take member)
  exact ⟨kept.1, by simpa using kept.2⟩

theorem effect_ranked (rank : Row → Nat) (disciplined : ∀ op, Disciplined rank 0 (code op)) (db next : Machine Rows Row Op)
    (event : Event Row Op) (effect : Effect code db event next) (ranked : Ranked rank db) : Ranked rank next := by
  cases effect with
  | begun sid op idle =>
      refine ranked_set rank db ranked sid [] _ 0 (fun row lock => ?_) (by simp) (disciplined op)
      exact absurd (engaged_of_lock db sid row lock) (ranked.idle sid idle)
  | wrote sid session change rest active phase =>
      obtain ⟨level, held, kept⟩ := ranked.active sid session active
      rw [phase] at kept
      exact ranked_set rank db ranked sid [] _ level held (by simp) kept
  | executed sid session direction matching rest rows order active phase view perm =>
      obtain ⟨level, held, kept⟩ := ranked.active sid session active
      rw [phase] at kept
      obtain ⟨next, above, fits, later⟩ := kept
      refine ranked_set rank db ranked sid [] _ next (fun row lock => Nat.le_trans (held row lock) above) (by simp) ⟨?_, later⟩
      exact fun row member => fits rows row (perm.mem_iff.mp member)
  | claimed sid session limit matching ordered rest rows order active phase view perm =>
      obtain ⟨level, held, kept⟩ := ranked.active sid session active
      rw [phase] at kept
      obtain ⟨next, above, fits, later⟩ := kept
      refine ranked_set rank db ranked sid _ _ next (fun row lock => Nat.le_trans (held row lock) above) ?_ ⟨by simp, later⟩
      intro row member
      exact fits rows row (perm.mem_iff.mp (claimed_ordered db.locks sid limit order row member).1)
  | waited sid session direction locked rest row next active phase busy =>
      obtain ⟨level, held, kept⟩ := ranked.active sid session active
      rw [phase] at kept
      exact ranked_set rank db ranked sid [] _ level held (by simp) kept
  | got event sid session direction locked rest row waits next named active phase free =>
      obtain ⟨level, held, kept⟩ := ranked.active sid session active
      rw [phase] at kept
      refine ranked_set rank db ranked sid [row] _ level held ?_ ⟨?_, kept.2⟩
      · intro other member
        rw [List.mem_singleton.mp member]
        exact (kept.1 row List.mem_cons_self).1
      · exact fun other member => kept.1 other (List.mem_cons_of_mem row member)
  | finished sid session direction locked waits next rows active phase view =>
      obtain ⟨level, held, kept⟩ := ranked.active sid session active
      rw [phase] at kept
      exact ranked_set rank db ranked sid [] _ level held (by simp) (kept.2 locked rows)
  | committed sid session rows active phase view => exact ranked_finish rank db ranked sid rows
  | rolledBack sid session active => exact ranked_finish rank db ranked sid db.committed

theorem not_taken (locks : List (Row × SessionId)) (sid other : SessionId) (row : Row) (free : taken locks sid row = false)
    (lock : (row, other) ∈ locks) : other = sid := by
  by_contra apart
  have busy : taken locks sid row = true := List.any_eq_true.mpr ⟨(row, other), lock, by simp [apart]⟩
  rw [free] at busy
  cases busy

theorem exclusive_acquire (db : Machine Rows Row Op) (exclusive : Exclusive db) (sid : SessionId) (rows : List Row)
    (free : ∀ row ∈ rows, taken db.locks sid row = false) : Exclusive (db.acquire sid rows) := by
  intro row one other first second
  rcases (acquired_lock db sid rows row one).mp first with ⟨member, rfl⟩ | old
  · rcases (acquired_lock db one rows row other).mp second with ⟨_, rfl⟩ | held
    · rfl
    · exact (not_taken db.locks one other row (free row member) held).symm
  · rcases (acquired_lock db sid rows row other).mp second with ⟨member, rfl⟩ | held
    · exact not_taken db.locks other one row (free row member) old
    · exact exclusive row one other old held

theorem effect_exclusive (db next : Machine Rows Row Op) (event : Event Row Op) (effect : Effect code db event next)
    (exclusive : Exclusive db) : Exclusive next := by
  cases effect with
  | begun | wrote | executed | waited | finished => exact exclusive
  | claimed sid session limit matching ordered rest rows order active phase view perm =>
      exact exclusive_acquire db exclusive sid _ fun row member =>
        (claimed_ordered db.locks sid limit order row member).2
  | got event sid session direction locked rest row waits next named active phase free =>
      refine exclusive_acquire db exclusive sid [row] fun other member => ?_
      rw [List.mem_singleton.mp member]
      exact free
  | committed sid session rows active phase view => exact exclusive_release db sid exclusive rows
  | rolledBack sid session active => exact exclusive_release db sid exclusive db.committed

end Steps

structure MayWait (rank order : Row → Nat) (db : Machine Rows Row Op) (sid : SessionId) (wanted : Direction × Row) : Prop where
  forward : wanted.1 ≠ .backward
  sorted : wanted.1 = .onward → ∀ entry ∈ db.locks, entry.2 = sid → rank entry.1 = rank wanted.2 → order entry.1 < order wanted.2
  uncrossed : wanted.1 = .crossing → ∀ entry ∈ db.locks, ¬ WaitsFor db entry.2 sid
  clear : Engaged db sid → ∀ entry ∈ db.locks, entry.1 = wanted.2 → ∀ other ∈ db.waiting entry.2, other.1 ≠ .crossing

instance [DecidableEq Row] (db : Machine Rows Row Op) (waiter holder : SessionId) : Decidable (WaitsFor db waiter holder) :=
  inferInstanceAs (Decidable (∃ wanted ∈ db.waiting waiter, (wanted.2, holder) ∈ db.locks))

instance (db : Machine Rows Row Op) (sid : SessionId) : Decidable (Engaged db sid) :=
  inferInstanceAs (Decidable (∃ entry ∈ db.locks, entry.2 = sid))

instance [DecidableEq Row] (rank order : Row → Nat) (db : Machine Rows Row Op) (sid : SessionId) (wanted : Direction × Row) :
    Decidable (MayWait rank order db sid wanted) :=
  decidable_of_iff
    (wanted.1 ≠ .backward ∧
      (wanted.1 = .onward → ∀ entry ∈ db.locks, entry.2 = sid → rank entry.1 = rank wanted.2 → order entry.1 < order wanted.2) ∧
      (wanted.1 = .crossing → ∀ entry ∈ db.locks, ¬ WaitsFor db entry.2 sid) ∧
      (Engaged db sid → ∀ entry ∈ db.locks, entry.1 = wanted.2 → ∀ other ∈ db.waiting entry.2, other.1 ≠ .crossing))
    ⟨fun ⟨forward, sorted, uncrossed, clear⟩ => ⟨forward, sorted, uncrossed, clear⟩,
      fun allowed => ⟨allowed.forward, allowed.sorted, allowed.uncrossed, allowed.clear⟩⟩

def Orderly [DecidableEq Row] (rank order : Row → Nat) (db : Machine Rows Row Op) : Event Row Op → Prop
  | .request sid => ∀ wanted ∈ db.requested sid, taken db.locks sid wanted.2 = true → MayWait rank order db sid wanted
  | .begin _ _ | .write _ | .execute _ _ | .grant _ | .finish _ | .commit _ | .rollback _ => True

instance [DecidableEq Row] (rank order : Row → Nat) (db : Machine Rows Row Op) :
    (event : Event Row Op) → Decidable (Orderly rank order db event)
  | .request sid => inferInstanceAs (Decidable (∀ wanted ∈ db.requested sid, taken db.locks sid wanted.2 = true →
      MayWait rank order db sid wanted))
  | .begin _ _ | .write _ | .execute _ _ | .grant _ | .finish _ | .commit _ | .rollback _ => inferInstanceAs (Decidable True)

structure Settled (rank order : Row → Nat) (db : Machine Rows Row Op) : Prop where
  forward : ∀ sid, ∀ wanted ∈ db.waiting sid, wanted.1 ≠ .backward
  sorted : ∀ sid, ∀ wanted ∈ db.waiting sid, wanted.1 = .onward → ∀ held, (held, sid) ∈ db.locks →
    rank held = rank wanted.2 → order held < order wanted.2
  apart : ∀ waiter holder, WaitsFor db waiter holder → Engaged db waiter → ∀ wanted ∈ db.waiting holder, wanted.1 ≠ .crossing

theorem waiting_phase (db : Machine Rows Row Op) (sid : SessionId) (wanted : Direction × Row) (waits : wanted ∈ db.waiting sid) :
    ∃ session locked rest next, db.sessions sid = some session ∧
      session.phase = .locking wanted.1 locked (wanted.2 :: rest) true next := by
  obtain ⟨session, active, here⟩ := Option.bind_eq_some_iff.mp waits
  unfold Phase.waiting at here
  split at here
  · rename_i direction locked row rest next phase
    cases here
    exact ⟨session, locked, rest, next, active, phase⟩
  · cases here

theorem ranked_wait (rank : Row → Nat) (db : Machine Rows Row Op) (ranked : Ranked rank db) (sid : SessionId)
    (wanted : Direction × Row) (waits : wanted ∈ db.waiting sid) (onward : wanted.1 = .onward) (held : Row)
    (lock : (held, sid) ∈ db.locks) : rank held ≤ rank wanted.2 := by
  obtain ⟨session, locked, rest, next, active, phase⟩ := waiting_phase db sid wanted waits
  obtain ⟨level, below, kept⟩ := ranked.active sid session active
  rw [phase] at kept
  exact (kept.1 wanted.2 List.mem_cons_self).2 onward ▸ below held lock

theorem settled_in_order (rank order : Row → Nat) (db : Machine Rows Row Op) (ranked : Ranked rank db)
    (settled : Settled rank order db) : WaitsInOrder (fun row => toLex (rank row, order row)) db := by
  refine ⟨fun sid wanted waits direction held lock => ?_, settled.apart⟩
  have onward : wanted.1 = .onward := by
    cases named : wanted.1 with
    | onward => rfl
    | crossing => exact absurd named direction
    | backward => exact absurd named (settled.forward sid wanted waits)
  refine Prod.Lex.toLex_lt_toLex.mpr ?_
  rcases Nat.lt_or_eq_of_le (ranked_wait rank db ranked sid wanted waits onward held lock) with below | same
  · exact .inl below
  · exact .inr ⟨same, settled.sorted sid wanted waits onward held lock same⟩

theorem settled_quiet (rank order : Row → Nat) (db next : Machine Rows Row Op) (sid : SessionId) (settled : Settled rank order db)
    (idle : next.waiting sid = none) (same : ∀ other, other ≠ sid → next.waiting other = db.waiting other)
    (kept : ∀ row other, other ≠ sid → (row, other) ∈ next.locks → (row, other) ∈ db.locks) : Settled rank order next := by
  have waits : ∀ other, ∀ wanted ∈ next.waiting other, other ≠ sid ∧ wanted ∈ db.waiting other := by
    intro other wanted here
    by_cases own : other = sid
    · rw [own, idle] at here
      cases here
    · exact ⟨own, same other own ▸ here⟩
  refine ⟨fun other wanted here => settled.forward other wanted (waits other wanted here).2, ?_, ?_⟩
  · intro other wanted here onward held lock
    obtain ⟨apart, before⟩ := waits other wanted here
    exact settled.sorted other wanted before onward held (kept held other apart lock)
  · intro waiter holder edge engaged wanted here
    obtain ⟨row, asked, lock⟩ := edge
    obtain ⟨⟨held, _⟩, own, rfl⟩ := engaged
    obtain ⟨apart, before⟩ := waits holder wanted here
    obtain ⟨other, asking⟩ := waits _ row asked
    exact settled.apart _ holder ⟨row, asking, kept row.2 holder apart lock⟩
      (engaged_of_lock db _ held (kept held _ other own)) wanted before

section Waits
variable (rank order : Row → Nat) (db : Machine Rows Row Op) (settled : Settled rank order db)
include settled

theorem settled_set (sid : SessionId) (rows : List Row) (fresh : Session Rows Row Op) (idle : fresh.phase.waiting = none) :
    Settled rank order ((db.acquire sid rows).set sid (some fresh)) := by
  refine settled_quiet rank order db _ sid settled ?_ (fun other apart => ?_) (fun row other apart lock => ?_)
  · rw [Machine.waiting, set_self]
    exact idle
  · rw [Machine.waiting, Machine.waiting, set_other _ _ _ _ apart]
    rfl
  · rcases (acquired_lock db sid rows row other).mp lock with ⟨_, own⟩ | old
    · exact absurd own apart
    · exact old

theorem settled_finish (sid : SessionId) (rows : Rows) : Settled rank order (db.finish sid rows) := by
  refine settled_quiet rank order db _ sid settled ?_ (fun other apart => ?_) (fun row other _ lock => ?_)
  · exact congrArg (fun session => Option.bind session fun found => found.phase.waiting) (set_self db sid none)
  · exact congrArg (fun session => Option.bind session fun found => found.phase.waiting) (set_other db sid none other apart)
  · exact ((released_lock sid db.locks row other).mp lock).1

theorem settled_wait [DecidableEq Row] (exclusive : Exclusive db) (sid : SessionId) (session : Session Rows Row Op)
    (wanted : Direction × Row) (locked rest : List Row) (next : List Row → Rows → Program Rows Row)
    (allowed : MayWait rank order db sid wanted) (busy : taken db.locks sid wanted.2 = true) :
    Settled rank order (db.enter sid session (.locking wanted.1 locked (wanted.2 :: rest) true next)) := by
  have waits : ∀ other, ∀ asked ∈ (db.enter sid session (.locking wanted.1 locked (wanted.2 :: rest) true next)).waiting other,
      (other = sid ∧ asked = wanted) ∨ (other ≠ sid ∧ asked ∈ db.waiting other) := by
    intro other asked here
    by_cases own : other = sid
    · rw [own, Machine.waiting, Machine.enter, set_self] at here
      exact .inl ⟨own, (Option.some.inj here).symm⟩
    · rw [Machine.waiting, Machine.enter, set_other _ _ _ _ own] at here
      exact .inr ⟨own, here⟩
  refine ⟨fun other asked here => ?_, fun other asked here onward held lock same => ?_, ?_⟩
  · rcases waits other asked here with ⟨_, rfl⟩ | ⟨_, before⟩
    · exact allowed.forward
    · exact settled.forward other asked before
  · rcases waits other asked here with ⟨rfl, rfl⟩ | ⟨_, before⟩
    · exact allowed.sorted onward (held, other) lock rfl same
    · exact settled.sorted other asked before onward held lock same
  · rintro waiter holder ⟨asked, asking, lock⟩ engaged blocked here
    rcases waits waiter asked asking with ⟨rfl, rfl⟩ | ⟨apart, before⟩
    · rcases waits holder blocked here with ⟨rfl, rfl⟩ | ⟨_, later⟩
      · -- The row is locked by another transaction, and by no two.
        obtain ⟨⟨row, owner⟩, held, found⟩ := List.any_eq_true.mp busy
        obtain ⟨rfl, other⟩ := of_decide_eq_true found
        exact absurd (exclusive _ _ _ held lock) other
      · exact allowed.clear engaged (asked.2, holder) lock rfl blocked later
    · rcases waits holder blocked here with ⟨rfl, rfl⟩ | ⟨_, later⟩
      · obtain ⟨entry, held, rfl⟩ := engaged
        exact fun crossing => allowed.uncrossed crossing entry held ⟨asked, before, lock⟩
      · exact settled.apart waiter holder ⟨asked, before, lock⟩ engaged blocked later

end Waits

section Runs
variable [DecidableEq Row] (rank order : Row → Nat) (code : Op → Program Rows Row)

theorem effect_settled (db next : Machine Rows Row Op) (event : Event Row Op) (effect : Effect code db event next)
    (exclusive : Exclusive db) (settled : Settled rank order db) (orderly : Orderly rank order db event) :
    Settled rank order next := by
  cases effect with
  | begun | wrote | finished => exact settled_set rank order db settled _ [] _ rfl
  | executed => exact settled_set rank order db settled _ [] _ (not_waiting _ _ _ _)
  | claimed => exact settled_set rank order db settled _ _ _ rfl
  | waited sid session direction locked rest row next active phase busy =>
      have asked : (direction, row) ∈ db.requested sid := by
        rw [Machine.requested, active]
        simp only [Option.bind_some, phase, Phase.requested, Option.mem_def]
      exact settled_wait rank order db settled exclusive sid session (direction, row) locked rest next
        (orderly (direction, row) asked busy) busy
  | got event sid session direction locked rest row waits next named active phase free =>
      exact settled_set rank order db settled sid [row] _ (not_waiting _ _ _ _)
  | committed | rolledBack => exact settled_finish rank order db settled _ _

def InOrder (db : Machine Rows Row Op) : Prop := Ranked rank db ∧ Exclusive db ∧ Settled rank order db

omit [DecidableEq Row] in
theorem start_in_order (rows : Rows) : InOrder rank order (start rows : Machine Rows Row Op) := by
  have unlocked : ∀ entry : Row × SessionId, entry ∉ (start rows : Machine Rows Row Op).locks := fun _ => List.not_mem_nil
  have silent : ∀ sid, ∀ wanted : Direction × Row, wanted ∉ (start rows : Machine Rows Row Op).waiting sid :=
    fun _ _ => Option.not_mem_none _
  refine ⟨⟨fun sid _ engaged => ?_, fun sid session active => ?_⟩, fun row one other lock => ?_, ⟨?_, ?_, ?_⟩⟩
  · obtain ⟨entry, lock, _⟩ := engaged
    exact unlocked entry lock
  · cases active
  · exact absurd lock (unlocked _)
  · exact fun sid wanted here => absurd here (silent sid wanted)
  · exact fun sid wanted here => absurd here (silent sid wanted)
  · exact fun _ holder _ _ wanted here => absurd here (silent holder wanted)

theorem disciplined_run_free (disciplined : ∀ op, Disciplined rank 0 (code op)) (rows : Rows) (events : List (Event Row Op))
    (last : Machine Rows Row Op) (meets : EveryStep (step code) (Orderly rank order) (start rows) events)
    (reached : run (step code) (start rows) events = some last) : ¬ Deadlocked last := by
  have held : InOrder rank order last := by
    refine run_keeps (step code) (Orderly rank order) (InOrder rank order) ?_ events (start rows) last
      (start_in_order rank order rows) meets reached
    rintro db event next ⟨ranked, exclusive, settled⟩ orderly moved
    have effect := step_effect code db next event moved
    exact ⟨effect_ranked code rank disciplined db next event effect ranked, effect_exclusive code db next event effect exclusive,
      effect_settled rank order code db next event effect exclusive settled orderly⟩
  exact in_order_free _ last (settled_in_order rank order last held.1 held.2.2)

end Runs

end LlmperfOrchestrator.Transactions

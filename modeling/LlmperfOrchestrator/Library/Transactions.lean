import LlmperfOrchestrator.Library.Runs
import Mathlib.Data.List.Perm.Subperm

set_option autoImplicit false

namespace LlmperfOrchestrator.Transactions

open Runs

abbrev SessionId := Nat

inductive Direction where
  | onward
  | crossing
  | backward
deriving DecidableEq, Repr

-- A transaction under READ COMMITTED, as the statements it has left. A locking statement names its
-- rows in what it sees when it starts, and goes on with the locked rows in what it sees when it
-- ends. A claim takes, in its order and up to its limit, the rows that no other transaction has
-- locked. A change that fails lets the transaction end only by a rollback.
inductive Program (Rows Row : Type) where
  | commit
  | write (change : Rows → Option Rows) (rest : Program Rows Row)
  | lock (direction : Direction) (matching : Rows → List Row) (rest : List Row → Rows → Program Rows Row)
  | claim (limit : Nat) (matching : Rows → List Row) (ordered : Rows → List Row → Bool)
      (rest : List Row → Rows → Program Rows Row)

inductive Phase (Rows Row : Type) where
  | ready (program : Program Rows Row)
  | locking (direction : Direction) (locked rest : List Row) (waits : Bool) (next : List Row → Rows → Program Rows Row)

structure Session (Rows Row Op : Type) where
  op : Op
  changes : Rows → Option Rows
  phase : Phase Rows Row

structure Machine (Rows Row Op : Type) where
  committed : Rows
  locks : List (Row × SessionId)
  sessions : SessionId → Option (Session Rows Row Op)

inductive Event (Row Op : Type) where
  | begin (sid : SessionId) (op : Op)
  | write (sid : SessionId)
  | execute (sid : SessionId) (order : List Row)
  | request (sid : SessionId)
  | grant (sid : SessionId)
  | finish (sid : SessionId)
  | commit (sid : SessionId)
  | rollback (sid : SessionId)

def Event.session {Row Op : Type} : Event Row Op → SessionId
  | .begin sid _ | .write sid | .execute sid _ | .request sid | .grant sid | .finish sid | .commit sid | .rollback sid => sid

variable {Rows Row Op : Type} [DecidableEq Row]

def start (rows : Rows) : Machine Rows Row Op := ⟨rows, [], fun _ => none⟩

def taken (locks : List (Row × SessionId)) (sid : SessionId) (row : Row) : Bool :=
  locks.any fun entry => entry.1 = row ∧ entry.2 ≠ sid

def release (locks : List (Row × SessionId)) (sid : SessionId) : List (Row × SessionId) :=
  locks.filter fun entry => entry.2 ≠ sid

namespace Machine

variable (db : Machine Rows Row Op)

def set (sid : SessionId) (session : Option (Session Rows Row Op)) : Machine Rows Row Op :=
  { db with sessions := fun other => if other = sid then session else db.sessions other }

def enter (sid : SessionId) (session : Session Rows Row Op) (phase : Phase Rows Row) : Machine Rows Row Op :=
  db.set sid (some { session with phase })

def acquire (sid : SessionId) (rows : List Row) : Machine Rows Row Op :=
  { db with locks := rows.map (fun row => (row, sid)) ++ db.locks }

def finish (sid : SessionId) (rows : Rows) : Machine Rows Row Op :=
  { db.set sid none with committed := rows, locks := release db.locks sid }

end Machine

def claimed (locks : List (Row × SessionId)) (sid : SessionId) (limit : Nat) (order : List Row) : List Row :=
  (order.filter fun row => ¬ taken locks sid row).take limit

-- One step of a running transaction. Rows are requested one by one, and a row another transaction
-- has locked is waited for.
def sessionStep (db : Machine Rows Row Op) (session : Session Rows Row Op) :
    Event Row Op → Option (Machine Rows Row Op)
  | .begin _ _ => none
  | .write sid =>
      match session.phase with
      | .ready (.write change rest) =>
          some (db.set sid (some { session with
            changes := fun rows => (session.changes rows).bind change, phase := .ready rest }))
      | _ => none
  | .execute sid order =>
      match session.phase, session.changes db.committed with
      | .ready (.lock direction matching rest), some rows =>
          if order.Perm (matching rows) then some (db.enter sid session (.locking direction [] order false rest)) else none
      | .ready (.claim limit matching ordered rest), some rows =>
          if order.Perm (matching rows) ∧ ordered rows order then
            let chosen := claimed db.locks sid limit order
            some ((db.acquire sid chosen).enter sid session (.locking .onward chosen [] false rest))
          else none
      | _, _ => none
  | .request sid =>
      match session.phase with
      | .locking direction locked (row :: rest) false next =>
          if taken db.locks sid row then some (db.enter sid session (.locking direction locked (row :: rest) true next))
          else some ((db.acquire sid [row]).enter sid session (.locking direction (locked ++ [row]) rest false next))
      | _ => none
  | .grant sid =>
      match session.phase with
      | .locking direction locked (row :: rest) true next =>
          if taken db.locks sid row then none
          else some ((db.acquire sid [row]).enter sid session (.locking direction (locked ++ [row]) rest false next))
      | _ => none
  | .finish sid =>
      match session.phase, session.changes db.committed with
      | .locking _ locked [] _ next, some rows => some (db.enter sid session (.ready (next locked rows)))
      | _, _ => none
  | .commit sid =>
      match session.phase, session.changes db.committed with
      | .ready .commit, some rows => some (db.finish sid rows)
      | _, _ => none
  | .rollback sid => some (db.finish sid db.committed)

def idleStep (code : Op → Program Rows Row) (db : Machine Rows Row Op) : Event Row Op → Option (Machine Rows Row Op)
  | .begin sid op => some (db.set sid (some ⟨op, some, .ready (code op)⟩))
  | .write _ | .execute _ _ | .request _ | .grant _ | .finish _ | .commit _ | .rollback _ => none

def step (code : Op → Program Rows Row) (db : Machine Rows Row Op) (event : Event Row Op) :
    Option (Machine Rows Row Op) :=
  match db.sessions event.session with
  | some session => sessionStep db session event
  | none => idleStep code db event

inductive Effect (code : Op → Program Rows Row) (db : Machine Rows Row Op) :
    Event Row Op → Machine Rows Row Op → Prop where
  | begun (sid : SessionId) (op : Op) (idle : db.sessions sid = none) :
      Effect code db (.begin sid op) (db.set sid (some ⟨op, some, .ready (code op)⟩))
  | wrote (sid : SessionId) (session : Session Rows Row Op) (change : Rows → Option Rows) (rest : Program Rows Row)
      (active : db.sessions sid = some session) (phase : session.phase = .ready (.write change rest)) :
      Effect code db (.write sid) (db.set sid (some { session with
        changes := fun rows => (session.changes rows).bind change, phase := .ready rest }))
  | executed (sid : SessionId) (session : Session Rows Row Op) (direction : Direction) (matching : Rows → List Row)
      (rest : List Row → Rows → Program Rows Row) (rows : Rows) (order : List Row) (active : db.sessions sid = some session)
      (phase : session.phase = .ready (.lock direction matching rest)) (view : session.changes db.committed = some rows)
      (perm : order.Perm (matching rows)) :
      Effect code db (.execute sid order) (db.enter sid session (.locking direction [] order false rest))
  | claimed (sid : SessionId) (session : Session Rows Row Op) (limit : Nat) (matching : Rows → List Row)
      (ordered : Rows → List Row → Bool) (rest : List Row → Rows → Program Rows Row) (rows : Rows) (order : List Row)
      (active : db.sessions sid = some session) (phase : session.phase = .ready (.claim limit matching ordered rest))
      (view : session.changes db.committed = some rows) (perm : order.Perm (matching rows)) :
      Effect code db (.execute sid order) ((db.acquire sid (claimed db.locks sid limit order)).enter sid session
        (.locking .onward (claimed db.locks sid limit order) [] false rest))
  | waited (sid : SessionId) (session : Session Rows Row Op) (direction : Direction) (locked rest : List Row) (row : Row)
      (next : List Row → Rows → Program Rows Row) (active : db.sessions sid = some session)
      (phase : session.phase = .locking direction locked (row :: rest) false next) (busy : taken db.locks sid row = true) :
      Effect code db (.request sid) (db.enter sid session (.locking direction locked (row :: rest) true next))
  | got (event : Event Row Op) (sid : SessionId) (session : Session Rows Row Op) (direction : Direction) (locked rest : List Row)
      (row : Row) (waits : Bool) (next : List Row → Rows → Program Rows Row) (named : event.session = sid)
      (active : db.sessions sid = some session) (phase : session.phase = .locking direction locked (row :: rest) waits next)
      (free : taken db.locks sid row = false) :
      Effect code db event
        ((db.acquire sid [row]).enter sid session (.locking direction (locked ++ [row]) rest false next))
  | finished (sid : SessionId) (session : Session Rows Row Op) (direction : Direction) (locked : List Row) (waits : Bool)
      (next : List Row → Rows → Program Rows Row) (rows : Rows) (active : db.sessions sid = some session)
      (phase : session.phase = .locking direction locked [] waits next) (view : session.changes db.committed = some rows) :
      Effect code db (.finish sid) (db.enter sid session (.ready (next locked rows)))
  | committed (sid : SessionId) (session : Session Rows Row Op) (rows : Rows) (active : db.sessions sid = some session)
      (phase : session.phase = .ready .commit) (view : session.changes db.committed = some rows) :
      Effect code db (.commit sid) (db.finish sid rows)
  | rolledBack (sid : SessionId) (session : Session Rows Row Op) (active : db.sessions sid = some session) :
      Effect code db (.rollback sid) (db.finish sid db.committed)

theorem session_step_effect (code : Op → Program Rows Row) (db next : Machine Rows Row Op) (session : Session Rows Row Op)
    (event : Event Row Op) (active : db.sessions event.session = some session)
    (taken : sessionStep db session event = some next) : Effect code db event next := by
  cases event with
  | begin sid op => cases taken
  | write sid =>
      rw [sessionStep] at taken
      split at taken
      · rename_i change rest phase
        cases taken
        exact .wrote sid session change rest active phase
      · cases taken
  | execute sid order =>
      rw [sessionStep] at taken
      split at taken
      · rename_i direction matching rest rows phase view
        obtain ⟨perm, same⟩ := Option.ite_none_right_eq_some.mp taken
        cases same
        exact .executed sid session direction matching rest rows order active phase view perm
      · rename_i limit matching ordered rest rows phase view
        obtain ⟨allowed, same⟩ := Option.ite_none_right_eq_some.mp taken
        cases same
        exact .claimed sid session limit matching ordered rest rows order active phase view allowed.1
      · cases taken
  | request sid =>
      rw [sessionStep] at taken
      split at taken
      · rename_i direction locked row rest next phase
        split at taken
        · rename_i busy
          cases taken
          exact .waited sid session direction locked rest row next active phase busy
        · rename_i free
          cases taken
          exact .got _ sid session direction locked rest row false next rfl active phase (Bool.not_eq_true _ ▸ free)
      · cases taken
  | grant sid =>
      rw [sessionStep] at taken
      split at taken
      · rename_i direction locked row rest next phase
        split at taken
        · cases taken
        · rename_i free
          cases taken
          exact .got _ sid session direction locked rest row true next rfl active phase (Bool.not_eq_true _ ▸ free)
      · cases taken
  | finish sid =>
      rw [sessionStep] at taken
      split at taken
      · rename_i direction locked waits next rows phase view
        cases taken
        exact .finished sid session direction locked waits next rows active phase view
      · cases taken
  | commit sid =>
      rw [sessionStep] at taken
      split at taken
      · rename_i rows phase view
        cases taken
        exact .committed sid session rows active phase view
      · cases taken
  | rollback sid =>
      cases taken
      exact .rolledBack sid session active

theorem step_effect (code : Op → Program Rows Row) (db next : Machine Rows Row Op) (event : Event Row Op)
    (moved : step code db event = some next) : Effect code db event next := by
  rw [step] at moved
  split at moved
  · rename_i session active
    exact session_step_effect code db next session event active moved
  · rename_i idle
    cases event with
    | begin sid op =>
        cases moved
        exact .begun sid op idle
    | write | execute | request | grant | finish | commit | rollback => cases moved

end LlmperfOrchestrator.Transactions

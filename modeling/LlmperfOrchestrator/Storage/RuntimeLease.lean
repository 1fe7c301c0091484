import LlmperfOrchestrator.Library.Runs

set_option autoImplicit false

namespace LlmperfOrchestrator.Storage.RuntimeLease

-- The single row of execution_leases. Times are microseconds of the clock of whoever reads them.
structure ExecutionLease where
  owner : String
  generation : Nat
  expiresAt : Int
deriving DecidableEq, Repr

structure Repository where
  runtimeOwner : Option String
  runtimeGeneration : Nat
deriving DecidableEq, Repr

def leaseSeconds : Int := 30

def leaseEnd (now : Int) : Int := now + leaseSeconds * 1000000

-- The comparison of _check_runtime, once the row is read.
def owned (repository : Repository) (lease : ExecutionLease) (now : Int) : Prop :=
  some lease.owner = repository.runtimeOwner ∧ lease.generation = repository.runtimeGeneration ∧ now < lease.expiresAt

instance (repository : Repository) (lease : ExecutionLease) (now : Int) : Decidable (owned repository lease now) :=
  inferInstanceAs (Decidable (_ ∧ _))

abbrev RepositoryId := Nat
abbrev TransactionId := Nat

-- Where a transaction stands between two awaits. leased holds the row it will write, installing and
-- clearing are past the commit and only have the owner field of the object still to set.
inductive Phase where
  | acquiring (owner : String)
  | claiming (owner : String)
  | leased (lease : ExecutionLease)
  | installing (lease : ExecutionLease)
  | checking
  | checked
  | unchecked
  | renewing
  | renewed (lease : ExecutionLease)
  | idle
  | releasing (owner : Option String) (generation : Nat)
  | released (lease : Option ExecutionLease)
  | clearing
deriving DecidableEq, Repr

structure Transaction where
  repository : RepositoryId
  phase : Phase
deriving DecidableEq, Repr

structure Write where
  repository : RepositoryId
  generation : Nat
  acquired : List Nat
deriving DecidableEq, Repr

structure Database where
  lease : Option ExecutionLease
  advisory : Option TransactionId
  exclusive : Option TransactionId
  shared : List TransactionId
  repositories : RepositoryId → Repository
  transactions : TransactionId → Option Transaction
  acquisitions : List (RepositoryId × Nat)
  writes : List Write

def empty : Database := ⟨none, none, none, [], fun _ => ⟨none, 0⟩, fun _ => none, [], []⟩

def Database.generation (db : Database) : Nat := db.lease.elim 0 ExecutionLease.generation

def Database.acquired (db : Database) (repository : RepositoryId) : List Nat :=
  (db.acquisitions.filter fun row => row.1 = repository).map Prod.snd

def Database.put (db : Database) (t : TransactionId) (transaction : Option Transaction) : Database :=
  { db with transactions := fun other => if other = t then transaction else db.transactions other }

def Database.unlock (db : Database) (t : TransactionId) : Database :=
  { db with
    advisory := if db.advisory = some t then none else db.advisory
    exclusive := if db.exclusive = some t then none else db.exclusive
    shared := db.shared.filter fun other => other ≠ t }

def Database.setRepository (db : Database) (id : RepositoryId) (repository : Repository) : Database :=
  { db with repositories := fun other => if other = id then repository else db.repositories other }

-- FOR UPDATE, and an UPDATE of the row, wait for every other holder; FOR SHARE only for a writer.
def Database.exclusiveFree (db : Database) : Prop := db.exclusive = none ∧ db.shared = []

instance (db : Database) : Decidable db.exclusiveFree := inferInstanceAs (Decidable (_ ∧ _))

inductive Event where
  | acquire (t : TransactionId) (repository : RepositoryId) (owner : String)
  | claim (t : TransactionId)
  | lease (t : TransactionId) (now : Int)
  | commitAcquire (t : TransactionId)
  | install (t : TransactionId)
  | beginWrite (t : TransactionId) (repository : RepositoryId)
  | checkWrite (t : TransactionId) (now : Int)
  | commitWrite (t : TransactionId)
  | renew (t : TransactionId) (repository : RepositoryId)
  | checkRenew (t : TransactionId) (now : Int)
  | commitRenew (t : TransactionId)
  | release (t : TransactionId) (repository : RepositoryId)
  | updateRelease (t : TransactionId) (now : Int)
  | commitRelease (t : TransactionId)
  | clear (t : TransactionId)
  | abort (t : TransactionId)
deriving DecidableEq, Repr

def Database.start (db : Database) (t : TransactionId) (repository : RepositoryId) (phase : Phase) : Option Database :=
  match db.transactions t with
  | some _ => none
  | none => some (db.put t (some ⟨repository, phase⟩))

-- The rows of a failed transaction are rolled back with its locks.
def Database.fail (db : Database) (t : TransactionId) : Database := (db.unlock t).put t none

-- The clock readings, and what fails, are part of the events.
def step (db : Database) : Event → Option Database
  | .acquire t repository owner => db.start t repository (.acquiring owner)
  | .claim t =>
      match db.transactions t with
      | some ⟨repository, .acquiring owner⟩ =>
          if db.advisory = none then
            some { db.put t (some ⟨repository, .claiming owner⟩) with advisory := some t }
          else none
      | _ => none
  | .lease t now =>
      match db.transactions t, db.lease with
      | some ⟨repository, .claiming owner⟩, none =>
          some (db.put t (some ⟨repository, .leased ⟨owner, 1, leaseEnd now⟩⟩))
      | some ⟨repository, .claiming owner⟩, some lease =>
          if db.exclusiveFree then
            if now < lease.expiresAt then some (db.fail t)
            else some { db.put t (some ⟨repository, .leased ⟨owner, lease.generation + 1, leaseEnd now⟩⟩) with
              exclusive := some t }
          else none
      | _, _ => none
  | .commitAcquire t =>
      match db.transactions t with
      | some ⟨repository, .leased lease⟩ =>
          some { (db.unlock t).put t (some ⟨repository, .installing lease⟩) with
            lease := some lease
            acquisitions := db.acquisitions ++ [(repository, lease.generation)] }
      | _ => none
  | .install t =>
      match db.transactions t with
      | some ⟨repository, .installing lease⟩ =>
          some ((db.put t none).setRepository repository ⟨some lease.owner, lease.generation⟩)
      | _ => none
  -- Repository-only administrative/test calls do not acquire runtime ownership.
  | .beginWrite t repository =>
      db.start t repository (if (db.repositories repository).runtimeOwner = none then .unchecked else .checking)
  | .checkWrite t now =>
      match db.transactions t, db.lease with
      | some ⟨_, .checking⟩, none => some (db.fail t)
      | some ⟨repository, .checking⟩, some lease =>
          if db.exclusive = none then
            if owned (db.repositories repository) lease now then
              some { db.put t (some ⟨repository, .checked⟩) with shared := t :: db.shared }
            else some (db.fail t)
          else none
      | _, _ => none
  | .commitWrite t =>
      match db.transactions t with
      | some ⟨repository, .checked⟩ =>
          some { db.fail t with writes := db.writes ++ [⟨repository, db.generation, db.acquired repository⟩] }
      | some ⟨repository, .unchecked⟩ =>
          some { db.fail t with writes := db.writes ++ [⟨repository, db.generation, db.acquired repository⟩] }
      | _ => none
  | .renew t repository =>
      db.start t repository (if (db.repositories repository).runtimeOwner = none then .idle else .renewing)
  | .checkRenew t now =>
      match db.transactions t, db.lease with
      | some ⟨_, .renewing⟩, none => some (db.fail t)
      | some ⟨repository, .renewing⟩, some lease =>
          if db.exclusiveFree then
            if owned (db.repositories repository) lease now then
              some { db.put t (some ⟨repository, .renewed { lease with expiresAt := leaseEnd now }⟩) with exclusive := some t }
            else some (db.fail t)
          else none
      | _, _ => none
  | .commitRenew t =>
      match db.transactions t with
      | some ⟨_, .renewed lease⟩ => some { db.fail t with lease := some lease }
      | some ⟨_, .idle⟩ => some (db.fail t)
      | _ => none
  | .release t repository =>
      db.start t repository (.releasing (db.repositories repository).runtimeOwner (db.repositories repository).runtimeGeneration)
  | .updateRelease t now =>
      match db.transactions t, db.lease with
      | some ⟨repository, .releasing _ _⟩, none => some (db.put t (some ⟨repository, .released none⟩))
      | some ⟨repository, .releasing owner generation⟩, some lease =>
          if some lease.owner = owner ∧ lease.generation = generation then
            if db.exclusiveFree then
              some { db.put t (some ⟨repository, .released (some { lease with expiresAt := now })⟩) with exclusive := some t }
            else none
          else some (db.put t (some ⟨repository, .released none⟩))
      | _, _ => none
  | .commitRelease t =>
      match db.transactions t with
      | some ⟨repository, .released none⟩ => some ((db.unlock t).put t (some ⟨repository, .clearing⟩))
      | some ⟨repository, .released (some lease)⟩ =>
          some { (db.unlock t).put t (some ⟨repository, .clearing⟩) with lease := some lease }
      | _ => none
  | .clear t =>
      match db.transactions t with
      | some ⟨repository, .clearing⟩ =>
          some ((db.put t none).setRepository repository
            ⟨none, (db.repositories repository).runtimeGeneration⟩)
      | _ => none
  | .abort t => (db.transactions t).map fun _ => db.fail t

attribute [grind =] step

end LlmperfOrchestrator.Storage.RuntimeLease

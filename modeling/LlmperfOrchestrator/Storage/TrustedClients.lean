import LlmperfOrchestrator.Library.Keyed
import LlmperfOrchestrator.Library.Runs
import LlmperfOrchestrator.Storage.Documents

set_option autoImplicit false

namespace LlmperfOrchestrator.Storage.TrustedClients

open Tables Runs

abbrev KeyId := String

structure User where
  displayName : Option String
  email : Option String
  role : String
  enabled : Bool
  updatedAt : Instant
  updatedBy : String
deriving DecidableEq, Repr

structure TrustedClientKey where
  username : String
  publicKeyPem : String
  enabled : Bool
  validUntil : Option Instant
  createdBy : String
deriving DecidableEq, Repr

inductive Action where
  | created | updated | rotated | revoked
deriving DecidableEq, Repr

structure ClientEvent where
  username : String
  keyId : Option KeyId
  action : Action
  actor : String
deriving DecidableEq, Repr

structure Directory where
  users : Table String User
  keys : Table KeyId TrustedClientKey
  events : List ClientEvent

def empty : Directory := ⟨.empty, .empty, []⟩

structure ClientWrite where
  username : String
  keyId : KeyId
  publicKeyPem : String
  role : String
  displayName : Option String
  email : Option String
  actor : String
deriving DecidableEq, Repr

structure TrustedClient where
  username : String
  keyId : KeyId
  publicKeyPem : String
  role : String
deriving DecidableEq, Repr

-- activeKeyId is absent from the reply of a revocation.
structure ClientView where
  username : String
  displayName : Option String
  email : Option String
  role : String
  enabled : Bool
  activeKeyId : Option KeyId
  updatedAt : Instant
  updatedBy : String
deriving DecidableEq, Repr

-- valid_until IS NULL OR valid_until > now, on an enabled key.
def TrustedClientKey.accepted (key : TrustedClientKey) (now : Instant) : Bool :=
  key.enabled && key.validUntil.all fun deadline => decide (now < deadline)

def getTrustedClientByKeyId (directory : Directory) (now : Instant) (keyId : KeyId) : Option TrustedClient := do
  let key ← directory.keys.get keyId
  let user ← directory.users.get key.username
  if key.accepted now && user.enabled then some ⟨key.username, keyId, key.publicKeyPem, user.role⟩ else none

def graceEnd (grace : Nat) (now : Instant) : Instant := now + grace * 1000000

-- current_keys of an upsert: every other key of the user that is still valid.
def current (write : ClientWrite) (now : Instant) (keyId : KeyId) (key : TrustedClientKey) : Bool :=
  key.username = write.username && keyId != write.keyId && key.accepted now

def supersede (grace : Nat) (now : Instant) (write : ClientWrite) (keyId : KeyId) (key : TrustedClientKey) :
    TrustedClientKey :=
  if current write now keyId key then { key with validUntil := some (graceEnd grace now) } else key

def registered (write : ClientWrite) : Option TrustedClientKey → TrustedClientKey
  | none => ⟨write.username, write.publicKeyPem, true, none, write.actor⟩
  | some key => { key with publicKeyPem := write.publicKeyPem, enabled := true, validUntil := none }

def writtenUser (now : Instant) (write : ClientWrite) : User :=
  ⟨write.displayName, write.email, write.role, true, now, write.actor⟩

def conflicting (directory : Directory) (write : ClientWrite) : Bool :=
  (directory.keys.get write.keyId).any fun key => key.username != write.username

def upsertAction (directory : Directory) (now : Instant) (write : ClientWrite) : Action :=
  if directory.keys.any (current write now) then .rotated
  else if (directory.users.get write.username).isNone then .created
  else .updated

def upserted (grace : Nat) (directory : Directory) (now : Instant) (write : ClientWrite) : Directory where
  users := directory.users.put write.username (writtenUser now write)
  keys := (directory.keys.update (supersede grace now write)).put write.keyId
    (registered write (directory.keys.get write.keyId))
  events := directory.events ++ [⟨write.username, some write.keyId, upsertAction directory now write, write.actor⟩]

def upsertTrustedClient (grace : Nat) (directory : Directory) (now : Instant) (write : ClientWrite) :
    Directory × Option ClientView :=
  if conflicting directory write then (directory, none)
  else
    (upserted grace directory now write,
      some ⟨write.username, write.displayName, write.email, write.role, true, some write.keyId, now, write.actor⟩)

def revokeTrustedClient (directory : Directory) (now : Instant) (username actor : String) :
    Directory × Option ClientView :=
  match directory.users.get username with
  | none => (directory, none)
  | some user =>
      ({ users := directory.users.put username { user with enabled := false, updatedAt := now, updatedBy := actor }
         keys := directory.keys.update fun _ key =>
           if key.username = username then { key with enabled := false } else key
         events := directory.events ++ [⟨username, none, .revoked, actor⟩] },
        some ⟨username, user.displayName, user.email, user.role, false, none, now, actor⟩)

inductive Call where
  | upsert (now : Instant) (write : ClientWrite)
  | revoke (now : Instant) (username actor : String)
deriving DecidableEq, Repr

def perform (grace : Nat) (directory : Directory) : Call → Directory × Option ClientView
  | .upsert now write => upsertTrustedClient grace directory now write
  | .revoke now username actor => revokeTrustedClient directory now username actor

def step (grace : Nat) (directory : Directory) (call : Call) : Option Directory := some (perform grace directory call).1

def registers (username : String) (keyId : KeyId) : Call → Bool
  | .upsert _ write => write.username = username && write.keyId = keyId
  | .revoke _ _ _ => false

inductive KeyGoes (grace : Nat) (before : TrustedClientKey) (keyId : KeyId) : Call → TrustedClientKey → Prop where
  | kept (call : Call) : KeyGoes grace before keyId call before
  | superseded (now : Instant) (write : ClientWrite) (held : current write now keyId before = true) :
      KeyGoes grace before keyId (.upsert now write) { before with validUntil := some (graceEnd grace now) }
  | renewed (now : Instant) (write : ClientWrite) (owner : write.username = before.username) (same : write.keyId = keyId) :
      KeyGoes grace before keyId (.upsert now write)
        { before with publicKeyPem := write.publicKeyPem, enabled := true, validUntil := none }
  | disabled (now : Instant) (actor : String) :
      KeyGoes grace before keyId (.revoke now before.username actor) { before with enabled := false }

theorem unconflicted (directory : Directory) (write : ClientWrite) (free : conflicting directory write = false)
    (key : TrustedClientKey) (read : directory.keys.get write.keyId = some key) : write.username = key.username := by
  by_contra other
  simp [conflicting, read, Ne.symm other] at free

theorem upserted_key (grace : Nat) (directory : Directory) (now : Instant) (write : ClientWrite)
    (free : conflicting directory write = false) (keyId : KeyId) (before : TrustedClientKey)
    (read : directory.keys.get keyId = some before) :
    ∃ after, (upserted grace directory now write).keys.get keyId = some after ∧
      KeyGoes grace before keyId (.upsert now write) after := by
  by_cases same : keyId = write.keyId
  · subst same
    have owner := unconflicted directory write free before read
    refine ⟨_, table_get_put_self _ _ _, ?_⟩
    rw [read]
    exact .renewed now write owner rfl
  · refine ⟨supersede grace now write keyId before, ?_, ?_⟩
    · rw [upserted, table_get_put_other _ _ _ _ same, table_get_update, read]
      rfl
    · by_cases held : current write now keyId before
      · rw [supersede, if_pos held]
        exact .superseded now write held
      · rw [supersede, if_neg held]
        exact .kept _

theorem key_goes (grace : Nat) (directory : Directory) (call : Call) (keyId : KeyId) (before : TrustedClientKey)
    (read : directory.keys.get keyId = some before) :
    ∃ after, (perform grace directory call).1.keys.get keyId = some after ∧ KeyGoes grace before keyId call after := by
  cases call with
  | upsert now write =>
      cases refused : conflicting directory write with
      | true =>
          rw [perform, upsertTrustedClient, if_pos refused]
          exact ⟨before, read, .kept _⟩
      | false =>
          rw [perform, upsertTrustedClient, refused, if_neg Bool.false_ne_true]
          exact upserted_key grace directory now write refused keyId before read
  | revoke now username actor =>
      cases known : directory.users.get username with
      | none =>
          rw [perform, revokeTrustedClient, known]
          exact ⟨before, read, .kept _⟩
      | some user =>
          rw [perform, revokeTrustedClient, known]
          by_cases owner : before.username = username
          · subst owner
            refine ⟨{ before with enabled := false }, ?_, .disabled now actor⟩
            rw [table_get_update, read]
            exact congrArg some (if_pos rfl)
          · refine ⟨before, ?_, .kept _⟩
            rw [table_get_update, read]
            exact congrArg some (if_neg owner)

theorem goes_owner (grace : Nat) (before after : TrustedClientKey) (keyId : KeyId) (call : Call)
    (goes : KeyGoes grace before keyId call after) : after.username = before.username := by
  cases goes <;> rfl

theorem key_origin (grace : Nat) (directory : Directory) (call : Call) (keyId : KeyId) (after : TrustedClientKey)
    (read : (perform grace directory call).1.keys.get keyId = some after) (absent : directory.keys.get keyId = none) :
    ∃ now write, call = .upsert now write ∧ write.keyId = keyId ∧ after = registered write none := by
  cases call with
  | upsert now write =>
      cases refused : conflicting directory write with
      | true =>
          rw [perform, upsertTrustedClient, if_pos refused, absent] at read
          cases read
      | false =>
          rw [perform, upsertTrustedClient, refused, if_neg Bool.false_ne_true] at read
          rcases table_put_cases _ _ _ _ _ read with ⟨same, fresh⟩ | ⟨_, stored⟩
          · subst same
            rw [absent] at fresh
            exact ⟨now, write, rfl, rfl, fresh⟩
          · rw [table_get_update, absent] at stored
            cases stored
  | revoke now username actor =>
      cases known : directory.users.get username with
      | none =>
          rw [perform, revokeTrustedClient, known, absent] at read
          cases read
      | some user =>
          rw [perform, revokeTrustedClient, known, table_get_update, absent] at read
          cases read

end LlmperfOrchestrator.Storage.TrustedClients

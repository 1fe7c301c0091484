import LlmperfOrchestrator.Storage.RuntimeLease

set_option autoImplicit false

namespace LlmperfOrchestrator.Storage.RuntimeLease

def Phased (db : Database) (t : TransactionId) (transaction : Transaction) : Prop :=
  match transaction.phase with
  | .claiming _ => db.advisory = some t
  | .leased lease => db.advisory = some t ∧ lease.generation = db.generation + 1 ∧ (db.lease ≠ none → db.exclusive = some t)
  | .installing lease => (transaction.repository, lease.generation) ∈ db.acquisitions
  | .checked => t ∈ db.shared ∧ (transaction.repository, db.generation) ∈ db.acquisitions
  | .renewed lease => db.exclusive = some t ∧ lease.generation = db.generation
  | .released (some lease) => db.exclusive = some t ∧ lease.generation = db.generation
  | _ => True

structure Consistent (db : Database) : Prop where
  generations : db.acquisitions.map Prod.snd = List.range' 1 db.generation
  positive : ∀ lease, db.lease = some lease → 1 ≤ lease.generation
  alone : db.exclusive ≠ none → db.shared = []
  free : db.lease = none → db.exclusive = none ∧ db.shared = []
  repositories : ∀ id, (db.repositories id).runtimeGeneration = 0 ∨ (id, (db.repositories id).runtimeGeneration) ∈ db.acquisitions
  transactions : ∀ t transaction, db.transactions t = some transaction → Phased db t transaction

structure Keeps (t : TransactionId) (db next : Database) : Prop where
  advisory : db.advisory = some t → next.advisory = some t
  exclusive : db.exclusive = some t → next.exclusive = some t
  shared : t ∈ db.shared → t ∈ next.shared
  acquisitions : ∀ row ∈ db.acquisitions, row ∈ next.acquisitions
  generation : (db.advisory = some t ∨ db.exclusive = some t ∨ t ∈ db.shared) →
    next.generation = db.generation ∧ (next.lease = none ↔ db.lease = none)

theorem phased_keeps (t : TransactionId) (db next : Database) (keeps : Keeps t db next) (transaction : Transaction)
    (phased : Phased db t transaction) : Phased next t transaction := by
  obtain ⟨repository, phase⟩ := transaction
  cases phase with
  | claiming owner => exact keeps.advisory phased
  | leased lease =>
      obtain ⟨advisory, generation, exclusive⟩ := phased
      obtain ⟨same, row⟩ := keeps.generation (.inl advisory)
      refine ⟨keeps.advisory advisory, ?_, fun stored => keeps.exclusive (exclusive (mt row.mpr stored))⟩
      rw [same]
      exact generation
  | installing lease => exact keeps.acquisitions _ phased
  | checked =>
      obtain ⟨shared, acquired⟩ := phased
      obtain ⟨same, _⟩ := keeps.generation (.inr (.inr shared))
      refine ⟨keeps.shared shared, ?_⟩
      rw [same]
      exact keeps.acquisitions _ acquired
  | renewed lease =>
      obtain ⟨exclusive, generation⟩ := phased
      obtain ⟨same, _⟩ := keeps.generation (.inr (.inl exclusive))
      refine ⟨keeps.exclusive exclusive, ?_⟩
      rw [same]
      exact generation
  | released lease =>
      cases lease with
      | none => trivial
      | some lease =>
          obtain ⟨exclusive, generation⟩ := phased
          obtain ⟨same, _⟩ := keeps.generation (.inr (.inl exclusive))
          refine ⟨keeps.exclusive exclusive, ?_⟩
          rw [same]
          exact generation
  | acquiring | checking | unchecked | renewing | idle | releasing | clearing => trivial

theorem put_transaction (db : Database) (t other : TransactionId) (transaction : Option Transaction) (found : Transaction)
    (held : (db.put t transaction).transactions other = some found) :
    (other = t ∧ transaction = some found) ∨ (other ≠ t ∧ db.transactions other = some found) := by
  dsimp only [Database.put] at held
  by_cases same : other = t
  · rw [if_pos same] at held
    exact .inl ⟨same, held⟩
  · rw [if_neg same] at held
    exact .inr ⟨same, held⟩

theorem keeps_unlock (db : Database) (t other : TransactionId) (apart : other ≠ t) : Keeps other db (db.unlock t) := by
  refine ⟨fun held => ?_, fun held => ?_, fun held => ?_, fun _ member => member, fun _ => ⟨rfl, .rfl⟩⟩
  · rw [Database.unlock, held, if_neg (fun same => apart (Option.some.inj same))]
  · rw [Database.unlock, held, if_neg (fun same => apart (Option.some.inj same))]
  · exact List.mem_filter.mpr ⟨held, decide_eq_true apart⟩

section Steps
variable (db next : Database) (t : TransactionId) (consistent : Consistent db)
include consistent

theorem transactions_step (others : ∀ other, other ≠ t → next.transactions other = db.transactions other)
    (keeps : ∀ other, other ≠ t → Keeps other db next)
    (here : ∀ transaction, next.transactions t = some transaction → Phased next t transaction) (other : TransactionId)
    (transaction : Transaction) (held : next.transactions other = some transaction) : Phased next other transaction := by
  by_cases same : other = t
  · rw [same] at held ⊢
    exact here transaction held
  · rw [others other same] at held
    exact phased_keeps other db next (keeps other same) transaction (consistent.transactions other transaction held)

theorem statement_step (lease : next.lease = db.lease) (acquisitions : next.acquisitions = db.acquisitions)
    (repositories : next.repositories = db.repositories) (alone : next.exclusive ≠ none → next.shared = [])
    (free : db.lease = none → next.exclusive = none ∧ next.shared = [])
    (others : ∀ other, other ≠ t → next.transactions other = db.transactions other)
    (keeps : ∀ other, other ≠ t → Keeps other db next)
    (here : ∀ transaction, next.transactions t = some transaction → Phased next t transaction) : Consistent next := by
  have generation : next.generation = db.generation := by rw [Database.generation, lease, Database.generation]
  refine ⟨?_, ?_, alone, ?_, ?_, transactions_step db next t consistent others keeps here⟩
  · rw [acquisitions, generation]
    exact consistent.generations
  · rw [lease]
    exact consistent.positive
  · rw [lease]
    exact free
  · rw [acquisitions, repositories]
    exact consistent.repositories

theorem put_consistent (transaction : Option Transaction) (here : ∀ found, transaction = some found → Phased db t found) :
    Consistent (db.put t transaction) := by
  apply statement_step db (db.put t transaction) t consistent
  · rfl
  · rfl
  · rfl
  · exact consistent.alone
  · exact consistent.free
  · intro other apart
    exact if_neg apart
  · intro other _
    exact ⟨id, id, id, fun _ member => member, fun _ => ⟨rfl, .rfl⟩⟩
  · intro found held
    cases put_transaction db t t transaction found held with
    | inl same => exact here found same.2
    | inr apart => exact absurd rfl apart.1

theorem unlock_consistent (transaction : Option Transaction)
    (here : ∀ found, transaction = some found → Phased (db.unlock t) t found) :
    Consistent ((db.unlock t).put t transaction) := by
  apply statement_step db ((db.unlock t).put t transaction) t consistent
  · rfl
  · rfl
  · rfl
  · intro held
    have before : db.exclusive ≠ none := by
      intro none
      apply held
      simp [Database.put, Database.unlock, none]
    dsimp only [Database.put, Database.unlock]
    rw [consistent.alone before]
    rfl
  · intro none
    obtain ⟨exclusive, shared⟩ := consistent.free none
    simp [Database.put, Database.unlock, exclusive, shared]
  · intro other apart
    exact if_neg apart
  · intro other apart
    have unlocked := keeps_unlock db t other apart
    exact ⟨unlocked.advisory, unlocked.exclusive, unlocked.shared, unlocked.acquisitions, unlocked.generation⟩
  · intro found held
    cases put_transaction (db.unlock t) t t transaction found held with
    | inl same => exact here found same.2
    | inr apart => exact absurd rfl apart.1

theorem fail_consistent : Consistent (db.fail t) :=
  unlock_consistent db t consistent none (fun _ none => by cases none)

theorem exclusive_consistent (stored : db.lease ≠ none) (available : db.exclusiveFree) (transaction : Transaction)
    (here : Phased { db with exclusive := some t } t transaction) :
    Consistent { db.put t (some transaction) with exclusive := some t } := by
  apply statement_step db { db.put t (some transaction) with exclusive := some t } t consistent
  · rfl
  · rfl
  · rfl
  · intro _
    exact available.2
  · intro none
    exact absurd none stored
  · intro other apart
    exact if_neg apart
  · intro other apart
    refine ⟨id, fun held => ?_, id, fun _ member => member, fun _ => ⟨rfl, .rfl⟩⟩
    rw [available.1] at held
    cases held
  · intro found held
    cases put_transaction db t t (some transaction) found held with
    | inl same =>
        obtain ⟨_, whole⟩ := same
        cases whole
        exact here
    | inr apart => exact absurd rfl apart.1

theorem shared_consistent (stored : db.lease ≠ none) (available : db.exclusive = none) (transaction : Transaction)
    (here : Phased { db with shared := t :: db.shared } t transaction) :
    Consistent { db.put t (some transaction) with shared := t :: db.shared } := by
  apply statement_step db { db.put t (some transaction) with shared := t :: db.shared } t consistent
  · rfl
  · rfl
  · rfl
  · intro held
    exact absurd available held
  · intro none
    exact absurd none stored
  · intro other apart
    exact if_neg apart
  · intro other _
    exact ⟨id, id, List.mem_cons_of_mem t, fun _ member => member, fun _ => ⟨rfl, .rfl⟩⟩
  · intro found held
    cases put_transaction db t t (some transaction) found held with
    | inl same =>
        obtain ⟨_, whole⟩ := same
        cases whole
        exact here
    | inr apart => exact absurd rfl apart.1

theorem advisory_consistent (available : db.advisory = none) (transaction : Transaction)
    (here : Phased { db with advisory := some t } t transaction) :
    Consistent { db.put t (some transaction) with advisory := some t } := by
  apply statement_step db { db.put t (some transaction) with advisory := some t } t consistent
  · rfl
  · rfl
  · rfl
  · exact consistent.alone
  · exact consistent.free
  · intro other apart
    exact if_neg apart
  · intro other apart
    refine ⟨fun held => ?_, id, id, fun _ member => member, fun _ => ⟨rfl, .rfl⟩⟩
    rw [available] at held
    cases held
  · intro found held
    cases put_transaction db t t (some transaction) found held with
    | inl same =>
        obtain ⟨_, whole⟩ := same
        cases whole
        exact here
    | inr apart => exact absurd rfl apart.1

theorem expiry_consistent (lease : ExecutionLease) (stored : db.lease ≠ none) (same : lease.generation = db.generation)
    (transaction : Option Transaction) (here : ∀ found, transaction = some found → ∀ other : Database, Phased other t found) :
    Consistent { (db.unlock t).put t transaction with lease := some lease } := by
  have kept := unlock_consistent db t consistent transaction fun found whole => here found whole _
  have generation : ({ (db.unlock t).put t transaction with lease := some lease } : Database).generation = db.generation := same
  obtain ⟨before, found⟩ := Option.ne_none_iff_exists'.mp stored
  refine ⟨?_, ?_, kept.alone, (fun none => by cases none), kept.repositories, ?_⟩
  · rw [generation]
    exact consistent.generations
  · intro other held
    cases held
    have positive := consistent.positive before found
    have read : db.generation = before.generation := by rw [Database.generation, found]; rfl
    omega
  · apply transactions_step db _ t consistent
    · intro other apart
      exact if_neg apart
    · intro other apart
      have unlocked := keeps_unlock db t other apart
      refine ⟨unlocked.advisory, unlocked.exclusive, unlocked.shared, unlocked.acquisitions, fun _ => ⟨generation, ?_⟩⟩
      exact ⟨(fun none => by cases none), fun none => absurd none stored⟩
    · intro found held
      cases put_transaction (db.unlock t) t t transaction found held with
      | inl whole => exact here found whole.2 _
      | inr apart => exact absurd rfl apart.1

end Steps

end LlmperfOrchestrator.Storage.RuntimeLease

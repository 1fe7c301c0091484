import LlmperfOrchestrator.Storage.LeaseInvariants
import Mathlib.Data.List.Nodup

set_option autoImplicit false

namespace LlmperfOrchestrator.Storage.RuntimeLease

open Runs

theorem generation_of (db : Database) (lease : ExecutionLease) (stored : db.lease = some lease) :
    db.generation = lease.generation := by
  rw [Database.generation, stored]
  rfl

theorem empty_consistent : Consistent empty := by
  refine ⟨rfl, ?_, ?_, fun _ => ⟨rfl, rfl⟩, fun _ => .inl rfl, ?_⟩
  · intro lease stored
    cases stored
  · intro held
    exact absurd rfl held
  · intro t transaction held
    cases held

section Steps
variable (db : Database) (consistent : Consistent db)
include consistent

theorem owned_acquired (id : RepositoryId) (lease : ExecutionLease) (stored : db.lease = some lease) (now : Int)
    (owns : owned (db.repositories id) lease now) : (id, db.generation) ∈ db.acquisitions := by
  obtain ⟨_, same, _⟩ := owns
  rw [generation_of db lease stored, same]
  cases consistent.repositories id with
  | inr acquired => exact acquired
  | inl never =>
      have positive := consistent.positive lease stored
      omega

variable (t : TransactionId) (repository : RepositoryId)

theorem commit_acquire_consistent (lease : ExecutionLease) (held : db.transactions t = some ⟨repository, .leased lease⟩) :
    Consistent { (db.unlock t).put t (some ⟨repository, .installing lease⟩) with
      lease := some lease, acquisitions := db.acquisitions ++ [(repository, lease.generation)] } := by
  obtain ⟨advisory, generation, exclusive⟩ := consistent.transactions t _ held
  have base := unlock_consistent db t consistent none (fun _ none => by cases none)
  -- No other transaction holds a lock while the generation moves on.
  have alone : ∀ other, other ≠ t → ¬ (db.advisory = some other ∨ db.exclusive = some other ∨ other ∈ db.shared) := by
    rintro other apart (claims | writes | reads)
    · rw [advisory] at claims
      exact apart (Option.some.inj claims).symm
    · by_cases stored : db.lease = none
      · rw [(consistent.free stored).1] at writes
        cases writes
      · rw [exclusive stored] at writes
        exact apart (Option.some.inj writes).symm
    · by_cases stored : db.lease = none
      · rw [(consistent.free stored).2] at reads
        cases reads
      · rw [consistent.alone (by rw [exclusive stored]; exact Option.some_ne_none t)] at reads
        cases reads
  refine ⟨?_, ?_, base.alone, (fun none => by cases none), ?_, ?_⟩
  · have shape : List.range' 1 lease.generation = List.range' 1 db.generation ++ [lease.generation] := by
      rw [generation, List.range'_1_concat, Nat.add_comm]
    show (db.acquisitions ++ [(repository, lease.generation)]).map Prod.snd = List.range' 1 lease.generation
    rw [List.map_append, consistent.generations, shape]
    rfl
  · intro other stored
    cases stored
    omega
  · intro id
    exact (consistent.repositories id).imp_right (List.mem_append_left _)
  · apply transactions_step db _ t consistent
    · intro other apart
      exact if_neg apart
    · intro other apart
      have unlocked := keeps_unlock db t other apart
      refine ⟨unlocked.advisory, unlocked.exclusive, unlocked.shared, fun _ member => List.mem_append_left _ member, ?_⟩
      intro locked
      exact absurd locked (alone other apart)
    · intro found same
      cases put_transaction (db.unlock t) t t _ found same with
      | inl whole =>
          obtain ⟨_, whole⟩ := whole
          cases whole
          exact List.mem_append_right _ (List.mem_singleton.mpr rfl)
      | inr apart => exact absurd rfl apart.1

theorem set_repository_consistent (id : RepositoryId) (repository : Repository)
    (here : repository.runtimeGeneration = 0 ∨ (id, repository.runtimeGeneration) ∈ db.acquisitions) :
    Consistent (db.setRepository id repository) := by
  refine ⟨consistent.generations, consistent.positive, consistent.alone, consistent.free, ?_, consistent.transactions⟩
  intro other
  by_cases same : other = id
  · simp only [Database.setRepository, same, if_true]
    exact here
  · simp only [Database.setRepository, if_neg same]
    exact consistent.repositories other

theorem writes_consistent (writes : List Write) : Consistent { db with writes } :=
  ⟨consistent.generations, consistent.positive, consistent.alone, consistent.free, consistent.repositories,
    consistent.transactions⟩

theorem start_consistent (phase : Phase) (next : Database) (taken : db.start t repository phase = some next)
    (here : ∀ other : Database, Phased other t ⟨repository, phase⟩) : Consistent next := by
  rw [Database.start] at taken
  split at taken
  · cases taken
  · cases taken
    apply put_consistent db t consistent
    intro found same
    cases same
    exact here db

variable (next : Database)

theorem claim_kept (taken : step db (.claim t) = some next) : Consistent next := by
  rw [step] at taken
  split at taken
  · obtain ⟨available, same⟩ := Option.ite_none_right_eq_some.mp taken
    cases same
    exact advisory_consistent db t consistent available _ rfl
  · cases taken

theorem lease_kept (now : Int) (next : Database) (taken : step db (.lease t now) = some next) : Consistent next := by
  rw [step] at taken
  split at taken
  · rename_i repository owner held absent
    cases taken
    have advisory := consistent.transactions t _ held
    apply put_consistent db t consistent
    intro found same
    cases same
    refine ⟨advisory, ?_, fun stored => absurd absent stored⟩
    rw [Database.generation, absent]
    rfl
  · rename_i repository owner lease held stored
    have advisory := consistent.transactions t _ held
    split at taken
    · rename_i available
      split at taken
      · cases taken
        exact fail_consistent db t consistent
      · cases taken
        apply exclusive_consistent db t consistent (by rw [stored]; exact Option.some_ne_none lease) available
        refine ⟨advisory, ?_, fun _ => rfl⟩
        have generation := generation_of db lease stored
        rw [Database.generation] at generation ⊢
        rw [generation]
    · cases taken
  · cases taken

theorem commit_acquire_kept (taken : step db (.commitAcquire t) = some next) : Consistent next := by
  rw [step] at taken
  split at taken
  · rename_i repository lease held
    cases taken
    exact commit_acquire_consistent db consistent t repository lease held
  · cases taken

theorem install_kept (taken : step db (.install t) = some next) : Consistent next := by
  rw [step] at taken
  split at taken
  · rename_i repository lease held
    cases taken
    apply set_repository_consistent
    · exact put_consistent db t consistent none (fun _ none => by cases none)
    · exact .inr (consistent.transactions t _ held)
  · cases taken

theorem begin_write_kept (next : Database) (taken : step db (.beginWrite t repository) = some next) : Consistent next := by
  apply start_consistent db consistent t repository _ next taken
  intro other
  split <;> trivial

theorem check_write_kept (now : Int) (next : Database) (taken : step db (.checkWrite t now) = some next) : Consistent next := by
  rw [step] at taken
  split at taken
  · cases taken
    exact fail_consistent db t consistent
  · rename_i repository lease held stored
    split at taken
    · rename_i available
      split at taken
      · rename_i owns
        cases taken
        apply shared_consistent db t consistent (by rw [stored]; exact Option.some_ne_none lease) available
        exact ⟨List.mem_cons_self, owned_acquired db consistent repository lease stored now owns⟩
      · cases taken
        exact fail_consistent db t consistent
    · cases taken
  · cases taken

theorem commit_write_kept (taken : step db (.commitWrite t) = some next) : Consistent next := by
  rw [step] at taken
  split at taken
  · cases taken
    exact writes_consistent _ (fail_consistent db t consistent) _
  · cases taken
    exact writes_consistent _ (fail_consistent db t consistent) _
  · cases taken

theorem renew_kept (next : Database) (taken : step db (.renew t repository) = some next) : Consistent next := by
  apply start_consistent db consistent t repository _ next taken
  intro other
  split <;> trivial

theorem check_renew_kept (now : Int) (next : Database) (taken : step db (.checkRenew t now) = some next) : Consistent next := by
  rw [step] at taken
  split at taken
  · cases taken
    exact fail_consistent db t consistent
  · rename_i repository lease held stored
    split at taken
    · rename_i available
      split at taken
      · cases taken
        apply exclusive_consistent db t consistent (by rw [stored]; exact Option.some_ne_none lease) available
        exact ⟨rfl, (generation_of db lease stored).symm⟩
      · cases taken
        exact fail_consistent db t consistent
    · cases taken
  · cases taken

theorem commit_renew_kept (taken : step db (.commitRenew t) = some next) : Consistent next := by
  rw [step] at taken
  split at taken
  · rename_i repository lease held
    cases taken
    obtain ⟨exclusive, same⟩ := consistent.transactions t _ held
    have stored : db.lease ≠ none := fun absent => by
      rw [(consistent.free absent).1] at exclusive
      cases exclusive
    exact expiry_consistent db t consistent lease stored same none (fun _ none => by cases none)
  · cases taken
    exact fail_consistent db t consistent
  · cases taken

theorem update_release_kept (now : Int) (next : Database) (taken : step db (.updateRelease t now) = some next) : Consistent next := by
  rw [step] at taken
  split at taken
  · cases taken
    apply put_consistent db t consistent
    intro found same
    cases same
    trivial
  · rename_i repository owner generation lease held stored
    split at taken
    · split at taken
      · rename_i available
        cases taken
        apply exclusive_consistent db t consistent (by rw [stored]; exact Option.some_ne_none lease) available
        exact ⟨rfl, (generation_of db lease stored).symm⟩
      · cases taken
    · cases taken
      apply put_consistent db t consistent
      intro found same
      cases same
      trivial
  · cases taken

theorem commit_release_kept (taken : step db (.commitRelease t) = some next) : Consistent next := by
  rw [step] at taken
  split at taken
  · cases taken
    apply unlock_consistent db t consistent
    intro found same
    cases same
    trivial
  · rename_i repository lease held
    cases taken
    obtain ⟨exclusive, same⟩ := consistent.transactions t _ held
    have stored : db.lease ≠ none := fun absent => by
      rw [(consistent.free absent).1] at exclusive
      cases exclusive
    apply expiry_consistent db t consistent lease stored same
    intro found whole other
    cases whole
    trivial
  · cases taken

theorem clear_kept (taken : step db (.clear t) = some next) : Consistent next := by
  rw [step] at taken
  split at taken
  · rename_i repository held
    cases taken
    apply set_repository_consistent
    · exact put_consistent db t consistent none (fun _ none => by cases none)
    · exact consistent.repositories repository
  · cases taken

theorem step_consistent (event : Event) (next : Database) (taken : step db event = some next) : Consistent next := by
  cases event with
  | acquire t repository owner => exact start_consistent db consistent t repository _ next taken fun _ => trivial
  | claim t => exact claim_kept db consistent t next taken
  | lease t now => exact lease_kept db consistent t now next taken
  | commitAcquire t => exact commit_acquire_kept db consistent t next taken
  | install t => exact install_kept db consistent t next taken
  | beginWrite t repository => exact begin_write_kept db consistent t repository next taken
  | checkWrite t now => exact check_write_kept db consistent t now next taken
  | commitWrite t => exact commit_write_kept db consistent t next taken
  | renew t repository => exact renew_kept db consistent t repository next taken
  | checkRenew t now => exact check_renew_kept db consistent t now next taken
  | commitRenew t => exact commit_renew_kept db consistent t next taken
  | release t repository => exact start_consistent db consistent t repository _ next taken fun _ => trivial
  | updateRelease t now => exact update_release_kept db consistent t now next taken
  | commitRelease t => exact commit_release_kept db consistent t next taken
  | clear t => exact clear_kept db consistent t next taken
  | abort t =>
      obtain ⟨transaction, held, rfl⟩ := Option.map_eq_some_iff.mp taken
      exact fail_consistent db t consistent

end Steps

-- A transaction that skipped the check commits only while its object has never acquired a generation.
def Guarded (db : Database) : Event → Prop
  | .commitWrite t => ∀ transaction, db.transactions t = some transaction →
      transaction.phase ≠ .unchecked ∨ db.acquired transaction.repository = []
  | _ => True

instance (db : Database) (event : Event) : Decidable (Guarded db event) :=
  match event with
  | .commitWrite t =>
      match found : db.transactions t with
      | none => .isTrue fun _ same => absurd (found.symm.trans same) (by simp)
      | some transaction =>
          decidable_of_iff (transaction.phase ≠ .unchecked ∨ db.acquired transaction.repository = [])
            ⟨fun here _ same => Option.some.inj (found.symm.trans same) ▸ here, fun all => all transaction found⟩
  | .acquire .. | .claim .. | .lease .. | .commitAcquire .. | .install .. | .beginWrite .. | .checkWrite .. | .renew ..
  | .checkRenew .. | .commitRenew .. | .release .. | .updateRelease .. | .commitRelease .. | .clear .. | .abort .. =>
      .isTrue trivial

def NoStaleWrite (db : Database) : Prop :=
  ∀ write ∈ db.writes, ∀ g, g + 1 ≤ write.generation → write.acquired ≠ [] → ∃ h ∈ write.acquired, g < h

def Holds (db : Database) (id : RepositoryId) (now : Int) : Prop :=
  ∃ lease, db.lease = some lease ∧ owned (db.repositories id) lease now

section Steps
variable (db : Database) (consistent : Consistent db)
include consistent

omit consistent in
theorem acquired_mem (id : RepositoryId) (generation : Nat) (acquired : (id, generation) ∈ db.acquisitions) :
    generation ∈ db.acquired id :=
  List.mem_map.mpr ⟨(id, generation), List.mem_filter.mpr ⟨acquired, decide_eq_true rfl⟩, rfl⟩

theorem generations_increase : (db.acquisitions.map Prod.snd).Pairwise (· < ·) := by
  rw [consistent.generations]
  exact List.pairwise_lt_range'

theorem one_holder (first second : RepositoryId) (now later : Int) (holds : Holds db first now)
    (also : Holds db second later) : first = second := by
  obtain ⟨lease, stored, owns⟩ := holds
  obtain ⟨other, same, takes⟩ := also
  rw [stored] at same
  cases same
  have mine := owned_acquired db consistent first lease stored now owns
  have theirs := owned_acquired db consistent second lease stored later takes
  have unique : (db.acquisitions.map Prod.snd).Nodup := (generations_increase db consistent).imp Nat.ne_of_lt
  have whole := List.inj_on_of_nodup_map unique mine theirs rfl
  exact congrArg Prod.fst whole

theorem commit_write_fenced (t : TransactionId) (next : Database) (taken : step db (.commitWrite t) = some next)
    (guarded : Guarded db (.commitWrite t)) (fenced : NoStaleWrite db) : NoStaleWrite next := by
  -- A checked transaction holds the row of the generation its object has acquired.
  have current : ∀ transaction, db.transactions t = some transaction → transaction.phase = .checked ∨
      transaction.phase = .unchecked → db.acquired transaction.repository ≠ [] →
      db.generation ∈ db.acquired transaction.repository := by
    intro transaction held phase owner
    cases guarded transaction held with
    | inr never => exact absurd never owner
    | inl fenced =>
        cases phase with
        | inr unchecked => exact absurd unchecked fenced
        | inl checked =>
            have phased := consistent.transactions t transaction held
            rw [Phased, checked] at phased
            exact acquired_mem db _ _ phased.2
  have appended : ∃ transaction, db.transactions t = some transaction ∧
      (transaction.phase = .checked ∨ transaction.phase = .unchecked) ∧
      next.writes = db.writes ++ [⟨transaction.repository, db.generation, db.acquired transaction.repository⟩] := by
    rw [step] at taken
    split at taken
    · rename_i repository held
      cases taken
      exact ⟨_, held, .inl rfl, rfl⟩
    · rename_i repository held
      cases taken
      exact ⟨_, held, .inr rfl, rfl⟩
    · cases taken
  obtain ⟨transaction, held, phase, writes⟩ := appended
  intro write member g stored owner
  rw [writes] at member
  cases List.mem_append.mp member with
  | inl old => exact fenced write old g stored owner
  | inr last =>
      rw [List.mem_singleton.mp last] at stored owner ⊢
      exact ⟨db.generation, current transaction held phase owner, stored⟩

end Steps

theorem step_generation (db next : Database) (event : Event) (consistent : Consistent db)
    (taken : step db event = some next) :
    (∃ t transaction, event = .commitAcquire t ∧ db.transactions t = some transaction ∧
      next.generation = db.generation + 1 ∧
      next.acquisitions = db.acquisitions ++ [(transaction.repository, next.generation)]) ∨
    (next.generation = db.generation ∧ next.acquisitions = db.acquisitions) := by
  cases event with
  | commitAcquire t =>
      rw [step] at taken
      split at taken
      · rename_i repository lease held
        cases taken
        obtain ⟨_, generation, _⟩ := consistent.transactions t _ held
        exact .inl ⟨t, _, rfl, held, generation, rfl⟩
      · cases taken
  | commitRenew t =>
      rw [step] at taken
      split at taken
      · rename_i repository lease held
        cases taken
        exact .inr ⟨(consistent.transactions t _ held).2, rfl⟩
      · cases taken
        exact .inr ⟨rfl, rfl⟩
      · cases taken
  | commitRelease t =>
      rw [step] at taken
      split at taken
      · cases taken
        exact .inr ⟨rfl, rfl⟩
      · rename_i repository lease held
        cases taken
        exact .inr ⟨(consistent.transactions t _ held).2, rfl⟩
      · cases taken
  | acquire t repository owner | beginWrite t repository | renew t repository | release t repository =>
      rw [step, Database.start] at taken
      split at taken
      · cases taken
      · cases taken
        exact .inr ⟨rfl, rfl⟩
  | claim | lease | install | checkWrite | commitWrite | checkRenew | updateRelease | clear =>
      rw [step] at taken
      repeat' split at taken
      all_goals cases taken
      all_goals exact .inr ⟨rfl, rfl⟩
  | abort t =>
      obtain ⟨transaction, held, rfl⟩ := Option.map_eq_some_iff.mp taken
      exact .inr ⟨rfl, rfl⟩

theorem step_writes (db next : Database) (event : Event) (taken : step db event = some next) :
    (∃ t, event = .commitWrite t) ∨ next.writes = db.writes := by
  cases event with
  | commitWrite t => exact .inl ⟨t, rfl⟩
  | acquire t repository owner | beginWrite t repository | renew t repository | release t repository =>
      rw [step, Database.start] at taken
      split at taken
      · cases taken
      · cases taken
        exact .inr rfl
  | claim | lease | install | checkWrite | checkRenew | updateRelease | clear | commitAcquire | commitRenew
  | commitRelease =>
      rw [step] at taken
      repeat' split at taken
      all_goals cases taken
      all_goals exact .inr rfl
  | abort t =>
      obtain ⟨transaction, held, rfl⟩ := Option.map_eq_some_iff.mp taken
      exact .inr rfl

theorem guarded_step (db next : Database) (event : Event) (sound : Consistent db ∧ NoStaleWrite db)
    (guarded : Guarded db event) (taken : step db event = some next) : Consistent next ∧ NoStaleWrite next := by
  obtain ⟨consistent, fenced⟩ := sound
  refine ⟨step_consistent db consistent event next taken, ?_⟩
  cases step_writes db next event taken with
  | inl commits =>
      obtain ⟨t, rfl⟩ := commits
      exact commit_write_fenced db consistent t next taken guarded fenced
  | inr same =>
      rw [NoStaleWrite, same]
      exact fenced

theorem lease_fencing (events : List Event) (last : Database) (reached : run step empty events = some last) :
    ((last.acquisitions.map Prod.snd).Pairwise (· < ·) ∧
      ∀ event next, step last event = some next →
        (∃ t transaction, event = .commitAcquire t ∧ last.transactions t = some transaction ∧
          next.generation = last.generation + 1 ∧
          next.acquisitions = last.acquisitions ++ [(transaction.repository, next.generation)]) ∨
        (next.generation = last.generation ∧ next.acquisitions = last.acquisitions)) ∧
    (∀ first second now later, Holds last first now → Holds last second later → first = second) ∧
    (EveryStep step Guarded empty events → NoStaleWrite last) := by
  have consistent := run_invariant step Consistent
    (fun db event next consistent taken => step_consistent db consistent event next taken) events empty last
    empty_consistent reached
  refine ⟨⟨generations_increase last consistent, fun event next => step_generation last next event consistent⟩,
    one_holder last consistent, fun guarded => ?_⟩
  have none : NoStaleWrite empty := by
    intro write member
    cases member
  exact (run_keeps step Guarded (fun db => Consistent db ∧ NoStaleWrite db)
    (fun db event next sound guarded taken => guarded_step db next event sound guarded taken) events empty last
    ⟨empty_consistent, none⟩ guarded reached).2

def takeoverRun : List Event :=
  [.acquire 0 0 "first", .claim 0, .lease 0 0, .commitAcquire 0, .install 0, .beginWrite 1 0, .checkWrite 1 5,
    .acquire 2 1 "second", .claim 2, .commitWrite 1, .renew 3 0, .checkRenew 3 10, .commitRenew 3, .beginWrite 4 0,
    .lease 2 40000000, .commitAcquire 2, .checkWrite 4 20000000, .install 2, .beginWrite 5 1, .checkWrite 5 40000001,
    .commitWrite 5]

theorem lease_fencing_takeover :
    ∃ last, run step empty takeoverRun = some last ∧
      last.writes = [⟨0, 1, [1]⟩, ⟨1, 2, [2]⟩] ∧ NoStaleWrite last := by
  have shown : (run step empty takeoverRun).map Database.writes = some [⟨0, 1, [1]⟩, ⟨1, 2, [2]⟩] := by decide +kernel
  have guarded : EveryStep step Guarded empty takeoverRun := by decide +kernel
  obtain ⟨last, reached, writes⟩ := Option.map_eq_some_iff.mp shown
  exact ⟨last, reached, writes, (lease_fencing takeoverRun last reached).2.2 guarded⟩

def releasedRun : List Event :=
  [.acquire 0 0 "first", .claim 0, .lease 0 0, .commitAcquire 0, .install 0, .release 1 0, .updateRelease 1 10,
    .commitRelease 1, .clear 1, .acquire 2 1 "second", .claim 2, .lease 2 10, .commitAcquire 2, .install 2,
    .beginWrite 3 0, .commitWrite 3]

theorem released_object_writes :
    ¬ ∀ events last, run step empty events = some last → NoStaleWrite last := by
  intro fenced
  have shown : (run step empty releasedRun).map Database.writes = some [⟨0, 2, [1]⟩] := by decide +kernel
  obtain ⟨last, reached, writes⟩ := Option.map_eq_some_iff.mp shown
  have stale := fenced releasedRun last reached ⟨0, 2, [1]⟩ (by rw [writes]; exact List.mem_singleton.mpr rfl) 1 (Nat.le_refl 2) (by simp)
  obtain ⟨h, member, late⟩ := stale
  rw [List.mem_singleton.mp member] at late
  exact absurd late (Nat.lt_irrefl 1)

end LlmperfOrchestrator.Storage.RuntimeLease

import LlmperfOrchestrator.Runtime.RunnerAdmission

set_option autoImplicit false

namespace LlmperfOrchestrator.Runners

open Runs Tables Semaphores

section

variable (maximum : Nat)

structure AdmissionOk (a : RunnerAdmission) : Prop where
  balance : stock a.capacity + a.active.length = maximum
  distinct : a.active.Nodup
  apart : ∀ holder ∈ a.active, ¬ Listed a.capacity holder

structure Moves (holder : Holder) (a b : RunnerAdmission) (holds waits : Prop) : Prop where
  ok : AdmissionOk maximum b
  rest : ∀ other, other ≠ holder →
    (other ∈ b.active ↔ other ∈ a.active) ∧ (Listed b.capacity other ↔ Listed a.capacity other)
  holds : holder ∈ b.active ↔ holds
  waits : Listed b.capacity holder ↔ waits

theorem mem_insert_other (holder other : Holder) (active : List Holder) (different : other ≠ holder) :
    other ∈ active.insert holder ↔ other ∈ active := by
  rw [List.mem_insert_iff]
  exact ⟨fun member => member.resolve_left different, Or.inr⟩

theorem holders_balance (a : RunnerAdmission) (ok : AdmissionOk maximum a) :
    a.capacity.value + a.holders.length = maximum := by
  have balance := ok.balance
  rw [RunnerAdmission.holders, List.length_append, grantees_length]
  rw [stock] at balance
  omega

theorem holders_distinct (a : RunnerAdmission) (ok : AdmissionOk maximum a) : a.holders.Nodup := by
  apply List.Nodup.append ok.distinct (grantees_distinct a.capacity)
  intro holder active granted
  exact ok.apart holder active (grantees_listed a.capacity holder granted)

variable (holder : Holder)

theorem interrupt_moves (a : RunnerAdmission) (ok : AdmissionOk maximum a) :
    Moves maximum holder a (a.interrupt holder) (holder ∈ a.active) (Listed a.capacity holder) where
  ok :=
    { balance := by
        have balance := ok.balance
        rwa [← interrupt_stock a.capacity holder] at balance
      distinct := ok.distinct
      apart := by
        intro other member listed
        exact ok.apart other member ((interrupt_listed a.capacity holder other).mp listed) }
  rest := fun other _ => ⟨Iff.rfl, interrupt_listed a.capacity holder other⟩
  holds := Iff.rfl
  waits := interrupt_listed a.capacity holder holder

theorem release_moves (a : RunnerAdmission) (ok : AdmissionOk maximum a) :
    Moves maximum holder a (a.release holder) False (Listed a.capacity holder) := by
  rw [RunnerAdmission.release]
  by_cases active : holder ∈ a.active
  · rw [if_pos active]
    have shorter := List.length_erase_add_one active
    have balance := ok.balance
    have grown := release_stock a.capacity
    exact {
      ok :=
        { balance := by
            simp only at grown shorter ⊢
            omega
          distinct := ok.distinct.erase holder
          apart := by
            intro other member listed
            exact ok.apart other (List.mem_of_mem_erase member) ((release_listed a.capacity other).mp listed) }
      rest := fun other different => ⟨List.mem_erase_of_ne different, release_listed a.capacity other⟩
      holds := iff_of_false (fun member => (ok.distinct.mem_erase_iff.mp member).1 rfl) id
      waits := release_listed a.capacity holder }
  · rw [if_neg active]
    exact ⟨ok, fun other _ => ⟨Iff.rfl, Iff.rfl⟩, iff_of_false active id, Iff.rfl⟩

theorem insert_length (active : List Holder) (absent : holder ∉ active) : (active.insert holder).length = active.length + 1 := by
  rw [List.insert_of_not_mem absent]
  rfl

theorem acquire_moves (a : RunnerAdmission) (ok : AdmissionOk maximum a) (absent : ¬ Listed a.capacity holder) :
    Moves maximum holder a (a.acquire holder).1 ((a.acquire holder).2 = true) ((a.acquire holder).2 = false) := by
  rw [RunnerAdmission.acquire]
  by_cases active : holder ∈ a.active
  · rw [if_pos active]
    exact ⟨ok, fun other _ => ⟨Iff.rfl, Iff.rfl⟩, iff_of_true active rfl, iff_of_false absent (by simp)⟩
  · rw [if_neg active]
    have balance := ok.balance
    cases closed : locked a.capacity with
    | true =>
        have same := enqueue_stock a.capacity holder absent
        have listed := enqueue_listed a.capacity holder
        exact {
          ok :=
            { balance := by
                simp only [if_true] at same ⊢
                omega
              distinct := ok.distinct
              apart := by
                intro other member waiting
                rcases (listed other).mp waiting with here | before
                · exact active (here ▸ member)
                · exact ok.apart other member before }
          rest := fun other different => ⟨Iff.rfl, (listed other).trans (or_iff_right different)⟩
          holds := iff_of_false active (by simp)
          waits := iff_of_true ((listed holder).mpr (.inl rfl)) rfl }
    | false =>
        have spent := take_stock a.capacity closed
        have longer := insert_length holder a.active active
        exact {
          ok :=
            { balance := by
                simp only [Bool.false_eq_true, if_false] at spent longer ⊢
                omega
              distinct := List.Nodup.insert ok.distinct
              apart := by
                intro other member waiting
                rcases List.mem_insert_iff.mp member with here | before
                · exact absent (here ▸ waiting)
                · exact ok.apart other before waiting }
          rest := fun other different => ⟨mem_insert_other holder other a.active different, Iff.rfl⟩
          holds := iff_of_true List.mem_insert_self rfl
          waits := iff_of_false absent (by simp) }

theorem resume_moves (ticket : Ticket) (a : RunnerAdmission) (ok : AdmissionOk maximum a)
    (read : a.capacity.waiters.get holder = some ticket) :
    Moves maximum holder a (a.resume holder ticket).1 ((a.resume holder ticket).2 = true) False := by
  have waiting : Listed a.capacity holder := by
    rw [Listed, read]
    exact Option.some_ne_none ticket
  have inactive : holder ∉ a.active := fun member => ok.apart holder member waiting
  have balance := ok.balance
  have left := leave_stock a.capacity holder ticket read
  have listed := fun other => leave_listed a.capacity holder other ticket
  have gone : Listed (leave holder ticket a.capacity) holder ↔ False := iff_of_false (fun still => ((listed holder).mp still).1 rfl) id
  have beside : ∀ other, other ≠ holder → (Listed (leave holder ticket a.capacity) other ↔ Listed a.capacity other) :=
    fun other different => (listed other).trans (and_iff_right different)
  rw [RunnerAdmission.resume]
  by_cases granted : ticket = .granted
  · rw [if_pos granted]
    rw [if_pos granted] at left
    have longer := insert_length holder a.active inactive
    exact {
      ok :=
        { balance := by
            simp only at longer ⊢
            omega
          distinct := List.Nodup.insert ok.distinct
          apart := by
            intro other member still
            obtain ⟨different, before⟩ := (listed other).mp still
            exact ok.apart other ((mem_insert_other holder other a.active different).mp member) before }
      rest := fun other different => ⟨mem_insert_other holder other a.active different, beside other different⟩
      holds := iff_of_true List.mem_insert_self rfl
      waits := gone }
  · rw [if_neg granted]
    rw [if_neg granted] at left
    exact {
      ok :=
        { balance := by
            simp only at left ⊢
            omega
          distinct := ok.distinct
          apart := fun other member still => ok.apart other member ((listed other).mp still).2 }
      rest := fun other different => ⟨Iff.rfl, beside other different⟩
      holds := iff_of_false inactive (by simp)
      waits := gone }

theorem transfer_ok (runner : RunnerId) (a : RunnerAdmission) (ok : AdmissionOk maximum a) (held : .slot ∈ a.active)
    (absent : .runner runner ∉ a.active) (idle : ¬ Listed a.capacity (.runner runner)) :
    AdmissionOk maximum (a.transfer runner) := by
  have fresh : Holder.runner runner ∉ a.active.erase .slot := fun member => absent (List.mem_of_mem_erase member)
  have balance := ok.balance
  have shorter := List.length_erase_add_one held
  have longer := insert_length (.runner runner) (a.active.erase .slot) fresh
  exact {
    balance := by
      simp only [RunnerAdmission.transfer] at longer ⊢
      omega
    distinct := List.Nodup.insert (ok.distinct.erase .slot)
    apart := by
      intro other member waiting
      rcases List.mem_insert_iff.mp member with here | before
      · exact idle (here ▸ waiting)
      · exact ok.apart other (List.mem_of_mem_erase before) waiting }

theorem transfer_active (runner : RunnerId) (a : RunnerAdmission) (ok : AdmissionOk maximum a) (other : Holder) :
    other ∈ (a.transfer runner).active ↔ other = .runner runner ∨ (other ≠ .slot ∧ other ∈ a.active) := by
  rw [RunnerAdmission.transfer, List.mem_insert_iff, ok.distinct.mem_erase_iff]

end

section

structure RunOk (a : RunnerAdmission) (runner : RunnerId) (run : Run) : Prop where
  waiting : Listed a.capacity (.runner runner) ↔ run.submission = .waiting
  ended : run.supervisor = .ended → run.runtime ≠ .alive
  created : run.supervisor = .created → run = Run.claimed ∧ .runner runner ∈ a.active

def Keeps (a : RunnerAdmission) (runner : RunnerId) (run : Run) : Prop := run.supervisor = .ended ∧ .runner runner ∈ a.active

structure ActionOk (maximum : Nat) (runner : RunnerId) (a b : RunnerAdmission) (before after : Run) (loses : Prop) : Prop where
  ok : AdmissionOk maximum b
  rest : ∀ other, other ≠ .runner runner →
    (other ∈ b.active ↔ other ∈ a.active) ∧ (Listed b.capacity other ↔ Listed a.capacity other)
  run : RunOk b runner after
  keeps : Keeps b runner after ↔ Keeps a runner before ∨ loses

variable (maximum : Nat) (runner : RunnerId) (a b : RunnerAdmission) (before after : Run)

theorem moves_action (holds waits loses : Prop) (moves : Moves maximum (.runner runner) a b holds waits)
    (waiting : waits ↔ after.submission = .waiting) (ended : after.supervisor = .ended → after.runtime ≠ .alive)
    (created : after.supervisor ≠ .created) (keeps : after.supervisor = .ended ∧ holds ↔ Keeps a runner before ∨ loses) :
    ActionOk maximum runner a b before after loses where
  ok := moves.ok
  rest := moves.rest
  run := ⟨moves.waits.trans waiting, ended, fun same => absurd same created⟩
  keeps := (and_congr_right fun _ => moves.holds).trans keeps

theorem still_action (ok : AdmissionOk maximum a) (run : RunOk a runner after)
    (same : after.supervisor = .ended ↔ before.supervisor = .ended) : ActionOk maximum runner a a before after False where
  ok := ok
  rest := fun _ _ => ⟨Iff.rfl, Iff.rfl⟩
  run := run
  keeps := (and_congr_left fun _ => same).trans (or_iff_left id).symm

theorem not_created (ok : RunOk a runner before) (different : before ≠ Run.claimed) : before.supervisor ≠ .created :=
  fun created => different (ok.created created).1

variable (result : RunnerAdmission × Run)

theorem supervise_action (ok : AdmissionOk maximum a) (run : RunOk a runner before) (taken : supervise a before = some result) :
    ActionOk maximum runner a result.1 before result.2 False := by
  obtain ⟨created, same⟩ := Option.ite_none_right_eq_some.mp taken
  cases Option.some.inj same
  apply still_action maximum runner a before _ ok
  · exact ⟨run.waiting, by simp, by simp⟩
  · simp [created]

theorem cancel_unstarted_action (ok : AdmissionOk maximum a) (run : RunOk a runner before)
    (taken : cancelUnstarted a before = some result) : ActionOk maximum runner a result.1 before result.2 True := by
  obtain ⟨created, same⟩ := Option.ite_none_right_eq_some.mp taken
  cases Option.some.inj same
  obtain ⟨claimed, holding⟩ := run.created created
  exact {
    ok := ok
    rest := fun _ _ => ⟨Iff.rfl, Iff.rfl⟩
    run := ⟨run.waiting, by simp [claimed, Run.claimed], by simp⟩
    keeps := iff_of_true ⟨rfl, holding⟩ (.inr trivial) }

theorem execute_action (ok : AdmissionOk maximum a) (run : RunOk a runner before) (taken : execute a before = some result) :
    ActionOk maximum runner a result.1 before result.2 False := by
  obtain ⟨⟨running, _⟩, same⟩ := Option.ite_none_right_eq_some.mp taken
  cases Option.some.inj same
  apply still_action maximum runner a before _ ok
  · exact ⟨run.waiting, by simp [running], by simp [running]⟩
  · exact Iff.rfl

theorem cool_down_action (ok : AdmissionOk maximum a) (run : RunOk a runner before)
    (taken : coolDown runner a before = some result) : ActionOk maximum runner a result.1 before result.2 False := by
  obtain ⟨⟨alive, _⟩, same⟩ := Option.ite_none_right_eq_some.mp taken
  cases Option.some.inj same
  have unkept : ¬ Keeps a runner before := fun kept => run.ended kept.1 alive
  apply moves_action maximum runner a _ before _ _ _ _ (release_moves maximum (.runner runner) a ok) run.waiting run.ended
  · exact not_created runner a before run fun claimed => by simp [claimed, Run.claimed] at alive
  · simp [unkept]

theorem create_submission_action (ok : AdmissionOk maximum a) (run : RunOk a runner before)
    (taken : createSubmission a before = some result) : ActionOk maximum runner a result.1 before result.2 False := by
  obtain ⟨⟨alive, absent⟩, same⟩ := Option.ite_none_right_eq_some.mp taken
  cases Option.some.inj same
  have begun := not_created runner a before run fun claimed => by simp [claimed, Run.claimed] at alive
  apply still_action maximum runner a before _ ok
  · refine ⟨?_, run.ended, fun created => absurd created begun⟩
    rw [run.waiting, absent]
    simp
  · exact Iff.rfl

theorem submit_action (ok : AdmissionOk maximum a) (run : RunOk a runner before) (taken : submit runner a before = some result) :
    ActionOk maximum runner a result.1 before result.2 (before.supervisor = .ended ∧ locked a.capacity = false) := by
  obtain ⟨created, same⟩ := Option.ite_none_right_eq_some.mp taken
  cases Option.some.inj same
  have absent : ¬ Listed a.capacity (.runner runner) := by
    rw [run.waiting, created]
    simp
  apply moves_action maximum runner a _ before _ _ _ _ (acquire_moves maximum (.runner runner) a ok absent)
  · cases (a.acquire (.runner runner)).2 <;> simp
  · exact run.ended
  · exact not_created runner a before run fun claimed => by simp [claimed, Run.claimed] at created
  · rw [Keeps, ← and_or_left]
    apply and_congr_right
    intro _
    rw [RunnerAdmission.acquire]
    by_cases active : Holder.runner runner ∈ a.active
    · simp [active]
    · cases closed : locked a.capacity <;> simp [active]

theorem resume_submission_action (ticket : Ticket) (result : RunnerAdmission × Run) (ok : AdmissionOk maximum a)
    (run : RunOk a runner before) (read : a.capacity.waiters.get (.runner runner) = some ticket)
    (taken : resumeSubmission runner ticket a before = some result) :
    ActionOk maximum runner a result.1 before result.2 (before.supervisor = .ended ∧ ticket = .granted) := by
  obtain ⟨waiting, same⟩ := Option.ite_none_right_eq_some.mp taken
  cases Option.some.inj same
  have inactive : .runner runner ∉ a.active := fun member => ok.apart _ member (run.waiting.mpr waiting)
  apply moves_action maximum runner a _ before _ _ _ _ (resume_moves maximum (.runner runner) ticket a ok read)
  · cases (a.resume (.runner runner) ticket).2 <;> simp
  · exact run.ended
  · exact not_created runner a before run fun claimed => by simp [claimed, Run.claimed] at waiting
  · rw [Keeps, ← and_or_left]
    apply and_congr_right
    intro _
    rw [RunnerAdmission.resume]
    by_cases granted : ticket = .granted <;> simp [inactive, granted]

theorem submitted_action (ok : AdmissionOk maximum a) (run : RunOk a runner before) (taken : submitted a before = some result) :
    ActionOk maximum runner a result.1 before result.2 False := by
  obtain ⟨submitting, same⟩ := Option.ite_none_right_eq_some.mp taken
  cases Option.some.inj same
  have begun := not_created runner a before run fun claimed => by simp [claimed, Run.claimed] at submitting
  apply still_action maximum runner a before _ ok
  · refine ⟨?_, run.ended, fun created => absurd created begun⟩
    rw [run.waiting, submitting]
    simp
  · exact Iff.rfl

theorem cancel_runtime_action (ok : AdmissionOk maximum a) (run : RunOk a runner before)
    (taken : cancelRuntime a before = some result) : ActionOk maximum runner a result.1 before result.2 False := by
  obtain ⟨⟨running, _⟩, same⟩ := Option.ite_none_right_eq_some.mp taken
  cases Option.some.inj same
  apply still_action maximum runner a before _ ok
  · exact ⟨run.waiting, by simp, by simp [running]⟩
  · exact Iff.rfl

theorem unwind_action (ok : AdmissionOk maximum a) (run : RunOk a runner before) (taken : unwind runner a before = some result) :
    ActionOk maximum runner a result.1 before result.2 False := by
  obtain ⟨begun, same⟩ := Option.ite_none_right_eq_some.mp taken
  have later := not_created runner a before run fun claimed => by simp [claimed, Run.claimed] at begun
  have waiting := run.waiting
  cases submission : before.submission with
  | absent =>
      simp only [submission] at same
      rw [submission] at waiting
      cases Option.some.inj same
      exact still_action maximum runner a before _ ok ⟨waiting, by simp, fun created => absurd created later⟩ Iff.rfl
  | created =>
      simp only [submission] at same
      rw [submission] at waiting
      cases Option.some.inj same
      refine still_action maximum runner a before _ ok ⟨?_, by simp, fun created => absurd created later⟩ Iff.rfl
      rw [waiting]
      simp
  | waiting =>
      simp only [submission] at same
      rw [submission] at waiting
      cases Option.some.inj same
      exact moves_action maximum runner a _ before _ _ _ _ (interrupt_moves maximum (.runner runner) a ok) waiting (by simp) later
        (or_iff_left id).symm
  | submitting =>
      simp only [submission] at same
      rw [submission] at waiting
      cases Option.some.inj same
      exact still_action maximum runner a before _ ok ⟨waiting, by simp, fun created => absurd created later⟩ Iff.rfl

theorem finish_action (ok : AdmissionOk maximum a) (run : RunOk a runner before) (taken : finish runner a before = some result) :
    ActionOk maximum runner a result.1 before result.2 False := by
  obtain ⟨⟨running, quiet⟩, same⟩ := Option.ite_none_right_eq_some.mp taken
  cases Option.some.inj same
  apply moves_action maximum runner a _ before _ _ _ _ (release_moves maximum (.runner runner) a ok)
  · exact run.waiting
  · intro _
    by_cases unstarted : before.runtime = .unstarted
    · simp [unstarted]
    · simpa [unstarted] using quiet
  · simp
  · simp [Keeps, running]

end

end LlmperfOrchestrator.Runners

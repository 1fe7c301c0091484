import LlmperfOrchestrator.Runtime.Gates

set_option autoImplicit false

namespace LlmperfOrchestrator.Gates

open Tables Dispatch Runs Semaphores

inductive Chain (records : Dict RuntimeId RuntimeRecord) : Option RuntimeId → Dict RuntimeId Nat → Prop where
  | root : Chain records none []
  | limited (id : RuntimeId) (record : RuntimeRecord) (limit : Nat) (rest : Dict RuntimeId Nat)
      (read : Dict.get id records = some record) (own : record.concurrentWorkers = some limit)
      (above : Chain records record.parent rest) : Chain records (some id) ((id, limit) :: rest)
  | unlimited (id : RuntimeId) (record : RuntimeRecord) (rest : Dict RuntimeId Nat)
      (read : Dict.get id records = some record) (own : record.concurrentWorkers = none)
      (above : Chain records record.parent rest) : Chain records (some id) rest

variable (records : Dict RuntimeId RuntimeRecord)

theorem chain_unique (runtime : Option RuntimeId) (a b : Dict RuntimeId Nat) (first : Chain records runtime a)
    (second : Chain records runtime b) : a = b := by
  induction first generalizing b with
  | root =>
      cases second
      rfl
  | limited id record limit rest read own above ih =>
      cases second with
      | limited _ other bound tail found ownOther aboveOther =>
          cases read.symm.trans found
          cases own.symm.trans ownOther
          rw [ih tail aboveOther]
      | unlimited _ other tail found ownOther aboveOther =>
          cases read.symm.trans found
          cases own.symm.trans ownOther
  | unlimited id record rest read own above ih =>
      cases second with
      | limited _ other bound tail found ownOther aboveOther =>
          cases read.symm.trans found
          cases own.symm.trans ownOther
      | unlimited _ other tail found ownOther aboveOther =>
          cases read.symm.trans found
          exact ih b aboveOther

theorem chain_suffix (runtime : Option RuntimeId) (limits : Dict RuntimeId Nat) (chain : Chain records runtime limits)
    (before rest : Dict RuntimeId Nat) (id : RuntimeId) (limit : Nat) (split : limits = before ++ (id, limit) :: rest) :
    Chain records (some id) ((id, limit) :: rest) := by
  induction chain generalizing before with
  | root => simp at split
  | limited owner record bound tail read own above ih =>
      cases before with
      | nil =>
          cases split
          exact .limited id record limit rest read own above
      | cons entry others =>
          rw [List.cons_append, List.cons.injEq] at split
          exact ih others split.2
  | unlimited owner record tail read own above ih => exact ih before split

theorem walk_chain (steps : Nat) (runtime : Option RuntimeId) (visited : List RuntimeId) (limits result : Dict RuntimeId Nat)
    (covered : ∀ id ∈ Dict.keys limits, id ∈ visited) (walked : runtimeWalk records steps runtime visited limits = .ok result) :
    ∃ chain, Chain records runtime chain ∧ result = limits ++ chain := by
  induction steps generalizing runtime visited limits with
  | zero =>
      cases runtime with
      | none =>
          cases walked
          exact ⟨[], .root, (List.append_nil _).symm⟩
      | some id => cases walked
  | succ steps ih =>
      cases runtime with
      | none =>
          cases walked
          exact ⟨[], .root, (List.append_nil _).symm⟩
      | some id =>
          rw [runtimeWalk] at walked
          by_cases seen : id ∈ visited
          · rw [if_pos seen] at walked
            cases walked
          · rw [if_neg seen] at walked
            cases read : Dict.get id records with
            | none =>
                rw [read] at walked
                cases walked
            | some record =>
                rw [read] at walked
                cases own : record.concurrentWorkers with
                | none =>
                    simp only [own, Option.elim_none] at walked
                    obtain ⟨chain, above, same⟩ :=
                      ih record.parent (id :: visited) limits (fun key member => List.mem_cons_of_mem id (covered key member)) walked
                    exact ⟨chain, .unlimited id record chain read own above, same⟩
                | some limit =>
                    have absent : Dict.get id limits = none := dict_get_absent limits id fun member => seen (covered id member)
                    simp only [own, Option.elim_some, dict_put_absent limits id limit absent] at walked
                    have grown : ∀ key ∈ Dict.keys (limits ++ [(id, limit)]), key ∈ id :: visited := by
                      intro key member
                      rw [Dict.keys, List.map_append, List.mem_append] at member
                      rcases member with old | new
                      · exact List.mem_cons_of_mem id (covered key old)
                      · exact List.mem_cons.mpr (.inl (List.mem_singleton.mp new))
                    obtain ⟨chain, above, same⟩ := ih record.parent (id :: visited) _ grown walked
                    exact ⟨(id, limit) :: chain, .limited id record limit chain read own above, by rw [same, List.append_assoc]; rfl⟩

theorem runtime_limits_chain (runtime : Option RuntimeId) (limits : Dict RuntimeId Nat)
    (read : runtimeLimits records runtime = .ok limits) : Chain records runtime limits := by
  obtain ⟨chain, above, same⟩ := walk_chain records (records.length + 1) runtime [] [] limits (fun id member => by cases member) read
  rw [same, List.nil_append]
  exact above

structure GateOk (held : Nat) (waits : Nat → Prop) (gate : Gate) : Prop where
  positive : 0 < gate.initial
  stocked : stock gate.semaphore + held = gate.initial
  served : Served gate.semaphore
  listed : ∀ index, Listed gate.semaphore index → waits index

def GatesOk (gates : List Gate) (held : Nat → Nat) (waits : Nat → Nat → Prop) : Prop :=
  ∀ index gate, gates[index]? = some gate → GateOk (held index) (waits index) gate

def runtimesOf (gates : List Gate) : List (Option RuntimeId) := gates.map Gate.runtime

@[simp] theorem on_gate_runtimes (gates : List Gate) (target : Nat) (change : Semaphore Nat → Semaphore Nat) :
    runtimesOf (onGate gates target change) = runtimesOf gates := by
  apply List.ext_getElem?
  intro index
  simp only [runtimesOf, onGate, List.getElem?_map, List.getElem?_modify]
  cases gates[index]? with
  | none => rfl
  | some gate => by_cases same : target = index <;> simp [same]

theorem on_gate_ok (gates : List Gate) (target : Nat) (change : Semaphore Nat → Semaphore Nat) (held heldAfter : Nat → Nat)
    (waits waitsAfter : Nat → Nat → Prop) (ok : GatesOk gates held waits)
    (others : ∀ index, index ≠ target → heldAfter index = held index ∧ ∀ client, waits index client → waitsAfter index client)
    (here : ∀ gate, gates[target]? = some gate → GateOk (held target) (waits target) gate →
      GateOk (heldAfter target) (waitsAfter target) { gate with semaphore := change gate.semaphore }) :
    GatesOk (onGate gates target change) heldAfter waitsAfter := by
  intro index gate read
  rw [onGate, List.getElem?_modify] at read
  obtain ⟨old, found, same⟩ := Option.map_eq_some_iff.mp read
  have before := ok index old found
  by_cases hit : target = index
  · subst hit
    rw [if_pos rfl] at same
    rw [← same]
    exact here old found before
  · rw [if_neg hit] at same
    obtain ⟨equal, weaker⟩ := others index (Ne.symm hit)
    rw [← same]
    exact ⟨before.positive, by rw [equal]; exact before.stocked, before.served,
      fun client listed => weaker client (before.listed client listed)⟩

theorem releases_ok (permits : List Nat) (gates : List Gate) (held : Nat → Nat) (waits : Nat → Nat → Prop)
    (ok : GatesOk gates (fun gate => held gate + permits.count gate) waits) :
    GatesOk (permits.foldl (fun gates gate => onGate gates gate release) gates) held waits := by
  induction permits generalizing gates with
  | nil => exact ok
  | cons permit rest ih =>
      rw [List.foldl_cons]
      apply ih
      refine on_gate_ok gates permit release _ _ waits waits ok ?_ ?_
      · intro index other
        exact ⟨by rw [List.count_cons_of_ne (Ne.symm other)], fun client waiting => waiting⟩
      · intro gate _ before
        have stocked := before.stocked
        rw [List.count_cons_self] at stocked
        refine ⟨before.positive, ?_, release_served gate.semaphore, ?_⟩
        · simp only [release_stock]
          omega
        · intro client listed
          exact before.listed client ((release_listed gate.semaphore client).mp listed)

theorem releases_runtimes (permits : List Nat) (gates : List Gate) :
    runtimesOf (permits.foldl (fun gates gate => onGate gates gate release) gates) = runtimesOf gates := by
  induction permits generalizing gates with
  | nil => rfl
  | cons permit rest ih => rw [List.foldl_cons, ih, on_gate_runtimes]

theorem settle_ok (gates : List Gate) (s : Submission) (held : Nat → Nat) (waits : Nat → Nat → Prop)
    (ok : GatesOk gates (fun gate => held gate + s.acquired.count gate) waits) : GatesOk (settle gates s).1 held waits := by
  apply releases_ok
  simpa only [List.count_reverse] using ok

theorem settle_runtimes (gates : List Gate) (s : Submission) : runtimesOf (settle gates s).1 = runtimesOf gates :=
  releases_runtimes _ gates

def waitsAt (s : Submission) (gate : Nat) : Prop := s.phase = .waiting ∧ ∃ rest, s.remaining = gate :: rest

def Owed (gates : List Gate) (held : Nat → Nat) (base : Nat → Nat → Prop) (index : Nat) (s : Submission) : Prop :=
  GatesOk gates (fun gate => held gate + s.acquired.count gate) fun gate client => base gate client ∨ (client = index ∧ waitsAt s gate)

theorem settle_owed (gates : List Gate) (held : Nat → Nat) (base : Nat → Nat → Prop) (index : Nat) (s : Submission)
    (ok : GatesOk gates (fun gate => held gate + s.acquired.count gate) base) :
    Owed (settle gates s).1 held base index (settle gates s).2 := by
  intro gate found read
  have after := settle_ok gates s held base ok gate found read
  exact ⟨after.positive, after.stocked, after.served, fun client listed => .inl (after.listed client listed)⟩

theorem advance_owed (cancelled : List RunnerId) (index : Nat) (runner : RunnerId) (held : Nat → Nat) (base : Nat → Nat → Prop)
    (apart : ∀ gate, ¬ base gate index) (remaining acquired : List Nat) (gates : List Gate)
    (ok : GatesOk gates (fun gate => held gate + acquired.count gate) base) :
    Owed (advance cancelled index runner acquired remaining gates).1 held base index
      (advance cancelled index runner acquired remaining gates).2 := by
  induction remaining generalizing acquired gates with
  | nil =>
      rw [advance]
      split
      · exact settle_owed gates held base index _ ok
      · intro gate found read
        have here := ok gate found read
        exact ⟨here.positive, here.stocked, here.served, fun client listed => .inl (here.listed client listed)⟩
  | cons target rest ih =>
      rw [advance]
      split
      · intro gate found read
        have here := ok gate found read
        exact ⟨here.positive, here.stocked, here.served, fun client listed => .inl (here.listed client listed)⟩
      · rename_i found read
        split
        · rename_i closed
          refine on_gate_ok gates target (enqueue index) _ _ base _ ok ?_ ?_
          · intro gate other
            exact ⟨rfl, fun client waiting => .inl waiting⟩
          · intro gate there before
            cases read.symm.trans there
            have absent : ¬ Listed found.semaphore index := fun listed => apart target (before.listed index listed)
            refine ⟨before.positive, ?_, enqueue_served found.semaphore index absent closed before.served, ?_⟩
            · simp only [enqueue_stock found.semaphore index absent]
              exact before.stocked
            · intro client listed
              rcases (enqueue_listed found.semaphore index client).mp listed with same | earlier
              · exact .inr ⟨same, rfl, rest, rfl⟩
              · exact .inl (before.listed client earlier)
        · rename_i ready
          have unlocked : locked found.semaphore = false := Bool.not_eq_true _ ▸ ready
          apply ih
          refine on_gate_ok gates target take _ _ base base ok ?_ ?_
          · intro gate other
            refine ⟨?_, fun client waiting => waiting⟩
            rw [List.count_append, List.count_cons_of_ne (Ne.symm other), List.count_nil, Nat.add_zero]
          · intro gate there before
            cases read.symm.trans there
            have taken := take_stock found.semaphore unlocked
            have stocked := before.stocked
            refine ⟨before.positive, ?_, take_served found.semaphore unlocked, before.listed⟩
            simp only [List.count_append, List.count_singleton_self]
            omega

theorem advance_runtimes (cancelled : List RunnerId) (index : Nat) (runner : RunnerId) (remaining acquired : List Nat)
    (gates : List Gate) : runtimesOf (advance cancelled index runner acquired remaining gates).1 = runtimesOf gates := by
  induction remaining generalizing acquired gates with
  | nil =>
      rw [advance]
      split
      · exact settle_runtimes gates _
      · rfl
  | cons target rest ih =>
      rw [advance]
      split
      · rfl
      · split
        · exact on_gate_runtimes gates target (enqueue index)
        · rw [ih, on_gate_runtimes]

def Level (records : Dict RuntimeId RuntimeRecord) (runtimes : List (Option RuntimeId)) (gate rank : Nat) : Prop :=
  (runtimes[gate]? = some none ∧ rank = 0) ∨
    ∃ runtime limits, runtimes[gate]? = some (some runtime) ∧ Chain records (some runtime) limits ∧ rank = limits.length

def Ranked (records : Dict RuntimeId RuntimeRecord) (runtimes : List (Option RuntimeId)) : List Nat → Prop
  | [] => True
  | gate :: rest => Level records runtimes gate rest.length ∧ Ranked records runtimes rest

variable (runtimes : List (Option RuntimeId))

theorem level_unique (gate a b : Nat) (first : Level records runtimes gate a) (second : Level records runtimes gate b) : a = b := by
  rcases first with ⟨root, none⟩ | ⟨runtime, limits, read, chain, same⟩
  · rcases second with ⟨_, other⟩ | ⟨_, _, found, _, _⟩
    · rw [none, other]
    · cases root.symm.trans found
  · rcases second with ⟨root, _⟩ | ⟨_, others, found, another, equal⟩
    · cases root.symm.trans read
    · cases read.symm.trans found
      rw [same, equal, chain_unique records (some runtime) limits others chain another]

theorem level_append (runtimes more : List (Option RuntimeId)) (gate rank : Nat) (level : Level records runtimes gate rank) :
    Level records (runtimes ++ more) gate rank := by
  rcases level with ⟨root, none⟩ | ⟨runtime, limits, read, chain, same⟩
  · have inside := (List.getElem?_eq_some_iff.mp root).1
    exact .inl ⟨(List.getElem?_append_left inside).trans root, none⟩
  · have inside := (List.getElem?_eq_some_iff.mp read).1
    exact .inr ⟨runtime, limits, (List.getElem?_append_left inside).trans read, chain, same⟩

theorem ranked_append (runtimes more : List (Option RuntimeId)) (path : List Nat) (ranked : Ranked records runtimes path) :
    Ranked records (runtimes ++ more) path := by
  induction path with
  | nil => trivial
  | cons gate rest ih => exact ⟨level_append records runtimes more gate rest.length ranked.1, ih ranked.2⟩

theorem ranked_suffix (before rest : List Nat) (ranked : Ranked records runtimes (before ++ rest)) : Ranked records runtimes rest := by
  induction before with
  | nil => exact ranked
  | cons gate others ih => exact ih ranked.2

theorem ranked_before (before rest : List Nat) (ranked : Ranked records runtimes (before ++ rest)) (gate : Nat)
    (member : gate ∈ before) : ∃ rank, Level records runtimes gate rank ∧ rest.length ≤ rank := by
  induction before with
  | nil => cases member
  | cons first others ih =>
      rcases List.mem_cons.mp member with same | later
      · refine ⟨(others ++ rest).length, same ▸ ranked.1, ?_⟩
        rw [List.length_append]
        exact Nat.le_add_left _ _
      · exact ih ranked.2 later

structure SubmissionOk (records : Dict RuntimeId RuntimeRecord) (runtimes : List (Option RuntimeId)) (s : Submission) : Prop where
  ranked : Ranked records runtimes (s.acquired ++ s.remaining)
  waiting : s.phase = .waiting → s.remaining ≠ []
  settled : s.phase = .settled → s.acquired = []

theorem settle_submission (gates : List Gate) (s : Submission) : SubmissionOk records runtimes (settle gates s).2 :=
  ⟨trivial, (fun waiting => by cases waiting), fun _ => rfl⟩

theorem advance_submission (cancelled : List RunnerId) (index : Nat) (runner : RunnerId) (remaining acquired : List Nat)
    (gates : List Gate) (ranked : Ranked records runtimes (acquired ++ remaining)) :
    SubmissionOk records runtimes (advance cancelled index runner acquired remaining gates).2 := by
  induction remaining generalizing acquired gates with
  | nil =>
      rw [advance]
      split
      · exact settle_submission records runtimes gates _
      · exact ⟨ranked, (fun waiting => by cases waiting), fun settled => by cases settled⟩
  | cons target rest ih =>
      have stays : SubmissionOk records runtimes ⟨runner, acquired, target :: rest, .waiting⟩ :=
        ⟨ranked, (fun _ empty => by cases empty), fun settled => by cases settled⟩
      rw [advance]
      split
      · exact stays
      · split
        · exact stays
        · apply ih
          rw [List.append_assoc]
          exact ranked

def heldOf (submissions : List Submission) (gate : Nat) : Nat := total (fun s => s.acquired.count gate) submissions

def waitsFor (submissions : List Submission) (gate index : Nat) : Prop :=
  ∃ s, submissions[index]? = some s ∧ waitsAt s gate

structure GateInvariant (records : Dict RuntimeId RuntimeRecord) (d : Dispatcher) : Prop where
  gates : GatesOk d.gates (heldOf d.submissions) (waitsFor d.submissions)
  submissions : ∀ s ∈ d.submissions, SubmissionOk records (runtimesOf d.gates) s
  capacity : (runtimesOf d.gates)[0]? = some none
  registry : ∀ runtime gate, Dict.get runtime d.runtimeGates = some gate → (runtimesOf d.gates)[gate]? = some (some runtime)
  chains : ∀ runner runtimes, Dict.get runner d.runnerRuntimes = some runtimes →
    ∃ start limits, Chain records start limits ∧ Dict.keys limits = runtimes

theorem initial_invariant (capacity : Nat) (positive : 0 < capacity) : GateInvariant records (initial capacity) := by
  refine ⟨?_, (fun s member => by cases member), rfl, (fun runtime gate read => by cases read), fun runner runtimes read => by cases read⟩
  intro index gate read
  cases index with
  | zero =>
      cases read
      exact ⟨positive, rfl, fun _ client pending => (by cases pending), fun client listed => absurd rfl listed⟩
  | succ _ => cases read

theorem on_submission_invariant (d next : Dispatcher) (index : Nat)
    (move : List Gate → Submission → Option (List Gate × Submission)) (inv : GateInvariant records d)
    (taken : onSubmission d index move = some next)
    (moves : ∀ s result held base, SubmissionOk records (runtimesOf d.gates) s → move d.gates s = some result → (∀ gate, ¬ base gate index) → Owed d.gates held base index s → Owed result.1 held base index result.2 ∧ runtimesOf result.1 = runtimesOf d.gates ∧ SubmissionOk records (runtimesOf d.gates) result.2) :
    GateInvariant records next := by
  rw [onSubmission] at taken
  cases read : d.submissions[index]? with
  | none =>
      rw [read] at taken
      cases taken
  | some s =>
      rw [read] at taken
      obtain ⟨result, moved, same⟩ := Option.map_eq_some_iff.mp taken
      let blank : Submission := ⟨s.runner, [], [], .settled⟩
      let held := heldOf (d.submissions.set index blank)
      let base := fun gate client => client ≠ index ∧ waitsFor d.submissions gate client
      have share (fresh : Submission) (gate : Nat) :
          heldOf (d.submissions.set index fresh) gate = held gate + fresh.acquired.count gate := by
        have with_ := total_set (fun s => s.acquired.count gate) d.submissions index s fresh read
        have without := total_set (fun s => s.acquired.count gate) d.submissions index s blank read
        simp only [held, heldOf]
        have empty : blank.acquired.count gate = 0 := rfl
        omega
      have owed : Owed d.gates held base index s := by
        intro gate found there
        have here := inv.gates gate found there
        refine ⟨here.positive, ?_, here.served, ?_⟩
        · have own := total_set (fun s => s.acquired.count gate) d.submissions index s blank read
          have empty : blank.acquired.count gate = 0 := rfl
          have stocked := here.stocked
          simp only [held, heldOf] at stocked ⊢
          omega
        · intro client listed
          obtain ⟨waiter, found, waits⟩ := here.listed client listed
          by_cases itself : client = index
          · rw [itself, read] at found
            cases found
            exact .inr ⟨itself, waits⟩
          · exact .inl ⟨itself, waiter, found, waits⟩
      obtain ⟨after, runtimes, ok⟩ := moves s result held base (inv.submissions s (List.mem_of_getElem? read)) moved
        (fun gate waits => waits.1 rfl) owed
      have inside : index < d.submissions.length := (List.getElem?_eq_some_iff.mp read).1
      rw [← same]
      refine ⟨?_, ?_, ?_, ?_, inv.chains⟩
      · intro gate found there
        have here := after gate found there
        refine ⟨here.positive, ?_, here.served, ?_⟩
        · rw [share]
          exact here.stocked
        · intro client listed
          rcases here.listed client listed with ⟨other, waiter, found, waits⟩ | ⟨itself, waits⟩
          · exact ⟨waiter, by rw [List.getElem?_set_ne (Ne.symm other)]; exact found, waits⟩
          · exact ⟨result.2, by rw [itself, List.getElem?_set_self inside], waits⟩
      · rw [runtimes]
        exact forall_set _ d.submissions index result.2 inv.submissions ok
      · rw [runtimes]
        exact inv.capacity
      · rw [runtimes]
        exact inv.registry

end LlmperfOrchestrator.Gates

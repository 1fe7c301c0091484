import Mathlib.Data.List.Basic

set_option autoImplicit false

namespace LlmperfOrchestrator.Runs

variable {State Event : Type}

def run (step : State → Event → Option State) : State → List Event → Option State
  | state, [] => some state
  | state, event :: rest => (step state event).bind fun next => run step next rest

def EveryStep (step : State → Event → Option State) (allowed : State → Event → Prop) :
    State → List Event → Prop
  | _, [] => True
  | state, event :: rest =>
      allowed state event ∧ ∀ next, step state event = some next → EveryStep step allowed next rest

instance everyStepDecidable (step : State → Event → Option State) (allowed : State → Event → Prop)
    [∀ state event, Decidable (allowed state event)] :
    ∀ state events, Decidable (EveryStep step allowed state events)
  | _, [] => .isTrue trivial
  | state, event :: rest =>
      match taken : step state event with
      | none => decidable_of_iff (allowed state event)
          ⟨fun here => ⟨here, fun next same => by simp [taken] at same⟩, And.left⟩
      | some next =>
          have := everyStepDecidable step allowed next rest
          decidable_of_iff (allowed state event ∧ EveryStep step allowed next rest)
            ⟨fun ⟨here, later⟩ => ⟨here, fun other same => Option.some.inj (taken.symm.trans same) ▸ later⟩,
              fun ⟨here, later⟩ => ⟨here, later next taken⟩⟩

variable (step : State → Event → Option State)

theorem run_nil (state : State) : run step state [] = some state := rfl

theorem run_cons (state last : State) (event : Event) (rest : List Event) :
    run step state (event :: rest) = some last ↔
      ∃ next, step state event = some next ∧ run step next rest = some last := by
  simp only [run, Option.bind_eq_some_iff]

theorem run_append (state last : State) (before after : List Event) :
    run step state (before ++ after) = some last ↔
      ∃ middle, run step state before = some middle ∧ run step middle after = some last := by
  induction before generalizing state with
  | nil => simp [run_nil]
  | cons event rest ih =>
      simp only [List.cons_append, run_cons, ih]
      constructor
      · rintro ⟨next, taken, middle, first, second⟩
        exact ⟨middle, ⟨next, taken, first⟩, second⟩
      · rintro ⟨middle, ⟨next, taken, first⟩, second⟩
        exact ⟨next, taken, middle, first, second⟩

theorem every_step_append (allowed : State → Event → Prop) (state middle : State) (before after : List Event)
    (meets : EveryStep step allowed state (before ++ after)) (reached : run step state before = some middle) :
    EveryStep step allowed state before ∧ EveryStep step allowed middle after := by
  induction before generalizing state with
  | nil =>
      cases Option.some.inj reached
      exact ⟨trivial, meets⟩
  | cons event rest ih =>
      obtain ⟨next, taken, remaining⟩ := (run_cons step state middle event rest).mp reached
      obtain ⟨first, later⟩ := meets
      obtain ⟨_, suffix⟩ := ih next (later next taken) remaining
      refine ⟨⟨first, fun other same => ?_⟩, suffix⟩
      cases Option.some.inj (taken.symm.trans same)
      exact (ih next (later next taken) remaining).1

theorem run_keeps (allowed : State → Event → Prop) (inv : State → Prop)
    (keeps : ∀ state event next, inv state → allowed state event → step state event = some next → inv next) (events : List Event)
    (state last : State) (start : inv state) (meets : EveryStep step allowed state events)
    (reached : run step state events = some last) : inv last := by
  induction events generalizing state with
  | nil =>
      cases Option.some.inj reached
      exact start
  | cons event rest ih =>
      obtain ⟨next, taken, remaining⟩ := (run_cons step state last event rest).mp reached
      exact ih next (keeps state event next start meets.1 taken) (meets.2 next taken) remaining

theorem every_step_any (events : List Event) (state : State) : EveryStep step (fun _ _ => True) state events := by
  induction events generalizing state with
  | nil => trivial
  | cons event rest ih => exact ⟨trivial, fun next _ => ih next⟩

theorem every_step_events (holds : Event → Prop) (events : List Event) (state : State) (all : ∀ event ∈ events, holds event) :
    EveryStep step (fun _ event => holds event) state events := by
  induction events generalizing state with
  | nil => trivial
  | cons event rest ih =>
      refine ⟨all event List.mem_cons_self, ?_⟩
      intro next _
      exact ih next fun later member => all later (List.mem_cons_of_mem event member)

theorem every_step_and (one other : State → Event → Prop) (events : List Event) (state : State)
    (first : EveryStep step one state events) (second : EveryStep step other state events) :
    EveryStep step (fun state event => one state event ∧ other state event) state events := by
  induction events generalizing state with
  | nil => trivial
  | cons event rest ih =>
      refine ⟨⟨first.1, second.1⟩, ?_⟩
      intro next taken
      exact ih next (first.2 next taken) (second.2 next taken)

theorem run_invariant (inv : State → Prop) (keeps : ∀ state event next, inv state → step state event = some next → inv next)
    (events : List Event) (state last : State) (start : inv state) (reached : run step state events = some last) : inv last :=
  run_keeps step (fun _ _ => True) inv (fun s e n held _ taken => keeps s e n held taken)
    events state last start (every_step_any step events state) reached

theorem run_relates (inv : State → Prop) (rel : State → State → Prop) (refl : ∀ state, rel state state)
    (trans : ∀ a b c, rel a b → rel b c → rel a c)
    (keeps : ∀ state event next, inv state → step state event = some next → inv next)
    (single : ∀ state event next, inv state → step state event = some next → rel state next) (events : List Event)
    (state last : State) (start : inv state) (reached : run step state events = some last) : rel state last := by
  induction events generalizing state with
  | nil =>
      obtain rfl : state = last := Option.some.inj reached
      exact refl state
  | cons event rest ih =>
      obtain ⟨next, taken, remaining⟩ := (run_cons step state last event rest).mp reached
      exact trans state next last (single state event next start taken)
        (ih next (keeps state event next start taken) remaining)

def occurrences (step : State → Event → Option State) (happens : State → Event → Bool) : State → List Event → Nat
  | _, [] => 0
  | state, event :: rest =>
      (if happens state event then 1 else 0) + ((step state event).elim 0 fun next => occurrences step happens next rest)

theorem occurrences_le (first second : State → Event → Bool) (inv : State → Prop)
    (keeps : ∀ state event next, inv state → step state event = some next → inv next)
    (implied : ∀ state event, inv state → first state event = true → second state event = true) (events : List Event)
    (state : State) (start : inv state) : occurrences step first state events ≤ occurrences step second state events := by
  induction events generalizing state with
  | nil => exact Nat.le_refl _
  | cons event rest ih =>
      have here : (if first state event then 1 else 0) ≤ if second state event then 1 else 0 := by
        cases fired : first state event with
        | false => exact Nat.zero_le _
        | true => simp [implied state event start fired]
      cases taken : step state event with
      | none => simpa [occurrences, taken] using here
      | some next =>
          have later := ih next (keeps state event next start taken)
          simp only [occurrences, taken, Option.elim]
          omega

theorem never_again (happens : State → Event → Bool) (inv past : State → Prop)
    (keeps : ∀ state event next, inv state → step state event = some next → inv next)
    (stays : ∀ state event next, inv state → past state → step state event = some next → past next)
    (fires : ∀ state event, happens state event = true → ¬ past state) (events : List Event) (state : State) (start : inv state)
    (already : past state) : occurrences step happens state events = 0 := by
  induction events generalizing state with
  | nil => rfl
  | cons event rest ih =>
      have silent : happens state event = false := by
        cases fired : happens state event with
        | false => rfl
        | true => exact absurd already (fires state event fired)
      cases taken : step state event with
      | none => simp [occurrences, silent, taken]
      | some next =>
          have later := ih next (keeps state event next start taken) (stays state event next start already taken)
          simp [occurrences, silent, taken, later]

theorem at_most_once (happens : State → Event → Bool) (inv past : State → Prop)
    (keeps : ∀ state event next, inv state → step state event = some next → inv next)
    (stays : ∀ state event next, inv state → past state → step state event = some next → past next)
    (fires : ∀ state event, happens state event = true → ¬ past state)
    (ends : ∀ state event next, inv state → happens state event = true → step state event = some next → past next)
    (events : List Event) (state : State) (start : inv state) : occurrences step happens state events ≤ 1 := by
  induction events generalizing state with
  | nil => simp [occurrences]
  | cons event rest ih =>
      cases taken : step state event with
      | none =>
          simp only [occurrences, taken, Option.elim]
          split <;> omega
      | some next =>
          simp only [occurrences, taken, Option.elim]
          have kept := keeps state event next start taken
          cases fired : happens state event with
          | false => simpa using ih next kept
          | true =>
              have none := never_again step happens inv past keeps stays fires rest next kept
                (ends state event next start fired taken)
              simp [none]

end LlmperfOrchestrator.Runs

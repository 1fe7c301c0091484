import LlmperfOrchestrator.Storage.Documents

set_option autoImplicit false

namespace LlmperfOrchestrator.Runtime

open Tables Storage

structure Completion where
  succeeded : Bool
  completedAt : Instant
deriving DecidableEq, Repr

structure Eligibility where
  ready : Bool
  dueAt : Option Instant
  blocked : Bool
deriving DecidableEq, Repr

def dateTrigger (dueAt now : Instant) : Eligibility := ⟨dueAt ≤ now, some dueAt, false⟩

def delayTrigger (anchor : Instant) (delay : Nat) (now : Instant) : Eligibility := dateTrigger (anchor + delay) now

-- The latest completion of the dependencies, or the creation without any.
def anchor (dependencies : List String) (createdAt : Instant) (completions : Dict String Completion) : Instant :=
  ((dependencies.filterMap fun id => Dict.get id completions).map Completion.completedAt).max?.getD createdAt

def dependencyTrigger (dependencies : List String) (createdAt : Instant) (delay : Nat) (now : Instant)
    (completions : Dict String Completion) : Eligibility :=
  if dependencies.any fun id => (Dict.get id completions).any fun completion => ¬ completion.succeeded then ⟨false, none, true⟩
  else if dependencies.any fun id => (Dict.get id completions).isNone then ⟨false, none, false⟩
  else delayTrigger (anchor dependencies createdAt completions) delay now

variable (dependencies : List String) (createdAt : Instant)

theorem anchor_bound (completions : Dict String Completion) (id : String) (completion : Completion) (member : id ∈ dependencies)
    (found : Dict.get id completions = some completion) : completion.completedAt ≤ anchor dependencies createdAt completions := by
  have listed : completion.completedAt ∈
      (dependencies.filterMap fun id => Dict.get id completions).map Completion.completedAt :=
    List.mem_map_of_mem (List.mem_filterMap.mpr ⟨id, member, found⟩)
  unfold anchor
  cases latest : ((dependencies.filterMap fun id => Dict.get id completions).map Completion.completedAt).max? with
  | none =>
      rw [List.max?_eq_none_iff] at latest
      rw [latest] at listed
      cases listed
  | some bound => exact (List.max?_eq_some_iff.mp latest).2 _ listed

structure Due (dependencies : List String) (createdAt : Instant) (delay : Nat) (due : Instant)
    (completions : Dict String Completion) : Prop where
  met : ∀ id ∈ dependencies, ∃ completion, Dict.get id completions = some completion ∧
    completion.succeeded = true ∧ completion.completedAt + delay ≤ due
  created : dependencies = [] → createdAt + delay ≤ due

theorem dependency_trigger_due (delay : Nat) (now due : Instant) (completions : Dict String Completion)
    (decided : (dependencyTrigger dependencies createdAt delay now completions).dueAt = some due) :
    Due dependencies createdAt delay due completions := by
  unfold dependencyTrigger at decided
  split at decided
  · cases decided
  · rename_i unfailed
    split at decided
    · cases decided
    · rename_i complete
      cases decided
      refine ⟨fun id member => ?_, fun none => ?_⟩
      · cases found : Dict.get id completions with
        | none => exact absurd (List.any_eq_true.mpr ⟨id, member, by simp [found]⟩) complete
        | some completion =>
            have won : completion.succeeded = true := by
              cases outcome : completion.succeeded with
              | true => rfl
              | false => exact absurd (List.any_eq_true.mpr ⟨id, member, by simp [found, outcome]⟩) unfailed
            have late := anchor_bound dependencies createdAt completions id completion member found
            exact ⟨completion, rfl, won, Int.add_le_add_right late delay⟩
      · subst none
        exact Int.le_refl _

theorem dependency_trigger_ready (delay : Nat) (now : Instant) (completions : Dict String Completion)
    (ready : (dependencyTrigger dependencies createdAt delay now completions).ready = true) :
    ∃ due, (dependencyTrigger dependencies createdAt delay now completions).dueAt = some due ∧ due ≤ now := by
  unfold dependencyTrigger at ready ⊢
  split at ready
  · cases ready
  · rename_i unfailed
    split at ready
    · cases ready
    · rename_i complete
      rw [if_neg unfailed, if_neg complete]
      exact ⟨_, rfl, of_decide_eq_true ready⟩

theorem dependency_trigger_blocked (delay : Nat) (now : Instant) (completions : Dict String Completion)
    (blocked : (dependencyTrigger dependencies createdAt delay now completions).blocked = true) :
    ∃ id ∈ dependencies, ∃ completion, Dict.get id completions = some completion ∧ completion.succeeded = false := by
  unfold dependencyTrigger at blocked
  split at blocked
  · rename_i failed
    obtain ⟨id, member, lost⟩ := List.any_eq_true.mp failed
    obtain ⟨completion, found, outcome⟩ := (Option.any_eq_true _ _).mp lost
    exact ⟨id, member, completion, found, by simpa using outcome⟩
  · split at blocked <;> cases blocked

theorem dependency_trigger_timed (delay : Nat) (now : Instant) (completions : Dict String Completion)
    (unblocked : (dependencyTrigger dependencies createdAt delay now completions).blocked = false)
    (complete : ∀ id ∈ dependencies, Dict.get id completions ≠ none) :
    (dependencyTrigger dependencies createdAt delay now completions).dueAt ≠ none := by
  unfold dependencyTrigger at unblocked ⊢
  split at unblocked
  · cases unblocked
  · rename_i unfailed
    rw [if_neg unfailed]
    split
    · rename_i missing
      obtain ⟨id, member, absent⟩ := List.any_eq_true.mp missing
      exact absurd (Option.isNone_iff_eq_none.mp absent) (complete id member)
    · simp [delayTrigger, dateTrigger]

end LlmperfOrchestrator.Runtime

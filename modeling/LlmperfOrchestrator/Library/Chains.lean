import Mathlib.Data.List.Basic

set_option autoImplicit false

namespace LlmperfOrchestrator.Chains

variable {Item : Type}

theorem filterMap_split {Row : Type} (read : Row → Option Item) (row : Row) (rows : List Row) :
    (row :: rows).filterMap read = (read row).toList ++ rows.filterMap read := by
  cases kept : read row with
  | none => rw [List.filterMap_cons_none kept, Option.toList_none, List.nil_append]
  | some item => rw [List.filterMap_cons_some kept, Option.toList_some, List.singleton_append]

theorem filterMap_set {Row : Type} (read : Row → Option Item) (rows : List Row) (index : Nat) (old fresh : Row)
    (found : rows[index]? = some old) :
    ((read old).toList ++ (rows.set index fresh).filterMap read).Perm ((read fresh).toList ++ rows.filterMap read) := by
  induction rows generalizing index with
  | nil => cases found
  | cons row rest ih =>
      cases index with
      | zero =>
          obtain rfl : row = old := Option.some.inj found
          rw [List.set_cons_zero, filterMap_split, filterMap_split]
          exact List.perm_append_comm_assoc _ _ _
      | succ index =>
          have later := ih index found
          rw [List.set_cons_succ, filterMap_split, filterMap_split]
          exact (List.perm_append_comm_assoc _ _ _).trans ((later.append_left _).trans (List.perm_append_comm_assoc _ _ _))

structure Chain (Item : Type) where
  served : List Item
  offered : List Item
  held : List Item
  rest : List Item
  dropped : List Item

inductive Step : Chain Item → Chain Item → Prop where
  | stays (chain next : Chain Item) (served : next.served = chain.served) (offered : next.offered.Perm chain.offered)
      (held : next.held.Perm chain.held) (rest : next.rest = chain.rest) (dropped : next.dropped = chain.dropped) :
      Step chain next
  | serve (chain next : Chain Item) (item : Item) (served : next.served = chain.served ++ [item])
      (offered : chain.offered.Perm (item :: next.offered)) (held : next.held.Perm (item :: chain.held))
      (rest : next.rest = chain.rest) (dropped : next.dropped = chain.dropped) : Step chain next
  | advance (chain next : Chain Item) (item : Item) (served : next.served = chain.served)
      (held : chain.held.Perm (item :: next.held))
      (moved : ∃ head, chain.rest = head :: next.rest ∧ next.offered.Perm (head :: chain.offered))
      (dropped : next.dropped = chain.dropped) : Step chain next
  | finish (chain next : Chain Item) (item : Item) (served : next.served = chain.served)
      (held : chain.held.Perm (item :: next.held)) (offered : next.offered.Perm chain.offered) (exhausted : chain.rest = [])
      (rest : next.rest = []) (dropped : next.dropped = chain.dropped) : Step chain next
  | drop (chain next : Chain Item) (item : Item) (served : next.served = chain.served)
      (held : chain.held.Perm (item :: next.held)) (offered : next.offered.Perm chain.offered) (rest : next.rest = [])
      (dropped : next.dropped = chain.dropped ++ chain.rest) : Step chain next

structure Sound (order : List Item) (chain : Chain Item) : Prop where
  whole : chain.served ++ chain.offered ++ chain.rest ++ chain.dropped = order
  single : chain.offered.length + chain.held.length ≤ 1
  moving : chain.offered = [] → chain.held = [] → chain.rest = []
  ended : chain.dropped ≠ [] → chain.offered = [] ∧ chain.held = []

theorem perm_short (first second : List Item) (same : first.Perm second) (short : second.length ≤ 1) : first = second := by
  cases second with
  | nil => exact List.perm_nil.mp same
  | cons item others =>
      have none : others = [] := by
        rw [List.length_cons] at short
        exact List.length_eq_zero_iff.mp (by omega)
      rw [none] at same ⊢
      exact List.perm_singleton.mp same

theorem fresh_sound (item : Item) (rest : List Item) : Sound (item :: rest) ⟨[], [item], [], rest, []⟩ where
  whole := by simp
  single := by simp
  moving := fun absent => by cases absent
  ended := fun some => absurd rfl some

theorem empty_sound : Sound [] (⟨[], [], [], [], []⟩ : Chain Item) where
  whole := rfl
  single := by simp
  moving := fun _ _ => rfl
  ended := fun some => absurd rfl some

variable (order : List Item)

theorem holder_alone (chain next : Chain Item) (item : Item) (sound : Sound order chain)
    (held : chain.held.Perm (item :: next.held)) : chain.offered = [] ∧ next.held = [] ∧ chain.dropped = [] := by
  have many := held.length_eq
  have single := sound.single
  rw [List.length_cons] at many
  have offered : chain.offered = [] := List.length_eq_zero_iff.mp (by omega)
  have others : next.held = [] := List.length_eq_zero_iff.mp (by omega)
  refine ⟨offered, others, ?_⟩
  by_contra some
  have none := (sound.ended some).2
  rw [none] at many
  cases many

theorem step_sound (chain next : Chain Item) (sound : Sound order chain) (step : Step chain next) : Sound order next := by
  have whole := sound.whole
  have single := sound.single
  cases step with
  | stays served offered held rest dropped =>
      have sameOffered := perm_short _ _ offered (by omega)
      have sameHeld := perm_short _ _ held (by omega)
      constructor
      · rw [served, sameOffered, rest, dropped]
        exact whole
      · rw [sameOffered, sameHeld]
        exact single
      · rw [sameOffered, sameHeld, rest]
        exact sound.moving
      · rw [sameOffered, sameHeld, dropped]
        exact sound.ended
  | serve item served offered held rest dropped =>
      have many := offered.length_eq
      have more := held.length_eq
      rw [List.length_cons] at many more
      have none : next.offered = [] := List.length_eq_zero_iff.mp (by omega)
      rw [none] at offered
      have only := perm_short _ _ offered (by simp)
      constructor
      · rw [served, none, rest, dropped, List.append_nil, ← whole, only]
      · omega
      · intro _ free
        rw [free] at more
        cases more
      · intro some
        rw [dropped] at some
        rw [(sound.ended some).1] at many
        cases many
  | advance item served held moved dropped =>
      obtain ⟨noOffer, noHolder, noDrop⟩ := holder_alone order chain next item sound held
      obtain ⟨head, rest, offered⟩ := moved
      rw [noOffer] at offered
      have only := perm_short _ _ offered (by simp)
      constructor
      · rw [served, only, dropped, ← whole, rest, noOffer]
        simp
      · simp [only, noHolder]
      · rw [only]
        exact fun absent => by cases absent
      · rw [dropped]
        exact fun some => absurd noDrop some
  | finish item served held offered exhausted rest dropped =>
      obtain ⟨noOffer, noHolder, noDrop⟩ := holder_alone order chain next item sound held
      rw [noOffer] at offered
      have none := List.perm_nil.mp offered
      constructor
      · rw [served, none, rest, dropped, ← whole, noOffer, exhausted]
      · simp [none, noHolder]
      · exact fun _ _ => rest
      · rw [dropped]
        exact fun some => absurd noDrop some
  | drop item served held offered rest dropped =>
      obtain ⟨noOffer, noHolder, noDrop⟩ := holder_alone order chain next item sound held
      rw [noOffer] at offered
      have none := List.perm_nil.mp offered
      constructor
      · rw [served, none, rest, dropped, ← whole, noOffer, noDrop]
        simp
      · simp [none, noHolder]
      · exact fun _ _ => rest
      · exact fun _ => ⟨none, noHolder⟩

theorem served_prefix (chain : Chain Item) (sound : Sound order chain) : chain.served <+: order := by
  rw [← sound.whole, List.append_assoc, List.append_assoc]
  exact List.prefix_append _ _

theorem idle_ended (chain : Chain Item) (sound : Sound order chain) (noOffer : chain.offered = []) (noHolder : chain.held = []) :
    order = chain.served ++ chain.dropped := by
  rw [← sound.whole, noOffer, sound.moving noOffer noHolder, List.append_nil, List.append_nil]

theorem held_remaining (chain next : Chain Item) (item : Item) (sound : Sound order chain)
    (held : chain.held.Perm (item :: next.held)) : order = chain.served ++ chain.rest := by
  obtain ⟨noOffer, _, noDrop⟩ := holder_alone order chain next item sound held
  rw [← sound.whole, noOffer, noDrop, List.append_nil, List.append_nil]

end LlmperfOrchestrator.Chains

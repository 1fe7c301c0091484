import Mathlib.Data.List.Basic
import Mathlib.Logic.Relation

set_option autoImplicit false

namespace LlmperfOrchestrator.Cascade

open Relation

section Order

variable {Item Id : Type} (name : Item → Id) (parents : Item → List Id)

def Topological : List Item → List Id → Prop
  | [], _ => True
  | item :: rest, visited => (∀ parent ∈ parents item, parent ∈ visited) ∧ Topological rest (name item :: visited)

def Parent (items : List Item) (parent child : Id) : Prop :=
  ∃ item ∈ items, name item = child ∧ parent ∈ parents item

def Ancestor (items : List Item) : Id → Id → Prop := TransGen (Parent name parents items)

theorem ancestor_named (items : List Item) (ancestor id : Id) (above : Ancestor name parents items ancestor id) :
    ∃ item ∈ items, name item = id := by
  cases above with
  | single edge =>
      obtain ⟨item, member, named, _⟩ := edge
      exact ⟨item, member, named⟩
  | tail _ edge =>
      obtain ⟨item, member, named, _⟩ := edge
      exact ⟨item, member, named⟩

theorem topological_induction (motive : Id → Prop) (items : List Item) (visited : List Id)
    (ordered : Topological name parents items visited) (known : ∀ id ∈ visited, motive id)
    (holds : ∀ item ∈ items, (∀ parent ∈ parents item, motive parent) → motive (name item)) :
    ∀ item ∈ items, motive (name item) := by
  induction items generalizing visited with
  | nil =>
      intro item member
      cases member
  | cons head rest ih =>
      have first : motive (name head) := holds head List.mem_cons_self fun parent member => known parent (ordered.1 parent member)
      have later : ∀ id ∈ name head :: visited, motive id := by
        intro id member
        cases member with
        | head => exact first
        | tail _ old => exact known id old
      intro item member
      cases member with
      | head => exact first
      | tail _ inRest =>
          exact ih (name head :: visited) ordered.2 later (fun other listed => holds other (List.mem_cons_of_mem _ listed)) item inRest

theorem topological_closed (items : List Item) (visited : List Id) (ordered : Topological name parents items visited) :
    ∀ item ∈ items, ∀ parent ∈ parents item, parent ∈ visited ∨ parent ∈ items.map name := by
  induction items generalizing visited with
  | nil =>
      intro item member
      cases member
  | cons head rest ih =>
      intro item member parent needed
      cases member with
      | head => exact .inl (ordered.1 parent needed)
      | tail _ inRest =>
          cases ih (name head :: visited) ordered.2 item inRest parent needed with
          | inl known =>
              cases known with
              | head => exact .inr List.mem_cons_self
              | tail _ old => exact .inl old
          | inr listed => exact .inr (List.mem_cons_of_mem _ listed)

theorem topological_pairwise (items : List Item) (visited : List Id) (ordered : Topological name parents items visited)
    (unique : (items.map name).Nodup) (fresh : ∀ item ∈ items, name item ∉ visited) :
    (∀ item ∈ items, name item ∉ parents item) ∧ items.Pairwise fun early late => name late ∉ parents early := by
  induction items generalizing visited with
  | nil => exact ⟨fun item member => (by cases member), List.Pairwise.nil⟩
  | cons head rest ih =>
      simp only [List.map_cons, List.nodup_cons] at unique
      have unseen : ∀ item ∈ rest, name item ∉ name head :: visited := by
        intro item member seen
        cases List.mem_cons.mp seen with
        | inl same => exact unique.1 (same ▸ List.mem_map_of_mem member)
        | inr old => exact fresh item (List.mem_cons_of_mem _ member) old
      obtain ⟨loops, pairs⟩ := ih (name head :: visited) ordered.2 unique.2 unseen
      constructor
      · intro item member needed
        cases member with
        | head => exact fresh head List.mem_cons_self (ordered.1 _ needed)
        | tail _ inRest => exact loops item inRest needed
      · refine List.pairwise_cons.mpr ⟨fun late member needed => ?_, pairs⟩
        exact fresh late (List.mem_cons_of_mem _ member) (ordered.1 _ needed)

-- A rule that passes a failure from parents to children reaches exactly the
-- descendants of the failures.
theorem cascade_exact (items : List Item) (failed dropped : Id → Prop) (ordered : Topological name parents items [])
    (law : ∀ item ∈ items, dropped (name item) ↔ ∃ parent ∈ parents item, dropped parent ∨ failed parent) :
    ∀ item ∈ items, dropped (name item) ↔ ∃ ancestor, Ancestor name parents items ancestor (name item) ∧ failed ancestor := by
  have reached : ∀ item ∈ items, dropped (name item) →
      ∃ ancestor, Ancestor name parents items ancestor (name item) ∧ failed ancestor := by
    apply topological_induction name parents
      (fun id => dropped id → ∃ ancestor, Ancestor name parents items ancestor id ∧ failed ancestor) items [] ordered
    · intro id member
      cases member
    · intro item member earlier gone
      obtain ⟨parent, needed, cause⟩ := (law item member).mp gone
      have edge : Parent name parents items parent (name item) := ⟨item, member, rfl, needed⟩
      cases cause with
      | inl gone =>
          obtain ⟨ancestor, above, broken⟩ := earlier parent needed gone
          exact ⟨ancestor, above.tail edge, broken⟩
      | inr broken => exact ⟨parent, .single edge, broken⟩
  have falls : ∀ ancestor id, Ancestor name parents items ancestor id → failed ancestor → dropped id := by
    intro ancestor id above broken
    induction above with
    | single edge =>
        obtain ⟨item, member, rfl, needed⟩ := edge
        exact (law item member).mpr ⟨ancestor, needed, .inr broken⟩
    | tail _ edge gone =>
        obtain ⟨item, member, rfl, needed⟩ := edge
        exact (law item member).mpr ⟨_, needed, .inl gone⟩
  intro item member
  constructor
  · exact reached item member
  · intro ⟨ancestor, above, broken⟩
    exact falls ancestor (name item) above broken

end Order

section Evaluation

variable {Item Id Value : Type} [DecidableEq Id]
variable (name : Item → Id) (parents : Item → List Id) (combine : Item → List Value → Value)

def assign (values : Id → Value) (id : Id) (value : Value) : Id → Value :=
  fun other => if other = id then value else values other

def evaluate : List Item → (Id → Value) → Id → Value
  | [], values => values
  | item :: rest, values => evaluate rest (assign values (name item) (combine item ((parents item).map values)))

theorem evaluate_kept (items : List Item) (values : Id → Value) (id : Id) (absent : id ∉ items.map name) :
    evaluate name parents combine items values id = values id := by
  induction items generalizing values with
  | nil => rfl
  | cons item rest ih =>
      rw [List.map_cons, List.mem_cons, not_or] at absent
      rw [evaluate, ih _ absent.2, assign, if_neg absent.1]

theorem evaluate_unique (items : List Item) (visited : List Id) (values assigned : Id → Value) (settled : Id → Prop)
    (ordered : Topological name parents items visited) (unique : (items.map name).Nodup)
    (fresh : ∀ item ∈ items, name item ∉ visited)
    (known : ∀ id ∈ visited, settled id → values id = assigned id)
    (law : ∀ item ∈ items, settled (name item) → (∀ parent ∈ parents item, settled parent) ∧
      assigned (name item) = combine item ((parents item).map assigned)) :
    ∀ item ∈ items, settled (name item) → evaluate name parents combine items values (name item) = assigned (name item) := by
  induction items generalizing visited values with
  | nil =>
      intro item member
      cases member
  | cons head rest ih =>
      rw [List.map_cons, List.nodup_cons] at unique
      have first : settled (name head) → combine head ((parents head).map values) = assigned (name head) := by
        intro here
        obtain ⟨above, combined⟩ := law head List.mem_cons_self here
        rw [combined]
        apply congrArg (combine head)
        apply List.map_congr_left
        intro parent needed
        exact known parent (ordered.1 parent needed) (above parent needed)
      have later : ∀ id ∈ name head :: visited, settled id →
          assign values (name head) (combine head ((parents head).map values)) id = assigned id := by
        intro id member here
        by_cases same : id = name head
        · subst same
          rw [assign, if_pos rfl]
          exact first here
        · rw [assign, if_neg same]
          exact known id ((List.mem_cons.mp member).resolve_left same) here
      intro item member here
      cases member with
      | head =>
          rw [evaluate, evaluate_kept name parents combine rest _ _ unique.1, assign, if_pos rfl]
          exact first here
      | tail _ inRest =>
          have apart : ∀ other ∈ rest, name other ∉ name head :: visited := by
            intro other listed held
            cases List.mem_cons.mp held with
            | inl same => exact unique.1 (same ▸ List.mem_map_of_mem listed)
            | inr old => exact fresh other (List.mem_cons_of_mem _ listed) old
          exact ih (name head :: visited) _ ordered.2 unique.2 apart later
            (fun other listed => law other (List.mem_cons_of_mem _ listed)) item inRest here

end Evaluation

end LlmperfOrchestrator.Cascade

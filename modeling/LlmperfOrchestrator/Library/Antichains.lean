import LlmperfOrchestrator.Library.SeriesParallel
import Mathlib.Algebra.Order.BigOperators.Group.Finset
import Mathlib.Order.Antichain

set_option autoImplicit false

namespace LlmperfOrchestrator.SeriesParallel

open Relation

section Peaks

variable {Id Delay Data Weight : Type} [AddCommMonoid Weight] [LinearOrder Weight]

def Term.peak (weight : Id → Weight) : Term Id Delay Data → Weight
  | .empty => 0
  | .leaf row => weight row.node
  | .serial first rest => max (first.peak weight) (rest.peak weight)
  | .parallel left right => left.peak weight + right.peak weight
  | .delayed _ body => body.peak weight

def Term.Unordered (term : Term Id Delay Data) (chosen : Finset Id) : Prop := ∀ u ∈ chosen, ∀ v ∈ chosen, ¬ term.Before u v

theorem serial_list_peak (weight : Id → Weight) (terms : List (Term Id Delay Data)) :
    (serialList terms).peak weight = (terms.map (Term.peak weight)).foldr max 0 := by
  induction terms with
  | nil => rfl
  | cons term rest ih =>
      change max (term.peak weight) ((serialList rest).peak weight) = _
      rw [ih]
      rfl

theorem parallel_list_peak (weight : Id → Weight) (branch : Term Id Delay Data) (others : List (Term Id Delay Data)) :
    (parallelList branch others).peak weight = ((branch :: others).map (Term.peak weight)).sum := by
  induction others generalizing branch with
  | nil => simp [parallelList]
  | cons next others ih =>
      change branch.peak weight + (parallelList next others).peak weight = _
      rw [ih]
      simp only [List.map_cons, List.sum_cons]

theorem unordered_peak [DecidableEq Id] [IsOrderedAddMonoid Weight] [CanonicallyOrderedAdd Weight] (weight : Id → Weight)
    (term : Term Id Delay Data) (chosen : Finset Id) (known : ∀ u ∈ chosen, u ∈ term.nodes)
    (unordered : term.Unordered chosen) : ∑ u ∈ chosen, weight u ≤ term.peak weight := by
  induction term generalizing chosen with
  | empty =>
      have none : chosen = ∅ := Finset.eq_empty_of_forall_notMem fun u inside => by cases known u inside
      rw [none, Finset.sum_empty]
      exact le_refl _
  | leaf row =>
      have only : chosen ⊆ {row.node} := fun u inside => Finset.mem_singleton.mpr (List.mem_singleton.mp (known u inside))
      exact (Finset.sum_le_sum_of_subset only).trans_eq (Finset.sum_singleton _ _)
  | serial first rest firstIh restIh =>
      simp only [nodes_serial, List.mem_append] at known
      -- Members of both parts would be ordered.
      by_cases early : ∃ u ∈ chosen, u ∈ first.nodes
      · obtain ⟨u, inside, inFirst⟩ := early
        have all : ∀ v ∈ chosen, v ∈ first.nodes := by
          intro v other
          apply (known v other).resolve_right
          intro inRest
          exact unordered u inside v other (.inl ⟨inFirst, inRest⟩)
        have below := firstIh chosen all fun a inA b inB before => unordered a inA b inB (.inr (.inl before))
        exact below.trans (le_max_left _ _)
      · have all : ∀ v ∈ chosen, v ∈ rest.nodes := by
          intro v other
          apply (known v other).resolve_left
          intro inFirst
          exact early ⟨v, other, inFirst⟩
        have below := restIh chosen all fun a inA b inB before => unordered a inA b inB (.inr (.inr before))
        exact below.trans (le_max_right _ _)
  | parallel left right leftIh rightIh =>
      simp only [nodes_parallel, List.mem_append] at known
      have lefts := leftIh (chosen.filter (· ∈ left.nodes)) (fun u inside => (Finset.mem_filter.mp inside).2)
        fun a inA b inB before => unordered a (Finset.mem_filter.mp inA).1 b (Finset.mem_filter.mp inB).1 (.inl before)
      have rights := rightIh (chosen.filter (· ∉ left.nodes))
        (fun u inside => (known u (Finset.mem_filter.mp inside).1).resolve_left (Finset.mem_filter.mp inside).2)
        fun a inA b inB before => unordered a (Finset.mem_filter.mp inA).1 b (Finset.mem_filter.mp inB).1 (.inr before)
      rw [← Finset.sum_filter_add_sum_filter_not chosen (· ∈ left.nodes)]
      exact add_le_add lefts rights
  | delayed delay body ih => exact ih chosen known unordered

theorem peak_attained [DecidableEq Id] (weight : Id → Weight) (term : Term Id Delay Data) (unique : term.nodes.Nodup) :
    ∃ chosen : Finset Id, (∀ u ∈ chosen, u ∈ term.nodes) ∧ term.Unordered chosen ∧
      ∑ u ∈ chosen, weight u = term.peak weight := by
  induction term with
  | empty => exact ⟨∅, by simp, fun u absent => by simp at absent, Finset.sum_empty⟩
  | leaf row =>
      refine ⟨{row.node}, fun u inside => ?_, fun _ _ _ _ before => before, Finset.sum_singleton _ _⟩
      exact List.mem_singleton.mpr (Finset.mem_singleton.mp inside)
  | serial first rest firstIh restIh =>
      rw [nodes_serial] at unique
      obtain ⟨firstUnique, restUnique, separate⟩ := List.nodup_append'.mp unique
      rcases le_total (rest.peak weight) (first.peak weight) with heavier | heavier
      · obtain ⟨chosen, known, unordered, weighs⟩ := firstIh firstUnique
        refine ⟨chosen, fun u inside => by simp [known u inside], ?_, weighs.trans (max_eq_left heavier).symm⟩
        rintro u inU v inV (⟨_, inRest⟩ | before | before)
        · exact separate (known v inV) inRest
        · exact unordered u inU v inV before
        · exact separate (known u inU) (before_nodes rest u v before).1
      · obtain ⟨chosen, known, unordered, weighs⟩ := restIh restUnique
        refine ⟨chosen, fun u inside => by simp [known u inside], ?_, weighs.trans (max_eq_right heavier).symm⟩
        rintro u inU v inV (⟨inFirst, _⟩ | before | before)
        · exact separate inFirst (known u inU)
        · exact separate (before_nodes first u v before).1 (known u inU)
        · exact unordered u inU v inV before
  | parallel left right leftIh rightIh =>
      rw [nodes_parallel] at unique
      obtain ⟨leftUnique, rightUnique, separate⟩ := List.nodup_append'.mp unique
      obtain ⟨lefts, leftKnown, leftUnordered, leftWeighs⟩ := leftIh leftUnique
      obtain ⟨rights, rightKnown, rightUnordered, rightWeighs⟩ := rightIh rightUnique
      have apart : Disjoint lefts rights :=
        Finset.disjoint_left.mpr fun u inLeft inRight => separate (leftKnown u inLeft) (rightKnown u inRight)
      refine ⟨lefts ∪ rights, ?_, ?_, ?_⟩
      · intro u inside
        rw [nodes_parallel, List.mem_append]
        exact (Finset.mem_union.mp inside).imp (leftKnown u) (rightKnown u)
      · rintro u inU v inV (before | before)
        · obtain ⟨inLeft, alsoLeft⟩ := before_nodes left u v before
          have ownU := (Finset.mem_union.mp inU).resolve_right fun inRight => separate inLeft (rightKnown u inRight)
          have ownV := (Finset.mem_union.mp inV).resolve_right fun inRight => separate alsoLeft (rightKnown v inRight)
          exact leftUnordered u ownU v ownV before
        · obtain ⟨inRight, alsoRight⟩ := before_nodes right u v before
          have ownU := (Finset.mem_union.mp inU).resolve_left fun inLeft => separate (leftKnown u inLeft) inRight
          have ownV := (Finset.mem_union.mp inV).resolve_left fun inLeft => separate (leftKnown v inLeft) alsoRight
          exact rightUnordered u ownU v ownV before
      · rw [Finset.sum_union apart, leftWeighs, rightWeighs]
        rfl
  | delayed delay body ih => exact ih unique

end Peaks

section Order

variable {Id Delay Data : Type} (term : Term Id Delay Data)

theorem before_irrefl (unique : term.nodes.Nodup) (u : Id) : ¬ term.Before u u := by
  induction term with
  | empty => exact id
  | leaf row => exact id
  | serial first rest firstIh restIh =>
      rw [nodes_serial] at unique
      obtain ⟨firstUnique, restUnique, separate⟩ := List.nodup_append'.mp unique
      rintro (⟨inFirst, inRest⟩ | before | before)
      · exact separate inFirst inRest
      · exact firstIh firstUnique before
      · exact restIh restUnique before
  | parallel left right leftIh rightIh =>
      rw [nodes_parallel] at unique
      obtain ⟨leftUnique, rightUnique, _⟩ := List.nodup_append'.mp unique
      rintro (before | before)
      · exact leftIh leftUnique before
      · exact rightIh rightUnique before
  | delayed delay body ih => exact ih unique

theorem before_trans (unique : term.nodes.Nodup) (u v w : Id) (uv : term.Before u v) (vw : term.Before v w) : term.Before u w := by
  induction term with
  | empty => exact uv
  | leaf row => exact uv
  | serial first rest firstIh restIh =>
      rw [nodes_serial] at unique
      obtain ⟨firstUnique, restUnique, separate⟩ := List.nodup_append'.mp unique
      rcases uv with ⟨uFirst, vRest⟩ | uv | uv
      · rcases vw with ⟨vFirst, _⟩ | vw | vw
        · exact absurd vRest (separate vFirst)
        · exact absurd vRest (separate (before_nodes first v w vw).1)
        · exact .inl ⟨uFirst, (before_nodes rest v w vw).2⟩
      · rcases vw with ⟨_, wRest⟩ | vw | vw
        · exact .inl ⟨(before_nodes first u v uv).1, wRest⟩
        · exact .inr (.inl (firstIh firstUnique uv vw))
        · exact absurd (before_nodes rest v w vw).1 (separate (before_nodes first u v uv).2)
      · rcases vw with ⟨vFirst, _⟩ | vw | vw
        · exact absurd (before_nodes rest u v uv).2 (separate vFirst)
        · exact absurd (before_nodes rest u v uv).2 (separate (before_nodes first v w vw).1)
        · exact .inr (.inr (restIh restUnique uv vw))
  | parallel left right leftIh rightIh =>
      rw [nodes_parallel] at unique
      obtain ⟨leftUnique, rightUnique, separate⟩ := List.nodup_append'.mp unique
      rcases uv with uv | uv
      · rcases vw with vw | vw
        · exact .inl (leftIh leftUnique uv vw)
        · exact absurd (before_nodes right v w vw).1 (separate (before_nodes left u v uv).2)
      · rcases vw with vw | vw
        · exact absurd (before_nodes right u v uv).2 (separate (before_nodes left v w vw).1)
        · exact .inr (rightIh rightUnique uv vw)
  | delayed delay body ih => exact ih unique uv vw

theorem order_before (unique : term.nodes.Nodup) (free : ∀ u v, ¬ term.Explicit u v) (u v : Id) :
    TransGen (fun a b => term.Before a b ∨ term.Explicit a b) u v ↔ term.Before u v := by
  constructor
  · intro ordered
    induction ordered with
    | single step => exact step.resolve_right (free _ _)
    | tail _ step ih => exact before_trans term unique _ _ _ ih (step.resolve_right (free _ _))
  · exact fun before => .single (.inl before)

theorem antichain_unordered (unique : term.nodes.Nodup) (chosen : Finset Id)
    (apart : IsAntichain (TransGen fun a b => term.Before a b ∨ term.Explicit a b) (chosen : Set Id)) : term.Unordered chosen := by
  intro u inU v inV before
  by_cases same : u = v
  · subst v
    exact before_irrefl term unique u before
  · exact apart inU inV same (.single (.inl before))

end Order

section

variable {Id Delay Data : Type}

namespace Term

def Transparent : Term Id Delay Data → Prop
  | .empty => True
  | .leaf _ => False
  | .serial first rest => first.Transparent ∧ rest.Transparent
  | .parallel left right => left.Transparent ∨ right.Transparent
  | .delayed _ body => body.Transparent

def Funneled : Term Id Delay Data → Prop
  | .empty => True
  | .leaf _ => True
  | .serial first rest => first.Funneled ∧ rest.Funneled
  | .parallel left right => left.Funneled ∧ right.Funneled ∧ ¬ (left.Transparent ∧ right.Transparent)
  | .delayed _ body => body.Funneled

end Term

theorem transparent_exit (term : Term Id Delay Data) (frontier : List Id) (u : Id) (transparent : term.Transparent)
    (entered : u ∈ frontier) : u ∈ term.exits frontier := by
  induction term generalizing frontier with
  | empty => exact entered
  | leaf row => cases transparent
  | serial first rest firstIh restIh =>
      obtain ⟨firstHands, restHands⟩ := transparent
      exact restIh _ restHands (firstIh frontier firstHands entered)
  | parallel left right leftIh rightIh =>
      rw [Term.exits, List.mem_append]
      cases transparent with
      | inl leftHands => exact .inl (leftIh frontier leftHands entered)
      | inr rightHands => exact .inr (rightIh frontier rightHands entered)
  | delayed delay body ih => exact ih frontier transparent entered

theorem exit_transparent (term : Term Id Delay Data) (frontier : List Id) (u : Id) (exit : u ∈ term.exits frontier)
    (outside : u ∉ term.nodes) : term.Transparent := by
  induction term generalizing frontier with
  | empty => trivial
  | leaf row => exact absurd exit outside
  | serial first rest firstIh restIh =>
      rw [nodes_serial, List.mem_append, not_or] at outside
      have entered : u ∈ first.exits frontier := (exits_known rest _ u exit).resolve_right outside.2
      exact ⟨firstIh frontier entered outside.1, restIh _ exit outside.2⟩
  | parallel left right leftIh rightIh =>
      rw [nodes_parallel, List.mem_append, not_or] at outside
      rcases List.mem_append.mp exit with inLeft | inRight
      · exact .inl (leftIh frontier inLeft outside.1)
      · exact .inr (rightIh frontier inRight outside.2)
  | delayed delay body ih => exact ih frontier exit outside

theorem funneled_exits (term : Term Id Delay Data) (frontier : List Id) (funneled : term.Funneled)
    (unique : term.nodes.Nodup) (entry : frontier.Nodup) (apart : List.Disjoint frontier term.nodes) :
    (term.exits frontier).Nodup := by
  induction term generalizing frontier with
  | empty => exact entry
  | leaf row => exact List.nodup_singleton row.node
  | serial first rest firstIh restIh =>
      rw [nodes_serial] at unique apart
      obtain ⟨firstUnique, restUnique, separate⟩ := List.nodup_append'.mp unique
      have between := firstIh frontier funneled.1 firstUnique entry (List.disjoint_append_right.mp apart).1
      apply restIh _ funneled.2 restUnique between
      intro u exit inside
      rcases exits_known first frontier u exit with entered | held
      · exact (List.disjoint_append_right.mp apart).2 entered inside
      · exact separate held inside
  | parallel left right leftIh rightIh =>
      rw [nodes_parallel] at unique apart
      obtain ⟨leftUnique, rightUnique, separate⟩ := List.nodup_append'.mp unique
      obtain ⟨leftApart, rightApart⟩ := List.disjoint_append_right.mp apart
      refine List.nodup_append'.mpr ⟨leftIh frontier funneled.1 leftUnique entry leftApart,
        rightIh frontier funneled.2.1 rightUnique entry rightApart, ?_⟩
      -- A common exit is an entry that both sides hand on.
      intro u inLeft inRight
      by_cases heldLeft : u ∈ left.nodes
      · rcases exits_known right frontier u inRight with entered | heldRight
        · exact leftApart entered heldLeft
        · exact separate heldLeft heldRight
      · have entered := (exits_known left frontier u inLeft).resolve_right heldLeft
        exact funneled.2.2 ⟨exit_transparent left frontier u inLeft heldLeft,
          exit_transparent right frontier u inRight (rightApart entered)⟩
  | delayed delay body ih => exact ih frontier funneled unique entry apart

theorem serial_list_funneled (terms : List (Term Id Delay Data)) (each : ∀ term ∈ terms, term.Funneled) :
    (serialList terms).Funneled := by
  induction terms with
  | nil => trivial
  | cons head rest ih =>
      exact ⟨each head List.mem_cons_self, ih fun term member => each term (List.mem_cons_of_mem head member)⟩

theorem parallel_list_funneled (branch : Term Id Delay Data) (others : List (Term Id Delay Data))
    (each : ∀ term ∈ branch :: others, term.Funneled) (u : Id)
    (single : ((parallelList branch others).exits [u]).Nodup) : (parallelList branch others).Funneled := by
  induction others generalizing branch with
  | nil => exact each branch List.mem_cons_self
  | cons next others ih =>
      obtain ⟨_, restSingle, separate⟩ := List.nodup_append'.mp single
      refine ⟨each branch List.mem_cons_self,
        ih next (fun term member => each term (List.mem_cons_of_mem branch member)) restSingle, fun both => ?_⟩
      exact separate (transparent_exit branch [u] u both.1 (List.mem_singleton_self u))
        (transparent_exit _ [u] u both.2 (List.mem_singleton_self u))

end

end LlmperfOrchestrator.SeriesParallel

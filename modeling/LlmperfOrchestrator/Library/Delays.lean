import LlmperfOrchestrator.Library.SeriesParallel
import Mathlib.Data.List.MinMax
import Mathlib.Algebra.Order.Group.Defs
import Mathlib.Tactic.Abel

set_option autoImplicit false

namespace LlmperfOrchestrator.SeriesParallel

section

variable {Id Delay Data : Type}

def Ordered (rows : List (Row Id Delay Data)) : Prop :=
  (∀ row ∈ rows, row.node ∉ row.dependencies) ∧ rows.Pairwise fun early late => late.node ∉ early.dependencies

theorem ordered_sublist (some all : List (Row Id Delay Data)) (inside : some.Sublist all) (ordered : Ordered all) :
    Ordered some :=
  ⟨fun row member => ordered.1 row (inside.subset member), ordered.2.sublist inside⟩

variable (early late : List (Row Id Delay Data))

theorem ordered_append :
    Ordered (early ++ late) ↔
      Ordered early ∧ Ordered late ∧ ∀ a ∈ early, ∀ b ∈ late, b.node ∉ a.dependencies := by
  simp only [Ordered, List.pairwise_append, List.mem_append]
  constructor
  · rintro ⟨loops, first, last, cross⟩
    exact ⟨⟨fun r m => loops r (.inl m), first⟩, ⟨fun r m => loops r (.inr m), last⟩, cross⟩
  · rintro ⟨⟨loopsE, first⟩, ⟨loopsL, last⟩, cross⟩
    exact ⟨fun r m => m.elim (loopsE r) (loopsL r), first, last, cross⟩

theorem dependency_earlier (row dependency : Row Id Delay Data) (ordered : Ordered (early ++ row :: late))
    (member : dependency ∈ early ++ row :: late) (needed : dependency.node ∈ row.dependencies) : dependency ∈ early := by
  have behind := ((ordered_append _ _).mp ordered).2.1
  rcases List.mem_append.mp member with known | later
  · exact known
  · rcases List.mem_cons.mp later with rfl | later
    · exact absurd needed (behind.1 _ List.mem_cons_self)
    · exact absurd needed ((List.pairwise_cons.mp behind.2).1 dependency later)

section Offsets
variable [AddCommMonoid Delay] [LinearOrder Delay]

def latest (offsets : Id → Delay) (names : List Id) : Delay := (names.map offsets).max?.getD 0

variable (offsets : Id → Delay)

theorem latest_ge (names : List Id) (name : Id) (member : name ∈ names) : offsets name ≤ latest offsets names := by
  obtain ⟨top, read⟩ : ∃ top, (names.map offsets).max? = some top := by
    cases read : (names.map offsets).max? with
    | none =>
        simp only [List.max?_eq_none_iff, List.map_eq_nil_iff] at read
        simp [read] at member
    | some top => exact ⟨top, rfl⟩
  have bound := (List.max?_eq_some_iff.mp read).2 (offsets name) (List.mem_map_of_mem member)
  simpa [latest, read] using bound

theorem latest_le (names : List Id) (bound : Delay) (zero : 0 ≤ bound) (below : ∀ name ∈ names, offsets name ≤ bound) :
    latest offsets names ≤ bound := by
  cases read : (names.map offsets).max? with
  | none => simpa [latest, read] using zero
  | some top =>
      obtain ⟨name, member, rfl⟩ := List.mem_map.mp (List.max?_eq_some_iff.mp read).1
      simpa [latest, read] using below name member

theorem latest_nonneg (names : List Id) (nonneg : ∀ name, 0 ≤ offsets name) : 0 ≤ latest offsets names := by
  cases names with
  | nil => simp [latest]
  | cons name rest => exact (nonneg name).trans (latest_ge offsets _ name List.mem_cons_self)

theorem latest_congr (some others : Id → Delay) (names : List Id) (same : ∀ name ∈ names, some name = others name) :
    latest some names = latest others names := by
  rw [latest, latest, List.map_congr_left same]

variable [DecidableEq Id]

def settle (offsets : Id → Delay) (row : Row Id Delay Data) : Id → Delay :=
  Function.update offsets row.node (latest offsets row.dependencies + row.after)

def plan (offsets : Id → Delay) (rows : List (Row Id Delay Data)) : Id → Delay := rows.foldl settle offsets

theorem plan_append :
    plan offsets (early ++ late) = plan (plan offsets early) late := List.foldl_append

theorem plan_outside (rows : List (Row Id Delay Data)) (name : Id) (outside : name ∉ rows.map Row.node) :
    plan offsets rows name = offsets name := by
  induction rows generalizing offsets with
  | nil => rfl
  | cons row rest ih =>
      simp only [List.map_cons, List.mem_cons, not_or] at outside
      change plan (settle offsets row) rest name = _
      rw [ih _ outside.2, settle, Function.update_of_ne outside.1]

theorem plan_row (rows : List (Row Id Delay Data)) (unique : (rows.map Row.node).Nodup) (ordered : Ordered rows)
    (row : Row Id Delay Data) (member : row ∈ rows) :
    plan offsets rows row.node = latest (plan offsets rows) row.dependencies + row.after := by
  induction rows generalizing offsets with
  | nil => cases member
  | cons head rest ih =>
      obtain ⟨fresh, unique⟩ := List.nodup_cons.mp unique
      obtain ⟨loops, pairs⟩ := ordered
      obtain ⟨later, pairs⟩ := List.pairwise_cons.mp pairs
      rcases List.mem_cons.mp member with rfl | member
      · change plan (settle offsets row) rest row.node = latest (plan (settle offsets row) rest) row.dependencies + row.after
        rw [plan_outside _ rest row.node fresh]
        -- None of its dependencies is settled at this row or after it.
        have same : latest (plan (settle offsets row) rest) row.dependencies = latest offsets row.dependencies := by
          refine latest_congr _ _ _ fun name needed => ?_
          rw [plan_outside _ rest name, settle, Function.update_of_ne]
          · rintro rfl
            exact loops row List.mem_cons_self needed
          · intro held
            obtain ⟨late, inRest, rfl⟩ := List.mem_map.mp held
            exact later late inRest needed
        rw [same, settle, Function.update_self]
      · exact ih _ unique ⟨fun r held => loops r (List.mem_cons_of_mem head held), pairs⟩ member

end Offsets

section Expanded
variable [DecidableEq Id] [AddZeroClass Delay]

theorem rows_ordered (term : Term Id Delay Data) (frontier : List Id) (inherited : Delay)
    (unique : term.nodes.Nodup) (ordered : Ordered term.leaves) (outside : ∀ u ∈ frontier, u ∉ term.nodes) :
    Ordered (term.rows frontier inherited) := by
  -- Between two parts of one term the explicit references decide.
  have across : ∀ (left right : Term Id Delay Data) (entry : List Id) (delay : Delay),
      (∀ u ∈ entry, u ∉ right.nodes) → List.Disjoint left.nodes right.nodes →
      (∀ a ∈ left.leaves, ∀ b ∈ right.leaves, b.node ∉ a.dependencies) →
      ∀ a ∈ left.rows entry delay, ∀ v ∈ right.nodes, v ∉ a.dependencies := by
    intro left right entry delay apart separate cross a member v held needed
    rcases dependency_source left entry delay a member v needed with entered | before | ⟨leaf, inLeft, _, refers⟩
    · exact apart v entered held
    · exact separate (before_nodes left v a.node before).1 held
    · obtain ⟨b, inRight, rfl⟩ := List.mem_map.mp held
      exact cross leaf inLeft b inRight refers
  induction term generalizing frontier inherited with
  | empty => exact ⟨fun _ absent => (by cases absent), List.Pairwise.nil⟩
  | leaf row =>
      refine ⟨fun entered member needed => ?_, List.pairwise_singleton _ _⟩
      cases List.mem_singleton.mp member
      rcases (enter_dependencies row frontier inherited row.node).mp needed with known | refers
      · exact outside _ known (List.mem_singleton_self _)
      · exact ordered.1 row (List.mem_singleton_self _) refers
  | serial first rest firstIh restIh =>
      rw [nodes_serial, List.nodup_append'] at unique
      obtain ⟨firstUnique, restUnique, separate⟩ := unique
      obtain ⟨firstOrdered, restOrdered, cross⟩ := (ordered_append _ _).mp ordered
      simp only [nodes_serial, List.mem_append, not_or] at outside
      refine (ordered_append _ _).mpr ⟨firstIh _ _ firstUnique firstOrdered fun u entered => (outside u entered).1,
        restIh _ _ restUnique restOrdered fun u exit => ?_, fun a early b late => ?_⟩
      · exact (exits_known first frontier u exit).elim (fun entered => (outside u entered).2) fun held => separate held
      · exact across first rest frontier inherited (fun u entered => (outside u entered).2) separate cross a early _
          (row_node rest _ _ b late)
  | parallel left right leftIh rightIh =>
      rw [nodes_parallel, List.nodup_append'] at unique
      obtain ⟨leftUnique, rightUnique, separate⟩ := unique
      obtain ⟨leftOrdered, rightOrdered, cross⟩ := (ordered_append _ _).mp ordered
      simp only [nodes_parallel, List.mem_append, not_or] at outside
      exact (ordered_append _ _).mpr ⟨leftIh _ _ leftUnique leftOrdered fun u entered => (outside u entered).1,
        rightIh _ _ rightUnique rightOrdered fun u entered => (outside u entered).2, fun a early b late =>
          across left right frontier inherited (fun u entered => (outside u entered).2) separate cross a early _
            (row_node right _ _ b late)⟩
  | delayed delay body ih => exact ih _ _ unique ordered outside

theorem leaves_ordered (term : Term Id Delay Data) (frontier : List Id) (inherited : Delay)
    (ordered : Ordered (term.rows frontier inherited)) : Ordered term.leaves := by
  induction term generalizing frontier inherited with
  | empty => exact ordered
  | leaf row =>
      refine ⟨fun leaf member refers => ?_, List.pairwise_singleton _ _⟩
      cases List.mem_singleton.mp member
      exact ordered.1 _ (List.mem_singleton_self _) ((enter_dependencies row frontier inherited _).mpr (.inr refers))
  | serial first rest firstIh restIh =>
      obtain ⟨firstOrdered, restOrdered, cross⟩ := (ordered_append _ _).mp ordered
      refine (ordered_append _ _).mpr ⟨firstIh _ _ firstOrdered, restIh _ _ restOrdered, fun a early b late refers => ?_⟩
      obtain ⟨row, member, same, needed⟩ := explicit_depends first frontier inherited b.node a.node ⟨a, early, rfl, refers⟩
      obtain ⟨entered, there, named⟩ := node_row rest (first.exits frontier) 0 b.node (List.mem_map_of_mem late)
      exact cross row member entered there (named ▸ needed)
  | parallel left right leftIh rightIh =>
      obtain ⟨leftOrdered, rightOrdered, cross⟩ := (ordered_append _ _).mp ordered
      refine (ordered_append _ _).mpr ⟨leftIh _ _ leftOrdered, rightIh _ _ rightOrdered, fun a early b late refers => ?_⟩
      obtain ⟨row, member, same, needed⟩ := explicit_depends left frontier inherited b.node a.node ⟨a, early, rfl, refers⟩
      obtain ⟨entered, there, named⟩ := node_row right frontier inherited b.node (List.mem_map_of_mem late)
      exact cross row member entered there (named ▸ needed)
  | delayed delay body ih => exact ih _ _ ordered

end Expanded

end

section

variable {Id Delay Data : Type}

namespace Term

def leading : Term Id Delay Data → List Id
  | .empty => []
  | .leaf row => [row.node]
  | .serial first _ => first.leading
  | .parallel left right => left.leading ++ right.leading
  | .delayed _ body => body.leading

def Nonnegative [Zero Delay] [LE Delay] : Term Id Delay Data → Prop
  | .empty => True
  | .leaf row => 0 ≤ row.after
  | .serial first rest => first.Nonnegative ∧ rest.Nonnegative
  | .parallel left right => left.Nonnegative ∧ right.Nonnegative
  | .delayed delay body => 0 ≤ delay ∧ body.Nonnegative

def Carries (term : Term Id Delay Data) : Prop :=
  ∀ v ∈ term.nodes, v ∈ term.leading ∨ ∃ u ∈ term.nodes, term.Before u v ∨ term.Explicit u v

end Term

variable (term : Term Id Delay Data)

theorem leading_nodes (v : Id) (leads : v ∈ term.leading) : v ∈ term.nodes := by
  induction term with
  | empty => cases leads
  | leaf row => exact leads
  | serial first rest firstIh _ =>
      rw [nodes_serial]
      exact List.mem_append_left _ (firstIh leads)
  | parallel left right leftIh rightIh =>
      rw [nodes_parallel]
      exact List.mem_append.mpr ((List.mem_append.mp leads).imp leftIh rightIh)
  | delayed delay body ih => exact ih leads

theorem unique_row (rows : List (Row Id Delay Data)) (unique : (rows.map Row.node).Nodup) (a b : Row Id Delay Data)
    (first : a ∈ rows) (second : b ∈ rows) (same : a.node = b.node) : a = b :=
  List.inj_on_of_nodup_map unique first second same

section Expanded
variable [DecidableEq Id] [AddZeroClass Delay]

theorem steady_row (frontier : List Id) (inherited other : Delay) (row : Row Id Delay Data)
    (member : row ∈ term.rows frontier inherited) (follows : row.node ∉ term.leading) : row ∈ term.rows frontier other := by
  induction term generalizing frontier inherited other with
  | empty => cases member
  | leaf leaf =>
      cases List.mem_singleton.mp member
      exact absurd (List.mem_singleton_self _) follows
  | serial first rest firstIh _ =>
      rcases List.mem_append.mp member with inFirst | inRest
      · exact List.mem_append_left _ (firstIh _ _ _ inFirst follows)
      · exact List.mem_append_right _ inRest
  | parallel left right leftIh rightIh =>
      simp only [Term.leading, List.mem_append, not_or] at follows
      rcases List.mem_append.mp member with inLeft | inRight
      · exact List.mem_append_left _ (leftIh _ _ _ inLeft follows.1)
      · exact List.mem_append_right _ (rightIh _ _ _ inRight follows.2)
  | delayed delay body ih => exact ih _ _ _ member follows

theorem entry_or_inner (frontier : List Id) (inherited : Delay) (row : Row Id Delay Data)
    (member : row ∈ term.rows frontier inherited) :
    (∀ u ∈ frontier, u ∈ row.dependencies) ∨ ∃ w ∈ term.nodes, w ∈ row.dependencies := by
  induction term generalizing frontier inherited with
  | empty => cases member
  | leaf leaf =>
      cases List.mem_singleton.mp member
      exact .inl fun u entered => (enter_dependencies leaf frontier inherited u).mpr (.inl entered)
  | serial first rest firstIh restIh =>
      simp only [nodes_serial, List.mem_append]
      rcases List.mem_append.mp member with inFirst | inRest
      · exact (firstIh _ _ inFirst).imp_right fun ⟨w, held, needed⟩ => ⟨w, .inl held, needed⟩
      · rcases restIh _ _ inRest with entered | ⟨w, held, needed⟩
        · by_cases silent : first.nodes = []
          · exact .inl fun u known => entered u ((exits_silent first frontier silent u).mpr known)
          · obtain ⟨w, exit, held⟩ := exits_inside first frontier silent
            exact .inr ⟨w, .inl held, entered w exit⟩
        · exact .inr ⟨w, .inr held, needed⟩
  | parallel left right leftIh rightIh =>
      simp only [nodes_parallel, List.mem_append]
      rcases List.mem_append.mp member with inLeft | inRight
      · exact (leftIh _ _ inLeft).imp_right fun ⟨w, held, needed⟩ => ⟨w, .inl held, needed⟩
      · exact (rightIh _ _ inRight).imp_right fun ⟨w, held, needed⟩ => ⟨w, .inr held, needed⟩
  | delayed delay body ih => exact ih _ _ member

theorem inner_dependency (frontier : List Id) (inherited : Delay) (unique : term.nodes.Nodup) (row : Row Id Delay Data)
    (member : row ∈ term.rows frontier inherited) (u : Id) (before : term.Before u row.node) :
    ∃ w ∈ term.nodes, w ∈ row.dependencies := by
  induction term generalizing frontier inherited with
  | empty => cases member
  | leaf leaf => cases before
  | serial first rest firstIh restIh =>
      rw [nodes_serial, List.nodup_append'] at unique
      obtain ⟨firstUnique, restUnique, separate⟩ := unique
      simp only [nodes_serial, List.mem_append]
      rcases List.mem_append.mp member with inFirst | inRest
      · have held := row_node first _ _ row inFirst
        rcases before with ⟨_, late⟩ | before | before
        · exact absurd late (separate held)
        · obtain ⟨w, there, needed⟩ := firstIh _ _ firstUnique inFirst before
          exact ⟨w, .inl there, needed⟩
        · exact absurd (before_nodes rest u row.node before).2 (separate held)
      · have held := row_node rest _ _ row inRest
        rcases before with ⟨early, _⟩ | before | before
        · rcases entry_or_inner rest _ _ row inRest with entered | ⟨w, there, needed⟩
          · obtain ⟨w, exit, there⟩ := exits_inside first frontier (List.ne_nil_of_mem early)
            exact ⟨w, .inl there, entered w exit⟩
          · exact ⟨w, .inr there, needed⟩
        · exact absurd held (separate (before_nodes first u row.node before).2)
        · obtain ⟨w, there, needed⟩ := restIh _ _ restUnique inRest before
          exact ⟨w, .inr there, needed⟩
  | parallel left right leftIh rightIh =>
      rw [nodes_parallel, List.nodup_append'] at unique
      obtain ⟨leftUnique, rightUnique, separate⟩ := unique
      simp only [nodes_parallel, List.mem_append]
      rcases List.mem_append.mp member with inLeft | inRight
      · have held := row_node left _ _ row inLeft
        rcases before with before | before
        · obtain ⟨w, there, needed⟩ := leftIh _ _ leftUnique inLeft before
          exact ⟨w, .inl there, needed⟩
        · exact absurd (before_nodes right u row.node before).2 (separate held)
      · have held := row_node right _ _ row inRight
        rcases before with before | before
        · exact absurd held (separate (before_nodes left u row.node before).2)
        · obtain ⟨w, there, needed⟩ := rightIh _ _ rightUnique inRight before
          exact ⟨w, .inr there, needed⟩
  | delayed delay body ih => exact ih _ _ unique member before

theorem declared_dependency (frontier : List Id) (inherited : Delay) (unique : term.nodes.Nodup) (row : Row Id Delay Data)
    (member : row ∈ term.rows frontier inherited) (u : Id) (inside : u ∈ term.nodes)
    (declared : term.Before u row.node ∨ term.Explicit u row.node) : ∃ w ∈ term.nodes, w ∈ row.dependencies := by
  rcases declared with before | explicit
  · exact inner_dependency term frontier inherited unique row member u before
  · obtain ⟨other, there, same, needed⟩ := explicit_depends term frontier inherited u row.node explicit
    cases unique_row _ ((rows_nodes term frontier inherited).symm ▸ unique) other row there member same
    exact ⟨u, inside, needed⟩

end Expanded

section Law
variable [DecidableEq Id] [AddCommMonoid Delay] [LinearOrder Delay] [IsOrderedAddMonoid Delay]

theorem leading_row (frontier : List Id) (inherited : Delay) (unique : term.nodes.Nodup) (nonneg : term.Nonnegative)
    (row : Row Id Delay Data) (member : row ∈ term.rows frontier inherited) (leads : row.node ∈ term.leading) :
    (∀ u ∈ frontier, u ∈ row.dependencies) ∧ inherited ≤ row.after := by
  induction term generalizing frontier inherited with
  | empty => cases member
  | leaf leaf =>
      cases List.mem_singleton.mp member
      exact ⟨fun u entered => (enter_dependencies leaf frontier inherited u).mpr (.inl entered),
        le_add_of_nonneg_right nonneg⟩
  | serial first rest firstIh _ =>
      rw [nodes_serial, List.nodup_append'] at unique
      rcases List.mem_append.mp member with inFirst | inRest
      · exact firstIh _ _ unique.1 nonneg.1 inFirst leads
      · exact absurd (row_node rest _ _ row inRest) (unique.2.2 (leading_nodes first row.node leads))
  | parallel left right leftIh rightIh =>
      rw [nodes_parallel, List.nodup_append'] at unique
      rcases List.mem_append.mp member with inLeft | inRight
      · rcases List.mem_append.mp leads with leads | leads
        · exact leftIh _ _ unique.1 nonneg.1 inLeft leads
        · exact absurd (leading_nodes right row.node leads) (unique.2.2 (row_node left _ _ row inLeft))
      · rcases List.mem_append.mp leads with leads | leads
        · exact absurd (row_node right _ _ row inRight) (unique.2.2 (leading_nodes left row.node leads))
        · exact rightIh _ _ unique.2.1 nonneg.2 inRight leads
  | delayed delay body ih =>
      obtain ⟨entered, bound⟩ := ih frontier (inherited + delay) unique nonneg.2 member leads
      exact ⟨entered, (le_add_of_nonneg_right nonneg.1).trans bound⟩

theorem rows_nonneg (frontier : List Id) (inherited : Delay) (nonneg : term.Nonnegative) (entry : 0 ≤ inherited)
    (row : Row Id Delay Data) (member : row ∈ term.rows frontier inherited) : 0 ≤ row.after := by
  induction term generalizing frontier inherited with
  | empty => cases member
  | leaf leaf =>
      cases List.mem_singleton.mp member
      exact add_nonneg entry nonneg
  | serial first rest firstIh restIh =>
      exact (List.mem_append.mp member).elim (firstIh _ _ nonneg.1 entry) (restIh _ _ nonneg.2 le_rfl)
  | parallel left right leftIh rightIh =>
      exact (List.mem_append.mp member).elim (leftIh _ _ nonneg.1 entry) (rightIh _ _ nonneg.2 entry)
  | delayed delay body ih => exact ih _ _ nonneg.2 (add_nonneg entry nonneg.1) member

theorem plan_nonneg (offsets : Id → Delay) (rows : List (Row Id Delay Data)) (start : ∀ name, 0 ≤ offsets name)
    (afters : ∀ row ∈ rows, 0 ≤ row.after) (name : Id) : 0 ≤ plan offsets rows name := by
  induction rows generalizing offsets with
  | nil => exact start name
  | cons row rest ih =>
      refine ih _ (fun other => ?_) fun r member => afters r (List.mem_cons_of_mem row member)
      by_cases same : other = row.node
      · rw [settle, same, Function.update_self]
        exact add_nonneg (latest_nonneg offsets _ start) (afters row List.mem_cons_self)
      · rw [settle, Function.update_of_ne same]
        exact start other

-- The delay law of one term. The induction runs over the rows in their order:
-- a row is either handed the delay or waits for an earlier row of the term.
theorem delay_carried (offsets : Id → Delay) (frontier : List Id) (inherited : Delay) (unique : term.nodes.Nodup)
    (ordered : Ordered term.leaves) (nonneg : term.Nonnegative) (outside : ∀ u ∈ frontier, u ∉ term.nodes)
    (start : ∀ name, 0 ≤ offsets name) (entry : 0 ≤ inherited) (carries : term.Carries) (v : Id) (held : v ∈ term.nodes) :
    latest offsets frontier + inherited ≤ plan offsets (term.rows frontier inherited) v := by
  have named := rows_nodes term frontier inherited
  have rowsUnique : ((term.rows frontier inherited).map Row.node).Nodup := named.symm ▸ unique
  have rowsOrdered := rows_ordered term frontier inherited unique ordered outside
  have afters := rows_nonneg term frontier inherited nonneg entry
  have positive := plan_nonneg offsets (term.rows frontier inherited) start afters
  have recurrence := plan_row offsets (term.rows frontier inherited) rowsUnique rowsOrdered
  -- Every prefix of the rows satisfies the bound.
  have prefixes : ∀ early late, term.rows frontier inherited = early ++ late →
      ∀ row ∈ early, latest offsets frontier + inherited ≤ plan offsets (term.rows frontier inherited) row.node := by
    intro early
    induction early using List.reverseRecOn with
    | nil => exact fun _ _ _ absent => by cases absent
    | append_singleton early last ih =>
        intro late split row member
        rw [List.append_assoc] at split
        have earlier := ih ([last] ++ late) split
        rcases List.mem_append.mp member with known | here
        · exact earlier row known
        · rw [List.mem_singleton.mp here]
          have inRows : last ∈ term.rows frontier inherited := by simp [split]
          rw [recurrence last inRows]
          rcases carries last.node (row_node term _ _ last inRows) with leads | ⟨u, inside, declared⟩
          · obtain ⟨entered, bound⟩ := leading_row term frontier inherited unique nonneg last inRows leads
            refine add_le_add (latest_le _ _ _ (latest_nonneg _ _ positive) fun u known => ?_) bound
            rw [← plan_outside offsets (term.rows frontier inherited) u (named.symm ▸ outside u known)]
            exact latest_ge _ _ u (entered u known)
          · obtain ⟨w, held, needed⟩ := declared_dependency term frontier inherited unique last inRows u inside declared
            obtain ⟨dependency, there, rfl⟩ := node_row term frontier inherited w held
            have stands := dependency_earlier early late last dependency (split ▸ rowsOrdered) (split ▸ there) needed
            exact (earlier dependency stands).trans ((latest_ge _ _ _ needed).trans
              (le_add_of_nonneg_right (afters last inRows)))
  obtain ⟨row, member, rfl⟩ := node_row term frontier inherited v held
  exact prefixes (term.rows frontier inherited) [] (by simp) row member

end Law

section Lost
variable [DecidableEq Id] [AddCommMonoid Delay] [LinearOrder Delay]

theorem delay_lost (unique : term.nodes.Nodup) (ordered : Ordered term.leaves) (v : Id) (held : v ∈ term.nodes)
    (follows : v ∉ term.leading) (first : ∀ u ∈ term.nodes, ¬ (term.Before u v ∨ term.Explicit u v)) :
    ∃ own, ∀ inherited, plan (fun _ => (0 : Delay)) (term.rows [] inherited) v = own := by
  obtain ⟨row, member, rfl⟩ := node_row term [] (0 : Delay) v held
  refine ⟨row.after, fun inherited => ?_⟩
  have inRows := steady_row term [] 0 inherited row member follows
  have named := rows_nodes term [] inherited
  rw [plan_row _ _ (named.symm ▸ unique) (rows_ordered term [] inherited unique ordered fun _ absent => by cases absent)
    row inRows]
  have idle : ∀ u ∈ row.dependencies, plan (fun _ => (0 : Delay)) (term.rows [] inherited) u = 0 := by
    intro u needed
    refine plan_outside _ _ u (named.symm ▸ fun inside => ?_)
    rcases dependency_source term [] inherited row inRows u needed with absent | declared
    · cases absent
    · exact first u inside declared
  have nothing : latest (plan (fun _ => (0 : Delay)) (term.rows [] inherited)) row.dependencies = 0 := by
    rw [latest_congr _ (fun _ => 0) _ idle]
    cases row.dependencies with
    | nil => rfl
    | cons u rest =>
        exact le_antisymm (latest_le _ _ _ le_rfl fun _ _ => le_rfl) (latest_ge (fun _ => (0 : Delay)) _ u List.mem_cons_self)
  rw [nothing, zero_add]

end Lost

end

end LlmperfOrchestrator.SeriesParallel

import Mathlib.Data.List.Nodup
import Mathlib.Logic.Relation
import Mathlib.Algebra.Group.Defs

set_option autoImplicit false

namespace LlmperfOrchestrator.SeriesParallel

open Relation

structure Row (Id Delay Data : Type) where
  node : Id
  dependencies : List Id
  after : Delay
  data : Data
deriving DecidableEq, Repr

inductive Term (Id Delay Data : Type) where
  | empty
  | leaf (row : Row Id Delay Data)
  | serial (first rest : Term Id Delay Data)
  | parallel (left right : Term Id Delay Data)
  | delayed (delay : Delay) (body : Term Id Delay Data)
deriving Repr

variable {Id Delay Data : Type}

def serialList (terms : List (Term Id Delay Data)) : Term Id Delay Data := terms.foldr .serial .empty

def parallelList (branch : Term Id Delay Data) : List (Term Id Delay Data) → Term Id Delay Data
  | [] => branch
  | next :: others => .parallel branch (parallelList next others)

namespace Term

def leaves : Term Id Delay Data → List (Row Id Delay Data)
  | .empty => []
  | .leaf row => [row]
  | .serial first rest => first.leaves ++ rest.leaves
  | .parallel left right => left.leaves ++ right.leaves
  | .delayed _ body => body.leaves

def nodes (term : Term Id Delay Data) : List Id := term.leaves.map Row.node

def Before : Term Id Delay Data → Id → Id → Prop
  | .empty, _, _ => False
  | .leaf _, _, _ => False
  | .serial first rest, u, v => (u ∈ first.nodes ∧ v ∈ rest.nodes) ∨ first.Before u v ∨ rest.Before u v
  | .parallel left right, u, v => left.Before u v ∨ right.Before u v
  | .delayed _ body, u, v => body.Before u v

def Explicit (term : Term Id Delay Data) (u v : Id) : Prop :=
  ∃ row ∈ term.leaves, row.node = v ∧ u ∈ row.dependencies

inductive Within (part : Term Id Delay Data) : Term Id Delay Data → Prop where
  | refl : Within part part
  | first (first rest : Term Id Delay Data) (inner : Within part first) : Within part (.serial first rest)
  | rest (first rest : Term Id Delay Data) (inner : Within part rest) : Within part (.serial first rest)
  | left (left right : Term Id Delay Data) (inner : Within part left) : Within part (.parallel left right)
  | right (left right : Term Id Delay Data) (inner : Within part right) : Within part (.parallel left right)
  | delayed (delay : Delay) (body : Term Id Delay Data) (inner : Within part body) : Within part (.delayed delay body)

def exits : Term Id Delay Data → List Id → List Id
  | .empty, frontier => frontier
  | .leaf row, _ => [row.node]
  | .serial first rest, frontier => rest.exits (first.exits frontier)
  | .parallel left right, frontier => left.exits frontier ++ right.exits frontier
  | .delayed _ body, frontier => body.exits frontier

end Term

section Expansion
variable [DecidableEq Id] [AddZeroClass Delay]

def Row.enter (frontier : List Id) (inherited : Delay) (row : Row Id Delay Data) : Row Id Delay Data :=
  { row with dependencies := (frontier ++ row.dependencies).eraseDups, after := inherited + row.after }

def Term.rows : Term Id Delay Data → List Id → Delay → List (Row Id Delay Data)
  | .empty, _, _ => []
  | .leaf row, frontier, inherited => [row.enter frontier inherited]
  | .serial first rest, frontier, inherited =>
      first.rows frontier inherited ++ rest.rows (first.exits frontier) 0
  | .parallel left right, frontier, inherited => left.rows frontier inherited ++ right.rows frontier inherited
  | .delayed delay body, frontier, inherited => body.rows frontier (inherited + delay)

end Expansion

attribute [grind =] Term.leaves Term.Before Term.exits Term.rows

def Depends (rows : List (Row Id Delay Data)) (u v : Id) : Prop :=
  ∃ row ∈ rows, row.node = v ∧ u ∈ row.dependencies

theorem paired_left {Left Right : Type} {related : Left → Right → Prop} {lefts : List Left} {rights : List Right}
    (pairs : List.Forall₂ related lefts rights) (left : Left) (member : left ∈ lefts) :
    ∃ right ∈ rights, related left right := by
  induction pairs with
  | nil => cases member
  | cons here _ ih =>
      rcases List.mem_cons.mp member with rfl | member
      · exact ⟨_, List.mem_cons_self, here⟩
      · obtain ⟨right, there, holds⟩ := ih member
        exact ⟨right, List.mem_cons_of_mem _ there, holds⟩

theorem paired_right {Left Right : Type} {related : Left → Right → Prop} {lefts : List Left} {rights : List Right}
    (pairs : List.Forall₂ related lefts rights) (right : Right) (member : right ∈ rights) :
    ∃ left ∈ lefts, related left right :=
  paired_left pairs.flip right member

@[simp] theorem enter_node [DecidableEq Id] [AddZeroClass Delay] (row : Row Id Delay Data) (frontier : List Id)
    (inherited : Delay) : (row.enter frontier inherited).node = row.node := rfl

@[simp] theorem enter_data [DecidableEq Id] [AddZeroClass Delay] (row : Row Id Delay Data) (frontier : List Id)
    (inherited : Delay) : (row.enter frontier inherited).data = row.data := rfl

theorem enter_dependencies [DecidableEq Id] [AddZeroClass Delay] (row : Row Id Delay Data) (frontier : List Id)
    (inherited : Delay) (u : Id) :
    u ∈ (row.enter frontier inherited).dependencies ↔ u ∈ frontier ∨ u ∈ row.dependencies := by
  simp [Row.enter]

@[simp] theorem nodes_empty : (Term.empty : Term Id Delay Data).nodes = [] := rfl

@[simp] theorem nodes_leaf (row : Row Id Delay Data) : (Term.leaf row).nodes = [row.node] := rfl

@[simp] theorem nodes_serial (first rest : Term Id Delay Data) :
    (Term.serial first rest).nodes = first.nodes ++ rest.nodes := by
  simp [Term.nodes, Term.leaves]

@[simp] theorem nodes_parallel (left right : Term Id Delay Data) :
    (Term.parallel left right).nodes = left.nodes ++ right.nodes := by
  simp [Term.nodes, Term.leaves]

@[simp] theorem nodes_delayed (delay : Delay) (body : Term Id Delay Data) :
    (Term.delayed delay body).nodes = body.nodes := rfl

theorem within_trans (a b c : Term Id Delay Data) (inner : Term.Within a b) (outer : Term.Within b c) : Term.Within a c := by
  induction outer with
  | refl => exact inner
  | first first rest _ ih => exact .first first rest ih
  | rest first rest _ ih => exact .rest first rest ih
  | left left right _ ih => exact .left left right ih
  | right left right _ ih => exact .right left right ih
  | delayed delay body _ ih => exact .delayed delay body ih

theorem within_leaves (part term : Term Id Delay Data) (within : Term.Within part term) :
    part.leaves.Sublist term.leaves := by
  induction within with
  | refl => exact .refl _
  | first first rest _ ih => exact ih.trans (List.sublist_append_left _ _)
  | rest first rest _ ih => exact ih.trans (List.sublist_append_right _ _)
  | left left right _ ih => exact ih.trans (List.sublist_append_left _ _)
  | right left right _ ih => exact ih.trans (List.sublist_append_right _ _)
  | delayed delay body _ ih => exact ih

theorem within_nodes (part term : Term Id Delay Data) (within : Term.Within part term) (u : Id) (known : u ∈ part.nodes) :
    u ∈ term.nodes :=
  ((within_leaves part term within).map Row.node).subset known

theorem within_before (part term : Term Id Delay Data) (within : Term.Within part term) (u v : Id) (before : part.Before u v) :
    term.Before u v := by
  induction within with
  | refl => exact before
  | first first rest _ ih => exact .inr (.inl ih)
  | rest first rest _ ih => exact .inr (.inr ih)
  | left left right _ ih => exact .inl ih
  | right left right _ ih => exact .inr ih
  | delayed delay body _ ih => exact ih

variable (terms : List (Term Id Delay Data))

theorem serial_list_within (term : Term Id Delay Data) (member : term ∈ terms) : Term.Within term (serialList terms) := by
  induction terms with
  | nil => cases member
  | cons head rest ih =>
      rcases List.mem_cons.mp member with rfl | later
      · exact .first _ _ .refl
      · exact .rest _ _ (ih later)

theorem parallel_list_within (branch : Term Id Delay Data) (others : List (Term Id Delay Data))
    (term : Term Id Delay Data) (member : term ∈ branch :: others) : Term.Within term (parallelList branch others) := by
  induction others generalizing branch with
  | nil =>
      cases List.mem_singleton.mp member
      exact .refl
  | cons next others ih =>
      rcases List.mem_cons.mp member with rfl | later
      · exact .left _ _ .refl
      · exact .right _ _ (ih next later)

theorem serial_list_nodes (v : Id) : v ∈ (serialList terms).nodes ↔ ∃ term ∈ terms, v ∈ term.nodes := by
  induction terms with
  | nil => simp [serialList]
  | cons head rest ih =>
      change v ∈ (Term.serial head (serialList rest)).nodes ↔ _
      simp [ih]

variable (term : Term Id Delay Data)

theorem before_nodes (u v : Id) (before : term.Before u v) : u ∈ term.nodes ∧ v ∈ term.nodes := by
  induction term with
  | empty => cases before
  | leaf row => cases before
  | serial first rest firstIh restIh =>
      simp only [nodes_serial, List.mem_append]
      rcases before with ⟨inFirst, inRest⟩ | inFirst | inRest
      · exact ⟨.inl inFirst, .inr inRest⟩
      · exact ⟨.inl (firstIh inFirst).1, .inl (firstIh inFirst).2⟩
      · exact ⟨.inr (restIh inRest).1, .inr (restIh inRest).2⟩
  | parallel left right leftIh rightIh =>
      simp only [nodes_parallel, List.mem_append]
      rcases before with inLeft | inRight
      · exact ⟨.inl (leftIh inLeft).1, .inl (leftIh inLeft).2⟩
      · exact ⟨.inr (rightIh inRight).1, .inr (rightIh inRight).2⟩
  | delayed delay body ih => exact ih before

variable (frontier : List Id)

theorem exits_known (u : Id) (exit : u ∈ term.exits frontier) : u ∈ frontier ∨ u ∈ term.nodes := by
  induction term generalizing frontier with
  | empty => exact .inl exit
  | leaf row => exact .inr exit
  | serial first rest firstIh restIh =>
      simp only [nodes_serial, List.mem_append]
      rcases restIh _ exit with entered | inRest
      · exact (firstIh _ entered).imp_right .inl
      · exact .inr (.inr inRest)
  | parallel left right leftIh rightIh =>
      simp only [nodes_parallel, List.mem_append]
      rcases List.mem_append.mp exit with inLeft | inRight
      · exact (leftIh _ inLeft).imp_right .inl
      · exact (rightIh _ inRight).imp_right .inr
  | delayed delay body ih => exact ih _ exit

theorem exits_silent (silent : term.nodes = []) (u : Id) : u ∈ term.exits frontier ↔ u ∈ frontier := by
  induction term generalizing frontier with
  | empty => rfl
  | leaf row => simp at silent
  | serial first rest firstIh restIh =>
      simp only [nodes_serial, List.append_eq_nil_iff] at silent
      rw [Term.exits, restIh _ silent.2, firstIh _ silent.1]
  | parallel left right leftIh rightIh =>
      simp only [nodes_parallel, List.append_eq_nil_iff] at silent
      rw [Term.exits, List.mem_append, leftIh _ silent.1, rightIh _ silent.2, or_self]
  | delayed delay body ih => exact ih _ silent

theorem exits_inside (busy : term.nodes ≠ []) : ∃ u ∈ term.exits frontier, u ∈ term.nodes := by
  induction term generalizing frontier with
  | empty => exact absurd rfl busy
  | leaf row => exact ⟨row.node, by simp [Term.exits]⟩
  | serial first rest firstIh restIh =>
      simp only [nodes_serial, List.mem_append]
      by_cases silent : rest.nodes = []
      · obtain ⟨u, exit, inside⟩ := firstIh frontier (by simpa [silent] using busy)
        exact ⟨u, (exits_silent rest _ silent u).mpr exit, .inl inside⟩
      · obtain ⟨u, exit, inside⟩ := restIh (first.exits frontier) silent
        exact ⟨u, exit, .inr inside⟩
  | parallel left right leftIh rightIh =>
      simp only [nodes_parallel, List.mem_append, Term.exits]
      by_cases silent : left.nodes = []
      · obtain ⟨u, exit, inside⟩ := rightIh frontier (by simpa [silent] using busy)
        exact ⟨u, .inr exit, .inr inside⟩
      · obtain ⟨u, exit, inside⟩ := leftIh frontier silent
        exact ⟨u, .inl exit, .inl inside⟩
  | delayed delay body ih => exact ih _ busy

section Expanded
variable [DecidableEq Id] [AddZeroClass Delay] (inherited : Delay)

theorem rows_enter :
    List.Forall₂ (fun leaf row => ∃ entry delay, row = leaf.enter entry delay) term.leaves
      (term.rows frontier inherited) := by
  induction term generalizing frontier inherited with
  | empty => exact .nil
  | leaf row => exact .cons ⟨frontier, inherited, rfl⟩ .nil
  | serial first rest firstIh restIh => exact List.rel_append (firstIh _ _) (restIh _ _)
  | parallel left right leftIh rightIh => exact List.rel_append (leftIh _ _) (rightIh _ _)
  | delayed delay body ih => exact ih _ _

theorem row_leaf (row : Row Id Delay Data) (member : row ∈ term.rows frontier inherited) :
    ∃ leaf ∈ term.leaves, ∃ entry delay, row = leaf.enter entry delay :=
  paired_right (rows_enter term frontier inherited) row member

theorem leaf_row (leaf : Row Id Delay Data) (member : leaf ∈ term.leaves) :
    ∃ row ∈ term.rows frontier inherited, ∃ entry delay, row = leaf.enter entry delay :=
  paired_left (rows_enter term frontier inherited) leaf member

theorem rows_nodes : (term.rows frontier inherited).map Row.node = term.nodes := by
  have same := (rows_enter term frontier inherited).imp fun leaf row ⟨_, _, entered⟩ =>
    show row.node = leaf.node from entered ▸ rfl
  rw [Term.nodes]
  exact (List.forall₂_eq_eq_eq ▸ List.forall₂_map_left_iff.mpr (List.forall₂_map_right_iff.mpr same.flip) : _ = _)

theorem row_node (row : Row Id Delay Data) (member : row ∈ term.rows frontier inherited) : row.node ∈ term.nodes := by
  rw [← rows_nodes term frontier inherited]
  exact List.mem_map_of_mem member

theorem node_row (v : Id) (member : v ∈ term.nodes) : ∃ row ∈ term.rows frontier inherited, row.node = v := by
  rw [← rows_nodes term frontier inherited] at member
  exact List.mem_map.mp member

theorem dependency_source (row : Row Id Delay Data) (member : row ∈ term.rows frontier inherited) (u : Id)
    (needed : u ∈ row.dependencies) : u ∈ frontier ∨ term.Before u row.node ∨ term.Explicit u row.node := by
  induction term generalizing frontier inherited with
  | empty => cases member
  | leaf leaf =>
      rw [List.mem_singleton.mp member, enter_dependencies] at needed
      exact needed.imp_right fun referred =>
        .inr ⟨leaf, List.mem_singleton_self _, by rw [List.mem_singleton.mp member]; rfl, referred⟩
  | serial first rest firstIh restIh =>
      rcases List.mem_append.mp member with inFirst | inRest
      · rcases firstIh _ _ inFirst with entered | before | ⟨leaf, at_, refers⟩
        · exact .inl entered
        · exact .inr (.inl (.inr (.inl before)))
        · exact .inr (.inr ⟨leaf, List.mem_append_left _ at_, refers⟩)
      · rcases restIh _ _ inRest with exit | before | ⟨leaf, at_, refers⟩
        · exact (exits_known first _ u exit).imp_right fun inside =>
            .inl (.inl ⟨inside, row_node rest _ _ row inRest⟩)
        · exact .inr (.inl (.inr (.inr before)))
        · exact .inr (.inr ⟨leaf, List.mem_append_right _ at_, refers⟩)
  | parallel left right leftIh rightIh =>
      rcases List.mem_append.mp member with inLeft | inRight
      · rcases leftIh _ _ inLeft with entered | before | ⟨leaf, at_, refers⟩
        · exact .inl entered
        · exact .inr (.inl (.inl before))
        · exact .inr (.inr ⟨leaf, List.mem_append_left _ at_, refers⟩)
      · rcases rightIh _ _ inRight with entered | before | ⟨leaf, at_, refers⟩
        · exact .inl entered
        · exact .inr (.inl (.inr before))
        · exact .inr (.inr ⟨leaf, List.mem_append_right _ at_, refers⟩)
  | delayed delay body ih => exact ih _ _ member

theorem explicit_depends (u v : Id) (explicit : term.Explicit u v) : Depends (term.rows frontier inherited) u v := by
  obtain ⟨leaf, member, same, refers⟩ := explicit
  obtain ⟨row, there, entry, delay, entered⟩ := leaf_row term frontier inherited leaf member
  exact ⟨row, there, by rw [entered, enter_node, same],
    by rw [entered, enter_dependencies]; exact .inr refers⟩

end Expanded

section Closure
variable [DecidableEq Id] [AddZeroClass Delay]

def Precedes (rows : List (Row Id Delay Data)) (u v : Id) : Prop := TransGen (Depends rows) u v

-- The frontier invariant. Everything a term was entered with or holds stands
-- on its outgoing frontier or precedes a job there, and whatever it was
-- entered with precedes everything it holds.
structure Covers (all : List (Row Id Delay Data)) (entry inside exit : List Id) : Prop where
  exits : ∀ u, u ∈ entry ∨ u ∈ inside → ∃ w ∈ exit, u = w ∨ Precedes all u w
  enters : ∀ u ∈ entry, ∀ v ∈ inside, Precedes all u v

theorem term_covers (inherited : Delay) (all : List (Row Id Delay Data))
    (inside : ∀ row ∈ term.rows frontier inherited, row ∈ all) : Covers all frontier term.nodes (term.exits frontier) := by
  induction term generalizing frontier inherited with
  | empty => exact ⟨fun u known => ⟨u, by simpa [Term.exits] using known, .inl rfl⟩, fun _ _ _ absent => by cases absent⟩
  | leaf row =>
      have direct : ∀ u ∈ frontier, Precedes all u row.node := fun u entered =>
        .single ⟨_, inside _ (List.mem_singleton_self _), rfl, (enter_dependencies row frontier inherited u).mpr (.inl entered)⟩
      refine ⟨fun u known => ⟨row.node, List.mem_singleton_self _, ?_⟩, fun u entered v held => ?_⟩
      · rcases known with entered | held
        · exact .inr (direct u entered)
        · exact .inl (List.mem_singleton.mp held)
      · cases List.mem_singleton.mp held
        exact direct u entered
  | serial first rest firstIh restIh =>
      have firstCovers := firstIh frontier inherited fun row member => inside row (List.mem_append_left _ member)
      have restCovers := restIh (first.exits frontier) 0 fun row member => inside row (List.mem_append_right _ member)
      -- Entry and first part meet the rest only through the frontier between them.
      have crosses : ∀ u, u ∈ frontier ∨ u ∈ first.nodes → ∀ v ∈ rest.nodes, Precedes all u v := by
        intro u known v held
        obtain ⟨w, exit, reaches⟩ := firstCovers.exits u known
        have onward := restCovers.enters w exit v held
        rcases reaches with rfl | reaches
        · exact onward
        · exact reaches.trans onward
      refine ⟨fun u known => ?_, fun u entered v held => ?_⟩
      · simp only [nodes_serial, List.mem_append] at known
        by_cases late : u ∈ rest.nodes
        · exact restCovers.exits u (.inr late)
        · obtain ⟨w, exit, reaches⟩ := firstCovers.exits u (by tauto)
          obtain ⟨x, leaves, onward⟩ := restCovers.exits w (.inl exit)
          refine ⟨x, leaves, ?_⟩
          rcases reaches with rfl | reaches
          · exact onward
          · rcases onward with rfl | onward
            · exact .inr reaches
            · exact .inr (reaches.trans onward)
      · rcases List.mem_append.mp (nodes_serial first rest ▸ held) with early | late
        · exact firstCovers.enters u entered v early
        · exact crosses u (.inl entered) v late
  | parallel left right leftIh rightIh =>
      have leftCovers := leftIh frontier inherited fun row member => inside row (List.mem_append_left _ member)
      have rightCovers := rightIh frontier inherited fun row member => inside row (List.mem_append_right _ member)
      simp only [nodes_parallel]
      refine ⟨fun u known => ?_, fun u entered v held => ?_⟩
      · by_cases inRight : u ∈ right.nodes
        · obtain ⟨w, exit, reaches⟩ := rightCovers.exits u (.inr inRight)
          exact ⟨w, List.mem_append_right _ exit, reaches⟩
        · obtain ⟨w, exit, reaches⟩ := leftCovers.exits u (by simp only [List.mem_append] at known; tauto)
          exact ⟨w, List.mem_append_left _ exit, reaches⟩
      · exact (List.mem_append.mp held).elim (leftCovers.enters u entered v) (rightCovers.enters u entered v)
  | delayed delay body ih => exact ih _ _ inside

theorem before_precedes (inherited : Delay) (all : List (Row Id Delay Data))
    (inside : ∀ row ∈ term.rows frontier inherited, row ∈ all) (u v : Id) (before : term.Before u v) : Precedes all u v := by
  induction term generalizing frontier inherited with
  | empty => cases before
  | leaf row => cases before
  | serial first rest firstIh restIh =>
      have inFirst := fun row member => inside row (List.mem_append_left (rest.rows (first.exits frontier) 0) member)
      have inRest := fun row member => inside row (List.mem_append_right (first.rows frontier inherited) member)
      rcases before with ⟨early, late⟩ | before | before
      · obtain ⟨w, exit, reaches⟩ := (term_covers first frontier inherited all inFirst).exits u (.inr early)
        have onward := (term_covers rest _ 0 all inRest).enters w exit v late
        rcases reaches with rfl | reaches
        · exact onward
        · exact reaches.trans onward
      · exact firstIh _ _ inFirst before
      · exact restIh _ _ inRest before
  | parallel left right leftIh rightIh =>
      rcases before with before | before
      · exact leftIh _ _ (fun row member => inside row (List.mem_append_left _ member)) before
      · exact rightIh _ _ (fun row member => inside row (List.mem_append_right _ member)) before
  | delayed delay body ih => exact ih _ _ inside before

theorem expansion_order (inherited : Delay) (u v : Id) :
    Precedes (term.rows [] inherited) u v ↔ TransGen (fun a b => term.Before a b ∨ term.Explicit a b) u v := by
  constructor
  · intro precedes
    refine precedes.lift id fun a b ⟨row, member, same, needed⟩ => ?_
    rcases dependency_source term [] inherited row member a needed with entered | before | explicit
    · cases entered
    · exact .inl (same ▸ before)
    · exact .inr (same ▸ explicit)
  · intro declared
    induction declared with
    | single edge =>
        rcases edge with before | explicit
        · exact before_precedes term [] inherited _ (fun _ member => member) _ _ before
        · exact .single (explicit_depends term [] inherited _ _ explicit)
    | tail _ edge ih =>
        rcases edge with before | explicit
        · exact ih.trans (before_precedes term [] inherited _ (fun _ member => member) _ _ before)
        · exact ih.tail (explicit_depends term [] inherited _ _ explicit)

end Closure

theorem serial_list_before (u v : Id) :
    (serialList terms).Before u v ↔
      (∃ term ∈ terms, term.Before u v) ∨
      ∃ (i j : Nat) (first later : Term Id Delay Data), i < j ∧ terms[i]? = some first ∧ terms[j]? = some later ∧
        u ∈ first.nodes ∧ v ∈ later.nodes := by
  induction terms with
  | nil => simp [serialList, Term.Before]
  | cons head rest ih =>
      change (Term.serial head (serialList rest)).Before u v ↔ _
      simp only [Term.Before, ih, serial_list_nodes]
      constructor
      · rintro (⟨early, term, member, late⟩ | before | ⟨term, member, before⟩ | ⟨i, j, first, last, less, atI, atJ, held⟩)
        · obtain ⟨j, atJ⟩ := List.getElem?_of_mem member
          exact .inr ⟨0, j + 1, head, term, Nat.succ_pos j, rfl, by simpa using atJ, early, late⟩
        · exact .inl ⟨head, List.mem_cons_self, before⟩
        · exact .inl ⟨term, List.mem_cons_of_mem head member, before⟩
        · exact .inr ⟨i + 1, j + 1, first, last, Nat.succ_lt_succ less, by simpa using atI, by simpa using atJ, held⟩
      · rintro (⟨term, member, before⟩ | ⟨i, j, first, last, less, atI, atJ, early, late⟩)
        · rcases List.mem_cons.mp member with rfl | member
          · exact .inr (.inl before)
          · exact .inr (.inr (.inl ⟨term, member, before⟩))
        · cases j with
          | zero => cases less
          | succ j =>
              cases i with
              | zero =>
                  cases Option.some.inj atI
                  exact .inl ⟨early, last, List.mem_of_getElem? (by simpa using atJ), late⟩
              | succ i =>
                  exact .inr (.inr (.inr ⟨i, j, first, last, Nat.lt_of_succ_lt_succ less, by simpa using atI,
                    by simpa using atJ, early, late⟩))

end LlmperfOrchestrator.SeriesParallel

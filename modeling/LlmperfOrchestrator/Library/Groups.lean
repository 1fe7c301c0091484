import Mathlib.Data.List.Forall2
import Mathlib.Data.List.Infix

set_option autoImplicit false

namespace LlmperfOrchestrator.Groups

variable {Row Other Name : Type}

def Closed (name : Row → Name) (needs : Row → List Name) (rows : List Row) : Prop :=
  ∀ before row after, rows = before ++ row :: after → needs row ⊆ before.map name

theorem closed_nil (name : Row → Name) (needs : Row → List Name) : Closed name needs [] := by
  intro before row after split
  have absent := congrArg List.length split
  simp at absent

theorem append_split (first second before after : List Row) (row : Row) (split : first ++ second = before ++ row :: after) :
    (∃ rest, first = before ++ row :: rest) ∨ ∃ middle, before = first ++ middle ∧ second = middle ++ row :: after := by
  rcases List.append_eq_append_iff.mp split with ⟨middle, front, back⟩ | ⟨middle, front, back⟩
  · exact .inr ⟨middle, front, back⟩
  · cases middle with
    | nil => exact .inr ⟨[], by rw [List.append_nil, front, List.append_nil], by simpa using back.symm⟩
    | cons other rest =>
        rw [List.cons_append, List.cons.injEq] at back
        exact .inl ⟨rest, by rw [front, back.1]⟩

theorem closed_append (name : Row → Name) (needs : Row → List Name) (first second : List Row)
    (here : Closed name needs first) (later : Closed name needs second) : Closed name needs (first ++ second) := by
  intro before row after split
  rcases append_split first second before after row split with ⟨rest, inFirst⟩ | ⟨middle, front, inSecond⟩
  · exact here before row rest inFirst
  · intro needed member
    rw [front, List.map_append]
    exact List.mem_append_right _ (later middle row after inSecond member)

theorem closed_flatten (name : Row → Name) (needs : Row → List Name) (groups : List (List Row))
    (closed : ∀ group ∈ groups, Closed name needs group) : Closed name needs groups.flatten := by
  induction groups with
  | nil => exact closed_nil name needs
  | cons group rest ih =>
      rw [List.flatten_cons]
      exact closed_append name needs group rest.flatten (closed group List.mem_cons_self)
        (ih fun other member => closed other (List.mem_cons_of_mem _ member))

variable (related : Row → Other → Prop)

theorem related_split (first second : List Row) (rows : List Other) (joined : List.Forall₂ related (first ++ second) rows) :
    ∃ front back, rows = front ++ back ∧ List.Forall₂ related first front ∧ List.Forall₂ related second back := by
  induction first generalizing rows with
  | nil => exact ⟨[], rows, rfl, .nil, joined⟩
  | cons row rest ih =>
      cases joined with
      | cons here later =>
          obtain ⟨front, back, split, first, second⟩ := ih _ later
          exact ⟨_ :: front, back, by rw [split, List.cons_append], .cons here first, second⟩

theorem related_flatten (groups : List (List Row)) (rows : List Other) (joined : List.Forall₂ related groups.flatten rows) :
    ∃ others : List (List Other), rows = others.flatten ∧ List.Forall₂ (List.Forall₂ related) groups others := by
  induction groups generalizing rows with
  | nil =>
      cases joined
      exact ⟨[], rfl, .nil⟩
  | cons group rest ih =>
      obtain ⟨front, back, split, here, later⟩ := related_split related group rest.flatten rows joined
      obtain ⟨others, flat, groups⟩ := ih back later
      exact ⟨front :: others, by rw [split, flat, List.flatten_cons], .cons here groups⟩

theorem related_map {Value : Type} (related : Row → Other → Prop) (read : Row → Value) (readOther : Other → Value)
    (same : ∀ row other, related row other → readOther other = read row) (rows : List Row) (others : List Other)
    (joined : List.Forall₂ related rows others) : others.map readOther = rows.map read := by
  induction joined with
  | nil => rfl
  | cons here _ ih => rw [List.map_cons, List.map_cons, same _ _ here, ih]

theorem related_mem (rows : List Row) (others : List Other) (joined : List.Forall₂ related rows others) (other : Other)
    (member : other ∈ others) : ∃ row ∈ rows, related row other := by
  induction joined with
  | nil => cases member
  | cons here _ ih =>
      rcases List.mem_cons.mp member with rfl | later
      · exact ⟨_, List.mem_cons_self, here⟩
      · obtain ⟨row, listed, known⟩ := ih later
        exact ⟨row, List.mem_cons_of_mem _ listed, known⟩

theorem closed_related (name : Row → Name) (needs : Row → List Name) (nameOther : Other → Name) (needsOther : Other → List Name)
    (sameName : ∀ row other, related row other → nameOther other = name row)
    (sameNeeds : ∀ row other, related row other → needsOther other = needs row) (rows : List Row) (others : List Other)
    (joined : List.Forall₂ related rows others) (closed : Closed name needs rows) : Closed nameOther needsOther others := by
  intro before other after split
  rw [split] at joined
  obtain ⟨front, back, divided, first, second⟩ :=
    related_split (fun other row => related row other) before (other :: after) rows joined.flip
  cases second with
  | cons here later =>
      rw [sameNeeds _ _ here, related_map related name nameOther sameName front before first.flip]
      exact closed front _ _ divided

end LlmperfOrchestrator.Groups

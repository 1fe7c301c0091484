import Mathlib.Algebra.Order.Ring.Nat
import Mathlib.Data.List.Forall2

set_option autoImplicit false

namespace LlmperfOrchestrator.Outcomes

variable {Error State Value Item : Type}

theorem bind_ok (first : Except Error State) (next : State → Except Error Value) (result : Value) :
    first >>= next = .ok result ↔ ∃ state, first = .ok state ∧ next state = .ok result := by
  cases first with
  | error message => simp [bind, Except.bind]
  | ok state => simp [bind, Except.bind]

theorem checked_ok (refused : Prop) [Decidable refused] (problem : Error) (rest : Except Error Value) (result : Value) :
    (if refused then Except.error problem else rest) = .ok result ↔ ¬ refused ∧ rest = .ok result := by
  by_cases holds : refused
  · rw [if_pos holds]
    constructor
    · intro impossible
      cases impossible
    · rintro ⟨fine, _⟩
      exact absurd holds fine
  · rw [if_neg holds]
    exact ⟨fun ok => ⟨holds, ok⟩, fun both => both.2⟩

variable (step : State → Item → Except Error State)

theorem fold_ok (state last : State) (item : Item) (rest : List Item) :
    (item :: rest).foldlM step state = .ok last ↔
      ∃ next, step state item = .ok next ∧ rest.foldlM step next = .ok last := by
  rw [List.foldlM_cons, bind_ok]

theorem fold_nil (state last : State) : ([] : List Item).foldlM step state = .ok last ↔ state = last := by
  simp [List.foldlM_nil, pure, Except.pure]

theorem fold_keeps (inv : State → Prop) (keeps : ∀ state item next, inv state → step state item = .ok next → inv next)
    (items : List Item) (state last : State) (start : inv state) (done : items.foldlM step state = .ok last) : inv last := by
  induction items generalizing state with
  | nil => exact (fold_nil step state last).mp done ▸ start
  | cons item rest ih =>
      obtain ⟨next, taken, later⟩ := (fold_ok step state last item rest).mp done
      exact ih next (keeps state item next start taken) later

theorem fold_sum (read : State → Nat) (amount : Item → Nat) (items : List Item) (state last : State)
    (done : items.foldlM step state = .ok last)
    (raises : ∀ state item next, item ∈ items → step state item = .ok next → read next = read state + amount item) :
    read last = read state + (items.map amount).sum := by
  induction items generalizing state with
  | nil =>
      cases (fold_nil step state last).mp done
      rfl
  | cons item rest ih =>
      obtain ⟨next, taken, later⟩ := (fold_ok step state last item rest).mp done
      have here := raises state item next List.mem_cons_self taken
      have there := ih next later fun state other next member => raises state other next (List.mem_cons_of_mem item member)
      rw [there, here, List.map_cons, List.sum_cons, Nat.add_assoc]

theorem fold_total (items : List Item) (state : State) (each : ∀ item ∈ items, ∀ state, ∃ next, step state item = .ok next) :
    ∃ last, items.foldlM step state = .ok last := by
  induction items generalizing state with
  | nil => exact ⟨state, rfl⟩
  | cons item rest ih =>
      obtain ⟨next, taken⟩ := each item List.mem_cons_self state
      obtain ⟨last, later⟩ := ih next fun other member => each other (List.mem_cons_of_mem item member)
      exact ⟨last, (fold_ok step state last item rest).mpr ⟨next, taken, later⟩⟩

theorem fold_steps (items : List Item) (state last : State) (done : items.foldlM step state = .ok last) :
    ∀ item ∈ items, ∃ before after, step before item = .ok after := by
  induction items generalizing state with
  | nil => exact fun _ absent => by cases absent
  | cons first rest ih =>
      obtain ⟨next, taken, later⟩ := (fold_ok step state last first rest).mp done
      intro item member
      rcases List.mem_cons.mp member with rfl | inRest
      · exact ⟨state, next, taken⟩
      · exact ih next later item inRest

theorem fold_commutes (alter : Item → Item) (change : State → State)
    (same : ∀ state item, step (change state) (alter item) = (step state item).map change) (items : List Item) (state : State) :
    (items.map alter).foldlM step (change state) = (items.foldlM step state).map change := by
  induction items generalizing state with
  | nil => rfl
  | cons item rest ih =>
      rw [List.map_cons, List.foldlM_cons, List.foldlM_cons, same]
      cases step state item with
      | error message => rfl
      | ok next => exact ih next

theorem mapM_pairs (step : Item → Except Error State) (items : List Item) (states : List State)
    (done : items.mapM step = .ok states) : List.Forall₂ (fun item state => step item = .ok state) items states := by
  induction items generalizing states with
  | nil =>
      cases done
      exact .nil
  | cons item rest ih =>
      rw [List.mapM_cons, bind_ok] at done
      obtain ⟨state, taken, later⟩ := done
      obtain ⟨others, rest_, same⟩ := (bind_ok _ _ _).mp later
      cases same
      exact .cons taken (ih others rest_)

theorem mapM_read (step : Item → Except Error State) (items : List Item) (states : List State)
    (done : items.mapM step = .ok states) (index : Nat) (item : Item) (read : items[index]? = some item) :
    ∃ state, states[index]? = some state ∧ step item = .ok state := by
  have pairs := mapM_pairs step items states done
  clear done
  induction pairs generalizing index with
  | nil => cases read
  | cons here _ ih =>
      cases index with
      | zero =>
          cases read
          exact ⟨_, rfl, here⟩
      | succ index => exact ih index read

theorem mapM_same (step other : Item → Except Error State) (items : List Item)
    (same : ∀ item ∈ items, step item = other item) : items.mapM step = items.mapM other := by
  induction items with
  | nil => rfl
  | cons item rest ih =>
      rw [List.mapM_cons, List.mapM_cons, same item List.mem_cons_self,
        ih fun next member => same next (List.mem_cons_of_mem item member)]

theorem mapM_total (step : Item → Except Error State) (items : List Item)
    (each : ∀ item ∈ items, ∃ state, step item = .ok state) : ∃ states, items.mapM step = .ok states := by
  induction items with
  | nil => exact ⟨[], rfl⟩
  | cons item rest ih =>
      obtain ⟨state, taken⟩ := each item List.mem_cons_self
      obtain ⟨states, later⟩ := ih fun other member => each other (List.mem_cons_of_mem item member)
      refine ⟨state :: states, ?_⟩
      rw [List.mapM_cons, taken]
      change (rest.mapM step >>= _) = _
      rw [later]
      rfl

theorem mapM_values (step : Item → Except Error State) (value : Item → State) (items : List Item)
    (each : ∀ item ∈ items, step item = .ok (value item)) : items.mapM step = .ok (items.map value) := by
  induction items with
  | nil => rfl
  | cons item rest ih =>
      rw [List.mapM_cons, each item List.mem_cons_self, ih fun other member => each other (List.mem_cons_of_mem item member)]
      rfl

theorem mapM_map (step : Item → Except Error State) (items : List Item) (states : List State) (read : State → Value)
    (source : Item → Value) (done : items.mapM step = .ok states)
    (each : ∀ item state, step item = .ok state → read state = source item) : states.map read = items.map source := by
  have pairs := mapM_pairs step items states done
  clear done
  induction pairs with
  | nil => rfl
  | cons here _ ih => rw [List.map_cons, List.map_cons, each _ _ here, ih]

theorem mapM_follow (step : Item → Except Error State) (items : List Item) (states : List State) (read : State → Value)
    (other : Item → Except Error Value) (done : items.mapM step = .ok states)
    (each : ∀ item ∈ items, ∀ state, step item = .ok state → other item = .ok (read state)) :
    items.mapM other = .ok (states.map read) := by
  have pairs := mapM_pairs step items states done
  clear done
  induction pairs with
  | nil => rfl
  | @cons item state rest others here _ ih =>
      have later := ih fun next member => each next (List.mem_cons_of_mem item member)
      rw [List.mapM_cons, each item List.mem_cons_self state here]
      change (rest.mapM other >>= _) = _
      rw [later]
      rfl

theorem mapM_mapped (step : Item → Except Error State) (change : State → Value) (items : List Item) :
    (items.mapM fun item => step item >>= fun state => .ok (change state)) =
      (items.mapM step >>= fun states => .ok (states.map change)) := by
  induction items with
  | nil => rfl
  | cons item rest ih =>
      rw [List.mapM_cons, List.mapM_cons, ih]
      cases step item with
      | error message => rfl
      | ok state =>
          change (rest.mapM step >>= _) >>= _ = (rest.mapM step >>= _) >>= _
          cases rest.mapM step <;> rfl

end LlmperfOrchestrator.Outcomes

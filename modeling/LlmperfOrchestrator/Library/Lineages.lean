import LlmperfOrchestrator.Library.Outcomes
import LlmperfOrchestrator.Library.Tables

set_option autoImplicit false

namespace LlmperfOrchestrator.Lineages

open Tables Outcomes

-- An entry weighs what it adds itself and, once more, all its sources weigh.
-- Later entries may build on it where it is reusable.
structure Entry (Key : Type) where
  key : Key
  own : Nat
  sources : List Key
  reusable : Bool

def Entry.rename {Key Other : Type} (rename : Key → Other) (entry : Entry Key) : Entry Other :=
  { key := rename entry.key, own := entry.own, sources := entry.sources.map rename, reusable := entry.reusable }

variable {Key : Type} [DecidableEq Key]

def Weighing (entries : List (Entry Key)) (weight : Key → Nat) : Prop :=
  ∀ entry ∈ entries, weight entry.key = entry.own + (entry.sources.map weight).sum

def lineageWeight (weight : Key → Nat) (entries : List (Entry Key)) : Nat := (entries.map fun entry => weight entry.key).sum

def reusableKeys (entries : List (Entry Key)) : List Key := (entries.filter Entry.reusable).map Entry.key

def Topological : List (Entry Key) → List (Entry Key) → Prop
  | _, [] => True
  | seen, entry :: rest =>
      entry.key ∉ seen.map Entry.key ∧ entry.sources ⊆ reusableKeys seen ∧ Topological (seen ++ [entry]) rest

def lookUp (histories : Dict Key Nat) (source : Key) : Except String Nat :=
  match Dict.get source histories with
  | some tokens => .ok tokens
  | none => .error "KeyError"

def accumulate (times : Nat) (state : Dict Key Nat × Nat) (entry : Entry Key) : Except String (Dict Key Nat × Nat) := do
  let history ← entry.sources.mapM (lookUp state.1)
  let weight := history.sum + entry.own
  .ok (if entry.reusable then Dict.put entry.key weight state.1 else state.1, state.2 + weight * times)

omit [DecidableEq Key] in
theorem reusable_append (first second : List (Entry Key)) :
    reusableKeys (first ++ second) = reusableKeys first ++ reusableKeys second := by
  rw [reusableKeys, List.filter_append, List.map_append]
  rfl

omit [DecidableEq Key] in
theorem reusable_key (entries : List (Entry Key)) : reusableKeys entries ⊆ entries.map Entry.key :=
  List.map_subset Entry.key (List.filter_subset_self entries)

omit [DecidableEq Key] in
theorem topological_append (seen first second : List (Entry Key)) :
    Topological seen (first ++ second) ↔ Topological seen first ∧ Topological (seen ++ first) second := by
  induction first generalizing seen with
  | nil => simp [Topological]
  | cons entry rest ih =>
      rw [List.cons_append, Topological, Topological, ih, List.append_assoc]
      simp [and_assoc]

omit [DecidableEq Key] in
theorem topological_after (others seen entries : List (Entry Key))
    (apart : ∀ entry ∈ entries, entry.key ∉ others.map Entry.key) (ordered : Topological seen entries) :
    Topological (others ++ seen) entries := by
  induction entries generalizing seen with
  | nil => trivial
  | cons entry rest ih =>
      obtain ⟨fresh, known, later⟩ := ordered
      refine ⟨?_, ?_, ?_⟩
      · rw [List.map_append, List.mem_append]
        rintro (foreign | before)
        · exact apart entry List.mem_cons_self foreign
        · exact fresh before
      · intro source needed
        rw [reusable_append]
        exact List.mem_append_right _ (known needed)
      · rw [List.append_assoc]
        exact ih (seen ++ [entry]) (fun other member => apart other (List.mem_cons_of_mem entry member)) later

omit [DecidableEq Key] in
theorem topological_groups {Group : Type} (items : Group → List (Entry Key)) (groups : List Group)
    (each : ∀ group ∈ groups, Topological [] (items group))
    (apart : groups.Pairwise fun first second => ∀ entry ∈ items second, entry.key ∉ (items first).map Entry.key) :
    Topological [] (groups.flatMap items) := by
  suffices general : ∀ seen : List (Entry Key), (∀ group ∈ groups, ∀ entry ∈ items group, entry.key ∉ seen.map Entry.key) →
      Topological seen (groups.flatMap items) by
    exact general [] fun _ _ _ _ => List.not_mem_nil
  induction groups with
  | nil => intro _ _; trivial
  | cons group rest ih =>
      intro seen fresh
      obtain ⟨foreign, others⟩ := List.pairwise_cons.mp apart
      rw [List.flatMap_cons, topological_append]
      constructor
      · have placed := topological_after seen [] (items group) (fresh group List.mem_cons_self) (each group List.mem_cons_self)
        rwa [List.append_nil] at placed
      · apply ih (fun other member => each other (List.mem_cons_of_mem group member)) others
        intro other member entry inside known
        rw [List.map_append, List.mem_append] at known
        rcases known with before | here
        · exact fresh other (List.mem_cons_of_mem group member) entry inside before
        · exact foreign other member entry inside here

omit [DecidableEq Key] in
theorem weighing_cons (entry : Entry Key) (rest : List (Entry Key)) (weight : Key → Nat) :
    Weighing (entry :: rest) weight ↔
      weight entry.key = entry.own + (entry.sources.map weight).sum ∧ Weighing rest weight :=
  List.forall_mem_cons

theorem weighing_exists (entries seen : List (Entry Key)) (before : Key → Nat) (ordered : Topological seen entries) :
    ∃ weight, Weighing entries weight ∧ ∀ entry ∈ seen, weight entry.key = before entry.key := by
  induction entries generalizing seen before with
  | nil => exact ⟨before, fun _ absent => absurd absent List.not_mem_nil, fun _ _ => rfl⟩
  | cons entry rest ih =>
      obtain ⟨fresh, known, later⟩ := ordered
      have foreign : ∀ key ∈ seen.map Entry.key, key ≠ entry.key := fun key member same => fresh (same ▸ member)
      obtain ⟨weight, weighing, kept⟩ := ih (seen ++ [entry])
        (Function.update before entry.key (entry.own + (entry.sources.map before).sum)) later
      have stays : ∀ key ∈ seen.map Entry.key, weight key = before key := by
        intro key member
        obtain ⟨earlier, inside, rfl⟩ := List.mem_map.mp member
        rw [kept earlier (List.mem_append_left _ inside), Function.update_of_ne (foreign _ member)]
      refine ⟨weight, (weighing_cons entry rest weight).mpr ⟨?_, weighing⟩, ?_⟩
      · rw [kept entry (List.mem_append_right _ List.mem_cons_self), Function.update_self]
        congr 2
        apply List.map_congr_left
        intro source needed
        exact (stays source (reusable_key seen (known needed))).symm
      · intro earlier inside
        exact stays earlier.key (List.mem_map_of_mem inside)

theorem look_up_weights (histories : Dict Key Nat) (weight : Key → Nat) (sources : List Key)
    (known : ∀ source ∈ sources, Dict.get source histories = some (weight source)) :
    sources.mapM (lookUp histories) = .ok (sources.map weight) := by
  induction sources with
  | nil => rfl
  | cons source rest ih =>
      have later := ih fun other member => known other (List.mem_cons_of_mem source member)
      rw [List.mapM_cons, later, lookUp, known source List.mem_cons_self]
      rfl

theorem accumulate_weighs (times : Nat) (weight : Key → Nat) (entries seen : List (Entry Key)) (histories : Dict Key Nat)
    (total : Nat) (ordered : Topological seen entries) (weighing : Weighing entries weight)
    (known : ∀ key ∈ reusableKeys seen, Dict.get key histories = some (weight key)) :
    ∃ last, entries.foldlM (accumulate times) (histories, total) = .ok (last, total + lineageWeight weight entries * times) := by
  induction entries generalizing seen histories total with
  | nil => exact ⟨histories, by simp [lineageWeight, pure, Except.pure]⟩
  | cons entry rest ih =>
      obtain ⟨fresh, sourced, later⟩ := ordered
      obtain ⟨own, others⟩ := (weighing_cons entry rest weight).mp weighing
      have histories_read := look_up_weights histories weight entry.sources fun source needed => known source (sourced needed)
      have same : (entry.sources.map weight).sum + entry.own = weight entry.key := by
        rw [own, Nat.add_comm]
      have taken : accumulate times (histories, total) entry =
          .ok (if entry.reusable then Dict.put entry.key (weight entry.key) histories else histories,
            total + weight entry.key * times) := by
        rw [accumulate, histories_read, ← same]
        rfl
      obtain ⟨last, done⟩ := ih (seen ++ [entry])
        (if entry.reusable then Dict.put entry.key (weight entry.key) histories else histories)
        (total + weight entry.key * times) later others (by
          intro key member
          rw [reusable_append, List.mem_append] at member
          cases reusable : entry.reusable with
          | true =>
              rw [if_pos rfl, dict_get_put]
              by_cases here : key = entry.key
              · rw [if_pos here, here]
              · rw [if_neg here]
                apply known key
                rcases member with before | now
                · exact before
                · simp [reusableKeys, reusable, here] at now
          | false =>
              rw [if_neg (by simp)]
              apply known key
              rcases member with before | now
              · exact before
              · simp [reusableKeys, reusable] at now)
      refine ⟨last, (fold_ok _ _ _ _ _).mpr ⟨_, taken, ?_⟩⟩
      rw [done, lineageWeight, lineageWeight, List.map_cons, List.sum_cons, Nat.add_mul, Nat.add_assoc]

def lineageTotal (entries : List (Entry Key)) : Nat :=
  match entries.foldlM (accumulate 1) ([], 0) with
  | .ok state => state.2
  | .error _ => 0

theorem lineage_total (entries : List (Entry Key)) (weight : Key → Nat) (ordered : Topological [] entries)
    (weighing : Weighing entries weight) : lineageTotal entries = lineageWeight weight entries := by
  obtain ⟨last, done⟩ := accumulate_weighs 1 weight entries [] [] 0 ordered weighing fun _ absent => absurd absent List.not_mem_nil
  rw [lineageTotal, done, Nat.zero_add, Nat.mul_one]

section Renaming

variable {Other : Type} (rename : Key → Other)

omit [DecidableEq Key] in
theorem weighing_rename (entries : List (Entry Key)) (weight : Other → Nat)
    (weighing : Weighing (entries.map (Entry.rename rename)) weight) : Weighing entries (weight ∘ rename) := by
  intro entry member
  have renamed := weighing _ (List.mem_map_of_mem member)
  simpa [Entry.rename, List.map_map] using renamed

omit [DecidableEq Key] in
theorem weight_rename (entries : List (Entry Key)) (weight : Other → Nat) :
    lineageWeight weight (entries.map (Entry.rename rename)) = lineageWeight (weight ∘ rename) entries := by
  rw [lineageWeight, lineageWeight, List.map_map]
  rfl

omit [DecidableEq Key] in
theorem reusable_rename (entries : List (Entry Key)) :
    reusableKeys (entries.map (Entry.rename rename)) = (reusableKeys entries).map rename := by
  rw [reusableKeys, reusableKeys, List.filter_map, List.map_map, List.map_map]
  rfl

omit [DecidableEq Key] in
theorem topological_rename (injective : Function.Injective rename) (entries seen : List (Entry Key))
    (ordered : Topological seen entries) : Topological (seen.map (Entry.rename rename)) (entries.map (Entry.rename rename)) := by
  induction entries generalizing seen with
  | nil => trivial
  | cons entry rest ih =>
      obtain ⟨fresh, known, later⟩ := ordered
      refine ⟨?_, ?_, ?_⟩
      · rw [List.map_map]
        intro member
        obtain ⟨other, inside, same⟩ := List.mem_map.mp member
        exact fresh (List.mem_map.mpr ⟨other, inside, injective same⟩)
      · rw [reusable_rename]
        exact List.map_subset rename known
      · have placed := ih (seen ++ [entry]) later
        rwa [List.map_append] at placed

end Renaming

end LlmperfOrchestrator.Lineages

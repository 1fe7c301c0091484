import LlmperfOrchestrator.Compiler.Compilation
import LlmperfOrchestrator.Library.Numerals
import Mathlib.Data.String.Basic

set_option autoImplicit false

namespace LlmperfOrchestrator.Compiler

open Tables Numerals

theorem product_length (factors : List (List Int)) (values : List Int) (member : values ∈ product factors) :
    values.length = factors.length := by
  induction factors generalizing values with
  | nil =>
      cases List.mem_singleton.mp member
      rfl
  | cons factor rest ih =>
      obtain ⟨value, _, inMap⟩ := List.mem_flatMap.mp member
      obtain ⟨others, inRest, rfl⟩ := List.mem_map.mp inMap
      rw [List.length_cons, List.length_cons, ih others inRest]

theorem product_nodup (factors : List (List Int)) (unique : ∀ factor ∈ factors, factor.Nodup) : (product factors).Nodup := by
  induction factors with
  | nil => exact List.nodup_singleton []
  | cons factor rest ih =>
      have later := ih fun other member => unique other (List.mem_cons_of_mem factor member)
      rw [product, List.nodup_flatMap]
      refine ⟨fun value _ => later.map (List.cons_injective), ?_⟩
      refine (unique factor List.mem_cons_self).imp ?_
      intro first second different values inFirst inSecond
      obtain ⟨_, _, rfl⟩ := List.mem_map.mp inFirst
      obtain ⟨_, _, same⟩ := List.mem_map.mp inSecond
      exact different (List.cons.inj same).1.symm

theorem product_present (factors : List (List Int)) (present : ∀ factor ∈ factors, factor ≠ []) : product factors ≠ [] := by
  induction factors with
  | nil => exact List.cons_ne_nil [] []
  | cons factor rest ih =>
      have later := ih fun other member => present other (List.mem_cons_of_mem factor member)
      obtain ⟨value, inFactor⟩ := List.exists_mem_of_ne_nil factor (present factor List.mem_cons_self)
      obtain ⟨values, inRest⟩ := List.exists_mem_of_ne_nil _ later
      exact List.ne_nil_of_mem (List.mem_flatMap.mpr ⟨value, inFactor, List.mem_map_of_mem inRest⟩)

def namedValues (dimensions : List (String × List Int)) : List Dimensions :=
  (product (dimensions.map Prod.snd)).map fun values => (dimensions.map Prod.fst).zip values

theorem named_values (dimensions : List (String × List Int)) (coordinates : Dimensions) (member : coordinates ∈ namedValues dimensions) :
    ∃ values : List Int, values.length = (dimensions.map Prod.fst).length ∧ coordinates = (dimensions.map Prod.fst).zip values := by
  obtain ⟨values, inProduct, rfl⟩ := List.mem_map.mp member
  refine ⟨values, ?_, rfl⟩
  rw [product_length _ values inProduct, List.length_map, List.length_map]

theorem named_values_nodup (dimensions : List (String × List Int)) (unique : ∀ dimension ∈ dimensions, dimension.2.Nodup) :
    (namedValues dimensions).Nodup := by
  have factors : ∀ factor ∈ dimensions.map Prod.snd, factor.Nodup := by
    intro factor member
    obtain ⟨dimension, inside, rfl⟩ := List.mem_map.mp member
    exact unique dimension inside
  apply List.Nodup.map_on _ (product_nodup _ factors)
  intro first inFirst second inSecond same
  have firstMany := product_length _ first inFirst
  have secondMany := product_length _ second inSecond
  rw [List.length_map] at firstMany secondMany
  have read := congrArg (List.map Prod.snd) same
  rwa [List.map_snd_zip (by rw [List.length_map]; exact firstMany.le),
    List.map_snd_zip (by rw [List.length_map]; exact secondMany.le)] at read

def entryText (entry : String × Int) : String := s!"{entry.1}={entry.2}"

theorem entry_text (entry : String × Int) : (entryText entry).toList = entry.1.toList ++ '=' :: (toString entry.2).toList := by
  change (entry.1 ++ "=" ++ toString entry.2).toList = _
  rw [String.toList_append, String.toList_append, List.append_assoc]
  rfl

theorem entries_split (names : List String) (values others : List Int) (rest other : List Char)
    (many : values.length = names.length) (alsoMany : others.length = names.length)
    (closed : Closed rest) (closedOther : Closed other)
    (same : (";".intercalate ((names.zip values).map entryText)).toList ++ rest =
      (";".intercalate ((names.zip others).map entryText)).toList ++ other) : values = others ∧ rest = other := by
  induction names generalizing values others with
  | nil =>
      rw [List.length_eq_zero_iff.mp many, List.length_eq_zero_iff.mp alsoMany] at same ⊢
      exact ⟨rfl, by simpa using same⟩
  | cons name names ih =>
      cases values with
      | nil => cases many
      | cons value values =>
          cases others with
          | nil => cases alsoMany
          | cons second others =>
              simp only [List.length_cons, Nat.add_right_cancel_iff] at many alsoMany
              cases names with
              | nil =>
                  rw [List.length_eq_zero_iff.mp many, List.length_eq_zero_iff.mp alsoMany] at same ⊢
                  simp only [List.zip_cons_cons, List.zip_nil_right, List.map_cons, List.map_nil, String.intercalate_singleton,
                    entry_text, List.append_assoc, List.cons_append, List.append_cancel_left_eq, List.cons.injEq, true_and] at same
                  obtain ⟨rfl, tail⟩ := integer_split value second rest other closed closedOther same
                  exact ⟨rfl, tail⟩
              | cons next names =>
                  cases values with
                  | nil => cases many
                  | cons v values =>
                      cases others with
                      | nil => cases alsoMany
                      | cons w others =>
                          simp only [List.zip_cons_cons, List.map_cons, String.intercalate_cons_cons, String.toList_append,
                            entry_text, List.append_assoc, List.cons_append, List.append_cancel_left_eq, List.cons.injEq,
                            true_and] at same
                          obtain ⟨rfl, tail⟩ := integer_split value second _ _ (by simp [Closed]) (by simp [Closed]) same
                          have shorter := List.append_cancel_left tail
                          obtain ⟨values, rest⟩ := ih (v :: values) (w :: others) many alsoMany
                            (by simpa [List.zip_cons_cons, List.map_cons] using shorter)
                          exact ⟨by rw [values], rest⟩

def sortedMatrix (recipe : TaskRecipe) : List (String × List Int) :=
  recipe.instances.matrix.rows.insertionSort fun a b => a.1 ≤ b.1

def coordinateNames (recipe : TaskRecipe) : List String := (sortedMatrix recipe).map Prod.fst

variable (recipe : TaskRecipe)

theorem coordinate_values (dimensions : Dimensions) (coordinate : dimensions ∈ matrixCoordinates recipe) :
    ∃ values : List Int, values.length = (coordinateNames recipe).length ∧ dimensions = (coordinateNames recipe).zip values :=
  named_values (sortedMatrix recipe) dimensions coordinate

theorem coordinate_text (dimensions : Dimensions) (coordinate : dimensions ∈ matrixCoordinates recipe) :
    coordinatesText dimensions = ";".intercalate (dimensions.map entryText) := by
  obtain ⟨values, many, rfl⟩ := coordinate_values recipe dimensions coordinate
  have sorted : ((coordinateNames recipe).zip values).Pairwise fun a b => a.1 ≤ b.1 := by
    have names : (coordinateNames recipe).Pairwise (· ≤ ·) :=
      List.pairwise_map.mpr (List.pairwise_insertionSort (fun (a b : String × List Int) => a.1 ≤ b.1) _)
    have read : ((coordinateNames recipe).zip values).map Prod.fst = coordinateNames recipe := List.map_fst_zip many.ge
    rw [← read] at names
    exact List.pairwise_map.mp names
  rw [coordinatesText, sorted.insertionSort_eq]
  rfl

theorem coordinates_nodup (valid : recipe.valid = true) : (matrixCoordinates recipe).Nodup := by
  apply named_values_nodup (sortedMatrix recipe)
  intro dimension inSorted
  have inMatrix : dimension ∈ recipe.instances.matrix.rows := (List.mem_insertionSort _).mp inSorted
  simp only [TaskRecipe.valid, TaskInstancesConfig.valid, Bool.and_eq_true, List.all_eq_true, decide_eq_true_eq] at valid
  exact (valid.1.1.1.1.2.1.1.1 dimension inMatrix).2

theorem trial_text (text : String) (trial : Nat) : s!"{text};trial={trial}".toList = text.toList ++ (";trial=".toList ++ trial.repr.toList) := by
  change (text ++ ";trial=" ++ toString trial).toList = _
  rw [String.toList_append, String.toList_append, List.append_assoc]
  rfl

theorem named_text (name : String) (names : List String) (values : List Int) (many : values.length = (name :: names).length) :
    ";".intercalate (((name :: names).zip values).map entryText) ≠ "" := by
  intro blank
  have letters := congrArg String.toList blank
  cases values with
  | nil => cases many
  | cons value values =>
      have entry : '=' ∈ (entryText (name, value)).toList := by
        rw [entry_text]
        exact List.mem_append_right _ List.mem_cons_self
      cases rest : (names.zip values).map entryText with
      | nil =>
          rw [List.zip_cons_cons, List.map_cons, rest, String.intercalate_singleton] at letters
          rw [letters] at entry
          cases entry
      | cons next others =>
          rw [List.zip_cons_cons, List.map_cons, rest, String.intercalate_cons_cons, String.toList_append,
            String.toList_append] at letters
          have first := (List.append_eq_nil_iff.mp (List.append_eq_nil_iff.mp letters).1).1
          rw [first] at entry
          cases entry

theorem instance_key_injective (dimensions others : Dimensions) (trial other : Nat)
    (coordinate : dimensions ∈ matrixCoordinates recipe) (otherCoordinate : others ∈ matrixCoordinates recipe)
    (same : instanceKeyOf dimensions trial = instanceKeyOf others other) : dimensions = others ∧ trial = other := by
  have text := coordinate_text recipe dimensions coordinate
  have otherText := coordinate_text recipe others otherCoordinate
  obtain ⟨values, many, rfl⟩ := coordinate_values recipe dimensions coordinate
  obtain ⟨second, alsoMany, rfl⟩ := coordinate_values recipe others otherCoordinate
  rw [instanceKeyOf, instanceKeyOf, text, otherText] at same
  cases named : coordinateNames recipe with
  | nil =>
      simp only [named, List.zip_nil_left, List.map_nil, String.intercalate_nil, if_true] at same
      have letters := congrArg String.toList same
      change ("trial=" ++ toString trial).toList = ("trial=" ++ toString other).toList at letters
      rw [String.toList_append, String.toList_append] at letters
      exact ⟨rfl, natural_injective trial other (List.append_cancel_left letters)⟩
  | cons name names =>
      rw [named] at many alsoMany same
      simp only [if_neg (named_text name names values many), if_neg (named_text name names second alsoMany)] at same
      have letters := congrArg String.toList same
      rw [trial_text, trial_text] at letters
      obtain ⟨rfl, tail⟩ := entries_split (name :: names) values second _ _ many alsoMany (by simp [Closed])
        (by simp [Closed]) letters
      exact ⟨rfl, natural_injective trial other (List.append_cancel_left tail)⟩

theorem compiled_instances_nodup (valid : recipe.valid = true) : (compiledInstances recipe).Nodup := by
  rw [compiledInstances, List.nodup_flatMap]
  refine ⟨fun dimensions _ => ?_, (coordinates_nodup recipe valid).imp ?_⟩
  · exact List.nodup_range.map fun first second same => (Prod.mk.inj same).2
  · intro first second different entry inFirst inSecond
    obtain ⟨_, _, rfl⟩ := List.mem_map.mp inFirst
    obtain ⟨_, _, same⟩ := List.mem_map.mp inSecond
    exact different (Prod.mk.inj same).1.symm

theorem instance_keys_unique (valid : recipe.valid = true) :
    ((compiledInstances recipe).map fun entry => instanceKeyOf entry.1 entry.2).Nodup := by
  apply List.Nodup.map_on _ (compiled_instances_nodup recipe valid)
  intro first inFirst second inSecond same
  obtain ⟨dimensions, coordinate, inTrials⟩ := List.mem_flatMap.mp inFirst
  obtain ⟨others, otherCoordinate, inOthers⟩ := List.mem_flatMap.mp inSecond
  obtain ⟨trial, _, rfl⟩ := List.mem_map.mp inTrials
  obtain ⟨other, _, rfl⟩ := List.mem_map.mp inOthers
  obtain ⟨rfl, rfl⟩ := instance_key_injective recipe dimensions others trial other coordinate otherCoordinate same
  rfl

end LlmperfOrchestrator.Compiler

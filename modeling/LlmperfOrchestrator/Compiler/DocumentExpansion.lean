import LlmperfOrchestrator.Compiler.LoopBinding
import LlmperfOrchestrator.Library.Outcomes

set_option autoImplicit false

namespace LlmperfOrchestrator.Compiler

open Tables SeriesParallel Outcomes

def bindDocumentMember (config : ForEachConfig) (template : TaskNodeSpec) (member : String × Nat) :
    Except String (String × TaskNodeSpec) := do
  let bound ← documentMember config template member.2
  .ok (member.1, bound)

def expandDocumentLane (dimensions : Dimensions) (config : ForEachConfig) (template : TaskNodeSpec)
    (expand : TaskNodeSpec → Expand) (lane : String × List (String × Nat)) : Expand :=
  fun builder incoming path inherited => do
    let members ← lane.2.mapM (bindDocumentMember config template)
    expandSequence dimensions lane.1 .zero
      (members.map fun member => expandSequence dimensions member.1 .zero [expand member.2]) builder incoming path inherited

def expandDocumentForEach (sha256 : Sha256) (dimensions : Dimensions) (config : ForEachConfig) (template : TaskNodeSpec)
    (expand : TaskNodeSpec → Expand) : Expand := fun builder incoming path inherited => do
  let laneDelay ← config.after.resolve dimensions
  if config.parallelism = 0 ∨ (config.values.values sha256).length = 0 then
    .error "integer division or modulo by zero"
  else
    expandBranches ((expandedLanes sha256 config).map fun lane =>
      (expandDocumentLane dimensions config template expand lane, path ++ [config.name])) incoming (inherited + laneDelay)
      builder

section Graph

variable (sha256 : Sha256) (context : InstanceContext) (instanceKey : String)

def expandDocument : Nat → TaskNodeSpec → Expand
  | 0, _ => fun _ _ _ _ => .error depthExceeded
  | _ + 1, .invokeNode config => config.expand sha256 context instanceKey
  | _ + 1, .runNode config => config.expand sha256 context instanceKey
  | levels + 1, .repeatNode name count every node =>
      expandRepeat context.dimensions name count every (expandDocument levels node)
  | levels + 1, .parallelNode name after branch branches =>
      expandParallel context.dimensions name after ((branch :: branches).map (expandDocument levels))
  | levels + 1, .parallelCount name after count node =>
      expandParallelCount context.dimensions name after count (expandDocument levels node)
  | levels + 1, .sequenceNode name after step steps =>
      expandSequence context.dimensions name after ((step :: steps).map (expandDocument levels))
  | levels + 1, .forEachNode config template =>
      expandDocumentForEach sha256 context.dimensions config template (expandDocument levels)

end Graph

section Valid

variable (variableName : String) (value : Nat)

theorem duration_bound_valid (bindings : Bindings) (duration : TaskDuration) (valid : duration.value.valid = true) :
    (duration.bound bindings).value.valid = true := by
  obtain ⟨scalar, unit⟩ := duration
  cases scalar with
  | literal literal => exact valid
  | dimension name =>
      cases found : bindings name with
      | none => simpa [TaskDuration.bound, DurationScalar.bound, found] using valid
      | some value => simp [TaskDuration.bound, DurationScalar.bound, found, DurationScalar.valid]

mutual
theorem bound_valid (small : value < 2 ^ 64) (node : TaskNodeSpec) (valid : node.valid = true) :
    (node.bound (only variableName value)).valid = true := by
  cases node with
  | invokeNode config =>
      simp only [TaskNodeSpec.valid, InvokeConfig.valid, Bool.and_eq_true] at valid
      simp only [TaskNodeSpec.bound, TaskNodeSpec.valid, InvokeConfig.bound, InvokeConfig.valid, Bool.and_eq_true]
      exact ⟨⟨valid.1.1, duration_bound_valid _ _ valid.1.2⟩, valid.2⟩
  | runNode config =>
      simp only [TaskNodeSpec.valid, RunConfig.valid, Bool.and_eq_true] at valid
      simp only [TaskNodeSpec.bound, TaskNodeSpec.valid, RunConfig.bound, RunConfig.valid, Bool.and_eq_true]
      obtain ⟨⟨⟨⟨named, delayed⟩, depends⟩, seeded⟩, waits⟩ := valid
      refine ⟨⟨⟨⟨named, duration_bound_valid _ _ delayed⟩, depends⟩, ?_⟩, waits⟩
      cases seed : config.prefixSeed with
      | none => rfl
      | some inner => exact seed_bound_valid variableName value small inner (by simpa [seed] using seeded)
  | repeatNode name count every node =>
      simp only [TaskNodeSpec.valid, Bool.and_eq_true] at valid
      simp only [TaskNodeSpec.bound, TaskNodeSpec.valid, Bool.and_eq_true]
      exact ⟨⟨⟨valid.1.1.1, value_bound_valid _ _ valid.1.1.2⟩, duration_bound_valid _ _ valid.1.2⟩,
        bound_valid small node valid.2⟩
  | parallelNode name after branch branches =>
      simp only [TaskNodeSpec.valid, Bool.and_eq_true] at valid
      simp only [TaskNodeSpec.bound, TaskNodeSpec.valid, Bool.and_eq_true, all_bound_length]
      exact ⟨⟨⟨⟨valid.1.1.1.1, duration_bound_valid _ _ valid.1.1.1.2⟩, bound_valid small branch valid.1.1.2⟩, valid.1.2⟩,
        all_bound_valid small branches valid.2⟩
  | parallelCount name after count node =>
      simp only [TaskNodeSpec.valid, Bool.and_eq_true] at valid
      simp only [TaskNodeSpec.bound, TaskNodeSpec.valid, Bool.and_eq_true]
      exact ⟨⟨⟨valid.1.1.1, duration_bound_valid _ _ valid.1.1.2⟩, value_bound_valid _ _ valid.1.2⟩,
        bound_valid small node valid.2⟩
  | sequenceNode name after step steps =>
      simp only [TaskNodeSpec.valid, Bool.and_eq_true] at valid
      simp only [TaskNodeSpec.bound, TaskNodeSpec.valid, Bool.and_eq_true, all_bound_length]
      exact ⟨⟨⟨⟨valid.1.1.1.1, duration_bound_valid _ _ valid.1.1.1.2⟩, bound_valid small step valid.1.1.2⟩, valid.1.2⟩,
        all_bound_valid small steps valid.2⟩
  | forEachNode config node =>
      simp only [TaskNodeSpec.valid, ForEachConfig.valid, Bool.and_eq_true] at valid
      simp only [TaskNodeSpec.bound, TaskNodeSpec.valid, ForEachConfig.bound, ForEachConfig.valid, Bool.and_eq_true]
      exact ⟨⟨valid.1.1, duration_bound_valid _ _ valid.1.2⟩, bound_valid small node valid.2⟩
theorem all_bound_valid (small : value < 2 ^ 64) (nodes : List TaskNodeSpec) (valid : allValid nodes = true) :
    allValid (allBound (only variableName value) nodes) = true := by
  cases nodes with
  | nil => rfl
  | cons node rest =>
      simp only [allValid, Bool.and_eq_true] at valid
      simp only [allBound, allValid, Bool.and_eq_true]
      exact ⟨bound_valid small node valid.1, all_bound_valid small rest valid.2⟩
end

end Valid

theorem slices_held {Value : Type} (sizes : List Nat) (values slice : List Value) (sliced : slice ∈ slices sizes values)
    (value : Value) (held : value ∈ slice) : value ∈ values := by
  induction sizes generalizing values with
  | nil => cases sliced
  | cons size sizes ih =>
      cases List.mem_cons.mp sliced with
      | inl first =>
          subst first
          exact List.mem_of_mem_take held
      | inr later => exact List.mem_of_mem_drop (ih _ later)

theorem lane_value (sha256 : Sha256) (config : ForEachConfig) (lane : String × List (String × Nat))
    (inLanes : lane ∈ expandedLanes sha256 config) (member : String × Nat) (inLane : member ∈ lane.2) :
    member.2 ∈ config.values.values sha256 := by
  obtain ⟨numbered, inSlices, rfl⟩ := List.mem_map.mp inLanes
  obtain ⟨counted, inSlice, rfl⟩ := List.mem_map.mp inLane
  obtain ⟨slice, _⟩ := numbered
  obtain ⟨value, _⟩ := counted
  exact slices_held _ _ slice (List.fst_mem_of_mem_zipIdx inSlices) value (List.fst_mem_of_mem_zipIdx inSlice)

section Graph

variable (sha256 : Sha256) (context : InstanceContext) (instanceKey : String)

theorem document_lane (dimensions : Dimensions) (config : ForEachConfig) (template : TaskNodeSpec)
    (first second : TaskNodeSpec → Expand) (lane : String × List (String × Nat)) (valid : template.valid = true)
    (small : ∀ member ∈ lane.2, member.2 < 2 ^ 64) (each : ∀ node, node.valid = true → first node = second node) :
    expandDocumentLane dimensions config template first lane = expandLane dimensions config template second lane := by
  have members : lane.2.mapM (bindDocumentMember config template) = lane.2.mapM (bindMember config template) := by
    apply mapM_same
    intro member inLane
    rw [bindDocumentMember, bindMember, document_member config template member.2 (small member inLane) valid]
  funext builder incoming path inherited
  rw [expandDocumentLane, expandLane, members]
  cases bound : lane.2.mapM (bindMember config template) with
  | error message => rfl
  | ok specs =>
      have same : (specs.map fun member => expandSequence dimensions member.1 .zero [first member.2]) =
          specs.map fun member => expandSequence dimensions member.1 .zero [second member.2] := by
        apply List.map_congr_left
        intro spec inSpecs
        obtain ⟨member, inLane, taken⟩ := paired_right (mapM_pairs _ _ _ bound) spec inSpecs
        obtain ⟨node, isBound, same⟩ := (bind_ok _ _ _).mp taken
        cases same
        rw [bind_loop_value] at isBound
        by_cases shadowed : config.variableName ∈ template.loopVariables
        · rw [if_pos shadowed] at isBound
          cases isBound
        · rw [if_neg shadowed] at isBound
          cases isBound
          rw [each _ (bound_valid config.variableName member.2 (small member inLane) template valid)]
      change expandSequence _ _ _ (specs.map _) _ _ _ _ = expandSequence _ _ _ (specs.map _) _ _ _ _
      rw [same]

theorem document_expansion (levels : Nat) (node : TaskNodeSpec) (valid : node.valid = true) :
    expandDocument sha256 context instanceKey levels node = expandNode sha256 context instanceKey levels node := by
  induction levels generalizing node with
  | zero => rfl
  | succ levels ih =>
      have all (nodes : List TaskNodeSpec) (valid : allValid nodes = true) :
          nodes.map (expandDocument sha256 context instanceKey levels) =
            nodes.map (expandNode sha256 context instanceKey levels) := by
        induction nodes with
        | nil => rfl
        | cons node rest others =>
            simp only [allValid, Bool.and_eq_true] at valid
            rw [List.map_cons, List.map_cons, ih node valid.1, others valid.2]
      cases node with
      | invokeNode config => rfl
      | runNode config => rfl
      | repeatNode name count every node =>
          simp only [TaskNodeSpec.valid, Bool.and_eq_true] at valid
          rw [expandDocument, expandNode, ih node valid.2]
      | parallelNode name after branch branches =>
          simp only [TaskNodeSpec.valid, Bool.and_eq_true] at valid
          rw [expandDocument, expandNode, all (branch :: branches) (by simp [allValid, valid.1.1.2, valid.2])]
      | parallelCount name after count node =>
          simp only [TaskNodeSpec.valid, Bool.and_eq_true] at valid
          rw [expandDocument, expandNode, ih node valid.2]
      | sequenceNode name after step steps =>
          simp only [TaskNodeSpec.valid, Bool.and_eq_true] at valid
          rw [expandDocument, expandNode, all (step :: steps) (by simp [allValid, valid.1.1.2, valid.2])]
      | forEachNode config template =>
          simp only [TaskNodeSpec.valid, Bool.and_eq_true] at valid
          have pooled : config.values.valid = true := by
            have configured := valid.1
            simp only [ForEachConfig.valid, Bool.and_eq_true] at configured
            exact configured.1.1.1.2
          have lanes (path : Path) : ((expandedLanes sha256 config).map fun lane =>
              (expandDocumentLane context.dimensions config template (expandDocument sha256 context instanceKey levels) lane, path)) =
              (expandedLanes sha256 config).map fun lane =>
                (expandLane context.dimensions config template (expandNode sha256 context instanceKey levels) lane, path) := by
            apply List.map_congr_left
            intro lane inLanes
            rw [document_lane context.dimensions config template _ _ lane valid.2 _ ih]
            intro member inLane
            exact pool_values_small sha256 config.values pooled member.2 (lane_value sha256 config lane inLanes member inLane)
          funext builder incoming path inherited
          simp only [expandDocument, expandNode, expandDocumentForEach, expandForEach, lanes]

end Graph

theorem document_environments (sha256 : Sha256) (context : InstanceContext) (instanceKey : String) (levels : Nat)
    (node : TaskNodeSpec) (valid : node.valid = true) :
    expandDocument sha256 context instanceKey levels node =
      expandWithin sha256 context instanceKey levels context.dimensions node := by
  rw [document_expansion sha256 context instanceKey levels node valid]
  have unchanged : node.bound (fun _ => none) = node := bound_none node
  rw [← expand_bound sha256 context instanceKey levels node (fun _ => none) context.dimensions (fun _ => Option.none_or.symm)
    fun _ _ => rfl, unchanged]

theorem loop_substitution (sha256 : Sha256) (config : ForEachConfig) (template : TaskNodeSpec) (value : Nat)
    (configured : config.valid = true) (valid : template.valid = true) (member : value ∈ config.values.values sha256) :
    (config.variableName ∈ template.loopVariables →
      documentMember config template value = .error (shadowedVariable config.variableName)) ∧
    (config.variableName ∉ template.loopVariables → ∃ bound,
      documentMember config template value = .ok bound ∧ bound.texts = template.texts ∧
      ∀ (context : InstanceContext) (instanceKey : String) (levels : Nat),
        expandDocument sha256 context instanceKey levels bound =
          expandWithin sha256 context instanceKey levels
            (Dict.put config.variableName (value : Int) context.dimensions) template) := by
  have pooled : config.values.valid = true := by
    simp only [ForEachConfig.valid, Bool.and_eq_true] at configured
    exact configured.1.1.1.2
  have small := pool_values_small sha256 config.values pooled value member
  rw [document_member config template value small valid, bind_loop_value]
  constructor
  · intro shadowed
    exact if_pos shadowed
  · intro apart
    refine ⟨_, if_neg apart, bound_texts _ template, fun context instanceKey levels => ?_⟩
    rw [document_expansion sha256 context instanceKey levels _ (bound_valid config.variableName value small template valid)]
    have extended : Extends (only config.variableName value) context.dimensions
        (Dict.put config.variableName (value : Int) context.dimensions) := by
      intro name
      rw [dict_get_put, only]
      by_cases here : name = config.variableName
      · rw [if_pos here, if_pos here]
        rfl
      · rw [if_neg here, if_neg here]
        rfl
    apply expand_bound sha256 context instanceKey levels template (only config.variableName value) _ extended
    intro name held
    rw [only]
    apply if_neg
    intro same
    exact apart (same ▸ held)

def pairedLoop : ForEachConfig :=
  { name := "each", variableName := "x", values := .explicit [3, 5], parallelism := 2, after := .zero }

def pairedTemplate : TaskNodeSpec :=
  .sequenceNode "x" .zero
    (.repeatNode "again" (.dimension "x") ⟨.dimension "x", .ms⟩
      (.runNode { name := "call", role := some "x", after := .zero, dependsOn := [], prefixSeed := some (.dimension "x") }))
    [.forEachNode { name := "inner", variableName := "y", values := .explicit [1], parallelism := 1, after := .zero }
      (.runNode { name := "other", role := none, after := ⟨.dimension "y", .s⟩, dependsOn := [], prefixSeed := some (.dimension "x") })]

def coordinateContext : InstanceContext :=
  { seed := 1, dimensions := [("n", 2)], trialIndex := 0, payloads := .empty, prefixSeedScope := .trial }

theorem loop_substitution_paired : ∃ bound, documentMember pairedLoop pairedTemplate 3 = .ok bound ∧
    bound.texts = pairedTemplate.texts ∧
    expandDocument (fun _ => 0) coordinateContext "n=2" maxGraphDepth bound =
      expandWithin (fun _ => 0) coordinateContext "n=2" maxGraphDepth (Dict.put "x" 3 [("n", 2)]) pairedTemplate := by
  obtain ⟨bound, taken, texts, expands⟩ := (loop_substitution (fun _ => 0) pairedLoop pairedTemplate 3 (by decide +kernel)
    (by decide +kernel) (by decide)).2 (by decide)
  exact ⟨bound, taken, texts, expands coordinateContext "n=2" maxGraphDepth⟩

theorem document_environments_paired :
    expandDocument (fun _ => 0) coordinateContext "n=2" maxGraphDepth (.forEachNode pairedLoop pairedTemplate) =
      expandWithin (fun _ => 0) coordinateContext "n=2" maxGraphDepth [("n", 2)] (.forEachNode pairedLoop pairedTemplate) :=
  document_environments (fun _ => 0) coordinateContext "n=2" maxGraphDepth _ (by decide +kernel)

end LlmperfOrchestrator.Compiler

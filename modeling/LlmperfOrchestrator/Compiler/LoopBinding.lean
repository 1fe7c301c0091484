import LlmperfOrchestrator.Compiler.LoopSubstitution
import LlmperfOrchestrator.Compiler.ModelValidation
import Mathlib.Data.Nat.Cast.Order.Ring

set_option autoImplicit false

namespace LlmperfOrchestrator.Compiler

open Tables Documents

attribute [local simp] bind Except.bind Except.map Document.record Document.optional Fields.ofList Fields.get Fields.keys

section Leaves

theorem sized_text (high : Nat) (text : String) (valid : sized 1 high text = true) :
    validateText high (.text text) = .ok text := by
  simp only [sized, Bool.and_eq_true, decide_eq_true_eq] at valid
  rw [validateText, if_neg (by omega), if_neg (by omega)]

theorem counted_integer (low high value : Nat) (above : low ≤ value) (below : value ≤ high) :
    validateCount low high (.integer value) = .ok value := by
  rw [validateCount, if_neg (by omega), if_neg (by omega), Int.toNat_natCast]

theorem reference_round (name : String) (valid : sized 1 64 name = true) :
    validateReference (dumpReference name) = .ok name := by
  simp [dumpReference, validateReference, forbidExtra, required, sized_text 64 name valid]

theorem value_round (count : TaskValue) (valid : count.valid = true) : validateTaskValue (dumpValue count) = .ok count := by
  cases count with
  | literal value => rfl
  | dimension name =>
      have read := reference_round name valid
      change (validateReference (dumpReference name)).map TaskValue.dimension = _
      rw [read]
      rfl

theorem unit_round (unit : DurationUnit) : validateUnit (.text unit.text) = .ok unit := by cases unit <;> rfl

theorem literal_round (scalar : DurationScalar) (valid : scalar.valid = true) : validateLiteral scalar = .ok () := by
  cases scalar with
  | literal value =>
      simp only [DurationScalar.valid, decide_eq_true_eq] at valid
      rw [validateLiteral, if_neg (not_lt.mpr valid)]
  | dimension name => rfl

theorem duration_read (document : Document) (scalar : DurationScalar) (unit : DurationUnit)
    (read : validateScalar document = .ok scalar) (valid : scalar.valid = true) :
    validateDuration (.record [("value", document), ("unit", .text unit.text)]) = .ok ⟨scalar, unit⟩ := by
  simp [validateDuration, normalizeScalar, forbidExtra, required, defaulted, read, unit_round, literal_round scalar valid]

theorem seeds_round (values : List Nat) (valid : values.all (· < 2 ^ 64) = true) :
    (values.map fun (value : Nat) => Document.integer (value : Int)).mapM (validateCount 0 maxSeed) = .ok values := by
  induction values with
  | nil => rfl
  | cons value rest ih =>
      simp only [List.all_cons, Bool.and_eq_true, decide_eq_true_eq] at valid
      rw [List.map_cons, List.mapM_cons, ih valid.2, counted_integer 0 maxSeed value (Nat.zero_le _) (Nat.le_pred_of_lt valid.1)]
      rfl

theorem pool_round (duplicates : String) (pool : SeedPool) (valid : pool.valid = true) :
    validatePool duplicates (dumpPool pool) = .ok pool := by
  cases pool with
  | explicit values =>
      simp only [SeedPool.valid, Bool.and_eq_true, decide_eq_true_eq] at valid
      obtain ⟨⟨⟨some_, few⟩, small⟩, unique⟩ := valid
      simp only [dumpPool, Document.listOf, validatePool, items_round, seeds_round values small, bind, Except.bind]
      rw [if_neg (by omega), if_neg (by omega), if_neg (not_not.mpr unique)]
  | generated seed count =>
      simp only [SeedPool.valid, Bool.and_eq_true, decide_eq_true_eq] at valid
      simp [dumpPool, validatePool, forbidExtra, required, counted_integer 0 maxSeed seed (Nat.zero_le _) (Nat.le_pred_of_lt valid.1.1),
        counted_integer 1 10000 count valid.1.2 valid.2]

theorem seed_round (seed : PrefixSeed) (valid : seed.valid = true) : validatePrefixSeed (dumpPrefixSeed seed) = .ok seed := by
  cases seed with
  | literal value =>
      have small := of_decide_eq_true valid
      change (validateCount 0 maxSeed (.integer value)).map PrefixSeed.literal = _
      rw [counted_integer 0 maxSeed value (Nat.zero_le _) (Nat.le_pred_of_lt small)]
      rfl
  | dimension name =>
      have read := reference_round name valid
      change (validateReference (dumpReference name)).map PrefixSeed.dimension = _
      rw [read]
      rfl
  | pick pool =>
      simp [dumpPrefixSeed, validatePrefixSeed, parseTaskValue, forbidExtra, pool_round _ pool valid]

theorem dependency_round (dependency : RequestDependency) (valid : sized 1 120 dependency.step = true) :
    validateDependency (dumpDependency dependency) = .ok dependency := by
  simp [dumpDependency, validateDependency, parseName, forbidExtra, required, defaulted, validateFlag,
    sized_text 120 dependency.step valid]

theorem dependencies_round (dependencies : List RequestDependency) (valid : validDependencies dependencies = true) :
    validateDependencies (dumpDependencies dependencies) = .ok dependencies := by
  simp only [validDependencies, Bool.and_eq_true, decide_eq_true_eq, List.all_eq_true] at valid
  have each : ∀ rest : List RequestDependency, (∀ dependency ∈ rest, sized 1 120 dependency.step = true) →
      (rest.map dumpDependency).mapM validateDependency = .ok rest := by
    intro rest sized
    induction rest with
    | nil => rfl
    | cons dependency others ih =>
        rw [List.map_cons, List.mapM_cons, dependency_round dependency (sized dependency List.mem_cons_self),
          ih fun other member => sized other (List.mem_cons_of_mem _ member)]
        rfl
  simp only [dumpDependencies, Document.listOf, validateDependencies, items_round, each dependencies valid.1]
  exact if_pos valid.2

end Leaves

section Bind

variable (variableName : String) (value : Nat)

theorem bind_reference (name : String) : bindDocument variableName value (dumpReference name) =
    .ok (if name = variableName then .integer value else dumpReference name) := by
  by_cases here : name = variableName
  · simp [dumpReference, bindDocument, isReference, here]
  · simp [dumpReference, bindDocument, bindFields, isReference, rebindsLoop, here]

theorem bind_dumped_value (count : TaskValue) :
    bindDocument variableName value (dumpValue count) = .ok (dumpValue (count.bound (only variableName value))) := by
  cases count with
  | literal literal => rfl
  | dimension name =>
      rw [dumpValue, bind_reference]
      by_cases here : name = variableName
      · simp [here, TaskValue.bound, only, dumpValue]
      · simp [here, TaskValue.bound, only, dumpValue]

theorem bind_integers (values : List Nat) :
    bindItems variableName value (Items.ofList (values.map fun (value : Nat) => .integer (value : Int))) =
      .ok (Items.ofList (values.map fun (value : Nat) => .integer (value : Int))) := by
  induction values with
  | nil => rfl
  | cons first rest ih => simp [Items.ofList, bindItems, bindDocument, ih]

theorem bind_pool (pool : SeedPool) : bindDocument variableName value (dumpPool pool) = .ok (dumpPool pool) := by
  cases pool with
  | explicit values => simp [dumpPool, Document.listOf, bindDocument, bind_integers]
  | generated seed count => simp [dumpPool, bindDocument, bindFields, isReference, rebindsLoop]

theorem bind_dumped_seed (seed : PrefixSeed) :
    bindDocument variableName value (dumpPrefixSeed seed) = .ok (dumpPrefixSeed (seed.bound (only variableName value))) := by
  cases seed with
  | literal literal => rfl
  | pick pool =>
      have pooled := bind_pool variableName value pool
      have apart : isReference variableName (.cons "pick" (dumpPool pool) .nil) = false := by
        cases pool <;> rfl
      simp [dumpPrefixSeed, bindDocument, bindFields, rebindsLoop, apart, pooled, PrefixSeed.bound]
  | dimension name =>
      rw [dumpPrefixSeed, bind_reference]
      by_cases here : name = variableName
      · simp [here, PrefixSeed.bound, only, dumpPrefixSeed]
      · simp [here, PrefixSeed.bound, only, dumpPrefixSeed]

theorem bind_dependencies (dependencies : List RequestDependency) :
    bindDocument variableName value (dumpDependencies dependencies) = .ok (dumpDependencies dependencies) := by
  have each : bindItems variableName value (Items.ofList (dependencies.map dumpDependency)) =
      .ok (Items.ofList (dependencies.map dumpDependency)) := by
    induction dependencies with
    | nil => rfl
    | cons first rest ih =>
        simp [Items.ofList, bindItems, dumpDependency, bindDocument, bindFields, isReference, rebindsLoop, ih]
  simp [dumpDependencies, Document.listOf, bindDocument, each]

-- A bound scalar reads back as a float where the dump holds an integer.
theorem bind_scalar (scalar : DurationScalar) (valid : scalar.valid = true) :
    ∃ document, bindDocument variableName value (dumpScalar scalar) = .ok document ∧
      validateScalar document = .ok (scalar.bound (only variableName value)) ∧
      (scalar.bound (only variableName value)).valid = true := by
  cases scalar with
  | literal literal => exact ⟨_, rfl, rfl, valid⟩
  | dimension name =>
      rw [dumpScalar, bind_reference]
      refine ⟨_, rfl, ?_⟩
      by_cases here : name = variableName
      · simp [here, DurationScalar.bound, only, validateScalar, parseTaskValue, DurationScalar.valid, Nat.cast_nonneg]
      · have read := reference_round name valid
        simp only [if_neg here, DurationScalar.bound, only]
        exact ⟨congrArg (Except.map DurationScalar.dimension) read, valid⟩

theorem bind_dumped_duration (duration : TaskDuration) (valid : duration.value.valid = true) :
    ∃ document, bindDocument variableName value (dumpDuration duration) = .ok document ∧
      validateDuration document = .ok (duration.bound (only variableName value)) := by
  obtain ⟨scalar, unit⟩ := duration
  obtain ⟨document, bound, read, fits⟩ := bind_scalar variableName value scalar valid
  refine ⟨.record [("value", document), ("unit", .text unit.text)], ?_, duration_read document _ unit read fits⟩
  simp [dumpDuration, bindDocument, bindFields, isReference, rebindsLoop, bound]

theorem value_bound_valid (bindings : Bindings) (count : TaskValue) (valid : count.valid = true) :
    (count.bound bindings).valid = true := by
  cases count with
  | literal literal => rfl
  | dimension name => cases found : bindings name <;> simp [TaskValue.bound, found, TaskValue.valid] at valid ⊢; exact valid

theorem seed_bound_valid (small : value < 2 ^ 64) (seed : PrefixSeed) (valid : seed.valid = true) :
    (seed.bound (only variableName value)).valid = true := by
  cases seed with
  | literal literal => exact valid
  | pick pool => exact valid
  | dimension name =>
      by_cases here : name = variableName
      · simpa [PrefixSeed.bound, only, here, PrefixSeed.valid] using small
      · simpa [PrefixSeed.bound, only, here, PrefixSeed.valid] using valid

end Bind

section Nodes

variable (variableName : String) (value : Nat)

theorem role_text (role : Option String) (valid : role.all (sized 1 64) = true) (text : String) (here : role = some text) :
    validateText 64 (.text text) = .ok text := by
  subst here
  exact sized_text 64 text valid

theorem bind_invoke (config : InvokeConfig) (valid : config.valid = true) :
    ∃ fields, bindDocument variableName value config.dump = .ok (.object fields) ∧
      InvokeConfig.validate fields = .ok (config.bound (only variableName value)) := by
  simp only [InvokeConfig.valid, Bool.and_eq_true] at valid
  obtain ⟨⟨⟨⟨name, payload⟩, role⟩, after⟩, depends⟩ := valid
  have listed := bind_dependencies variableName value config.dependsOn
  have reread := dependencies_round config.dependsOn depends
  have roles := role_text config.role role
  obtain ⟨document, bound, read⟩ := bind_dumped_duration variableName value config.after after
  obtain ⟨name_, payload_, role_, after_, dependsOn_⟩ := config
  refine ⟨.ofList ([("depends_on", dumpDependencies dependsOn_), ("name", .text name_), ("payload", .text payload_)] ++
    Document.optional "role" (role_.map .text) ++ [("after", document)]), ?_, ?_⟩
  · cases role_ <;> simp [InvokeConfig.dump, bindDocument, bindFields, isReference, rebindsLoop, listed, bound]
  · cases role_ <;> simp [InvokeConfig.validate, forbidExtra, required, defaulted, nullable, reread, read, roles,
      sized_text 64 _ name, sized_text 64 _ payload, InvokeConfig.bound]

theorem nullable_seed (seed : Option PrefixSeed) (fields : Fields)
    (fits : ∀ inner, seed = some inner → validatePrefixSeed (dumpPrefixSeed inner) = .ok inner)
    (read : fields.get "prefix_seed" = seed.map dumpPrefixSeed) :
    nullable "prefix_seed" validatePrefixSeed fields = .ok seed := by
  cases seed with
  | none => simp [nullable, read]
  | some inner =>
      have validated := fits inner rfl
      cases inner <;> simp [nullable, read, dumpPrefixSeed, dumpReference] at validated ⊢ <;> simp [validated]

theorem bind_run (small : value < 2 ^ 64) (config : RunConfig) (valid : config.valid = true) :
    ∃ fields, bindDocument variableName value config.dump = .ok (.object fields) ∧
      RunConfig.validate fields = .ok (config.bound (only variableName value)) := by
  simp only [RunConfig.valid, Bool.and_eq_true] at valid
  obtain ⟨⟨⟨⟨⟨name, role⟩, after⟩, depends⟩, seeds⟩, waits⟩ := valid
  have listed := bind_dependencies variableName value config.dependsOn
  have reread := dependencies_round config.dependsOn depends
  have roles := role_text config.role role
  have seeded := bind_dumped_seed variableName value
  have fits (inner : PrefixSeed) (here : config.prefixSeed.map (PrefixSeed.bound (only variableName value)) = some inner) :
      validatePrefixSeed (dumpPrefixSeed inner) = .ok inner := by
    obtain ⟨seed, found, rfl⟩ := Option.map_eq_some_iff.mp here
    apply seed_round
    apply seed_bound_valid variableName value small
    simpa [found] using seeds
  have single : (config.dependsOn.any (·.reuseMessages)) = false := by
    simpa using waits
  obtain ⟨document, bound, read⟩ := bind_dumped_duration variableName value config.after after
  obtain ⟨name_, role_, after_, dependsOn_, prefixSeed_⟩ := config
  let fields := Fields.ofList ([("depends_on", dumpDependencies dependsOn_), ("name", .text name_)] ++
    Document.optional "role" (role_.map .text) ++ [("after", document)] ++
    Document.optional "prefix_seed" ((prefixSeed_.map (PrefixSeed.bound (only variableName value))).map dumpPrefixSeed))
  have allowed : forbidExtra ["depends_on", "name", "role", "after", "prefix_seed"] fields = .ok () := by
    cases role_ <;> cases prefixSeed_ <;> simp [fields, forbidExtra]
  have dependsRead : defaulted "depends_on" validateDependencies [] fields = .ok dependsOn_ := by
    simp [fields, defaulted, reread]
  have nameRead : required "name" (validateText 64) fields = .ok name_ := by
    simp [fields, required, sized_text 64 name_ name]
  have roleRead : nullable "role" (validateText 64) fields = .ok role_ := by
    cases role_ <;> cases prefixSeed_ <;> simp [fields, nullable, roles]
  have afterRead : defaulted "after" validateDuration .zero fields = .ok (after_.bound (only variableName value)) := by
    cases role_ <;> simp [fields, defaulted, read]
  have seedRead := nullable_seed _ fields fits (by cases role_ <;> cases prefixSeed_ <;> simp [fields])
  refine ⟨fields, ?_, ?_⟩
  · cases role_ <;> cases prefixSeed_ <;>
      simp [fields, RunConfig.dump, bindDocument, bindFields, isReference, rebindsLoop, listed, bound, seeded]
  · rw [RunConfig.validate, allowed, dependsRead, nameRead, roleRead, afterRead, seedRead]
    simp only [bind, Except.bind, RunConfig.bound]
    exact if_neg (by simp [single])

variable (config : Fields)

theorem invoke_read (invoke : InvokeConfig) (read : InvokeConfig.validate config = .ok invoke) :
    validateNode (.record [("invoke", .object config)]) = .ok (.invokeNode invoke) := by
  simp [validateNode, validatePrimitives, read]

theorem run_read (run : RunConfig) (read : RunConfig.validate config = .ok run) :
    validateNode (.record [("run", .object config)]) = .ok (.runNode run) := by
  simp [validateNode, validatePrimitives, read]

variable (node : TaskNodeSpec)

theorem repeat_read (read : validateRepeat config (childNode config) = .ok node) :
    validateNode (.record [("repeat", .object config)]) = .ok node := by
  simp [validateNode, validatePrimitives, read]

theorem parallel_read (read : validateParallel config (childNodes "branches" config) (childNode config) = .ok node) :
    validateNode (.record [("parallel", .object config)]) = .ok node := by
  simp [validateNode, validatePrimitives, read]

theorem sequence_read (read : validateSequence config (childNodes "steps" config) = .ok node) :
    validateNode (.record [("sequence", .object config)]) = .ok node := by
  simp [validateNode, validatePrimitives, read]

theorem for_each_read (read : validateForEach config (childNode config) = .ok node) :
    validateNode (.record [("for_each", .object config)]) = .ok node := by
  simp [validateNode, validatePrimitives, read]

theorem variable_round (name : String) (shaped : variablePattern name = true) (short : name.length ≤ 64) :
    validateVariable (.text name) = .ok name := by
  rw [validateVariable, if_neg (by omega), if_pos shaped]

theorem listed_all (rest : List TaskNodeSpec) (few : rest.length < 100) : listed 100 (node :: rest) = .ok (node, rest) := by
  rw [listed, if_neg (by rw [List.length_cons]; omega)]

theorem all_bound_length (bindings : Bindings) (nodes : List TaskNodeSpec) :
    (allBound bindings nodes).length = nodes.length := by
  rw [all_bound_map, List.length_map]

def Binds (node : TaskNodeSpec) : Prop :=
  if variableName ∈ node.loopVariables then
    bindDocument variableName value (dumpNode node) = .error (shadowedVariable variableName)
  else
    ∃ fields, bindDocument variableName value (dumpNode node) = .ok (.object fields) ∧
      validateNode (.object fields) = .ok (node.bound (only variableName value))

def AllBind (nodes : List TaskNodeSpec) : Prop :=
  if variableName ∈ allLoopVariables nodes then
    bindItems variableName value (dumpNodes nodes) = .error (shadowedVariable variableName)
  else
    ∃ items, bindItems variableName value (dumpNodes nodes) = .ok items ∧
      validateNodes items = .ok (allBound (only variableName value) nodes)

theorem binds_repeat (name : String) (count : TaskValue) (every : TaskDuration) (node : TaskNodeSpec)
    (valid : (TaskNodeSpec.repeatNode name count every node).valid = true) (child : Binds variableName value node) :
    Binds variableName value (.repeatNode name count every node) := by
  simp only [TaskNodeSpec.valid, Bool.and_eq_true] at valid
  obtain ⟨⟨⟨named, counted⟩, delayed⟩, _⟩ := valid
  obtain ⟨document, bound, read⟩ := bind_dumped_duration variableName value every delayed
  have recount := value_round _ (value_bound_valid (only variableName value) count counted)
  rw [Binds, TaskNodeSpec.loopVariables]
  by_cases inside : variableName ∈ node.loopVariables
  · rw [Binds, if_pos inside] at child
    rw [if_pos inside]
    simp [dumpNode, bindDocument, bindFields, isReference, rebindsLoop, bind_dumped_value, bound, child]
  · rw [Binds, if_neg inside] at child
    rw [if_neg inside]
    obtain ⟨fields, dumped, validated⟩ := child
    refine ⟨.ofList [("repeat", .record [("name", .text name), ("count", dumpValue (count.bound (only variableName value))),
      ("every", document), ("node", .object fields)])], ?_, repeat_read _ _ ?_⟩
    · simp [dumpNode, bindDocument, bindFields, isReference, rebindsLoop, bind_dumped_value, bound, dumped]
    · simp [validateRepeat, childNode, forbidExtra, required, defaulted, sized_text 64 name named, recount, read, validated,
        TaskNodeSpec.bound]

theorem other_child (name key : String) (document : Document) (rest : Fields) (other : key ≠ name) :
    childNodes name (.cons key document rest) = childNodes name rest := by
  cases document <;> simp [childNodes, other]

theorem all_bind_cons (node : TaskNodeSpec) (nodes : List TaskNodeSpec) (first : Binds variableName value node)
    (rest : AllBind variableName value nodes) : AllBind variableName value (node :: nodes) := by
  rw [AllBind, allLoopVariables]
  by_cases here : variableName ∈ node.loopVariables
  · rw [Binds, if_pos here] at first
    rw [if_pos (List.mem_append_left _ here)]
    simp [dumpNodes, bindItems, first]
  · rw [Binds, if_neg here] at first
    obtain ⟨fields, dumped, validated⟩ := first
    by_cases there : variableName ∈ allLoopVariables nodes
    · rw [AllBind, if_pos there] at rest
      rw [if_pos (List.mem_append_right _ there)]
      simp [dumpNodes, bindItems, dumped, rest]
    · rw [AllBind, if_neg there] at rest
      rw [if_neg fun held => (List.mem_append.mp held).elim here there]
      obtain ⟨items, itemsDumped, itemsValidated⟩ := rest
      refine ⟨.cons (.object fields) items, ?_, ?_⟩
      · simp [dumpNodes, bindItems, dumped, itemsDumped]
      · simp [validateNodes, validated, itemsValidated, allBound]

theorem binds_branches (name : String) (after : TaskDuration) (branch : TaskNodeSpec) (branches : List TaskNodeSpec)
    (valid : (TaskNodeSpec.parallelNode name after branch branches).valid = true)
    (all : AllBind variableName value (branch :: branches)) :
    Binds variableName value (.parallelNode name after branch branches) := by
  simp only [TaskNodeSpec.valid, Bool.and_eq_true, decide_eq_true_eq] at valid
  obtain ⟨⟨⟨⟨named, delayed⟩, _⟩, few⟩, _⟩ := valid
  obtain ⟨document, bound, read⟩ := bind_dumped_duration variableName value after delayed
  rw [AllBind, allLoopVariables, dumpNodes] at all
  rw [Binds, TaskNodeSpec.loopVariables]
  by_cases here : variableName ∈ branch.loopVariables ++ allLoopVariables branches
  · rw [if_pos here] at all ⊢
    simp [dumpNode, bindDocument, bindFields, isReference, rebindsLoop, bound, all]
  · rw [if_neg here] at all ⊢
    obtain ⟨items, dumped, validated⟩ := all
    refine ⟨.ofList [("parallel", .record [("name", .text name), ("after", document), ("branches", .list items)])], ?_,
      parallel_read _ _ ?_⟩
    · simp [dumpNode, bindDocument, bindFields, isReference, rebindsLoop, bound, dumped]
    · have room := listed_all (branch.bound (only variableName value)) (allBound (only variableName value) branches)
        ((all_bound_length _ _).trans_lt few)
      simp [validateParallel, other_child, childNodes, childNode, present, forbidExtra, required, defaulted, nullable,
        sized_text 64 name named, read, validated, allBound, room, TaskNodeSpec.bound]

theorem binds_copies (name : String) (after : TaskDuration) (count : TaskValue) (node : TaskNodeSpec)
    (valid : (TaskNodeSpec.parallelCount name after count node).valid = true) (child : Binds variableName value node) :
    Binds variableName value (.parallelCount name after count node) := by
  simp only [TaskNodeSpec.valid, Bool.and_eq_true] at valid
  obtain ⟨⟨⟨named, delayed⟩, counted⟩, _⟩ := valid
  obtain ⟨document, bound, read⟩ := bind_dumped_duration variableName value after delayed
  rw [Binds, TaskNodeSpec.loopVariables]
  by_cases inside : variableName ∈ node.loopVariables
  · rw [Binds, if_pos inside] at child
    rw [if_pos inside]
    simp [dumpNode, bindDocument, bindFields, isReference, rebindsLoop, bind_dumped_value, bound, child]
  · rw [Binds, if_neg inside] at child
    rw [if_neg inside]
    obtain ⟨fields, dumped, validated⟩ := child
    let config := Fields.ofList [("name", .text name), ("after", document),
      ("count", dumpValue (count.bound (only variableName value))), ("node", .object fields)]
    have recount : nullable "count" validateTaskValue config = .ok (some (count.bound (only variableName value))) := by
      have reread := value_round _ (value_bound_valid (only variableName value) count counted)
      cases again : count.bound (only variableName value) <;> rw [again] at reread <;>
        simp [config, nullable, again, dumpValue, dumpReference] at reread ⊢ <;> simp [reread]
    have noBranches : childNodes "branches" config = none := by
      simp [config, other_child, childNodes]
    have single : childNode config = some (.ok (node.bound (only variableName value))) := by
      simp [config, childNode, validated]
    refine ⟨.ofList [("parallel", .object config)], ?_, parallel_read _ _ ?_⟩
    · simp [config, dumpNode, bindDocument, bindFields, isReference, rebindsLoop, bind_dumped_value, bound, dumped]
    · have allowed : forbidExtra ["name", "after", "branches", "count", "node"] config = .ok () := by
        simp [config, forbidExtra]
      have nameRead : required "name" (validateText 64) config = .ok name := by
        simp [config, required, sized_text 64 name named]
      have afterRead : defaulted "after" validateDuration .zero config = .ok (after.bound (only variableName value)) := by
        simp [config, defaulted, read]
      rw [validateParallel, allowed, nameRead, afterRead, recount, noBranches, single]
      simp [config, present, TaskNodeSpec.bound]

theorem binds_sequence (name : String) (after : TaskDuration) (step : TaskNodeSpec) (steps : List TaskNodeSpec)
    (valid : (TaskNodeSpec.sequenceNode name after step steps).valid = true) (all : AllBind variableName value (step :: steps)) :
    Binds variableName value (.sequenceNode name after step steps) := by
  simp only [TaskNodeSpec.valid, Bool.and_eq_true, decide_eq_true_eq] at valid
  obtain ⟨⟨⟨⟨named, delayed⟩, _⟩, few⟩, _⟩ := valid
  obtain ⟨document, bound, read⟩ := bind_dumped_duration variableName value after delayed
  rw [AllBind, allLoopVariables, dumpNodes] at all
  rw [Binds, TaskNodeSpec.loopVariables]
  by_cases here : variableName ∈ step.loopVariables ++ allLoopVariables steps
  · rw [if_pos here] at all ⊢
    simp [dumpNode, bindDocument, bindFields, isReference, rebindsLoop, bound, all]
  · rw [if_neg here] at all ⊢
    obtain ⟨items, dumped, validated⟩ := all
    refine ⟨.ofList [("sequence", .record [("name", .text name), ("after", document), ("steps", .list items)])], ?_,
      sequence_read _ _ ?_⟩
    · simp [dumpNode, bindDocument, bindFields, isReference, rebindsLoop, bound, dumped]
    · have room := listed_all (step.bound (only variableName value)) (allBound (only variableName value) steps)
        ((all_bound_length _ _).trans_lt few)
      simp [validateSequence, other_child, childNodes, forbidExtra, required, defaulted, sized_text 64 name named, read,
        validated, allBound, room, TaskNodeSpec.bound]

theorem binds_for_each (config : ForEachConfig) (node : TaskNodeSpec)
    (valid : (TaskNodeSpec.forEachNode config node).valid = true) (child : Binds variableName value node) :
    Binds variableName value (.forEachNode config node) := by
  simp only [TaskNodeSpec.valid, ForEachConfig.valid, Bool.and_eq_true, decide_eq_true_eq] at valid
  obtain ⟨⟨⟨⟨⟨⟨⟨named, shaped⟩, short⟩, pooled⟩, wide⟩, narrow⟩, delayed⟩, _⟩ := valid
  obtain ⟨document, bound, read⟩ := bind_dumped_duration variableName value config.after delayed
  have values := bind_pool variableName value config.values
  rw [Binds, TaskNodeSpec.loopVariables]
  by_cases own : config.variableName = variableName
  · rw [if_pos (own ▸ List.mem_cons_self)]
    simp [dumpNode, bindDocument, isReference, rebindsLoop, own]
  by_cases inside : variableName ∈ node.loopVariables
  · rw [Binds, if_pos inside] at child
    rw [if_pos (List.mem_cons_of_mem _ inside)]
    simp [dumpNode, bindDocument, bindFields, isReference, rebindsLoop, own, bound, values, child]
  · rw [Binds, if_neg inside] at child
    rw [if_neg fun held => (List.mem_cons.mp held).elim (fun same => own same.symm) inside]
    obtain ⟨fields, dumped, validated⟩ := child
    refine ⟨.ofList [("for_each", .record [("name", .text config.name), ("variable", .text config.variableName),
      ("values", dumpPool config.values), ("parallelism", .integer config.parallelism), ("after", document),
      ("node", .object fields)])], ?_, for_each_read _ _ ?_⟩
    · simp [dumpNode, bindDocument, bindFields, isReference, rebindsLoop, own, bound, values, dumped]
    · simp [validateForEach, ForEachConfig.validate, childNode, forbidExtra, required, defaulted,
        sized_text 64 _ named, variable_round _ shaped short, pool_round _ _ pooled,
        counted_integer 1 10000 _ wide narrow, read, validated, TaskNodeSpec.bound, ForEachConfig.bound]

mutual
theorem binds_node (small : value < 2 ^ 64) (node : TaskNodeSpec) (valid : node.valid = true) :
    Binds variableName value node := by
  cases node with
  | invokeNode config =>
      obtain ⟨fields, dumped, validated⟩ := bind_invoke variableName value config valid
      rw [Binds, if_neg (by simp [TaskNodeSpec.loopVariables])]
      refine ⟨.ofList [("invoke", .object fields)], ?_, invoke_read _ _ validated⟩
      have single : isReference variableName (.cons "invoke" config.dump .nil) = false := rfl
      simp [dumpNode, bindDocument, bindFields, rebindsLoop, single, dumped]
  | runNode config =>
      obtain ⟨fields, dumped, validated⟩ := bind_run variableName value small config valid
      rw [Binds, if_neg (by simp [TaskNodeSpec.loopVariables])]
      refine ⟨.ofList [("run", .object fields)], ?_, run_read _ _ validated⟩
      have single : isReference variableName (.cons "run" config.dump .nil) = false := rfl
      simp [dumpNode, bindDocument, bindFields, rebindsLoop, single, dumped]
  | repeatNode name count every node =>
      have inner := valid
      simp only [TaskNodeSpec.valid, Bool.and_eq_true] at inner
      exact binds_repeat variableName value name count every node valid (binds_node small node inner.2)
  | parallelNode name after branch branches =>
      have inner := valid
      simp only [TaskNodeSpec.valid, Bool.and_eq_true] at inner
      exact binds_branches variableName value name after branch branches valid
        (all_bind_cons variableName value branch branches (binds_node small branch inner.1.1.2) (bind_all_nodes small branches inner.2))
  | parallelCount name after count node =>
      have inner := valid
      simp only [TaskNodeSpec.valid, Bool.and_eq_true] at inner
      exact binds_copies variableName value name after count node valid (binds_node small node inner.2)
  | sequenceNode name after step steps =>
      have inner := valid
      simp only [TaskNodeSpec.valid, Bool.and_eq_true] at inner
      exact binds_sequence variableName value name after step steps valid
        (all_bind_cons variableName value step steps (binds_node small step inner.1.1.2) (bind_all_nodes small steps inner.2))
  | forEachNode config node =>
      have inner := valid
      simp only [TaskNodeSpec.valid, Bool.and_eq_true] at inner
      exact binds_for_each variableName value config node valid (binds_node small node inner.2)
theorem bind_all_nodes (small : value < 2 ^ 64) (nodes : List TaskNodeSpec) (valid : allValid nodes = true) :
    AllBind variableName value nodes := by
  cases nodes with
  | nil =>
      rw [AllBind, if_neg (by simp [allLoopVariables])]
      exact ⟨.nil, rfl, rfl⟩
  | cons node rest =>
      simp only [allValid, Bool.and_eq_true] at valid
      exact all_bind_cons variableName value node rest (binds_node small node valid.1) (bind_all_nodes small rest valid.2)
end

end Nodes

section Values

theorem next_free_small (used : List Nat) (attempts candidate : Nat) (small : candidate < 2 ^ 64) :
    nextFree used attempts candidate < 2 ^ 64 := by
  induction attempts generalizing candidate with
  | zero => exact small
  | succ attempts ih =>
      rw [nextFree]
      by_cases taken : candidate ∈ used
      · rw [if_pos taken]
        exact ih _ (Nat.mod_lt _ (by decide))
      · rw [if_neg taken]
        exact small

theorem first_eight_small (digest : Fin (2 ^ 256)) : firstEight digest < 2 ^ 64 :=
  Nat.div_lt_of_lt_mul digest.isLt

theorem pool_values_small (sha256 : Sha256) (pool : SeedPool) (valid : pool.valid = true) (value : Nat)
    (member : value ∈ pool.values sha256) : value < 2 ^ 64 := by
  cases pool with
  | explicit values =>
      simp only [SeedPool.valid, Bool.and_eq_true, List.all_eq_true, decide_eq_true_eq] at valid
      exact valid.1.2 value member
  | generated seed count =>
      have all (indices values : List Nat) (small : ∀ value ∈ values, value < 2 ^ 64) : ∀ value ∈ indices.foldl (fun values index =>
          values ++ [nextFree values values.length (firstEight (sha256 s!"prefix-pool-v1\x00{seed}\x00{index}"))]) values,
          value < 2 ^ 64 := by
        induction indices generalizing values with
        | nil => exact small
        | cons index rest ih =>
            apply ih
            intro value held
            cases List.mem_append.mp held with
            | inl old => exact small value old
            | inr fresh =>
                rw [List.mem_singleton.mp fresh]
                exact next_free_small _ _ _ (first_eight_small _)
      exact all (List.range count) [] (by simp) value member

end Values

def documentMember (config : ForEachConfig) (template : TaskNodeSpec) (value : Nat) : Except String TaskNodeSpec := do
  let document ← bindDocument config.variableName value (dumpNode template)
  validateNode document

theorem document_member (config : ForEachConfig) (template : TaskNodeSpec) (value : Nat) (small : value < 2 ^ 64)
    (valid : template.valid = true) :
    documentMember config template value = bindLoopValue config.variableName value template := by
  have binds := binds_node config.variableName value small template valid
  rw [documentMember, bind_loop_value]
  by_cases shadowed : config.variableName ∈ template.loopVariables
  · rw [Binds, if_pos shadowed] at binds
    rw [if_pos shadowed, binds]
    rfl
  · rw [Binds, if_neg shadowed] at binds
    obtain ⟨fields, dumped, validated⟩ := binds
    rw [if_neg shadowed, dumped]
    exact validated

end LlmperfOrchestrator.Compiler

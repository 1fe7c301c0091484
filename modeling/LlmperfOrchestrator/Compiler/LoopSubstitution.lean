import LlmperfOrchestrator.Compiler.Expansion

set_option autoImplicit false

namespace LlmperfOrchestrator.Compiler

open Tables

section Positions

mutual
def TaskNodeSpec.loopVariables : TaskNodeSpec → List String
  | .invokeNode _ => []
  | .runNode _ => []
  | .repeatNode _ _ _ node => node.loopVariables
  | .parallelNode _ _ branch branches => branch.loopVariables ++ allLoopVariables branches
  | .parallelCount _ _ _ node => node.loopVariables
  | .sequenceNode _ _ step steps => step.loopVariables ++ allLoopVariables steps
  | .forEachNode config node => config.variableName :: node.loopVariables
def allLoopVariables : List TaskNodeSpec → List String
  | [] => []
  | node :: rest => node.loopVariables ++ allLoopVariables rest
end

mutual
def TaskNodeSpec.texts : TaskNodeSpec → List String
  | .invokeNode config =>
      config.dependsOn.map (·.step) ++ [config.name, config.payload] ++ config.role.toList
  | .runNode config => config.dependsOn.map (·.step) ++ [config.name] ++ config.role.toList
  | .repeatNode name _ _ node => name :: node.texts
  | .parallelNode name _ branch branches => name :: (branch.texts ++ allTexts branches)
  | .parallelCount name _ _ node => name :: node.texts
  | .sequenceNode name _ step steps => name :: (step.texts ++ allTexts steps)
  | .forEachNode config node => config.name :: config.variableName :: node.texts
def allTexts : List TaskNodeSpec → List String
  | [] => []
  | node :: rest => node.texts ++ allTexts rest
end

end Positions

-- What expansion means where loop variables are dimensions of their own: the
-- template stays as it is written and only the environment grows. Hashes keep
-- reading the coordinate of the instance.

section Within

variable (sha256 : Sha256) (context : InstanceContext) (instanceKey : String)

def resolveSeedWithin (environment : Dimensions) (nodeId : NodeId) : PrefixSeed → Except String Nat
  | .pick pool => context.resolvePrefixSeed sha256 nodeId (.pick pool)
  | .literal seed => { context with dimensions := environment }.resolveSeedValue (.literal seed)
  | .dimension name => { context with dimensions := environment }.resolveSeedValue (.dimension name)

def resolveRunSeedWithin (environment : Dimensions) (nodeId : NodeId) : Option PrefixSeed → Except String (Option Nat)
  | none => .ok none
  | some seed => (resolveSeedWithin sha256 context environment nodeId seed).map some

def InvokeConfig.expandWithin (environment : Dimensions) (config : InvokeConfig) : Expand :=
  fun builder incoming path inherited => do
    let nodeId := qualifiedName path config.name
    let ownDelay ← config.after.resolve environment
    let builder ← builder.emit sha256 context instanceKey
      { nodeId := nodeId, dependencies := (incoming ++ dependencyReferences path config.dependsOn).eraseDups,
        afterSeconds := inherited + ownDelay, role := config.effectiveRole, payloadId := some config.payload,
        messageSources := messageReferences path config.dependsOn, executionKind := .atomic, prefixSeed := none }
    .ok (builder, [nodeId])

def RunConfig.expandWithin (environment : Dimensions) (config : RunConfig) : Expand :=
  fun builder incoming path inherited => do
    let nodeId := qualifiedName path config.name
    let ownDelay ← config.after.resolve environment
    let prefixSeed ← resolveRunSeedWithin sha256 context environment nodeId config.prefixSeed
    let builder ← builder.emit sha256 context instanceKey
      { nodeId := nodeId, dependencies := (incoming ++ dependencyReferences path config.dependsOn).eraseDups,
        afterSeconds := inherited + ownDelay, role := config.role.getD config.name, payloadId := none,
        messageSources := [], executionKind := .batch, prefixSeed := prefixSeed }
    .ok (builder, [nodeId])

def expandLaneWithin (environment : Dimensions) (expand : Nat → Expand) (lane : String × List (String × Nat)) : Expand :=
  expandSequence environment lane.1 .zero
    (lane.2.map fun member => expandSequence environment member.1 .zero [expand member.2])

def expandForEachWithin (environment : Dimensions) (config : ForEachConfig) (template : TaskNodeSpec)
    (expand : Nat → Expand) : Expand := fun builder incoming path inherited => do
  let laneDelay ← config.after.resolve environment
  if config.parallelism = 0 ∨ (config.values.values sha256).length = 0 then
    .error "integer division or modulo by zero"
  else if config.variableName ∈ template.loopVariables then .error (shadowedVariable config.variableName)
  else
    expandBranches ((expandedLanes sha256 config).map fun lane =>
      (expandLaneWithin environment expand lane, path ++ [config.name])) incoming (inherited + laneDelay) builder

def expandWithin : Nat → Dimensions → TaskNodeSpec → Expand
  | 0, _, _ => fun _ _ _ _ => .error depthExceeded
  | _ + 1, environment, .invokeNode config => config.expandWithin sha256 context instanceKey environment
  | _ + 1, environment, .runNode config => config.expandWithin sha256 context instanceKey environment
  | levels + 1, environment, .repeatNode name count every node =>
      expandRepeat environment name count every (expandWithin levels environment node)
  | levels + 1, environment, .parallelNode name after branch branches =>
      expandParallel environment name after ((branch :: branches).map (expandWithin levels environment))
  | levels + 1, environment, .parallelCount name after count node =>
      expandParallelCount environment name after count (expandWithin levels environment node)
  | levels + 1, environment, .sequenceNode name after step steps =>
      expandSequence environment name after ((step :: steps).map (expandWithin levels environment))
  | levels + 1, environment, .forEachNode config template =>
      expandForEachWithin sha256 environment config template fun value =>
        expandWithin levels (Dict.put config.variableName (value : Int) environment) template

end Within

section

abbrev Bindings := String → Option Nat

def only (variableName : String) (value : Nat) : Bindings := fun name => if name = variableName then some value else none

def also (first rest : Bindings) : Bindings := fun name => (first name).or (rest name)

def TaskValue.bound (bindings : Bindings) : TaskValue → TaskValue
  | .literal value => .literal value
  | .dimension name =>
      match bindings name with
      | some value => .literal value
      | none => .dimension name

def DurationScalar.bound (bindings : Bindings) : DurationScalar → DurationScalar
  | .literal value => .literal value
  | .dimension name =>
      match bindings name with
      | some value => .literal value
      | none => .dimension name

def TaskDuration.bound (bindings : Bindings) (duration : TaskDuration) : TaskDuration :=
  { duration with value := duration.value.bound bindings }

def PrefixSeed.bound (bindings : Bindings) : PrefixSeed → PrefixSeed
  | .literal seed => .literal seed
  | .pick pool => .pick pool
  | .dimension name =>
      match bindings name with
      | some value => .literal value
      | none => .dimension name

def InvokeConfig.bound (bindings : Bindings) (config : InvokeConfig) : InvokeConfig :=
  { config with after := config.after.bound bindings }

def RunConfig.bound (bindings : Bindings) (config : RunConfig) : RunConfig :=
  { config with after := config.after.bound bindings, prefixSeed := config.prefixSeed.map (PrefixSeed.bound bindings) }

def ForEachConfig.bound (bindings : Bindings) (config : ForEachConfig) : ForEachConfig :=
  { config with after := config.after.bound bindings }

mutual
def TaskNodeSpec.bound (bindings : Bindings) : TaskNodeSpec → TaskNodeSpec
  | .invokeNode config => .invokeNode (config.bound bindings)
  | .runNode config => .runNode (config.bound bindings)
  | .repeatNode name count every node =>
      .repeatNode name (count.bound bindings) (every.bound bindings) (node.bound bindings)
  | .parallelNode name after branch branches =>
      .parallelNode name (after.bound bindings) (branch.bound bindings) (allBound bindings branches)
  | .parallelCount name after count node =>
      .parallelCount name (after.bound bindings) (count.bound bindings) (node.bound bindings)
  | .sequenceNode name after step steps =>
      .sequenceNode name (after.bound bindings) (step.bound bindings) (allBound bindings steps)
  | .forEachNode config node => .forEachNode (config.bound bindings) (node.bound bindings)
def allBound (bindings : Bindings) : List TaskNodeSpec → List TaskNodeSpec
  | [] => []
  | node :: rest => node.bound bindings :: allBound bindings rest
end

section Leaves

variable (variableName : String) (value : Nat)

theorem bind_value (count : TaskValue) : bindValue variableName value count = count.bound (only variableName value) := by
  cases count with
  | literal literal => rfl
  | dimension name =>
      by_cases here : name = variableName
      · simp [bindValue, TaskValue.bound, only, here]
      · simp [bindValue, TaskValue.bound, only, here]

theorem bind_duration (duration : TaskDuration) :
    bindDuration variableName value duration = duration.bound (only variableName value) := by
  obtain ⟨scalar, unit⟩ := duration
  cases scalar with
  | literal literal => rfl
  | dimension name =>
      by_cases here : name = variableName
      · simp [bindDuration, TaskDuration.bound, DurationScalar.bound, only, here]
      · simp [bindDuration, TaskDuration.bound, DurationScalar.bound, only, here]

theorem bind_prefix_seed (seed : PrefixSeed) :
    bindPrefixSeed variableName value seed = seed.bound (only variableName value) := by
  cases seed with
  | literal literal => rfl
  | pick pool => rfl
  | dimension name =>
      by_cases here : name = variableName
      · simp [bindPrefixSeed, PrefixSeed.bound, only, here]
      · simp [bindPrefixSeed, PrefixSeed.bound, only, here]

end Leaves

mutual
theorem bind_loop_value (variableName : String) (value : Nat) (node : TaskNodeSpec) :
    bindLoopValue variableName value node =
      if variableName ∈ node.loopVariables then .error (shadowedVariable variableName)
      else .ok (node.bound (only variableName value)) := by
  cases node with
  | invokeNode config =>
      simp [bindLoopValue, TaskNodeSpec.loopVariables, TaskNodeSpec.bound, InvokeConfig.bound, bind_duration]
  | runNode config =>
      have seeds : bindPrefixSeed variableName value = PrefixSeed.bound (only variableName value) :=
        funext (bind_prefix_seed variableName value)
      simp [bindLoopValue, TaskNodeSpec.loopVariables, TaskNodeSpec.bound, RunConfig.bound, bind_duration, seeds]
  | repeatNode name count every node =>
      rw [bindLoopValue, bind_loop_value variableName value node, TaskNodeSpec.loopVariables]
      by_cases inside : variableName ∈ node.loopVariables
      · rw [if_pos inside, if_pos inside]
        rfl
      · rw [if_neg inside, if_neg inside, bind_value, bind_duration]
        rfl
  | parallelNode name after branch branches =>
      rw [bindLoopValue, bind_loop_value variableName value branch, bind_loop_values variableName value branches,
        TaskNodeSpec.loopVariables, bind_duration]
      by_cases first : variableName ∈ branch.loopVariables
      · rw [if_pos first, if_pos (List.mem_append_left _ first)]
        rfl
      · by_cases later : variableName ∈ allLoopVariables branches
        · rw [if_neg first, if_pos later, if_pos (List.mem_append_right _ later)]
          rfl
        · rw [if_neg first, if_neg later, if_neg fun held => (List.mem_append.mp held).elim first later]
          rfl
  | parallelCount name after count node =>
      rw [bindLoopValue, bind_loop_value variableName value node, TaskNodeSpec.loopVariables]
      by_cases inside : variableName ∈ node.loopVariables
      · rw [if_pos inside, if_pos inside]
        rfl
      · rw [if_neg inside, if_neg inside, bind_value, bind_duration]
        rfl
  | sequenceNode name after step steps =>
      rw [bindLoopValue, bind_loop_value variableName value step, bind_loop_values variableName value steps,
        TaskNodeSpec.loopVariables, bind_duration]
      by_cases first : variableName ∈ step.loopVariables
      · rw [if_pos first, if_pos (List.mem_append_left _ first)]
        rfl
      · by_cases later : variableName ∈ allLoopVariables steps
        · rw [if_neg first, if_pos later, if_pos (List.mem_append_right _ later)]
          rfl
        · rw [if_neg first, if_neg later, if_neg fun held => (List.mem_append.mp held).elim first later]
          rfl
  | forEachNode config node =>
      rw [bindLoopValue, bind_loop_value variableName value node, TaskNodeSpec.loopVariables, bind_duration]
      by_cases own : config.variableName = variableName
      · rw [if_pos own, if_pos (own ▸ List.mem_cons_self)]
      · rw [if_neg own]
        by_cases inside : variableName ∈ node.loopVariables
        · rw [if_pos inside, if_pos (List.mem_cons_of_mem _ inside)]
          rfl
        · rw [if_neg inside, if_neg fun held => (List.mem_cons.mp held).elim (fun same => own same.symm) inside]
          rfl
theorem bind_loop_values (variableName : String) (value : Nat) (nodes : List TaskNodeSpec) :
    bindLoopValues variableName value nodes =
      if variableName ∈ allLoopVariables nodes then .error (shadowedVariable variableName)
      else .ok (allBound (only variableName value) nodes) := by
  cases nodes with
  | nil => rfl
  | cons node rest =>
      rw [bindLoopValues, bind_loop_value variableName value node, bind_loop_values variableName value rest,
        allLoopVariables]
      by_cases first : variableName ∈ node.loopVariables
      · rw [if_pos first, if_pos (List.mem_append_left _ first)]
        rfl
      · by_cases later : variableName ∈ allLoopVariables rest
        · rw [if_neg first, if_pos later, if_pos (List.mem_append_right _ later)]
          rfl
        · rw [if_neg first, if_neg later, if_neg fun held => (List.mem_append.mp held).elim first later]
          rfl
end

mutual
theorem bound_loop_variables (bindings : Bindings) (node : TaskNodeSpec) :
    (node.bound bindings).loopVariables = node.loopVariables := by
  cases node with
  | invokeNode config => rfl
  | runNode config => rfl
  | repeatNode name count every node => exact bound_loop_variables bindings node
  | parallelNode name after branch branches =>
      exact congrArg₂ (· ++ ·) (bound_loop_variables bindings branch) (all_bound_loop_variables bindings branches)
  | parallelCount name after count node => exact bound_loop_variables bindings node
  | sequenceNode name after step steps =>
      exact congrArg₂ (· ++ ·) (bound_loop_variables bindings step) (all_bound_loop_variables bindings steps)
  | forEachNode config node => exact congrArg (config.variableName :: ·) (bound_loop_variables bindings node)
theorem all_bound_loop_variables (bindings : Bindings) (nodes : List TaskNodeSpec) :
    allLoopVariables (allBound bindings nodes) = allLoopVariables nodes := by
  cases nodes with
  | nil => rfl
  | cons node rest =>
      exact congrArg₂ (· ++ ·) (bound_loop_variables bindings node) (all_bound_loop_variables bindings rest)
end

mutual
theorem bound_texts (bindings : Bindings) (node : TaskNodeSpec) : (node.bound bindings).texts = node.texts := by
  cases node with
  | invokeNode config => rfl
  | runNode config => rfl
  | repeatNode name count every node => exact congrArg (name :: ·) (bound_texts bindings node)
  | parallelNode name after branch branches =>
      exact congrArg (name :: ·) (congrArg₂ (· ++ ·) (bound_texts bindings branch) (all_bound_texts bindings branches))
  | parallelCount name after count node => exact congrArg (name :: ·) (bound_texts bindings node)
  | sequenceNode name after step steps =>
      exact congrArg (name :: ·) (congrArg₂ (· ++ ·) (bound_texts bindings step) (all_bound_texts bindings steps))
  | forEachNode config node => exact congrArg (config.name :: config.variableName :: ·) (bound_texts bindings node)
theorem all_bound_texts (bindings : Bindings) (nodes : List TaskNodeSpec) :
    allTexts (allBound bindings nodes) = allTexts nodes := by
  cases nodes with
  | nil => rfl
  | cons node rest => exact congrArg₂ (· ++ ·) (bound_texts bindings node) (all_bound_texts bindings rest)
end

section Composition

variable (first rest : Bindings)

theorem value_bound (count : TaskValue) : (count.bound first).bound rest = count.bound (also first rest) := by
  cases count with
  | literal value => rfl
  | dimension name => cases found : first name <;> simp [TaskValue.bound, also, found]

theorem duration_bound (duration : TaskDuration) :
    (duration.bound first).bound rest = duration.bound (also first rest) := by
  obtain ⟨scalar, unit⟩ := duration
  cases scalar with
  | literal value => rfl
  | dimension name =>
      cases found : first name <;> simp [TaskDuration.bound, DurationScalar.bound, also, found]

theorem seed_bound (seed : PrefixSeed) : (seed.bound first).bound rest = seed.bound (also first rest) := by
  cases seed with
  | literal value => rfl
  | pick pool => rfl
  | dimension name => cases found : first name <;> simp [PrefixSeed.bound, also, found]

mutual
theorem bound_bound (node : TaskNodeSpec) : (node.bound first).bound rest = node.bound (also first rest) := by
  cases node with
  | invokeNode config => simp only [TaskNodeSpec.bound, InvokeConfig.bound, duration_bound]
  | runNode config =>
      have seeds : PrefixSeed.bound rest ∘ PrefixSeed.bound first = PrefixSeed.bound (also first rest) :=
        funext (seed_bound first rest)
      simp only [TaskNodeSpec.bound, RunConfig.bound, duration_bound, Option.map_map, seeds]
  | repeatNode name count every node => simp only [TaskNodeSpec.bound, value_bound, duration_bound, bound_bound node]
  | parallelNode name after branch branches =>
      simp only [TaskNodeSpec.bound, duration_bound, bound_bound branch, all_bound_bound branches]
  | parallelCount name after count node => simp only [TaskNodeSpec.bound, value_bound, duration_bound, bound_bound node]
  | sequenceNode name after step steps =>
      simp only [TaskNodeSpec.bound, duration_bound, bound_bound step, all_bound_bound steps]
  | forEachNode config node => simp only [TaskNodeSpec.bound, ForEachConfig.bound, duration_bound, bound_bound node]
theorem all_bound_bound (nodes : List TaskNodeSpec) :
    allBound rest (allBound first nodes) = allBound (also first rest) nodes := by
  cases nodes with
  | nil => rfl
  | cons node others => simp only [allBound, bound_bound node, all_bound_bound others]
end

end Composition

theorem value_free (count : TaskValue) : count.bound (fun _ => none) = count := by cases count <;> rfl

theorem duration_free (duration : TaskDuration) : duration.bound (fun _ => none) = duration := by
  obtain ⟨scalar, unit⟩ := duration
  cases scalar <;> rfl

mutual
theorem bound_none (node : TaskNodeSpec) : node.bound (fun _ => none) = node := by
  cases node with
  | invokeNode config => simp only [TaskNodeSpec.bound, InvokeConfig.bound, duration_free]
  | runNode config =>
      have seeds : config.prefixSeed.map (PrefixSeed.bound fun _ => none) = config.prefixSeed := by
        cases config.prefixSeed with
        | none => rfl
        | some seed => cases seed <;> rfl
      simp only [TaskNodeSpec.bound, RunConfig.bound, duration_free, seeds]
  | repeatNode name count every node => simp only [TaskNodeSpec.bound, value_free, duration_free, bound_none node]
  | parallelNode name after branch branches =>
      simp only [TaskNodeSpec.bound, duration_free, bound_none branch, all_bound_none branches]
  | parallelCount name after count node => simp only [TaskNodeSpec.bound, value_free, duration_free, bound_none node]
  | sequenceNode name after step steps =>
      simp only [TaskNodeSpec.bound, duration_free, bound_none step, all_bound_none steps]
  | forEachNode config node => simp only [TaskNodeSpec.bound, ForEachConfig.bound, duration_free, bound_none node]
theorem all_bound_none (nodes : List TaskNodeSpec) : allBound (fun _ => none) nodes = nodes := by
  cases nodes with
  | nil => rfl
  | cons node rest => simp only [allBound, bound_none node, all_bound_none rest]
end

theorem all_bound_map (bindings : Bindings) (nodes : List TaskNodeSpec) :
    allBound bindings nodes = nodes.map (TaskNodeSpec.bound bindings) := by
  induction nodes with
  | nil => rfl
  | cons node rest ih => rw [allBound, ih, List.map_cons]

section Resolution

variable (bindings : Bindings) (coordinate environment : Dimensions)

def Extends : Prop :=
  ∀ name, Dict.get name environment = ((bindings name).map fun value => (value : Int)).or (Dict.get name coordinate)

variable {bindings coordinate environment} (extended : Extends bindings coordinate environment)

include extended

theorem value_within (count : TaskValue) : (count.bound bindings).resolve coordinate = count.resolve environment := by
  cases count with
  | literal value => rfl
  | dimension name => cases found : bindings name <;> simp [TaskValue.bound, TaskValue.resolve, found, extended name]

theorem duration_within (duration : TaskDuration) :
    (duration.bound bindings).resolve coordinate = duration.resolve environment := by
  obtain ⟨scalar, unit⟩ := duration
  have same : TaskDuration.scalar coordinate (TaskDuration.bound bindings ⟨scalar, unit⟩) =
      TaskDuration.scalar environment ⟨scalar, unit⟩ := by
    cases scalar with
    | literal value => rfl
    | dimension name =>
        cases found : bindings name <;>
          simp [TaskDuration.bound, DurationScalar.bound, TaskDuration.scalar, found, extended name]
  rw [TaskDuration.resolve, TaskDuration.resolve, same]
  rfl

theorem seed_within (sha256 : Sha256) (context : InstanceContext) (same : context.dimensions = coordinate)
    (nodeId : NodeId) (seed : PrefixSeed) :
    context.resolvePrefixSeed sha256 nodeId (seed.bound bindings) =
      resolveSeedWithin sha256 context environment nodeId seed := by
  cases seed with
  | literal value => rfl
  | pick pool => rfl
  | dimension name =>
      have resolved := value_within extended (.dimension name)
      subst same
      cases found : bindings name with
      | none =>
          simp only [TaskValue.bound, found] at resolved
          simp only [PrefixSeed.bound, found, InstanceContext.resolvePrefixSeed, InstanceContext.resolveSeedValue,
            resolveSeedWithin, resolved]
      | some value =>
          simp only [TaskValue.bound, found] at resolved
          simp only [PrefixSeed.bound, found, InstanceContext.resolvePrefixSeed, InstanceContext.resolveSeedValue,
            resolveSeedWithin, resolved]

theorem extends_put (variableName : String) (value : Nat) (fresh : bindings variableName = none) :
    Extends (also bindings (only variableName value)) coordinate (Dict.put variableName (value : Int) environment) := by
  intro name
  rw [dict_get_put]
  by_cases here : name = variableName
  · subst here
    simp [also, only, fresh]
  · rw [if_neg here, extended name]
    cases found : bindings name <;> simp [also, only, here, found]

end Resolution

theorem first_member (sha256 : Sha256) (config : ForEachConfig)
    (some_ : ¬ (config.parallelism = 0 ∨ (config.values.values sha256).length = 0)) :
    ∃ name member members lanes, expandedLanes sha256 config = (name, member :: members) :: lanes := by
  have values : 0 < (config.values.values sha256).length := by omega
  have lanes : 0 < min config.parallelism (config.values.values sha256).length := by omega
  rw [expandedLanes, laneValues]
  generalize config.values.values sha256 = all at *
  obtain ⟨others, many⟩ := Nat.exists_eq_succ_of_ne_zero lanes.ne'
  have size : 1 ≤ all.length / (others + 1) + if 0 < all.length % (others + 1) then 1 else 0 := by
    have within : others + 1 ≤ all.length := many.ge.trans (min_le_right _ _)
    have whole := Nat.div_pos within (Nat.succ_pos others)
    omega
  obtain ⟨rest, sized⟩ := Nat.exists_eq_add_of_le' size
  obtain ⟨first, later, split⟩ := List.exists_cons_of_length_pos values
  rw [many, Nat.succ_eq_add_one, List.range_succ_eq_map, List.map_cons, sized, split]
  exact ⟨_, _, _, _, rfl⟩

section Expansion

variable (sha256 : Sha256) (context : InstanceContext) (instanceKey : String)

theorem bind_members (config : ForEachConfig) (template : TaskNodeSpec) (members : List (String × Nat))
    (apart : config.variableName ∉ template.loopVariables) :
    members.mapM (bindMember config template) =
      .ok (members.map fun member => (member.1, template.bound (only config.variableName member.2))) := by
  induction members with
  | nil => rfl
  | cons member rest ih =>
      rw [List.mapM_cons, ih, bindMember, bind_loop_value, if_neg apart]
      rfl

theorem shadowed_lanes (dimensions : Dimensions) (config : ForEachConfig) (template : TaskNodeSpec)
    (expand : TaskNodeSpec → Expand) (incoming : Frontier) (delay : Rat) (path : Path) (builder : GraphBuilder)
    (some_ : ¬ (config.parallelism = 0 ∨ (config.values.values sha256).length = 0))
    (shadowed : config.variableName ∈ template.loopVariables) :
    expandBranches ((expandedLanes sha256 config).map fun lane =>
      (expandLane dimensions config template expand lane, path)) incoming delay builder =
      .error (shadowedVariable config.variableName) := by
  obtain ⟨name, member, members, lanes, start⟩ := first_member sha256 config some_
  rw [start, List.map_cons, expandBranches, List.foldlM_cons]
  simp only [expandLane, List.mapM_cons, bindMember, bind_loop_value, if_pos shadowed]
  rfl

theorem bound_lane (dimensions environment : Dimensions) (config : ForEachConfig) (template : TaskNodeSpec)
    (expand : TaskNodeSpec → Expand) (within : Nat → Expand) (lane : String × List (String × Nat))
    (apart : config.variableName ∉ template.loopVariables)
    (each : ∀ value, expand (template.bound (only config.variableName value)) = within value) :
    expandLane dimensions config template expand lane = expandLaneWithin environment within lane := by
  funext builder incoming path inherited
  have entry (name : String) (steps : List Expand) :
      expandSequence dimensions name .zero steps = expandSequence environment name .zero steps := by
    funext builder incoming path inherited
    rw [expandSequence, expandSequence, zero_duration, zero_duration]
  simp only [expandLane, expandLaneWithin, bind_members config template lane.2 apart, entry]
  change expandSequence environment _ _ _ _ _ _ _ = _
  rw [List.map_map]
  congr 1
  apply List.map_congr_left
  intro member _
  exact congrArg (fun step => expandSequence environment member.1 .zero [step]) (each member.2)

theorem expand_bound (levels : Nat) (node : TaskNodeSpec) (bindings : Bindings) (environment : Dimensions)
    (extended : Extends bindings context.dimensions environment)
    (apart : ∀ name ∈ node.loopVariables, bindings name = none) :
    expandNode sha256 context instanceKey levels (node.bound bindings) =
      expandWithin sha256 context instanceKey levels environment node := by
  induction levels generalizing node bindings environment with
  | zero => rfl
  | succ levels ih =>
      have all (nodes : List TaskNodeSpec) (apart : ∀ name ∈ allLoopVariables nodes, bindings name = none) :
          (allBound bindings nodes).map (expandNode sha256 context instanceKey levels) =
            nodes.map (expandWithin sha256 context instanceKey levels environment) := by
        induction nodes with
        | nil => rfl
        | cons node rest others =>
            rw [allBound, List.map_cons, List.map_cons,
              ih node bindings environment extended fun name held => apart name (List.mem_append_left _ held),
              others fun name held => apart name (List.mem_append_right _ held)]
      cases node with
      | invokeNode config =>
          funext builder incoming path inherited
          simp only [TaskNodeSpec.bound, expandNode, expandWithin, InvokeConfig.expand, InvokeConfig.expandWithin,
            InvokeConfig.bound, duration_within extended]
          rfl
      | runNode config =>
          have seeds (nodeId : NodeId) : context.resolveRunSeed sha256 nodeId (config.prefixSeed.map (PrefixSeed.bound bindings)) =
              resolveRunSeedWithin sha256 context environment nodeId config.prefixSeed := by
            cases config.prefixSeed with
            | none => rfl
            | some seed =>
                exact congrArg (Except.map some) (seed_within extended sha256 context rfl nodeId seed)
          funext builder incoming path inherited
          simp only [TaskNodeSpec.bound, expandNode, expandWithin, RunConfig.expand, RunConfig.expandWithin,
            RunConfig.bound, duration_within extended, seeds]
      | repeatNode name count every node =>
          funext builder incoming path inherited
          simp only [TaskNodeSpec.bound, expandNode, expandWithin, expandRepeat, repeatCount, value_within extended,
            duration_within extended, ih node bindings environment extended apart]
      | parallelNode name after branch branches =>
          have parts := all (branch :: branches) apart
          funext builder incoming path inherited
          rw [TaskNodeSpec.bound, expandNode, expandWithin, expandParallel, expandParallel, duration_within extended]
          exact congrArg (fun steps => after.resolve environment >>= fun own =>
            expandBranches (steps.map fun step => (step, path ++ [name])) incoming (inherited + own) builder) parts
      | parallelCount name after count node =>
          funext builder incoming path inherited
          simp only [TaskNodeSpec.bound, expandNode, expandWithin, expandParallelCount, branchCount, value_within extended,
            duration_within extended, ih node bindings environment extended apart]
      | sequenceNode name after step steps =>
          have parts := all (step :: steps) apart
          funext builder incoming path inherited
          rw [TaskNodeSpec.bound, expandNode, expandWithin]
          change expandSequence _ _ _ ((allBound bindings (step :: steps)).map _) _ _ _ _ = _
          rw [parts, expandSequence, expandSequence, duration_within extended]
      | forEachNode config template =>
          funext builder incoming path inherited
          rw [TaskNodeSpec.bound, expandNode, expandWithin, expandForEach, expandForEachWithin, ForEachConfig.bound,
            duration_within extended]
          cases config.after.resolve environment with
          | error message => rfl
          | ok laneDelay =>
              change (if _ then _ else _) = (if _ then _ else _)
              by_cases blank : config.parallelism = 0 ∨ (config.values.values sha256).length = 0
              · rw [if_pos blank, if_pos blank]
              · rw [if_neg blank, if_neg blank]
                by_cases shadowed : config.variableName ∈ template.loopVariables
                · rw [if_pos shadowed]
                  exact shadowed_lanes sha256 _ { config with after := config.after.bound bindings } _ _ _ _ _ _ blank
                    (by rwa [bound_loop_variables])
                · rw [if_neg shadowed]
                  have fresh := apart config.variableName List.mem_cons_self
                  have inner : ∀ value : Nat, ∀ name ∈ template.loopVariables,
                      also bindings (only config.variableName value) name = none := by
                    intro value name held
                    have other : name ≠ config.variableName := fun same => shadowed (same ▸ held)
                    simp [also, only, other, apart name (List.mem_cons_of_mem _ held)]
                  congr 1
                  apply List.map_congr_left
                  intro lane _
                  apply congrArg fun step : Expand => (step, path ++ [config.name])
                  apply bound_lane _ environment { config with after := config.after.bound bindings }
                  · rwa [bound_loop_variables]
                  · intro value
                    rw [bound_bound]
                    exact ih template _ _ (extends_put extended config.variableName value fresh) (inner value)

end Expansion

end

end LlmperfOrchestrator.Compiler

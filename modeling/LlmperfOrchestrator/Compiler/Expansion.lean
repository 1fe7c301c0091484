import LlmperfOrchestrator.Compiler.Graph

set_option autoImplicit false

namespace LlmperfOrchestrator.Compiler

open Tables SeriesParallel

abbrev Expand := GraphBuilder → Frontier → Path → Rat → Except String (GraphBuilder × Frontier)

section Nodes

variable (sha256 : Sha256) (context : InstanceContext) (instanceKey : String)

def dependencyReferences (path : Path) (dependsOn : List RequestDependency) : List NodeId :=
  dependsOn.map fun dependency => qualifiedReference path dependency.step

def messageReferences (path : Path) (dependsOn : List RequestDependency) : List NodeId :=
  dependencyReferences path (dependsOn.filter (·.reuseMessages))

def InvokeConfig.expand (config : InvokeConfig) : Expand := fun builder incoming path inherited => do
  let nodeId := qualifiedName path config.name
  let ownDelay ← config.after.resolve context.dimensions
  let builder ← builder.emit sha256 context instanceKey
    { nodeId := nodeId, dependencies := (incoming ++ dependencyReferences path config.dependsOn).eraseDups,
      afterSeconds := inherited + ownDelay, role := config.effectiveRole, payloadId := some config.payload,
      messageSources := messageReferences path config.dependsOn, executionKind := .atomic, prefixSeed := none }
  .ok (builder, [nodeId])

def RunConfig.expand (config : RunConfig) : Expand := fun builder incoming path inherited => do
  let nodeId := qualifiedName path config.name
  let ownDelay ← config.after.resolve context.dimensions
  let prefixSeed ← context.resolveRunSeed sha256 nodeId config.prefixSeed
  let builder ← builder.emit sha256 context instanceKey
    { nodeId := nodeId, dependencies := (incoming ++ dependencyReferences path config.dependsOn).eraseDups,
      afterSeconds := inherited + ownDelay, role := config.role.getD config.name, payloadId := none,
      messageSources := [], executionKind := .batch, prefixSeed := prefixSeed }
  .ok (builder, [nodeId])

end Nodes

def repeatCount (dimensions : Dimensions) (count : TaskValue) : Except String Nat := do
  let resolved ← count.resolve dimensions
  if 0 ≤ resolved ∧ resolved ≤ maxRepeatCount then .ok resolved.toNat
  else .error s!"expanded repeat count must be between 0 and {maxRepeatCount}"

def expandRepeat (dimensions : Dimensions) (name : String) (count : TaskValue) (every : TaskDuration) (node : Expand) :
    Expand := fun builder incoming path inherited => do
  let iterations ← repeatCount dimensions count
  let interval ← every.resolve dimensions
  if interval < 0 then .error "task delays cannot be negative"
  else
    (List.range' 1 iterations).foldlM (fun (state : GraphBuilder × Frontier) iteration =>
      node state.1 state.2 (path ++ [name, toString iteration])
        (if iteration = 1 then interval + inherited else interval)) (builder, incoming)

def expandBranches (branches : List (Expand × Path)) (incoming : Frontier) (delay : Rat) (builder : GraphBuilder) :
    Except String (GraphBuilder × Frontier) :=
  branches.foldlM (fun (state : GraphBuilder × Frontier) branch => do
    let (builder, frontier) ← branch.1 state.1 incoming branch.2 delay
    .ok (builder, state.2 ++ frontier)) (builder, [])

def expandParallel (dimensions : Dimensions) (name : String) (after : TaskDuration) (branches : List Expand) :
    Expand := fun builder incoming path inherited => do
  let ownDelay ← after.resolve dimensions
  expandBranches (branches.map fun branch => (branch, path ++ [name])) incoming (inherited + ownDelay) builder

def branchCount (dimensions : Dimensions) (count : TaskValue) : Except String Nat := do
  let resolved ← count.resolve dimensions
  if 1 ≤ resolved ∧ resolved ≤ maxNodesPerInstance then .ok resolved.toNat
  else .error s!"expanded parallel count must be between 1 and {maxNodesPerInstance}"

def expandParallelCount (dimensions : Dimensions) (name : String) (after : TaskDuration) (count : TaskValue)
    (node : Expand) : Expand := fun builder incoming path inherited => do
  let ownDelay ← after.resolve dimensions
  let copies ← branchCount dimensions count
  expandBranches ((List.range' 1 copies).map fun index => (node, path ++ [name, toString index]))
    incoming (inherited + ownDelay) builder

def expandSequence (dimensions : Dimensions) (name : String) (after : TaskDuration) (steps : List Expand) : Expand :=
  fun builder incoming path inherited => do
    let ownDelay ← after.resolve dimensions
    steps.zipIdx.foldlM (fun (state : GraphBuilder × Frontier) step =>
      step.1 state.1 state.2 (path ++ [name]) (if step.2 = 0 then inherited + ownDelay else 0)) (builder, incoming)

def slices {Value : Type} : List Nat → List Value → List (List Value)
  | [], _ => []
  | size :: sizes, values => values.take size :: slices sizes (values.drop size)

-- f"{index:02d}"
def twoDigits (index : Nat) : String := if index < 10 then s!"0{index}" else s!"{index}"

def laneValues (parallelism : Nat) (values : List Nat) : List (List Nat) :=
  let laneCount := min parallelism values.length
  slices ((List.range laneCount).map fun lane =>
    values.length / laneCount + if lane < values.length % laneCount then 1 else 0) values

def expandedLanes (sha256 : Sha256) (config : ForEachConfig) : List (String × List (String × Nat)) :=
  (laneValues config.parallelism (config.values.values sha256)).zipIdx.map fun lane =>
    (s!"lane_{twoDigits (lane.2 + 1)}",
      lane.1.zipIdx.map fun member => (s!"member_{twoDigits (member.2 + 1)}", member.1))

def bindMember (config : ForEachConfig) (template : TaskNodeSpec) (member : String × Nat) :
    Except String (String × TaskNodeSpec) := do
  let bound ← bindLoopValue config.variableName member.2 template
  .ok (member.1, bound)

-- SequenceNode lane_.. over its SequenceNode members; all members are bound
-- before any of them is expanded.
def expandLane (dimensions : Dimensions) (config : ForEachConfig) (template : TaskNodeSpec)
    (expand : TaskNodeSpec → Expand) (lane : String × List (String × Nat)) : Expand :=
  fun builder incoming path inherited => do
    let members ← lane.2.mapM (bindMember config template)
    expandSequence dimensions lane.1 .zero
      (members.map fun member => expandSequence dimensions member.1 .zero [expand member.2]) builder incoming path inherited

def expandForEach (sha256 : Sha256) (dimensions : Dimensions) (config : ForEachConfig) (template : TaskNodeSpec)
    (expand : TaskNodeSpec → Expand) : Expand := fun builder incoming path inherited => do
  let laneDelay ← config.after.resolve dimensions
  if config.parallelism = 0 ∨ (config.values.values sha256).length = 0 then
    .error "integer division or modulo by zero"
  else
    expandBranches ((expandedLanes sha256 config).map fun lane =>
      (expandLane dimensions config template expand lane, path ++ [config.name])) incoming (inherited + laneDelay) builder

section Graph

variable (sha256 : Sha256) (context : InstanceContext) (instanceKey : String)

-- Recursion over the levels below MAX_GRAPH_DEPTH: the template of a for_each
-- node is bound anew for every member.
def expandNode : Nat → TaskNodeSpec → Expand
  | 0, _ => fun _ _ _ _ => .error depthExceeded
  | _ + 1, .invokeNode config => config.expand sha256 context instanceKey
  | _ + 1, .runNode config => config.expand sha256 context instanceKey
  | levels + 1, .repeatNode name count every node =>
      expandRepeat context.dimensions name count every (expandNode levels node)
  | levels + 1, .parallelNode name after branch branches =>
      expandParallel context.dimensions name after ((branch :: branches).map (expandNode levels))
  | levels + 1, .parallelCount name after count node =>
      expandParallelCount context.dimensions name after count (expandNode levels node)
  | levels + 1, .sequenceNode name after step steps =>
      expandSequence context.dimensions name after ((step :: steps).map (expandNode levels))
  | levels + 1, .forEachNode config template =>
      expandForEach sha256 context.dimensions config template (expandNode levels)

def expandRoots (roots : List TaskNodeSpec) (builder : GraphBuilder) : Except String (GraphBuilder × Frontier) :=
  roots.foldlM (fun (state : GraphBuilder × Frontier) root =>
    expandNode sha256 context instanceKey maxGraphDepth root state.1 state.2 [] 0) (builder, [])

end Graph

-- prior_nodes (their execution kinds) and ancestors while references are checked.
structure ReferenceState where
  priorNodes : Dict NodeId ExecutionKind
  ancestors : Dict NodeId (List NodeId)

def checkMessageSource (state : ReferenceState) (predecessors : List NodeId) (source : NodeId) : Except String Unit :=
  if source ∉ predecessors then .error "message sources must reference an earlier dependency node"
  else if Dict.get source state.priorNodes ≠ some .atomic then
    .error "message sources must reference one atomic request; use request.steps for history within run"
  else .ok ()

def checkRow (requiresHistory : Bool) (state : ReferenceState) (row : CompiledNodeRow) : Except String ReferenceState :=
  if row.dependencies.any fun dependency => (Dict.get dependency state.priorNodes).isNone then
    .error "depends_on must reference an earlier node"
  else do
    let predecessors := if requiresHistory then
        (row.dependencies ++ row.dependencies.flatMap fun dependency =>
          (Dict.get dependency state.ancestors).getD []).eraseDups
      else []
    row.messageSources.forM (checkMessageSource state predecessors)
    .ok { priorNodes := Dict.put row.nodeId row.executionKind state.priorNodes,
          ancestors := if requiresHistory then Dict.put row.nodeId predecessors state.ancestors else state.ancestors }

def checkReferences (rows : List CompiledNodeRow) : Except String ReferenceState :=
  rows.foldlM (checkRow (rows.any fun row => !row.messageSources.isEmpty)) ⟨[], []⟩

section Graph

variable (sha256 : Sha256) (context : InstanceContext) (instanceKey : String)

-- TaskGraph.expand
def expandGraph (roots : List TaskNodeSpec) : Except String (List CompiledNodeRow) := do
  let (builder, _) ← expandRoots sha256 context instanceKey roots GraphBuilder.new
  let _ ← checkReferences builder.nodes
  .ok builder.nodes

end Graph

-- TaskGraph.from_recipe
def validateGraph (recipe : TaskRecipe) : Except String Unit := do
  validateAllLoopNames (Dict.keys recipe.instances.matrix.rows) recipe.workflow
  validateDepths maxGraphDepth recipe.workflow

def product : List (List Int) → List (List Int)
  | [] => [[]]
  | values :: rest => values.flatMap fun value => (product rest).map (value :: ·)

def matrixCoordinates (recipe : TaskRecipe) : List Dimensions :=
  let dimensions := recipe.instances.matrix.rows.insertionSort fun a b => a.1 ≤ b.1
  (product (dimensions.map Prod.snd)).map fun values => (dimensions.map Prod.fst).zip values

-- completion_offsets of _planned_span.
def settleOffset (offsets : Dict NodeId Rat) (row : CompiledNodeRow) : Dict NodeId Rat :=
  Dict.put row.nodeId
    (((row.dependencies.map fun dependency => (Dict.get dependency offsets).getD 0).max?.getD 0) + row.afterSeconds)
    offsets

def completionOffsets (rows : List CompiledNodeRow) : Dict NodeId Rat := rows.foldl settleOffset []

def plannedSpan (rows : List CompiledNodeRow) : Rat := ((completionOffsets rows).map Prod.snd).max?.getD 0

def instanceContext (recipe : TaskRecipe) (dimensions : Dimensions) (trialIndex : Nat) : InstanceContext :=
  { seed := recipe.instances.seed, dimensions := dimensions, trialIndex := trialIndex, payloads := recipe.payloads,
    prefixSeedScope := recipe.instances.prefixSeedScope }

def validateCoordinate (sha256 : Sha256) (recipe : TaskRecipe) (coordinateIndex : Nat) (dimensions : Dimensions) :
    Except String Unit := do
  let nodes ← expandGraph sha256 (instanceContext recipe dimensions 0) s!"validation-{coordinateIndex}" recipe.workflow
  if recipe.instances.prefixSeedScope = .family ∧ nodes.any (fun node => node.executionKind != .batch) then
    .error "family prefix seeds require run-only workflows"
  else if maxPlannedSpanSeconds < plannedSpan nodes then .error "task planned span cannot exceed 24 hours"
  else .ok ()

-- TaskCompiler.validate_recipe
def validateRecipe (sha256 : Sha256) (recipe : TaskRecipe) : Except String Unit :=
  if maxInstancesPerDefinition < recipe.instances.count then
    .error s!"task definition cannot exceed {maxInstancesPerDefinition} instances"
  else do
    validateGraph recipe
    (matrixCoordinates recipe).zipIdx.forM fun entry => validateCoordinate sha256 recipe entry.2 entry.1

def Accepted (sha256 : Sha256) (recipe : TaskRecipe) : Prop :=
  recipe.valid = true ∧ validateRecipe sha256 recipe = .ok ()

end LlmperfOrchestrator.Compiler

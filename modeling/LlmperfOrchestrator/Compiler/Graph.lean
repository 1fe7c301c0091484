import LlmperfOrchestrator.Compiler.Recipe
import LlmperfOrchestrator.Library.Delays

set_option autoImplicit false

namespace LlmperfOrchestrator.Compiler

open Tables

abbrev NodeId := String
abbrev Path := List String
abbrev Frontier := List NodeId

inductive ExecutionKind where
  | atomic | batch
deriving DecidableEq, Repr

structure InstanceContext where
  seed : Nat
  dimensions : Dimensions
  trialIndex : Nat
  payloads : Table String TaskPayloadSpec
  prefixSeedScope : PrefixSeedScope

-- ";".join(f"{key}={value}" for key, value in sorted(dimensions.items()))
def coordinatesText (dimensions : Dimensions) : String :=
  ";".intercalate ((dimensions.insertionSort fun a b => a.1 ≤ b.1).map fun entry => s!"{entry.1}={entry.2}")

namespace InstanceContext

variable (sha256 : Sha256) (context : InstanceContext)

def prefixPickMaterial (nodeId : NodeId) : String :=
  s!"prefix-pick-v1\x00{context.seed}\x00{coordinatesText context.dimensions}\x00{context.trialIndex}\x00{nodeId}"

def resolveSeedValue (value : TaskValue) : Except String Nat := do
  let resolved ← value.resolve context.dimensions
  if 0 ≤ resolved ∧ resolved ≤ 2 ^ 64 - 1 then .ok resolved.toNat
  else .error "prefix_seed must be an unsigned 64-bit integer"

def resolvePrefixSeed (nodeId : NodeId) : PrefixSeed → Except String Nat
  | .pick pool =>
      let values := pool.values sha256
      let selection := (sha256 (context.prefixPickMaterial nodeId)).val
      .ok (values.getD (selection % values.length) 0)
  | .literal seed => context.resolveSeedValue (.literal seed)
  | .dimension name => context.resolveSeedValue (.dimension name)

def resolveRunSeed (nodeId : NodeId) : Option PrefixSeed → Except String (Option Nat)
  | none => .ok none
  | some seed => (context.resolvePrefixSeed sha256 nodeId seed).map some

def familyPrefixSeed : Nat :=
  firstEight (sha256 s!"family-prefix-v1\x00{context.seed}\x00{coordinatesText context.dimensions}")

def batchSeed (nodeId : NodeId) : Nat :=
  match context.prefixSeedScope with
  | .family =>
      firstEight (sha256 s!"family-suffix-v1\x00{context.familyPrefixSeed sha256}\x00{context.trialIndex}\x00{nodeId}")
  | .trial =>
      firstEight (sha256
        s!"batch-v1\x00{context.seed}\x00{coordinatesText context.dimensions}\x00{context.trialIndex}\x00{nodeId}")

def payloadSeed (payloadId : String) : Except String Nat :=
  match context.payloads.get payloadId with
  | none => .error s!"task invoke references unknown payload {payloadId}"
  | some payload =>
      .ok (firstFour (sha256
        s!"{context.seed}\x00{coordinatesText context.dimensions}\x00{context.trialIndex}\x00{payload.seed}") % 2 ^ 31)

end InstanceContext

structure CompiledNodeRow where
  instanceKey : String
  nodeId : NodeId
  dependencies : List NodeId
  afterSeconds : Rat
  role : String
  payloadId : Option String
  payloadSeed : Nat
  promptText : Option String
  executionKind : ExecutionKind
  messageSources : List NodeId
  prefixSeed : Option Nat
deriving DecidableEq, Repr

-- Keyword arguments of GraphBuilder.emit.
structure Emission where
  nodeId : NodeId
  dependencies : List NodeId
  afterSeconds : Rat
  role : String
  payloadId : Option String
  messageSources : List NodeId
  executionKind : ExecutionKind
  prefixSeed : Option Nat

structure GraphBuilder where
  nodes : List CompiledNodeRow
  unique : (nodes.map CompiledNodeRow.nodeId).Nodup
  named : ∀ row ∈ nodes, row.nodeId ≠ "" ∧ row.nodeId.length ≤ 120
  delays : ∀ row ∈ nodes, 0 ≤ row.afterSeconds
  bounded : nodes.length ≤ maxNodesPerInstance

section Builder

variable (sha256 : Sha256) (context : InstanceContext) (instanceKey : String)

-- payload_seed of a row: of its payload, or of the batch node itself.
def rowSeed (emission : Emission) : Except String Nat :=
  match emission.payloadId with
  | some payloadId => context.payloadSeed sha256 payloadId
  | none => .ok (context.batchSeed sha256 emission.nodeId)

def compiledRow (emission : Emission) (seed : Nat) : CompiledNodeRow :=
  { instanceKey := instanceKey, nodeId := emission.nodeId, dependencies := emission.dependencies,
    afterSeconds := emission.afterSeconds, role := emission.role, payloadId := emission.payloadId,
    payloadSeed := seed,
    promptText := emission.payloadId.bind fun payloadId => (context.payloads.get payloadId).bind TaskPayloadSpec.text,
    executionKind := emission.executionKind, messageSources := emission.messageSources,
    prefixSeed := emission.prefixSeed }

namespace GraphBuilder

def new : GraphBuilder :=
  ⟨[], List.nodup_nil, fun _ absent => (by cases absent), fun _ absent => (by cases absent), Nat.zero_le _⟩

def append (builder : GraphBuilder) (row : CompiledNodeRow) (named : row.nodeId ≠ "" ∧ row.nodeId.length ≤ 120)
    (fresh : row.nodeId ∉ builder.nodes.map CompiledNodeRow.nodeId) (delay : 0 ≤ row.afterSeconds)
    (room : builder.nodes.length < maxNodesPerInstance) : GraphBuilder where
  nodes := builder.nodes ++ [row]
  unique := by
    rw [List.map_append, List.nodup_append']
    refine ⟨builder.unique, List.nodup_singleton _, fun name known here => fresh ?_⟩
    rwa [List.mem_singleton.mp here] at known
  named := by
    intro other member
    rcases List.mem_append.mp member with known | here
    · exact builder.named other known
    · exact List.mem_singleton.mp here ▸ named
  delays := by
    intro other member
    rcases List.mem_append.mp member with known | here
    · exact builder.delays other known
    · exact List.mem_singleton.mp here ▸ delay
  bounded := by
    rw [List.length_append, List.length_singleton]
    exact room

def emit (builder : GraphBuilder) (emission : Emission) : Except String GraphBuilder :=
  if unnamed : emission.nodeId = "" ∨ 120 < emission.nodeId.length then
    .error "expanded task node IDs must contain 1-120 chars"
  else if known : emission.nodeId ∈ builder.nodes.map CompiledNodeRow.nodeId then
    .error s!"expanded task node ID is not unique: {emission.nodeId}"
  else if negative : emission.afterSeconds < 0 then
    .error "task delays cannot be negative"
  else if full : maxNodesPerInstance ≤ builder.nodes.length then
    .error s!"task instance cannot exceed {maxNodesPerInstance} nodes"
  else if emission.executionKind = .atomic ∧ emission.payloadId = none then
    .error "atomic invocation requires a payload"
  else
    match rowSeed sha256 context emission with
    | .error message => .error message
    | .ok seed =>
        .ok (builder.append (compiledRow context instanceKey emission seed)
          ⟨fun blank => unnamed (.inl blank), Nat.le_of_not_lt fun long => unnamed (.inr long)⟩ known
          (not_lt.mp negative) (Nat.lt_of_not_le full))

end GraphBuilder

end Builder

def qualifiedName (path : Path) (name : String) : NodeId := ".".intercalate (path ++ [name])

def qualifiedReference (path : Path) (name : String) : NodeId :=
  if '.' ∈ name.toList then name else qualifiedName path name

-- Substitute only typed scalar references, never arbitrary text or names.
def bindValue (variableName : String) (value : Nat) : TaskValue → TaskValue
  | .dimension name => if name = variableName then .literal value else .dimension name
  | .literal literal => .literal literal

def bindDuration (variableName : String) (value : Nat) (duration : TaskDuration) : TaskDuration :=
  match duration.value with
  | .dimension name => if name = variableName then { duration with value := .literal value } else duration
  | .literal _ => duration

def bindPrefixSeed (variableName : String) (value : Nat) : PrefixSeed → PrefixSeed
  | .dimension name => if name = variableName then .literal value else .dimension name
  | seed => seed

def shadowedVariable (variableName : String) : String :=
  s!"for_each variable shadows an enclosing variable: {variableName}"

mutual
def bindLoopValue (variableName : String) (value : Nat) : TaskNodeSpec → Except String TaskNodeSpec
  | .invokeNode config => .ok (.invokeNode { config with after := bindDuration variableName value config.after })
  | .runNode config =>
      .ok (.runNode { config with
        after := bindDuration variableName value config.after,
        prefixSeed := config.prefixSeed.map (bindPrefixSeed variableName value) })
  | .repeatNode name count every node => do
      let node ← bindLoopValue variableName value node
      .ok (.repeatNode name (bindValue variableName value count) (bindDuration variableName value every) node)
  | .parallelNode name after branch branches => do
      let branch ← bindLoopValue variableName value branch
      let branches ← bindLoopValues variableName value branches
      .ok (.parallelNode name (bindDuration variableName value after) branch branches)
  | .parallelCount name after count node => do
      let node ← bindLoopValue variableName value node
      .ok (.parallelCount name (bindDuration variableName value after) (bindValue variableName value count) node)
  | .sequenceNode name after step steps => do
      let step ← bindLoopValue variableName value step
      let steps ← bindLoopValues variableName value steps
      .ok (.sequenceNode name (bindDuration variableName value after) step steps)
  | .forEachNode config node =>
      if config.variableName = variableName then .error (shadowedVariable variableName)
      else do
        let node ← bindLoopValue variableName value node
        .ok (.forEachNode { config with after := bindDuration variableName value config.after } node)
def bindLoopValues (variableName : String) (value : Nat) : List TaskNodeSpec → Except String (List TaskNodeSpec)
  | [] => .ok []
  | node :: rest => do
      let node ← bindLoopValue variableName value node
      let rest ← bindLoopValues variableName value rest
      .ok (node :: rest)
end

mutual
def validateLoopNames (dimensionNames : List String) : TaskNodeSpec → Except String Unit
  | .invokeNode _ => .ok ()
  | .runNode _ => .ok ()
  | .repeatNode _ _ _ node => validateLoopNames dimensionNames node
  | .parallelNode _ _ branch branches => do
      validateLoopNames dimensionNames branch
      validateAllLoopNames dimensionNames branches
  | .parallelCount _ _ _ node => validateLoopNames dimensionNames node
  | .sequenceNode _ _ step steps => do
      validateLoopNames dimensionNames step
      validateAllLoopNames dimensionNames steps
  | .forEachNode config node =>
      if config.variableName ∈ dimensionNames then
        .error "for_each variable must not shadow a matrix dimension"
      else validateLoopNames dimensionNames node
def validateAllLoopNames (dimensionNames : List String) : List TaskNodeSpec → Except String Unit
  | [] => .ok ()
  | node :: rest => do
      validateLoopNames dimensionNames node
      validateAllLoopNames dimensionNames rest
end

def depthExceeded : String := s!"task graph cannot exceed {maxGraphDepth} levels"

mutual
-- _node_from_spec: the levels that remain below MAX_GRAPH_DEPTH.
def validateDepth : Nat → TaskNodeSpec → Except String Unit
  | 0, _ => .error depthExceeded
  | _ + 1, .invokeNode _ => .ok ()
  | _ + 1, .runNode _ => .ok ()
  | levels + 1, .repeatNode _ _ _ node => validateDepth levels node
  | levels + 1, .parallelNode _ _ branch branches => do
      validateDepth levels branch
      validateDepths levels branches
  | levels + 1, .parallelCount _ _ _ node => validateDepth levels node
  | levels + 1, .sequenceNode _ _ step steps => do
      validateDepth levels step
      validateDepths levels steps
  | levels + 1, .forEachNode _ node => validateDepth levels node
def validateDepths (levels : Nat) : List TaskNodeSpec → Except String Unit
  | [] => .ok ()
  | node :: rest => do
      validateDepth levels node
      validateDepths levels rest
end

end LlmperfOrchestrator.Compiler

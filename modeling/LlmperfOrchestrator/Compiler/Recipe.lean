import LlmperfOrchestrator.Library.Keyed
import Mathlib.Algebra.Order.Ring.Rat
import Mathlib.Data.List.Sort

set_option autoImplicit false

namespace LlmperfOrchestrator.Compiler

open Tables

def maxRepeatCount : Nat := 100
def maxGraphDepth : Nat := 20
def maxNodesPerInstance : Nat := 10000
def maxInstancesPerDefinition : Nat := 10000
def maxPlannedSpanSeconds : Rat := 86400

abbrev Dimensions := Dict String Int

-- SHA-256 of the UTF-8 text, read as one big-endian integer.
abbrev Sha256 := String → Fin (2 ^ 256)

instance digestsExist : NeZero (2 ^ 256) := ⟨by decide⟩

-- int.from_bytes(digest()[:8]) and digest()[:4], big-endian.
def firstEight (digest : Fin (2 ^ 256)) : Nat := digest.val / 2 ^ 192
def firstFour (digest : Fin (2 ^ 256)) : Nat := digest.val / 2 ^ 224

inductive TaskValue where
  | literal (value : Int)
  | dimension (name : String)
deriving DecidableEq, Repr

def unknownDimension (name : String) : String := s!"task expression references unknown dimension {name}"

def TaskValue.resolve (dimensions : Dimensions) : TaskValue → Except String Int
  | .literal value => .ok value
  | .dimension name =>
      match Dict.get name dimensions with
      | some value => .ok value
      | none => .error (unknownDimension name)

inductive DurationUnit where
  | ms | s | m | h | d
deriving DecidableEq, Repr

def DurationUnit.seconds : DurationUnit → Rat
  | .ms => 1 / 1000
  | .s => 1
  | .m => 60
  | .h => 3600
  | .d => 86400

inductive DurationScalar where
  | literal (value : Rat)
  | dimension (name : String)
deriving DecidableEq, Repr

-- Floating-point seconds are exact rationals here.
structure TaskDuration where
  value : DurationScalar
  unit : DurationUnit
deriving DecidableEq, Repr

namespace TaskDuration

def zero : TaskDuration := ⟨.literal 0, .s⟩

def scalar (dimensions : Dimensions) (duration : TaskDuration) : Except String Rat :=
  match duration.value with
  | .literal value => .ok value
  | .dimension name =>
      match Dict.get name dimensions with
      | some value => .ok value
      | none => .error (unknownDimension name)

def resolve (dimensions : Dimensions) (duration : TaskDuration) : Except String Rat := do
  let scalar ← duration.scalar dimensions
  let seconds := scalar * duration.unit.seconds
  if seconds < 0 then .error "task delays must be finite and nonnegative" else .ok seconds

end TaskDuration

-- values of an explicit pool, or of a GeneratedSeedPool.
inductive SeedPool where
  | explicit (values : List Nat)
  | generated (seed count : Nat)
deriving DecidableEq, Repr

-- Resolve a truncated-digest collision without changing earlier entries. Among
-- used.length + 1 successors one is free.
def nextFree (used : List Nat) : Nat → Nat → Nat
  | 0, candidate => candidate
  | attempts + 1, candidate =>
      if candidate ∈ used then nextFree used attempts ((candidate + 1) % 2 ^ 64) else candidate

def SeedPool.values (sha256 : Sha256) : SeedPool → List Nat
  | .explicit values => values
  | .generated seed count =>
      (List.range count).foldl (fun values index =>
        values ++ [nextFree values values.length (firstEight (sha256 s!"prefix-pool-v1\x00{seed}\x00{index}"))]) []

inductive PrefixSeed where
  | literal (seed : Nat)
  | dimension (name : String)
  | pick (pool : SeedPool)
deriving DecidableEq, Repr

structure TaskPayloadSpec where
  seed : String
  text : Option String
deriving DecidableEq, Repr

structure RequestDependency where
  step : String
  reuseMessages : Bool
deriving DecidableEq, Repr

structure InvokeConfig where
  name : String
  payload : String
  role : Option String
  after : TaskDuration
  dependsOn : List RequestDependency
deriving DecidableEq, Repr

def InvokeConfig.effectiveRole (config : InvokeConfig) : String := config.role.getD config.name

structure RunConfig where
  name : String
  role : Option String
  after : TaskDuration
  dependsOn : List RequestDependency
  prefixSeed : Option PrefixSeed
deriving DecidableEq, Repr

structure ForEachConfig where
  name : String
  variableName : String
  values : SeedPool
  parallelism : Nat
  after : TaskDuration
deriving DecidableEq, Repr

-- One primitive a node. The constructors stand for the keys invoke, run,
-- repeat, parallel (branches, or count and node), sequence and for_each; lists
-- that must not be empty are a first entry and the others.
inductive TaskNodeSpec where
  | invokeNode (config : InvokeConfig)
  | runNode (config : RunConfig)
  | repeatNode (name : String) (count : TaskValue) (every : TaskDuration) (node : TaskNodeSpec)
  | parallelNode (name : String) (after : TaskDuration) (branch : TaskNodeSpec) (branches : List TaskNodeSpec)
  | parallelCount (name : String) (after : TaskDuration) (count : TaskValue) (node : TaskNodeSpec)
  | sequenceNode (name : String) (after : TaskDuration) (step : TaskNodeSpec) (steps : List TaskNodeSpec)
  | forEachNode (config : ForEachConfig) (node : TaskNodeSpec)

inductive PrefixSeedScope where
  | trial | family
deriving DecidableEq, Repr

structure TaskInstancesConfig where
  matrix : Table String (List Int)
  trials : Nat
  seed : Nat
  prefixSeedScope : PrefixSeedScope

structure TaskRecipe where
  name : String
  instances : TaskInstancesConfig
  payloads : Table String TaskPayloadSpec
  root : TaskNodeSpec
  roots : List TaskNodeSpec

def TaskRecipe.workflow (recipe : TaskRecipe) : List TaskNodeSpec := recipe.root :: recipe.roots

def TaskInstancesConfig.count (config : TaskInstancesConfig) : Nat :=
  (config.matrix.rows.map fun dimension => dimension.2.length).prod * config.trials

def sized (low high : Nat) (text : String) : Bool := low ≤ text.length && text.length ≤ high

def DurationScalar.valid : DurationScalar → Bool
  | .literal value => 0 ≤ value
  | .dimension name => sized 1 64 name

def TaskValue.valid : TaskValue → Bool
  | .literal _ => true
  | .dimension name => sized 1 64 name

def SeedPool.valid : SeedPool → Bool
  | .explicit values =>
      1 ≤ values.length && values.length ≤ 10000 && values.all (· < 2 ^ 64) && decide values.Nodup
  | .generated seed count => seed < 2 ^ 64 && 1 ≤ count && count ≤ 10000

def PrefixSeed.valid : PrefixSeed → Bool
  | .literal seed => seed < 2 ^ 64
  | .dimension name => sized 1 64 name
  | .pick pool => pool.valid

def validDependencies (dependencies : List RequestDependency) : Bool :=
  dependencies.all (fun dependency => sized 1 120 dependency.step) && decide (dependencies.map (·.step)).Nodup

def InvokeConfig.valid (config : InvokeConfig) : Bool :=
  sized 1 64 config.name && sized 1 64 config.payload && config.role.all (sized 1 64) && config.after.value.valid &&
    validDependencies config.dependsOn

-- run dependencies only wait; they never reuse messages.
def RunConfig.valid (config : RunConfig) : Bool :=
  sized 1 64 config.name && config.role.all (sized 1 64) && config.after.value.valid &&
    validDependencies config.dependsOn && config.prefixSeed.all PrefixSeed.valid &&
    config.dependsOn.all fun dependency => !dependency.reuseMessages

def variableStart (c : Char) : Bool := c.isAlpha || c == '_'

def variablePattern (text : String) : Bool :=
  match text.toList with
  | [] => false
  | first :: rest => variableStart first && rest.all fun c => variableStart c || c.isDigit

def ForEachConfig.valid (config : ForEachConfig) : Bool :=
  sized 1 64 config.name && variablePattern config.variableName && config.variableName.length ≤ 64 &&
    config.values.valid && 1 ≤ config.parallelism && config.parallelism ≤ 10000 && config.after.value.valid

mutual
def TaskNodeSpec.valid : TaskNodeSpec → Bool
  | .invokeNode config => config.valid
  | .runNode config => config.valid
  | .repeatNode name count every node => sized 1 64 name && count.valid && every.value.valid && node.valid
  | .parallelNode name after branch branches =>
      sized 1 64 name && after.value.valid && branch.valid && branches.length < 100 && allValid branches
  | .parallelCount name after count node => sized 1 64 name && after.value.valid && count.valid && node.valid
  | .sequenceNode name after step steps =>
      sized 1 64 name && after.value.valid && step.valid && steps.length < 100 && allValid steps
  | .forEachNode config node => config.valid && node.valid
def allValid : List TaskNodeSpec → Bool
  | [] => true
  | node :: rest => node.valid && allValid rest
end

def TaskInstancesConfig.valid (config : TaskInstancesConfig) : Bool :=
  config.matrix.rows.all (fun dimension =>
    sized 1 64 dimension.1 && 1 ≤ dimension.2.length && dimension.2.length ≤ 100 && decide dimension.2.Nodup) &&
    1 ≤ config.trials && config.trials ≤ 1000 && config.seed < 2 ^ 64

def TaskRecipe.valid (recipe : TaskRecipe) : Bool :=
  sized 1 200 recipe.name && recipe.instances.valid && recipe.payloads.rows.length ≤ 100 &&
    recipe.payloads.rows.all (fun payload => sized 1 64 payload.2.seed && payload.2.text.all fun text => 1 ≤ text.length) &&
    recipe.roots.length < 100 && allValid recipe.workflow

theorem duration_nonneg (dimensions : Dimensions) (duration : TaskDuration) (seconds : Rat)
    (resolved : duration.resolve dimensions = .ok seconds) : 0 ≤ seconds := by
  rw [TaskDuration.resolve] at resolved
  cases read : duration.scalar dimensions with
  | error message => simp [read, bind, Except.bind] at resolved
  | ok scalar =>
      simp only [read, bind, Except.bind] at resolved
      by_cases negative : scalar * duration.unit.seconds < 0
      · simp [negative] at resolved
      · simp only [if_neg negative, Except.ok.injEq] at resolved
        exact resolved ▸ not_lt.mp negative

@[simp] theorem zero_duration (dimensions : Dimensions) : TaskDuration.zero.resolve dimensions = .ok 0 := by
  simp [TaskDuration.resolve, TaskDuration.scalar, TaskDuration.zero, bind, Except.bind, DurationUnit.seconds]

end LlmperfOrchestrator.Compiler

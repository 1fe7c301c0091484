import LlmperfOrchestrator.Compiler.Graph
import LlmperfOrchestrator.Library.Documents

set_option autoImplicit false

namespace LlmperfOrchestrator.Compiler

open Documents

section Dump

-- model_dump(mode="json", exclude_none=True)
def DurationUnit.text : DurationUnit → String
  | .ms => "ms"
  | .s => "s"
  | .m => "m"
  | .h => "h"
  | .d => "d"

def dumpReference (name : String) : Document := .record [("dimension", .text name)]

def dumpValue : TaskValue → Document
  | .literal value => .integer value
  | .dimension name => dumpReference name

def dumpScalar : DurationScalar → Document
  | .literal value => .number value
  | .dimension name => dumpReference name

def dumpDuration (duration : TaskDuration) : Document :=
  .record [("value", dumpScalar duration.value), ("unit", .text duration.unit.text)]

def dumpPool : SeedPool → Document
  | .explicit values => .listOf (values.map fun (value : Nat) => .integer (value : Int))
  | .generated seed count => .record [("seed", .integer seed), ("count", .integer count)]

def dumpPrefixSeed : PrefixSeed → Document
  | .literal seed => .integer seed
  | .dimension name => dumpReference name
  | .pick pool => .record [("pick", dumpPool pool)]

def dumpDependency (dependency : RequestDependency) : Document :=
  .record [("step", .text dependency.step), ("reuse_messages", .boolean dependency.reuseMessages)]

def dumpDependencies (dependencies : List RequestDependency) : Document := .listOf (dependencies.map dumpDependency)

def InvokeConfig.dump (config : InvokeConfig) : Document :=
  .record ([("depends_on", dumpDependencies config.dependsOn), ("name", .text config.name), ("payload", .text config.payload)] ++
    Document.optional "role" (config.role.map .text) ++ [("after", dumpDuration config.after)])

def RunConfig.dump (config : RunConfig) : Document :=
  .record ([("depends_on", dumpDependencies config.dependsOn), ("name", .text config.name)] ++
    Document.optional "role" (config.role.map .text) ++ [("after", dumpDuration config.after)] ++
    Document.optional "prefix_seed" (config.prefixSeed.map dumpPrefixSeed))

mutual
def dumpNode : TaskNodeSpec → Document
  | .invokeNode config => .record [("invoke", config.dump)]
  | .runNode config => .record [("run", config.dump)]
  | .repeatNode name count every node =>
      .record [("repeat", .record [("name", .text name), ("count", dumpValue count), ("every", dumpDuration every),
        ("node", dumpNode node)])]
  | .parallelNode name after branch branches =>
      .record [("parallel", .record [("name", .text name), ("after", dumpDuration after),
        ("branches", .list (.cons (dumpNode branch) (dumpNodes branches)))])]
  | .parallelCount name after count node =>
      .record [("parallel", .record [("name", .text name), ("after", dumpDuration after), ("count", dumpValue count),
        ("node", dumpNode node)])]
  | .sequenceNode name after step steps =>
      .record [("sequence", .record [("name", .text name), ("after", dumpDuration after),
        ("steps", .list (.cons (dumpNode step) (dumpNodes steps)))])]
  | .forEachNode config node =>
      .record [("for_each", .record [("name", .text config.name), ("variable", .text config.variableName),
        ("values", dumpPool config.values), ("parallelism", .integer config.parallelism),
        ("after", dumpDuration config.after), ("node", dumpNode node)])]
def dumpNodes : List TaskNodeSpec → Items
  | [] => .nil
  | node :: rest => .cons (dumpNode node) (dumpNodes rest)
end

end Dump

section Bind

-- document == {"dimension": variable}
def isReference (variableName : String) : Fields → Bool
  | .cons key (.text name) .nil => key == "dimension" && name == variableName
  | _ => false

def rebindsLoop (variableName : String) (fields : Fields) : Bool :=
  match fields.get "for_each" with
  | some (.object loop) =>
      match loop.get "variable" with
      | some (.text name) => name == variableName
      | _ => false
  | _ => false

mutual
-- _bind_loop_value
def bindDocument (variableName : String) (value : Nat) : Document → Except String Document
  | .object fields =>
      if isReference variableName fields then .ok (.integer value)
      else if rebindsLoop variableName fields then .error (shadowedVariable variableName)
      else do
        let fields ← bindFields variableName value fields
        .ok (.object fields)
  | .list items => do
      let items ← bindItems variableName value items
      .ok (.list items)
  | document => .ok document
def bindItems (variableName : String) (value : Nat) : Items → Except String Items
  | .nil => .ok .nil
  | .cons item rest => do
      let item ← bindDocument variableName value item
      let rest ← bindItems variableName value rest
      .ok (.cons item rest)
def bindFields (variableName : String) (value : Nat) : Fields → Except String Fields
  | .nil => .ok .nil
  | .cons key child rest => do
      let child ← bindDocument variableName value child
      let rest ← bindFields variableName value rest
      .ok (.cons key child rest)
end

attribute [grind =] bindDocument bindItems bindFields

end Bind

-- pydantic lists every failing field; the first one stands for them here. Of
-- its lax conversions only the one from integer to float is kept, since a dump
-- never writes a number as text.

section Fields

variable {Value : Type}

def fieldRequired : String := "Field required"

def invalidModel (model : String) : String := s!"Input should be a valid dictionary or instance of {model}"

def forbidExtra (allowed : List String) (fields : Fields) : Except String Unit :=
  if fields.keys.all fun key => decide (key ∈ allowed) then .ok () else .error "Extra inputs are not permitted"

def required (key : String) (read : Document → Except String Value) (fields : Fields) : Except String Value :=
  match fields.get key with
  | none => .error fieldRequired
  | some document => read document

def defaulted (key : String) (read : Document → Except String Value) (value : Value) (fields : Fields) : Except String Value :=
  match fields.get key with
  | none => .ok value
  | some document => read document

def nullable (key : String) (read : Document → Except String Value) (fields : Fields) : Except String (Option Value) :=
  match fields.get key with
  | none => .ok none
  | some .null => .ok none
  | some document => (read document).map some

end Fields

section Scalars

def validateText (high : Nat) : Document → Except String String
  | .text value =>
      if value.length < 1 then .error "String should have at least 1 character"
      else if high < value.length then .error s!"String should have at most {high} characters"
      else .ok value
  | _ => .error "Input should be a valid string"

def validateFlag : Document → Except String Bool
  | .boolean value => .ok value
  | _ => .error "Input should be a valid boolean"

def validateCount (low high : Nat) : Document → Except String Nat
  | .integer value =>
      if value < low then .error s!"Input should be greater than or equal to {low}"
      else if high < value then .error s!"Input should be less than or equal to {high}"
      else .ok value.toNat
  | _ => .error "Input should be a valid integer"

def maxSeed : Nat := 2 ^ 64 - 1

-- str.strip() removes what str.isspace() accepts.
def pythonSpace (c : Char) : Bool :=
  c.toNat ∈ [9, 10, 11, 12, 13, 28, 29, 30, 31, 32, 133, 160, 5760, 8232, 8233, 8239, 8287, 12288] ||
    (8192 ≤ c.toNat && c.toNat ≤ 8202)

def strip (text : List Char) : List Char :=
  ((text.dropWhile pythonSpace).reverse.dropWhile pythonSpace).reverse

-- _parse_task_value
def parseTaskValue : Document → Document
  | .text raw =>
      match strip raw.toList with
      | '$' :: name => if variablePattern (String.ofList name) then dumpReference (String.ofList name) else .text raw
      | _ => .text raw
  | document => document

def validateReference : Document → Except String String
  | .object fields => do
      forbidExtra ["dimension"] fields
      required "dimension" (validateText 64) fields
  | _ => .error (invalidModel "DimensionReference")

def validateTaskValue (document : Document) : Except String TaskValue :=
  match parseTaskValue document with
  | .integer value => .ok (.literal value)
  | document => (validateReference document).map .dimension

def validatePool (duplicates : String) : Document → Except String SeedPool
  | .list items => do
      let values ← items.toList.mapM (validateCount 0 maxSeed)
      if values.length < 1 then .error "List should have at least 1 item after validation, not 0"
      else if 10000 < values.length then
        .error s!"List should have at most 10000 items after validation, not {values.length}"
      else if ¬ values.Nodup then .error duplicates
      else .ok (.explicit values)
  | .object fields => do
      forbidExtra ["seed", "count"] fields
      let seed ← required "seed" (validateCount 0 maxSeed) fields
      let count ← required "count" (validateCount 1 10000) fields
      .ok (.generated seed count)
  | _ => .error "Input should be a valid list"

def validatePrefixSeed (document : Document) : Except String PrefixSeed :=
  match parseTaskValue document with
  | .object fields =>
      match fields.get "pick" with
      | some pool => do
          forbidExtra ["pick"] fields
          let pool ← validatePool "pick values must be unique" pool
          .ok (.pick pool)
      | none => (validateReference (.object fields)).map .dimension
  | document => (validateCount 0 maxSeed document).map .literal

def booleanDuration : String := "duration cannot be a boolean"

-- Numbers mean seconds; objects carry explicit units.
def normalizeScalar : Document → Except String Document
  | .boolean _ => .error booleanDuration
  | .integer value => .ok (.record [("value", .integer value), ("unit", .text "s")])
  | .number value => .ok (.record [("value", .number value), ("unit", .text "s")])
  | .text value => .ok (.record [("value", .text value), ("unit", .text "s")])
  | document => .ok document

def validateScalar (document : Document) : Except String DurationScalar :=
  match parseTaskValue document with
  | .boolean _ => .error booleanDuration
  | .integer value => .ok (.literal value)
  | .number value => .ok (.literal value)
  | document => (validateReference document).map .dimension

def validateUnit : Document → Except String DurationUnit
  | .text name =>
      if name = "ms" then .ok .ms
      else if name = "s" then .ok .s
      else if name = "m" then .ok .m
      else if name = "h" then .ok .h
      else if name = "d" then .ok .d
      else .error "Input should be 'ms', 's', 'm', 'h' or 'd'"
  | _ => .error "Input should be 'ms', 's', 'm', 'h' or 'd'"

def validateLiteral : DurationScalar → Except String Unit
  | .literal value => if value < 0 then .error "duration must be finite and nonnegative" else .ok ()
  | .dimension _ => .ok ()

def validateDuration (document : Document) : Except String TaskDuration := do
  match ← normalizeScalar document with
  | .object fields =>
      forbidExtra ["value", "unit"] fields
      let value ← required "value" validateScalar fields
      let unit ← defaulted "unit" validateUnit .s fields
      validateLiteral value
      .ok ⟨value, unit⟩
  | _ => .error (invalidModel "TaskDuration")

end Scalars

section Configs

-- parse_name of RequestDependency: a bare name is its step.
def parseName : Document → Document
  | .text name => .record [("step", .text name)]
  | document => document

def validateDependency (document : Document) : Except String RequestDependency :=
  match parseName document with
  | .object fields => do
      forbidExtra ["step", "reuse_messages"] fields
      let step ← required "step" (validateText 120) fields
      let reuseMessages ← defaulted "reuse_messages" validateFlag false fields
      .ok ⟨step, reuseMessages⟩
  | _ => .error (invalidModel "RequestDependency")

def validateDependencies : Document → Except String (List RequestDependency)
  | .list items => do
      let dependencies ← items.toList.mapM validateDependency
      if (dependencies.map (·.step)).Nodup then .ok dependencies
      else .error "depends_on cannot contain duplicate references"
  | _ => .error "Input should be a valid list"

def InvokeConfig.validate (fields : Fields) : Except String InvokeConfig := do
  forbidExtra ["depends_on", "name", "payload", "role", "after"] fields
  let dependsOn ← defaulted "depends_on" validateDependencies [] fields
  let name ← required "name" (validateText 64) fields
  let payload ← required "payload" (validateText 64) fields
  let role ← nullable "role" (validateText 64) fields
  let after ← defaulted "after" validateDuration .zero fields
  .ok { name := name, payload := payload, role := role, after := after, dependsOn := dependsOn }

def RunConfig.validate (fields : Fields) : Except String RunConfig := do
  forbidExtra ["depends_on", "name", "role", "after", "prefix_seed"] fields
  let dependsOn ← defaulted "depends_on" validateDependencies [] fields
  let name ← required "name" (validateText 64) fields
  let role ← nullable "role" (validateText 64) fields
  let after ← defaulted "after" validateDuration .zero fields
  let prefixSeed ← nullable "prefix_seed" validatePrefixSeed fields
  if dependsOn.any (·.reuseMessages) then
    .error "run dependencies only wait; define message reuse in request.steps or invoke"
  else .ok { name := name, role := role, after := after, dependsOn := dependsOn, prefixSeed := prefixSeed }

def validateVariable : Document → Except String String
  | .text value =>
      if 64 < value.length then .error "String should have at most 64 characters"
      else if variablePattern value then .ok value
      else .error "String should match pattern '^[A-Za-z_][A-Za-z0-9_]*$'"
  | _ => .error "Input should be a valid string"

def ForEachConfig.validate (fields : Fields) : Except String ForEachConfig := do
  let name ← required "name" (validateText 64) fields
  let variableName ← required "variable" validateVariable fields
  let values ← required "values" (validatePool "for_each values must be unique") fields
  let parallelism ← defaulted "parallelism" (validateCount 1 10000) 1 fields
  let after ← defaulted "after" validateDuration .zero fields
  .ok { name := name, variableName := variableName, values := values, parallelism := parallelism, after := after }

end Configs

-- What a child under a key validates to, where the key is there.
abbrev ValidatedChild := Option (Except String TaskNodeSpec)
abbrev ValidatedList := Option (Except String (List TaskNodeSpec))

section Primitives

def listed (high : Nat) (nodes : List TaskNodeSpec) : Except String (TaskNodeSpec × List TaskNodeSpec) :=
  match nodes with
  | [] => .error "List should have at least 1 item after validation, not 0"
  | node :: rest =>
      if high < nodes.length then .error s!"List should have at most {high} items after validation, not {nodes.length}"
      else .ok (node, rest)

def validateRepeat (fields : Fields) (node : ValidatedChild) : Except String TaskNodeSpec := do
  forbidExtra ["name", "count", "every", "node"] fields
  let name ← required "name" (validateText 64) fields
  let count ← required "count" validateTaskValue fields
  let every ← defaulted "every" validateDuration .zero fields
  let node ← node.getD (.error fieldRequired)
  .ok (.repeatNode name count every node)

def present {Value : Type} (key : String) (fields : Fields) (value : Option Value) : Option Value :=
  match fields.get key with
  | some .null => none
  | _ => value

-- validate_expansion: branches, or both count and node.
def validateParallel (fields : Fields) (branches : ValidatedList) (node : ValidatedChild) : Except String TaskNodeSpec := do
  forbidExtra ["name", "after", "branches", "count", "node"] fields
  let name ← required "name" (validateText 64) fields
  let after ← defaulted "after" validateDuration .zero fields
  let count ← nullable "count" validateTaskValue fields
  match present "branches" fields branches, count, present "node" fields node with
  | some branches, none, none =>
      let nodes ← branches
      let (branch, branches) ← listed 100 nodes
      .ok (.parallelNode name after branch branches)
  | some _, _, _ => .error "parallel accepts branches or count/node, not both"
  | none, some count, some node =>
      let node ← node
      .ok (.parallelCount name after count node)
  | none, _, _ => .error "parallel requires branches or both count and node"

def validateSequence (fields : Fields) (steps : ValidatedList) : Except String TaskNodeSpec := do
  forbidExtra ["name", "after", "steps"] fields
  let name ← required "name" (validateText 64) fields
  let after ← defaulted "after" validateDuration .zero fields
  let steps ← steps.getD (.error fieldRequired)
  let (step, steps) ← listed 100 steps
  .ok (.sequenceNode name after step steps)

def validateForEach (fields : Fields) (node : ValidatedChild) : Except String TaskNodeSpec := do
  forbidExtra ["name", "variable", "values", "parallelism", "after", "node"] fields
  let config ← ForEachConfig.validate fields
  let node ← node.getD (.error fieldRequired)
  .ok (.forEachNode config node)

end Primitives

mutual
-- TaskNodeSpec.model_validate
def validateNode : Document → Except String TaskNodeSpec
  | .object fields => do
      match ← validatePrimitives fields with
      | [node] => .ok node
      | _ => .error "task node must define exactly one primitive"
  | _ => .error (invalidModel "TaskNodeSpec")
def validatePrimitives : Fields → Except String (List TaskNodeSpec)
  | .nil => .ok []
  | .cons key .null rest =>
      if key ∈ ["invoke", "run", "repeat", "parallel", "sequence", "for_each"] then validatePrimitives rest
      else .error "Extra inputs are not permitted"
  | .cons key (.object config) rest => do
      let node ←
        if key = "invoke" then (InvokeConfig.validate config).map .invokeNode
        else if key = "run" then (RunConfig.validate config).map .runNode
        else if key = "repeat" then validateRepeat config (childNode config)
        else if key = "parallel" then validateParallel config (childNodes "branches" config) (childNode config)
        else if key = "sequence" then validateSequence config (childNodes "steps" config)
        else if key = "for_each" then validateForEach config (childNode config)
        else .error "Extra inputs are not permitted"
      let others ← validatePrimitives rest
      .ok (node :: others)
  | .cons _ _ _ => .error (invalidModel "NodeConfig")
def childNode : Fields → ValidatedChild
  | .nil => none
  | .cons key value rest => if key = "node" then some (validateNode value) else childNode rest
def childNodes (name : String) : Fields → ValidatedList
  | .nil => none
  | .cons key (.list items) rest => if key = name then some (validateNodes items) else childNodes name rest
  | .cons key _ rest => if key = name then some (.error "Input should be a valid list") else childNodes name rest
def validateNodes : Items → Except String (List TaskNodeSpec)
  | .nil => .ok []
  | .cons item rest => do
      let node ← validateNode item
      let others ← validateNodes rest
      .ok (node :: others)
end

attribute [grind =] validateNode validatePrimitives childNode childNodes validateNodes

end LlmperfOrchestrator.Compiler

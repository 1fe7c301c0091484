import LlmperfOrchestrator.Compiler.Expansion
import LlmperfOrchestrator.Library.Outcomes

set_option autoImplicit false

namespace LlmperfOrchestrator.Compiler

open Tables SeriesParallel Outcomes

structure Invocation where
  role : String
  payloadId : Option String
  messageSources : List NodeId
  executionKind : ExecutionKind
  prefixSeed : Option PrefixSeed
deriving DecidableEq, Repr

abbrev Tree := Term NodeId Rat Invocation
abbrev TreeRow := Row NodeId Rat Invocation

def InvokeConfig.leaf (config : InvokeConfig) (path : Path) (ownDelay : Rat) : TreeRow :=
  { node := qualifiedName path config.name, dependencies := dependencyReferences path config.dependsOn,
    after := ownDelay,
    data :=
      { role := config.effectiveRole, payloadId := some config.payload,
        messageSources := messageReferences path config.dependsOn, executionKind := .atomic, prefixSeed := none } }

def RunConfig.leaf (config : RunConfig) (path : Path) (ownDelay : Rat) : TreeRow :=
  { node := qualifiedName path config.name, dependencies := dependencyReferences path config.dependsOn,
    after := ownDelay,
    data :=
      { role := config.role.getD config.name, payloadId := none, messageSources := [], executionKind := .batch,
        prefixSeed := config.prefixSeed } }

def sequenceTree (delay : Rat) (steps : List Tree) : Tree := .delayed delay (serialList steps)

def parallelTree (delay : Rat) : List Tree → Except String Tree
  | [] => .error "integer division or modulo by zero"
  | branch :: others => .ok (.delayed delay (parallelList branch others))

-- The tree a node stands for at one matrix coordinate: its repeats, counted
-- branches and loop values written out, every child under its qualified path.
def unfold (sha256 : Sha256) (dimensions : Dimensions) : Nat → TaskNodeSpec → Path → Except String Tree
  | 0, _, _ => .error depthExceeded
  | _ + 1, .invokeNode config, path => do
      let ownDelay ← config.after.resolve dimensions
      .ok (.leaf (config.leaf path ownDelay))
  | _ + 1, .runNode config, path => do
      let ownDelay ← config.after.resolve dimensions
      .ok (.leaf (config.leaf path ownDelay))
  | levels + 1, .repeatNode name count every node, path => do
      let iterations ← repeatCount dimensions count
      let interval ← every.resolve dimensions
      let trees ← (List.range' 1 iterations).mapM fun iteration =>
        unfold sha256 dimensions levels node (path ++ [name, toString iteration])
      .ok (serialList (trees.map (.delayed interval)))
  | levels + 1, .parallelNode name after branch branches, path => do
      let ownDelay ← after.resolve dimensions
      let trees ← (branch :: branches).mapM fun node => unfold sha256 dimensions levels node (path ++ [name])
      parallelTree ownDelay trees
  | levels + 1, .parallelCount name after count node, path => do
      let ownDelay ← after.resolve dimensions
      let copies ← branchCount dimensions count
      let trees ← (List.range' 1 copies).mapM fun index =>
        unfold sha256 dimensions levels node (path ++ [name, toString index])
      parallelTree ownDelay trees
  | levels + 1, .sequenceNode name after step steps, path => do
      let ownDelay ← after.resolve dimensions
      let trees ← (step :: steps).mapM fun node => unfold sha256 dimensions levels node (path ++ [name])
      .ok (sequenceTree ownDelay trees)
  | levels + 1, .forEachNode config template, path => do
      let laneDelay ← config.after.resolve dimensions
      let lanes ← (expandedLanes sha256 config).mapM fun lane => do
        let members ← lane.2.mapM (bindMember config template)
        let trees ← members.mapM fun member => do
          let tree ← unfold sha256 dimensions levels member.2 (path ++ [config.name, lane.1, member.1])
          .ok (sequenceTree 0 [tree])
        .ok (sequenceTree 0 trees)
      parallelTree laneDelay lanes

def workflowTree (sha256 : Sha256) (recipe : TaskRecipe) (dimensions : Dimensions) : Except String Tree := do
  let roots ← recipe.workflow.mapM fun root => unfold sha256 dimensions maxGraphDepth root []
  .ok (serialList roots)

section Emission

variable (sha256 : Sha256) (context : InstanceContext) (instanceKey : String)

def emission (row : TreeRow) (prefixSeed : Option Nat) : Emission :=
  { nodeId := row.node, dependencies := row.dependencies, afterSeconds := row.after, role := row.data.role,
    payloadId := row.data.payloadId, messageSources := row.data.messageSources,
    executionKind := row.data.executionKind, prefixSeed := prefixSeed }

def emitRow (builder : GraphBuilder) (row : TreeRow) : Except String GraphBuilder := do
  let prefixSeed ← context.resolveRunSeed sha256 row.node row.data.prefixSeed
  builder.emit sha256 context instanceKey (emission row prefixSeed)

-- One node's expansion with its path fixed, and the tree it stands for.
abbrev Step := GraphBuilder → Frontier → Rat → Except String (GraphBuilder × Frontier)

def Denotes (step : Step) (result : Except String Tree) : Prop :=
  ∀ builder incoming delay grown outgoing,
    step builder incoming delay = .ok (grown, outgoing) ↔
      ∃ tree, result = .ok tree ∧
        (tree.rows incoming delay).foldlM (emitRow sha256 context instanceKey) builder = .ok grown ∧
        tree.exits incoming = outgoing

end Emission

namespace Step

def idle : Step := fun builder incoming _ => .ok (builder, incoming)

def serial (first rest : Step) : Step := fun builder incoming delay => do
  let (builder, frontier) ← first builder incoming delay
  rest builder frontier 0

def parallel (left right : Step) : Step := fun builder incoming delay => do
  let (builder, leftFrontier) ← left builder incoming delay
  let (builder, rightFrontier) ← right builder incoming delay
  .ok (builder, leftFrontier ++ rightFrontier)

def delayed (own : Rat) (body : Step) : Step := fun builder incoming delay => body builder incoming (delay + own)

def serialList (steps : List Step) : Step := steps.foldr serial idle

def parallelList (branch : Step) : List Step → Step
  | [] => branch
  | next :: others => branch.parallel (parallelList next others)

end Step

def Expand.at_ (expand : Expand) (path : Path) : Step := fun builder incoming delay => expand builder incoming path delay

section Loops

variable {Item : Type}

theorem later_steps (steps : List Expand) (path : Path) (delay : Rat) (builder : GraphBuilder) (incoming : Frontier)
    (index : Nat) :
    (steps.zipIdx (index + 1)).foldlM (fun (state : GraphBuilder × Frontier) step =>
        step.1 state.1 state.2 path (if step.2 = 0 then delay else 0)) (builder, incoming) =
      Step.serialList (steps.map fun step => step.at_ path) builder incoming 0 := by
  induction steps generalizing index builder incoming with
  | nil => rfl
  | cons step rest ih =>
      simp only [List.zipIdx_cons, List.foldlM_cons, Nat.add_eq_zero_iff, one_ne_zero, and_false, if_false]
      change _ = (step builder incoming path 0 >>= fun state => _)
      cases taken : step builder incoming path 0 with
      | error message => rfl
      | ok state => exact ih state.1 state.2 (index + 1)

theorem sequence_loop (dimensions : Dimensions) (name : String) (after : TaskDuration) (steps : List Expand) (path : Path)
    (builder : GraphBuilder) (incoming : Frontier) (inherited : Rat) :
    expandSequence dimensions name after steps builder incoming path inherited =
      (after.resolve dimensions >>= fun ownDelay =>
        Step.delayed ownDelay (Step.serialList (steps.map fun step => step.at_ (path ++ [name]))) builder incoming
          inherited) := by
  rw [expandSequence]
  congr 1
  funext ownDelay
  cases steps with
  | nil => rfl
  | cons step rest =>
      simp only [List.zipIdx_cons, List.foldlM_cons, if_true]
      change _ = (step builder incoming (path ++ [name]) (inherited + ownDelay) >>= fun state => _)
      cases taken : step builder incoming (path ++ [name]) (inherited + ownDelay) with
      | error message => rfl
      | ok state => exact later_steps rest (path ++ [name]) (inherited + ownDelay) state.1 state.2 0

theorem later_iterations (node : Expand) (path : Path) (name : String) (interval inherited : Rat) (start count : Nat)
    (builder : GraphBuilder) (incoming : Frontier) :
    (List.range' (start + 2) count).foldlM (fun (state : GraphBuilder × Frontier) iteration =>
        node state.1 state.2 (path ++ [name, toString iteration])
          (if iteration = 1 then interval + inherited else interval)) (builder, incoming) =
      Step.serialList ((List.range' (start + 2) count).map fun iteration =>
        Step.delayed interval (node.at_ (path ++ [name, toString iteration]))) builder incoming 0 := by
  induction count generalizing start builder incoming with
  | zero => rfl
  | succ count ih =>
      rw [List.range'_succ]
      simp only [List.foldlM_cons, List.map_cons, if_neg (show start + 2 ≠ 1 by omega)]
      change _ = (node builder incoming (path ++ [name, toString (start + 2)]) (0 + interval) >>= fun state => _)
      rw [zero_add]
      cases taken : node builder incoming (path ++ [name, toString (start + 2)]) interval with
      | error message => rfl
      | ok state => exact ih (start + 1) state.1 state.2

theorem repeat_loop (node : Expand) (path : Path) (name : String) (interval inherited : Rat) (count : Nat)
    (builder : GraphBuilder) (incoming : Frontier) :
    (List.range' 1 count).foldlM (fun (state : GraphBuilder × Frontier) iteration =>
        node state.1 state.2 (path ++ [name, toString iteration])
          (if iteration = 1 then interval + inherited else interval)) (builder, incoming) =
      Step.serialList ((List.range' 1 count).map fun iteration =>
        Step.delayed interval (node.at_ (path ++ [name, toString iteration]))) builder incoming inherited := by
  cases count with
  | zero => rfl
  | succ count =>
      rw [List.range'_succ]
      simp only [List.foldlM_cons, List.map_cons, if_true]
      change _ = (node builder incoming (path ++ [name, toString 1]) (inherited + interval) >>= fun state => _)
      rw [add_comm inherited interval]
      cases taken : node builder incoming (path ++ [name, toString 1]) (interval + inherited) with
      | error message => rfl
      | ok state => exact later_iterations node path name interval inherited 0 count state.1 state.2

def joinBranches (branches : List Step) (incoming : Frontier) (delay : Rat) (state : GraphBuilder × Frontier) :
    Except String (GraphBuilder × Frontier) :=
  branches.foldlM (fun (state : GraphBuilder × Frontier) branch => do
    let (builder, frontier) ← branch state.1 incoming delay
    .ok (builder, state.2 ++ frontier)) state

theorem join_loop (branch : Step) (others : List Step) (incoming : Frontier) (delay : Rat) (builder : GraphBuilder)
    (joined : Frontier) :
    joinBranches (branch :: others) incoming delay (builder, joined) =
      (Step.parallelList branch others builder incoming delay >>= fun state => .ok (state.1, joined ++ state.2)) := by
  induction others generalizing branch builder joined with
  | nil =>
      simp only [joinBranches, List.foldlM_cons, List.foldlM_nil, Step.parallelList]
      cases branch builder incoming delay <;> rfl
  | cons next others ih =>
      rw [joinBranches, List.foldlM_cons]
      change _ = (Step.parallel branch (Step.parallelList next others) builder incoming delay >>= _)
      simp only [Step.parallel]
      cases taken : branch builder incoming delay with
      | error message => rfl
      | ok state =>
          change joinBranches (next :: others) incoming delay (state.1, joined ++ state.2) = _
          rw [ih]
          change _ = ((Step.parallelList next others state.1 incoming delay >>= _) >>= _)
          cases Step.parallelList next others state.1 incoming delay with
          | error message => rfl
          | ok later => simp [bind, Except.bind, List.append_assoc]

theorem join_start (branch : Step) (others : List Step) (incoming : Frontier) (delay : Rat) (builder : GraphBuilder) :
    joinBranches (branch :: others) incoming delay (builder, []) =
      Step.parallelList branch others builder incoming delay := by
  rw [join_loop]
  cases Step.parallelList branch others builder incoming delay <;> rfl

end Loops

section Denotations

variable {Item : Type} (sha256 : Sha256) (context : InstanceContext) (instanceKey : String)

theorem denotes_idle : Denotes sha256 context instanceKey Step.idle (.ok .empty) := by
  intro builder incoming delay grown outgoing
  simp [Step.idle, Term.rows, Term.exits, pure, Except.pure]

theorem denotes_serial (first rest : Step) (firstTree restTree : Except String Tree)
    (firstHolds : Denotes sha256 context instanceKey first firstTree)
    (restHolds : Denotes sha256 context instanceKey rest restTree) :
    Denotes sha256 context instanceKey (first.serial rest)
      (firstTree >>= fun a => restTree >>= fun b => .ok (.serial a b)) := by
  intro builder incoming delay grown outgoing
  simp only [Step.serial, bind_ok, Prod.exists]
  constructor
  · rintro ⟨middle, frontier, taken, later⟩
    obtain ⟨a, isA, emittedA, rfl⟩ := (firstHolds _ _ _ _ _).mp taken
    obtain ⟨b, isB, emittedB, rfl⟩ := (restHolds _ _ _ _ _).mp later
    refine ⟨.serial a b, ⟨a, isA, b, isB, rfl⟩, ?_, rfl⟩
    simp only [Term.rows, List.foldlM_append, bind_ok]
    exact ⟨middle, emittedA, emittedB⟩
  · rintro ⟨tree, ⟨a, isA, b, isB, same⟩, emitted, rfl⟩
    cases same
    simp only [Term.rows, List.foldlM_append, bind_ok] at emitted
    obtain ⟨middle, emittedA, emittedB⟩ := emitted
    exact ⟨middle, a.exits incoming, (firstHolds _ _ _ _ _).mpr ⟨a, isA, emittedA, rfl⟩,
      (restHolds _ _ _ _ _).mpr ⟨b, isB, emittedB, rfl⟩⟩

theorem denotes_parallel (left right : Step) (leftTree rightTree : Except String Tree)
    (leftHolds : Denotes sha256 context instanceKey left leftTree)
    (rightHolds : Denotes sha256 context instanceKey right rightTree) :
    Denotes sha256 context instanceKey (left.parallel right)
      (leftTree >>= fun a => rightTree >>= fun b => .ok (.parallel a b)) := by
  intro builder incoming delay grown outgoing
  simp only [Step.parallel, bind_ok, Prod.exists]
  constructor
  · rintro ⟨middle, leftFrontier, taken, last, rightFrontier, later, done⟩
    cases done
    obtain ⟨a, isA, emittedA, rfl⟩ := (leftHolds _ _ _ _ _).mp taken
    obtain ⟨b, isB, emittedB, rfl⟩ := (rightHolds _ _ _ _ _).mp later
    refine ⟨.parallel a b, ⟨a, isA, b, isB, rfl⟩, ?_, rfl⟩
    simp only [Term.rows, List.foldlM_append, bind_ok]
    exact ⟨middle, emittedA, emittedB⟩
  · rintro ⟨tree, ⟨a, isA, b, isB, same⟩, emitted, rfl⟩
    cases same
    simp only [Term.rows, List.foldlM_append, bind_ok] at emitted
    obtain ⟨middle, emittedA, emittedB⟩ := emitted
    exact ⟨middle, a.exits incoming, (leftHolds _ _ _ _ _).mpr ⟨a, isA, emittedA, rfl⟩, grown, b.exits incoming,
      (rightHolds _ _ _ _ _).mpr ⟨b, isB, emittedB, rfl⟩, rfl⟩

theorem denotes_delayed (own : Rat) (body : Step) (tree : Except String Tree)
    (holds : Denotes sha256 context instanceKey body tree) :
    Denotes sha256 context instanceKey (body.delayed own) (tree >>= fun a => .ok (.delayed own a)) := by
  intro builder incoming delay grown outgoing
  simp only [Step.delayed, bind_ok]
  constructor
  · intro taken
    obtain ⟨a, isA, emitted, exits⟩ := (holds _ _ _ _ _).mp taken
    exact ⟨.delayed own a, ⟨a, isA, rfl⟩, emitted, exits⟩
  · rintro ⟨_, ⟨a, isA, same⟩, emitted, exits⟩
    cases same
    exact (holds _ _ _ _ _).mpr ⟨a, isA, emitted, exits⟩

theorem denotes_resolved (resolved : Except String Item) (step : Item → Step) (tree : Item → Except String Tree)
    (holds : ∀ value, resolved = .ok value → Denotes sha256 context instanceKey (step value) (tree value)) :
    Denotes sha256 context instanceKey (fun builder incoming delay => resolved >>= fun value => step value builder incoming delay)
      (resolved >>= tree) := by
  cases resolved with
  | error message =>
      intro builder incoming delay grown outgoing
      constructor
      · intro absurd_
        cases absurd_
      · rintro ⟨_, absurd_, _⟩
        cases absurd_
  | ok value => exact holds value rfl

theorem denotes_serial_list (items : List Item) (step : Item → Step) (tree : Item → Except String Tree)
    (holds : ∀ item ∈ items, Denotes sha256 context instanceKey (step item) (tree item)) :
    Denotes sha256 context instanceKey (Step.serialList (items.map step))
      (items.mapM tree >>= fun trees => .ok (serialList trees)) := by
  induction items with
  | nil => exact denotes_idle sha256 context instanceKey
  | cons item rest ih =>
      have composed := denotes_serial sha256 context instanceKey _ _ _ _ (holds item List.mem_cons_self)
        (ih fun other member => holds other (List.mem_cons_of_mem item member))
      have same : ((item :: rest).mapM tree >>= fun trees => Except.ok (serialList trees)) =
          (tree item >>= fun a => (rest.mapM tree >>= fun trees => Except.ok (serialList trees)) >>= fun b =>
            Except.ok (Term.serial a b)) := by
        rw [List.mapM_cons]
        cases tree item with
        | error message => rfl
        | ok a =>
            change (rest.mapM tree >>= _) >>= _ = _
            cases rest.mapM tree <;> rfl
      rw [same]
      exact composed

theorem denotes_branches (item : Item) (others : List Item) (step : Item → Step) (tree : Item → Except String Tree)
    (holds : ∀ other ∈ item :: others, Denotes sha256 context instanceKey (step other) (tree other)) :
    Denotes sha256 context instanceKey (Step.parallelList (step item) (others.map step))
      (tree item >>= fun a => others.mapM tree >>= fun rest => .ok (parallelList a rest)) := by
  induction others generalizing item with
  | nil =>
      have same : (tree item >>= fun a => ([] : List Item).mapM tree >>= fun rest => .ok (parallelList a rest)) =
          tree item := by
        cases tree item <;> rfl
      rw [same]
      exact holds item List.mem_cons_self
  | cons next others ih =>
      have composed := denotes_parallel sha256 context instanceKey _ _ _ _ (holds item List.mem_cons_self)
        (ih next fun other member => holds other (List.mem_cons_of_mem item member))
      have same : (tree item >>= fun a => (next :: others).mapM tree >>= fun rest => .ok (parallelList a rest)) =
          (tree item >>= fun a => (tree next >>= fun b => others.mapM tree >>= fun rest =>
            Except.ok (parallelList b rest)) >>= fun c => Except.ok (Term.parallel a c)) := by
        rw [List.mapM_cons]
        cases tree item with
        | error message => rfl
        | ok a =>
            cases tree next with
            | error message => rfl
            | ok b =>
                change (others.mapM tree >>= _) >>= _ = (others.mapM tree >>= _) >>= _
                cases others.mapM tree <;> rfl
      rw [same]
      exact composed

theorem denotes_parallel_list (item : Item) (others : List Item) (step : Item → Step) (tree : Item → Except String Tree)
    (own : Rat) (holds : ∀ other ∈ item :: others, Denotes sha256 context instanceKey (step other) (tree other)) :
    Denotes sha256 context instanceKey (Step.delayed own (Step.parallelList (step item) (others.map step)))
      ((item :: others).mapM tree >>= parallelTree own) := by
  have composed := denotes_delayed sha256 context instanceKey own _ _
    (denotes_branches sha256 context instanceKey item others step tree holds)
  have same : ((item :: others).mapM tree >>= parallelTree own) =
      ((tree item >>= fun a => others.mapM tree >>= fun rest => .ok (parallelList a rest)) >>= fun a =>
        Except.ok (Term.delayed own a)) := by
    rw [List.mapM_cons]
    cases tree item with
    | error message => rfl
    | ok a =>
        change (others.mapM tree >>= _) >>= _ = (others.mapM tree >>= _) >>= _
        cases others.mapM tree <;> rfl
  rw [same]
  exact composed

end Denotations

end LlmperfOrchestrator.Compiler

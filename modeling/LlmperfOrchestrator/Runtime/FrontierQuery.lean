import LlmperfOrchestrator.Runtime.Coordinator

set_option autoImplicit false

namespace LlmperfOrchestrator.Runtime.FrontierQuery

open Tables Storage

abbrev NodeTable := Table DispatchId ExecutionNode
abbrev NodeRow := DispatchId × ExecutionNode

section Query

variable (nodes : NodeTable)

-- ON parent.id = dependency.id AND parent.task_instance_id = candidate.task_instance_id
def parentOf (candidate : ExecutionNode) (dependency : DispatchId) (parent : NodeRow) : Bool :=
  parent.1 = dependency && parent.2.taskInstance = candidate.taskInstance

-- The WHERE clause of the anti-join. The columns of a missing parent are NULL.
def unsettled (parent : Option NodeRow) : Bool :=
  isDistinctFrom (parent.bind fun row => row.2.terminalStatus) (some .succeeded) ||
    (parent.bind fun row => row.2.actualCompletedAt).isNone

def held (candidate : ExecutionNode) : Bool :=
  (leftJoin (parentOf candidate) candidate.dependencies nodes.rows).any fun row => unsettled row.2

def candidates (instanceIds : List InstanceId) : List NodeRow :=
  nodes.filter fun _ candidate => candidate.taskInstance ∈ instanceIds && candidate.state.waiting && !held nodes candidate

-- The UNION of the candidates and their dependencies.
def frontierIds (instanceIds : List InstanceId) : List DispatchId :=
  (candidates nodes instanceIds).map Prod.fst ++ (candidates nodes instanceIds).flatMap fun row => row.2.dependencies

def selectedRows (instanceIds : List InstanceId) : List NodeRow :=
  nodes.filter fun id _ => id ∈ frontierIds nodes instanceIds

-- nodes_by_instance, as snapshots.
def selectedNodes (instanceIds : List InstanceId) (instanceId : InstanceId) : List NodeSnapshot :=
  ((selectedRows nodes instanceIds).filter fun row => row.2.taskInstance = instanceId).map nodeSnapshot

def allNodes (instanceId : InstanceId) : List NodeSnapshot :=
  (nodes.filter fun _ node => node.taskInstance = instanceId).map nodeSnapshot

theorem parent_rows (candidate : ExecutionNode) (dependency : DispatchId) :
    nodes.rows.filter (parentOf candidate dependency) =
      (((nodes.get dependency).filter fun parent => parent.taskInstance = candidate.taskInstance).map
        fun parent => (dependency, parent)).toList := by
  obtain ⟨rows, unique⟩ := nodes
  simp only [Table.get]
  induction rows with
  | nil => rfl
  | cons row rest ih =>
      obtain ⟨id, node⟩ := row
      simp only [Dict.keys, List.map_cons, List.nodup_cons] at unique
      have later := ih unique.2
      by_cases here : id = dependency
      · subst here
        have absent : Dict.get id rest = none := dict_get_absent rest id unique.1
        rw [absent] at later
        have nothing : rest.filter (parentOf candidate id) = [] := later
        by_cases mine : node.taskInstance = candidate.taskInstance
        · have found : parentOf candidate id (id, node) = true := by simp [parentOf, mine]
          rw [List.filter_cons_of_pos found, nothing]
          simp [Dict.get, Option.filter, mine]
        · have other : parentOf candidate id (id, node) ≠ true := by simp [parentOf, mine]
          rw [List.filter_cons_of_neg other, nothing]
          simp [Dict.get, Option.filter, mine]
      · have other : parentOf candidate dependency (id, node) ≠ true := by simp [parentOf, here]
        rw [List.filter_cons_of_neg other, later, Dict.get, if_neg here]

end Query

section Store

variable {Digest : Type} [DecidableEq Digest] (store : Store Digest)

theorem unsettled_parent (candidate : ExecutionNode) (dependency : DispatchId) :
    unsettled (((store.nodes.get dependency).filter fun parent => parent.taskInstance = candidate.taskInstance).map
      fun parent => (dependency, parent)) = !settledParent store candidate.taskInstance dependency := by
  rw [settledParent]
  cases store.nodes.get dependency with
  | none => rfl
  | some parent =>
      by_cases mine : parent.taskInstance = candidate.taskInstance
      · by_cases won : parent.terminalStatus = some .succeeded
        · cases instant : parent.actualCompletedAt <;> simp [unsettled, isDistinctFrom, Option.filter, mine, won, instant]
        · simp [unsettled, isDistinctFrom, Option.filter, mine, won]
      · simp [unsettled, isDistinctFrom, Option.filter, mine]

theorem held_iff (candidate : ExecutionNode) :
    held store.nodes candidate = !candidate.dependencies.all fun dependency =>
      settledParent store candidate.taskInstance dependency := by
  rw [held, left_join_any (parentOf candidate) unsettled _ _ _ fun dependency _ => parent_rows store.nodes candidate dependency]
  simp only [unsettled_parent, List.not_all_eq_any_not]

end Store

section Readiness

variable (createdAt now : Instant)

theorem completion_get (nodes : List NodeSnapshot) (unique : (nodes.map NodeSnapshot.nodeId).Nodup) (id : DispatchId)
    (completion : Completion) :
    Dict.get id (Dict.collect completionEntry nodes) = some completion ↔
      ∃ node ∈ nodes, completionEntry node = some (id, completion) := by
  apply collect_get completionEntry NodeSnapshot.nodeId nodes _ unique
  intro node found made
  unfold completionEntry at made
  split at made
  · cases made
    rfl
  · cases made

theorem ready_waiting (nodes : List NodeSnapshot) (node : NodeSnapshot) (found : DispatchId × Instant)
    (made : readyEntry nodes createdAt now node = some found) : node.state.waiting = true := by
  by_contra idle
  rw [readyEntry, if_neg idle] at made
  cases made

theorem ready_key (nodes : List NodeSnapshot) (node : NodeSnapshot) (found : DispatchId × Instant)
    (made : readyEntry nodes createdAt now node = some found) : found.1 = node.nodeId := by
  rw [readyEntry, if_pos (ready_waiting createdAt now nodes node found made)] at made
  by_cases ready : (dependencyTrigger node.dependencies createdAt node.delay now
      (Dict.collect completionEntry nodes)).ready = true
  · simp only [ready, if_true] at made
    obtain ⟨_, _, same⟩ := Option.map_eq_some_iff.mp made
    rw [← same]
  · simp only [ready, Bool.false_eq_true, if_false] at made
    cases made

theorem ready_get (nodes : List NodeSnapshot) (unique : (nodes.map NodeSnapshot.nodeId).Nodup) (id : DispatchId)
    (due : Instant) :
    Dict.get id (readyNodes nodes createdAt now) = some due ↔
      ∃ node ∈ nodes, readyEntry nodes createdAt now node = some (id, due) :=
  collect_get (readyEntry nodes createdAt now) NodeSnapshot.nodeId nodes
    (fun node found made => ready_key createdAt now nodes node found made) unique id due

theorem trigger_congr (dependencies : List DispatchId) (delay : Nat) (seen all : Dict DispatchId Completion)
    (same : ∀ id ∈ dependencies, Dict.get id seen = Dict.get id all) :
    dependencyTrigger dependencies createdAt delay now seen = dependencyTrigger dependencies createdAt delay now all := by
  have failed : (dependencies.any fun id => (Dict.get id seen).any fun completion => ¬ completion.succeeded) =
      dependencies.any fun id => (Dict.get id all).any fun completion => ¬ completion.succeeded := by
    rw [Bool.eq_iff_iff, List.any_eq_true, List.any_eq_true]
    exact exists_congr fun id => and_congr_right fun member => by rw [same id member]
  have missing : (dependencies.any fun id => (Dict.get id seen).isNone) =
      dependencies.any fun id => (Dict.get id all).isNone := by
    rw [Bool.eq_iff_iff, List.any_eq_true, List.any_eq_true]
    exact exists_congr fun id => and_congr_right fun member => by rw [same id member]
  have latest : anchor dependencies createdAt seen = anchor dependencies createdAt all := by
    rw [anchor, anchor, List.filterMap_congr same]
  rw [dependencyTrigger, dependencyTrigger, failed, missing, latest]

theorem trigger_unready (dependencies : List DispatchId) (delay : Nat) (completions : Dict DispatchId Completion)
    (id : DispatchId) (member : id ∈ dependencies)
    (open_ : ∀ completion, Dict.get id completions = some completion → completion.succeeded = false) :
    (dependencyTrigger dependencies createdAt delay now completions).ready = false := by
  cases ready : (dependencyTrigger dependencies createdAt delay now completions).ready with
  | false => rfl
  | true =>
      obtain ⟨due, decided, _⟩ := dependency_trigger_ready _ _ _ _ _ ready
      obtain ⟨completion, found, won, _⟩ := (dependency_trigger_due _ _ _ _ _ _ decided).met id member
      rw [open_ completion found] at won
      cases won

theorem ready_agrees (seen all : List NodeSnapshot) (uniqueSeen : (seen.map NodeSnapshot.nodeId).Nodup)
    (uniqueAll : (all.map NodeSnapshot.nodeId).Nodup) (inside : ∀ node ∈ seen, node ∈ all)
    (chosen : ∀ node ∈ all, node.state.waiting = true →
      (∀ dependency ∈ node.dependencies, ∃ completion,
        Dict.get dependency (Dict.collect completionEntry all) = some completion ∧ completion.succeeded = true) →
      ∀ other ∈ all, other.nodeId = node.nodeId ∨ other.nodeId ∈ node.dependencies → other ∈ seen) (id : DispatchId) :
    Dict.get id (readyNodes seen createdAt now) = Dict.get id (readyNodes all createdAt now) := by
  have narrower : ∀ query completion, Dict.get query (Dict.collect completionEntry seen) = some completion →
      Dict.get query (Dict.collect completionEntry all) = some completion := by
    intro query completion found
    obtain ⟨node, member, made⟩ := (completion_get seen uniqueSeen query completion).mp found
    exact (completion_get all uniqueAll query completion).mpr ⟨node, inside node member, made⟩
  -- A waiting node: its trigger sees the same completions, or is not ready on either side.
  have triggers : ∀ node ∈ all, node.state.waiting = true →
      (∃ due, readyEntry all createdAt now node = some (node.nodeId, due) ∧ node ∈ seen ∧
        readyEntry seen createdAt now node = some (node.nodeId, due)) ∨
      (readyEntry all createdAt now node = none ∧ readyEntry seen createdAt now node = none) := by
    intro node member waiting
    by_cases settled : ∀ dependency ∈ node.dependencies, ∃ completion,
        Dict.get dependency (Dict.collect completionEntry all) = some completion ∧ completion.succeeded = true
    · have taken := chosen node member waiting settled
      have same : ∀ dependency ∈ node.dependencies, Dict.get dependency (Dict.collect completionEntry seen) =
          Dict.get dependency (Dict.collect completionEntry all) := by
        intro dependency needed
        obtain ⟨completion, found, _⟩ := settled dependency needed
        obtain ⟨parent, listed, made⟩ := (completion_get all uniqueAll dependency completion).mp found
        have named : parent.nodeId = dependency := by
          unfold completionEntry at made
          split at made
          · cases made
            rfl
          · cases made
        rw [found]
        exact (completion_get seen uniqueSeen dependency completion).mpr
          ⟨parent, taken parent listed (.inr (named ▸ needed)), made⟩
      have trigger := trigger_congr createdAt now node.dependencies node.delay _ _ same
      have entry : readyEntry seen createdAt now node = readyEntry all createdAt now node := by
        rw [readyEntry, readyEntry, trigger]
      rw [entry, and_self]
      cases decided : readyEntry all createdAt now node with
      | none => exact .inr rfl
      | some found =>
          have key : found.1 = node.nodeId := ready_key createdAt now all node found decided
          exact .inl ⟨found.2, by rw [← key], taken node member (.inl rfl), by rw [← key]⟩
    · simp only [not_forall] at settled
      obtain ⟨dependency, needed, open_⟩ := settled
      have lost : ∀ completion, Dict.get dependency (Dict.collect completionEntry all) = some completion →
          completion.succeeded = false := by
        intro completion found
        by_contra won
        exact open_ ⟨completion, found, by simpa using won⟩
      have unready := trigger_unready createdAt now node.dependencies node.delay _ dependency needed lost
      have unseen := trigger_unready createdAt now node.dependencies node.delay _ dependency needed
        fun completion found => lost completion (narrower dependency completion found)
      exact .inr ⟨by simp [readyEntry, unready], by simp [readyEntry, unseen]⟩
  apply Option.ext
  intro due
  rw [ready_get createdAt now seen uniqueSeen, ready_get createdAt now all uniqueAll]
  constructor
  · rintro ⟨node, member, made⟩
    rcases triggers node (inside node member) (ready_waiting createdAt now seen node _ made) with
      ⟨other, decided, _, again⟩ | ⟨_, unready⟩
    · exact ⟨node, inside node member, decided.trans (again.symm.trans made)⟩
    · rw [unready] at made
      cases made
  · rintro ⟨node, member, made⟩
    rcases triggers node member (ready_waiting createdAt now all node _ made) with
      ⟨other, decided, taken, again⟩ | ⟨unready, _⟩
    · exact ⟨node, taken, again.trans (decided.symm.trans made)⟩
    · rw [unready] at made
      cases made

end Readiness

section Equivalence

variable {Digest : Type} [DecidableEq Digest] (store : Store Digest) (instanceIds : List InstanceId) (instanceId : InstanceId)

theorem all_node (node : NodeSnapshot) :
    node ∈ allNodes store.nodes instanceId ↔
      ∃ row, store.nodes.get node.nodeId = some row ∧ row.taskInstance = instanceId ∧ node = nodeSnapshot (node.nodeId, row) := by
  rw [allNodes, List.mem_map]
  constructor
  · rintro ⟨⟨id, row⟩, member, rfl⟩
    obtain ⟨read, mine⟩ := (table_filter store.nodes _ id row).mp member
    exact ⟨row, read, of_decide_eq_true mine, rfl⟩
  · rintro ⟨row, read, mine, same⟩
    exact ⟨(node.nodeId, row), (table_filter store.nodes _ _ _).mpr ⟨read, decide_eq_true mine⟩, same.symm⟩

theorem selected_node (node : NodeSnapshot) :
    node ∈ selectedNodes store.nodes instanceIds instanceId ↔
      node ∈ allNodes store.nodes instanceId ∧ node.nodeId ∈ frontierIds store.nodes instanceIds := by
  rw [all_node, selectedNodes, List.mem_map]
  constructor
  · rintro ⟨⟨id, row⟩, member, rfl⟩
    obtain ⟨selected, mine⟩ := List.mem_filter.mp member
    obtain ⟨read, inside⟩ := (table_filter store.nodes _ id row).mp selected
    exact ⟨⟨row, read, of_decide_eq_true mine, rfl⟩, of_decide_eq_true inside⟩
  · rintro ⟨⟨row, read, mine, same⟩, inside⟩
    exact ⟨(node.nodeId, row), List.mem_filter.mpr
      ⟨(table_filter store.nodes _ _ _).mpr ⟨read, decide_eq_true inside⟩, decide_eq_true mine⟩, same.symm⟩

theorem snapshots_unique (kept : DispatchId → ExecutionNode → Bool) :
    (((store.nodes.filter kept).map nodeSnapshot).map NodeSnapshot.nodeId).Nodup := by
  rw [List.map_map]
  exact List.Nodup.sublist (List.filter_sublist.map Prod.fst) store.nodes.unique

theorem selected_unique : ((selectedNodes store.nodes instanceIds instanceId).map NodeSnapshot.nodeId).Nodup := by
  have same : selectedNodes store.nodes instanceIds instanceId =
      (store.nodes.filter fun id node => node.taskInstance = instanceId && id ∈ frontierIds store.nodes instanceIds).map
        nodeSnapshot := by
    rw [selectedNodes, selectedRows, Table.filter, Table.filter, List.filter_filter]
  rw [same]
  exact snapshots_unique store _

theorem completion_settled (node : NodeSnapshot) (member : node ∈ allNodes store.nodes instanceId)
    (dependency : DispatchId) (completion : Completion) (made : completionEntry node = some (dependency, completion))
    (won : completion.succeeded = true) : settledParent store instanceId dependency = true := by
  obtain ⟨row, read, mine, same⟩ := (all_node store instanceId node).mp member
  unfold completionEntry at made
  split at made
  · rename_i status instant hasStatus hasInstant
    cases made
    rw [same] at hasStatus hasInstant
    have succeeded : status = .succeeded := of_decide_eq_true won
    subst succeeded
    have hasStatus : row.terminalStatus = some .succeeded := hasStatus
    have hasInstant : row.actualCompletedAt = some instant := hasInstant
    simp [settledParent, read, mine, hasStatus, hasInstant]
  · cases made

theorem settled_selected (listed : instanceId ∈ instanceIds) (node : NodeSnapshot)
    (member : node ∈ allNodes store.nodes instanceId) (waiting : node.state.waiting = true)
    (settled : ∀ dependency ∈ node.dependencies, settledParent store instanceId dependency = true) (id : DispatchId)
    (wanted : id = node.nodeId ∨ id ∈ node.dependencies) : id ∈ frontierIds store.nodes instanceIds := by
  obtain ⟨row, read, mine, same⟩ := (all_node store instanceId node).mp member
  have open_ : row.state.waiting = true := by
    rw [same] at waiting
    exact waiting
  have free : held store.nodes row = false := by
    rw [held_iff, mine, Bool.not_eq_false', List.all_eq_true]
    intro dependency needed
    exact settled dependency (by rw [same]; exact needed)
  have chosen : (node.nodeId, row) ∈ candidates store.nodes instanceIds :=
    (table_filter store.nodes _ _ _).mpr ⟨read, by simp [mine, listed, open_, free]⟩
  rw [frontierIds, List.mem_append]
  rcases wanted with here | needed
  · exact .inl (List.mem_map.mpr ⟨_, chosen, here.symm⟩)
  · refine .inr (List.mem_flatMap.mpr ⟨_, chosen, ?_⟩)
    rw [same] at needed
    exact needed

theorem frontier_query_equivalence (createdAt now : Instant) (listed : instanceId ∈ instanceIds)
    (selected all : List NodeSnapshot) (isSelected : selected.Perm (selectedNodes store.nodes instanceIds instanceId))
    (isAll : all.Perm (allNodes store.nodes instanceId)) (id : DispatchId) :
    Dict.get id (readyNodes selected createdAt now) = Dict.get id (readyNodes all createdAt now) := by
  have uniqueAll : (all.map NodeSnapshot.nodeId).Nodup :=
    (isAll.map NodeSnapshot.nodeId).nodup_iff.mpr (snapshots_unique store _)
  apply ready_agrees
  · exact (isSelected.map NodeSnapshot.nodeId).nodup_iff.mpr (selected_unique store instanceIds instanceId)
  · exact uniqueAll
  · intro node member
    exact isAll.mem_iff.mpr ((selected_node store instanceIds instanceId node).mp (isSelected.mem_iff.mp member)).1
  · intro node member waiting settled other known wanted
    refine isSelected.mem_iff.mpr ((selected_node store instanceIds instanceId other).mpr ⟨isAll.mem_iff.mp known, ?_⟩)
    apply settled_selected store instanceIds instanceId listed node (isAll.mem_iff.mp member) waiting _ other.nodeId wanted
    intro dependency needed
    obtain ⟨completion, found, won⟩ := settled dependency needed
    obtain ⟨parent, there, made⟩ := (completion_get all uniqueAll dependency completion).mp found
    exact completion_settled store instanceId parent (isAll.mem_iff.mp there) dependency completion made won

end Equivalence

def frontierNode (taskInstance : InstanceId) (state : NodeState) (dependencies : List DispatchId)
    (terminalStatus : Option RunnerStatus) : ExecutionNode :=
  ⟨"c", taskInstance, "n", state, none, queuedTemplate none none .blank, dependencies, 1, none,
    terminalStatus.map fun _ => 5, terminalStatus, none, none⟩

def frontierStore : Store Json :=
  { lease := none, campaigns := ["c"], runners := .empty, instances := .empty, workers := .empty, messages := .empty,
    logs := [],
    nodes := Table.empty.insertAll
      [("won", frontierNode "i" .emitted [] (some .succeeded)), ("lost", frontierNode "i" .emitted [] (some .failed)),
        ("foreign", frontierNode "j" .emitted [] (some .succeeded)), ("next", frontierNode "i" .blocked ["won"] none),
        ("stuck", frontierNode "i" .pending ["won", "lost"] none), ("astray", frontierNode "i" .pending ["foreign"] none)] }

theorem frontier_query_equivalence_mixed :
    Dict.get "next" (readyNodes (selectedNodes frontierStore.nodes ["i"] "i") 0 9) = some 6 ∧
      ∀ id, Dict.get id (readyNodes (selectedNodes frontierStore.nodes ["i"] "i") 0 9) =
        Dict.get id (readyNodes (allNodes frontierStore.nodes "i") 0 9) :=
  ⟨by decide +kernel, frontier_query_equivalence frontierStore ["i"] "i" 0 9 (by decide) _ _ (.refl _) (.refl _)⟩

end LlmperfOrchestrator.Runtime.FrontierQuery

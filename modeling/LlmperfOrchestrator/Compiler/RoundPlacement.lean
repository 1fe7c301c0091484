import LlmperfOrchestrator.Compiler.RoundExpansion

set_option autoImplicit false

namespace LlmperfOrchestrator.Compiler

open Tables

-- Where one expanded Runner comes from.
structure Position (Content : Type) where
  cycle : Nat
  phaseIndex : Nat
  phase : String
  family : Nat
  template : RunnerDocument Content

namespace Position

variable {Content : Type} (sha256 : Sha256) (rounds : RunnerRounds) (position : Position Content)

def stage : Nat := stageIndex rounds position.cycle position.phaseIndex

def runner : RunnerDocument Content :=
  expandMember sha256 rounds position.cycle (position.stage rounds) position.phase position.family position.template

structure Inside (runners : List (RunnerDocument Content)) : Prop where
  low : 1 ≤ position.cycle
  high : position.cycle ≤ rounds.count
  named : rounds.phases[position.phaseIndex]? = some position.phase
  counted : 1 ≤ position.family
  read : runners[position.family - 1]? = some position.template
  assigned : assignedPhase rounds position.template = position.phase

def Before (first second : Position Content) : Prop :=
  first.stage rounds < second.stage rounds ∨ first.stage rounds = second.stage rounds ∧ first.family < second.family

theorem before_irreflexive : ¬ Before rounds position position := by
  intro before
  rw [Before] at before
  omega

end Position

open Position

variable {Content : Type} (sha256 : Sha256) (rounds : RunnerRounds) (runners : List (RunnerDocument Content))

def stagePositions (cycle : Nat) (entry : String × Nat) : List (Position Content) :=
  (runners.zipIdx 1).filterMap fun numbered =>
    if assignedPhase rounds numbered.1 = entry.1 then some ⟨cycle, entry.2, entry.1, numbered.2, numbered.1⟩ else none

def positions : List (Position Content) :=
  (List.range' 1 rounds.count).flatMap fun cycle => rounds.phases.zipIdx.flatMap (stagePositions rounds runners cycle)

theorem stage_expanded (cycle : Nat) (entry : String × Nat) :
    expandStage sha256 rounds runners cycle entry = (stagePositions rounds runners cycle entry).map (runner sha256 rounds) := by
  rw [expandStage, stagePositions, List.map_filterMap]
  apply List.filterMap_congr
  intro numbered _
  by_cases assigned : assignedPhase rounds numbered.1 = entry.1
  · rw [if_pos assigned, if_pos assigned]
    rfl
  · rw [if_neg assigned, if_neg assigned]
    rfl

theorem rounds_expanded : expandRounds sha256 rounds runners = (positions rounds runners).map (runner sha256 rounds) := by
  rw [expandRounds, positions, List.map_flatMap]
  apply List.flatMap_congr
  intro cycle _
  rw [List.map_flatMap]
  apply List.flatMap_congr
  intro entry _
  exact stage_expanded sha256 rounds runners cycle entry

theorem stage_mem (cycle : Nat) (entry : String × Nat) (position : Position Content) :
    position ∈ stagePositions rounds runners cycle entry ↔
      ((position.cycle = cycle ∧ position.phaseIndex = entry.2 ∧ position.phase = entry.1) ∧ 1 ≤ position.family ∧
        runners[position.family - 1]? = some position.template ∧ assignedPhase rounds position.template = position.phase) := by
  rw [stagePositions, List.mem_filterMap]
  constructor
  · rintro ⟨⟨template, family⟩, member, made⟩
    obtain ⟨low, read⟩ := List.mk_mem_zipIdx_iff_le_and_getElem?_sub.mp member
    obtain ⟨assigned, same⟩ := Option.ite_none_right_eq_some.mp made
    cases Option.some.inj same
    exact ⟨⟨rfl, rfl, rfl⟩, low, read, assigned⟩
  · rintro ⟨⟨rfl, samePlace, samePhase⟩, low, read, assigned⟩
    refine ⟨(position.template, position.family), List.mk_mem_zipIdx_iff_le_and_getElem?_sub.mpr ⟨low, read⟩, ?_⟩
    rw [if_pos (assigned.trans samePhase), ← samePlace, ← samePhase]

theorem positions_mem (position : Position Content) :
    position ∈ positions rounds runners ↔ position.Inside rounds runners := by
  rw [positions, List.mem_flatMap]
  constructor
  · rintro ⟨cycle, inCycles, inside⟩
    obtain ⟨entry, inPhases, placed⟩ := List.mem_flatMap.mp inside
    obtain ⟨⟨rfl, samePlace, samePhase⟩, counted, read, assigned⟩ := (stage_mem rounds runners cycle entry position).mp placed
    obtain ⟨low, high⟩ := List.mem_range'_1.mp inCycles
    have named := List.mem_zipIdx_iff_getElem?.mp inPhases
    rw [← samePlace, ← samePhase] at named
    exact ⟨low, by omega, named, counted, read, assigned⟩
  · intro inside
    have inCycles : position.cycle ∈ List.range' 1 rounds.count := by
      rw [List.mem_range'_1]
      exact ⟨inside.low, by have := inside.high; omega⟩
    have inPhases : (position.phase, position.phaseIndex) ∈ rounds.phases.zipIdx := List.mk_mem_zipIdx_iff_getElem?.mpr inside.named
    refine ⟨position.cycle, inCycles, List.mem_flatMap.mpr ⟨(position.phase, position.phaseIndex), inPhases, ?_⟩⟩
    exact (stage_mem rounds runners _ _ position).mpr ⟨⟨rfl, rfl, rfl⟩, inside.counted, inside.read, inside.assigned⟩

theorem zip_index_ordered {Item : Type} (items : List Item) (start : Nat) :
    (items.zipIdx start).Pairwise fun first second => first.2 < second.2 := by
  apply List.pairwise_map.mp
  rw [List.zipIdx_map_snd]
  exact List.pairwise_lt_range'

theorem stage_ordered (cycle : Nat) (entry : String × Nat) :
    (stagePositions rounds runners cycle entry).Pairwise (Before rounds) := by
  rw [stagePositions, List.pairwise_filterMap]
  apply (zip_index_ordered runners 1).imp
  intro first second less position made other alsoMade
  obtain ⟨_, same⟩ := Option.ite_none_right_eq_some.mp made
  obtain ⟨_, alsoSame⟩ := Option.ite_none_right_eq_some.mp alsoMade
  cases Option.some.inj same
  cases Option.some.inj alsoSame
  exact .inr ⟨rfl, less⟩

theorem stage_index_later (cycle later phaseIndex other : Nat) (low : 1 ≤ cycle) (inside : phaseIndex < rounds.phases.length)
    (after : cycle < later ∨ cycle = later ∧ phaseIndex < other) :
    stageIndex rounds cycle phaseIndex < stageIndex rounds later other := by
  rw [stageIndex, stageIndex]
  rcases after with more | ⟨rfl, further⟩
  · have steps : (cycle - 1) * rounds.phases.length + rounds.phases.length ≤ (later - 1) * rounds.phases.length := by
      rw [← Nat.succ_mul]
      exact Nat.mul_le_mul_right _ (by omega)
    omega
  · omega

theorem stages_before (cycle later : Nat) (entry other : String × Nat) (position follower : Position Content)
    (placed : position ∈ stagePositions rounds runners cycle entry)
    (placedLater : follower ∈ stagePositions rounds runners later other)
    (less : stageIndex rounds cycle entry.2 < stageIndex rounds later other.2) : Before rounds position follower := by
  obtain ⟨⟨rfl, samePlace, _⟩, _⟩ := (stage_mem rounds runners cycle entry position).mp placed
  obtain ⟨⟨rfl, alsoSame, _⟩, _⟩ := (stage_mem rounds runners later other follower).mp placedLater
  rw [← samePlace, ← alsoSame] at less
  exact .inl less

theorem positions_ordered : (positions rounds runners).Pairwise (Before rounds) := by
  have bounded : ∀ entry ∈ rounds.phases.zipIdx, entry.2 < rounds.phases.length := fun entry member =>
    (List.getElem?_eq_some_iff.mp (List.mem_zipIdx_iff_getElem?.mp member)).1
  rw [positions, List.pairwise_flatMap]
  constructor
  · intro cycle inCycles
    obtain ⟨low, _⟩ := List.mem_range'_1.mp inCycles
    rw [List.pairwise_flatMap]
    refine ⟨fun entry _ => stage_ordered rounds runners cycle entry, ?_⟩
    apply (zip_index_ordered rounds.phases 0).imp_of_mem
    intro entry other member _ less position placed follower placedLater
    exact stages_before rounds runners cycle cycle entry other position follower placed placedLater
      (stage_index_later rounds cycle cycle entry.2 other.2 low (bounded entry member) (.inr ⟨rfl, less⟩))
  · have cycles : (List.range' 1 rounds.count).Pairwise (· < ·) := List.pairwise_lt_range'
    apply cycles.imp_of_mem
    intro cycle later inCycles _ less position inside follower insideLater
    obtain ⟨low, _⟩ := List.mem_range'_1.mp inCycles
    obtain ⟨entry, member, placed⟩ := List.mem_flatMap.mp inside
    obtain ⟨other, _, placedLater⟩ := List.mem_flatMap.mp insideLater
    exact stages_before rounds runners cycle later entry other position follower placed placedLater
      (stage_index_later rounds cycle later entry.2 other.2 low (bounded entry member) (.inl less))

def stageNumber (runner : RunnerDocument Content) : Nat := runner.round.elim 0 RunnerRound.index

def placedAt (cycle family : Nat) (runner : RunnerDocument Content) : Bool :=
  runner.round.any fun round => decide (round.cycle = cycle) && decide (round.family = family)

def phaseStage (cycle : Nat) (phase : String) : Nat := (cycle - 1) * rounds.phases.length + rounds.phases.idxOf phase + 1

theorem runner_placed (cycle family : Nat) (position : Position Content) :
    placedAt cycle family (position.runner sha256 rounds) = true ↔ position.cycle = cycle ∧ position.family = family := by
  change (decide (position.cycle = cycle) && decide (position.family = family)) = true ↔ _
  rw [Bool.and_eq_true, decide_eq_true_eq, decide_eq_true_eq]

theorem expanded_stages : ((expandRounds sha256 rounds runners).map stageNumber).Pairwise (· ≤ ·) := by
  rw [rounds_expanded, List.map_map, List.pairwise_map]
  apply (positions_ordered rounds runners).imp
  intro first second before
  change first.stage rounds ≤ second.stage rounds
  rw [Before] at before
  omega

theorem filter_single {Item : Type} (items : List Item) (marked : Item → Bool) (item : Item) (member : item ∈ items)
    (isMarked : marked item = true) (apart : items.Pairwise fun first second => ¬ (marked first = true ∧ marked second = true)) :
    items.filter marked = [item] := by
  induction items with
  | nil => cases member
  | cons head tail ih =>
      obtain ⟨fromHead, inTail⟩ := List.pairwise_cons.mp apart
      rcases List.mem_cons.mp member with rfl | inside
      · rw [List.filter_cons_of_pos isMarked, List.filter_eq_nil_iff.mpr]
        intro other inside alsoMarked
        exact fromHead other inside ⟨isMarked, alsoMarked⟩
      · have unmarked : marked head ≠ true := fun isHead => fromHead item inside ⟨isHead, isMarked⟩
        rw [List.filter_cons_of_neg unmarked]
        exact ih inside inTail

section Stages

variable (unique : rounds.phases.Nodup)
include unique

theorem stage_of_phase (position : Position Content) (named : rounds.phases[position.phaseIndex]? = some position.phase) :
    position.stage rounds = phaseStage rounds position.cycle position.phase := by
  obtain ⟨inside, same⟩ := List.getElem?_eq_some_iff.mp named
  rw [stage, stageIndex, phaseStage, ← same, unique.idxOf_getElem position.phaseIndex inside]

theorem inside_unique (first second : Position Content) (inFirst : first.Inside rounds runners) (inSecond : second.Inside rounds runners)
    (cycles : first.cycle = second.cycle) (families : first.family = second.family) : first = second := by
  have templates : first.template = second.template := by
    have read := inFirst.read
    rw [families] at read
    exact Option.some.inj (read.symm.trans inSecond.read)
  have phases : first.phase = second.phase := by rw [← inFirst.assigned, ← inSecond.assigned, templates]
  have places : first.phaseIndex = second.phaseIndex := by
    have named := inFirst.named
    rw [phases, ← inSecond.named] at named
    exact (List.getElem?_inj (List.getElem?_eq_some_iff.mp inFirst.named).1 unique).mp named
  cases first
  cases second
  cases cycles
  cases families
  cases templates
  cases phases
  cases places
  rfl

theorem placed_once (cycle index : Nat) (template : RunnerDocument Content) (low : 1 ≤ cycle) (high : cycle ≤ rounds.count)
    (read : runners[index]? = some template) (declared : assignedPhase rounds template ∈ rounds.phases) :
    (expandRounds sha256 rounds runners).filter (placedAt cycle (index + 1)) =
      [expandMember sha256 rounds cycle (phaseStage rounds cycle (assignedPhase rounds template))
        (assignedPhase rounds template) (index + 1) template] := by
  obtain ⟨phaseIndex, named⟩ := List.mem_iff_getElem?.mp declared
  let position : Position Content := ⟨cycle, phaseIndex, assignedPhase rounds template, index + 1, template⟩
  have inside : position.Inside rounds runners := ⟨low, high, named, Nat.le_add_left 1 index, read, rfl⟩
  have marked : placedAt cycle (index + 1) (position.runner sha256 rounds) = true :=
    (runner_placed sha256 rounds cycle (index + 1) position).mpr ⟨rfl, rfl⟩
  have stage : phaseStage rounds cycle (assignedPhase rounds template) = position.stage rounds :=
    (stage_of_phase rounds unique position named).symm
  rw [rounds_expanded, stage]
  apply filter_single
  · exact List.mem_map_of_mem ((positions_mem rounds runners position).mpr inside)
  · exact marked
  · rw [List.pairwise_map]
    apply (positions_ordered rounds runners).imp_of_mem
    rintro first second inFirst inSecond before ⟨firstMarked, secondMarked⟩
    obtain ⟨cycles, families⟩ := (runner_placed sha256 rounds cycle (index + 1) first).mp firstMarked
    obtain ⟨otherCycles, otherFamilies⟩ := (runner_placed sha256 rounds cycle (index + 1) second).mp secondMarked
    have same := inside_unique rounds runners unique first second ((positions_mem rounds runners first).mp inFirst)
      ((positions_mem rounds runners second).mp inSecond) (cycles.trans otherCycles.symm) (families.trans otherFamilies.symm)
    rw [same] at before
    exact before_irreflexive rounds second before

end Stages

theorem stage_occupied (occupied : ∀ phase ∈ rounds.phases, ∃ template ∈ runners, assignedPhase rounds template = phase)
    (stage : Nat) (low : 1 ≤ stage) (high : stage ≤ rounds.count * rounds.phases.length) :
    ∃ runner ∈ expandRounds sha256 rounds runners, stageNumber runner = stage := by
  have room : 0 < rounds.phases.length := by
    apply Nat.pos_of_ne_zero
    intro none
    rw [none, Nat.mul_zero] at high
    omega
  have inCycle : (stage - 1) % rounds.phases.length < rounds.phases.length := Nat.mod_lt _ room
  have cycles : (stage - 1) / rounds.phases.length < rounds.count := by
    rw [Nat.div_lt_iff_lt_mul room]
    omega
  obtain ⟨template, member, assigned⟩ := occupied _ (List.getElem_mem inCycle)
  obtain ⟨index, read⟩ := List.mem_iff_getElem?.mp member
  let position : Position Content :=
    ⟨(stage - 1) / rounds.phases.length + 1, (stage - 1) % rounds.phases.length, rounds.phases[(stage - 1) % rounds.phases.length],
      index + 1, template⟩
  have inside : position.Inside rounds runners :=
    ⟨Nat.le_add_left 1 _, cycles, List.getElem?_eq_getElem inCycle, Nat.le_add_left 1 index, read, assigned⟩
  refine ⟨position.runner sha256 rounds, ?_, ?_⟩
  · rw [rounds_expanded]
    exact List.mem_map_of_mem ((positions_mem rounds runners position).mpr inside)
  · change stageIndex rounds _ _ = stage
    rw [stageIndex, Nat.add_sub_cancel, Nat.mul_comm, Nat.div_add_mod]
    omega

end LlmperfOrchestrator.Compiler

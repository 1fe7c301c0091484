import LlmperfOrchestrator.Compiler.RoundSeeds

set_option autoImplicit false

namespace LlmperfOrchestrator.Compiler

open Tables Outcomes

variable {Content : Type} (sha256 : Sha256)

def sortedDimensions (matrix : Table String (List Int)) : List (String × List Int) :=
  matrix.rows.insertionSort fun a b => a.1 ≤ b.1

theorem sorted_mem (matrix : Table String (List Int)) (dimension : String × List Int) :
    dimension ∈ sortedDimensions matrix ↔ dimension ∈ matrix.rows := List.mem_insertionSort _

namespace RunnerGroup

variable (group : RunnerGroup Content)

structure Expandable : Prop where
  named : identityName group.name = true
  present : group.matrix.rows ≠ []
  dimensions : ∀ dimension ∈ group.matrix.rows, identityName dimension.1 = true
  values : ∀ dimension ∈ group.matrix.rows, dimension.2 ≠ [] ∧ dimension.2.Nodup

theorem valid_expandable (valid : group.valid = true) : group.Expandable := by
  simp only [RunnerGroup.valid, Bool.and_eq_true, decide_eq_true_eq, List.all_eq_true] at valid
  obtain ⟨⟨⟨⟨⟨⟨named, _⟩, some⟩, _⟩, checked⟩, _⟩, _⟩ := valid
  refine ⟨named, List.ne_nil_of_length_pos some, ?_, ?_⟩
  · intro dimension member
    exact (checked dimension member).1.1.1
  · intro dimension member
    obtain ⟨⟨⟨_, low⟩, _⟩, unique⟩ := checked dimension member
    exact ⟨List.ne_nil_of_length_pos low, unique⟩

section Coordinates

variable (expandable : group.Expandable)
include expandable

theorem coordinates_unique : (coordinatesOf group.matrix).Nodup := by
  apply named_values_nodup (sortedDimensions group.matrix)
  intro dimension member
  exact (expandable.values dimension ((sorted_mem group.matrix dimension).mp member)).2

theorem coordinates_present : coordinatesOf group.matrix ≠ [] := by
  intro none
  apply product_present ((sortedDimensions group.matrix).map Prod.snd)
  · intro factor member
    obtain ⟨dimension, inside, rfl⟩ := List.mem_map.mp member
    exact (expandable.values dimension ((sorted_mem group.matrix dimension).mp inside)).1
  · exact List.map_eq_nil_iff.mp none

theorem coordinates_valid (coordinates : Dimensions) (member : coordinates ∈ coordinatesOf group.matrix) :
    ValidIdentity group.name coordinates := by
  obtain ⟨values, many, rfl⟩ := named_values (sortedDimensions group.matrix) coordinates member
  refine ⟨expandable.named, ?_, ?_⟩
  · intro field inside
    obtain ⟨dimension, inSorted, same⟩ := List.mem_map.mp (List.of_mem_zip inside).1
    rw [← same]
    exact expandable.dimensions dimension ((sorted_mem group.matrix dimension).mp inSorted)
  · intro none
    have lengths := congrArg List.length none
    rw [List.length_zip, many, Nat.min_self, List.length_map, List.length_nil] at lengths
    obtain ⟨dimension, inside⟩ := List.exists_mem_of_ne_nil _ expandable.present
    have inSorted := (sorted_mem group.matrix dimension).mpr inside
    rw [List.length_eq_zero_iff.mp lengths] at inSorted
    cases inSorted

end Coordinates

end RunnerGroup

theorem ungrouped_phase (rounds : RunnerRounds) (template : RunnerDocument Content) (ungrouped : template.group = none) :
    assignedPhase rounds template = firstPhase rounds := by
  rw [assignedPhase, ungrouped]
  rfl

namespace CampaignStart

variable (start : CampaignStart Content) (rounds : RunnerRounds)

structure Expandable : Prop where
  declared : start.rounds = some rounds
  unique : rounds.phases.Nodup
  present : rounds.phases ≠ []
  groups : ∀ group ∈ start.runnerGroups, group.Expandable
  keys : start.groupKeys.Nodup
  phases : ∀ group ∈ start.runnerGroups, start.groupPhase group ∈ rounds.phases
  occupied : rounds.phases ⊆ start.occupiedPhases

theorem declared_phases (declared : start.rounds = some rounds) : start.phases = rounds.phases := by
  rw [CampaignStart.phases, declared]

theorem first_phase (present : rounds.phases ≠ []) : firstPhase rounds ∈ rounds.phases := by
  rw [firstPhase, List.head?_eq_some_head present]
  exact List.head_mem present

theorem head_phase (declared : start.rounds = some rounds) : start.phases.head?.getD "" = firstPhase rounds := by
  rw [start.declared_phases rounds declared, firstPhase]

theorem group_phase_declared (declared : start.rounds = some rounds) (present : rounds.phases ≠ []) (group : RunnerGroup Content)
    (named : start.declaredPhase group = true) : start.groupPhase group ∈ rounds.phases := by
  have first := first_phase rounds present
  rw [groupPhase, start.head_phase rounds declared]
  rw [declaredPhase, start.declared_phases rounds declared] at named
  cases phase : group.phase with
  | none => exact first
  | some text =>
      simp only [phase, Option.all_some, Bool.and_eq_true, decide_eq_true_eq] at named
      by_cases blank : text = ""
      · simp only [if_pos blank]
        exact first
      · simp only [if_neg blank]
        exact named.2

theorem accepted_expandable (declared : start.rounds = some rounds) (accepted : start.accepted) : start.Expandable rounds := by
  obtain ⟨fields, workload⟩ := accepted
  rw [validateWorkload] at workload
  obtain ⟨_, size, rest⟩ := (bind_ok _ _ _).mp workload
  simp only [declared] at rest
  obtain ⟨_, checked, _⟩ := (bind_ok _ _ _).mp rest
  simp only [validateSize, checked_ok] at size
  simp only [validateRounds, checked_ok] at checked
  simp only [validFields, declared, Bool.and_eq_true, List.all_eq_true, Option.all_some, RunnerRounds.valid, decide_eq_true_eq] at fields
  obtain ⟨_, _, _, keys, phases, _⟩ := size
  obtain ⟨_, occupied, _⟩ := checked
  obtain ⟨⟨⟨⟨⟨⟨⟨⟨⟨⟨⟨_, _⟩, filled⟩, _⟩, unique⟩, _⟩, _⟩, groups⟩, _⟩, _⟩, _⟩, _⟩ := fields
  have present : rounds.phases ≠ [] := List.ne_nil_of_length_pos filled
  refine ⟨declared, unique, present, ?_, Classical.not_not.mp keys, ?_, (Classical.not_not.mp occupied).2⟩
  · intro group member
    exact group.valid_expandable (groups group member)
  · intro group member
    apply start.group_phase_declared rounds declared present group
    by_contra undeclared
    apply phases
    rw [List.any_eq_true]
    exact ⟨group, member, by rw [Bool.not_eq_true _ |>.mp undeclared]; rfl⟩

section Templates

variable (expandable : start.Expandable rounds)
include expandable

variable (template : RunnerDocument Content)

theorem grouped_phase (group : RunnerGroup Content) (coordinates : Dimensions)
    (grouped : template.group = some ⟨group.name, coordinates, group.phase⟩) :
    assignedPhase rounds template = start.groupPhase group := by
  rw [assignedPhase, grouped, groupPhase, start.head_phase rounds expandable.declared]
  rfl

omit expandable in
theorem template_origin (member : template ∈ start.templates sha256) :
    (start.runners ≠ [] ∧ template.group = none) ∨ ∃ group ∈ start.runnerGroups, ∃ coordinates ∈ coordinatesOf group.matrix,
      template.group = some ⟨group.name, coordinates, group.phase⟩ := by
  rw [templates, List.mem_append, List.mem_map, List.mem_flatMap] at member
  rcases member with ⟨runner, inside, rfl⟩ | ⟨group, inside, expanded⟩
  · exact .inl ⟨List.ne_nil_of_mem inside, rfl⟩
  · obtain ⟨coordinates, placed, rfl⟩ := List.mem_map.mp expanded
    exact .inr ⟨group, inside, coordinates, placed, rfl⟩

theorem templates_declared (member : template ∈ start.templates sha256) : assignedPhase rounds template ∈ rounds.phases := by
  rcases start.template_origin sha256 template member with ⟨_, ungrouped⟩ | ⟨group, inside, coordinates, _, grouped⟩
  · rw [ungrouped_phase rounds template ungrouped]
    exact first_phase rounds expandable.present
  · rw [start.grouped_phase rounds expandable template group coordinates grouped]
    exact expandable.phases group inside

theorem templates_valid (member : template ∈ start.templates sha256) : ValidTemplate template := by
  intro identity read
  rcases start.template_origin sha256 template member with ⟨_, ungrouped⟩ | ⟨group, inside, coordinates, placed, grouped⟩
  · rw [ungrouped] at read
    cases read
  · cases grouped.symm.trans read
    exact group.coordinates_valid (expandable.groups group inside) coordinates placed

theorem templates_occupy (phase : String) (member : phase ∈ rounds.phases) :
    ∃ template ∈ start.templates sha256, assignedPhase rounds template = phase := by
  rcases List.mem_append.mp (expandable.occupied member) with fromGroup | fromRunner
  · obtain ⟨group, inside, rfl⟩ := List.mem_map.mp fromGroup
    obtain ⟨coordinates, placed⟩ := List.exists_mem_of_ne_nil _ (group.coordinates_present (expandable.groups group inside))
    refine ⟨_, List.mem_append_right _ (List.mem_flatMap.mpr ⟨group, inside, List.mem_map_of_mem placed⟩), ?_⟩
    exact start.grouped_phase rounds expandable _ group coordinates rfl
  · by_cases none : start.runners = []
    · rw [if_pos none] at fromRunner
      cases fromRunner
    · rw [if_neg none, start.head_phase rounds expandable.declared, List.mem_singleton] at fromRunner
      obtain ⟨runner, inside⟩ := List.exists_mem_of_ne_nil _ none
      refine ⟨runner.document, List.mem_append_left _ (List.mem_map_of_mem inside), ?_⟩
      rw [fromRunner]
      exact ungrouped_phase rounds _ rfl

theorem templates_apart : (start.templates sha256).Pairwise (Apart rounds) := by
  rw [templates, List.pairwise_append]
  refine ⟨?_, ?_, ?_⟩
  · rw [List.pairwise_map]
    apply List.pairwise_of_forall
    intro first second group other grouped
    cases grouped
  · rw [List.pairwise_flatMap]
    constructor
    · intro group inside
      rw [expandRunnerGroup, List.pairwise_map]
      apply (group.coordinates_unique (expandable.groups group inside)).imp
      intro coordinates others different identity other grouped alsoGrouped _ same
      cases grouped
      cases alsoGrouped
      exact absurd same different
    · apply (List.pairwise_map.mp expandable.keys).imp
      intro group later different first inFirst second inSecond identity other grouped alsoGrouped names _ phases
      obtain ⟨coordinates, _, rfl⟩ := List.mem_map.mp inFirst
      obtain ⟨others, _, rfl⟩ := List.mem_map.mp inSecond
      rw [start.grouped_phase rounds expandable _ group coordinates rfl,
        start.grouped_phase rounds expandable _ later others rfl] at phases
      cases grouped
      cases alsoGrouped
      exact different (Prod.ext names phases)
  · intro first inRunners second _ group other grouped
    obtain ⟨runner, _, rfl⟩ := List.mem_map.mp inRunners
    cases grouped

end Templates

-- The hash matters only where seeds are to differ.
theorem campaign_rounds (declared : start.rounds = some rounds) (accepted : start.accepted) :
    (∀ cycle, 1 ≤ cycle → cycle ≤ rounds.count → ∀ index template, (start.templates sha256)[index]? = some template →
      assignedPhase rounds template ∈ rounds.phases ∧
      (expandRounds sha256 rounds (start.templates sha256)).filter (placedAt cycle (index + 1)) =
        [expandMember sha256 rounds cycle (phaseStage rounds cycle (assignedPhase rounds template))
          (assignedPhase rounds template) (index + 1) template]) ∧
    (∀ runner ∈ expandRounds sha256 rounds (start.templates sha256), ∃ cycle index, 1 ≤ cycle ∧ cycle ≤ rounds.count ∧
      index < (start.templates sha256).length ∧ placedAt cycle (index + 1) runner = true) ∧
    ((expandRounds sha256 rounds (start.templates sha256)).map stageNumber).Pairwise (· ≤ ·) ∧
    (∀ stage, 1 ≤ stage → stage ≤ rounds.count * rounds.phases.length →
      ∃ runner ∈ expandRounds sha256 rounds (start.templates sha256), stageNumber runner = stage) ∧
    (rounds.prefixSeedScope = .family →
      ∀ first ∈ expandRounds sha256 rounds (start.templates sha256), ∀ second ∈ expandRounds sha256 rounds (start.templates sha256),
        familyOf first = familyOf second → first.sharedPrefixSeed = second.sharedPrefixSeed) ∧
    (Distinguishes sha256 rounds (start.templates sha256) →
      (rounds.prefixSeedScope = .family →
        ∀ first ∈ expandRounds sha256 rounds (start.templates sha256), ∀ second ∈ expandRounds sha256 rounds (start.templates sha256),
          (first.sharedPrefixSeed = second.sharedPrefixSeed ↔ familyOf first = familyOf second)) ∧
      ((expandRounds sha256 rounds (start.templates sha256)).map RunnerDocument.datasetSeed).Nodup) := by
  have expandable := start.accepted_expandable rounds declared accepted
  have valid := start.templates_valid sha256 rounds expandable
  refine ⟨?_, ?_, expanded_stages sha256 rounds _, ?_, family_prefixes sha256 rounds _, ?_⟩
  · intro cycle low high index template read
    have assigned := start.templates_declared sha256 rounds expandable template (List.mem_of_getElem? read)
    exact ⟨assigned, placed_once sha256 rounds _ expandable.unique cycle index template low high read assigned⟩
  · intro runner member
    rw [rounds_expanded] at member
    obtain ⟨position, inPositions, rfl⟩ := List.mem_map.mp member
    have inside := (positions_mem rounds _ position).mp inPositions
    refine ⟨position.cycle, position.family - 1, inside.low, inside.high, (List.getElem?_eq_some_iff.mp inside.read).1, ?_⟩
    rw [Nat.sub_add_cancel inside.counted]
    exact (runner_placed sha256 rounds _ _ position).mpr ⟨rfl, rfl⟩
  · exact stage_occupied sha256 rounds _ (start.templates_occupy sha256 rounds expandable)
  · intro distinguishes
    have apart := start.templates_apart sha256 rounds expandable
    exact ⟨shared_prefixes sha256 rounds _ distinguishes valid,
      dataset_seeds_unique sha256 rounds _ distinguishes expandable.unique apart valid⟩

end CampaignStart

def gridDigests : List (String × Nat) :=
  [("runner-matrix-v1:11111:[\"grid\",\x7b\"x\":1\x7d]", 0xbc1360c03889ae9f9f65d9819575a51417a66149d1de06a56314517d0b6393bb),
    ("runner-matrix-v1:11111:[\"grid\",\x7b\"x\":2\x7d]", 0xf895644e5d3a3ffaf842d9fbd31dc1145fff743730fcaf821de85b5445b19790),
    ("round-family-prefix-v1:7:1", 0x5f877d69c26d83cf6e12175e4dc25f7c4a84ae9ae6efde818b09f2147bec8fc6),
    ("round-family-suffix-v1:6883608448646087631:1:warm", 0x8fb4f04df4e0fcbd2a303a68192d9a2fc821b23bd23cad9f7a06342715c43030),
    ("round-family-prefix-v1:7:[\"grid\",\x7b\"x\":1\x7d]", 0x8d771156a672b1f58faf4dd0fbda9e41beb1ef3f6d1e5c75c2b16c4bb3a2957),
    ("round-family-suffix-v1:637102209089612575:1:warm", 0x1f86a8fec2d7f93e6863496becb8323dfde100a5325fc069d891cf6fa444323f),
    ("round-family-prefix-v1:7:[\"grid\",\x7b\"x\":2\x7d]", 0xf79d0a1ef78e870d70005b2616199f6c0c662b2c2497eee4199fc5acd2062640),
    ("round-family-suffix-v1:17842428426830382861:1:warm", 0x179d61fe95cb09fda0c0fe02a2837196b783b4e28f6cc4489c4aecaebc2bdaae),
    ("round-family-suffix-v1:637102209089612575:1:cold", 0x9c389fa8264faa212d1fa4a591312aa45b2f7026086c2886eb84b61d35ebf0b)]

def gridDigest : Sha256 := fun text => Fin.ofNat (2 ^ 256) ((gridDigests.lookup text).getD 0)

def gridRunner : RunnerSpec Unit := ⟨none, [], none, none, false, ()⟩

def gridRounds : RunnerRounds := ⟨1, 7, .family, ["warm", "cold"]⟩

def gridCampaign : CampaignStart Unit where
  nestedRuntime := false
  rounds := some gridRounds
  runners := [gridRunner]
  runnerGroups := [⟨"grid", none, ⟨[("x", [1, 2])], by decide⟩, gridRunner⟩, ⟨"grid", some "cold", ⟨[("x", [1])], by decide⟩, gridRunner⟩]
  runnerPlans := 0
  taskDefinitions := []

theorem grid_rounds :
    ((expandRounds gridDigest gridRounds (gridCampaign.templates gridDigest)).map RunnerDocument.datasetSeed).Nodup ∧
    (expandRounds gridDigest gridRounds (gridCampaign.templates gridDigest)).length = 4 := by
  have accepted : gridCampaign.accepted := ⟨by decide +kernel, by rfl⟩
  have distinguishes : Distinguishes gridDigest gridRounds (gridCampaign.templates gridDigest) := by
    rw [Distinguishes]
    decide +kernel
  obtain ⟨_, _, _, _, _, seeds⟩ := CampaignStart.campaign_rounds gridDigest gridCampaign gridRounds rfl accepted
  exact ⟨(seeds distinguishes).2, by decide +kernel⟩

end LlmperfOrchestrator.Compiler

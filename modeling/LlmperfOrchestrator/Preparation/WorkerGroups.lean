import LlmperfOrchestrator.Library.Groups
import LlmperfOrchestrator.Preparation.DueTimes
import Mathlib.Data.Nat.Digits.Defs

set_option autoImplicit false

namespace LlmperfOrchestrator.Preparation

open Tables Compiler Draws Groups

namespace Coordinate

def id : Coordinate → String
  | step specification => specification.name
  | probe family occurrence => s!"probe-{family}-{occurrence}"

def dependencies : Coordinate → List String
  | step specification => specification.dependencies
  | probe family occurrence => if occurrence = 0 then [] else [s!"probe-{family}-{occurrence - 1}"]

def messageSources : Coordinate → List String
  | step specification => specification.messageSources
  | probe _ _ => []

def dueAt : Coordinate → Option DateTime
  | step specification => specification.instant
  | probe _ _ => none

def delay (probe : Option CacheProbeConfig) : Coordinate → Rat
  | step specification => specification.after.seconds
  | .probe _ occurrence => if occurrence = 0 then 0 else (probe.map fun probe => probe.delay.seconds).getD 0

end Coordinate

def RequestPlan.repetition (plan : RequestPlan) (index : Nat) : List RequestStepSpec :=
  match plan.steps with
  | none => [plan.single index]
  | some steps => steps.map (plan.inRepetition index)

variable (plan : RequestPlan)

theorem expand_repetitions : plan.expand = (List.range plan.repeats).flatMap plan.repetition := by
  rw [RequestPlan.expand]
  cases listed : plan.steps with
  | none =>
      have single : plan.repetition = fun index => [plan.single index] := by
        funext index
        rw [RequestPlan.repetition, listed]
      rw [single]
      exact List.map_eq_flatMap
  | some steps =>
      have renamed : plan.repetition = fun index => steps.map (plan.inRepetition index) := by
        funext index
        rw [RequestPlan.repetition, listed]
      rw [renamed]

theorem check_steps_cons (seen : List String) (step : RequestStepSpec) (rest : List RequestStepSpec)
    (checked : RequestPlan.checkSteps seen (step :: rest) = .ok ()) :
    step.name ∉ seen ∧ step.dependencies ⊆ seen ∧ RequestPlan.checkSteps (step.name :: seen) rest = .ok () := by
  rw [RequestPlan.checkSteps] at checked
  split at checked
  · cases checked
  · rename_i sound
    push Not at sound
    exact ⟨sound.1, sound.2, checked⟩

theorem check_steps_names (seen : List String) (steps : List RequestStepSpec)
    (checked : RequestPlan.checkSteps seen steps = .ok ()) :
    (steps.map RequestStepSpec.name).Nodup ∧ ∀ step ∈ steps, step.name ∉ seen := by
  induction steps generalizing seen with
  | nil => exact ⟨List.nodup_nil, by simp⟩
  | cons step rest ih =>
      obtain ⟨fresh, _, later⟩ := check_steps_cons seen step rest checked
      obtain ⟨distinct, apart⟩ := ih _ later
      constructor
      · rw [List.map_cons, List.nodup_cons]
        refine ⟨fun member => ?_, distinct⟩
        obtain ⟨other, listed, same⟩ := List.mem_map.mp member
        exact apart other listed (by rw [same]; exact List.mem_cons_self)
      · intro other member
        rcases List.mem_cons.mp member with rfl | listed
        · exact fresh
        · exact fun known => apart other listed (List.mem_cons_of_mem _ known)

theorem check_steps_closed (seen : List String) (steps : List RequestStepSpec)
    (checked : RequestPlan.checkSteps seen steps = .ok ()) (before after : List RequestStepSpec) (step : RequestStepSpec)
    (split : steps = before ++ step :: after) : step.dependencies ⊆ before.map RequestStepSpec.name ++ seen := by
  induction before generalizing seen steps with
  | nil =>
      rw [split] at checked
      exact (check_steps_cons seen step after checked).2.1
  | cons first rest ih =>
      rw [split] at checked
      have later := ih _ _ (check_steps_cons seen first _ checked).2.2 rfl
      intro name member
      have place := later member
      simp only [List.map_cons, List.mem_append, List.mem_cons] at place ⊢
      tauto

theorem plan_checked (valid : plan.validateGraph = .ok ()) (steps : List RequestStepSpec) (listed : plan.steps = some steps) :
    RequestPlan.checkSteps [] steps = .ok () := by
  rw [RequestPlan.validateGraph, listed] at valid
  split at valid
  · cases valid
  · split at valid
    · cases valid
    · exact valid

theorem repetition_dependencies (index : Nat) (step : RequestStepSpec) :
    (plan.inRepetition index step).dependencies = step.dependencies.map (plan.scope index ++ ·) := by
  simp [RequestPlan.inRepetition, RequestStepSpec.dependencies, Function.comp_def]

theorem repetition_closed (valid : plan.validateGraph = .ok ()) (index : Nat) :
    Closed Coordinate.id Coordinate.dependencies ((plan.repetition index).map Coordinate.step) := by
  cases listed : plan.steps with
  | none =>
      intro before coordinate after split
      rw [RequestPlan.repetition, listed, List.map_singleton] at split
      cases before with
      | nil =>
          rw [List.nil_append, List.cons.injEq] at split
          rw [← split.1]
          exact List.nil_subset _
      | cons first rest =>
          have long := congrArg List.length split
          simp at long
  | some steps =>
      have checked := plan_checked plan valid steps listed
      intro before coordinate after split
      rw [RequestPlan.repetition, listed, List.map_map] at split
      obtain ⟨front, back, steps', first, second⟩ := List.map_eq_append_iff.mp split
      obtain ⟨step, rest, here, rfl, _⟩ := List.map_eq_cons_iff.mp second
      have known := check_steps_closed [] steps checked front rest step (by rw [steps', here])
      rw [List.append_nil] at known
      intro name member
      change name ∈ (plan.inRepetition index step).dependencies at member
      rw [repetition_dependencies] at member
      obtain ⟨dependency, needed, rfl⟩ := List.mem_map.mp member
      obtain ⟨parent, earlier, rfl⟩ := List.mem_map.mp (known needed)
      rw [← first, List.map_map]
      exact List.mem_map.mpr ⟨parent, earlier, rfl⟩

theorem family_closed (family count : Nat) :
    Closed Coordinate.id Coordinate.dependencies ((List.range count).map (Coordinate.probe family)) := by
  intro before coordinate after split
  obtain ⟨front, back, ranged, first, second⟩ := List.map_eq_append_iff.mp split
  obtain ⟨occurrence, rest, here, rfl, _⟩ := List.map_eq_cons_iff.mp second
  have place : front.length = occurrence := by
    have read : (List.range count)[front.length]? = some occurrence := by rw [ranged, here]; simp
    rw [List.getElem?_range] at read
    · exact Option.some.inj read
    · have long := congrArg List.length (ranged.trans (by rw [here]))
      simp at long
      omega
  by_cases prime : occurrence = 0
  · rw [Coordinate.dependencies, if_pos prime]
    exact List.nil_subset _
  · rw [Coordinate.dependencies, if_neg prime]
    intro name member
    rw [List.mem_singleton.mp member, ← first, List.map_map]
    have read : (List.range count)[occurrence - 1]? = front[occurrence - 1]? := by
      rw [ranged, List.getElem?_append_left (by omega)]
    have bound := congrArg List.length ranged
    rw [here, List.length_append, List.length_range, List.length_cons] at bound
    rw [List.getElem?_range (by omega)] at read
    exact List.mem_map.mpr ⟨occurrence - 1, List.mem_of_getElem? read.symm, rfl⟩

def Benchmark.groups (gen : Generator) (benchmark : Benchmark) : List (List Coordinate) :=
  match benchmark.cacheProbe with
  | some probe => (benchmark.families gen probe).map fun family =>
      (List.range (probe.repeatsAfterPrime + 1)).map (Coordinate.probe family)
  | none => (List.range benchmark.plan.repeats).map fun index => (benchmark.plan.repetition index).map .step

variable (gen : Generator) (benchmark : Benchmark)

theorem coordinates_groups : benchmark.coordinates gen = (benchmark.groups gen).flatten := by
  rw [Benchmark.coordinates, Benchmark.groups]
  cases benchmark.cacheProbe with
  | none => rw [expand_repetitions, List.map_flatMap, List.flatMap]
  | some probe => rfl

theorem groups_closed (valid : benchmark.plan.validateGraph = .ok ()) :
    ∀ group ∈ benchmark.groups gen, Closed Coordinate.id Coordinate.dependencies group := by
  intro group member
  rw [Benchmark.groups] at member
  split at member
  · obtain ⟨family, _, rfl⟩ := List.mem_map.mp member
    exact family_closed family _
  · obtain ⟨index, _, rfl⟩ := List.mem_map.mp member
    exact repetition_closed benchmark.plan valid index

theorem families_perm (probe : CacheProbeConfig) : (benchmark.families gen probe).Perm (List.range probe.trials) := by
  rw [Benchmark.families]
  split
  · exact shuffle_perm gen _ _
  · exact List.Perm.refl _

theorem probe_id_chars (family occurrence : Nat) :
    (Coordinate.probe family occurrence).id.toList =
      "probe-".toList ++ (family.repr.toList ++ '-' :: occurrence.repr.toList) := by
  simp [Coordinate.id, toString]

theorem probe_id_injective (family occurrence other later : Nat)
    (same : (Coordinate.probe family occurrence).id = (Coordinate.probe other later).id) :
    family = other ∧ occurrence = later := by
  have chars := congrArg String.toList same
  rw [probe_id_chars, probe_id_chars] at chars
  obtain ⟨families, rest⟩ := Numerals.natural_split family other _ _ (by simp [Numerals.Closed]) (by simp [Numerals.Closed])
    (List.append_cancel_left chars)
  exact ⟨families, Numerals.natural_injective _ _ (List.cons.inj rest).2⟩

theorem scoped_chars (several : 1 < plan.repeats) (index : Nat) (step : RequestStepSpec) :
    (plan.inRepetition index step).name.toList = index.repr.toList ++ '.' :: step.name.toList := by
  simp [RequestPlan.inRepetition, RequestPlan.scope, several, toString]

theorem scope_cancel (index : Nat) (step other : RequestStepSpec)
    (same : (plan.inRepetition index step).name = (plan.inRepetition index other).name) : step.name = other.name :=
  String.append_right_inj _ |>.mp same

theorem scope_apart (several : 1 < plan.repeats) (index later : Nat) (step other : RequestStepSpec)
    (same : (plan.inRepetition index step).name = (plan.inRepetition later other).name) : index = later := by
  have chars := congrArg String.toList same
  rw [scoped_chars plan several, scoped_chars plan several] at chars
  exact (Numerals.natural_split index later _ _ (by simp [Numerals.Closed]) (by simp [Numerals.Closed]) chars).1

theorem repetition_names (valid : plan.validateGraph = .ok ()) (index : Nat) :
    ((plan.repetition index).map RequestStepSpec.name).Nodup := by
  rw [RequestPlan.repetition]
  cases listed : plan.steps with
  | none => exact List.nodup_singleton _
  | some steps =>
      have checked := plan_checked plan valid steps listed
      have distinct := (check_steps_names [] steps checked).1
      rw [List.map_map, List.Nodup, List.pairwise_map]
      rw [List.Nodup, List.pairwise_map] at distinct
      exact distinct.imp fun apart same => apart (scope_cancel plan index _ _ same)

theorem repetitions_apart (index later : Nat) (inside : index < plan.repeats) (further : later < plan.repeats)
    (differ : index ≠ later) (step other : RequestStepSpec) (first : step ∈ plan.repetition index)
    (second : other ∈ plan.repetition later) : step.name ≠ other.name := by
  intro same
  cases listed : plan.steps with
  | none =>
      rw [RequestPlan.repetition, listed, List.mem_singleton] at first second
      rw [first, second] at same
      exact differ (Numerals.natural_injective _ _ (congrArg String.toList same))
  | some steps =>
      rw [RequestPlan.repetition, listed] at first second
      obtain ⟨template, _, rfl⟩ := List.mem_map.mp first
      obtain ⟨base, _, rfl⟩ := List.mem_map.mp second
      exact differ (scope_apart plan (by omega) index later template base same)

theorem coordinate_ids_nodup (valid : benchmark.plan.validateGraph = .ok ()) :
    ((benchmark.coordinates gen).map Coordinate.id).Nodup := by
  rw [Benchmark.coordinates]
  split
  · rename_i probe _
    rw [List.map_flatMap, List.nodup_flatMap]
    constructor
    · intro family _
      rw [List.map_map]
      refine List.Nodup.map (fun occurrence later same => ?_) List.nodup_range
      exact (probe_id_injective family occurrence family later same).2
    · have distinct := (families_perm gen benchmark probe).nodup_iff.mpr List.nodup_range
      refine distinct.imp fun apart name first second => ?_
      obtain ⟨_, member, rfl⟩ := List.mem_map.mp first
      obtain ⟨occurrence, _, rfl⟩ := List.mem_map.mp member
      obtain ⟨_, other, same⟩ := List.mem_map.mp second
      obtain ⟨later, _, rfl⟩ := List.mem_map.mp other
      exact apart (probe_id_injective _ later _ occurrence same).1.symm
  · rw [List.map_map, expand_repetitions, List.map_flatMap, List.nodup_flatMap]
    constructor
    · intro index _
      exact repetition_names benchmark.plan valid index
    · refine List.Nodup.pairwise_of_forall_ne List.nodup_range fun index inside later further differ => ?_
      intro name first second
      obtain ⟨step, member, rfl⟩ := List.mem_map.mp first
      obtain ⟨other, listed, same⟩ := List.mem_map.mp second
      exact repetitions_apart benchmark.plan index later (List.mem_range.mp inside) (List.mem_range.mp further) differ
        step other member listed same.symm

theorem coordinates_length : (benchmark.coordinates gen).length = benchmark.plannedWorkerCount := by
  rw [Benchmark.coordinates, Benchmark.plannedWorkerCount, Compiler.plannedWorkerCount, Benchmark.document]
  cases benchmark.cacheProbe with
  | none =>
      change (benchmark.plan.expand.map Coordinate.step).length = _
      rw [List.length_map, RequestPlan.expand_length, RequestPlan.workerCount]
      cases benchmark.plan.steps <;> rfl
  | some probe =>
      have families := (families_perm gen benchmark probe).length_eq
      rw [List.length_range] at families
      simp [List.length_flatMap, families, Nat.add_comm]

structure SoundCoordinate (probe : Option CacheProbeConfig) (coordinate : Coordinate) : Prop where
  named : 1 ≤ coordinate.id.length
  short : coordinate.id.length ≤ 128
  sources : coordinate.messageSources ⊆ coordinate.dependencies
  delay : 0 ≤ coordinate.delay probe
  due : ∀ due ∈ coordinate.dueAt, due.offset ≠ none

theorem message_sources_direct (step : RequestStepSpec) : step.messageSources ⊆ step.dependencies :=
  List.map_subset _ (List.filter_subset_self _)

theorem repetition_digits (valid : plan.validFields = true) (index : Nat) (inside : index < plan.repeats) :
    (toString index).length ≤ 5 := by
  have bound := (of_decide_eq_true valid).2.1
  simp only [maxRequestSteps] at bound
  exact (Nat.length_repr_le_iff (by decide)).mpr (by omega)

theorem single_sound (probe : Option CacheProbeConfig) (plan : RequestPlan) (valid : plan.validFields = true) (index : Nat)
    (inside : index < plan.repeats) : SoundCoordinate probe (.step (plan.single index)) where
  named := Nat.length_repr_pos
  short := (repetition_digits plan valid index inside).trans (by decide)
  sources := message_sources_direct _
  delay := duration_seconds_nonneg ⟨0, .s⟩ rfl
  due := fun due given => by cases given

theorem repetition_sound (probe : Option CacheProbeConfig) (plan : RequestPlan) (valid : plan.validFields = true) (index : Nat)
    (inside : index < plan.repeats) (step : RequestStepSpec) (sound : step.valid = true) :
    SoundCoordinate probe (.step (plan.inRepetition index step)) := by
  have fields := of_decide_eq_true sound
  have name := of_decide_eq_true fields.1
  have length : (Coordinate.step (plan.inRepetition index step)).id.length = (plan.scope index).length + step.name.length :=
    String.length_append _ _
  have scope : (plan.scope index).length ≤ 6 := by
    rw [RequestPlan.scope]
    split
    · rw [String.length_append]
      exact Nat.add_le_add (repetition_digits plan valid index inside) (Nat.le_refl 1)
    · exact Nat.zero_le _
  refine ⟨?_, ?_, message_sources_direct _, duration_seconds_nonneg _ fields.2.2.2.1, fun due given naive => ?_⟩
  · omega
  · omega
  · have aware := fields.2.2.2.2.2
    rw [show step.instant = some due from given, Option.all_some, naive] at aware
    cases aware

theorem probe_sound (probe : CacheProbeConfig) (valid : probe.valid = true) (family occurrence : Nat) (few : family < probe.trials)
    (short : occurrence < probe.repeatsAfterPrime + 1) : SoundCoordinate (some probe) (.probe family occurrence) := by
  have bounds := of_decide_eq_true valid
  have prefixed : "probe-".toList.length = 6 := rfl
  have length : (Coordinate.probe family occurrence).id.length = 6 + (family.repr.length + (occurrence.repr.length + 1)) := by
    rw [← String.length_toList, probe_id_chars, List.length_append, List.length_append, List.length_cons, prefixed,
      String.length_toList, String.length_toList]
  have first := (Nat.length_repr_le_iff (n := family) (k := 4) (by decide)).mpr (by omega)
  have second := (Nat.length_repr_le_iff (n := occurrence) (k := 3) (by decide)).mpr (by omega)
  refine ⟨by omega, by omega, List.nil_subset _, ?_, fun due given => by cases given⟩
  rw [Coordinate.delay]
  split
  · exact le_refl 0
  · exact duration_seconds_nonneg probe.delay bounds.2.2.2.2.2.2.1

theorem coordinates_sound (accepted : benchmark.Accepted) :
    ∀ coordinate ∈ benchmark.coordinates gen, SoundCoordinate benchmark.cacheProbe coordinate := by
  have fields := of_decide_eq_true accepted.fields
  intro coordinate member
  rw [Benchmark.coordinates] at member
  cases configured : benchmark.cacheProbe with
  | some probe =>
      rw [configured] at member
      have valid := fields.2.2.2.2.2.2.2.2.2.2.1
      rw [configured, Option.all_some] at valid
      obtain ⟨family, listed, member⟩ := List.mem_flatMap.mp member
      obtain ⟨occurrence, ranged, rfl⟩ := List.mem_map.mp member
      have few := List.mem_range.mp ((families_perm gen benchmark probe).mem_iff.mp listed)
      exact probe_sound probe valid family occurrence few (List.mem_range.mp ranged)
  | none =>
      rw [configured] at member
      have valid := fields.2.1
      obtain ⟨specification, listed, rfl⟩ := List.mem_map.mp member
      rw [expand_repetitions] at listed
      obtain ⟨index, ranged, placed⟩ := List.mem_flatMap.mp listed
      have inside := List.mem_range.mp ranged
      rw [RequestPlan.repetition] at placed
      cases declared : benchmark.plan.steps with
      | none =>
          rw [declared] at placed
          rw [List.mem_singleton.mp placed]
          exact single_sound none benchmark.plan valid index inside
      | some templates =>
          rw [declared] at placed
          obtain ⟨step, template, rfl⟩ := List.mem_map.mp placed
          have steps := (of_decide_eq_true valid).2.2.2.2
          rw [declared, Option.all_some] at steps
          have each := List.all_eq_true.mp (of_decide_eq_true steps).2.2 step template
          exact repetition_sound none benchmark.plan valid index inside step each

end LlmperfOrchestrator.Preparation

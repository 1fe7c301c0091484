import LlmperfOrchestrator.Compiler.Recipe
import LlmperfOrchestrator.Library.Numerals

set_option autoImplicit false

namespace LlmperfOrchestrator.Preparation

open Compiler

def maxRequestSteps : Nat := 100000

structure Duration where
  value : Rat
  unit : DurationUnit
deriving DecidableEq, Repr

-- The exact product of what the two floats denote: the source rounds it to a float.
def Duration.seconds (duration : Duration) : Rat := duration.value * duration.unit.seconds

def Duration.valid (duration : Duration) : Bool := 0 ≤ duration.value

theorem unit_seconds_pos (unit : DurationUnit) : 0 < unit.seconds := by
  cases unit <;> decide +kernel

theorem duration_seconds_nonneg (duration : Duration) (valid : duration.valid = true) : 0 ≤ duration.seconds :=
  Rat.mul_nonneg (of_decide_eq_true valid) (unit_seconds_pos duration.unit).le

-- The last microsecond of the year 9999, counted from the start of the year 1.
def lastInstant : Int := 3652059 * 86400000000 - 1

-- A datetime: its wall clock, and the UTC offset of an aware one.
structure DateTime where
  wall : Int
  offset : Option Int
  supported : 0 ≤ wall ∧ wall ≤ lastInstant
deriving DecidableEq, Repr

structure RequestDependency where
  step : String
  reuseMessages : Bool
deriving DecidableEq, Repr

def RequestDependency.valid (dependency : RequestDependency) : Bool :=
  1 ≤ dependency.step.length ∧ dependency.step.length ≤ 120

structure RequestStepSpec where
  name : String
  input : Option String
  dependsOn : List RequestDependency
  after : Duration
  instant : Option DateTime
deriving DecidableEq, Repr

namespace RequestStepSpec

def dependencies (step : RequestStepSpec) : List String := step.dependsOn.map RequestDependency.step

def messageSources (step : RequestStepSpec) : List String :=
  (step.dependsOn.filter RequestDependency.reuseMessages).map RequestDependency.step

def nameChar (c : Char) : Bool := c.isAlphanum || c = '_' || c = '-'

def validName (name : String) : Bool :=
  1 ≤ name.length ∧ name.length ≤ 100 ∧ name.toList.all nameChar

def validInput (input : String) : Bool := 1 ≤ input.length ∧ input.length ≤ 100

def valid (step : RequestStepSpec) : Bool :=
  validName step.name ∧ step.input.all validInput ∧ step.dependsOn.all RequestDependency.valid ∧ step.after.valid ∧
    step.dependencies.Nodup ∧ step.instant.all fun instant => instant.offset.isSome

end RequestStepSpec

structure RequestPlan where
  repeats : Nat
  every : Option Duration
  input : String
  steps : Option (List RequestStepSpec)
deriving DecidableEq, Repr

namespace RequestPlan

def workerCount (plan : RequestPlan) : Nat :=
  match plan.steps with
  | some steps => plan.repeats * steps.length
  | none => plan.repeats * 1

def checkSteps : List String → List RequestStepSpec → Except String Unit
  | _, [] => .ok ()
  | seen, step :: rest =>
      if step.name ∈ seen ∨ ¬ step.dependencies ⊆ seen then
        .error "steps need unique names and dependencies on earlier steps"
      else checkSteps (step.name :: seen) rest

def validateGraph (plan : RequestPlan) : Except String Unit :=
  if plan.every.isSome ∧ plan.steps.isSome then .error "worker.every cannot combine with explicit steps"
  else if maxRequestSteps < plan.workerCount then .error "request expansion exceeds 100000 Workers"
  else checkSteps [] (plan.steps.getD [])

def validFields (plan : RequestPlan) : Bool :=
  1 ≤ plan.repeats ∧ plan.repeats ≤ maxRequestSteps ∧ plan.every.all Duration.valid ∧
    RequestStepSpec.validInput plan.input ∧
    plan.steps.all fun steps => 1 ≤ steps.length ∧ steps.length ≤ 10000 ∧ steps.all RequestStepSpec.valid

def accepted (plan : RequestPlan) : Prop := plan.validFields = true ∧ plan.validateGraph = .ok ()

-- The names of one repetition, told apart only when there are several.
def scope (plan : RequestPlan) (repetition : Nat) : String :=
  if 1 < plan.repeats then toString repetition ++ "." else ""

def inRepetition (plan : RequestPlan) (repetition : Nat) (step : RequestStepSpec) : RequestStepSpec :=
  { step with
    name := plan.scope repetition ++ step.name
    input := some (step.input.getD plan.input)
    dependsOn := step.dependsOn.map fun dependency =>
      { dependency with step := plan.scope repetition ++ dependency.step } }

def single (plan : RequestPlan) (index : Nat) : RequestStepSpec :=
  { name := toString index, input := some plan.input, dependsOn := [], after := ⟨0, .s⟩, instant := none }

def expand (plan : RequestPlan) : List RequestStepSpec :=
  match plan.steps with
  | none => (List.range plan.repeats).map plan.single
  | some steps => (List.range plan.repeats).flatMap fun repetition => steps.map (plan.inRepetition repetition)

theorem expand_length (plan : RequestPlan) : plan.expand.length = plan.workerCount := by
  cases steps : plan.steps with
  | none => simp [expand, workerCount, steps]
  | some listed => simp [expand, workerCount, steps, List.length_flatMap]

end RequestPlan

end LlmperfOrchestrator.Preparation

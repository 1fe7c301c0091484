import LlmperfOrchestrator.Runtime.Fires

set_option autoImplicit false

namespace LlmperfOrchestrator.Compiler.PlanOccurrences

open Ticks Runtime.Recurrence

def scanLimit (maximum : Option Int) : Nat :=
  match maximum with
  | none => 100001
  | some maximum => maximum.toNat

-- The windows of an interval that end at or before ends_at.
def byEnd (arithmetic : Arithmetic) (every : Rat) (startsAt endsAt : Int) : Int :=
  max 0 (arithmetic.floorDiv (arithmetic.totalSeconds (endsAt - startsAt)) every + 1)

def capped (maximum : Option Int) (count : Int) : Int :=
  match maximum with
  | none => count
  | some maximum => min count maximum

def startOf (timing : RunnerPlanTiming) (now : Int) : Int :=
  timing.startsAt.getD now

section Charges
variable (arithmetic : Arithmetic) (zones : Zones) (timing : RunnerPlanTiming) (now : Int)

def planOccurrences : Except String Int :=
  match timing.recurrence.kind with
  | .interval =>
      match timing.endsAt, timing.maxOccurrences with
      | none, none => .error "runner plan requires ends_at or max_occurrences"
      | none, some maximum => .ok maximum
      | some endsAt, maximum =>
          match timing.recurrence.every with
          | none => .error "every"
          | some every =>
              if every = 0 then .error "float floor division by zero"
              else .ok (capped maximum (byEnd arithmetic every (startOf timing now) endsAt))
  | .calendar =>
      (previewFires arithmetic zones { timing with startsAt := some (startOf timing now) } (scanLimit timing.maxOccurrences)
        (some now) now).map fun items => (items.length : Int)

def Yielded (count number : Nat) : Prop :=
  ∃ items, previewFires arithmetic zones timing count (some now) now = .ok items ∧ items.length = number

-- The number charged is the one previewed by every count above some bound.
def Agrees : Prop :=
  ∃ number : Nat, planOccurrences arithmetic zones timing now = .ok (number : Int) ∧
    ∃ count, ∀ larger, count ≤ larger → Yielded arithmetic zones timing now larger number

-- Fewer are charged than some preview holds.
def Short : Prop :=
  ∃ charged count number, planOccurrences arithmetic zones timing now = .ok charged ∧
    Yielded arithmetic zones timing now count number ∧ charged < number

def plannedFire (n : Nat) : Except String Int :=
  fireTimes arithmetic zones timing.timezone timing.recurrence (startOf timing now) n

def Within (n : Nat) : Prop :=
  ∃ time, plannedFire arithmetic zones timing now n = .ok time ∧ ∀ endsAt ∈ timing.endsAt, time ≤ endsAt

def Overruns (n : Nat) : Prop :=
  ∃ time, plannedFire arithmetic zones timing now n = .ok time ∧ ∃ endsAt ∈ timing.endsAt, endsAt < time

def Below (n : Nat) : Prop :=
  ∀ maximum ∈ timing.maxOccurrences, (n : Int) < maximum

-- Every occurrence the plan comes to is found, and is a datetime.
def Returns : Prop :=
  ∀ n, Below timing n → (∀ i, i < n → Within arithmetic zones timing now i) →
    Within arithmetic zones timing now n ∨ Overruns arithmetic zones timing now n

-- The occurrences counted up to a limit: those within the plan, and where fewer, one past its end.
structure Counted (limit number : Nat) : Prop where
  bounded : number ≤ limit
  within : ∀ i, i < number → Within arithmetic zones timing now i
  stops : number < limit → Overruns arithmetic zones timing now number

end Charges

section Counting
variable {arithmetic : Arithmetic} {zones : Zones} {timing : RunnerPlanTiming} {now : Int}

theorem within_overruns (n : Nat) (within : Within arithmetic zones timing now n) :
    ¬ Overruns arithmetic zones timing now n := by
  obtain ⟨time, fire, inside⟩ := within
  rintro ⟨other, again, endsAt, ends, late⟩
  rw [fire] at again
  cases again
  exact absurd (inside endsAt ends) (not_le.mpr late)

theorem planned_known (n : Nat) (time : Int) (fire : plannedFire arithmetic zones timing now n = .ok time) :
    Within arithmetic zones timing now n ∨ Overruns arithmetic zones timing now n := by
  by_cases late : ∃ endsAt ∈ timing.endsAt, endsAt < time
  · exact .inr ⟨time, fire, late⟩
  · exact .inl ⟨time, fire, fun endsAt ends => not_lt.mp fun beyond => late ⟨endsAt, ends, beyond⟩⟩

theorem planned_earlier (n k : Nat) (before : k ≤ n) (time : Int)
    (fire : plannedFire arithmetic zones timing now n = .ok time) :
    ∃ earlier, plannedFire arithmetic zones timing now k = .ok earlier := by
  induction n generalizing time with
  | zero => exact ⟨time, by rwa [Nat.le_zero.mp before]⟩
  | succ n ih =>
      by_cases last : k = n + 1
      · exact ⟨time, by rw [last, fire]⟩
      · rw [plannedFire, fireTimes] at fire
        cases earlier : fireTimes arithmetic zones timing.timezone timing.recurrence (startOf timing now) n with
        | error text => rw [earlier] at fire; cases fire
        | ok previous => exact ih (by omega) previous earlier

theorem counted_unique (limit first second : Nat) (one : Counted arithmetic zones timing now limit first)
    (other : Counted arithmetic zones timing now limit second) : first = second := by
  have apart : ∀ {low high : Nat}, Counted arithmetic zones timing now limit low →
      Counted arithmetic zones timing now limit high → ¬ low < high := fun ended longer less =>
    within_overruns _ (longer.within _ less) (ended.stops (by have := longer.bounded; omega))
  have forward := apart one other
  have backward := apart other one
  omega

theorem counted_all (number : Nat) (within : ∀ i, i < number → Within arithmetic zones timing now i) :
    Counted arithmetic zones timing now number number :=
  ⟨le_rfl, within, fun short => absurd short (lt_irrefl _)⟩

theorem counted_stop (limit number : Nat) (counted : Counted arithmetic zones timing now limit number)
    (short : number < limit) (other : Nat) (room : number ≤ other) : Counted arithmetic zones timing now other number :=
  ⟨room, counted.within, fun _ => counted.stops short⟩

theorem counted_iff_found (limit : Nat) :
    (∃ number, Counted arithmetic zones timing now limit number) ↔
      ∀ n, n < limit → (∀ i, i < n → Within arithmetic zones timing now i) →
        Within arithmetic zones timing now n ∨ Overruns arithmetic zones timing now n := by
  constructor
  · rintro ⟨number, counted⟩ n below earlier
    rcases lt_trichotomy n number with inside | last | beyond
    · exact .inl (counted.within n inside)
    · exact .inr (last ▸ counted.stops (last ▸ below))
    · exact absurd (counted.stops (by omega)) (within_overruns number (earlier number beyond))
  · intro found
    induction limit with
    | zero => exact ⟨0, le_rfl, by simp, by simp⟩
    | succ limit ih =>
        obtain ⟨number, counted⟩ := ih fun n below => found n (by omega)
        by_cases short : number < limit
        · exact ⟨number, counted_stop limit number counted short _ (by omega)⟩
        · have full : number = limit := by have := counted.bounded; omega
          subst full
          cases found number (by omega) counted.within with
          | inl within =>
              refine ⟨number + 1, counted_all _ fun i below => ?_⟩
              by_cases last : i = number
              · exact last ▸ within
              · exact counted.within i (by omega)
          | inr overruns => exact ⟨number, Nat.le_succ _, counted.within, fun _ => overruns⟩

theorem overrun_counted (n : Nat) (overruns : Overruns arithmetic zones timing now n) :
    ∃ k, k ≤ n ∧ ∀ limit, Counted arithmetic zones timing now limit (min k limit) := by
  classical
  have some : ∃ n, Overruns arithmetic zones timing now n := ⟨n, overruns⟩
  obtain ⟨late, fire, _⟩ := Nat.find_spec some
  have within : ∀ i, i < Nat.find some → Within arithmetic zones timing now i := by
    intro i below
    obtain ⟨time, earlier⟩ := planned_earlier _ i below.le late fire
    exact (planned_known i time earlier).resolve_right (Nat.find_min some below)
  refine ⟨Nat.find some, Nat.find_min' some overruns, fun limit => ⟨min_le_right _ _, fun i below => ?_, fun short => ?_⟩⟩
  · exact within i (lt_of_lt_of_le below (min_le_left _ _))
  · rw [min_eq_left (by omega)]
    exact Nat.find_spec some

end Counting

section Previews
variable (arithmetic : Arithmetic) (zones : Zones) (timing : RunnerPlanTiming) (zone : Zone) (now : Int)

theorem counting_occurrence (n : Nat) :
    occurrence (previewOf arithmetic zones { timing with startsAt := some (startOf timing now) } zone now) n =
      plannedFire arithmetic zones timing now n := by
  induction n with
  | zero => rfl
  | succ n ih =>
      rw [occurrence, ih, plannedFire, plannedFire, fireTimes]
      cases fireTimes arithmetic zones timing.timezone timing.recurrence (startOf timing now) n <;> rfl

theorem immediate_occurrence (instant : timing.startsAt = none) :
    occurrence (previewOf arithmetic zones timing zone now) 0 = .ok now := by
  simp only [occurrence, previewFire, previewOf, instant, decide_true, and_self, if_true, Option.getD_none]
  rfl

theorem immediate_step (instant : timing.startsAt = none) (n : Nat) :
    occurrence (previewOf arithmetic zones timing zone now) (n + 1) =
      (occurrence (previewOf arithmetic zones timing zone now) n).bind fun previous =>
        (nextFireDetails arithmetic zones timing.timezone timing.recurrence now (some previous)).map Prod.fst := by
  rw [occurrence]
  simp only [bind, previewFire, previewOf, instant, reduceCtorEq, and_false, if_false, Option.getD_none]

theorem immediate_start (instant : timing.startsAt = none) : startOf timing now = now := by
  rw [startOf, instant]
  rfl

theorem planned_step (instant : timing.startsAt = none) (n : Nat) :
    plannedFire arithmetic zones timing now (n + 1) = (plannedFire arithmetic zones timing now n).bind fun previous =>
      (nextFireDetails arithmetic zones timing.timezone timing.recurrence now (some previous)).map Prod.fst := by
  simp only [plannedFire, immediate_start timing now instant, fireTimes, bind]

-- A preview follows the planned fires unless it starts at once and they do not.
theorem same_occurrences (starts : timing.startsAt = none → plannedFire arithmetic zones timing now 0 = .ok now) (n : Nat) :
    occurrence (previewOf arithmetic zones timing zone now) n = plannedFire arithmetic zones timing now n := by
  cases given : timing.startsAt with
  | some startsAt =>
      have same : { timing with startsAt := some (startOf timing now) } = timing := by
        cases timing
        cases given
        rfl
      rw [← counting_occurrence arithmetic zones timing zone now, same]
  | none =>
      induction n with
      | zero => rw [immediate_occurrence arithmetic zones timing zone now given, starts given]
      | succ n ih =>
          rw [immediate_step arithmetic zones timing zone now given, ih, planned_step arithmetic zones timing now given]

theorem shifted_occurrences (instant : timing.startsAt = none)
    (first : (nextFireDetails arithmetic zones timing.timezone timing.recurrence now (some now)).map Prod.fst =
      plannedFire arithmetic zones timing now 0) (n : Nat) :
    occurrence (previewOf arithmetic zones timing zone now) (n + 1) = plannedFire arithmetic zones timing now n := by
  induction n with
  | zero =>
      rw [immediate_step arithmetic zones timing zone now instant, immediate_occurrence arithmetic zones timing zone now instant,
        ← first]
      rfl
  | succ n ih =>
      rw [immediate_step arithmetic zones timing zone now instant, ih, planned_step arithmetic zones timing now instant]

variable {arithmetic zones timing zone now}

theorem yields_counted (preview : Preview) (from_ : Nat) (ends : preview.endsAt = timing.endsAt)
    (same : ∀ i, occurrence preview (from_ + i) = plannedFire arithmetic zones timing now i) (limit number : Nat) :
    Yields preview from_ limit number ↔ Counted arithmetic zones timing now limit number := by
  constructor
  · intro yields
    refine ⟨yields.bounded, fun i below => ?_, fun short => ?_⟩
    · have inside := yields.within i below
      rwa [same, ends] at inside
    · have past := yields.stops short
      rwa [Past, same, ends] at past
  · intro counted
    refine ⟨counted.bounded, fun i below => ?_, fun short => ?_⟩
    · rw [same, ends]
      exact counted.within i below
    · rw [Past, same, ends]
      exact counted.stops short

theorem yielded_iff (known : zones timing.timezone = some zone) (count number : Nat) :
    Yielded arithmetic zones timing now count number ↔
      Yields (previewOf arithmetic zones timing zone now) 0 (previewLimit timing.maxOccurrences count) number := by
  rw [Yielded, preview_shape arithmetic zones timing zone known now count]
  exact preview_yields _ _ 0 none rfl number

theorem scan_same (maximum : Option Int) : previewLimit maximum (scanLimit maximum) = scanLimit maximum := by
  cases maximum with
  | none => rfl
  | some maximum => exact min_self _

theorem calendar_charge (known : zones timing.timezone = some zone) (calendar : timing.recurrence.kind = .calendar)
    (charged : Int) :
    planOccurrences arithmetic zones timing now = .ok charged ↔
      ∃ number : Nat, charged = number ∧ Counted arithmetic zones timing now (scanLimit timing.maxOccurrences) number := by
  have follows : ∀ i, occurrence (previewOf arithmetic zones { timing with startsAt := some (startOf timing now) } zone now) (0 + i) =
      plannedFire arithmetic zones timing now i := fun i => by rw [zero_add, counting_occurrence]
  have counted : ∀ number, Yielded arithmetic zones { timing with startsAt := some (startOf timing now) } now
      (scanLimit timing.maxOccurrences) number ↔ Counted arithmetic zones timing now (scanLimit timing.maxOccurrences) number := by
    intro number
    have shown := @yielded_iff arithmetic zones { timing with startsAt := some (startOf timing now) } zone now known
      (scanLimit timing.maxOccurrences) number
    rw [scan_same] at shown
    rw [shown]
    exact yields_counted _ 0 rfl follows _ number
  unfold planOccurrences
  simp only [calendar]
  constructor
  · intro charge
    cases result : previewFires arithmetic zones { timing with startsAt := some (startOf timing now) }
        (scanLimit timing.maxOccurrences) (some now) now with
    | error text => rw [result] at charge; cases charge
    | ok items =>
        rw [result] at charge
        cases charge
        exact ⟨items.length, rfl, (counted items.length).mp ⟨items, result, rfl⟩⟩
  · rintro ⟨number, rfl, held⟩
    obtain ⟨items, result, length⟩ := (counted number).mpr held
    rw [result, ← length]
    rfl

end Previews

end LlmperfOrchestrator.Compiler.PlanOccurrences

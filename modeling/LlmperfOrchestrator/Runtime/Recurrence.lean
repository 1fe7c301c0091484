import LlmperfOrchestrator.Library.Binary64
import LlmperfOrchestrator.Library.Ticks

set_option autoImplicit false

namespace LlmperfOrchestrator.Runtime.Recurrence

open Rounding Ticks Binary64

-- Instants are microseconds of UTC and wall times microseconds of a local
-- clock, both from 1970-01-01T00:00; a day is the number of whole days in one.
def dayLength : Nat := 86400000000

abbrev Clock := Fin 86400000000

-- zoneinfo.ZoneInfo: the offset it gives a wall time and the wall time of an instant.
structure Zone where
  utcoffset : Int → Bool → Int
  fromutc : Int → Int

-- datetime.timedelta(seconds=...) and timedelta.total_seconds().
def timedelta (seconds : Rat) : Int :=
  roundHalfEven (seconds * 1000000)

def totalSeconds (delta : Int) : Rat :=
  (delta : Rat) / 1000000

def datetimeMin : Int := -62135596800000000

def datetimeMax : Int := 253402300799999999

-- What the planner computes in floats, and whether its instants are bounded.
structure Arithmetic where
  microsecond : Rat
  totalSeconds : Int → Rat
  floorDiv : Rat → Rat → Int
  multiply : Int → Rat → Rat
  timedelta : Rat → Int
  bounded : Bool
  positive : 0 < microsecond
  nonneg : ∀ seconds, 0 ≤ seconds → 0 ≤ timedelta seconds

-- timedelta(seconds=...) of a float takes its whole seconds apart first.
def floatTimedelta (seconds : Rat) : Int :=
  truncated seconds * 1000000 + roundHalfEven (nearest ((seconds - truncated seconds) * 1000000))

theorem timedelta_nonneg (seconds : Rat) (nonneg : 0 ≤ seconds) : 0 ≤ timedelta seconds :=
  round_at_least 0 _ (by push_cast; linarith)

theorem float_timedelta_nonneg (seconds : Rat) (nonneg : 0 ≤ seconds) : 0 ≤ floatTimedelta seconds := by
  have whole := truncated_nonneg seconds nonneg
  have floor : 0 ≤ ⌊seconds⌋ := Int.floor_nonneg.mpr nonneg
  have part : 0 ≤ nearest ((seconds - ⌊seconds⌋) * 1000000) :=
    nearest_nonneg _ (mul_nonneg (by linarith [Int.floor_le seconds]) (by norm_num))
  have rounded : 0 ≤ roundHalfEven (nearest ((seconds - ⌊seconds⌋) * 1000000)) :=
    round_at_least 0 _ (by rwa [Int.cast_zero])
  rw [floatTimedelta, whole]
  omega

namespace Arithmetic

def rational (bounded : Bool) : Arithmetic where
  microsecond := 1 / 1000000
  totalSeconds := Recurrence.totalSeconds
  floorDiv dividend divisor := ⌊dividend / divisor⌋
  multiply steps every := steps * every
  timedelta := Recurrence.timedelta
  bounded := bounded
  positive := by norm_num
  nonneg := timedelta_nonneg

def binary64 : Arithmetic where
  microsecond := nearest (1 / 1000000)
  totalSeconds delta := nearest (Recurrence.totalSeconds delta)
  floorDiv := Binary64.floorDiv
  multiply steps every := nearest (nearest steps * every)
  timedelta := floatTimedelta
  bounded := true
  positive := by
    have low := (nearest_bounds (1 / 1000000) (by norm_num)).1
    norm_num at low ⊢
    linarith
  nonneg := float_timedelta_nonneg

def holds (arithmetic : Arithmetic) (value : Int) : Prop :=
  arithmetic.bounded = true → datetimeMin ≤ value ∧ value ≤ datetimeMax

instance (arithmetic : Arithmetic) (value : Int) : Decidable (arithmetic.holds value) :=
  inferInstanceAs (Decidable (_ → _))

end Arithmetic

inductive Kind where
  | interval
  | calendar
deriving DecidableEq, Repr

inductive Frequency where
  | daily
  | weekly
deriving DecidableEq, Repr

inductive Weekday where
  | mon | tue | wed | thu | fri | sat | sun
deriving DecidableEq, Repr

-- WEEKDAYS
def Weekday.number : Weekday → Int
  | .mon => 0
  | .tue => 1
  | .wed => 2
  | .thu => 3
  | .fri => 4
  | .sat => 5
  | .sun => 6

structure RunnerPlanRecurrence where
  kind : Kind
  every : Option Rat
  frequency : Option Frequency
  interval : Option Int
  localTime : Option Clock
  weekdays : Option (List Weekday)
deriving DecidableEq, Repr

def validateInterval (recurrence : RunnerPlanRecurrence) : Except String Unit :=
  match recurrence.interval with
  | none => .ok ()
  | some interval =>
      if interval < 1 then .error "Input should be greater than or equal to 1"
      else if 366 < interval then .error "Input should be less than or equal to 366"
      else .ok ()

def validateShape (arithmetic : Arithmetic) (recurrence : RunnerPlanRecurrence) : Except String Unit := do
  validateInterval recurrence
  match recurrence.kind with
  | .interval =>
      match recurrence.every with
      | none => .error "interval recurrence requires every"
      | some every =>
          if ¬ (arithmetic.microsecond ≤ every ∧ every ≤ 31536000) then
            .error "interval every must be between one microsecond and 365 days"
          else if recurrence.frequency ≠ none ∨ recurrence.interval ≠ none ∨ recurrence.localTime ≠ none ∨
              recurrence.weekdays.getD [] ≠ [] then
            .error "interval recurrence cannot contain calendar fields"
          else .ok ()
  | .calendar =>
      if recurrence.every ≠ none then .error "calendar recurrence cannot contain every"
      else if recurrence.frequency = none ∨ recurrence.localTime = none then
        .error "calendar recurrence requires frequency and local_time"
      else if recurrence.frequency = some .weekly ∧ recurrence.weekdays.getD [] = [] then
        .error "weekly recurrence requires weekdays"
      else if recurrence.frequency = some .daily ∧ recurrence.weekdays.getD [] ≠ [] then
        .error "daily recurrence cannot contain weekdays"
      else .ok ()

inductive Adjustment where
  | nonexistentLocalTime (localTime : Int) (timezone : String)
  | ambiguousLocalTime (localTime : Int) (timezone : String) (selected : Int)
      (candidates : List Int)
deriving DecidableEq, Repr

abbrev Zones := String → Option Zone

def zoneInfo (zones : Zones) (timezoneName : String) : Except String Zone :=
  match zones timezoneName with
  | none => .error s!"No time zone found with key {timezoneName}"
  | some zone => .ok zone

def localDay (zone : Zone) (instant : Int) : Int :=
  zone.fromutc instant / dayLength

def wallTime (day : Int) (clock : Clock) : Int :=
  day * dayLength + clock.val

def foldCandidate (zone : Zone) (naive : Int) (candidates : List Int) (fold : Bool) :
    List Int :=
  let instant := naive - zone.utcoffset naive fold
  if zone.fromutc instant = naive ∧ instant ∉ candidates then candidates ++ [instant] else candidates

def localCandidates (zone : Zone) (day : Int) (clock : Clock) : List Int :=
  ([false, true].foldl (foldCandidate zone (wallTime day clock)) []).mergeSort (fun a b => a ≤ b)

def weekday (day : Int) : Int :=
  (day + 3) % 7

def calendarMatches (day : Int) (frequency : Frequency) (weekdays : Option (List Weekday)) : Bool :=
  frequency = .daily ∨ weekday day ∈ (weekdays.getD []).map Weekday.number

def periodMatches (frequency : Frequency) (interval : Int) (distance : Int) : Bool :=
  0 ≤ distance ∧ (if frequency = .daily then distance % interval = 0 else distance / 7 % interval = 0)

def searchLimit : Nat := 366 * 200

structure Search where
  timezoneName : String
  zone : Zone
  frequency : Frequency
  interval : Int
  weekdays : Option (List Weekday)
  clock : Clock
  startLocalDay : Int
  lower : Int

-- The loop over days of next_fire_details.
def searchDays (search : Search) : Nat → Int → List Adjustment → Except String (Int × List Adjustment)
  | 0, _, _ => .error "unable to find a bounded calendar occurrence"
  | fuel + 1, day, adjustments =>
      if periodMatches search.frequency search.interval (day - search.startLocalDay) ∧
          calendarMatches day search.frequency search.weekdays then
        match localCandidates search.zone day search.clock with
        | [] =>
            searchDays search fuel (day + 1)
              (adjustments ++ [.nonexistentLocalTime (wallTime day search.clock) search.timezoneName])
        | candidate :: others =>
            if search.lower ≤ candidate then
              .ok (candidate,
                if others = [] then adjustments
                else adjustments ++ [.ambiguousLocalTime (wallTime day search.clock) search.timezoneName candidate
                  (candidate :: others)])
            else searchDays search fuel (day + 1) adjustments
      else searchDays search fuel (day + 1) adjustments

def lowerBound (start : Int) (after : Option Int) : Int :=
  match after with
  | none => start
  | some after => max start (after + 1)

-- A datetime outside its range is an OverflowError wherever it is computed.
def representable (arithmetic : Arithmetic) (values : List Int) (fire : Int × List Adjustment) :
    Except String (Int × List Adjustment) :=
  if ∀ value ∈ values, arithmetic.holds value then .ok fire else .error "date value out of range"

-- The multiple of `every` below the bound, or the one it takes to pass it.
def intervalCandidate (arithmetic : Arithmetic) (every : Rat) (elapsed : Int) : Int :=
  let steps := arithmetic.floorDiv (arithmetic.totalSeconds elapsed) every
  let candidate := arithmetic.timedelta (arithmetic.multiply steps every)
  if candidate < elapsed then candidate + arithmetic.timedelta every else candidate

def nextIntervalFire (arithmetic : Arithmetic) (every : Rat) (start lower : Int) :
    Except String (Int × List Adjustment) :=
  if lower ≤ start then .ok (start, [])
  else if every = 0 then .error "float floor division by zero"
  else
    let fire := start + intervalCandidate arithmetic every (lower - start)
    representable arithmetic [lower, fire] (fire, [])

-- int(recurrence.get("interval") or 1)
def repeatInterval (recurrence : RunnerPlanRecurrence) : Int :=
  match recurrence.interval with
  | none => 1
  | some interval => if interval = 0 then 1 else interval

def nextCalendarFire (arithmetic : Arithmetic) (zones : Zones) (timezoneName : String)
    (recurrence : RunnerPlanRecurrence) (start lower : Int) : Except String (Int × List Adjustment) := do
  let zone ← zoneInfo zones timezoneName
  match recurrence.localTime, recurrence.frequency with
  | some clock, some frequency => do
      let fire ← searchDays
        ⟨timezoneName, zone, frequency, repeatInterval recurrence, recurrence.weekdays, clock, localDay zone start, lower⟩
        searchLimit (localDay zone lower) []
      representable arithmetic [lower, zone.fromutc start, zone.fromutc lower, fire.1, zone.fromutc fire.1] fire
  | none, _ => .error "local_time"
  | some _, none => .error "frequency"

def nextFireDetails (arithmetic : Arithmetic) (zones : Zones) (timezoneName : String)
    (recurrence : RunnerPlanRecurrence) (startsAt : Int) (after : Option Int) :
    Except String (Int × List Adjustment) :=
  match recurrence.kind, recurrence.every with
  | .interval, some every => nextIntervalFire arithmetic every startsAt (lowerBound startsAt after)
  | .interval, none => .error "every"
  | .calendar, _ => nextCalendarFire arithmetic zones timezoneName recurrence startsAt (lowerBound startsAt after)

inductive OverlapPolicy where
  | queue
  | skip
deriving DecidableEq, Repr

structure RunnerPlanTiming where
  timezone : String
  startsAt : Option Int
  endsAt : Option Int
  maxOccurrences : Option Int
  recurrence : RunnerPlanRecurrence
  overlapPolicy : OverlapPolicy
  misfireGraceSeconds : Int
deriving DecidableEq, Repr

def validateTimingFields (timing : RunnerPlanTiming) : Except String Unit :=
  if timing.timezone.length < 1 then .error "String should have at least 1 character"
  else if 64 < timing.timezone.length then .error "String should have at most 64 characters"
  else if ∃ maximum ∈ timing.maxOccurrences, maximum < 1 then .error "Input should be greater than or equal to 1"
  else if ∃ maximum ∈ timing.maxOccurrences, 100000 < maximum then .error "Input should be less than or equal to 100000"
  else if timing.misfireGraceSeconds < 0 then .error "Input should be greater than or equal to 0"
  else if 86400 < timing.misfireGraceSeconds then .error "Input should be less than or equal to 86400"
  else .ok ()

-- Instants of the model carry their UTC offset, so its two checks for one hold by type.
def validateTiming (arithmetic : Arithmetic) (zones : Zones) (timing : RunnerPlanTiming) : Except String Unit := do
  validateTimingFields timing
  validateShape arithmetic timing.recurrence
  if timing.endsAt = none ∧ timing.maxOccurrences = none then .error "runner plan requires ends_at or max_occurrences"
  else if timing.startsAt = none ∧ timing.misfireGraceSeconds = 0 then
    .error "an immediate runner plan requires misfire_grace_seconds greater than zero"
  else if ∃ startsAt ∈ timing.startsAt, ∃ endsAt ∈ timing.endsAt, endsAt ≤ startsAt then
    .error "ends_at must be later than starts_at"
  else if zones timing.timezone = none then .error s!"unknown IANA timezone: {timing.timezone}"
  else .ok ()

structure PreviewItem where
  occurrence : Nat
  scheduledFor : Int
  localTime : Int
  adjustments : List Adjustment
deriving DecidableEq, Repr

-- What the loop of preview_fires reads besides its own variables.
structure Preview where
  arithmetic : Arithmetic
  zones : Zones
  timezoneName : String
  recurrence : RunnerPlanRecurrence
  zone : Zone
  startsAt : Int
  endsAt : Option Int
  immediateFirst : Bool

def previewFire (preview : Preview) (previous : Option Int) : Except String (Int × List Adjustment) :=
  if preview.immediateFirst ∧ previous = none then .ok (preview.startsAt, [])
  else nextFireDetails preview.arithmetic preview.zones preview.timezoneName preview.recurrence preview.startsAt previous

def previewItems (preview : Preview) : Nat → Nat → Option Int → Except String (List PreviewItem)
  | 0, _, _ => .ok []
  | remaining + 1, occurrence, previous => do
      let (fireAt, adjustments) ← previewFire preview previous
      if ∃ endsAt ∈ preview.endsAt, endsAt < fireAt then .ok []
      else
        let rest ← previewItems preview remaining (occurrence + 1) (some fireAt)
        .ok (⟨occurrence, fireAt, preview.zone.fromutc fireAt, adjustments⟩ :: rest)

def previewFires (arithmetic : Arithmetic) (zones : Zones) (timing : RunnerPlanTiming) (count : Nat)
    (defaultStartsAt : Option Int) (clockNow : Int) : Except String (List PreviewItem) := do
  let zone ← zoneInfo zones timing.timezone
  let startsAt := (timing.startsAt.orElse fun _ => defaultStartsAt).getD clockNow
  let limit := match timing.maxOccurrences with
    | none => count
    | some maximum => min count maximum.toNat
  previewItems ⟨arithmetic, zones, timing.timezone, timing.recurrence, zone, startsAt, timing.endsAt, timing.startsAt = none⟩
    limit 0 none

-- The period of an interval in microseconds.
def period (every : Rat) : Rat :=
  every * 1000000

-- The whole intervals below the elapsed time and one more, all rounded, do not exceed it.
def Stalls (arithmetic : Arithmetic) (every : Rat) (elapsed : Int) : Prop :=
  arithmetic.timedelta (arithmetic.multiply (arithmetic.floorDiv (arithmetic.totalSeconds (elapsed + 1)) every) every) +
    arithmetic.timedelta every ≤ elapsed

theorem candidate_stalls (arithmetic : Arithmetic) (every : Rat) (nonneg : 0 ≤ every) (elapsed : Int) :
    intervalCandidate arithmetic every (elapsed + 1) ≤ elapsed ↔ Stalls arithmetic every elapsed := by
  have step := arithmetic.nonneg every nonneg
  simp only [intervalCandidate, Stalls]
  generalize arithmetic.timedelta (arithmetic.multiply _ every) = candidate
  split_ifs with short
  · rfl
  · constructor <;> omega

theorem timedelta_steps (steps : Int) (every : Rat) :
    timedelta (steps * every) = roundHalfEven ((steps : Rat) * period every) := by
  rw [timedelta, period, mul_assoc]

theorem elapsed_steps (elapsed : Int) (every : Rat) :
    totalSeconds elapsed / every = (elapsed : Rat) / period every := by
  rw [totalSeconds, period, div_div, mul_comm every]

theorem accepted_bounds (arithmetic : Arithmetic) (recurrence : RunnerPlanRecurrence) (every : Rat)
    (accepted : validateShape arithmetic recurrence = .ok ()) (interval : recurrence.kind = .interval)
    (given : recurrence.every = some every) : arithmetic.microsecond ≤ every ∧ every ≤ 31536000 := by
  unfold validateShape at accepted
  rw [interval, given] at accepted
  cases checked : validateInterval recurrence with
  | error text => rw [checked] at accepted; cases accepted
  | ok _ =>
      rw [checked] at accepted
      by_cases bounded : arithmetic.microsecond ≤ every ∧ every ≤ 31536000
      · exact bounded
      · simp only [bind, Except.bind, bounded, not_false_eq_true, if_true] at accepted
        cases accepted

theorem accepted_every (bounded : Bool) (recurrence : RunnerPlanRecurrence) (every : Rat)
    (accepted : validateShape (.rational bounded) recurrence = .ok ()) (interval : recurrence.kind = .interval)
    (given : recurrence.every = some every) : 1 ≤ period every := by
  have lower : 1 / 1000000 ≤ every := (accepted_bounds _ recurrence every accepted interval given).1
  rw [period]
  linarith

theorem representable_ok (arithmetic : Arithmetic) (values : List Int) (fire found : Int × List Adjustment) :
    representable arithmetic values fire = .ok found ↔ found = fire ∧ ∀ value ∈ values, arithmetic.holds value := by
  rw [representable]
  by_cases held : ∀ value ∈ values, arithmetic.holds value
  · rw [if_pos held, Except.ok.injEq, eq_comm]
    exact (and_iff_left held).symm
  · rw [if_neg held]
    exact ⟨fun bad => (by cases bad), fun valid => absurd valid.2 held⟩

@[simp] theorem representable_unbounded (values : List Int) (fire : Int × List Adjustment) :
    representable (.rational false) values fire = .ok fire :=
  (representable_ok _ values fire fire).mpr ⟨rfl, fun _ _ impossible => by cases impossible⟩

section Details
variable (arithmetic : Arithmetic) (zones : Zones) (timezoneName : String) (recurrence : RunnerPlanRecurrence)
  (every : Rat)

theorem interval_details (interval : recurrence.kind = .interval) (given : recurrence.every = some every) (start : Int)
    (after : Option Int) :
    nextFireDetails arithmetic zones timezoneName recurrence start after =
      nextIntervalFire arithmetic every start (lowerBound start after) := by
  rw [nextFireDetails, interval, given]

theorem first_interval_fire (start : Int) :
    nextIntervalFire arithmetic every start (lowerBound start none) = .ok (start, []) := by
  rw [nextIntervalFire, lowerBound, if_pos le_rfl]

theorem later_interval_fire (nonzero : every ≠ 0) (start elapsed : Int) (nonneg : 0 ≤ elapsed) :
    nextIntervalFire arithmetic every start (lowerBound start (some (start + elapsed))) =
      representable arithmetic [start + (elapsed + 1), start + intervalCandidate arithmetic every (elapsed + 1)]
        (start + intervalCandidate arithmetic every (elapsed + 1), []) := by
  have bound : lowerBound start (some (start + elapsed)) = start + (elapsed + 1) := by
    rw [lowerBound, max_eq_right (by omega), add_assoc]
  rw [nextIntervalFire, bound, if_neg (by omega), if_neg nonzero, add_sub_cancel_left]

end Details

theorem period_nonzero (every : Rat) (unit : 1 ≤ period every) : every ≠ 0 := by
  intro zero
  rw [period, zero, zero_mul] at unit
  exact absurd unit (by norm_num)

theorem rational_candidate (bounded : Bool) (every : Rat) (elapsed : Int) :
    intervalCandidate (.rational bounded) every (elapsed + 1) = tick (period every) elapsed := by
  have single : timedelta every = roundHalfEven (period every) := rfl
  simp only [intervalCandidate, Arithmetic.rational, elapsed_steps, timedelta_steps, single, tick]

theorem next_interval_fire (bounded : Bool) (every : Rat) (unit : 1 ≤ period every) (start elapsed : Int)
    (nonneg : 0 ≤ elapsed) :
    nextIntervalFire (.rational bounded) every start (lowerBound start (some (start + elapsed))) =
      representable (.rational bounded) [start + (elapsed + 1), start + tick (period every) elapsed]
        (start + tick (period every) elapsed, []) := by
  rw [later_interval_fire _ _ (period_nonzero every unit) start elapsed nonneg, rational_candidate]

-- Iterating next_fire_details with `after` set to the previous result.
def fireTimes (arithmetic : Arithmetic) (zones : Zones) (timezoneName : String) (recurrence : RunnerPlanRecurrence)
    (start : Int) : Nat → Except String Int
  | 0 => (nextFireDetails arithmetic zones timezoneName recurrence start none).map Prod.fst
  | n + 1 => do
      let previous ← fireTimes arithmetic zones timezoneName recurrence start n
      (nextFireDetails arithmetic zones timezoneName recurrence start (some previous)).map Prod.fst

-- Every occurrence on the grid of the interval, and no two closer than it less one microsecond.
def OnGrid (zones : Zones) (timezoneName : String) (recurrence : RunnerPlanRecurrence) (every : Rat) (start : Int) :
    Prop :=
  (∀ n : Nat, fireTimes (.rational false) zones timezoneName recurrence start n = .ok (start + timedelta (n * every))) ∧
    ∀ n earlier later, fireTimes (.rational false) zones timezoneName recurrence start n = .ok earlier →
      fireTimes (.rational false) zones timezoneName recurrence start (n + 1) = .ok later →
      period every - 1 ≤ later - earlier

section Interval
variable (zones : Zones) (timezoneName : String) (recurrence : RunnerPlanRecurrence) (every : Rat)
  (accepted : validateShape (.rational false) recurrence = .ok ()) (interval : recurrence.kind = .interval)
  (given : recurrence.every = some every)
include accepted interval given

theorem interval_fires (start : Int) (n : Nat) :
    fireTimes (.rational false) zones timezoneName recurrence start n = .ok (start + ticks (period every) n) := by
  have unit := accepted_every false recurrence every accepted interval given
  induction n with
  | zero =>
      rw [fireTimes, interval_details _ zones timezoneName recurrence every interval given, first_interval_fire, ticks,
        add_zero]
      rfl
  | succ n ih =>
      have lower := ticks_lower (period every) (by linarith) n
      rw [fireTimes, ih]
      simp only [bind, Except.bind]
      rw [interval_details _ zones timezoneName recurrence every interval given,
        next_interval_fire false every unit start _ (by omega), representable_unbounded, ticks]
      rfl

-- Only a whole number of microseconds survives the fallback, which adds a rounded interval to
-- the rounded time instead of rounding the next multiple.
theorem interval_grid (start : Int) :
    OnGrid zones timezoneName recurrence every start ↔ ∃ whole : Int, every * 1000000 = whole := by
  have unit := accepted_every false recurrence every accepted interval given
  have fires := interval_fires zones timezoneName recurrence every accepted interval given start
  have grid : (∀ n : Nat, fireTimes (.rational false) zones timezoneName recurrence start n =
      .ok (start + timedelta (n * every))) ↔ ∃ whole : Int, period every = whole := by
    rw [← ticks_on_grid (period every) unit]
    apply forall_congr'
    intro n
    have step := timedelta_steps (n : Int) every
    push_cast at step
    rw [fires n, step, Except.ok.injEq, add_right_inj]
  constructor
  · intro onGrid
    exact grid.mp onGrid.1
  · intro ⟨whole, exact⟩
    refine ⟨grid.mpr ⟨whole, exact⟩, ?_⟩
    intro n earlier later first second
    have positive : 0 < whole := by
      have above : (0 : Rat) < whole := by rw [← exact]; exact lt_of_lt_of_le (by norm_num) unit
      exact_mod_cast above
    have value : period every = whole := exact
    rw [fires, value, whole_ticks whole positive] at first second
    cases first
    cases second
    rw [value]
    push_cast
    linarith

end Interval

-- A period of 0.3333333 s, accepted, fires its third and its fourth time one microsecond apart.
def thirdOfSecond : RunnerPlanRecurrence :=
  ⟨.interval, some (3333333 / 10000000), none, none, none, none⟩

theorem third_of_second_off_grid :
    validateShape (.rational false) thirdOfSecond = .ok () ∧
      fireTimes (.rational false) (fun _ => none) "Etc/UTC" thirdOfSecond 0 2 = .ok 666666 ∧
      fireTimes (.rational false) (fun _ => none) "Etc/UTC" thirdOfSecond 0 3 = .ok 666667 ∧
      ¬ OnGrid (fun _ => none) "Etc/UTC" thirdOfSecond (3333333 / 10000000) 0 := by
  have third : fireTimes (.rational false) (fun _ => none) "Etc/UTC" thirdOfSecond 0 2 = .ok 666666 := by decide +kernel
  have fourth : fireTimes (.rational false) (fun _ => none) "Etc/UTC" thirdOfSecond 0 3 = .ok 666667 := by decide +kernel
  refine ⟨by decide +kernel, third, fourth, fun onGrid => ?_⟩
  have gap := onGrid.2 2 666666 666667 third fourth
  exact absurd gap (by decide +kernel)

theorem interval_grid_quarter :
    OnGrid (fun _ => none) "Etc/UTC" ⟨.interval, some (1 / 4), none, none, none, none⟩ (1 / 4) 1700000000000000 :=
  (interval_grid (fun _ => none) "Etc/UTC" ⟨.interval, some (1 / 4), none, none, none, none⟩ (1 / 4) (by decide +kernel)
    rfl rfl 1700000000000000).mpr ⟨250000, by norm_num⟩

end LlmperfOrchestrator.Runtime.Recurrence

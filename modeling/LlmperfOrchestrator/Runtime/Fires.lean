import LlmperfOrchestrator.Runtime.Recurrence

set_option autoImplicit false

namespace LlmperfOrchestrator.Runtime.Recurrence

open Rounding Ticks

-- What a plan's timing satisfies once RunnerPlanTiming has accepted it.
structure Accepted (arithmetic : Arithmetic) (zones : Zones) (timing : RunnerPlanTiming) : Prop where
  name : 1 ≤ timing.timezone.length ∧ timing.timezone.length ≤ 64
  maximum : ∀ maximum ∈ timing.maxOccurrences, 1 ≤ maximum ∧ maximum ≤ 100000
  grace : 0 ≤ timing.misfireGraceSeconds ∧ timing.misfireGraceSeconds ≤ 86400
  shape : validateShape arithmetic timing.recurrence = .ok ()
  bounded : ¬ (timing.endsAt = none ∧ timing.maxOccurrences = none)
  immediate : ¬ (timing.startsAt = none ∧ timing.misfireGraceSeconds = 0)
  ordered : ∀ startsAt ∈ timing.startsAt, ∀ endsAt ∈ timing.endsAt, startsAt < endsAt
  known : zones timing.timezone ≠ none

theorem accepted_fields (timing : RunnerPlanTiming) :
    validateTimingFields timing = .ok () ↔
      (1 ≤ timing.timezone.length ∧ timing.timezone.length ≤ 64) ∧
      (∀ maximum ∈ timing.maxOccurrences, 1 ≤ maximum ∧ maximum ≤ 100000) ∧
      (0 ≤ timing.misfireGraceSeconds ∧ timing.misfireGraceSeconds ≤ 86400) := by
  unfold validateTimingFields
  constructor
  · intro accepted
    split_ifs at accepted with short long few many low high
    exact ⟨by omega, fun maximum given => ⟨not_lt.mp fun less => few ⟨maximum, given, less⟩,
      not_lt.mp fun more => many ⟨maximum, given, more⟩⟩, by omega⟩
  · rintro ⟨name, maximum, grace⟩
    rw [if_neg (by omega), if_neg (by omega), if_neg, if_neg, if_neg (by omega), if_neg (by omega)]
    · rintro ⟨given, held, more⟩
      have := (maximum given held).2
      omega
    · rintro ⟨given, held, less⟩
      have := (maximum given held).1
      omega

theorem accepted_timing (arithmetic : Arithmetic) (zones : Zones) (timing : RunnerPlanTiming) :
    validateTiming arithmetic zones timing = .ok () ↔ Accepted arithmetic zones timing := by
  have fields := accepted_fields timing
  unfold validateTiming
  constructor
  · intro accepted
    cases checked : validateTimingFields timing with
    | error text => rw [checked] at accepted; cases accepted
    | ok _ =>
        obtain ⟨name, maximum, grace⟩ := fields.mp checked
        cases shape : validateShape arithmetic timing.recurrence with
        | error text => rw [checked, shape] at accepted; cases accepted
        | ok _ =>
            rw [checked, shape] at accepted
            simp only [bind, Except.bind] at accepted
            split_ifs at accepted with unbounded instant unordered unknown
            exact ⟨name, maximum, grace, shape, unbounded, instant, fun startsAt starts endsAt ends =>
              not_le.mp fun late => unordered ⟨startsAt, starts, endsAt, ends, late⟩, unknown⟩
  · intro accepted
    rw [fields.mpr ⟨accepted.name, accepted.maximum, accepted.grace⟩, accepted.shape]
    simp only [bind, Except.bind]
    rw [if_neg accepted.bounded, if_neg accepted.immediate, if_neg, if_neg accepted.known]
    rintro ⟨startsAt, starts, endsAt, ends, late⟩
    exact absurd (accepted.ordered startsAt starts endsAt ends) (not_lt.mpr late)

section Days

def dayFire (search : Search) (day : Int) : Option Int :=
  if periodMatches search.frequency search.interval (day - search.startLocalDay) ∧
      calendarMatches day search.frequency search.weekdays then
    (localCandidates search.zone day search.clock).head?.filter fun candidate => search.lower ≤ candidate
  else none

variable (search : Search)

theorem search_step (fuel : Nat) (day : Int) (adjustments : List Adjustment) :
    (∃ found, dayFire search day = some found ∧
      (searchDays search (fuel + 1) day adjustments).map Prod.fst = .ok found) ∨
    (dayFire search day = none ∧
      ∃ later, searchDays search (fuel + 1) day adjustments = searchDays search fuel (day + 1) later) := by
  rw [searchDays, dayFire]
  by_cases matching : periodMatches search.frequency search.interval (day - search.startLocalDay) ∧
      calendarMatches day search.frequency search.weekdays
  · rw [if_pos matching, if_pos matching]
    cases localCandidates search.zone day search.clock with
    | nil => exact .inr ⟨rfl, _, rfl⟩
    | cons candidate others =>
        by_cases reached : search.lower ≤ candidate
        · exact .inl ⟨candidate, by simp [reached], by simp [reached, Except.map]⟩
        · exact .inr ⟨by simpa using reached, adjustments, by simp [reached]⟩
  · rw [if_neg matching, if_neg matching]
    exact .inr ⟨rfl, adjustments, rfl⟩

theorem search_found (fuel : Nat) (day found : Int) (adjustments : List Adjustment) :
    (searchDays search fuel day adjustments).map Prod.fst = .ok found ↔
      ∃ i : Nat, i < fuel ∧ dayFire search (day + i) = some found ∧
        ∀ j : Nat, j < i → dayFire search (day + j) = none := by
  induction fuel generalizing day adjustments with
  | zero =>
      constructor
      · intro bad
        cases bad
      · rintro ⟨i, below, _⟩
        omega
  | succ fuel ih =>
      cases search_step search fuel day adjustments with
      | inl hit =>
          obtain ⟨here, fire, result⟩ := hit
          rw [result, Except.ok.injEq]
          constructor
          · intro same
            refine ⟨0, by omega, ?_, by omega⟩
            simp only [Nat.cast_zero, add_zero, fire, same]
          · rintro ⟨i, _, later, none⟩
            by_cases first : i = 0
            · subst first
              simp only [Nat.cast_zero, add_zero, fire] at later
              exact Option.some.inj later
            · have missing := none 0 (by omega)
              simp only [Nat.cast_zero, add_zero, fire] at missing
              cases missing
      | inr miss =>
          obtain ⟨silent, later, result⟩ := miss
          rw [result, ih]
          constructor
          · rintro ⟨i, below, fire, none⟩
            refine ⟨i + 1, by omega, by push_cast; rwa [add_comm (i : Int), ← add_assoc], ?_⟩
            intro j before
            by_cases first : j = 0
            · subst first
              simpa using silent
            · have earlier := none (j - 1) (by omega)
              rwa [show day + 1 + ((j - 1 : Nat) : Int) = day + j by omega] at earlier
          · rintro ⟨i, below, fire, none⟩
            have positive : i ≠ 0 := by
              intro first
              subst first
              simp only [Nat.cast_zero, add_zero, silent] at fire
              cases fire
            refine ⟨i - 1, by omega, by rwa [show day + 1 + ((i - 1 : Nat) : Int) = day + i by omega], ?_⟩
            intro j before
            have earlier := none (j + 1) (by omega)
            rwa [show day + ((j + 1 : Nat) : Int) = day + 1 + j by push_cast; omega] at earlier

theorem day_fire_raised (bound higher : Int) (ordered : bound ≤ higher) (day : Int) :
    dayFire { search with lower := higher } day =
      (dayFire { search with lower := bound } day).filter fun candidate => higher ≤ candidate := by
  unfold dayFire
  dsimp only
  split
  · rw [Option.filter_filter]
    congr 1
    funext candidate
    by_cases reached : higher ≤ candidate
    · simp [reached, ordered.trans reached]
    · simp [reached]
  · rfl

theorem day_fire_bound (day found : Int) (fire : dayFire search day = some found) : search.lower ≤ found := by
  unfold dayFire at fire
  split at fire
  · exact of_decide_eq_true (Option.filter_eq_some_iff.mp fire).2
  · cases fire

theorem fold_candidate_local (zone : Zone) (naive : Int) (candidates : List Int) (fold : Bool)
    (held : ∀ instant ∈ candidates, zone.fromutc instant = naive) :
    ∀ instant ∈ foldCandidate zone naive candidates fold, zone.fromutc instant = naive := by
  intro instant member
  unfold foldCandidate at member
  dsimp only at member
  split at member
  · rename_i valid
    cases List.mem_append.mp member with
    | inl old => exact held instant old
    | inr new => rw [List.mem_singleton.mp new]; exact valid.1
  · exact held instant member

theorem candidate_local (zone : Zone) (day : Int) (clock : Clock) (instant : Int)
    (member : instant ∈ localCandidates zone day clock) : zone.fromutc instant = wallTime day clock := by
  rw [localCandidates, List.mem_mergeSort] at member
  have empty : ∀ instant ∈ ([] : List Int), zone.fromutc instant = wallTime day clock := by simp
  exact fold_candidate_local zone _ _ true (fold_candidate_local zone _ _ false empty) instant member

theorem day_fire_day (day found : Int) (fire : dayFire search day = some found) : localDay search.zone found = day := by
  unfold dayFire at fire
  split at fire
  · have member := List.mem_of_mem_head? (Option.mem_def.mpr (Option.filter_eq_some_iff.mp fire).1)
    rw [localDay, candidate_local search.zone day search.clock found member, wallTime, dayLength]
    omega
  · cases fire

end Days

section Bounds
variable (arithmetic : Arithmetic) (zones : Zones) (timezoneName : String) (recurrence : RunnerPlanRecurrence)

theorem calendar_search (start lower found : Int)
    (result : (nextCalendarFire arithmetic zones timezoneName recurrence start lower).map Prod.fst = .ok found) :
    ∃ search : Search, zones timezoneName = some search.zone ∧
      ∀ bound fire, (nextCalendarFire arithmetic zones timezoneName recurrence start bound).map Prod.fst = .ok fire ↔
        (searchDays { search with lower := bound } searchLimit (localDay search.zone bound) []).map Prod.fst = .ok fire ∧
          ∀ value ∈ [bound, search.zone.fromutc start, search.zone.fromutc bound, fire, search.zone.fromutc fire],
            arithmetic.holds value := by
  unfold nextCalendarFire zoneInfo at result ⊢
  cases known : zones timezoneName with
  | none => rw [known] at result; cases result
  | some zone =>
      rw [known] at result
      cases clocked : recurrence.localTime with
      | none => rw [clocked] at result; cases result
      | some clock =>
          cases repeated : recurrence.frequency with
          | none => rw [clocked, repeated] at result; cases result
          | some frequency =>
              refine ⟨⟨timezoneName, zone, frequency, repeatInterval recurrence, recurrence.weekdays, clock,
                localDay zone start, lower⟩, rfl, fun bound fire => ?_⟩
              simp only [bind, Except.bind]
              cases searched : searchDays ⟨timezoneName, zone, frequency, repeatInterval recurrence, recurrence.weekdays,
                  clock, localDay zone start, bound⟩ searchLimit (localDay zone bound) [] with
              | error text => exact ⟨fun bad => (by cases bad), fun bad => (by cases bad.1)⟩
              | ok pair =>
                  simp only [representable]
                  split_ifs with held
                  · exact ⟨fun same => (by cases same; exact ⟨rfl, held⟩), fun same => same.1⟩
                  · exact ⟨fun bad => (by cases bad), fun valid => absurd (by cases valid.1; exact valid.2) held⟩

theorem calendar_fire_bound (start lower found : Int)
    (result : (nextCalendarFire arithmetic zones timezoneName recurrence start lower).map Prod.fst = .ok found) :
    lower ≤ found := by
  obtain ⟨search, _, searched⟩ := calendar_search arithmetic zones timezoneName recurrence start lower found result
  obtain ⟨i, _, fire, _⟩ := (search_found _ _ _ _ _).mp ((searched lower found).mp result).1
  exact day_fire_bound _ _ _ fire

-- Local dates do not go back from an instant on.
def ForwardDates (zone : Zone) (now : Int) : Prop :=
  ∀ earlier later, now ≤ earlier → earlier ≤ later → localDay zone earlier ≤ localDay zone later

theorem holds_between (early value late : Int) (low : early / dayLength ≤ value / dayLength)
    (high : value / dayLength ≤ late / dayLength) (first : arithmetic.holds early) (last : arithmetic.holds late) :
    arithmetic.holds value := by
  intro bounded
  have lower := (first bounded).1
  have upper := (last bounded).2
  simp only [dayLength, datetimeMin, datetimeMax] at *
  omega

theorem calendar_fire_again (now : Int) (forward : ∀ zone, zones timezoneName = some zone → ForwardDates zone now)
    (start lower found : Int) (late : now ≤ lower)
    (result : (nextCalendarFire arithmetic zones timezoneName recurrence start lower).map Prod.fst = .ok found)
    (past : lower < found) :
    (nextCalendarFire arithmetic zones timezoneName recurrence start (lower + 1)).map Prod.fst = .ok found := by
  obtain ⟨search, known, searched⟩ := calendar_search arithmetic zones timezoneName recurrence start lower found result
  have dates := forward search.zone known
  obtain ⟨reached, held⟩ := (searched lower found).mp result
  obtain ⟨i, below, fire, silent⟩ := (search_found _ _ _ _ _).mp reached
  have day := day_fire_day _ _ _ fire
  have today := dates lower (lower + 1) late (by omega)
  have tomorrow := dates (lower + 1) found (by omega) (by omega)
  dsimp only at day
  refine (searched (lower + 1) found).mpr ⟨(search_found _ _ _ _ _).mpr ?_, ?_⟩
  · -- The same days are tried; those passed over stay passed over.
    have align : ∀ j : Nat, localDay search.zone (lower + 1) + j = localDay search.zone lower +
        ((localDay search.zone (lower + 1) - localDay search.zone lower).toNat + j : Nat) := by
      intro j
      push_cast
      omega
    refine ⟨i - (localDay search.zone (lower + 1) - localDay search.zone lower).toNat, by omega, ?_, ?_⟩
    · rw [day_fire_raised search lower (lower + 1) (by omega), align, Nat.add_sub_cancel' (by omega), fire]
      have reached : lower + 1 ≤ found := past
      exact if_pos (decide_eq_true reached)
    · intro j before
      rw [day_fire_raised search lower (lower + 1) (by omega), align, silent _ (by omega)]
      rfl
  · simp only [List.forall_mem_cons, List.not_mem_nil, false_imp_iff, implies_true, and_true] at held ⊢
    obtain ⟨bound, started, shown, fired, wall⟩ := held
    have next : lower / (dayLength : Int) ≤ (lower + 1) / dayLength := Int.ediv_le_ediv (by decide) (by omega)
    have before : (lower + 1) / (dayLength : Int) ≤ found / dayLength := Int.ediv_le_ediv (by decide) (by omega)
    exact ⟨holds_between arithmetic lower _ found next before bound fired, started,
      holds_between arithmetic _ _ _ today tomorrow shown wall, fired, wall⟩

-- An interval may stall; a calendar search never does.
def Advances (start previous : Int) : Prop :=
  recurrence.kind = .interval → ∀ every ∈ recurrence.every, start ≤ previous → ¬ Stalls arithmetic every (previous - start)

theorem calendar_next_bound (calendar : recurrence.kind = .calendar) (start found : Int) (after : Option Int)
    (result : (nextFireDetails arithmetic zones timezoneName recurrence start after).map Prod.fst = .ok found) :
    lowerBound start after ≤ found := by
  rw [nextFireDetails, calendar] at result
  exact calendar_fire_bound arithmetic zones timezoneName recurrence start _ found result

theorem interval_fire_past (every : Rat) (positive : 0 < every) (start previous found : Int)
    (result : (nextIntervalFire arithmetic every start (lowerBound start (some previous))).map Prod.fst = .ok found) :
    previous < found ↔ (start ≤ previous → ¬ Stalls arithmetic every (previous - start)) := by
  by_cases begun : start ≤ previous
  · obtain ⟨elapsed, rfl⟩ : ∃ elapsed, previous = start + elapsed := ⟨previous - start, by omega⟩
    rw [later_interval_fire arithmetic every positive.ne' start elapsed (by omega), representable] at result
    split_ifs at result
    · cases result
      rw [← candidate_stalls arithmetic every positive.le, add_sub_cancel_left]
      constructor
      · intro past _
        omega
      · intro advances
        have := advances begun
        omega
    · cases result
  · rw [nextIntervalFire, if_pos (by rw [lowerBound]; omega)] at result
    cases result
    exact ⟨fun _ late => absurd late begun, fun _ => not_le.mp begun⟩

theorem next_fire_past (accepted : validateShape arithmetic recurrence = .ok ()) (start previous found : Int)
    (result : (nextFireDetails arithmetic zones timezoneName recurrence start (some previous)).map Prod.fst = .ok found) :
    previous < found ↔ Advances arithmetic recurrence start previous := by
  cases kind : recurrence.kind with
  | calendar =>
      have bound := calendar_next_bound arithmetic zones timezoneName recurrence kind start found (some previous) result
      simp only [lowerBound] at bound
      exact ⟨fun _ interval => (by rw [kind] at interval; cases interval), fun _ => by omega⟩
  | interval =>
      cases given : recurrence.every with
      | none => rw [nextFireDetails, kind, given] at result; cases result
      | some every =>
          have positive := arithmetic.positive.trans_le (accepted_bounds arithmetic recurrence every accepted kind given).1
          rw [interval_details arithmetic zones timezoneName recurrence every kind given] at result
          rw [interval_fire_past arithmetic every positive start previous found result]
          constructor
          · intro advances _ other same
            rw [given] at same
            cases same
            exact advances
          · intro advances
            exact advances kind every given

end Bounds

section Previews

-- The occurrences preview_fires goes through, whatever its limits.
def occurrence (preview : Preview) : Nat → Except String Int
  | 0 => (previewFire preview none).map Prod.fst
  | n + 1 => do
      let previous ← occurrence preview n
      (previewFire preview (some previous)).map Prod.fst

def previousOf (preview : Preview) : Nat → Except String (Option Int)
  | 0 => .ok none
  | n + 1 => (occurrence preview n).map some

variable (preview : Preview)

theorem occurrence_of_previous (n : Nat) (previous : Option Int) (prior : previousOf preview n = .ok previous) :
    occurrence preview n = (previewFire preview previous).map Prod.fst := by
  cases n with
  | zero => cases prior; rfl
  | succ n =>
      rw [previousOf] at prior
      cases earlier : occurrence preview n with
      | error text => rw [earlier] at prior; cases prior
      | ok time =>
          rw [earlier] at prior
          cases prior
          rw [occurrence, earlier]
          rfl

def Past (preview : Preview) (n : Nat) : Prop :=
  ∃ time, occurrence preview n = .ok time ∧ ∃ endsAt ∈ preview.endsAt, endsAt < time

-- The run of the loop from one occurrence on: `k` occurrences inside the window, and where
-- fewer than allowed, one past its end.
structure Yields (preview : Preview) (n remaining k : Nat) : Prop where
  bounded : k ≤ remaining
  within : ∀ i, i < k → ∃ time, occurrence preview (n + i) = .ok time ∧ ∀ endsAt ∈ preview.endsAt, time ≤ endsAt
  stops : k < remaining → Past preview (n + k)

theorem yields_succ (n remaining k : Nat) (time : Int) (here : occurrence preview n = .ok time)
    (inside : ∀ endsAt ∈ preview.endsAt, time ≤ endsAt) :
    Yields preview n (remaining + 1) (k + 1) ↔ Yields preview (n + 1) remaining k := by
  constructor
  · intro yields
    refine ⟨by have := yields.bounded; omega, fun i below => ?_, fun short => ?_⟩
    · have next := yields.within (i + 1) (by omega)
      rwa [← add_assoc, add_right_comm] at next
    · have next := yields.stops (by omega)
      rwa [← add_assoc, add_right_comm] at next
  · intro yields
    refine ⟨by have := yields.bounded; omega, fun i below => ?_, fun short => ?_⟩
    · cases i with
      | zero => exact ⟨time, here, inside⟩
      | succ i =>
          have next := yields.within i (by omega)
          rwa [add_right_comm, add_assoc] at next
    · have next := yields.stops (by omega)
      rwa [add_right_comm, add_assoc] at next

theorem yields_none (n remaining : Nat) (failed : ∀ time, occurrence preview n ≠ .ok time) (k : Nat) :
    ¬ Yields preview n (remaining + 1) k := by
  intro yields
  by_cases empty : k = 0
  · subst empty
    obtain ⟨time, here, _⟩ := yields.stops (by omega)
    exact failed time here
  · obtain ⟨time, here, _⟩ := yields.within 0 (by omega)
    exact failed time here

theorem yields_past (n remaining : Nat) (time : Int) (here : occurrence preview n = .ok time)
    (past : ∃ endsAt ∈ preview.endsAt, endsAt < time) (k : Nat) : Yields preview n (remaining + 1) k ↔ k = 0 := by
  constructor
  · intro yields
    by_contra some
    obtain ⟨other, same, inside⟩ := yields.within 0 (by omega)
    obtain ⟨endsAt, given, beyond⟩ := past
    rw [add_zero, here] at same
    cases same
    exact absurd (inside endsAt given) (not_le.mpr beyond)
  · intro none
    subst none
    exact ⟨by omega, fun i below => absurd below (by omega), fun _ => ⟨time, here, past⟩⟩

theorem preview_step (remaining n : Nat) (previous : Option Int) (time : Int) (adjustments : List Adjustment)
    (fire : previewFire preview previous = .ok (time, adjustments)) :
    previewItems preview (remaining + 1) n previous =
      if ∃ endsAt ∈ preview.endsAt, endsAt < time then .ok []
      else (previewItems preview remaining (n + 1) (some time)).map
        (⟨n, time, preview.zone.fromutc time, adjustments⟩ :: ·) := by
  rw [previewItems, fire]
  simp only [bind, Except.bind]
  split
  · rfl
  · cases previewItems preview remaining (n + 1) (some time) <;> rfl

theorem preview_yields (remaining n : Nat) (previous : Option Int) (prior : previousOf preview n = .ok previous) (k : Nat) :
    (∃ items, previewItems preview remaining n previous = .ok items ∧ items.length = k) ↔
      Yields preview n remaining k := by
  induction remaining generalizing n previous k with
  | zero =>
      constructor
      · rintro ⟨items, result, rfl⟩
        cases result
        exact ⟨le_rfl, fun i below => absurd below (by simp), fun short => absurd short (by simp)⟩
      · intro yields
        exact ⟨[], rfl, by have := yields.bounded; simp only [List.length_nil]; omega⟩
  | succ remaining ih =>
      have here := occurrence_of_previous preview n previous prior
      cases fire : previewFire preview previous with
      | error text =>
          rw [fire] at here
          constructor
          · rintro ⟨items, result, _⟩
            rw [previewItems, fire] at result
            cases result
          · intro yields
            exact absurd yields (yields_none preview n remaining (fun time ok => by rw [here] at ok; cases ok) k)
      | ok found =>
          obtain ⟨time, adjustments⟩ := found
          rw [fire] at here
          replace here : occurrence preview n = .ok time := here
          rw [preview_step preview remaining n previous time adjustments fire]
          by_cases past : ∃ endsAt ∈ preview.endsAt, endsAt < time
          · rw [if_pos past, yields_past preview n remaining time here past k]
            constructor
            · rintro ⟨items, result, rfl⟩
              cases result
              rfl
            · intro none
              exact ⟨[], rfl, none.symm⟩
          · rw [if_neg past]
            have inside : ∀ endsAt ∈ preview.endsAt, time ≤ endsAt := fun endsAt given =>
              not_lt.mp fun beyond => past ⟨endsAt, given, beyond⟩
            have next : previousOf preview (n + 1) = .ok (some time) := by rw [previousOf, here]; rfl
            cases k with
            | zero =>
                constructor
                · rintro ⟨items, result, empty⟩
                  cases later : previewItems preview remaining (n + 1) (some time) with
                  | error text => rw [later] at result; cases result
                  | ok rest => rw [later] at result; cases result; cases empty
                · intro yields
                  obtain ⟨other, same, beyond⟩ := yields.stops (by omega)
                  rw [add_zero, here] at same
                  cases same
                  exact absurd beyond past
            | succ k =>
                rw [yields_succ preview n remaining k time here inside, ← ih (n + 1) (some time) next k]
                constructor
                · rintro ⟨items, result, counted⟩
                  cases later : previewItems preview remaining (n + 1) (some time) with
                  | error text => rw [later] at result; cases result
                  | ok rest =>
                      rw [later] at result
                      cases result
                      exact ⟨rest, rfl, by simpa using counted⟩
                · rintro ⟨rest, result, rfl⟩
                  exact ⟨_, by rw [result]; rfl, rfl⟩

theorem occurrence_earlier (n k : Nat) (time : Int) (here : occurrence preview n = .ok time) (before : k ≤ n) :
    ∃ earlier, occurrence preview k = .ok earlier := by
  induction n generalizing time with
  | zero => exact ⟨time, by rwa [Nat.le_zero.mp before]⟩
  | succ n ih =>
      by_cases last : k = n + 1
      · exact ⟨time, by rw [last, here]⟩
      · cases earlier : occurrence preview n with
        | error text => rw [occurrence, earlier] at here; cases here
        | ok previous => exact ih previous earlier (by omega)

theorem occurrence_step (accepted : validateShape preview.arithmetic preview.recurrence = .ok ()) (n : Nat) (previous time : Int)
    (here : occurrence preview n = .ok previous) (next : occurrence preview (n + 1) = .ok time) :
    previous < time ↔ Advances preview.arithmetic preview.recurrence preview.startsAt previous := by
  rw [occurrence, here] at next
  simp only [bind, Except.bind, previewFire, reduceCtorEq, and_false, if_false] at next
  exact next_fire_past _ _ _ _ accepted _ _ _ next

theorem occurrence_increasing (n k : Nat)
    (steps : ∀ i, k ≤ i → i < n → ∀ previous time, occurrence preview i = .ok previous → occurrence preview (i + 1) = .ok time → previous < time)
    (time earlier : Int) (here : occurrence preview n = .ok time) (there : occurrence preview k = .ok earlier) (before : k < n) :
    earlier < time := by
  induction n generalizing time with
  | zero => omega
  | succ n ih =>
      obtain ⟨previous, middle⟩ := occurrence_earlier preview (n + 1) n time here (by omega)
      have step := steps n (by omega) (by omega) previous time middle here
      by_cases last : k = n
      · subst last
        rw [there] at middle
        cases middle
        exact step
      · exact (ih (fun i from_ below => steps i from_ (by omega)) previous middle (by omega)).trans step

end Previews

def previewOf (arithmetic : Arithmetic) (zones : Zones) (timing : RunnerPlanTiming) (zone : Zone) (now : Int) : Preview :=
  ⟨arithmetic, zones, timing.timezone, timing.recurrence, zone, timing.startsAt.getD now, timing.endsAt, timing.startsAt = none⟩

def previewLimit (maximum : Option Int) (count : Nat) : Nat :=
  match maximum with
  | none => count
  | some maximum => min count maximum.toNat

theorem preview_shape (arithmetic : Arithmetic) (zones : Zones) (timing : RunnerPlanTiming) (zone : Zone)
    (known : zones timing.timezone = some zone) (now : Int) (count : Nat) :
    previewFires arithmetic zones timing count (some now) now =
      previewItems (previewOf arithmetic zones timing zone now) (previewLimit timing.maxOccurrences count) 0 none := by
  rw [previewFires, zoneInfo, known]
  simp only [bind, Except.bind, previewOf, previewLimit]
  cases timing.startsAt with
  | none => rfl
  | some startsAt => rfl

def utc : Zone :=
  ⟨fun _ _ => 0, fun instant => instant⟩

def utcOnly : Zones :=
  fun name => if name = "Etc/UTC" then some utc else none

end LlmperfOrchestrator.Runtime.Recurrence

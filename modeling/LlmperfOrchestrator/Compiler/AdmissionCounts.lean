import LlmperfOrchestrator.Compiler.PlanOccurrences

set_option autoImplicit false

namespace LlmperfOrchestrator.Compiler.PlanOccurrences

open Ticks Runtime.Recurrence

section Conditions
variable (arithmetic : Arithmetic) (zones : Zones) (timing : RunnerPlanTiming) (now : Int)

-- A plan that fires at once, off its calendar, and is counted up to its end.
def ExtraFirst : Prop :=
  timing.startsAt = none ∧ (∀ endsAt ∈ timing.endsAt, now ≤ endsAt) ∧
    (∃ first, plannedFire arithmetic zones timing now 0 = .ok first ∧ now < first) ∧
    ((∃ n, Overruns arithmetic zones timing now n ∧ Below timing n) ∨
      (timing.maxOccurrences = none ∧ Within arithmetic zones timing now 100000))

def BeyondScan : Prop :=
  timing.maxOccurrences = none ∧ Within arithmetic zones timing now 100001

-- The count misses the occurrences before it that the preview holds, or those past the cap of the scan.
def Led (lead : Nat) : Prop :=
  (0 < lead ∧ ∃ n, Overruns arithmetic zones timing now n ∧ Below timing n) ∨
    (timing.maxOccurrences = none ∧ Within arithmetic zones timing now (100001 - lead))

def Undercounted : Prop :=
  ExtraFirst arithmetic zones timing now ∨ BeyondScan arithmetic zones timing now

-- An occurrence within the plan that the floor of its length does not count.
def EarlyFire : Prop :=
  ∃ every ∈ timing.recurrence.every, ∃ endsAt ∈ timing.endsAt, ∃ n : Nat, Below timing n ∧
    arithmetic.floorDiv (arithmetic.totalSeconds (endsAt - startOf timing now)) every < n ∧
      ∀ i, i ≤ n → Within arithmetic zones timing now i

def Shortfall : Prop :=
  match timing.recurrence.kind with
  | .interval => EarlyFire arithmetic zones timing now
  | .calendar => Undercounted arithmetic zones timing now

end Conditions

section Settled
variable {arithmetic : Arithmetic} {zones : Zones} {timing : RunnerPlanTiming} {zone : Zone} {now : Int}

theorem settled_some (known : zones timing.timezone = some zone) (most : Int) (maximum : timing.maxOccurrences = some most)
    (number : Nat) :
    (∃ count, ∀ larger, count ≤ larger → Yielded arithmetic zones timing now larger number) ↔
      Yields (previewOf arithmetic zones timing zone now) 0 most.toNat number := by
  have limited : ∀ larger, most.toNat ≤ larger → previewLimit timing.maxOccurrences larger = most.toNat := by
    intro larger wide
    rw [maximum]
    exact min_eq_right wide
  constructor
  · rintro ⟨count, yielded⟩
    have here := (yielded_iff known _ _).mp (yielded (max count most.toNat) (le_max_left _ _))
    rwa [limited _ (le_max_right _ _)] at here
  · intro yields
    refine ⟨most.toNat, fun larger wide => (yielded_iff known _ _).mpr ?_⟩
    rwa [limited larger wide]

theorem settled_none (known : zones timing.timezone = some zone) (maximum : timing.maxOccurrences = none) (number : Nat) :
    (∃ count, ∀ larger, count ≤ larger → Yielded arithmetic zones timing now larger number) ↔
      Yields (previewOf arithmetic zones timing zone now) 0 (number + 1) number := by
  constructor
  · rintro ⟨count, yielded⟩
    have here := (yielded_iff known _ _).mp (yielded (max count (number + 1)) (le_max_left _ _))
    rw [maximum] at here
    exact ⟨Nat.le_succ _, here.within, fun _ => here.stops (le_max_right count (number + 1))⟩
  · intro yields
    refine ⟨number + 1, fun larger wide => (yielded_iff known _ _).mpr ?_⟩
    rw [maximum]
    exact ⟨(Nat.le_succ _).trans wide, yields.within, fun _ => yields.stops (Nat.lt_succ_self _)⟩

theorem below_limit (most : Int) (maximum : timing.maxOccurrences = some most) (n : Nat) :
    Below timing n ↔ n < most.toNat := by
  simp only [Below, maximum, Option.mem_def, Option.some.injEq, forall_eq']
  omega

theorem returns_some (most : Int) (maximum : timing.maxOccurrences = some most) :
    Returns arithmetic zones timing now ↔ ∃ number, Counted arithmetic zones timing now most.toNat number := by
  rw [counted_iff_found]
  exact forall_congr' fun n => by rw [below_limit most maximum]

theorem returns_none (maximum : timing.maxOccurrences = none) (returns : Returns arithmetic zones timing now) (limit : Nat) :
    ∃ number, Counted arithmetic zones timing now limit number :=
  (counted_iff_found limit).mpr fun n _ => returns n (by simp [Below, maximum])

theorem stop_returns (number : Nat) (counted : Counted arithmetic zones timing now (number + 1) number) :
    Returns arithmetic zones timing now := by
  intro n _ earlier
  have overruns := counted.stops (Nat.lt_succ_self _)
  rcases lt_trichotomy n number with inside | last | beyond
  · exact .inl (counted.within n inside)
  · exact .inr (last ▸ overruns)
  · exact absurd overruns (within_overruns number (earlier number beyond))

theorem charge_agrees (settled : Nat → Prop)
    (stable : ∀ number, (∃ count, ∀ larger, count ≤ larger → Yielded arithmetic zones timing now larger number) ↔ settled number) :
    Agrees arithmetic zones timing now ↔
      ∃ number : Nat, planOccurrences arithmetic zones timing now = .ok (number : Int) ∧ settled number := by
  simp only [Agrees, stable]

end Settled

section Calendar
variable {arithmetic : Arithmetic} {zones : Zones} {timing : RunnerPlanTiming} {zone : Zone} {now : Int}
  (accepted : Runtime.Recurrence.Accepted arithmetic zones timing) (calendar : timing.recurrence.kind = .calendar)
  (known : zones timing.timezone = some zone)
include accepted calendar

theorem calendar_within (n k : Nat) (before : k ≤ n) (within : Within arithmetic zones timing now n) :
    Within arithmetic zones timing now k := by
  obtain ⟨zone, _⟩ := Option.ne_none_iff_exists'.mp accepted.known
  obtain ⟨time, fire, inside⟩ := within
  obtain ⟨earlier, there⟩ := planned_earlier n k before time fire
  refine ⟨earlier, there, fun endsAt ends => le_trans ?_ (inside endsAt ends)⟩
  by_cases same : k = n
  · subst same
    rw [fire] at there
    cases there
    exact le_rfl
  · rw [← counting_occurrence arithmetic zones timing zone now] at fire there
    refine (occurrence_increasing _ n k (fun i _ _ previous next here later => ?_) time earlier fire there (by omega)).le
    refine (occurrence_step _ accepted.shape i previous next here later).mpr fun interval => ?_
    rw [previewOf, calendar] at interval
    cases interval

theorem calendar_stop (n number limit : Nat) (counted : Counted arithmetic zones timing now limit number)
    (short : number < limit) (before : number ≤ n) : ¬ Within arithmetic zones timing now n := fun within =>
  within_overruns number (calendar_within accepted calendar n number before within) (counted.stops short)

include known

section Lead

-- The preview holds lead occurrences before those counted, at most one.
variable (lead : Nat) (small : lead ≤ 1)
  (shift : ∀ limit number, Yields (previewOf arithmetic zones timing zone now) 0 (limit + lead) number ↔
    ∃ rest, number = rest + lead ∧ Counted arithmetic zones timing now limit rest)
include small shift

theorem lead_agrees_some (most : Int) (maximum : timing.maxOccurrences = some most) :
    Agrees arithmetic zones timing now ↔
      Returns arithmetic zones timing now ∧ ¬ Led arithmetic zones timing now lead := by
  have charge := @calendar_charge arithmetic zones timing zone now known calendar
  rw [maximum] at charge
  have positive := (accepted.maximum most maximum).1
  obtain ⟨limit, split⟩ : ∃ limit, most.toNat = limit + lead := ⟨most.toNat - lead, by omega⟩
  rw [charge_agrees _ (settled_some known most maximum), returns_some most maximum]
  simp only [Led, maximum, reduceCtorEq, false_and, or_false, below_limit most maximum, split, shift]
  constructor
  · rintro ⟨number, isCharged, rest, equal, shifted⟩
    obtain ⟨found, same, counted⟩ := (charge _).mp isCharged
    obtain rfl : number = found := by omega
    refine ⟨⟨number, split ▸ counted⟩, fun ⟨led, n, overruns, below⟩ => ?_⟩
    -- Both stop at the first occurrence past the end, one later in the preview.
    obtain ⟨k, early, stops⟩ := overrun_counted n overruns
    have counts := counted_unique _ _ _ counted (stops _)
    have previews := counted_unique _ _ _ shifted (stops _)
    simp only [scanLimit] at counts
    omega
  · rintro ⟨⟨number, counted⟩, never⟩
    refine ⟨number, (charge _).mpr ⟨number, rfl, by rwa [scanLimit, split]⟩, ?_⟩
    by_cases led : 0 < lead
    · have full : number = limit + lead := by
        by_contra short
        have bound := counted.bounded
        exact never ⟨led, number, counted.stops (by omega), by omega⟩
      exact ⟨limit, full, counted_all limit fun i below => counted.within i (by omega)⟩
    · obtain rfl : lead = 0 := by omega
      exact ⟨number, rfl, counted⟩

theorem lead_agrees_none (maximum : timing.maxOccurrences = none) :
    Agrees arithmetic zones timing now ↔
      Returns arithmetic zones timing now ∧ ¬ Led arithmetic zones timing now lead := by
  have charge := @calendar_charge arithmetic zones timing zone now known calendar
  rw [maximum] at charge
  rw [charge_agrees _ (settled_none known maximum)]
  constructor
  · rintro ⟨number, isCharged, yields⟩
    obtain ⟨found, same, counted⟩ := (charge _).mp isCharged
    obtain rfl : number = found := by omega
    rw [show number + 1 = number + 1 - lead + lead by omega, shift] at yields
    obtain ⟨rest, equal, shifted⟩ := yields
    have overruns := shifted.stops (by omega)
    by_cases led : 0 < lead
    · exact absurd overruns (within_overruns rest (counted.within rest (by omega)))
    · obtain rfl : lead = 0 := by omega
      obtain rfl : number = rest := equal
      refine ⟨stop_returns number shifted, ?_⟩
      rintro (⟨none, _⟩ | ⟨_, beyond⟩)
      · exact absurd none (lt_irrefl 0)
      · exact calendar_stop accepted calendar 100001 number _ shifted (Nat.lt_succ_self _) counted.bounded beyond
  · rintro ⟨returns, never⟩
    obtain ⟨number, counted⟩ := returns_none maximum returns (100002 - lead)
    have bound := counted.bounded
    have inside : number < 100002 - lead := by
      by_contra full
      exact never (.inr ⟨maximum, counted.within (100001 - lead) (by omega)⟩)
    have ended := counted_stop _ number counted inside
    by_cases led : 0 < lead
    · exact absurd (.inl ⟨led, number, counted.stops inside, by simp [Below, maximum]⟩) never
    · obtain rfl : lead = 0 := by omega
      exact ⟨number, (charge _).mpr ⟨number, rfl, ended 100001 (by omega)⟩, (shift _ _).mpr ⟨number, rfl, ended _ (by omega)⟩⟩

theorem lead_short : Short arithmetic zones timing now ↔ Led arithmetic zones timing now lead := by
  have charge := @calendar_charge arithmetic zones timing zone now known calendar
  constructor
  · rintro ⟨charged, count, number, isCharged, yielded, less⟩
    obtain ⟨found, rfl, counted⟩ := (charge charged).mp isCharged
    have yields := (yielded_iff known _ _).mp yielded
    have few := yields.bounded
    obtain ⟨limit, split⟩ : ∃ limit, previewLimit timing.maxOccurrences count = limit + lead :=
      ⟨previewLimit timing.maxOccurrences count - lead, by omega⟩
    rw [split, shift] at yields
    obtain ⟨rest, rfl, shifted⟩ := yields
    have bound := counted.bounded
    by_cases short : found < scanLimit timing.maxOccurrences
    · have overruns := counted.stops short
      refine .inl ⟨?_, found, overruns, ?_⟩
      · by_contra unled
        exact within_overruns found (shifted.within found (by omega)) overruns
      · cases maximum : timing.maxOccurrences with
        | none => simp [Below, maximum]
        | some most => exact (below_limit most maximum found).mpr (by rwa [maximum] at short)
    · cases maximum : timing.maxOccurrences with
      | none =>
          rw [maximum] at short
          simp only [scanLimit] at short
          exact .inr ⟨maximum, shifted.within _ (by omega)⟩
      | some most =>
          rw [maximum] at short few
          simp only [scanLimit, previewLimit] at short few
          omega
  · rintro (⟨led, n, overruns, below⟩ | ⟨maximum, within⟩)
    · obtain ⟨k, early, stops⟩ := overrun_counted n overruns
      obtain rfl : lead = 1 := by omega
      refine ⟨_, k + 1, k + 1, (charge _).mpr ⟨_, rfl, stops _⟩, ?_, by omega⟩
      have room : previewLimit timing.maxOccurrences (k + 1) = k + 1 := by
        cases maximum : timing.maxOccurrences with
        | none => rfl
        | some most => exact min_eq_left (by have := (below_limit most maximum n).mp below; omega)
      rw [yielded_iff known, room, shift]
      exact ⟨k, rfl, counted_all k fun i less => (stops k).within i (by omega)⟩
    · have earlier := fun i (before : i < 100002 - lead) => calendar_within accepted calendar _ i (by omega) within
      rw [maximum] at charge
      refine ⟨100001, 100002, 100002, (charge _).mpr ⟨100001, rfl, counted_all 100001 fun i before => earlier i (by omega)⟩, ?_,
        by decide⟩
      rw [yielded_iff known, maximum, previewLimit, show 100002 = 100002 - lead + lead by omega, shift]
      exact ⟨_, rfl, counted_all _ earlier⟩

theorem lead_counts :
    (Agrees arithmetic zones timing now ↔
      Returns arithmetic zones timing now ∧ ¬ Led arithmetic zones timing now lead) ∧
    (Short arithmetic zones timing now ↔ Led arithmetic zones timing now lead) := by
  refine ⟨?_, lead_short accepted calendar known lead small shift⟩
  cases maximum : timing.maxOccurrences with
  | none => exact lead_agrees_none accepted calendar known lead small shift maximum
  | some most => exact lead_agrees_some accepted calendar known lead small shift most maximum

end Lead

-- The preview follows the count: it is short only past the cap of the scan.
theorem followed_counts (starts : timing.startsAt = none → plannedFire arithmetic zones timing now 0 = .ok now) :
    (Agrees arithmetic zones timing now ↔
      Returns arithmetic zones timing now ∧ ¬ BeyondScan arithmetic zones timing now) ∧
    (Short arithmetic zones timing now ↔ BeyondScan arithmetic zones timing now) := by
  have capped : Led arithmetic zones timing now 0 ↔ BeyondScan arithmetic zones timing now := by
    simp only [Led, BeyondScan, lt_irrefl, false_and, false_or, Nat.sub_zero]
  rw [← capped]
  apply lead_counts accepted calendar known 0 (Nat.zero_le 1)
  intro limit number
  rw [Nat.add_zero, yields_counted _ 0 rfl fun i => by rw [zero_add, same_occurrences arithmetic zones timing zone now starts]]
  simp only [Nat.add_zero, exists_eq_left']

-- The preview holds one occurrence before those counted: it is short unless the maximum ends it.
theorem shifted_counts (instant : timing.startsAt = none) (inside : ∀ endsAt ∈ timing.endsAt, now ≤ endsAt) (first : Int)
    (fire : plannedFire arithmetic zones timing now 0 = .ok first) (past : now < first)
    (next : (nextFireDetails arithmetic zones timing.timezone timing.recurrence now (some now)).map Prod.fst = .ok first) :
    (Agrees arithmetic zones timing now ↔
      Returns arithmetic zones timing now ∧ ¬ ExtraFirst arithmetic zones timing now) ∧
    (Short arithmetic zones timing now ↔ ExtraFirst arithmetic zones timing now) := by
  have immediate := immediate_occurrence arithmetic zones timing zone now instant
  have later := shifted_occurrences arithmetic zones timing zone now instant (next.trans fire.symm)
  have extra : Led arithmetic zones timing now 1 ↔ ExtraFirst arithmetic zones timing now :=
    ⟨fun held => ⟨instant, inside, ⟨first, fire, past⟩, held.imp_left And.right⟩,
      fun held => held.2.2.2.imp_left fun ended => ⟨Nat.one_pos, ended⟩⟩
  rw [← extra]
  apply lead_counts accepted calendar known 1 le_rfl
  intro limit number
  cases number with
  | zero =>
      refine ⟨fun yields => ?_, fun ⟨rest, bad, _⟩ => by cases bad⟩
      obtain ⟨time, here, endsAt, ends, beyond⟩ := yields.stops (Nat.succ_pos _)
      rw [immediate] at here
      cases here
      exact absurd (inside endsAt ends) (not_le.mpr beyond)
  | succ rest =>
      rw [yields_succ _ 0 limit rest now immediate inside,
        yields_counted _ (0 + 1) rfl fun i => by rw [zero_add, add_comm, later]]
      simp only [Nat.add_right_cancel_iff, exists_eq_left']

-- A plan whose end has passed holds nothing, counted or previewed.
theorem ended_counts (instant : timing.startsAt = none) (endsAt : Int) (ends : timing.endsAt = some endsAt)
    (late : endsAt < now) (first : Int) (fire : plannedFire arithmetic zones timing now 0 = .ok first) (past : now ≤ first) :
    Agrees arithmetic zones timing now ∧ Returns arithmetic zones timing now ∧
      ¬ Undercounted arithmetic zones timing now ∧ ¬ Short arithmetic zones timing now := by
  have overruns : Overruns arithmetic zones timing now 0 := ⟨first, fire, endsAt, ends, by omega⟩
  have none : ∀ limit, Counted arithmetic zones timing now limit 0 := fun limit =>
    ⟨Nat.zero_le _, by simp, fun _ => overruns⟩
  have charge : planOccurrences arithmetic zones timing now = .ok ((0 : Nat) : Int) :=
    (calendar_charge known calendar _).mpr ⟨0, rfl, none _⟩
  have silent : ∀ limit number, Yields (previewOf arithmetic zones timing zone now) 0 (limit + 1) number ↔ number = 0 :=
    fun limit number => yields_past _ 0 limit now (immediate_occurrence arithmetic zones timing zone now instant)
      ⟨endsAt, ends, late⟩ number
  refine ⟨⟨0, charge, 1, fun larger wide => (yielded_iff known _ _).mpr ?_⟩, stop_returns 0 (none 1), ?_, ?_⟩
  · have room : 1 ≤ previewLimit timing.maxOccurrences larger := by
      cases maximum : timing.maxOccurrences with
      | none => exact wide
      | some most =>
          have := (accepted.maximum most maximum).1
          simp only [previewLimit]
          omega
    obtain ⟨rest, split⟩ := Nat.exists_eq_add_of_le' room
    rw [split, silent]
  · rintro (⟨_, inside, _⟩ | ⟨_, within⟩)
    · exact absurd (inside endsAt ends) (not_le.mpr late)
    · exact calendar_stop accepted calendar 100001 0 1 (none 1) Nat.one_pos (Nat.zero_le _) within
  · rintro ⟨charged, count, number, isCharged, yielded, less⟩
    rw [charge] at isCharged
    cases isCharged
    have yields := (yielded_iff known _ _).mp yielded
    cases limit : previewLimit timing.maxOccurrences count with
    | zero =>
        have := yields.bounded
        omega
    | succ rest =>
        rw [limit, silent] at yields
        omega

-- Neither side returns where the calendar has no first occurrence.
theorem unfound_counts (text : String) (fire : plannedFire arithmetic zones timing now 0 = .error text) :
    (Agrees arithmetic zones timing now ↔
      Returns arithmetic zones timing now ∧ ¬ Undercounted arithmetic zones timing now) ∧
    (Short arithmetic zones timing now ↔ Undercounted arithmetic zones timing now) := by
  have stuck : ∀ time, plannedFire arithmetic zones timing now 0 ≠ .ok time := by
    intro time found
    rw [fire] at found
    cases found
  have unknown : ¬ (Within arithmetic zones timing now 0 ∨ Overruns arithmetic zones timing now 0) := by
    rintro (⟨time, here, _⟩ | ⟨time, here, _⟩) <;> exact stuck time here
  have room : ∀ maximum ∈ timing.maxOccurrences, 1 ≤ maximum := fun maximum given => (accepted.maximum maximum given).1
  have raises : ∀ charged, planOccurrences arithmetic zones timing now ≠ .ok charged := by
    intro charged charge
    obtain ⟨number, _, counted⟩ := (calendar_charge known calendar charged).mp charge
    refine unknown ((counted_iff_found _).mp ⟨number, counted⟩ 0 ?_ (by simp))
    cases maximum : timing.maxOccurrences with
    | none => exact Nat.succ_pos _
    | some most =>
        have := room most maximum
        simp only [scanLimit]
        omega
  have fails : ¬ Returns arithmetic zones timing now := fun returns =>
    unknown (returns 0 (fun maximum given => by have := room maximum given; omega) (by simp))
  have never : ¬ Undercounted arithmetic zones timing now := by
    rintro (⟨_, _, ⟨time, here, _⟩, _⟩ | ⟨_, within⟩)
    · exact stuck time here
    · exact unknown (.inl (calendar_within accepted calendar 100001 0 (Nat.zero_le _) within))
  exact ⟨⟨fun ⟨number, charge, _⟩ => absurd charge (raises _), fun held => absurd held.1 fails⟩,
    ⟨fun ⟨charged, _, _, charge, _⟩ => absurd charge (raises _), fun under => absurd under never⟩⟩

end Calendar

theorem calendar_counts {arithmetic : Arithmetic} {zones : Zones} {timing : RunnerPlanTiming} {now : Int}
    (accepted : Runtime.Recurrence.Accepted arithmetic zones timing) (calendar : timing.recurrence.kind = .calendar)
    (forward : timing.startsAt = none → ∀ zone, zones timing.timezone = some zone → ForwardDates zone now) :
    (Agrees arithmetic zones timing now ↔
      Returns arithmetic zones timing now ∧ ¬ Undercounted arithmetic zones timing now) ∧
    (Short arithmetic zones timing now ↔ Undercounted arithmetic zones timing now) := by
  obtain ⟨zone, known⟩ := Option.ne_none_iff_exists'.mp accepted.known
  -- Off the case of a preview that starts at once, only the cap of the scan is left.
  have capped : (¬ ExtraFirst arithmetic zones timing now) →
      (timing.startsAt = none → plannedFire arithmetic zones timing now 0 = .ok now) →
      (Agrees arithmetic zones timing now ↔
        Returns arithmetic zones timing now ∧ ¬ Undercounted arithmetic zones timing now) ∧
      (Short arithmetic zones timing now ↔ Undercounted arithmetic zones timing now) := by
    intro never starts
    simp only [Undercounted, never, false_or]
    exact followed_counts accepted calendar known starts
  cases starts : timing.startsAt with
  | some startsAt =>
      refine capped (fun extra => ?_) fun instant => ?_
      · rw [extra.1] at starts
        cases starts
      · rw [instant] at starts
        cases starts
  | none =>
      cases fire : plannedFire arithmetic zones timing now 0 with
      | error text => exact unfound_counts accepted calendar known text fire
      | ok first =>
          have searched := fire
          rw [plannedFire, immediate_start timing now starts, fireTimes] at searched
          have bound : now ≤ first := calendar_next_bound _ _ _ _ calendar now first none searched
          by_cases onCalendar : first = now
          · refine capped (fun extra => ?_) fun _ => by rw [fire, onCalendar]
            obtain ⟨_, _, ⟨other, here, past⟩, _⟩ := extra
            rw [fire] at here
            cases here
            omega
          · have past : now < first := lt_of_le_of_ne bound (Ne.symm onCalendar)
            by_cases late : ∃ endsAt ∈ timing.endsAt, endsAt < now
            · obtain ⟨endsAt, ends, early⟩ := late
              obtain ⟨agrees, returns, never, notShort⟩ :=
                ended_counts accepted calendar known starts endsAt ends early first fire bound
              exact ⟨⟨fun _ => ⟨returns, never⟩, fun _ => agrees⟩,
                ⟨fun short => absurd short notShort, fun under => absurd under never⟩⟩
            · have inside : ∀ endsAt ∈ timing.endsAt, now ≤ endsAt := fun endsAt ends =>
                not_lt.mp fun early => late ⟨endsAt, ends, early⟩
              have next : (nextFireDetails arithmetic zones timing.timezone timing.recurrence now (some now)).map Prod.fst =
                  .ok first := by
                rw [nextFireDetails, calendar] at searched ⊢
                have lower : lowerBound now (some now) = now + 1 := max_eq_right (by omega)
                simp only [lower]
                exact calendar_fire_again arithmetic zones timing.timezone timing.recurrence now (forward starts) now now first
                  le_rfl searched past
              have counts := shifted_counts accepted calendar known starts inside first fire past next
              -- Past the cap, the extra first occurrence is past it too.
              have covers : Undercounted arithmetic zones timing now ↔ ExtraFirst arithmetic zones timing now := by
                constructor
                · rintro (extra | ⟨endless, within⟩)
                  · exact extra
                  · exact ⟨starts, inside, ⟨first, fire, past⟩, .inr ⟨endless,
                      calendar_within accepted calendar 100001 100000 (by decide) within⟩⟩
                · exact .inl
              rw [covers]
              exact counts

theorem interval_every {arithmetic : Arithmetic} {recurrence : RunnerPlanRecurrence}
    (shape : validateShape arithmetic recurrence = .ok ()) (interval : recurrence.kind = .interval) :
    ∃ every, recurrence.every = some every := by
  unfold validateShape at shape
  rw [interval] at shape
  cases given : recurrence.every with
  | some every => exact ⟨every, rfl⟩
  | none =>
      rw [given] at shape
      cases checked : validateInterval recurrence with
      | error text => rw [checked] at shape; cases shape
      | ok => rw [checked] at shape; cases shape

section Interval
variable {arithmetic : Arithmetic} {zones : Zones} {timing : RunnerPlanTiming} {zone : Zone} {now : Int} {every : Rat}
  (accepted : Runtime.Recurrence.Accepted arithmetic zones timing) (interval : timing.recurrence.kind = .interval)
  (given : timing.recurrence.every = some every) (known : zones timing.timezone = some zone)
include interval given

theorem interval_follows (limit number : Nat) :
    Yields (previewOf arithmetic zones timing zone now) 0 limit number ↔ Counted arithmetic zones timing now limit number := by
  refine yields_counted _ 0 rfl (fun i => ?_) limit number
  rw [zero_add]
  refine same_occurrences arithmetic zones timing zone now (fun instant => ?_) i
  rw [plannedFire, fireTimes, interval_details _ _ _ _ every interval given, first_interval_fire,
    immediate_start timing now instant]
  rfl

omit given in
theorem endless_charge (most : Int) (endless : timing.endsAt = none) (maximum : timing.maxOccurrences = some most) :
    planOccurrences arithmetic zones timing now = .ok most := by
  unfold planOccurrences
  simp only [interval, endless, maximum]

include accepted

theorem ended_charge (endsAt : Int) (ends : timing.endsAt = some endsAt) :
    planOccurrences arithmetic zones timing now =
      .ok (capped timing.maxOccurrences (byEnd arithmetic every (startOf timing now) endsAt)) := by
  have nonzero : every ≠ 0 :=
    (arithmetic.positive.trans_le (accepted_bounds arithmetic _ every accepted.shape interval given).1).ne'
  unfold planOccurrences
  simp only [interval, ends, given, nonzero, if_false]

include known

theorem interval_short : Short arithmetic zones timing now ↔ EarlyFire arithmetic zones timing now := by
  have follows := @interval_follows arithmetic zones timing zone now every interval given
  constructor
  · rintro ⟨charged, count, number, isCharged, yielded, less⟩
    have previewed := (follows _ _).mp ((yielded_iff known _ _).mp yielded)
    have few : ∀ maximum ∈ timing.maxOccurrences, (number : Int) ≤ max 0 maximum := by
      intro maximum isMaximum
      have bounded := previewed.bounded
      rw [show timing.maxOccurrences = some maximum from isMaximum] at bounded
      have := bounded.trans (min_le_right _ _)
      omega
    cases ends : timing.endsAt with
    | none =>
        cases maximum : timing.maxOccurrences with
        | none => exact absurd ⟨ends, maximum⟩ accepted.bounded
        | some most =>
            rw [endless_charge interval most ends maximum] at isCharged
            cases isCharged
            have := few charged maximum
            have := (accepted.maximum charged maximum).1
            omega
    | some endsAt =>
        rw [ended_charge accepted interval given endsAt ends] at isCharged
        cases isCharged
        have under : byEnd arithmetic every (startOf timing now) endsAt < number := by
          cases maximum : timing.maxOccurrences with
          | none => rwa [maximum] at less
          | some most =>
              have := few most maximum
              have := (accepted.maximum most maximum).1
              rw [maximum] at less
              simp only [capped] at less
              omega
        rw [byEnd] at under
        refine ⟨every, given, endsAt, ends, number - 1, fun maximum isMaximum => ?_, by omega, fun i before =>
          previewed.within i (by omega)⟩
        have := few maximum isMaximum
        have := (accepted.maximum maximum isMaximum).1
        omega
  · rintro ⟨_, isEvery, endsAt, ends, n, below, counted, within⟩
    cases given.symm.trans isEvery
    refine ⟨_, n + 1, n + 1, ended_charge accepted interval given endsAt ends, ?_, ?_⟩
    · rw [yielded_iff known, follows]
      have limit : previewLimit timing.maxOccurrences (n + 1) = n + 1 := by
        cases maximum : timing.maxOccurrences with
        | none => rfl
        | some most =>
            have := below most maximum
            exact min_eq_left (by omega)
      rw [limit]
      exact counted_all (n + 1) fun i before => within i (by omega)
    · have counts : byEnd arithmetic every (startOf timing now) endsAt < n + 1 := by
        rw [byEnd]
        omega
      cases timing.maxOccurrences with
      | none => simpa [capped] using counts
      | some most =>
          simp only [capped]
          push_cast
          omega

end Interval

section Exact
variable {bounded : Bool} {zones : Zones} {timing : RunnerPlanTiming} {zone : Zone} {now : Int} {every : Rat}
  (accepted : Runtime.Recurrence.Accepted (.rational bounded) zones timing) (interval : timing.recurrence.kind = .interval)
  (given : timing.recurrence.every = some every) (known : zones timing.timezone = some zone)
include accepted interval given

section Ended
variable (endsAt : Int) (ends : timing.endsAt = some endsAt) (edge : Nat)
  (first : ∀ n, ticks (period every) n ≤ endsAt - startOf timing now ↔ n < edge)
include ends first

end Ended

include known

end Exact

theorem yielded_length (arithmetic : Arithmetic) (zones : Zones) (timing : RunnerPlanTiming) (now : Int) (count number : Nat)
    (length : (previewFires arithmetic zones timing count (some now) now).map List.length = .ok number) :
    Yielded arithmetic zones timing now count number := by
  cases result : previewFires arithmetic zones timing count (some now) now with
  | error text => rw [result] at length; cases length
  | ok items =>
      rw [result] at length
      cases length
      exact ⟨items, result, rfl⟩

-- Daily at noon for three days, from a plan admitted at midnight without starts_at.
def noonPlan : RunnerPlanTiming :=
  ⟨"Etc/UTC", none, some 259200000000, none, ⟨.calendar, none, some .daily, none, some 43200000000, none⟩, .queue, 60⟩

def quarterPlan : RunnerPlanTiming :=
  ⟨"Etc/UTC", none, some 60000000, some 1000, ⟨.interval, some (1 / 4), none, none, none, none⟩, .skip, 60⟩

theorem short_shortfall (zones : Zones) (timing : RunnerPlanTiming) (accepted : Runtime.Recurrence.Accepted .binary64 zones timing)
    (now : Int)
    (forward : timing.recurrence.kind = .calendar → timing.startsAt = none →
      ∀ zone, zones timing.timezone = some zone → ForwardDates zone now) :
    Short .binary64 zones timing now ↔ Shortfall .binary64 zones timing now := by
  obtain ⟨zone, known⟩ := Option.ne_none_iff_exists'.mp accepted.known
  cases kind : timing.recurrence.kind with
  | interval =>
      obtain ⟨every, given⟩ := interval_every accepted.shape kind
      simp only [Shortfall, kind]
      exact interval_short accepted kind given known
  | calendar =>
      simp only [Shortfall, kind]
      exact (calendar_counts accepted kind (forward kind)).2

-- 5.1 // 1.7 is 2 in doubles, and the fourth run is at 5.1 s.
example : Shortfall .binary64 utcOnly
    ⟨"Etc/UTC", some 0, some 5100000, none, ⟨.interval, some (7656119366529843 / 2 ^ 52), none, none, none, none⟩, .queue, 0⟩ 0 := by
  refine ⟨_, rfl, _, rfl, 3, by simp [Below], by decide +kernel, fun i before => ?_⟩
  have fires : ∀ i : Fin 4, fireTimes .binary64 utcOnly "Etc/UTC"
      ⟨.interval, some (7656119366529843 / 2 ^ 52), none, none, none, none⟩ 0 i = .ok (1700000 * (i : Nat)) := by decide +kernel
  refine ⟨_, fires ⟨i, by omega⟩, ?_⟩
  rintro _ ⟨⟩
  simp only
  omega

end LlmperfOrchestrator.Compiler.PlanOccurrences

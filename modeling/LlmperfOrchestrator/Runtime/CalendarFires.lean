import LlmperfOrchestrator.Runtime.Fires

set_option autoImplicit false

namespace LlmperfOrchestrator.Runtime.Recurrence

-- local.replace(fold=0).astimezone(UTC)
def firstFold (zone : Zone) (naive : Int) : Int := naive - zone.utcoffset naive false

def Shown (zone : Zone) (naive : Int) : Prop := ∃ instant, zone.fromutc instant = naive

-- ZoneInfo: of the instants that show a wall time fold=0 gives the first, and
-- for one clock these first instants come in the order of the days.
structure FirstFolds (zone : Zone) : Prop where
  shows : ∀ instant, zone.fromutc (firstFold zone (zone.fromutc instant)) = zone.fromutc instant
  first : ∀ instant, firstFold zone (zone.fromutc instant) ≤ instant
  increases : ∀ (clock : Clock) (day later : Int), day < later → Shown zone (wallTime day clock) →
    Shown zone (wallTime later clock) → firstFold zone (wallTime day clock) < firstFold zone (wallTime later clock)

def NoReturn (zone : Zone) : Prop :=
  ∀ naive later, naive < later → Shown zone naive → Shown zone later → firstFold zone naive < firstFold zone later

structure RuleDay (frequency : Frequency) (interval : Int) (weekdays : List Weekday) (startDay day : Int) : Prop where
  started : startDay ≤ day
  period : match frequency with
    | .daily => (day - startDay) % interval = 0
    | .weekly => (day - startDay) / 7 % interval = 0
  listed : frequency = .weekly → ∃ chosen ∈ weekdays, chosen.number = weekday day

def Occurs (zone : Zone) (clock : Clock) (rule : Int → Prop) (instant : Int) : Prop :=
  ∃ day, rule day ∧ IsLeast {other | zone.fromutc other = wallTime day clock} instant

section Candidates

variable (zone : Zone) (folds : FirstFolds zone)
include folds

theorem shown_first (naive : Int) : Shown zone naive ↔ zone.fromutc (firstFold zone naive) = naive := by
  constructor
  · rintro ⟨instant, rfl⟩
    exact folds.shows instant
  · intro shows
    exact ⟨_, shows⟩

theorem first_least (naive : Int) (shown : Shown zone naive) :
    IsLeast {instant | zone.fromutc instant = naive} (firstFold zone naive) := by
  constructor
  · exact (shown_first zone folds naive).mp shown
  · rintro instant rfl
    exact folds.first instant

omit folds in
theorem sorted_head (instants : List Int) (least : Int) (member : least ∈ instants) (below : ∀ other ∈ instants, least ≤ other) :
    (instants.mergeSort fun a b => a ≤ b).head? = some least := by
  have sorted : (instants.mergeSort fun a b => a ≤ b).Pairwise fun a b => decide (a ≤ b) = true := by
    apply List.pairwise_mergeSort
    · intro a b c ab bc
      exact decide_eq_true ((of_decide_eq_true ab).trans (of_decide_eq_true bc))
    · intro a b
      simpa using le_total a b
  have held : least ∈ instants.mergeSort fun a b => a ≤ b := List.mem_mergeSort.mpr member
  cases shape : instants.mergeSort fun a b => a ≤ b with
  | nil =>
      rw [shape] at held
      cases held
  | cons head rest =>
      rw [shape] at held sorted
      have listed : head ∈ instants.mergeSort fun a b => a ≤ b := by
        rw [shape]
        exact List.mem_cons_self
      have inside : head ∈ instants := List.mem_mergeSort.mp listed
      cases List.mem_cons.mp held with
      | inl same => rw [same]; rfl
      | inr later =>
          have before := of_decide_eq_true ((List.pairwise_cons.mp sorted).1 least later)
          rw [List.head?_cons, le_antisymm before (below head inside)]

omit folds in
theorem fold_candidate_mem (naive : Int) (candidates : List Int) (fold : Bool) (instant : Int) :
    instant ∈ foldCandidate zone naive candidates fold ↔
      instant ∈ candidates ∨ (instant = naive - zone.utcoffset naive fold ∧ zone.fromutc instant = naive) := by
  unfold foldCandidate
  dsimp only
  by_cases valid : zone.fromutc (naive - zone.utcoffset naive fold) = naive ∧ naive - zone.utcoffset naive fold ∉ candidates
  · rw [if_pos valid, List.mem_append, List.mem_singleton]
    constructor
    · rintro (old | rfl)
      · exact .inl old
      · exact .inr ⟨rfl, valid.1⟩
    · rintro (old | ⟨same, _⟩)
      · exact .inl old
      · exact .inr same
  · rw [if_neg valid]
    constructor
    · exact .inl
    · rintro (old | ⟨rfl, shows⟩)
      · exact old
      · by_contra absent
        exact valid ⟨shows, absent⟩

omit folds in
theorem local_candidates_mem (day : Int) (clock : Clock) (instant : Int) : instant ∈ localCandidates zone day clock ↔
    ∃ fold, instant = wallTime day clock - zone.utcoffset (wallTime day clock) fold ∧ zone.fromutc instant = wallTime day clock := by
  rw [localCandidates, List.mem_mergeSort, List.foldl_cons, List.foldl_cons, List.foldl_nil, fold_candidate_mem, fold_candidate_mem]
  constructor
  · rintro ((absent | early) | late)
    · cases absent
    · exact ⟨false, early⟩
    · exact ⟨true, late⟩
  · rintro ⟨fold, held⟩
    cases fold with
    | false => exact .inl (.inr held)
    | true => exact .inr held

theorem local_candidates_head (day : Int) (clock : Clock) :
    (Shown zone (wallTime day clock) ∧ (localCandidates zone day clock).head? = some (firstFold zone (wallTime day clock))) ∨
      (¬ Shown zone (wallTime day clock) ∧ localCandidates zone day clock = []) := by
  by_cases shown : Shown zone (wallTime day clock)
  · refine .inl ⟨shown, ?_⟩
    have least := first_least zone folds _ shown
    apply sorted_head
    · exact List.mem_mergeSort.mp ((local_candidates_mem zone day clock _).mpr ⟨false, rfl, least.1⟩)
    · intro other member
      obtain ⟨_, _, shows⟩ := (local_candidates_mem zone day clock other).mp (List.mem_mergeSort.mpr member)
      exact least.2 shows
  · refine .inr ⟨shown, ?_⟩
    apply List.eq_nil_iff_forall_not_mem.mpr
    intro instant member
    obtain ⟨_, _, shows⟩ := (local_candidates_mem zone day clock instant).mp member
    exact shown ⟨instant, shows⟩

end Candidates

theorem rule_day (frequency : Frequency) (interval : Int) (weekdays : Option (List Weekday)) (startDay day : Int) :
    (periodMatches frequency interval (day - startDay) = true ∧ calendarMatches day frequency weekdays = true) ↔
      RuleDay frequency interval (weekdays.getD []) startDay day := by
  rw [periodMatches, calendarMatches, decide_eq_true_iff, decide_eq_true_iff]
  cases frequency with
  | daily =>
      constructor
      · rintro ⟨⟨started, period⟩, _⟩
        exact ⟨by omega, by simpa using period, fun weekly => by cases weekly⟩
      · rintro ⟨started, period, _⟩
        exact ⟨⟨by omega, by simpa using period⟩, .inl rfl⟩
  | weekly =>
      constructor
      · rintro ⟨⟨started, period⟩, listed⟩
        obtain ⟨chosen, held, same⟩ := List.mem_map.mp (listed.resolve_left (by decide))
        exact ⟨by omega, by simpa using period, fun _ => ⟨chosen, held, same⟩⟩
      · rintro ⟨started, period, listed⟩
        obtain ⟨chosen, held, same⟩ := listed rfl
        exact ⟨⟨by omega, by simpa using period⟩, .inr (List.mem_map.mpr ⟨chosen, held, same⟩)⟩

def Search.Rule (search : Search) (day : Int) : Prop :=
  RuleDay search.frequency search.interval (search.weekdays.getD []) search.startLocalDay day

section Days

variable (search : Search) (folds : FirstFolds search.zone)
include folds

theorem occurs_first (instant : Int) : Occurs search.zone search.clock search.Rule instant ↔
    ∃ day, search.Rule day ∧ Shown search.zone (wallTime day search.clock) ∧
      instant = firstFold search.zone (wallTime day search.clock) := by
  constructor
  · rintro ⟨day, rule, least⟩
    have shown : Shown search.zone (wallTime day search.clock) := ⟨instant, least.1⟩
    exact ⟨day, rule, shown, least.unique (first_least search.zone folds _ shown)⟩
  · rintro ⟨day, rule, shown, rfl⟩
    exact ⟨day, rule, first_least search.zone folds _ shown⟩

theorem first_day (day : Int) (shown : Shown search.zone (wallTime day search.clock)) :
    localDay search.zone (firstFold search.zone (wallTime day search.clock)) = day := by
  have small := search.clock.isLt
  rw [localDay, (shown_first search.zone folds _).mp shown, wallTime, dayLength]
  omega

theorem day_fire_first (day found : Int) : dayFire search day = some found ↔ search.Rule day ∧
    Shown search.zone (wallTime day search.clock) ∧ found = firstFold search.zone (wallTime day search.clock) ∧
      search.lower ≤ found := by
  have code := rule_day search.frequency search.interval search.weekdays search.startLocalDay day
  rw [dayFire]
  by_cases rule : search.Rule day
  · rw [if_pos (code.mpr rule)]
    rcases local_candidates_head search.zone folds day search.clock with ⟨shown, head⟩ | ⟨hidden, none⟩
    · rw [head]
      by_cases reached : search.lower ≤ firstFold search.zone (wallTime day search.clock)
      · simp only [Option.filter_some, decide_eq_true_eq, if_pos reached, Option.some.injEq]
        constructor
        · rintro rfl
          exact ⟨rule, shown, rfl, reached⟩
        · rintro ⟨_, _, rfl, _⟩
          rfl
      · simp only [Option.filter_some, decide_eq_true_eq, if_neg reached]
        constructor
        · intro absurd_
          cases absurd_
        · rintro ⟨_, _, rfl, early⟩
          exact absurd early reached
    · rw [none]
      constructor
      · intro absurd_
        cases absurd_
      · rintro ⟨_, shown, _⟩
        exact absurd shown hidden
  · rw [if_neg (mt code.mp rule)]
    constructor
    · intro absurd_
      cases absurd_
    · rintro ⟨held, _⟩
      exact absurd held rule

def Search.Skipped (search : Search) (day : Int) : Prop := search.Rule day ∧ ¬ Shown search.zone (wallTime day search.clock)

def Search.skip (search : Search) (day : Int) : Adjustment :=
  .nonexistentLocalTime (wallTime day search.clock) search.timezoneName

theorem search_turn (fuel : Nat) (day : Int) (adjustments : List Adjustment) :
    (∃ found extra, dayFire search day = some found ∧ ¬ search.Skipped day ∧ (∀ other, search.skip other ∉ extra) ∧
      searchDays search (fuel + 1) day adjustments = .ok (found, adjustments ++ extra)) ∨
    (dayFire search day = none ∧ ∃ extra, (∀ other, search.skip other ∈ extra ↔ other = day ∧ search.Skipped day) ∧
      searchDays search (fuel + 1) day adjustments = searchDays search fuel (day + 1) (adjustments ++ extra)) := by
  have code := rule_day search.frequency search.interval search.weekdays search.startLocalDay day
  rw [searchDays, dayFire]
  by_cases rule : search.Rule day
  · rw [if_pos (code.mpr rule), if_pos (code.mpr rule)]
    rcases local_candidates_head search.zone folds day search.clock with ⟨shown, head⟩ | ⟨hidden, none⟩
    · have exists_ : ¬ search.Skipped day := fun skipped => skipped.2 shown
      cases shape : localCandidates search.zone day search.clock with
      | nil =>
          rw [shape] at head
          cases head
      | cons candidate others =>
          by_cases reached : search.lower ≤ candidate
          · refine .inl ⟨candidate, if others = [] then [] else [.ambiguousLocalTime (wallTime day search.clock) search.timezoneName
              candidate (candidate :: others)], by simp [reached], exists_, ?_, ?_⟩
            · intro other
              by_cases single : others = []
              · simp [single]
              · simp [single, Search.skip]
            · by_cases single : others = []
              · simp [reached, single]
              · simp [reached, single]
          · refine .inr ⟨by simpa using reached, [], ?_, by simp [reached]⟩
            intro other
            constructor
            · intro absurd_
              cases absurd_
            · exact fun skipped => absurd skipped.2 exists_
    · rw [none]
      refine .inr ⟨rfl, [search.skip day], ?_, rfl⟩
      intro other
      rw [List.mem_singleton]
      constructor
      · intro same
        have wall := (Adjustment.nonexistentLocalTime.inj same).1
        rw [wallTime, wallTime, dayLength] at wall
        exact ⟨by omega, rule, hidden⟩
      · rintro ⟨rfl, _⟩
        rfl
  · rw [if_neg (mt code.mp rule), if_neg (mt code.mp rule)]
    refine .inr ⟨rfl, [], ?_, by rw [List.append_nil]⟩
    intro other
    constructor
    · intro absurd_
      cases absurd_
    · exact fun skipped => absurd skipped.2.1 rule

theorem search_silent (fuel : Nat) (day : Int) (adjustments : List Adjustment)
    (silent : ∀ j : Nat, j < fuel → dayFire search (day + j) = none) :
    searchDays search fuel day adjustments = .error "unable to find a bounded calendar occurrence" := by
  induction fuel generalizing day adjustments with
  | zero => rfl
  | succ fuel ih =>
      have here := silent 0 (Nat.succ_pos fuel)
      rw [Nat.cast_zero, add_zero] at here
      rcases search_turn search folds fuel day adjustments with ⟨found, _, fire, _⟩ | ⟨_, extra, _, moved⟩
      · rw [here] at fire
        cases fire
      · rw [moved]
        apply ih
        intro j below
        have later := silent (j + 1) (Nat.succ_lt_succ below)
        rwa [Nat.cast_add, Nat.cast_one, add_comm (j : Int), ← add_assoc] at later

theorem search_skips (fuel : Nat) (day found : Int) (adjustments recorded : List Adjustment)
    (result : searchDays search fuel day adjustments = .ok (found, recorded)) :
    ∃ i : Nat, i < fuel ∧ dayFire search (day + i) = some found ∧ (∀ j : Nat, j < i → dayFire search (day + j) = none) ∧
      ∀ other, search.skip other ∈ recorded ↔
        search.skip other ∈ adjustments ∨ (day ≤ other ∧ other < day + i ∧ search.Skipped other) := by
  induction fuel generalizing day adjustments with
  | zero => cases result
  | succ fuel ih =>
      rcases search_turn search folds fuel day adjustments with ⟨here, extra, fire, _, quiet, ends⟩ | ⟨silent, extra, listed, moved⟩
      · rw [ends] at result
        cases result
        refine ⟨0, Nat.succ_pos fuel, by simpa using fire, fun j below => absurd below (Nat.not_lt_zero j), ?_⟩
        intro other
        rw [List.mem_append]
        constructor
        · exact fun held => .inl (held.resolve_right (quiet other))
        · rintro (old | ⟨from_, below, _⟩)
          · exact .inl old
          · rw [Nat.cast_zero, add_zero] at below
            omega
      · rw [moved] at result
        obtain ⟨i, within, fire, before, known⟩ := ih (day + 1) (adjustments ++ extra) result
        refine ⟨i + 1, Nat.succ_lt_succ within, ?_, ?_, ?_⟩
        · rwa [Nat.cast_add, Nat.cast_one, add_comm (i : Int), ← add_assoc]
        · intro j below
          cases j with
          | zero => simpa using silent
          | succ j =>
              have passed := before j (Nat.lt_of_succ_lt_succ below)
              rwa [Nat.cast_add, Nat.cast_one, add_comm (j : Int), ← add_assoc]
        · intro other
          rw [known, List.mem_append, listed]
          push_cast
          constructor
          · rintro ((old | ⟨rfl, skipped⟩) | ⟨from_, below, skipped⟩)
            · exact .inl old
            · exact .inr ⟨le_refl _, by omega, skipped⟩
            · exact .inr ⟨by omega, by omega, skipped⟩
          · rintro (old | ⟨from_, below, skipped⟩)
            · exact .inl (.inl old)
            · by_cases same : other = day
              · exact .inl (.inr ⟨same, same ▸ skipped⟩)
              · exact .inr ⟨by omega, by omega, skipped⟩

end Days

structure Due (zone : Zone) (clock : Clock) (rule : Int → Prop) (start : Int) (after : Option Int) (instant : Int) : Prop where
  occurs : Occurs zone clock rule instant
  started : start ≤ instant
  later : ∀ previous ∈ after, previous < instant

theorem lower_bound (start instant : Int) (after : Option Int) :
    lowerBound start after ≤ instant ↔ start ≤ instant ∧ ∀ previous ∈ after, previous < instant := by
  cases after with
  | none => simp [lowerBound]
  | some previous =>
      rw [lowerBound, max_le_iff, Int.add_one_le_iff]
      simp

theorem accepted_interval (recurrence : RunnerPlanRecurrence) (accepted : validateShape (.rational false) recurrence = .ok ()) :
    repeatInterval recurrence = recurrence.interval.getD 1 := by
  rw [repeatInterval]
  cases given : recurrence.interval with
  | none => rfl
  | some interval =>
      by_cases zero : interval = 0
      · have rejected : validateInterval recurrence ≠ .ok () := by
          rw [validateInterval, given, zero]
          decide
        rw [validateShape] at accepted
        cases checked : validateInterval recurrence with
        | error message =>
            rw [checked] at accepted
            cases accepted
        | ok _ => exact absurd checked rejected
      · simp [zero]

def calendarSearch (timezoneName : String) (zone : Zone) (recurrence : RunnerPlanRecurrence) (clock : Clock) (frequency : Frequency)
    (start lower : Int) : Search :=
  ⟨timezoneName, zone, frequency, recurrence.interval.getD 1, recurrence.weekdays, clock, localDay zone start, lower⟩

section Calendar

variable (zones : Zones) (timezoneName : String) (recurrence : RunnerPlanRecurrence) (start : Int) (after : Option Int) (zone : Zone)
  (clock : Clock) (frequency : Frequency) (accepted : validateShape (.rational false) recurrence = .ok ()) (calendar : recurrence.kind = .calendar)
  (clocked : recurrence.localTime = some clock) (repeated : recurrence.frequency = some frequency)
  (known : zones timezoneName = some zone) (folds : FirstFolds zone)

def calendarRule : Int → Prop :=
  RuleDay frequency (recurrence.interval.getD 1) (recurrence.weekdays.getD []) (localDay zone start)

include accepted calendar clocked repeated known in
theorem next_fire_search : nextFireDetails (.rational false) zones timezoneName recurrence start after =
    searchDays (calendarSearch timezoneName zone recurrence clock frequency start (lowerBound start after)) searchLimit
      (localDay zone (lowerBound start after)) [] := by
  rw [nextFireDetails, calendar]
  simp only [nextCalendarFire, zoneInfo, known, clocked, repeated, bind, Except.bind, accepted_interval recurrence accepted,
    representable_unbounded, calendarSearch]
  generalize searchDays _ _ _ _ = searched
  cases searched <;> rfl

include folds

theorem due_fire (day : Int) (instant : Int) (on : localDay zone instant = day) :
    Due zone clock (calendarRule recurrence start zone frequency) start after instant ↔
      dayFire (calendarSearch timezoneName zone recurrence clock frequency start (lowerBound start after)) day = some instant := by
  have first := occurs_first (calendarSearch timezoneName zone recurrence clock frequency start (lowerBound start after)) folds
  rw [day_fire_first _ folds]
  constructor
  · rintro ⟨occurs, started, later⟩
    obtain ⟨other, rule, shown, rfl⟩ := (first instant).mp occurs
    have same : other = day := by
      rw [← on]
      exact (first_day (calendarSearch timezoneName zone recurrence clock frequency start (lowerBound start after)) folds other shown).symm
    rw [← same]
    exact ⟨rule, shown, rfl, (lower_bound start _ after).mpr ⟨started, later⟩⟩
  · rintro ⟨rule, shown, same, reached⟩
    obtain ⟨started, later⟩ := (lower_bound start _ after).mp reached
    exact ⟨(first instant).mpr ⟨day, rule, shown, same⟩, started, later⟩

theorem fire_least (i : Nat) (fire : Int)
    (found : dayFire (calendarSearch timezoneName zone recurrence clock frequency start (lowerBound start after))
      (localDay zone (lowerBound start after) + i) = some fire)
    (before : ∀ j : Nat, j < i → dayFire (calendarSearch timezoneName zone recurrence clock frequency start (lowerBound start after))
      (localDay zone (lowerBound start after) + j) = none) :
    IsLeast {instant | Due zone clock (calendarRule recurrence start zone frequency) start after instant ∧
      localDay zone (lowerBound start after) ≤ localDay zone instant} fire := by
  have on := day_fire_day _ _ _ found
  have due := (due_fire timezoneName recurrence start after zone clock frequency folds _ fire on).mpr found
  constructor
  · refine ⟨due, ?_⟩
    change localDay zone fire = _ at on
    omega
  · rintro other ⟨otherDue, late⟩
    obtain ⟨j, there⟩ : ∃ j : Nat, localDay zone other = localDay zone (lowerBound start after) + j :=
      ⟨(localDay zone other - localDay zone (lowerBound start after)).toNat, by omega⟩
    have otherFire := (due_fire timezoneName recurrence start after zone clock frequency folds _ other there).mp otherDue
    rcases Nat.lt_trichotomy j i with less | same | more
    · rw [before j less] at otherFire
      cases otherFire
    · rw [same, found] at otherFire
      exact le_of_eq (Option.some.inj otherFire)
    · obtain ⟨_, shown, isFire, _⟩ := (day_fire_first _ folds _ _).mp found
      obtain ⟨_, otherShown, isOther, _⟩ := (day_fire_first _ folds _ _).mp otherFire
      rw [isFire, isOther]
      exact le_of_lt (folds.increases clock _ _ (by omega) shown otherShown)

theorem earlier_passed (forward : NoReturn zone) (instant : Int)
    (due : Due zone clock (calendarRule recurrence start zone frequency) start after instant) :
    localDay zone (lowerBound start after) ≤ localDay zone instant := by
  by_contra early
  have reached := (lower_bound start instant after).mpr ⟨due.started, due.later⟩
  obtain ⟨day, _, least⟩ := due.occurs
  have shown : Shown zone (wallTime day clock) := ⟨instant, least.1⟩
  have first := least.unique (first_least zone folds _ shown)
  have past : wallTime day clock < zone.fromutc (lowerBound start after) := by
    rw [← least.1]
    by_contra ahead
    exact early (Int.ediv_le_ediv (by decide) (not_lt.mp ahead))
  have order := forward _ _ past shown ⟨_, rfl⟩
  have bound := folds.first (lowerBound start after)
  omega

include accepted calendar clocked repeated known

theorem calendar_found (fire : Int) (recorded : List Adjustment)
    (result : nextFireDetails (.rational false) zones timezoneName recurrence start after = .ok (fire, recorded)) :
    IsLeast {instant | Due zone clock (calendarRule recurrence start zone frequency) start after instant ∧
      localDay zone (lowerBound start after) ≤ localDay zone instant} fire ∧
    ∀ day, .nonexistentLocalTime (wallTime day clock) timezoneName ∈ recorded ↔
      localDay zone (lowerBound start after) ≤ day ∧ day < localDay zone fire ∧
        calendarRule recurrence start zone frequency day ∧ ¬ Shown zone (wallTime day clock) := by
  rw [next_fire_search zones timezoneName recurrence start after zone clock frequency accepted calendar clocked repeated known] at result
  obtain ⟨i, _, found, before, listed⟩ := search_skips _ folds _ _ _ _ _ result
  refine ⟨fire_least timezoneName recurrence start after zone clock frequency folds i fire found before, ?_⟩
  intro day
  have on := day_fire_day _ _ _ found
  change localDay zone fire = _ at on
  rw [on]
  have skips := listed day
  constructor
  · intro held
    cases skips.mp held with
    | inl absent => cases absent
    | inr passed => exact ⟨passed.1, passed.2.1, passed.2.2⟩
  · rintro ⟨from_, below, skipped⟩
    exact skips.mpr (.inr ⟨from_, below, skipped⟩)

theorem calendar_finds (instant : Int) (due : Due zone clock (calendarRule recurrence start zone frequency) start after instant)
    (late : localDay zone (lowerBound start after) ≤ localDay zone instant)
    (near : localDay zone instant < localDay zone (lowerBound start after) + 73200) :
    ∃ fire recorded, nextFireDetails (.rational false) zones timezoneName recurrence start after = .ok (fire, recorded) := by
  rw [next_fire_search zones timezoneName recurrence start after zone clock frequency accepted calendar clocked repeated known]
  obtain ⟨k, there⟩ : ∃ k : Nat, localDay zone instant = localDay zone (lowerBound start after) + k :=
    ⟨(localDay zone instant - localDay zone (lowerBound start after)).toNat, by omega⟩
  have own := (due_fire timezoneName recurrence start after zone clock frequency folds _ instant there).mp due
  -- the first day of those with a fire
  have fires : ∃ j : Nat, dayFire (calendarSearch timezoneName zone recurrence clock frequency start (lowerBound start after))
      (localDay zone (lowerBound start after) + j) ≠ none := by
    refine ⟨k, ?_⟩
    rw [own]
    exact Option.some_ne_none instant
  obtain ⟨fire, found⟩ := Option.ne_none_iff_exists'.mp (Nat.find_spec fires)
  have within : Nat.find fires < searchLimit := by
    have least : Nat.find fires ≤ k := Nat.find_min' fires (by rw [own]; exact Option.some_ne_none instant)
    rw [searchLimit]
    omega
  have result := (search_found _ searchLimit (localDay zone (lowerBound start after)) fire []).mpr
    ⟨Nat.find fires, within, found, fun j below => by simpa using Nat.find_min fires below⟩
  cases searched : searchDays (calendarSearch timezoneName zone recurrence clock frequency start (lowerBound start after)) searchLimit
      (localDay zone (lowerBound start after)) [] with
  | error message =>
      rw [searched] at result
      cases result
  | ok pair => exact ⟨pair.1, pair.2, rfl⟩

theorem calendar_unfound (far : ∀ instant, Due zone clock (calendarRule recurrence start zone frequency) start after instant →
    localDay zone (lowerBound start after) ≤ localDay zone instant →
      localDay zone (lowerBound start after) + 73200 ≤ localDay zone instant) :
    nextFireDetails (.rational false) zones timezoneName recurrence start after = .error "unable to find a bounded calendar occurrence" := by
  rw [next_fire_search zones timezoneName recurrence start after zone clock frequency accepted calendar clocked repeated known]
  apply search_silent _ folds
  intro j below
  cases found : dayFire (calendarSearch timezoneName zone recurrence clock frequency start (lowerBound start after))
      (localDay zone (lowerBound start after) + j) with
  | none => rfl
  | some fire =>
      have on := day_fire_day _ _ _ found
      change localDay zone fire = _ at on
      have late := far fire ((due_fire timezoneName recurrence start after zone clock frequency folds _ fire on).mpr found) (by omega)
      rw [searchLimit] at below
      omega

end Calendar

theorem calendar_recurrence (zones : Zones) (timezoneName : String) (recurrence : RunnerPlanRecurrence) (start : Int)
    (after : Option Int) (zone : Zone) (clock : Clock) (frequency : Frequency) (accepted : validateShape (.rational false) recurrence = .ok ())
    (calendar : recurrence.kind = .calendar) (clocked : recurrence.localTime = some clock)
    (repeated : recurrence.frequency = some frequency) (known : zones timezoneName = some zone) (folds : FirstFolds zone) :
    ((∃ instant, Due zone clock (calendarRule recurrence start zone frequency) start after instant ∧
        localDay zone (lowerBound start after) ≤ localDay zone instant ∧
        localDay zone instant < localDay zone (lowerBound start after) + 73200) →
      ∃ fire recorded, nextFireDetails (.rational false) zones timezoneName recurrence start after = .ok (fire, recorded) ∧
        IsLeast {instant | Due zone clock (calendarRule recurrence start zone frequency) start after instant ∧
          localDay zone (lowerBound start after) ≤ localDay zone instant} fire ∧
        (NoReturn zone → IsLeast {instant | Due zone clock (calendarRule recurrence start zone frequency) start after instant} fire) ∧
        ∀ day, .nonexistentLocalTime (wallTime day clock) timezoneName ∈ recorded ↔
          localDay zone (lowerBound start after) ≤ day ∧ day < localDay zone fire ∧
            calendarRule recurrence start zone frequency day ∧ ¬ Shown zone (wallTime day clock)) ∧
    ((∀ instant, Due zone clock (calendarRule recurrence start zone frequency) start after instant →
        localDay zone (lowerBound start after) ≤ localDay zone instant →
        localDay zone (lowerBound start after) + 73200 ≤ localDay zone instant) →
      nextFireDetails (.rational false) zones timezoneName recurrence start after = .error "unable to find a bounded calendar occurrence") := by
  constructor
  · rintro ⟨instant, due, late, near⟩
    obtain ⟨fire, recorded, result⟩ := calendar_finds zones timezoneName recurrence start after zone clock frequency accepted calendar
      clocked repeated known folds instant due late near
    obtain ⟨least, skips⟩ := calendar_found zones timezoneName recurrence start after zone clock frequency accepted calendar clocked
      repeated known folds fire recorded result
    refine ⟨fire, recorded, result, least, ?_, skips⟩
    intro forward
    refine ⟨least.1.1, ?_⟩
    intro other otherDue
    exact least.2 ⟨otherDue, earlier_passed recurrence start after zone clock frequency folds forward other otherDue⟩
  · exact calendar_unfound zones timezoneName recurrence start after zone clock frequency accepted calendar clocked repeated known folds

def utcZone : Zone := ⟨fun _ _ => 0, fun instant => instant⟩

theorem utc_folds : FirstFolds utcZone := by
  refine ⟨fun instant => Int.sub_zero instant, fun instant => Int.sub_le_self instant (le_refl 0), ?_⟩
  intro clock day later less _ _
  simp only [firstFold, utcZone, wallTime, dayLength]
  omega

def dailyAt (clock : Clock) : RunnerPlanRecurrence := ⟨.calendar, none, some .daily, none, some clock, none⟩

def soleZone (zone : Zone) : Zones := fun _ => some zone

theorem calendar_recurrence_daily : ∃ fire recorded,
    nextFireDetails (.rational false) (soleZone utcZone) "UTC" (dailyAt 9000000000) 0 (some 9000000000) = .ok (fire, recorded) ∧
      IsLeast {instant | Due utcZone 9000000000 (calendarRule (dailyAt 9000000000) 0 utcZone .daily) 0 (some 9000000000) instant}
        fire := by
  obtain ⟨finds, _⟩ := calendar_recurrence (soleZone utcZone) "UTC" (dailyAt 9000000000) 0 (some 9000000000) utcZone 9000000000 .daily
    (by decide) rfl rfl rfl rfl utc_folds
  have due : Due utcZone 9000000000 (calendarRule (dailyAt 9000000000) 0 utcZone .daily) 0 (some 9000000000) 95400000000 := by
    refine ⟨⟨1, ⟨by decide, by decide, fun weekly => by cases weekly⟩, ?_⟩, by decide, by simp⟩
    exact first_least utcZone utc_folds (wallTime 1 9000000000) ⟨95400000000, rfl⟩
  obtain ⟨fire, recorded, result, _, least, _⟩ := finds ⟨95400000000, due, by decide, by decide⟩
  refine ⟨fire, recorded, result, least ?_⟩
  intro naive later less _ _
  simp only [firstFold, utcZone]
  omega

def oneHour : Int := 3600000000

def revisitedZone : Zone where
  utcoffset naive fold :=
    if fold then if 82800000000 ≤ naive ∧ naive < 84600000000 then oneHour else 0
    else if 86400000000 ≤ naive ∧ naive < 88200000000 then oneHour else 0
  fromutc instant := if 82800000000 ≤ instant ∧ instant < 84600000000 then instant + oneHour else instant

def nightZone : Zone where
  utcoffset naive fold :=
    if fold then if naive < 6324566400000000 ∧ 7200000000 ≤ naive % 86400000000 ∧ naive % 86400000000 < 10800000000 then oneHour else 0
    else if naive < 6324566400000000 ∧ 10800000000 ≤ naive % 86400000000 ∧ naive % 86400000000 < 14400000000 then oneHour else 0
  fromutc instant :=
    if instant < 6324566400000000 ∧ 7200000000 ≤ instant % 86400000000 ∧ instant % 86400000000 < 10800000000 then instant + oneHour
    else instant

def DatesIncrease (zone : Zone) : Prop := ∀ (clock : Clock) (day later : Int), day < later →
  firstFold zone (wallTime day clock) < firstFold zone (wallTime later clock)

theorem revisited_folds : FirstFolds revisitedZone ∧ DatesIncrease revisitedZone := by
  have increases : DatesIncrease revisitedZone := by
    intro clock day later less
    have small := clock.isLt
    simp only [firstFold, revisitedZone, wallTime, dayLength, oneHour, Bool.false_eq_true, if_false]
    split_ifs <;> omega
  refine ⟨⟨?_, ?_, fun clock day later less _ _ => increases clock day later less⟩, increases⟩
  · intro instant
    simp only [firstFold, revisitedZone, oneHour, Bool.false_eq_true, if_false]
    split_ifs <;> omega
  · intro instant
    simp only [firstFold, revisitedZone, oneHour, Bool.false_eq_true, if_false]
    split_ifs <;> omega

theorem night_folds : FirstFolds nightZone ∧ DatesIncrease nightZone := by
  have increases : DatesIncrease nightZone := by
    intro clock day later less
    have small := clock.isLt
    simp only [firstFold, nightZone, wallTime, dayLength, oneHour, Bool.false_eq_true, if_false]
    split_ifs <;> omega
  refine ⟨⟨?_, ?_, fun clock day later less _ _ => increases clock day later less⟩, increases⟩
  · intro instant
    simp only [firstFold, nightZone, oneHour, Bool.false_eq_true, if_false]
    split_ifs <;> omega
  · intro instant
    simp only [firstFold, nightZone, oneHour, Bool.false_eq_true, if_false]
    split_ifs <;> omega

-- 23:40 of the first day comes after 00:10 of the second, where the search begins.
theorem revisited_due : Due revisitedZone 85200000000 (calendarRule (dailyAt 85200000000) 0 revisitedZone .daily) 0
    (some 83400000000) 85200000000 := by
  refine ⟨⟨0, ⟨by decide, by decide, fun weekly => by cases weekly⟩, ?_⟩, by decide, by simp⟩
  exact first_least revisitedZone revisited_folds.1 (wallTime 0 85200000000) ⟨85200000000, by decide⟩

-- The first 02:30 that exists is that of the day after the last one searched.
theorem night_due : Due nightZone 9000000000 (calendarRule (dailyAt 9000000000) 0 nightZone .daily) 0 none 6324575400000000 := by
  refine ⟨⟨73201, ⟨by decide, by decide, fun weekly => by cases weekly⟩, ?_⟩, by decide, by simp⟩
  exact first_least nightZone night_folds.1 (wallTime 73201 9000000000) ⟨6324575400000000, by decide⟩

theorem night_unfound : nextFireDetails (.rational false) (soleZone nightZone) "night" (dailyAt 9000000000) 0 none =
    .error "unable to find a bounded calendar occurrence" := by
  apply calendar_unfound (soleZone nightZone) "night" (dailyAt 9000000000) 0 none nightZone 9000000000 .daily (by decide) rfl rfl rfl rfl
    night_folds.1
  rintro instant ⟨⟨day, _, least⟩, _, _⟩ _
  have shows : nightZone.fromutc instant = wallTime day 9000000000 := least.1
  have begins : localDay nightZone (lowerBound 0 none) = 0 := by decide
  rw [begins, localDay, shows]
  simp only [nightZone, wallTime, dayLength, oneHour] at shows ⊢
  have clock : (9000000000 : Clock).val = 9000000000 := by decide
  rw [clock] at shows ⊢
  split_ifs at shows <;> omega

theorem calendar_overlooks :
    (FirstFolds revisitedZone ∧ DatesIncrease revisitedZone ∧
      nextFireDetails (.rational false) (soleZone revisitedZone) "revisited" (dailyAt 85200000000) 0 (some 83400000000) = .ok (171600000000, []) ∧
      Due revisitedZone 85200000000 (calendarRule (dailyAt 85200000000) 0 revisitedZone .daily) 0 (some 83400000000) 85200000000) ∧
    FirstFolds nightZone ∧ DatesIncrease nightZone ∧
      nextFireDetails (.rational false) (soleZone nightZone) "night" (dailyAt 9000000000) 0 none =
        .error "unable to find a bounded calendar occurrence" ∧
      Due nightZone 9000000000 (calendarRule (dailyAt 9000000000) 0 nightZone .daily) 0 none 6324575400000000 :=
  ⟨⟨revisited_folds.1, revisited_folds.2, by decide +kernel, revisited_due⟩, night_folds.1, night_folds.2, night_unfound, night_due⟩

end LlmperfOrchestrator.Runtime.Recurrence

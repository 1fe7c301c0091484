import LlmperfOrchestrator.Library.Groups
import LlmperfOrchestrator.Metrics.CacheProbe

set_option autoImplicit false

namespace LlmperfOrchestrator.Metrics

open Tables Storage Client Outcomes Draws Groups Groupings

section Invariance

variable (builtins : Builtins) (floats : Floats) (gen : Generator)

def Family.masked (family : Family) : Family := ⟨family.prime.map Metrics.masked, family.warm.map Metrics.masked⟩

def maskFamily (entry : String × Family) : String × Family := (entry.1, entry.2.masked)

def Collected.masked (collected : Collected floats) : Collected floats :=
  { collected with families := collected.families.map maskFamily }

def Pairs.masked (pairs : Pairs floats) : Pairs floats := { pairs with warm := pairs.warm.map Metrics.masked }

theorem ttft_masked (request : Fields) : ttftOf floats (Metrics.masked request) = ttftOf floats request := by
  rw [ttftOf, masked_get request "ttft_s" (by decide), ttftOf]

theorem time_masked (request : Fields) : timeOf floats (Metrics.masked request) = timeOf floats request := by
  rw [timeOf, ttft_masked, timeOf]

theorem hit_masked (request : Fields) : validHit (Metrics.masked request) = validHit request := by
  by_cases marked : markedInvalid request = true
  · rw [validHit, validHit, masked_marked, marked, Bool.not_true, Bool.false_and, Bool.false_and]
  · rw [masked_clear request marked]

theorem join_masked (prime : Bool) (request : Fields) (family : Family) :
    joinFamily prime (Metrics.masked request) family.masked = (joinFamily prime request family).masked := by
  cases prime with
  | true => rfl
  | false =>
      rw [joinFamily, joinFamily, Family.masked, Family.masked]
      simp only [Bool.false_eq_true, if_false, List.map_append, List.map_singleton]

theorem collect_masked (collected : Collected floats) (request : Fields) :
    collect builtins floats (Collected.masked floats collected) (Metrics.masked request) =
      (collect builtins floats collected request).map (Collected.masked floats) := by
  rw [collect, collect, masked_get request "request_metadata" (by decide), masked_get request "error_code" (by decide), ttft_masked]
  cases mapping (Dict.get "request_metadata" request) with
  | none => rfl
  | some metadata =>
      dsimp only
      cases familyOf builtins metadata with
      | none => rfl
      | some family =>
          dsimp only
          cases probeRole (Dict.get "role" metadata) with
          | error problem => rfl
          | ok role =>
              cases role with
              | none => rfl
              | some prime =>
                  dsimp only
                  by_cases failed : isNone (Dict.get "error_code" request) = false
                  · rw [if_pos failed, if_pos failed]
                    rfl
                  · rw [if_neg failed, if_neg failed]
                    cases ttftOf floats request with
                    | none => rfl
                    | some time =>
                        cases time with
                        | error problem => rfl
                        | ok ttft =>
                            have put := dict_put_map Family.masked collected.families family
                              (joinFamily prime request ((Dict.get family collected.families).getD ⟨none, []⟩))
                            have found : ((Dict.get family (collected.families.map maskFamily)).getD ⟨none, []⟩) =
                                ((Dict.get family collected.families).getD ⟨none, []⟩).masked := by
                              have read := dict_get_map (fun _ => Family.masked) collected.families family
                              rw [show collected.families.map maskFamily =
                                collected.families.map fun entry => (entry.1, Family.masked entry.2) from rfl, read]
                              cases Dict.get family collected.families <;> rfl
                            change Except.ok _ = Except.ok _
                            refine congrArg Except.ok ?_
                            simp only [Collected.masked, found, join_masked]
                            exact congrArg (fun families => (⟨families, _, _⟩ : Collected floats)) put.symm

theorem pair_warm_masked (primeTtft : floats.Value) (pairs : Pairs floats) (warm : Fields) :
    pairWarm floats primeTtft (Pairs.masked floats pairs) (Metrics.masked warm) =
      (pairWarm floats primeTtft pairs warm).map (Pairs.masked floats) := by
  rw [pairWarm, pairWarm, time_masked]
  cases timeOf floats warm with
  | error problem => rfl
  | ok warmTtft =>
      cases floats.ofRat 0 with
      | error problem => rfl
      | ok zero =>
          change Except.ok _ = Except.ok _
          refine congrArg Except.ok ?_
          simp only [Pairs.masked, List.map_append, List.map_singleton]

theorem pair_family_masked (pairs : Pairs floats) (entry : String × Family) :
    pairFamily floats (Pairs.masked floats pairs) (maskFamily entry) = (pairFamily floats pairs entry).map (Pairs.masked floats) := by
  obtain ⟨name, family⟩ := entry
  cases prime : family.prime with
  | none => simp only [pairFamily, maskFamily, Family.masked, prime, Option.map_none, Except.map]
  | some request =>
      simp only [pairFamily, maskFamily, Family.masked, prime, Option.map_some, time_masked]
      cases timeOf floats request with
      | error problem => rfl
      | ok primeTtft => exact fold_commutes _ _ _ (pair_warm_masked floats primeTtft) family.warm pairs

theorem analyze_pairs_masked (bootstrapSamples : Nat) (confidenceLevel : floats.Value) (seed : Int) (minimumCounterCoverage : Rat)
    (collected : Collected floats) (pairs : Pairs floats) :
    analyzePairs builtins floats gen bootstrapSamples confidenceLevel seed minimumCounterCoverage (Collected.masked floats collected)
        (Pairs.masked floats pairs) =
      analyzePairs builtins floats gen bootstrapSamples confidenceLevel seed minimumCounterCoverage collected pairs := by
  have hits : (pairs.warm.map Metrics.masked).any validHit = pairs.warm.any validHit := by
    rw [List.any_map]
    exact congrArg (pairs.warm.any ·) (funext hit_masked)
  simp only [analyzePairs, Pairs.masked, Collected.masked, summarize_masked, hits]

theorem analyze_masked (bootstrapSamples : Nat) (confidenceLevel : floats.Value) (seed : Int) (minimumCounterCoverage : Rat)
    (requests : List Fields) :
    analyzeCacheProbe builtins floats gen bootstrapSamples confidenceLevel seed minimumCounterCoverage (requests.map Metrics.masked) =
      analyzeCacheProbe builtins floats gen bootstrapSamples confidenceLevel seed minimumCounterCoverage requests := by
  rw [analyzeCacheProbe, analyzeCacheProbe]
  have families : (requests.map Metrics.masked).foldlM (collect builtins floats) ⟨[], [], []⟩ =
      (requests.foldlM (collect builtins floats) ⟨[], [], []⟩).map (Collected.masked floats) :=
    fold_commutes _ _ _ (collect_masked builtins floats) requests ⟨[], [], []⟩
  rw [families]
  cases requests.foldlM (collect builtins floats) ⟨[], [], []⟩ with
  | error problem => rfl
  | ok collected =>
      change ((collected.families.map maskFamily).foldlM (pairFamily floats) (Pairs.masked floats ⟨[], [], []⟩) >>= _) = _
      rw [fold_commutes (pairFamily floats) maskFamily (Pairs.masked floats) (pair_family_masked floats)]
      change _ = (collected.families.foldlM (pairFamily floats) ⟨[], [], []⟩ >>= _)
      cases collected.families.foldlM (pairFamily floats) ⟨[], [], []⟩ with
      | error problem => rfl
      | ok pairs => exact analyze_pairs_masked builtins floats gen bootstrapSamples confidenceLevel seed minimumCounterCoverage collected pairs

end Invariance

section Replacement

def withoutCounters (request : Fields) : Fields := Dict.pop "kv_cache_hit_tokens" (Dict.pop "kv_cache_miss_tokens" request)

def Replaced (before after : Fields) : Prop :=
  after = before ∨ markedInvalid before = true ∧ withoutCounters after = withoutCounters before

theorem without_marked (request : Fields) : markedInvalid (withoutCounters request) = markedInvalid request := by
  rw [markedInvalid, withoutCounters, dict_get_pop, if_neg (by decide), dict_get_pop, if_neg (by decide), markedInvalid]

theorem replaced_masked (before after : Fields) (replaced : Replaced before after) : masked after = masked before := by
  rcases replaced with same | ⟨marked, same⟩
  · rw [same]
  · have also : markedInvalid after = true := by
      rw [← without_marked, same, without_marked, marked]
    rw [masked, masked, if_pos marked, if_pos also]
    exact same

theorem replaced_all_masked (requests replaced : List Fields) (related : List.Forall₂ Replaced requests replaced) :
    replaced.map masked = requests.map masked := related_map Replaced masked masked replaced_masked requests replaced related

theorem dict_pop_put (name : String) (value : Json) (request : Fields) :
    Dict.pop name (Dict.put name value request) = Dict.pop name request := by
  induction request with
  | nil => simp [Dict.put, Dict.pop]
  | cons entry rest ih =>
      obtain ⟨key, item⟩ := entry
      rw [Dict.put]
      by_cases same : key = name
      · rw [if_pos same]
        simp [Dict.pop, same]
      · rw [if_neg same, Dict.pop, Dict.pop, List.filter_cons_of_pos (by simpa using same), List.filter_cons_of_pos (by simpa using same)]
        exact congrArg _ ih

theorem put_replaced (request : Fields) (hit miss : Json) (marked : markedInvalid request = true) :
    Replaced request (Dict.put "kv_cache_miss_tokens" miss (Dict.put "kv_cache_hit_tokens" hit request)) := by
  refine .inr ⟨marked, ?_⟩
  have swap : ∀ fields : Fields, withoutCounters fields = Dict.pop "kv_cache_miss_tokens" (Dict.pop "kv_cache_hit_tokens" fields) :=
    fun fields => List.filter_comm _ _ fields
  rw [withoutCounters, dict_pop_put]
  exact (swap _).trans ((congrArg (Dict.pop "kv_cache_miss_tokens") (dict_pop_put _ _ _)).trans (swap _).symm)

end Replacement

section Usage

variable (builtins : Builtins)

theorem no_error_bounds (invalid : List String) (hit miss input : Option Nat) (fine : validationError invalid hit miss input = none)
    (hits inputs : Nat) (hitKnown : hit = some hits) (inputKnown : input = some inputs) :
    hits ≤ inputs ∧ ∀ misses, miss = some misses → hits + misses ≤ inputs := by
  subst hitKnown inputKnown
  unfold validationError at fine
  by_cases counted : invalid ≠ []
  · rw [if_pos counted] at fine
    cases fine
  · rw [if_neg counted] at fine
    dsimp only at fine
    by_cases exceeds : inputs < hits
    · rw [if_pos exceeds] at fine
      cases fine
    · rw [if_neg exceeds] at fine
      refine ⟨Nat.le_of_not_lt exceeds, ?_⟩
      intro misses missKnown
      subst missKnown
      dsimp only at fine
      by_cases beyond : inputs < hits + misses
      · rw [if_pos beyond] at fine
        cases fine
      · exact Nat.le_of_not_lt beyond

def missOr (counted hit input : Option Nat) : Option Nat :=
  match hit, counted, input with
  | some hit, none, some total => if hit ≤ total then some (total - hit) else none
  | _, counted, _ => counted

structure UsageSound (usage : Fields) (normalized : NormalizedUsage) : Prop where
  hit : normalized.valid = true → ∀ hit input, normalized.hitTokens = some hit →
    normalized.providerInputTokens = some input → hit ≤ input
  both : normalized.valid = true → ∀ hit miss input, normalized.hitTokens = some hit → normalized.missTokens = some miss →
    normalized.providerInputTokens = some input → hit + miss ≤ input
  derived : normalized.valid = true → (Dict.get "prompt_cache_miss_tokens" usage).bind normalizeCounter = none →
    ∀ hit input, normalized.hitTokens = some hit → normalized.providerInputTokens = some input →
      ∃ miss, normalized.missTokens = some miss ∧ hit + miss = input
  complete : normalized.complete = true → normalized.valid = true ∧ normalized.hitTokens.isSome ∧ normalized.missTokens.isSome

theorem usage_sound (usage : Fields) : UsageSound usage (normalizeUsage builtins usage) := by
  have bounds : (normalizeUsage builtins usage).valid = true → ∀ hits inputs,
      (normalizeUsage builtins usage).hitTokens = some hits → (normalizeUsage builtins usage).providerInputTokens = some inputs →
      hits ≤ inputs ∧ ∀ misses, (normalizeUsage builtins usage).missTokens = some misses → hits + misses ≤ inputs := by
    intro valid
    exact no_error_bounds _ _ _ _ (of_decide_eq_true valid)
  refine ⟨?_, ?_, ?_, ?_⟩
  · intro valid hit input hitKnown inputKnown
    exact (bounds valid hit input hitKnown inputKnown).1
  · intro valid hit miss input hitKnown missKnown inputKnown
    exact (bounds valid hit input hitKnown inputKnown).2 miss missKnown
  · intro valid absent hit input hitKnown inputKnown
    have within := (bounds valid hit input hitKnown inputKnown).1
    refine ⟨input - hit, ?_, Nat.add_sub_cancel' within⟩
    have miss : (normalizeUsage builtins usage).missTokens = missOr ((Dict.get "prompt_cache_miss_tokens" usage).bind normalizeCounter)
        (normalizeUsage builtins usage).hitTokens (normalizeUsage builtins usage).providerInputTokens := rfl
    rw [miss, absent, hitKnown, inputKnown]
    exact if_pos within
  · intro complete
    obtain ⟨hit, miss, fine⟩ := of_decide_eq_true complete
    exact ⟨decide_eq_true fine, Option.isSome_iff_ne_none.mpr hit, Option.isSome_iff_ne_none.mpr miss⟩

end Usage

section Integrity

variable (builtins : Builtins) (floats : Floats) (gen : Generator)

theorem analysis_cache (bootstrapSamples : Nat) (confidenceLevel : floats.Value) (seed : Int) (minimumCounterCoverage : Rat)
    (requests : List Fields) (analysis : ProbeAnalysis floats)
    (done : analyzeCacheProbe builtins floats gen bootstrapSamples confidenceLevel seed minimumCounterCoverage requests =
      .ok analysis) : ∃ warm, analysis.cache = summarizeCacheCounters builtins warm := by
  obtain ⟨collected, _, done⟩ := (bind_ok _ _ _).mp done
  obtain ⟨pairs, _, done⟩ := (bind_ok _ _ _).mp done
  obtain ⟨interval, _, done⟩ := (bind_ok _ _ _).mp done
  obtain ⟨zero, _, done⟩ := (bind_ok _ _ _).mp done
  obtain ⟨primeTtft, _, done⟩ := (bind_ok _ _ _).mp done
  obtain ⟨warmTtft, _, done⟩ := (bind_ok _ _ _).mp done
  obtain ⟨deltas, _, done⟩ := (bind_ok _ _ _).mp done
  obtain ⟨speedup, _, done⟩ := (bind_ok _ _ _).mp done
  cases done
  exact ⟨pairs.warm, rfl⟩

structure RolesAddUp (requests : List Fields) (report : CacheReport) : Prop where
  counts : ∀ field : CountField, (report.byRole.map fun entry => field.read entry.2).sum =
    field.read (summarizeGroup builtins (requests.filter fun request => (roleOf builtins request).isSome))

structure ReportBounded (report : CacheReport) : Prop where
  summary : RatiosBounded report.summary
  byRole : ∀ entry ∈ report.byRole, RatiosBounded entry.2

theorem report_bounded (requests : List Fields) : ReportBounded (summarizeCacheCounters builtins requests) :=
  ⟨(report_ratios builtins requests).1, (report_ratios builtins requests).2⟩

theorem cache_evidence_integrity :
    (∀ usage, UsageSound usage (normalizeUsage builtins usage)) ∧
    (∀ requests replaced, List.Forall₂ Replaced requests replaced →
      summarizeCacheCounters builtins replaced = summarizeCacheCounters builtins requests ∧
      ∀ bootstrapSamples confidenceLevel seed minimumCounterCoverage,
        analyzeCacheProbe builtins floats gen bootstrapSamples confidenceLevel seed minimumCounterCoverage replaced =
          analyzeCacheProbe builtins floats gen bootstrapSamples confidenceLevel seed minimumCounterCoverage requests) ∧
    (∀ requests, ReportBounded (summarizeCacheCounters builtins requests) ∧
      RolesAddUp builtins requests (summarizeCacheCounters builtins requests)) ∧
    ∀ bootstrapSamples confidenceLevel seed minimumCounterCoverage requests analysis,
      analyzeCacheProbe builtins floats gen bootstrapSamples confidenceLevel seed minimumCounterCoverage requests = .ok analysis →
        ReportBounded analysis.cache := by
  refine ⟨usage_sound builtins, ?_, ?_, ?_⟩
  · intro requests replaced related
    have same := replaced_all_masked requests replaced related
    refine ⟨?_, ?_⟩
    · rw [← summarize_masked, same, summarize_masked]
    · intro bootstrapSamples confidenceLevel seed minimumCounterCoverage
      rw [← analyze_masked, same, analyze_masked]
  · intro requests
    exact ⟨report_bounded builtins requests, ⟨fun field => role_counts builtins field requests⟩⟩
  · intro bootstrapSamples confidenceLevel seed minimumCounterCoverage requests analysis done
    obtain ⟨warm, same⟩ := analysis_cache builtins floats gen bootstrapSamples confidenceLevel seed minimumCounterCoverage requests
      analysis done
    rw [same]
    exact report_bounded builtins warm

end Integrity

def exactFloats : Floats where
  Value := Rat
  ofRat := .ok
  notFinite := 0
  add := (· + ·)
  sub := (· - ·)
  mul := (· * ·)
  div := (· / ·)
  less := fun a b => decide (a < b)
  floor := fun value => .ok (value.num / value.den)
  ceil := fun value => .ok (-(-value.num / value.den))
  sorted := fun values => values.insertionSort (· ≤ ·)

def firstDraws : Generator where
  State := Unit
  seeded := fun _ => ()
  randbelow := fun _ state => (0, state)
  gauss := fun mean _ state => (some mean, state)
  below := fun _ _ positive => positive

def plainBuiltins : Builtins where
  loads _ := .error "JSONDecodeError: Expecting value"
  dumps _ := ""
  str document := document.text?.getD ""
  general _ := ""

def probeRequest (role : String) (ttft hit : Rat) (valid : Bool) : Fields :=
  [("request_metadata", .dict [("family_id", .text "f"), ("role", .text role)]), ("ttft_s", .number ttft),
    ("kv_cache_hit_tokens", .number hit), ("kv_cache_miss_tokens", .number 1), ("normalized_usage", .dict [("valid", .bool valid)])]

theorem invalid_hit_ignored :
    analyzeCacheProbe plainBuiltins exactFloats firstDraws 2 (95 / 100 : Rat) 7 (8 / 10)
        [probeRequest "prime" 2 0 true, Dict.put "kv_cache_miss_tokens" (.number 1) (Dict.put "kv_cache_hit_tokens" (.number 900)
          (probeRequest "warm" 1 5 false))] =
      analyzeCacheProbe plainBuiltins exactFloats firstDraws 2 (95 / 100 : Rat) 7 (8 / 10)
        [probeRequest "prime" 2 0 true, probeRequest "warm" 1 5 false] ∧
    (∃ analysis, analyzeCacheProbe plainBuiltins exactFloats firstDraws 2 (95 / 100 : Rat) 7 (8 / 10)
        [probeRequest "prime" 2 0 true, probeRequest "warm" 1 5 false] = .ok analysis ∧ ReportBounded analysis.cache) ∧
    ∃ miss, (normalizeUsage plainBuiltins [("prompt_tokens", .number 9), ("prompt_cache_hit_tokens", .number 4)]).missTokens = some miss ∧
      4 + miss = 9 := by
  obtain ⟨usage, unchanged, _, bounded⟩ := cache_evidence_integrity plainBuiltins exactFloats firstDraws
  have replaced : List.Forall₂ Replaced [probeRequest "prime" 2 0 true, probeRequest "warm" 1 5 false]
      [probeRequest "prime" 2 0 true, Dict.put "kv_cache_miss_tokens" (.number 1) (Dict.put "kv_cache_hit_tokens" (.number 900)
        (probeRequest "warm" 1 5 false))] :=
    .cons (.inl rfl) (.cons (put_replaced _ (.number 900) (.number 1) rfl) .nil)
  refine ⟨(unchanged _ _ replaced).2 2 (95 / 100 : Rat) 7 (8 / 10), ?_, (usage _).derived rfl rfl 4 9 rfl rfl⟩
  have ends : (analyzeCacheProbe plainBuiltins exactFloats firstDraws 2 (95 / 100 : Rat) 7 (8 / 10)
      [probeRequest "prime" 2 0 true, probeRequest "warm" 1 5 false]).isOk = true := by decide +kernel
  cases done : analyzeCacheProbe plainBuiltins exactFloats firstDraws 2 (95 / 100 : Rat) 7 (8 / 10)
      [probeRequest "prime" 2 0 true, probeRequest "warm" 1 5 false] with
  | error problem =>
      rw [done] at ends
      cases ends
  | ok analysis => exact ⟨analysis, rfl, bounded _ _ _ _ _ analysis done⟩

end LlmperfOrchestrator.Metrics

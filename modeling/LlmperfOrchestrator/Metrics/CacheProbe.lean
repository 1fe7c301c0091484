import LlmperfOrchestrator.Client.Stream
import LlmperfOrchestrator.Library.Draws
import LlmperfOrchestrator.Library.Groupings
import LlmperfOrchestrator.Library.Outcomes
import Mathlib.Data.List.Sort
import Mathlib.Tactic.Positivity

set_option autoImplicit false

namespace LlmperfOrchestrator.Metrics

open Tables Storage Client Groupings Outcomes Draws

def hitCounter (request : Fields) : Option Nat := (Dict.get "kv_cache_hit_tokens" request).bind normalizeCounter

def missCounter (request : Fields) : Option Nat := (Dict.get "kv_cache_miss_tokens" request).bind normalizeCounter

def mapping : Option Json → Option Fields
  | some (.dict fields) => some fields
  | _ => none

-- normalized.get("valid") is False
def markedInvalid (request : Fields) : Bool :=
  (mapping (Dict.get "normalized_usage" request)).any fun usage => Dict.get "valid" usage = some (.bool false)

structure CounterTally where
  hitValues : List Nat
  completePairs : List (Nat × Nat)
  schemas : List String
  invalidRequests : Nat
  requestHits : Nat
deriving DecidableEq, Repr

structure CacheSummary where
  measuredRequests : Nat
  requestsTotal : Nat
  completeCounterRequests : Nat
  counterCoverage : Rat
  requestHitProbability : Option Rat
  weightedTokenHitRatio : Option Rat
  completeHitTokens : Nat
  completeMissTokens : Nat
  invalidCounterRequests : Nat
  counterSchemas : List String
deriving DecidableEq, Repr

structure CacheReport where
  summary : CacheSummary
  byRole : List (String × CacheSummary)
deriving DecidableEq, Repr

def pairOf (hit miss : Option Nat) : List (Nat × Nat) :=
  match hit, miss with
  | some hit, some miss => [(hit, miss)]
  | _, _ => []

def ratio (part whole : Nat) : Option Rat := if whole = 0 then none else some ((part : Rat) / whole)

section Summary

variable (builtins : Builtins)

def schemaOf (request : Fields) : Option String :=
  (((mapping (Dict.get "normalized_usage" request)).bind (Dict.get "source_schema")).filter truthy).map builtins.str

def addSchema (schemas : List String) : Option String → List String
  | none => schemas
  | some schema => if schema ∈ schemas then schemas else schemas ++ [schema]

def count (tally : CounterTally) (request : Fields) : CounterTally :=
  let tally := { tally with schemas := addSchema tally.schemas (schemaOf builtins request) }
  if markedInvalid request then { tally with invalidRequests := tally.invalidRequests + 1 }
  else
    let hit := hitCounter request
    { tally with
      hitValues := tally.hitValues ++ hit.toList
      requestHits := tally.requestHits + if hit.any (0 < ·) then 1 else 0
      completePairs := tally.completePairs ++ pairOf hit (missCounter request) }

def tallied (requests : List Fields) : CounterTally := requests.foldl (count builtins) ⟨[], [], [], 0, 0⟩

def summaryOf (requestCount : Nat) (tally : CounterTally) : CacheSummary :=
  let completeHit := (tally.completePairs.map Prod.fst).sum
  let completeMiss := (tally.completePairs.map Prod.snd).sum
  { measuredRequests := tally.hitValues.length
    requestsTotal := requestCount
    completeCounterRequests := tally.completePairs.length
    counterCoverage := (ratio tally.completePairs.length requestCount).getD 0
    requestHitProbability := ratio tally.requestHits tally.hitValues.length
    weightedTokenHitRatio := ratio completeHit (completeHit + completeMiss)
    completeHitTokens := completeHit
    completeMissTokens := completeMiss
    invalidCounterRequests := tally.invalidRequests
    counterSchemas := tally.schemas.insertionSort (· ≤ ·) }

-- _summarize_cache_counters without the roles.
def summarizeGroup (requests : List Fields) : CacheSummary := summaryOf requests.length (tallied builtins requests)

def roleOf (request : Fields) : Option String :=
  (((mapping (Dict.get "request_metadata" request)).bind (Dict.get "role")).filter truthy).map builtins.str

def summarizeCacheCounters (requests : List Fields) : CacheReport where
  summary := summarizeGroup builtins requests
  byRole := ((grouped (roleOf builtins) requests).insertionSort fun a b => a.1 ≤ b.1).map fun entry =>
    (entry.1, summarizeGroup builtins entry.2)

end Summary

def measuredOf (request : Fields) : Nat := if markedInvalid request then 0 else (hitCounter request).toList.length

def pairsOf (request : Fields) : List (Nat × Nat) :=
  if markedInvalid request then [] else pairOf (hitCounter request) (missCounter request)

def invalidOf (request : Fields) : Nat := if markedInvalid request then 1 else 0

section Counts

variable (builtins : Builtins)

structure Counted (requests : List Fields) (before after : CounterTally) : Prop where
  measured : after.hitValues.length = before.hitValues.length + total measuredOf requests
  pairs : after.completePairs = before.completePairs ++ requests.flatMap pairsOf
  invalid : after.invalidRequests = before.invalidRequests + total invalidOf requests

theorem count_counted (tally : CounterTally) (request : Fields) : Counted [request] tally (count builtins tally request) := by
  rw [count]
  by_cases marked : markedInvalid request = true
  · rw [if_pos marked]
    refine ⟨?_, ?_, ?_⟩
    · simp [measuredOf, marked]
    · simp [pairsOf, marked]
    · simp [invalidOf, marked]
  · rw [if_neg marked]
    refine ⟨?_, ?_, ?_⟩
    · simp [measuredOf, marked]
    · simp [pairsOf, marked]
    · simp [invalidOf, marked]

theorem counted_run (requests : List Fields) (tally : CounterTally) :
    Counted requests tally (requests.foldl (count builtins) tally) := by
  induction requests generalizing tally with
  | nil => exact ⟨rfl, (List.append_nil _).symm, rfl⟩
  | cons request rest ih =>
      have here := count_counted builtins tally request
      have later := ih (count builtins tally request)
      rw [List.foldl_cons]
      refine ⟨?_, ?_, ?_⟩
      · rw [later.measured, here.measured, total_cons, total_cons, total_nil]
        omega
      · rw [later.pairs, here.pairs, List.append_assoc, List.flatMap_cons, List.flatMap_cons, List.flatMap_nil, List.append_nil]
      · rw [later.invalid, here.invalid, total_cons, total_cons, total_nil]
        omega

inductive CountField where
  | measured | requests | complete | hits | misses | invalid
deriving DecidableEq

def CountField.read : CountField → CacheSummary → Nat
  | .measured => CacheSummary.measuredRequests
  | .requests => CacheSummary.requestsTotal
  | .complete => CacheSummary.completeCounterRequests
  | .hits => CacheSummary.completeHitTokens
  | .misses => CacheSummary.completeMissTokens
  | .invalid => CacheSummary.invalidCounterRequests

def CountField.weight : CountField → Fields → Nat
  | .measured => measuredOf
  | .requests => fun _ => 1
  | .complete => fun request => (pairsOf request).length
  | .hits => fun request => ((pairsOf request).map Prod.fst).sum
  | .misses => fun request => ((pairsOf request).map Prod.snd).sum
  | .invalid => invalidOf

theorem summary_counts (field : CountField) (requests : List Fields) :
    field.read (summarizeGroup builtins requests) = total field.weight requests := by
  have counted := counted_run builtins requests ⟨[], [], [], 0, 0⟩
  have pairs : (tallied builtins requests).completePairs = requests.flatMap pairsOf := counted.pairs
  cases field with
  | measured => exact counted.measured.trans (Nat.zero_add _)
  | requests =>
      change requests.length = total (fun _ => 1) requests
      rw [total, List.map_const', List.sum_replicate_nat, Nat.mul_one]
  | complete =>
      change (tallied builtins requests).completePairs.length = _
      rw [pairs, List.length_flatMap]
      rfl
  | hits =>
      change ((tallied builtins requests).completePairs.map Prod.fst).sum = _
      rw [pairs, List.map_flatMap, sum_flatMap]
      rfl
  | misses =>
      change ((tallied builtins requests).completePairs.map Prod.snd).sum = _
      rw [pairs, List.map_flatMap, sum_flatMap]
      rfl
  | invalid => exact counted.invalid.trans (Nat.zero_add _)

theorem role_counts (field : CountField) (requests : List Fields) :
    ((summarizeCacheCounters builtins requests).byRole.map fun entry => field.read entry.2).sum =
      field.read (summarizeGroup builtins (requests.filter fun request => (roleOf builtins request).isSome)) := by
  have sorted := (List.perm_insertionSort (fun a b : String × List Fields => a.1 ≤ b.1) (grouped (roleOf builtins) requests)).map
    fun entry => total field.weight entry.2
  rw [summary_counts, ← grouped_total, ← sorted.sum_nat, summarizeCacheCounters, List.map_map]
  exact congrArg List.sum (List.map_congr_left fun entry _ => summary_counts builtins field entry.2)

end Counts

section Ratios

variable (builtins : Builtins)

def Fraction (value : Rat) : Prop := 0 ≤ value ∧ value ≤ 1

theorem ratio_fraction (part whole : Nat) (within : part ≤ whole) (value : Rat) (present : ratio part whole = some value) :
    Fraction value := by
  rw [ratio] at present
  by_cases empty : whole = 0
  · rw [if_pos empty] at present
    cases present
  · rw [if_neg empty] at present
    cases present
    have positive : (0 : Rat) < whole := Nat.cast_pos.mpr (Nat.pos_of_ne_zero empty)
    exact ⟨by positivity, (div_le_one positive).mpr (Nat.cast_le.mpr within)⟩

structure RatiosBounded (summary : CacheSummary) : Prop where
  coverage : Fraction summary.counterCoverage
  probability : ∀ value, summary.requestHitProbability = some value → Fraction value
  weighted : ∀ value, summary.weightedTokenHitRatio = some value → Fraction value

variable (requests : List Fields)

theorem hits_measured (tally : CounterTally) (within : tally.requestHits ≤ tally.hitValues.length) :
    (requests.foldl (count builtins) tally).requestHits ≤ (requests.foldl (count builtins) tally).hitValues.length := by
  induction requests generalizing tally with
  | nil => exact within
  | cons request rest ih =>
      refine ih (count builtins tally request) ?_
      rw [count]
      by_cases marked : markedInvalid request = true
      · rw [if_pos marked]
        exact within
      · rw [if_neg marked]
        dsimp only
        rw [List.length_append]
        cases hitCounter request with
        | none => exact within
        | some hit =>
            refine Nat.add_le_add within ?_
            split
            · exact Nat.le_refl 1
            · exact Nat.zero_le 1

theorem pairs_within : (requests.flatMap pairsOf).length ≤ requests.length := by
  induction requests with
  | nil => exact Nat.le_refl 0
  | cons request rest ih =>
      have one : (pairsOf request).length ≤ 1 := by
        rw [pairsOf]
        split
        · exact Nat.zero_le 1
        · cases hitCounter request with
          | none => exact Nat.zero_le 1
          | some hit =>
              cases missCounter request with
              | none => exact Nat.zero_le 1
              | some miss => exact Nat.le_refl 1
      rw [List.flatMap_cons, List.length_append, List.length_cons]
      omega

theorem summary_ratios : RatiosBounded (summarizeGroup builtins requests) := by
  have pairs : (tallied builtins requests).completePairs = requests.flatMap pairsOf :=
    (counted_run builtins requests ⟨[], [], [], 0, 0⟩).pairs
  have covered : (tallied builtins requests).completePairs.length ≤ requests.length := by
    rw [pairs]
    exact pairs_within requests
  refine ⟨?_, ratio_fraction _ _ (hits_measured builtins requests _ (Nat.le_refl 0)), ratio_fraction _ _ (Nat.le_add_right _ _)⟩
  change Fraction ((ratio (tallied builtins requests).completePairs.length requests.length).getD 0)
  cases present : ratio (tallied builtins requests).completePairs.length requests.length with
  | none => exact ⟨le_refl 0, zero_le_one⟩
  | some value => exact ratio_fraction _ _ covered value present

theorem report_ratios :
    RatiosBounded (summarizeCacheCounters builtins requests).summary ∧
      ∀ entry ∈ (summarizeCacheCounters builtins requests).byRole, RatiosBounded entry.2 := by
  refine ⟨summary_ratios builtins requests, ?_⟩
  intro entry listed
  obtain ⟨group, _, same⟩ := List.mem_map.mp listed
  rw [← same]
  exact summary_ratios builtins group.2

end Ratios

section Masking

variable (builtins : Builtins)

def masked (request : Fields) : Fields :=
  if markedInvalid request then Dict.pop "kv_cache_hit_tokens" (Dict.pop "kv_cache_miss_tokens" request) else request

theorem masked_get (request : Fields) (name : String) (other : name ≠ "kv_cache_hit_tokens" ∧ name ≠ "kv_cache_miss_tokens") :
    Dict.get name (masked request) = Dict.get name request := by
  rw [masked]
  split
  · rw [dict_get_pop, if_neg other.1, dict_get_pop, if_neg other.2]
  · rfl

theorem masked_marked (request : Fields) : markedInvalid (masked request) = markedInvalid request := by
  rw [markedInvalid, masked_get request "normalized_usage" (by decide), markedInvalid]

theorem masked_clear (request : Fields) (valid : markedInvalid request ≠ true) : masked request = request := if_neg valid

theorem count_masked (tally : CounterTally) (request : Fields) :
    count builtins tally (masked request) = count builtins tally request := by
  by_cases marked : markedInvalid request = true
  · rw [count, count, masked_marked, if_pos marked, if_pos marked, schemaOf, masked_get request "normalized_usage" (by decide),
      schemaOf]
  · rw [masked_clear request marked]

theorem summarize_group_masked (requests : List Fields) :
    summarizeGroup builtins (requests.map masked) = summarizeGroup builtins requests := by
  have tallies : ∀ tally, (requests.map masked).foldl (count builtins) tally = requests.foldl (count builtins) tally := by
    intro tally
    induction requests generalizing tally with
    | nil => rfl
    | cons request rest ih => rw [List.map_cons, List.foldl_cons, List.foldl_cons, count_masked, ih]
  rw [summarizeGroup, summarizeGroup, tallied, tallied, tallies, List.length_map]

theorem role_masked (request : Fields) : roleOf builtins (masked request) = roleOf builtins request := by
  rw [roleOf, masked_get request "request_metadata" (by decide), roleOf]

theorem summarize_masked (requests : List Fields) :
    summarizeCacheCounters builtins (requests.map masked) = summarizeCacheCounters builtins requests := by
  rw [summarizeCacheCounters, summarizeCacheCounters, summarize_group_masked,
    grouped_map (roleOf builtins) masked (role_masked builtins),
    ← List.map_insertionSort (fun a b : String × List Fields => a.1 ≤ b.1) (fun a b : String × List Fields => a.1 ≤ b.1)
      (fun entry : String × List Fields => (entry.1, entry.2.map masked)) _ fun _ _ _ _ => Iff.rfl,
    List.map_map]
  refine congrArg _ (List.map_congr_left fun entry _ => ?_)
  rw [Function.comp_apply, summarize_group_masked]

end Masking

-- The arithmetic of floats: float(x) raises where x is too large, floor and ceil where
-- there is no integer.
structure Floats where
  Value : Type
  ofRat : Rat → Except String Value
  notFinite : Value
  add : Value → Value → Value
  sub : Value → Value → Value
  mul : Value → Value → Value
  div : Value → Value → Value
  less : Value → Value → Bool
  floor : Value → Except String Int
  ceil : Value → Except String Int
  sorted : List Value → List Value

def element {Value : Type} (values : List Value) (index : Int) : Except String Value :=
  match values[(if index < 0 then index + values.length else index).toNat]? with
  | some value => if index < -(values.length : Int) then .error "IndexError: list index out of range" else .ok value
  | none => .error "IndexError: list index out of range"

section Statistics

variable (floats : Floats)

def median (values : List floats.Value) : Except String floats.Value := do
  let ordered := floats.sorted values
  let half := ordered.length / 2
  let upper ← element ordered half
  if ordered.length % 2 = 1 then .ok upper
  else
    let lower ← element ordered ((half : Int) - 1)
    let two ← floats.ofRat 2
    .ok (floats.div (floats.add lower upper) two)

def interpolated (ordered : List floats.Value) (position : floats.Value) : Except String floats.Value := do
  let lower ← floats.floor position
  let upper ← floats.ceil position
  let below ← element ordered lower
  if lower = upper then .ok below
  else
    let start ← floats.ofRat lower
    let one ← floats.ofRat 1
    let above ← element ordered upper
    let fraction := floats.sub position start
    .ok (floats.add (floats.mul below (floats.sub one fraction)) (floats.mul above fraction))

def quantile (values : List floats.Value) (probability : floats.Value) : Except String (Option floats.Value) :=
  match floats.sorted values with
  | [] => .ok none
  | [only] => .ok (some only)
  | ordered => do
      let steps ← floats.ofRat (ordered.length - 1)
      (interpolated floats ordered (floats.mul steps probability)).map some

structure Spread where
  count : Nat
  median : Option floats.Value
  p50 : Option floats.Value
  p95 : Option floats.Value

def spread (values : List floats.Value) : Except String (Spread floats) := do
  let half ← floats.ofRat (1 / 2)
  let most ← floats.ofRat (95 / 100)
  let middle ← if values = [] then .ok none else (median floats values).map some
  let p50 ← quantile floats values half
  let p95 ← quantile floats values most
  .ok ⟨values.length, middle, p50, p95⟩

variable (gen : Generator)

def resample (values : List floats.Value) : Nat → gen.State → List floats.Value × gen.State
  | 0, rng => ([], rng)
  | count + 1, rng =>
      let drawn := gen.randbelow values.length rng
      let rest := resample values count drawn.2
      ((values[drawn.1]?).toList ++ rest.1, rest.2)

def resampledMedians (values : List floats.Value) : Nat → gen.State → Except String (List floats.Value)
  | 0, _ => .ok []
  | samples + 1, rng => do
      let drawn := resample floats gen values values.length rng
      let middle ← median floats drawn.1
      let rest ← resampledMedians values samples drawn.2
      .ok (middle :: rest)

-- _bootstrap_median_interval
def bootstrapMedianInterval (values : List floats.Value) (samples : Nat) (confidence : floats.Value) (seed : Int) :
    Except String (Option floats.Value × Option floats.Value) :=
  if values.isEmpty then .ok (none, none)
  else do
    let bootstrapped ← resampledMedians floats gen values samples (gen.seeded seed)
    let one ← floats.ofRat 1
    let two ← floats.ofRat 2
    let tail := floats.div (floats.sub one confidence) two
    let low ← quantile floats bootstrapped tail
    let high ← quantile floats bootstrapped (floats.sub one tail)
    .ok (low, high)

end Statistics

structure Family where
  prime : Option Fields
  warm : List Fields

inductive Verdict where
  | confirmedExternal | accountingConfirmed | latencyInferred | notObserved | inconclusive
deriving DecidableEq, Repr

def validHit (request : Fields) : Bool := !markedInvalid request && (hitCounter request).any (0 < ·)

def verdictOf (observedHit countersPresent coverageOk latencyPositive : Bool) : Verdict :=
  if observedHit && coverageOk && latencyPositive then .confirmedExternal
  else if observedHit then .accountingConfirmed
  else if !countersPresent && latencyPositive then .latencyInferred
  else if countersPresent && coverageOk && !observedHit then .notObserved
  else .inconclusive

-- role in {"prime", "warm"}: true for a prime. A list or an object has no hash.
def probeRole : Option Json → Except String (Option Bool)
  | some (.text role) => .ok (if role = "prime" then some true else if role = "warm" then some false else none)
  | some (.list _) => .error "TypeError: unhashable type: 'list'"
  | some (.dict _) => .error "TypeError: unhashable type: 'dict'"
  | _ => .ok none

section Analysis

variable (builtins : Builtins) (floats : Floats) (gen : Generator)

structure Collected where
  families : Dict String Family
  primeTtft : List floats.Value
  warmTtft : List floats.Value

structure Pairs where
  deltas : List floats.Value
  speedups : List floats.Value
  warm : List Fields

structure ProbeAnalysis where
  verdict : Verdict
  pairedSamples : Nat
  primeTtft : Spread floats
  warmTtft : Spread floats
  pairedTtftDelta : Spread floats
  confidenceLevel : floats.Value
  confidenceInterval : Option floats.Value × Option floats.Value
  speedup : Spread floats
  cache : CacheReport

-- isinstance(ttft, (int, float)), and its float.
def ttftOf (request : Fields) : Option (Except String floats.Value) :=
  match Dict.get "ttft_s" request with
  | some (.number value) => some (floats.ofRat value)
  | some (.bool value) => some (floats.ofRat (if value then 1 else 0))
  | some .notFinite => some (.ok floats.notFinite)
  | _ => none

def timeOf (request : Fields) : Except String floats.Value := (ttftOf floats request).getD (.error "KeyError: 'ttft_s'")

def familyOf (metadata : Fields) : Option String :=
  ((Dict.get "family_id" metadata).filter truthy).map builtins.str

def joinFamily (prime : Bool) (request : Fields) (family : Family) : Family :=
  if prime then { family with prime := some request } else { family with warm := family.warm ++ [request] }

def collect (collected : Collected floats) (request : Fields) : Except String (Collected floats) :=
  match mapping (Dict.get "request_metadata" request) with
  | none => .ok collected
  | some metadata =>
      match familyOf builtins metadata with
      | none => .ok collected
      | some family =>
          match probeRole (Dict.get "role" metadata) with
          | .error problem => .error problem
          | .ok none => .ok collected
          | .ok (some prime) =>
              if isNone (Dict.get "error_code" request) = false then .ok collected
              else
                match ttftOf floats request with
                | none => .ok collected
                | some time => do
                    let ttft ← time
                    .ok {
                      families := Dict.put family (joinFamily prime request ((Dict.get family collected.families).getD ⟨none, []⟩))
                        collected.families
                      primeTtft := if prime then collected.primeTtft ++ [ttft] else collected.primeTtft
                      warmTtft := if prime then collected.warmTtft else collected.warmTtft ++ [ttft] }

def pairWarm (primeTtft : floats.Value) (pairs : Pairs floats) (warm : Fields) : Except String (Pairs floats) := do
  let warmTtft ← timeOf floats warm
  let zero ← floats.ofRat 0
  .ok {
    deltas := pairs.deltas ++ [floats.sub primeTtft warmTtft]
    speedups := if floats.less zero warmTtft then pairs.speedups ++ [floats.div primeTtft warmTtft] else pairs.speedups
    warm := pairs.warm ++ [warm] }

def pairFamily (pairs : Pairs floats) (entry : String × Family) : Except String (Pairs floats) :=
  match entry.2.prime with
  | none => .ok pairs
  | some prime => do
      let primeTtft ← timeOf floats prime
      entry.2.warm.foldlM (pairWarm floats primeTtft) pairs

def analyzePairs (bootstrapSamples : Nat) (confidenceLevel : floats.Value) (seed : Int) (minimumCounterCoverage : Rat)
    (collected : Collected floats) (pairs : Pairs floats) : Except String (ProbeAnalysis floats) := do
  let interval ← bootstrapMedianInterval floats gen pairs.deltas bootstrapSamples confidenceLevel seed
  let zero ← floats.ofRat 0
  let cache := summarizeCacheCounters builtins pairs.warm
  let primeTtft ← spread floats collected.primeTtft
  let warmTtft ← spread floats collected.warmTtft
  let deltas ← spread floats pairs.deltas
  let speedup ← spread floats pairs.speedups
  .ok {
    verdict := verdictOf (pairs.warm.any validHit) (0 < cache.summary.measuredRequests)
      (minimumCounterCoverage ≤ cache.summary.counterCoverage) (interval.1.any fun low => floats.less zero low)
    pairedSamples := pairs.deltas.length
    primeTtft := primeTtft
    warmTtft := warmTtft
    pairedTtftDelta := deltas
    confidenceLevel := confidenceLevel
    confidenceInterval := interval
    speedup := speedup
    cache := cache }

def analyzeCacheProbe (bootstrapSamples : Nat) (confidenceLevel : floats.Value) (seed : Int) (minimumCounterCoverage : Rat)
    (requests : List Fields) : Except String (ProbeAnalysis floats) := do
  let collected ← requests.foldlM (collect builtins floats) ⟨[], [], []⟩
  let pairs ← collected.families.foldlM (pairFamily floats) ⟨[], [], []⟩
  analyzePairs builtins floats gen bootstrapSamples confidenceLevel seed minimumCounterCoverage collected pairs

end Analysis

end LlmperfOrchestrator.Metrics

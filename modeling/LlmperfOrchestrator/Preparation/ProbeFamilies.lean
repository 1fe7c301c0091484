import LlmperfOrchestrator.Preparation.ProbePlans

set_option autoImplicit false

namespace LlmperfOrchestrator.Preparation

open Tables Compiler Storage Draws

def commonLength : List Nat → List Nat → Nat
  | first :: rest, second :: others => if first = second then commonLength rest others + 1 else 0
  | _, _ => 0

theorem common_length_set (tokens : List Nat) (offset original changed : Nat) (read : tokens[offset]? = some original)
    (different : changed ≠ original) : commonLength tokens (tokens.set offset changed) = offset := by
  induction tokens generalizing offset with
  | nil => cases read
  | cons token rest ih =>
      cases offset with
      | zero =>
          cases Option.some.inj read
          exact if_neg different.symm
      | succ offset =>
          rw [List.set_cons_succ, commonLength, if_pos rfl, ih offset read]

structure SharesExactly (tokenizer : Tokenizer) (prime warm : Text) (expected : Int) : Prop where
  common : (commonLength (tokenizer.encode prime) (tokenizer.encode warm) : Int) = expected
  differ : ∃ original changed, (tokenizer.encode prime)[expected.toNat]? = some original ∧
    (tokenizer.encode warm)[expected.toNat]? = some changed ∧ changed ≠ original

def WarmOf (tokenizer : Tokenizer) (mode : String) (prime warm : Text) (expected : Int) : Prop :=
  if mode = "exact_repeat" then warm = prime else SharesExactly tokenizer prime warm expected

section Mutation

variable (tokenizer : Tokenizer)

theorem stepped_token (original step : Nat) (low : 1 ≤ step) (high : step < tokenizer.vocabSize) :
    (original + step) % tokenizer.vocabSize ≠ original := by
  intro same
  have bounded : original < tokenizer.vocabSize := by
    rw [← same]
    exact Nat.mod_lt _ (by omega)
  by_cases wraps : original + step < tokenizer.vocabSize
  · rw [Nat.mod_eq_of_lt wraps] at same
    omega
  · rw [Nat.mod_eq_sub_mod (by omega), Nat.mod_eq_of_lt (by omega)] at same
    omega

theorem replace_one_token (prompt warm : Text) (offset : Nat) (replaced : replaceOneToken tokenizer prompt offset = .ok warm) :
    ∃ original changed, (tokenizer.encode prompt)[offset]? = some original ∧ changed ≠ original ∧
      tokenizer.encode warm = (tokenizer.encode prompt).set offset changed := by
  rw [replaceOneToken] at replaced
  cases read : (tokenizer.encode prompt)[offset]? with
  | none =>
      simp only [read] at replaced
      split at replaced <;> cases replaced
  | some original =>
      simp only [read] at replaced
      by_cases small : tokenizer.vocabSize ≤ 1
      · rw [if_pos small] at replaced
        cases replaced
      · rw [if_neg small] at replaced
        split at replaced
        · rename_i text found
          cases replaced
          obtain ⟨ids, candidate, accepted⟩ := List.exists_of_findSome?_eq_some found
          obtain ⟨step, inSteps, rfl⟩ := List.mem_map.mp candidate
          obtain ⟨low, high⟩ := List.mem_range'_1.mp inSteps
          obtain ⟨_, same⟩ := Option.filter_eq_some_iff.mp accepted
          exact ⟨original, _, rfl, stepped_token tokenizer original step low (by omega), of_decide_eq_true same⟩
        · cases replaced

theorem replaced_shares (prompt warm : Text) (offset : Int) (replaced : replaceTokenAt tokenizer prompt offset = .ok warm) :
    SharesExactly tokenizer prompt warm offset := by
  rw [replaceTokenAt] at replaced
  by_cases low : 0 ≤ offset
  · rw [if_pos low] at replaced
    obtain ⟨original, changed, read, different, tokens⟩ := replace_one_token tokenizer prompt warm offset.toNat replaced
    constructor
    · rw [tokens, common_length_set _ _ original changed read different]
      exact Int.toNat_of_nonneg low
    · refine ⟨original, changed, read, ?_, different⟩
      rw [tokens]
      exact List.getElem?_set_self (List.getElem?_eq_some_iff.mp read).1
  · rw [if_neg low] at replaced
    split at replaced <;> cases replaced

theorem warm_prompt_related (config : ProbePlanConfig) (prime warm : Text) (primeLength expected : Int)
    (made : warmPrompt tokenizer config prime primeLength = .ok (warm, expected)) :
    WarmOf tokenizer config.mode prime warm expected := by
  rw [warmPrompt] at made
  rw [WarmOf]
  by_cases exact : config.mode = "exact_repeat"
  · rw [if_pos exact] at made ⊢
    cases made
    rfl
  · rw [if_neg exact] at made ⊢
    obtain ⟨offset, _, rest⟩ := (Outcomes.bind_ok _ _ _).mp made
    obtain ⟨text, replaced, same⟩ := (Outcomes.bind_ok _ _ _).mp rest
    cases same
    exact replaced_shares tokenizer prime warm expected replaced

end Mutation

section Plan

variable (gen : Generator) (sha256 : Sha256) (hmac : HmacSha256) (tokenizer : Tokenizer) (config : ProbePlanConfig) (seed : Int)
  (hashKey : Option (List UInt8)) (basePrompts : List (Text × Int))

def familyBlock (family dispatchIndex : Nat) (prime warm : Text) (expected : Int) : List CacheProbeRequest :=
  (List.range config.occurrences).map fun occurrence =>
    cacheProbeRequest sha256 hmac tokenizer config seed hashKey family occurrence (dispatchIndex + occurrence) prime warm expected

theorem plan_cases (start family : Nat) (rest : List Nat) (plan : List CacheProbeRequest)
    (planned : planFamilies sha256 hmac tokenizer config seed hashKey basePrompts start (family :: rest) = .ok plan) :
    ∃ prime primeLength warm expected later, basePrompt basePrompts family = .ok (prime, primeLength) ∧
      warmPrompt tokenizer config prime primeLength = .ok (warm, expected) ∧
      planFamilies sha256 hmac tokenizer config seed hashKey basePrompts (start + config.occurrences) rest = .ok later ∧
      plan = familyBlock sha256 hmac tokenizer config seed hashKey family start prime warm expected ++ later := by
  rw [planFamilies] at planned
  obtain ⟨⟨prime, primeLength⟩, read, afterRead⟩ := (Outcomes.bind_ok _ _ _).mp planned
  obtain ⟨⟨warm, expected⟩, made, afterMade⟩ := (Outcomes.bind_ok _ _ _).mp afterRead
  obtain ⟨later, rest, same⟩ := (Outcomes.bind_ok _ _ _).mp afterMade
  exact ⟨prime, primeLength, warm, expected, later, read, made, rest, (Except.ok.inj same).symm⟩

theorem block_indices (family start : Nat) (prime warm : Text) (expected : Int) :
    (familyBlock sha256 hmac tokenizer config seed hashKey family start prime warm expected).map CacheProbeRequest.dispatchIndex =
      List.range' start config.occurrences := by
  rw [familyBlock, List.map_map, List.range'_eq_map_range]
  rfl

theorem planned_indices (start : Nat) (families : List Nat) (plan : List CacheProbeRequest)
    (planned : planFamilies sha256 hmac tokenizer config seed hashKey basePrompts start families = .ok plan) :
    plan.map CacheProbeRequest.dispatchIndex = List.range' start plan.length := by
  induction families generalizing start plan with
  | nil =>
      cases planned
      rfl
  | cons family rest ih =>
      obtain ⟨prime, _, warm, expected, later, _, _, further, rfl⟩ :=
        plan_cases sha256 hmac tokenizer config seed hashKey basePrompts start family rest plan planned
      have many : (familyBlock sha256 hmac tokenizer config seed hashKey family start prime warm expected).length =
          config.occurrences := by
        rw [familyBlock, List.length_map, List.length_range]
      rw [List.map_append, block_indices, ih _ later further, List.length_append, many]
      exact List.range'_append_1

theorem planned_request (start : Nat) (families : List Nat) (plan : List CacheProbeRequest)
    (planned : planFamilies sha256 hmac tokenizer config seed hashKey basePrompts start families = .ok plan)
    (request : CacheProbeRequest) (member : request ∈ plan) :
    ∃ position family prime primeLength warm expected occurrence, families[position]? = some family ∧
      basePrompt basePrompts family = .ok (prime, primeLength) ∧
      warmPrompt tokenizer config prime primeLength = .ok (warm, expected) ∧ occurrence < config.occurrences ∧
      request = cacheProbeRequest sha256 hmac tokenizer config seed hashKey family occurrence
        (start + config.occurrences * position + occurrence) prime warm expected := by
  induction families generalizing start plan with
  | nil =>
      cases planned
      cases member
  | cons first rest ih =>
      obtain ⟨prime, primeLength, warm, expected, later, read, made, further, rfl⟩ :=
        plan_cases sha256 hmac tokenizer config seed hashKey basePrompts start first rest plan planned
      rcases List.mem_append.mp member with inBlock | inLater
      · obtain ⟨occurrence, inside, rfl⟩ := List.mem_map.mp inBlock
        exact ⟨0, first, prime, primeLength, warm, expected, occurrence, rfl, read, made, List.mem_range.mp inside, rfl⟩
      · obtain ⟨position, family, prime, primeLength, warm, expected, occurrence, placed, read, made, inside, same⟩ :=
          ih _ later further inLater
        refine ⟨position + 1, family, prime, primeLength, warm, expected, occurrence, placed, read, made, inside, ?_⟩
        rw [same, Nat.mul_succ, Nat.add_assoc start, Nat.add_comm config.occurrences]

theorem family_planned (start : Nat) (families : List Nat) (plan : List CacheProbeRequest)
    (planned : planFamilies sha256 hmac tokenizer config seed hashKey basePrompts start families = .ok plan)
    (family : Nat) (listed : family ∈ families) (occurrence : Nat) (inside : occurrence < config.occurrences) :
    ∃ request ∈ plan, request.familyId = familyId family ∧ request.occurrence = occurrence := by
  induction families generalizing start plan with
  | nil => cases listed
  | cons first rest ih =>
      obtain ⟨prime, primeLength, warm, expected, later, _, _, further, rfl⟩ :=
        plan_cases sha256 hmac tokenizer config seed hashKey basePrompts start first rest plan planned
      rcases List.mem_cons.mp listed with rfl | inRest
      · exact ⟨_, List.mem_append_left _ (List.mem_map_of_mem (List.mem_range.mpr inside)), rfl, rfl⟩
      · obtain ⟨request, member, facts⟩ := ih _ later further inRest
        exact ⟨request, List.mem_append_right _ member, facts⟩

theorem family_id_text (family : Nat) :
    (familyId family).toList =
      "family-".toList ++ (List.replicate (5 - (toString family).length) '0' ++ family.repr.toList) := by
  simp only [familyId, String.toList_append, String.toList_ofList, List.append_assoc]
  rfl

theorem family_id_injective (family other : Nat) (same : familyId family = familyId other) : family = other := by
  have letters := congrArg String.toList same
  rw [family_id_text, family_id_text] at letters
  exact Numerals.padded_injective family other _ _ (List.append_cancel_left letters)

theorem family_indices_perm : (familyIndices gen config seed).Perm (List.range config.trials.toNat) := by
  rw [familyIndices]
  split
  · exact shuffle_perm gen _ _
  · exact List.Perm.refl _

variable (plan : List CacheProbeRequest)

theorem built_planned (built : buildCacheProbePlan gen sha256 hmac tokenizer config seed hashKey basePrompts = .ok plan) :
    planFamilies sha256 hmac tokenizer config seed hashKey basePrompts 0 (familyIndices gen config seed) = .ok plan := by
  rw [buildCacheProbePlan, Outcomes.checked_ok, Outcomes.checked_ok] at built
  exact built.2.2

theorem family_pair (built : buildCacheProbePlan gen sha256 hmac tokenizer config seed hashKey basePrompts = .ok plan)
    (first second : CacheProbeRequest) (inFirst : first ∈ plan) (inSecond : second ∈ plan)
    (same : first.familyId = second.familyId) :
    ∃ family start prime warm expected occurrence later, WarmOf tokenizer config.mode prime warm expected ∧
      first = cacheProbeRequest sha256 hmac tokenizer config seed hashKey family occurrence (start + occurrence) prime warm expected ∧
      second = cacheProbeRequest sha256 hmac tokenizer config seed hashKey family later (start + later) prime warm expected := by
  have planned := built_planned gen sha256 hmac tokenizer config seed hashKey basePrompts plan built
  obtain ⟨position, family, prime, primeLength, warm, expected, occurrence, placed, read, made, _, rfl⟩ :=
    planned_request sha256 hmac tokenizer config seed hashKey basePrompts 0 _ plan planned first inFirst
  obtain ⟨other, another, otherPrime, otherLength, otherWarm, otherExpected, later, alsoPlaced, alsoRead, alsoMade, _, rfl⟩ :=
    planned_request sha256 hmac tokenizer config seed hashKey basePrompts 0 _ plan planned second inSecond
  cases family_id_injective family another same
  have unique : (familyIndices gen config seed).Nodup := (family_indices_perm gen config seed).nodup_iff.mpr List.nodup_range
  cases (List.getElem?_inj (List.getElem?_eq_some_iff.mp placed).1 unique).mp (placed.trans alsoPlaced.symm)
  cases read.symm.trans alsoRead
  cases made.symm.trans alsoMade
  exact ⟨family, _, prime, warm, expected, occurrence, later, warm_prompt_related tokenizer config prime warm primeLength expected made,
    rfl, rfl⟩

theorem prime_role (family occurrence dispatchIndex : Nat) (prime warm : Text) (expected : Int)
    (role : (cacheProbeRequest sha256 hmac tokenizer config seed hashKey family occurrence dispatchIndex prime warm expected).role =
      .prime) : occurrence = 0 := by
  by_contra later
  change (if occurrence = 0 then ProbeRole.prime else .warm) = .prime at role
  rw [if_neg later] at role
  cases role

theorem warm_role (family occurrence dispatchIndex : Nat) (prime warm : Text) (expected : Int)
    (role : (cacheProbeRequest sha256 hmac tokenizer config seed hashKey family occurrence dispatchIndex prime warm expected).role =
      .warm) : occurrence ≠ 0 := by
  intro first
  change (if occurrence = 0 then ProbeRole.prime else .warm) = .warm at role
  rw [if_pos first] at role
  cases role

theorem prime_before_warm (built : buildCacheProbePlan gen sha256 hmac tokenizer config seed hashKey basePrompts = .ok plan)
    (prime warm : CacheProbeRequest) (inPrime : prime ∈ plan) (inWarm : warm ∈ plan) (isPrime : prime.role = .prime)
    (isWarm : warm.role = .warm) (same : prime.familyId = warm.familyId) :
    prime.dispatchIndex < warm.dispatchIndex ∧ prime.expectedSharedPrefixTokens = warm.expectedSharedPrefixTokens ∧
      WarmOf tokenizer config.mode prime.prompt warm.prompt warm.expectedSharedPrefixTokens := by
  obtain ⟨family, start, primeText, warmText, expected, occurrence, later, related, rfl, rfl⟩ :=
    family_pair gen sha256 hmac tokenizer config seed hashKey basePrompts plan built prime warm inPrime inWarm same
  cases prime_role sha256 hmac tokenizer config seed hashKey family occurrence _ primeText warmText expected isPrime
  have after := warm_role sha256 hmac tokenizer config seed hashKey family later _ primeText warmText expected isWarm
  refine ⟨?_, rfl, ?_⟩
  · change start + 0 < start + later
    omega
  · change WarmOf tokenizer config.mode primeText (if later = 0 then primeText else warmText) expected
    rw [if_neg after]
    exact related

theorem every_family_planned (built : buildCacheProbePlan gen sha256 hmac tokenizer config seed hashKey basePrompts = .ok plan)
    (family occurrence : Nat) (listed : (family : Int) < config.trials) (inside : occurrence < config.occurrences) :
    ∃ request ∈ plan, request.familyId = familyId family ∧ request.occurrence = occurrence := by
  have planned := built_planned gen sha256 hmac tokenizer config seed hashKey basePrompts plan built
  apply family_planned sha256 hmac tokenizer config seed hashKey basePrompts 0 _ plan planned family _ occurrence inside
  rw [(family_indices_perm gen config seed).mem_iff, List.mem_range]
  omega

theorem prime_planned (built : buildCacheProbePlan gen sha256 hmac tokenizer config seed hashKey basePrompts = .ok plan)
    (request : CacheProbeRequest) (member : request ∈ plan) :
    ∃ prime ∈ plan, prime.role = .prime ∧ prime.familyId = request.familyId := by
  have planned := built_planned gen sha256 hmac tokenizer config seed hashKey basePrompts plan built
  obtain ⟨position, family, _, _, _, _, occurrence, placed, _, _, inside, rfl⟩ :=
    planned_request sha256 hmac tokenizer config seed hashKey basePrompts 0 _ plan planned request member
  obtain ⟨prime, inPrime, named, first⟩ := family_planned sha256 hmac tokenizer config seed hashKey basePrompts 0 _ plan planned family
    (List.mem_of_getElem? placed) 0 (Nat.zero_lt_of_lt inside)
  refine ⟨prime, inPrime, ?_, named⟩
  obtain ⟨_, _, _, _, _, _, other, _, _, _, _, rfl⟩ :=
    planned_request sha256 hmac tokenizer config seed hashKey basePrompts 0 _ plan planned prime inPrime
  have zero : other = 0 := first
  change (if other = 0 then ProbeRole.prime else .warm) = .prime
  rw [if_pos zero]

structure SoundProbePlan (plan : List CacheProbeRequest) : Prop where
  contiguous : plan.map CacheProbeRequest.dispatchIndex = List.range plan.length
  complete : ∀ family occurrence : Nat, (family : Int) < config.trials → occurrence < config.occurrences →
    ∃ request ∈ plan, request.familyId = familyId family ∧ request.occurrence = occurrence
  primed : ∀ request ∈ plan, ∃ prime ∈ plan, prime.role = .prime ∧ prime.familyId = request.familyId
  ordered : ∀ prime ∈ plan, ∀ warm ∈ plan, prime.role = .prime → warm.role = .warm → prime.familyId = warm.familyId →
    prime.dispatchIndex < warm.dispatchIndex
  related : ∀ prime ∈ plan, ∀ warm ∈ plan, prime.role = .prime → warm.role = .warm → prime.familyId = warm.familyId →
    WarmOf tokenizer config.mode prime.prompt warm.prompt warm.expectedSharedPrefixTokens

theorem built_sound (built : buildCacheProbePlan gen sha256 hmac tokenizer config seed hashKey basePrompts = .ok plan) :
    SoundProbePlan tokenizer config plan where
  contiguous := by
    have planned := built_planned gen sha256 hmac tokenizer config seed hashKey basePrompts plan built
    rw [planned_indices sha256 hmac tokenizer config seed hashKey basePrompts 0 _ plan planned, List.range_eq_range']
  complete := every_family_planned gen sha256 hmac tokenizer config seed hashKey basePrompts plan built
  primed := prime_planned gen sha256 hmac tokenizer config seed hashKey basePrompts plan built
  ordered := fun prime inPrime warm inWarm isPrime isWarm same =>
    (prime_before_warm gen sha256 hmac tokenizer config seed hashKey basePrompts plan built prime warm inPrime inWarm isPrime isWarm same).1
  related := fun prime inPrime warm inWarm isPrime isWarm same =>
    (prime_before_warm gen sha256 hmac tokenizer config seed hashKey basePrompts plan built prime warm inPrime inWarm isPrime isWarm same).2.2

end Plan

end LlmperfOrchestrator.Preparation

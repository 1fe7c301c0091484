import LlmperfOrchestrator.Preparation.WorkerInputs

set_option autoImplicit false

namespace LlmperfOrchestrator.Preparation

open Tables Compiler Storage Draws

inductive ProbeRole where
  | prime | warm
deriving DecidableEq, Repr

structure CacheProbeRequest where
  requestId : String
  familyId : String
  role : ProbeRole
  occurrence : Nat
  dispatchIndex : Nat
  prompt : Text
  promptHash : String
  localInputTokens : Nat
  expectedSharedPrefixTokens : Int
  delaySeconds : Rat
  seed : Int
  persistPromptText : Bool
deriving DecidableEq, Repr

def ProbeRole.name : ProbeRole → String
  | prime => "prime"
  | warm => "warm"

def CacheProbeRequest.metadata (request : CacheProbeRequest) : Dict String Json :=
  [("request_id", .text request.requestId), ("family_id", .text request.familyId), ("role", .text request.role.name),
    ("occurrence", natural request.occurrence), ("dispatch_index", natural request.dispatchIndex),
    ("prompt_hash", .text request.promptHash), ("local_input_tokens", .number request.localInputTokens),
    ("expected_shared_prefix_tokens", .number request.expectedSharedPrefixTokens),
    ("delay_seconds", .number request.delaySeconds), ("seed", .number request.seed)] ++
  if request.persistPromptText then [("prompt", .text (String.ofList request.prompt))] else []

-- The probe settings as a plan reads them; none stands for a key that is absent.
structure ProbePlanConfig where
  mode : String
  trials : Int
  repeatsAfterPrime : Option Int
  schedule : Option String
  sharedPrefixTokens : Option Int
  mutationTokenOffset : Option Int
  delay : Option Duration
  persistPromptText : Option Bool
deriving DecidableEq, Repr

namespace ProbePlanConfig

variable (config : ProbePlanConfig)

def occurrences : Nat := (config.repeatsAfterPrime.getD 1 + 1).toNat

def delaySeconds : Rat := (config.delay.map Duration.seconds).getD 0

end ProbePlanConfig

def ProbeMode.name : ProbeMode → String
  | exactRepeat => "exact_repeat"
  | sharedPrefix => "shared_prefix"
  | earlyMutation => "early_mutation"
  | lateMutation => "late_mutation"

-- \x7b**recipe.probe, "trials": 1, "repeats_after_prime": 1\x7d; the document of a probe names every key.
def CacheProbeConfig.single (probe : CacheProbeConfig) : ProbePlanConfig where
  mode := probe.mode.name
  trials := 1
  repeatsAfterPrime := some 1
  schedule := some probe.schedule
  sharedPrefixTokens := probe.sharedPrefixTokens.map fun tokens => (tokens : Int)
  mutationTokenOffset := probe.mutationTokenOffset.map fun offset => (offset : Int)
  delay := some probe.delay
  persistPromptText := some probe.persistPromptText

-- HMAC-SHA256 of the UTF-8 text under a key, read as one big-endian integer.
abbrev HmacSha256 := List UInt8 → String → Fin (2 ^ 256)

section Plan

variable (gen : Generator) (sha256 : Sha256) (hmac : HmacSha256) (tokenizer : Tokenizer) (config : ProbePlanConfig) (seed : Int)
  (hashKey : Option (List UInt8))

-- _hash_prompt; an empty key counts as none.
def hashPrompt (prompt : Text) : String :=
  match hashKey.filter fun key => key ≠ [] with
  | some key => "hmac-sha256:" ++ String.ofList (hexDigits 64 (hmac key (String.ofList prompt)).val)
  | none => "sha256:" ++ sha256Hex sha256 (String.ofList prompt)

-- _replace_one_token at any offset.
def replaceTokenAt (prompt : Text) (offset : Int) : Except String Text :=
  if 0 ≤ offset then replaceOneToken tokenizer prompt offset.toNat
  else if tokenizer.encode prompt = [] then .error "Cannot mutate an empty token sequence"
  else .error s!"Mutation token offset {offset} is outside prompt length {(tokenizer.encode prompt).length}"

def probeOffset (primeLength : Int) : Except String Int :=
  if config.mode = "shared_prefix" then .ok (config.sharedPrefixTokens.getD 0)
  else if config.mode = "early_mutation" then .ok (config.mutationTokenOffset.getD 8)
  else if config.mode = "late_mutation" then .ok (config.mutationTokenOffset.getD (max 1 (primeLength - 8)))
  else .error s!"Unsupported cache probe mode: {config.mode}"

-- The warm prompt of one family with expected_prefix.
def warmPrompt (prime : Text) (primeLength : Int) : Except String (Text × Int) :=
  if config.mode = "exact_repeat" then .ok (prime, primeLength)
  else do
    let offset ← probeOffset config primeLength
    let warm ← replaceTokenAt tokenizer prime offset
    .ok (warm, offset)

def cacheProbeRequest (family occurrence dispatchIndex : Nat) (prime warm : Text) (expected : Int) : CacheProbeRequest :=
  let prompt := if occurrence = 0 then prime else warm
  let promptHash := hashPrompt sha256 hmac hashKey prompt
  { requestId := String.ofList ((sha256Hex sha256 s!"{seed}:{familyId family}:{occurrence}:{promptHash}").toList.take 32)
    familyId := familyId family
    role := if occurrence = 0 then .prime else .warm
    occurrence := occurrence
    dispatchIndex := dispatchIndex
    prompt := prompt
    promptHash := promptHash
    localInputTokens := (tokenizer.encode prompt).length
    expectedSharedPrefixTokens := expected
    delaySeconds := if occurrence = 0 then 0 else config.delaySeconds
    seed := seed
    persistPromptText := config.persistPromptText.getD false }

def basePrompt (basePrompts : List (Text × Int)) (family : Nat) : Except String (Text × Int) :=
  match basePrompts[family]? with
  | some prompt => .ok prompt
  | none => .error "list index out of range"

def planFamilies (basePrompts : List (Text × Int)) : Nat → List Nat → Except String (List CacheProbeRequest)
  | _, [] => .ok []
  | dispatchIndex, family :: rest => do
      let (prime, primeLength) ← basePrompt basePrompts family
      let (warm, expected) ← warmPrompt tokenizer config prime primeLength
      let later ← planFamilies basePrompts (dispatchIndex + config.occurrences) rest
      .ok ((List.range config.occurrences).map (fun occurrence =>
        cacheProbeRequest sha256 hmac tokenizer config seed hashKey family occurrence (dispatchIndex + occurrence) prime warm expected) ++ later)

def familyIndices : List Nat :=
  if config.schedule.getD randomizedFamilyBlocks = randomizedFamilyBlocks then
    (shuffle gen (List.range config.trials.toNat) (gen.seeded seed)).1
  else List.range config.trials.toNat

def buildCacheProbePlan (basePrompts : List (Text × Int)) : Except String (List CacheProbeRequest) :=
  if (basePrompts.length : Int) < config.trials then .error s!"Cache probe requires {config.trials} base prompts"
  else if config.delay.any fun delay => !delay.valid then .error "duration must be finite and nonnegative"
  else planFamilies sha256 hmac tokenizer config seed hashKey basePrompts 0 (familyIndices gen config seed)

end Plan

end LlmperfOrchestrator.Preparation

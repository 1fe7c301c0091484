import LlmperfOrchestrator.Preparation.WorkerSteps

set_option autoImplicit false

namespace LlmperfOrchestrator.Preparation

open Tables Compiler Storage Draws Rounding

abbrev Text := List Char

structure PromptDataset where
  source : String
  records : List (Nat × Text)
  separator : Text
  -- The text around the output tokens.
  instructionTemplate : Option (Text × Text)
deriving DecidableEq, Repr

def PromptDataset.instruction (dataset : PromptDataset) (outputTokens : Nat) : Text :=
  match dataset.instructionTemplate with
  | none => []
  | some (before, after) => before ++ (toString outputTokens).toList ++ after

structure PromptDatasetSource where
  adapter : String
  path : Option String
  filename : Option String
deriving DecidableEq, Repr

def builtinSonnetSource : String := "builtin-sonnet"

namespace PromptDatasetSource

def builtinSonnet : PromptDatasetSource := ⟨builtinSonnetSource, none, none⟩

def external (adapter path : String) (filename : Option String) : Except String PromptDatasetSource :=
  if adapter ∈ externalAdapters then .ok ⟨adapter, some path, filename⟩
  else if adapter = builtinSonnetSource then
    .error s!"Prompt dataset adapter '{adapter}' does not accept external artifacts"
  else .error s!"Unsupported prompt dataset adapter: {adapter}"

def isExternal (source : PromptDatasetSource) : Bool := source.adapter ≠ builtinSonnetSource

-- adapter.fixed_prompt_mode or prompt_mode
def effectiveMode (source : PromptDatasetSource) (mode : PromptMode) : PromptMode :=
  if source.isExternal then mode else .concatenate

end PromptDatasetSource

structure Tokenizer where
  encode : Text → List Nat
  decode : List Nat → Option Text
  vocabSize : Nat

-- What lies outside the process: tokenizers and datasets by their paths, the
-- standard library's random.Random(0).sample over n positions, and json.dumps.
structure Artifacts where
  tokenizer : String → Bool → Except String Tokenizer
  dataset : PromptDatasetSource → Except String PromptDataset
  samplePositions : Nat → List Nat
  dumps : Json → String

def hexDigits : Nat → Nat → List Char
  | 0, _ => []
  | width + 1, value => hexDigits width (value / 16) ++ [Nat.digitChar (value % 16)]

def sha256Hex (sha256 : Sha256) (text : String) : String := String.ofList (hexDigits 64 (sha256 text).val)

def sha256Tag (sha256 : Sha256) (text : String) : Json := .text ("sha256:" ++ sha256Hex sha256 text)

abbrev Evidence := Dict String Json

structure PreparedPrompt where
  text : Text
  tokens : Int
  evidence : Evidence
deriving DecidableEq

def natural (value : Nat) : Json := .number value

def naturals (values : List Nat) : Json := .list (values.map natural)

def manifest (artifacts : Artifacts) (sha256 : Sha256) (document : Evidence) : Evidence :=
  Dict.put "manifest_hash" (sha256Tag sha256 (artifacts.dumps (.dict document))) document

-- _positive_int: draws until the truncated value is positive.
def positiveInt (gen : Generator) (mean stddev : Nat) : Nat → gen.State → Except String (Nat × gen.State)
  | 0, _ => .error "no positive draw"
  | fuel + 1, state =>
      match gen.gauss mean stddev state with
      | (none, _) => .error "cannot convert float infinity to integer"
      | (some drawn, next) =>
          if 0 < truncated drawn then .ok ((truncated drawn).toNat, next) else positiveInt gen mean stddev fuel next

structure RecordCursor (gen : Generator) where
  order : List Nat
  cursor : Nat
  cycle : Nat
  rng : gen.State

namespace RecordCursor

def start (gen : Generator) (records : Nat) (rng : gen.State) : RecordCursor gen :=
  let shuffled := shuffle gen (List.range records) rng
  ⟨shuffled.1, 0, 0, shuffled.2⟩

def refreshed {gen : Generator} (dataset : PromptDataset) (cursor : RecordCursor gen) : RecordCursor gen :=
  if cursor.cursor = cursor.order.length then
    { start gen dataset.records.length cursor.rng with cycle := cursor.cycle + 1 }
  else cursor

def next {gen : Generator} (dataset : PromptDataset) (cursor : RecordCursor gen) :
    Except String ((Nat × Text × Nat) × RecordCursor gen) :=
  let current := cursor.refreshed dataset
  match current.order[current.cursor]?.bind fun position => dataset.records[position]? with
  | none => .error "list index out of range"
  | some (recordIndex, text) => .ok ((recordIndex, text, current.cycle), { current with cursor := current.cursor + 1 })

end RecordCursor

-- The longest cut the binary search of _truncate_to_budget ends at.
def searchCut (fits : Nat → Bool) : Nat → Nat → Nat → Nat
  | 0, low, _ => low
  | fuel + 1, low, high =>
      if low < high then
        let middle := (low + high + 1) / 2
        if fits middle then searchCut fits fuel middle high else searchCut fits fuel low (middle - 1)
      else low

def truncateToBudget (length : Text → Nat) (initial piece : Text) (target : Nat) : Text × Nat :=
  let low := searchCut (fun cut => length (initial ++ piece.take cut) ≤ target) piece.length 0 piece.length
  (piece.take low, low)

structure Segment where
  recordIndex : Nat
  corpusCycle : Nat
  characters : Nat
  tokensAdded : Int
  truncated : Bool
deriving DecidableEq, Repr

def Segment.document (segment : Segment) : Json :=
  .dict [("record_index", natural segment.recordIndex), ("corpus_cycle", natural segment.corpusCycle),
    ("characters", natural segment.characters), ("tokens_added", .number segment.tokensAdded), ("truncated", .bool segment.truncated)]

structure Construction (gen : Generator) where
  text : Text
  tokens : Nat
  segments : List Segment
  cursor : RecordCursor gen

section Concatenation

variable (gen : Generator) (length : Text → Nat) (dataset : PromptDataset)

def pieceSeparator (text : Text) : Text :=
  if text ≠ [] ∧ ¬ "\n\n".toList <:+ text then dataset.separator else []

-- The loop of construct; without fuel it would go on forever.
def fill (target : Nat) : Nat → Construction gen → Except String (Construction gen)
  | 0, made => if made.tokens < target then .error "prompt construction does not end" else .ok made
  | fuel + 1, made =>
      if made.tokens < target then do
        let ((recordIndex, record, cycle), cursor) ← made.cursor.next dataset
        let separator := pieceSeparator dataset made.text
        let complete := length (made.text ++ (separator ++ record))
        if complete ≤ target then
          fill target fuel
            ⟨made.text ++ (separator ++ record), complete,
              made.segments ++ [⟨recordIndex, cycle, record.length, complete - made.tokens, false⟩], cursor⟩
        else
          let selected := truncateToBudget length made.text (separator ++ record) target
          let tokens := length (made.text ++ selected.1)
          .ok ⟨made.text ++ selected.1, tokens,
            made.segments ++ [⟨recordIndex, cycle, selected.2 - separator.length, tokens - made.tokens, true⟩], cursor⟩
      else .ok made

def startText (target : Nat) (initial : Text) : Text :=
  if target < length initial then (truncateToBudget length [] initial target).1 else initial

def construct (fuel target : Nat) (initial : Text) (cursor : RecordCursor gen) : Except String (Construction gen) := do
  let text := startText length target initial
  let made ← fill gen length dataset target fuel ⟨text, length text, [], cursor⟩
  if made.text = [] then .error s!"{dataset.source} prompt construction could not fit text in the token budget" else .ok made

end Concatenation

structure ConcatenationRequest where
  meanInputTokens : Nat
  stddevInputTokens : Nat
  meanOutputTokens : Nat
  seed : Int
  sharedPrefixTokens : Nat
  sharedPrefixSeed : Option Int
deriving DecidableEq, Repr

section Requests

variable (gen : Generator) (artifacts : Artifacts) (sha256 : Sha256) (fuel : Nat) (dataset : PromptDataset)
  (length : Text → Nat)

def prefixEvidence (request : ConcatenationRequest) (sharedPrefix : Text) : Evidence :=
  match request.sharedPrefixSeed with
  | none => []
  | some seed => [("shared_prefix_seed", .number seed), ("prefix_hash", sha256Tag sha256 (String.ofList sharedPrefix))]

def concatenateManifest (request : ConcatenationRequest) (sharedPrefix : Text) (sharedSegments : List Segment) (target : Nat)
    (made : Construction gen) : Evidence :=
  let segments := sharedSegments ++ made.segments
  manifest artifacts sha256 ([("source", .text dataset.source), ("mode", .text "concatenate"), ("seed", .number request.seed),
    ("record_indices", naturals (segments.map Segment.recordIndex)), ("segments", .list (segments.map Segment.document)),
    ("target_input_tokens", natural target), ("actual_input_tokens", natural made.tokens)] ++
    prefixEvidence sha256 request sharedPrefix)

-- The text selected for shared_prefix_tokens, from the cursor of its own seed or
-- from the one that all prompts share.
def selectPrefix (request : ConcatenationRequest) (cursor : RecordCursor gen) :
    Except String (Text × List Segment × RecordCursor gen) :=
  if request.sharedPrefixTokens = 0 then .ok ([], [], cursor)
  else do
    let start := match request.sharedPrefixSeed with
      | none => cursor
      | some seed => RecordCursor.start gen dataset.records.length (gen.seeded seed)
    let made ← construct gen length dataset fuel request.sharedPrefixTokens (dataset.instruction request.meanOutputTokens) start
    .ok (made.text, made.segments, if request.sharedPrefixSeed = none then made.cursor else cursor)

def concatenateOne (request : ConcatenationRequest) (sharedPrefix : Text) (sharedSegments : List Segment)
    (cursor : RecordCursor gen) : Except String (PreparedPrompt × RecordCursor gen) := do
  let (target, rng) ← positiveInt gen request.meanInputTokens request.stddevInputTokens fuel cursor.rng
  let initial := if sharedPrefix = [] then dataset.instruction request.meanOutputTokens else sharedPrefix
  let made ← construct gen length dataset fuel target initial { cursor with rng := rng }
  .ok (⟨made.text, made.tokens, concatenateManifest gen artifacts sha256 dataset request sharedPrefix sharedSegments target made⟩,
    made.cursor)

def concatenateRest (request : ConcatenationRequest) (sharedPrefix : Text) (sharedSegments : List Segment) :
    Nat → RecordCursor gen → Except String (List PreparedPrompt)
  | 0, _ => .ok []
  | count + 1, cursor => do
      let (prompt, next) ← concatenateOne gen artifacts sha256 fuel dataset length request sharedPrefix sharedSegments cursor
      let rest ← concatenateRest request sharedPrefix sharedSegments count next
      .ok (prompt :: rest)

def concatenatePromptRequests (numRequests : Nat) (request : ConcatenationRequest) : Except String (List PreparedPrompt) := do
  let cursor := RecordCursor.start gen dataset.records.length (gen.seeded request.seed)
  let (sharedPrefix, sharedSegments, cursor) ← selectPrefix gen fuel dataset length request cursor
  concatenateRest gen artifacts sha256 fuel dataset length request sharedPrefix sharedSegments numRequests cursor

def sampled (minInputTokens maxInputTokens : Nat) (seed : Int) (record : Nat × Text) : Option PreparedPrompt :=
  let tokens := length record.2
  if minInputTokens ≤ tokens ∧ tokens ≤ maxInputTokens then
    some ⟨record.2, tokens, manifest artifacts sha256 [("source", .text dataset.source), ("mode", .text "sample"),
      ("seed", .number seed), ("record_indices", naturals [record.1]), ("target_input_tokens", .null),
      ("actual_input_tokens", natural tokens)]⟩
  else none

def matching (minInputTokens maxInputTokens : Nat) (seed : Int) : List PreparedPrompt × gen.State :=
  let shuffled := shuffle gen (List.range dataset.records.length) (gen.seeded seed)
  ((shuffled.1.filterMap fun position => dataset.records[position]?).filterMap
    (sampled artifacts sha256 dataset length minInputTokens maxInputTokens seed), shuffled.2)

def samplePromptRequests (numRequests repeatCount minInputTokens maxInputTokens : Nat) (seed : Int) :
    Except String (List PreparedPrompt) :=
  let candidates := matching gen artifacts sha256 dataset length minInputTokens maxInputTokens seed
  let uniqueRequestCount := (numRequests + repeatCount - 1) / repeatCount
  if candidates.1.length < uniqueRequestCount then
    .error s!"{dataset.source} dataset has only {candidates.1.length} matching prompts; {uniqueRequestCount} required in token range {minInputTokens}:{maxInputTokens}"
  else
    let repeated := ((List.replicate repeatCount (candidates.1.take uniqueRequestCount)).flatten).take numRequests
    .ok (shuffle gen repeated candidates.2).1

end Requests

structure PromptRequest where
  source : PromptDatasetSource
  promptMode : PromptMode
  numRequests : Nat
  repeatCount : Nat
  meanInputTokens : Nat
  stddevInputTokens : Nat
  meanOutputTokens : Nat
  seed : Int
  sharedPrefixTokens : Nat
  sharedPrefixSeed : Option Int
deriving DecidableEq, Repr

def PromptRequest.concatenation (request : PromptRequest) : ConcatenationRequest :=
  ⟨request.meanInputTokens, request.stddevInputTokens, request.meanOutputTokens, request.seed, request.sharedPrefixTokens,
    request.sharedPrefixSeed⟩

def preparePromptRequests (gen : Generator) (artifacts : Artifacts) (sha256 : Sha256) (fuel : Nat) (length : Text → Nat)
    (request : PromptRequest) : Except String (List PreparedPrompt) := do
  let dataset ← artifacts.dataset request.source
  match request.source.effectiveMode request.promptMode with
  | .concatenate =>
      if request.repeatCount ≠ 1 then .error "concatenated dataset prompts require repeat_count=1"
      else concatenatePromptRequests gen artifacts sha256 fuel dataset length request.numRequests request.concatenation
  | .sample =>
      samplePromptRequests gen artifacts sha256 dataset length request.numRequests request.repeatCount
        (max 1 (request.meanInputTokens - request.stddevInputTokens)) (request.meanInputTokens + request.stddevInputTokens)
        request.seed

end LlmperfOrchestrator.Preparation

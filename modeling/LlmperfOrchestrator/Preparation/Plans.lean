import LlmperfOrchestrator.Preparation.Prompts

set_option autoImplicit false

namespace LlmperfOrchestrator.Preparation

open Tables Compiler Storage Draws Rounding

structure CorpusCalibration where
  charactersPerToken : Rat
  recordCount : Nat
deriving DecidableEq, Repr

structure PromptPlan where
  records : List Text
  lengths : List Nat
  sharedPrefix : Text
  prefixTokens : Nat
  seed : Int
  meanTokens : Nat
  stddevTokens : Nat
  datasetSource : Option PromptDatasetSource
  charactersPerToken : Rat
  prefixRecordIndices : List Nat
  calibrationRecords : Nat
  sharedPrefixSeed : Option Int
deriving DecidableEq, Repr

section Calibration

variable (gen : Generator) (artifacts : Artifacts) (sha256 : Sha256) (fuel : Nat)

-- calibrate_corpus: one bounded sample of the records.
def calibrateCorpus (tokenizer : Tokenizer) (source : PromptDatasetSource) : Except String CorpusCalibration := do
  let dataset ← artifacts.dataset source
  let positions := artifacts.samplePositions dataset.records.length
  let texts := positions.map fun position => (((dataset.records[position]?).map Prod.snd).getD [] ++ dataset.separator).take 4096
  let characters := (texts.map List.length).sum
  let tokens := (texts.map fun text => (tokenizer.encode text).length).sum
  if characters = 0 ∨ tokens = 0 then .error "Prompt dataset cannot calibrate token estimates"
  else .ok ⟨(characters : Rat) / tokens, positions.length⟩

-- One cycle of _assemble_dataset: swaps keeps the records already drawn out of reach.
def assembleCycle (dataset : PromptDataset) :
    Nat → Dict Nat Nat → Nat → gen.State → List Text × List Nat × Nat × gen.State
  | 0, _, remaining, rng => ([], [], remaining, rng)
  | count + 1, swaps, remaining, rng =>
      let (chosen, next) := gen.randbelow (count + 1) rng
      let position := (Dict.get chosen swaps).getD chosen
      let swaps := Dict.put chosen ((Dict.get count swaps).getD count) swaps
      match dataset.records[position]? with
      | none => ([], [], remaining, next)
      | some (recordIndex, record) =>
          let segment := (record ++ dataset.separator).take remaining
          if remaining - segment.length = 0 then ([segment], [recordIndex], 0, next)
          else
            let (pieces, selected, left, last) := assembleCycle dataset count swaps (remaining - segment.length) next
            (segment :: pieces, recordIndex :: selected, left, last)

def assembleCycles (dataset : PromptDataset) :
    Nat → Nat → gen.State → Except String (List Text × List Nat)
  | 0, remaining, _ => if remaining = 0 then .ok ([], []) else .error "prompt assembly does not end"
  | fuel + 1, remaining, rng =>
      if remaining = 0 then .ok ([], [])
      else do
        let (pieces, selected, left, next) := assembleCycle gen dataset dataset.records.length [] remaining rng
        let (later, others) ← assembleCycles dataset fuel left next
        .ok (pieces ++ later, selected ++ others)

-- A float is read as the rational it denotes, and the character budget is the
-- exact product that the source rounds to a float before round().
def assembleDataset (dataset : PromptDataset) (charactersPerToken : Rat) (budget : Int) (seed : Int) :
    Except String (Text × List Nat) :=
  if dataset.records = [] then .error "Prompt dataset has no usable records"
  else do
    let (pieces, selected) ← assembleCycles gen dataset fuel (roundHalfEven (budget * charactersPerToken)).toNat (gen.seeded seed)
    .ok (pieces.flatten, selected)

def assembleOrder (records : List Text) (lengths : List Nat) : List Nat → Nat → List Text × List Nat × Nat
  | [], remaining => ([], [], remaining)
  | index :: rest, remaining =>
      let record := (records[index]?).getD []
      let tokens := (lengths[index]?).getD 1
      if remaining ≤ tokens then ([record.take (max 1 (record.length * remaining / tokens))], [index], 0)
      else
        let (pieces, selected, left) := assembleOrder records lengths rest (remaining - tokens)
        (record :: pieces, index :: selected, left)

def assembleOrders (records : List Text) (lengths : List Nat) :
    Nat → List Nat → Nat → gen.State → Except String (List Text × List Nat)
  | 0, _, remaining, _ => if remaining = 0 then .ok ([], []) else .error "prompt assembly does not end"
  | fuel + 1, order, remaining, rng =>
      if remaining = 0 then .ok ([], [])
      else do
        let (shuffled, next) := shuffle gen order rng
        let (pieces, selected, left) := assembleOrder records lengths shuffled remaining
        let (later, others) ← assembleOrders records lengths fuel shuffled left next
        .ok (pieces ++ later, selected ++ others)

def assemble (records : List Text) (lengths : List Nat) (budget : Nat) (seed : Int) : Except String (Text × List Nat) := do
  let (pieces, selected) ← assembleOrders gen records lengths fuel (List.range records.length) budget (gen.seeded seed)
  .ok (pieces.flatten, selected)

def estimated (calibration : CorpusCalibration) (text : Text) : Int :=
  roundHalfEven ((text.length : Rat) / calibration.charactersPerToken)

def measuredTokens (tokenizer : Tokenizer) (calibration : Option CorpusCalibration) (text : Text) : Nat :=
  match calibration with
  | some calibration => (estimated calibration text).toNat
  | none => (tokenizer.encode text).length

structure PlanRequest where
  seed : Int
  meanTokens : Nat
  stddevTokens : Nat
  sharedPrefixTokens : Nat
  outputTokens : Nat
  source : PromptDatasetSource
  sharedPrefixSeed : Option Int
  calibration : Option CorpusCalibration
deriving DecidableEq, Repr

-- calibration or calibrate_corpus(tokenizer, source)
def corpusOf (tokenizer : Tokenizer) (request : PlanRequest) : Except String CorpusCalibration :=
  match request.calibration with
  | some calibration => .ok calibration
  | none => calibrateCorpus artifacts tokenizer request.source

def calibrateExternal (tokenizer : Tokenizer) (request : PlanRequest) (prefixSeed : Int) : Except String PromptPlan := do
  let dataset ← artifacts.dataset request.source
  let corpus ← corpusOf artifacts tokenizer request
  let (sharedPrefix, indices) ← assembleDataset gen fuel dataset corpus.charactersPerToken request.sharedPrefixTokens prefixSeed
  .ok { records := [], lengths := [], sharedPrefix := sharedPrefix, prefixTokens := request.sharedPrefixTokens, seed := request.seed,
        meanTokens := request.meanTokens, stddevTokens := request.stddevTokens, datasetSource := some request.source,
        charactersPerToken := corpus.charactersPerToken, prefixRecordIndices := indices, calibrationRecords := corpus.recordCount,
        sharedPrefixSeed := request.sharedPrefixSeed }

def calibrateBuiltin (tokenizer : Tokenizer) (request : PlanRequest) (prefixSeed : Int) : Except String PromptPlan := do
  let dataset ← artifacts.dataset .builtinSonnet
  let records := dataset.records.map fun record => record.2 ++ dataset.separator
  let lengths := records.map fun text => max 1 (measuredTokens tokenizer request.calibration text)
  let instruction := dataset.instruction request.outputTokens
  let instructionTokens := measuredTokens tokenizer request.calibration instruction
  let prefixBudget := max instructionTokens request.sharedPrefixTokens
  let (body, _) ← assemble gen fuel records lengths (prefixBudget - instructionTokens) prefixSeed
  .ok { records := records, lengths := lengths, sharedPrefix := instruction ++ body, prefixTokens := prefixBudget,
        seed := request.seed, meanTokens := request.meanTokens, stddevTokens := request.stddevTokens, datasetSource := none,
        charactersPerToken := 0, prefixRecordIndices := [], calibrationRecords := 0, sharedPrefixSeed := request.sharedPrefixSeed }

def calibrate (tokenizer : Tokenizer) (request : PlanRequest) : Except String PromptPlan :=
  let prefixSeed := request.sharedPrefixSeed.getD request.seed
  if request.source.isExternal then calibrateExternal gen artifacts fuel tokenizer request prefixSeed
  else calibrateBuiltin gen artifacts fuel tokenizer request prefixSeed

def renderSeed (plan : PromptPlan) (requestIndex : Nat) : Nat := firstEight (sha256 s!"{plan.seed}:{requestIndex}")

def renderTarget (plan : PromptPlan) (rng : gen.State) : Except String Nat :=
  match (gen.gauss plan.meanTokens plan.stddevTokens rng).1 with
  | none => .error "cannot convert float infinity to integer"
  | some drawn => .ok (max ((plan.prefixTokens : Int) + 1) (truncated drawn)).toNat

def renderEvidence (plan : PromptPlan) (requestIndex target : Nat) (indices : List Nat) (text : Text)
    (dataset : Option PromptDataset) : Evidence :=
  [("source", Json.text ((dataset.map PromptDataset.source).getD builtinSonnetSource)), ("mode", .text "calibrated-concatenate"),
    ("seed", .number plan.seed), ("request_index", natural requestIndex), ("record_indices", naturals indices),
    ("target_input_tokens", natural target), ("input_count_source", .text "calibrated_estimate"),
    ("manifest_hash", sha256Tag sha256 (String.ofList text))] ++
  (match dataset with
    | none => []
    | some _ => [("prefix_record_indices", naturals plan.prefixRecordIndices), ("calibration_records", natural plan.calibrationRecords),
        ("characters_per_token", .number plan.charactersPerToken)]) ++
  match plan.sharedPrefixSeed with
    | none => []
    | some seed => [("shared_prefix_seed", .number seed), ("prefix_hash", sha256Tag sha256 (String.ofList plan.sharedPrefix))]

def planDataset (plan : PromptPlan) : Except String (Option PromptDataset) :=
  match plan.datasetSource with
  | none => .ok none
  | some source => (artifacts.dataset source).map some

def renderSuffix (plan : PromptPlan) (dataset : Option PromptDataset) (budget : Nat) (seed : Int) :
    Except String (Text × List Nat) :=
  match dataset with
  | some dataset => assembleDataset gen fuel dataset plan.charactersPerToken budget seed
  | none => assemble gen fuel plan.records plan.lengths budget seed

def renderChunk (plan : PromptPlan) (requestIndex : Nat) : Except String PreparedPrompt := do
  let dataset ← planDataset artifacts plan
  let requestSeed := renderSeed sha256 plan requestIndex
  let target ← renderTarget gen plan (gen.seeded requestSeed)
  let (suffix, indices) ← renderSuffix gen fuel plan dataset (target - plan.prefixTokens) requestSeed
  let text := plan.sharedPrefix ++ suffix
  .ok ⟨text, target, renderEvidence sha256 plan requestIndex target indices text dataset⟩

end Calibration

end LlmperfOrchestrator.Preparation

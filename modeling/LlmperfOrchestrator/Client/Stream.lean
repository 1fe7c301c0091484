import LlmperfOrchestrator.Storage.Documents

set_option autoImplicit false

namespace LlmperfOrchestrator.Client

open Tables Storage

abbrev Fields := Dict String Json

def rawUsageLimit : Nat := 16384

-- The standard library's json.loads, json.dumps, str() and the format "g". A
-- failing loads is its exception, with the name of its type.
structure Builtins where
  loads : List UInt8 → Except String Json
  dumps : Json → String
  str : Json → String
  general : Rat → String

def normalizeCounter : Json → Option Nat
  | .number value => if value < 0 ∨ value.den ≠ 1 then none else some value.num.toNat
  | .null | .bool _ | .notFinite | .text _ | .list _ | .dict _ => none

def boundedRawUsage (builtins : Builtins) (usage : Fields) : Json :=
  let encoded := builtins.dumps (.dict usage)
  if encoded.utf8ByteSize ≤ rawUsageLimit then .dict usage
  else .dict [("truncated", .bool true), ("size_bytes", .number encoded.utf8ByteSize),
    ("preview", .text (String.ofList (encoded.toList.take (rawUsageLimit / 2))))]

structure NormalizedUsage where
  providerInputTokens : Option Nat
  providerOutputTokens : Option Nat
  hitTokens : Option Nat
  missTokens : Option Nat
  creationTokens : Option Nat
  sourceSchema : String
  complete : Bool
  valid : Bool
  validationError : Option String
  rawUsage : Json

abbrev Checked := Option Nat × List String

def checked (container : Fields) (name path : String) (invalid : List String) : Checked :=
  let value := Dict.get name container
  let counter := value.bind normalizeCounter
  (counter, if ¬ isNone value ∧ counter = none then invalid ++ [path] else invalid)

def orElse (found : Checked) (other : List String → Checked) : Checked :=
  match found with
  | (some counter, invalid) => (some counter, invalid)
  | (none, invalid) => other invalid

structure CacheCounters where
  hit : Option Nat
  creation : Option Nat
  schema : String
  invalid : List String

def detailed (usage : Fields) (details schema : String) (found : CacheCounters) : CacheCounters :=
  match found.hit, Dict.get details usage with
  | none, some (.dict fields) =>
      let hit := checked fields "cached_tokens" (details ++ ".cached_tokens") found.invalid
      let creation := orElse (found.creation, hit.2) (checked fields "cache_creation_tokens" (details ++ ".cache_creation_tokens"))
      ⟨hit.1, creation.1, if hit.1 ≠ none then schema else found.schema, creation.2⟩
  | _, _ => found

def validationError (invalid : List String) (hit miss providerInput : Option Nat) : Option String :=
  if invalid ≠ [] then some ("invalid non-negative integer counters: " ++ ", ".intercalate invalid)
  else
    match hit, providerInput with
    | some hit, some input =>
        if input < hit then some "cache hit tokens exceed provider input tokens"
        else
          match miss with
          | some miss => if input < hit + miss then some "cache hit plus miss tokens exceed provider input tokens" else none
          | none => none
    | _, _ => none

def normalizeUsage (builtins : Builtins) (usage : Fields) : NormalizedUsage :=
  let input := orElse (checked usage "prompt_tokens" "prompt_tokens" []) (checked usage "input_tokens" "input_tokens")
  let output := orElse (checked usage "completion_tokens" "completion_tokens" input.2)
    (checked usage "output_tokens" "output_tokens")
  let hit := checked usage "prompt_cache_hit_tokens" "prompt_cache_hit_tokens" output.2
  let miss := checked usage "prompt_cache_miss_tokens" "prompt_cache_miss_tokens" hit.2
  let creation := orElse (checked usage "prompt_cache_creation_tokens" "prompt_cache_creation_tokens" miss.2)
    (checked usage "cache_creation_input_tokens" "cache_creation_input_tokens")
  let cache := detailed usage "input_tokens_details" "openai_input_tokens_details"
    (detailed usage "prompt_tokens_details" "openai_prompt_tokens_details"
      ⟨hit.1, creation.1, if hit.1 ≠ none then "deepseek_prompt_cache" else "unknown", creation.2⟩)
  let missTokens := match cache.hit, miss.1, input.1 with
    | some hit, none, some total => if hit ≤ total then some (total - hit) else none
    | _, counted, _ => counted
  let error := validationError cache.invalid cache.hit missTokens input.1
  { providerInputTokens := input.1
    providerOutputTokens := output.1
    hitTokens := cache.hit
    missTokens := missTokens
    creationTokens := cache.creation
    sourceSchema := cache.schema
    complete := cache.hit ≠ none ∧ missTokens ≠ none ∧ error = none
    valid := error = none
    validationError := error
    rawUsage := boundedRawUsage builtins usage }

def counterJson : Option Nat → Json
  | none => .null
  | some counter => .number counter

def NormalizedUsage.toDict (usage : NormalizedUsage) : Json :=
  .dict [("provider_input_tokens", counterJson usage.providerInputTokens),
    ("provider_output_tokens", counterJson usage.providerOutputTokens), ("hit_tokens", counterJson usage.hitTokens),
    ("miss_tokens", counterJson usage.missTokens), ("creation_tokens", counterJson usage.creationTokens),
    ("source_schema", .text usage.sourceSchema), ("complete", .bool usage.complete), ("valid", .bool usage.valid),
    ("validation_error", (usage.validationError.map Json.text).getD .null), ("raw_usage", usage.rawUsage)]

def counterMetric (name : String) (counter : Option Nat) : Fields :=
  match counter with
  | none => []
  | some counter => [(name, .number counter)]

def hitRate (hit miss : Option Nat) : Fields :=
  match hit, miss with
  | some hit, some miss =>
      [("kv_cache_hit_rate", if hit + miss = 0 then .null else .number (mkRat hit (hit + miss)))]
  | _, _ => []

def NormalizedUsage.toMetrics (usage : NormalizedUsage) : Fields :=
  [("normalized_usage", usage.toDict), ("raw_usage", usage.rawUsage)] ++
    counterMetric "provider_input_tokens" usage.providerInputTokens ++
    counterMetric "provider_output_tokens" usage.providerOutputTokens ++
    counterMetric "kv_cache_hit_tokens" usage.hitTokens ++ counterMetric "kv_cache_miss_tokens" usage.missTokens ++
    counterMetric "kv_cache_creation_tokens" usage.creationTokens ++ hitRate usage.hitTokens usage.missTokens

-- dict.update
def update (metrics added : Fields) : Fields := added.foldl (fun metrics entry => Dict.put entry.1 entry.2 metrics) metrics

theorem update_other (added metrics : Fields) (name : String) (other : ∀ entry ∈ added, entry.1 ≠ name) :
    Dict.get name (update metrics added) = Dict.get name metrics := by
  induction added generalizing metrics with
  | nil => rfl
  | cons entry rest ih =>
      have first : name ≠ entry.1 := fun same => other entry List.mem_cons_self same.symm
      have later : ∀ item ∈ rest, item.1 ≠ name := fun item member => other item (List.mem_cons_of_mem _ member)
      calc Dict.get name (update metrics (entry :: rest))
          = Dict.get name (update (Dict.put entry.1 entry.2 metrics) rest) := rfl
        _ = Dict.get name (Dict.put entry.1 entry.2 metrics) := ih _ later
        _ = Dict.get name metrics := by rw [dict_get_put, if_neg first]

def usageNames : List String :=
  ["normalized_usage", "raw_usage", "provider_input_tokens", "provider_output_tokens", "kv_cache_hit_tokens",
    "kv_cache_miss_tokens", "kv_cache_creation_tokens", "kv_cache_hit_rate"]

theorem counter_metric_name (name : String) (counter : Option Nat) : ∀ entry ∈ counterMetric name counter, entry.1 = name := by
  intro entry member
  cases counter with
  | none => cases member
  | some value => rw [List.mem_singleton.mp member]

theorem hit_rate_name (hit miss : Option Nat) : ∀ entry ∈ hitRate hit miss, entry.1 = "kv_cache_hit_rate" := by
  intro entry member
  unfold hitRate at member
  split at member
  · rw [List.mem_singleton.mp member]
  · cases member

theorem usage_metric_names (usage : NormalizedUsage) : ∀ entry ∈ usage.toMetrics, entry.1 ∈ usageNames := by
  intro entry member
  simp only [NormalizedUsage.toMetrics, List.mem_append, List.mem_cons, List.not_mem_nil, or_false] at member
  obtain ((((((known | known) | known) | known) | known) | known) | known) | known := member
  · simp [usageNames, known]
  · simp [usageNames, known]
  · simp [usageNames, counter_metric_name _ _ entry known]
  · simp [usageNames, counter_metric_name _ _ entry known]
  · simp [usageNames, counter_metric_name _ _ entry known]
  · simp [usageNames, counter_metric_name _ _ entry known]
  · simp [usageNames, counter_metric_name _ _ entry known]
  · simp [usageNames, hit_rate_name _ _ entry known]

abbrev Bytes := List UInt8

def asciiSpace (byte : UInt8) : Bool := byte = 32 ∨ (9 ≤ byte ∧ byte ≤ 13)

-- bytes.strip()
def strip (line : Bytes) : Bytes := ((line.dropWhile asciiSpace).reverse.dropWhile asciiSpace).reverse

def ascii (text : String) : Bytes := text.toList.map fun c => c.toNat.toUInt8

def truthy : Json → Bool
  | .null => false
  | .bool value => value
  | .number value => value ≠ 0
  | .notFinite => true
  | .text value => value ≠ ""
  | .list items => ¬ items.isEmpty
  | .dict fields => ¬ fields.isEmpty

-- An OpenAIStreamError with its code, and every other exception as it is
-- reported, with the name of its type.
inductive Failure where
  | stream (message : String) (code : Json)
  | other (report : String)
deriving DecidableEq

inductive StreamEvent where
  | ignore
  | done
  | metadata (usage : Option Fields)
  | text (text : String) (usage : Option Fields)
deriving DecidableEq

def providerError (builtins : Builtins) (error : Json) : Failure :=
  match error with
  | .dict fields =>
      let message := Dict.get "message" fields
      .stream (builtins.str (if message.any truthy then message.getD .null else error)) ((Dict.get "code" fields).getD (.number (-1)))
  | _ => .stream (builtins.str error) (.number (-1))

def eventUsage (document : Fields) : Option Fields :=
  match Dict.get "usage" document with
  | some (.dict usage) => some usage
  | _ => none

def segment (delta : Fields) (field : String) : String :=
  match Dict.get field delta with
  | some (.text value) => value
  | _ => ""

-- The text-bearing part of a document without an error.
def decodeDelta (usage : Option Fields) (delta : Fields) : StreamEvent :=
  let text := segment delta "reasoning_content" ++ segment delta "content"
  if text = "" then .metadata usage else .text text usage

def decodeChoices (usage : Option Fields) (choices : Option Json) : Except Failure StreamEvent :=
  if ¬ choices.any truthy then .ok (.metadata usage)
  else
    match choices with
    | some (.list (.dict choice :: _)) =>
        let delta := Dict.get "delta" choice
        if ¬ delta.any truthy then .ok (decodeDelta usage [])
        else
          match delta with
          | some (.dict fields) => .ok (decodeDelta usage fields)
          | _ => .error (.other "ValueError: SSE choice delta must be an object")
    | _ => .error (.other "ValueError: SSE choices must be a list of objects")

def decodeDocument (builtins : Builtins) : Json → Except Failure StreamEvent
  | .dict document =>
      match (Dict.get "error" document).filter truthy with
      | some error => .error (providerError builtins error)
      | none => decodeChoices (eventUsage document) (Dict.get "choices" document)
  | _ => .error (.other "ValueError: SSE data payload must be a JSON object")

-- The payload of a data line, where the line has one.
def payload (chunk : Bytes) : Option Bytes :=
  let line := strip chunk
  if line = [] ∨ (ascii ":").isPrefixOf line ∨ ¬ (ascii "data:").isPrefixOf line then none
  else some (strip (line.drop (ascii "data:").length))

def decodeSseLine (builtins : Builtins) (chunk : Bytes) : Except Failure StreamEvent :=
  match payload chunk with
  | none => .ok .ignore
  | some payload =>
      if payload = ascii "[DONE]" then .ok .done
      else if payload = [] then .ok .ignore
      else
        match builtins.loads payload with
        | .error report => .error (.other report)
        | .ok document => decodeDocument builtins document

def carries (builtins : Builtins) (chunk : Bytes) (document : Json) : Prop :=
  ∃ data, payload chunk = some data ∧ data ≠ ascii "[DONE]" ∧ data ≠ [] ∧ builtins.loads data = .ok document

def CarriesError (builtins : Builtins) (chunk : Bytes) : Prop :=
  ∃ fields error, carries builtins chunk (.dict fields) ∧ Dict.get "error" fields = some error ∧ truthy error = true

def blank : Json → Bool
  | .null | .notFinite => true
  | .bool _ | .number _ | .text _ | .list _ | .dict _ => false

def CarriesCode (builtins : Builtins) (chunk : Bytes) (code : Json) : Prop :=
  ∃ fields error, carries builtins chunk (.dict fields) ∧ Dict.get "error" fields = some (.dict error) ∧
    Dict.get "code" error = some code

theorem decode_carried (builtins : Builtins) (chunk : Bytes) (document : Json) (carried : carries builtins chunk document) :
    decodeSseLine builtins chunk = decodeDocument builtins document := by
  obtain ⟨data, named, data_, full, read⟩ := carried
  simp only [decodeSseLine, named, if_neg data_, if_neg full, read]

theorem carried_error (builtins : Builtins) (chunk : Bytes) (carried : CarriesError builtins chunk) :
    ∃ failure, decodeSseLine builtins chunk = .error failure := by
  obtain ⟨fields, error, document, named, true_⟩ := carried
  refine ⟨providerError builtins error, ?_⟩
  rw [decode_carried builtins chunk _ document]
  simp only [decodeDocument, named, Option.filter, true_, if_true]

theorem decode_choices_codes (usage : Option Fields) (choices : Option Json) (message : String) (code : Json) :
    decodeChoices usage choices ≠ .error (.stream message code) := by
  intro bad
  unfold decodeChoices at bad
  split at bad
  · cases bad
  · split at bad
    · dsimp only at bad
      split at bad
      · cases bad
      · split at bad <;> cases bad
    · cases bad

-- A failure's code is the one its error object names; -1 stands for no code.
theorem stream_code (builtins : Builtins) (chunk : Bytes) (code : Json) (named : code ≠ .number (-1)) :
    (∃ message, decodeSseLine builtins chunk = .error (.stream message code)) ↔ CarriesCode builtins chunk code := by
  constructor
  · intro ⟨message, failed⟩
    unfold decodeSseLine at failed
    split at failed
    · cases failed
    · rename_i data line
      split at failed
      · cases failed
      · rename_i open_
        split at failed
        · cases failed
        · rename_i full
          split at failed
          · cases failed
          · rename_i document read
            unfold decodeDocument at failed
            split at failed
            · rename_i fields
              split at failed
              · rename_i error present
                obtain ⟨held, _⟩ := Option.filter_eq_some_iff.mp present
                unfold providerError at failed
                split at failed
                · rename_i provider _
                  have same : (Dict.get "code" provider).getD (.number (-1)) = code := by
                    injection failed with failed
                    injection failed
                  refine ⟨fields, provider, ⟨data, line, open_, full, read⟩, held, ?_⟩
                  cases given : Dict.get "code" provider with
                  | none =>
                      rw [given] at same
                      exact absurd same.symm named
                  | some value =>
                      rw [given] at same
                      exact congrArg some same
                · injection failed with failed
                  injection failed with _ same
                  exact absurd same.symm named
              · exact absurd failed (decode_choices_codes _ _ _ _)
            · cases failed
  · intro ⟨fields, error, document, held, given⟩
    have full : truthy (.dict error) = true := by
      cases error with
      | nil => cases given
      | cons entry rest => rfl
    rw [decode_carried builtins chunk _ document]
    simp only [decodeDocument, held, Option.filter, full, if_true, providerError, given, Option.getD_some]
    exact ⟨_, rfl⟩

structure RequestConfig where
  promptLength : Nat
  metadata : Option Fields
  timeoutSeconds : Option Rat

-- A line of response.iter_lines with its time, and whether the watcher had
-- found the stream inactive when the line was taken.
structure Arrival where
  line : Bytes
  receivedAt : Rat
  expired : Bool

-- What the provider and the transport do once requests.post has answered:
-- failure is raised by iter_lines after its lines, closing by response.close().
structure Response where
  headersAt : Rat
  headers : List (String × String)
  status : Nat
  body : Except String String
  arrivals : List Arrival
  failure : Option String
  closing : Option String

-- One request as the client meets it. The three flags are inactivity_expired
-- after the headers, after the stream and while an exception is handled.
structure Exchange where
  startedAt : Rat
  startedUtc : String
  answer : Except String Response
  expiredEarly : Bool
  expiredLate : Bool
  expiredFailing : Bool
  completedAt : Rat
  completedUtc : String

structure Progress where
  generatedText : String
  usage : Fields
  errorMsg : String
  errorResponseCode : Json
  responseHeaders : List (String × String)
  responseHeadersTime : Option Rat
  firstSseTime : Option Rat
  firstTextTime : Option Rat
  lastTextTime : Option Rat
  ttft : Rat
  interChunkLatencies : List Rat

def Progress.start : Progress := ⟨"", [], "", .number (-1), [], none, none, none, none, 0, []⟩

def safeResponseHeaderNames : List String := ["request-id", "server-timing", "trace-id", "x-request-id", "x-trace-id"]

def safeResponseHeaders (headers : List (String × String)) : List (String × String) :=
  (headers.filter fun header => header.1.toLower ∈ safeResponseHeaderNames).map fun header =>
    (header.1.toLower, String.ofList (header.2.toList.take 2048))

def streamIdleTimeout (config : RequestConfig) : Rat :=
  match config.timeoutSeconds with
  | none => 180
  | some seconds => if seconds = 0 then 180 else seconds

def inactivity (builtins : Builtins) (config : RequestConfig) : String :=
  "StreamInactivityTimeout: stream produced no text for " ++ builtins.general (streamIdleTimeout config) ++ " seconds"

def recordText (exchange : Exchange) (arrival : Arrival) (text : String) (progress : Progress) : Progress :=
  let timed := match progress.lastTextTime with
    | none => { progress with firstTextTime := some arrival.receivedAt, ttft := arrival.receivedAt - exchange.startedAt }
    | some last => { progress with interChunkLatencies := progress.interChunkLatencies ++ [arrival.receivedAt - last] }
  { timed with lastTextTime := some arrival.receivedAt, generatedText := progress.generatedText ++ text }

def recordLine (arrival : Arrival) (progress : Progress) : Progress :=
  if arrival.line ≠ [] ∧ progress.firstSseTime = none then { progress with firstSseTime := some arrival.receivedAt } else progress

section Exchanging

variable (builtins : Builtins) (raiseForStatus : Nat → Option String) (config : RequestConfig) (exchange : Exchange)

def readLines (failure : Option String) : List Arrival → Progress → Progress × Option Failure
  | [], progress => (progress, failure.map Failure.other)
  | arrival :: rest, progress =>
      if arrival.expired then (progress, some (.other (inactivity builtins config)))
      else
        let seen := recordLine arrival progress
        match decodeSseLine builtins arrival.line with
        | .error failed => (seen, some failed)
        | .ok .ignore => readLines failure rest seen
        | .ok .done => (seen, none)
        | .ok (.metadata usage) => readLines failure rest { seen with usage := update seen.usage (usage.getD []) }
        | .ok (.text text usage) =>
            readLines failure rest (recordText exchange arrival text { seen with usage := update seen.usage (usage.getD []) })

-- The body of the with statement. raise_for_status speaks of 4xx and 5xx only.
def readResponse (response : Response) : Progress × Option Failure :=
  if exchange.expiredEarly then (Progress.start, some (.other (inactivity builtins config)))
  else
    let opened := { Progress.start with
      responseHeadersTime := some response.headersAt
      responseHeaders := safeResponseHeaders response.headers }
    if response.status = 200 then readLines builtins config exchange response.failure response.arrivals opened
    else
      match response.body with
      | .error report => (opened, some (.other report))
      | .ok body =>
          let refused := { opened with errorMsg := body, errorResponseCode := .number response.status }
          match raiseForStatus response.status with
          | some report => (refused, some (.other report))
          | none => readLines builtins config exchange response.failure response.arrivals refused

def leave (response : Response) (read : Progress × Option Failure) : Progress × Option Failure :=
  match response.closing, read.2 with
  | some report, _ => (read.1, some (.other report))
  | none, some failed => (read.1, some failed)
  | none, none =>
      if exchange.expiredLate then (read.1, some (.other (inactivity builtins config)))
      else if read.1.generatedText = "" then (read.1, some (.other "ValueError: Stream completed without text content"))
      else (read.1, none)

def attempt : Progress × Option Failure :=
  match exchange.answer with
  | .error report => (Progress.start, some (.other report))
  | .ok response => leave builtins config exchange response (readResponse builtins raiseForStatus config exchange response)

def report (outcome : Progress × Option Failure) : String × Json :=
  match outcome.2 with
  | none => ("", .null)
  | some (.stream message code) => (if outcome.1.errorMsg = "" then message else outcome.1.errorMsg, code)
  | some (.other raised) =>
      (if outcome.1.errorMsg ≠ "" then outcome.1.errorMsg
        else if exchange.expiredFailing then inactivity builtins config else raised, outcome.1.errorResponseCode)

def seconds : Option Rat → Json
  | none => .null
  | some value => .number value

def measured (progress : Progress) : Fields :=
  [("ttft_s", .number progress.ttft), ("end_to_end_latency_s", .number (exchange.completedAt - exchange.startedAt)),
    ("request_output_throughput_token_per_s", .null), ("number_total_tokens", .null), ("number_output_tokens", .null),
    ("number_input_tokens", .number config.promptLength), ("local_input_tokens", .number config.promptLength),
    ("request_metadata", .dict (config.metadata.getD [])),
    ("response_headers", .dict (progress.responseHeaders.map fun header => (header.1, .text header.2))),
    ("time_to_response_headers_s", seconds (progress.responseHeadersTime.map (· - exchange.startedAt))),
    ("time_to_first_sse_s", seconds (progress.firstSseTime.map (· - exchange.startedAt))),
    ("inter_sse_chunk_latency_s", .list (progress.interChunkLatencies.map Json.number)),
    ("request_timing", .dict [("client_start_monotonic", .number exchange.startedAt),
      ("response_headers_monotonic", seconds progress.responseHeadersTime),
      ("first_sse_monotonic", seconds progress.firstSseTime), ("first_text_monotonic", seconds progress.firstTextTime),
      ("last_text_monotonic", seconds progress.lastTextTime), ("completed_monotonic", .number exchange.completedAt),
      ("client_start_utc", .text exchange.startedUtc), ("completed_utc", .text exchange.completedUtc)]),
    ("stream_timing_semantics", .dict [("inter_sse_chunk_latency", .text "time_between_text-bearing_sse_events"),
      ("ttft_in_decode_intervals", .bool false), ("timeout", .text "maximum_seconds_without_text-bearing_sse_event")])]

def counted (progress : Progress) (outputTokens : Option Nat) : Fields :=
  match outputTokens with
  | none => []
  | some tokens =>
      let elapsed := exchange.completedAt - exchange.startedAt
      [("number_output_tokens", .number tokens),
        ("request_output_throughput_token_per_s", .number (if 0 < elapsed then tokens / elapsed else 0)),
        ("number_total_tokens", .number (config.promptLength + tokens))] ++
      match progress.firstTextTime with
      | some first => if 1 < tokens then [("tpot_s", .number ((exchange.completedAt - first) / (tokens - 1)))] else []
      | none => []

def usageMetrics (progress : Progress) : Fields :=
  if progress.usage = [] then []
  else
    let normalized := normalizeUsage builtins progress.usage
    normalized.toMetrics ++ counted config exchange progress normalized.providerOutputTokens

structure LLMResponse where
  metrics : Fields
  generatedText : String
  request : RequestConfig

-- OpenAIChatCompletionsClient.llm_request
def llmRequest (baseUrl : Option String) : Except String LLMResponse :=
  if baseUrl.all fun address => address = "" then .error "ValueError: the environment variable OPENAI_API_BASE must be set."
  else
    let outcome := attempt builtins raiseForStatus config exchange
    let reported := report builtins config exchange outcome
    .ok ⟨update [("error_code", reported.2), ("error_msg", .text reported.1)]
      (measured config exchange outcome.1 ++ usageMetrics builtins config exchange outcome.1), outcome.1.generatedText, config⟩

end Exchanging

end LlmperfOrchestrator.Client

import LlmperfOrchestrator.Client.Reading
import LlmperfOrchestrator.Runtime.Completeness

set_option autoImplicit false

namespace LlmperfOrchestrator.Client

open Tables Storage Runs
open Runtime.Progression (Settings Event State runnerRuntime)

def measuredNames : List String :=
  ["ttft_s", "end_to_end_latency_s", "request_output_throughput_token_per_s", "number_total_tokens", "number_output_tokens",
    "number_input_tokens", "local_input_tokens", "request_metadata", "response_headers", "time_to_response_headers_s",
    "time_to_first_sse_s", "inter_sse_chunk_latency_s", "request_timing", "stream_timing_semantics"]

def countedNames : List String :=
  ["number_output_tokens", "request_output_throughput_token_per_s", "number_total_tokens", "tpot_s"]

theorem measured_names (config : RequestConfig) (exchange : Exchange) (progress : Progress) :
    (measured config exchange progress).map Prod.fst = measuredNames := rfl

theorem counted_names (config : RequestConfig) (exchange : Exchange) (progress : Progress) (tokens : Option Nat) :
    ∀ entry ∈ counted config exchange progress tokens, entry.1 ∈ countedNames := by
  intro entry member
  unfold counted at member
  split at member
  · cases member
  · rcases List.mem_append.mp member with known | known
    · simp only [List.mem_cons, List.not_mem_nil, or_false] at known
      obtain rfl | rfl | rfl := known <;> simp [countedNames]
    · split at known
      · split at known
        · simp [List.mem_singleton.mp known, countedNames]
        · cases known
      · cases known

variable (builtins : Builtins)

-- Nothing behind the except clauses writes the error code.
theorem added_names (config : RequestConfig) (exchange : Exchange) (progress : Progress) :
    ∀ entry ∈ measured config exchange progress ++ usageMetrics builtins config exchange progress, entry.1 ≠ "error_code" := by
  have apart : ∀ name ∈ measuredNames ++ usageNames ++ countedNames, name ≠ "error_code" := by decide
  intro entry member
  apply apart
  simp only [List.mem_append]
  rcases List.mem_append.mp member with known | known
  · exact .inl (.inl (measured_names config exchange progress ▸ List.mem_map_of_mem known))
  · unfold usageMetrics at known
    split at known
    · cases known
    · rcases List.mem_append.mp known with usage | tokens
      · exact .inl (.inr (usage_metric_names _ entry usage))
      · exact .inr (counted_names config exchange progress _ entry tokens)

theorem response_code (raiseForStatus : Nat → Option String) (config : RequestConfig) (exchange : Exchange)
    (baseUrl : Option String) (response : LLMResponse)
    (returned : llmRequest builtins raiseForStatus config exchange baseUrl = .ok response) :
    Dict.get "error_code" response.metrics =
      some (report builtins config exchange (attempt builtins raiseForStatus config exchange)).2 := by
  unfold llmRequest at returned
  split at returned
  · cases returned
  · cases returned
    dsimp only
    rw [update_other _ _ _ (added_names builtins config exchange _)]
    rfl

theorem stored_blank (code : Json) : isNone (some (logValue asciiLower code)) = blank code := by
  cases code <;> rfl

theorem null_blank (code : Json) (null : isNone (some code) = true) : blank code = true := by
  cases code with
  | null => rfl
  | bool _ | number _ | notFinite | text _ | list _ | dict _ => cases null

-- metrics_summary counts the requests without an error code, summarize_outcome
-- ends the Runner by their number.
def completedRequests (requests : List Fields) : Nat := requests.countP fun metrics => isNone (Dict.get "error_code" metrics)

def terminalStatus (requests : List Fields) : RunnerStatus := if completedRequests requests = 0 then .failed else .succeeded

def Succeeds (builtins : Builtins) (exchange : Exchange) : Prop :=
  ∃ response, exchange.answer = .ok response ∧ response.status = 200 ∧
    (∀ line ∈ processed builtins (lines response), Clean builtins line) ∧
    concatenated builtins (processed builtins (lines response)) ≠ ""

def Stores (response : LLMResponse) (metrics : Fields) : Prop :=
  Dict.get "error_code" metrics = Dict.get "error_code" (logFields asciiLower response.metrics)

structure ErrorsReported (builtins : Builtins) (exchange : Exchange) (response : LLMResponse) : Prop where
  code : isNone (Dict.get "error_code" response.metrics) = true → Succeeds builtins exchange
  result : ∀ result : WorkerResult, Stores response result.metrics → result.succeeded = true → Succeeds builtins exchange
  steps : ∀ steps createdAt clock timeout window cooldown settings events s,
    runnerRuntime steps createdAt timeout window cooldown = .ok settings →
    run (Runtime.Progression.step settings) (State.initial settings clock) events = some s →
    ∀ id result, Dict.get id s.loop.results = some result → Stores response result.metrics →
    ∀ child ∈ settings.steps, id ∈ child.dependencies → child.stepId ∈ s.submitted → Succeeds builtins exchange
  nodes : ∀ metrics, Stores response metrics → terminalStatus [metrics] = .succeeded → Succeeds builtins exchange

theorem errors_reported (exchange : Exchange) (response : LLMResponse) (code : Json)
    (held : Dict.get "error_code" response.metrics = some code) :
    ErrorsReported builtins exchange response ↔ (blank code = true → Succeeds builtins exchange) := by
  have stored : ∀ metrics, Stores response metrics → Dict.get "error_code" metrics = some (logValue asciiLower code) := by
    intro metrics stores
    rw [stores, log_fields_get, if_neg (by decide +kernel), held]
    rfl
  have result : ∀ result : WorkerResult, Stores response result.metrics → result.succeeded = true → blank code = true := by
    intro result stores won
    rw [WorkerResult.succeeded, stored _ stores, stored_blank] at won
    exact won
  constructor
  · intro reported lost
    refine reported.result ⟨"", logFields asciiLower response.metrics, "", .null, 0⟩ rfl ?_
    rw [WorkerResult.succeeded, stored _ rfl, stored_blank]
    exact lost
  · intro lost
    refine ⟨fun null => ?_, fun answer stores won => lost (result answer stores won), ?_, fun metrics stores ended => ?_⟩
    · rw [held] at null
      exact lost (null_blank code null)
    · intro steps createdAt clock timeout window cooldown settings events s accepted reached id answer found stores child declared needed sent
      obtain ⟨again, same, won⟩ := Runtime.Progression.submitted_dependencies steps createdAt clock timeout window cooldown settings
        events s accepted reached child declared sent id needed
      cases found.symm.trans same
      exact lost (result answer stores won)
    · apply lost
      unfold terminalStatus at ended
      split at ended
      · cases ended
      · rename_i some_
        by_contra kept
        apply some_
        simp only [completedRequests, stored metrics stores, List.countP_cons, List.countP_nil, stored_blank]
        simp [kept]

theorem broken_unclean (arrivals : List Arrival) (code : Json) (named : code ≠ .number (-1))
    (breaks : BreaksWith builtins arrivals code) : ∃ line ∈ processed builtins (arrivals.map Arrival.line), ¬ Clean builtins line := by
  obtain ⟨before, arrival, after, rfl, passed, _, carried⟩ := breaks
  obtain ⟨message, failed⟩ := (stream_code builtins arrival.line code named).mpr carried
  have open_ : ∀ earlier ∈ before, isDone builtins earlier.line = false := by
    intro earlier member
    obtain ⟨_, event, decoded, going⟩ := passed earlier member
    unfold isDone
    rw [decoded]
    cases event with
    | done => exact absurd rfl going
    | ignore | metadata _ | text _ _ => rfl
  have taken : arrival.line ∈ processed builtins ((before ++ arrival :: after).map Arrival.line) := by
    induction before with
    | nil => simp [processed, isDone, failed]
    | cons first rest ih =>
        have later := ih (fun earlier member => passed earlier (List.mem_cons_of_mem _ member))
          fun earlier member => open_ earlier (List.mem_cons_of_mem _ member)
        simp only [processed, List.cons_append, List.map_cons, List.takeWhile_cons, open_ first List.mem_cons_self] at later ⊢
        exact List.mem_cons_of_mem _ later
  refine ⟨arrival.line, taken, fun clean => ?_⟩
  obtain ⟨event, decoded⟩ := clean.decoded
  rw [failed] at decoded
  cases decoded

structure Unambiguous (builtins : Builtins) (raiseForStatus : Nat → Option String) (exchange : Exchange) : Prop where
  coded : ∀ response code, blank code = true → ¬ Breaks builtins raiseForStatus exchange response code
  plain : ∀ response, response.status ≠ 200 → ¬ Completes builtins raiseForStatus exchange response

theorem ends_clean (failure : Option String) (arrivals : List Arrival) (ends : Ends builtins failure arrivals) :
    ∀ line ∈ processed builtins (arrivals.map Arrival.line), Clean builtins line := by
  induction arrivals with
  | nil =>
      intro line member
      cases member
  | cons arrival rest ih =>
      obtain ⟨_, clean, ended⟩ := ends
      intro line member
      simp only [processed, List.map_cons, List.takeWhile_cons] at member
      split at member
      · rename_i open_
        cases List.mem_cons.mp member with
        | inl same => exact same ▸ clean
        | inr later => exact ih (ended.resolve_left (by simpa using open_)) line later
      · cases member

theorem stream_errors_reported (builtins : Builtins) (raiseForStatus : Nat → Option String) (config : RequestConfig)
    (exchange : Exchange) (baseUrl : Option String) (response : LLMResponse)
    (returned : llmRequest builtins raiseForStatus config exchange baseUrl = .ok response) :
    ErrorsReported builtins exchange response ↔ Unambiguous builtins raiseForStatus exchange := by
  have code := report_code builtins raiseForStatus config exchange _ (attempt_attempted builtins raiseForStatus config exchange)
  rw [errors_reported builtins exchange response _ (response_code builtins raiseForStatus config exchange baseUrl response returned),
    code]
  constructor
  · intro succeeds
    constructor
    · intro answer wanted lost breaks
      obtain ⟨other, answered, _, clean, _⟩ := succeeds (.inr ⟨wanted, answer, lost, breaks⟩)
      cases reads_same raiseForStatus exchange other answer answered breaks.1
      have named : wanted ≠ .number (-1) := by
        intro same
        rw [same] at lost
        cases lost
      obtain ⟨line, member, unclean⟩ := broken_unclean builtins answer.arrivals wanted named breaks.2.2
      exact unclean (clean line member)
    · intro answer status completes
      obtain ⟨other, answered, plain, _⟩ := succeeds (.inl ⟨answer, completes⟩)
      cases reads_same raiseForStatus exchange other answer answered completes.1
      exact status plain
  · intro unambiguous cause
    cases cause with
    | inl completes =>
        obtain ⟨answer, completes⟩ := completes
        have plain : answer.status = 200 := by
          by_contra other
          exact unambiguous.plain answer other completes
        exact ⟨answer, completes.1.1, plain, ends_clean builtins answer.failure answer.arrivals completes.2.2.2.1, completes.2.2.2.2⟩
    | inr breaks =>
        obtain ⟨wanted, answer, lost, breaks⟩ := breaks
        exact absurd breaks (unambiguous.coded answer wanted lost)

-- requests raises for the client and the server errors.
def raiseForStatus (status : Nat) : Option String :=
  if 400 ≤ status ∧ status < 500 then some "HTTPError: Client Error"
  else if 500 ≤ status ∧ status < 600 then some "HTTPError: Server Error"
  else none

def overloaded : String := "\x7b\"error\": \x7b\"message\": \"overloaded\", \"code\": null\x7d\x7d"

def greeting : String := "\x7b\"choices\": [\x7b\"delta\": \x7b\"content\": \"hello\"\x7d\x7d]\x7d"

def sampleBuiltins : Builtins where
  loads data :=
    if data = ascii overloaded then
      .ok (.dict [("error", .dict [("message", .text "overloaded"), ("code", .null)])])
    else if data = ascii greeting then
      .ok (.dict [("choices", .list [.dict [("delta", .dict [("content", .text "hello")])]])])
    else .error "JSONDecodeError: Expecting value"
  dumps _ := ""
  str document := document.text?.getD ""
  general _ := "180"

def sampleConfig : RequestConfig := ⟨1, none, none⟩

def sampleExchange (status : Nat) (texts : List String) : Exchange :=
  ⟨0, "", .ok ⟨1, [], status, .ok "", texts.map fun text => ⟨ascii text, 2, false⟩, none, none⟩, false, false, false, 3, ""⟩

-- A null code hides the error of the stream.
theorem null_code_hides_error : ∃ response,
    llmRequest sampleBuiltins raiseForStatus sampleConfig (sampleExchange 200 ["data: " ++ overloaded]) (some "http://provider") =
      .ok response ∧ Dict.get "error_code" response.metrics = some .null ∧
    ¬ Succeeds sampleBuiltins (sampleExchange 200 ["data: " ++ overloaded]) := by
  refine ⟨_, rfl, by decide +kernel, fun ⟨response, answered, _, clean, _⟩ => ?_⟩
  cases answered
  have member : ascii ("data: " ++ overloaded) ∈ processed sampleBuiltins [ascii ("data: " ++ overloaded)] := by decide +kernel
  have failed : decodeSseLine sampleBuiltins (ascii ("data: " ++ overloaded)) = .error (.stream "overloaded" .null) := by decide +kernel
  obtain ⟨event, decoded⟩ := (clean _ member).decoded
  rw [failed] at decoded
  cases decoded

theorem stream_errors_reported_greeting : ∃ response,
    llmRequest sampleBuiltins raiseForStatus sampleConfig (sampleExchange 200 ["data: " ++ greeting, "", "data: [DONE]"])
      (some "http://provider") = .ok response ∧
    (ErrorsReported sampleBuiltins (sampleExchange 200 ["data: " ++ greeting, "", "data: [DONE]"]) response ↔
      Unambiguous sampleBuiltins raiseForStatus (sampleExchange 200 ["data: " ++ greeting, "", "data: [DONE]"])) :=
  ⟨_, rfl, stream_errors_reported sampleBuiltins raiseForStatus sampleConfig
    (sampleExchange 200 ["data: " ++ greeting, "", "data: [DONE]"]) (some "http://provider") _ rfl⟩

end LlmperfOrchestrator.Client

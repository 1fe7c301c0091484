import LlmperfOrchestrator.Runtime.Completeness

set_option autoImplicit false

namespace LlmperfOrchestrator.Runtime.Histories

open Tables Runs Storage Progression Outcomes Cascade

structure RequestConfig where
  model : String
  prompt : String × Int
  samplingParams : Option (Dict String Json)
  llmApi : Option String
  metadata : Option (Dict String Json)
  timeoutSeconds : Option Rat
  preparation : Option Json
  deadlineAt : Option String
deriving DecidableEq

def optionalJson {Value : Type} (json : Value → Json) : Option Value → Json
  | none => .null
  | some value => json value

-- model_dump(mode="json")
def RequestConfig.document (request : RequestConfig) : Json :=
  .dict [("model", .text request.model), ("prompt", .list [.text request.prompt.1, .number request.prompt.2]),
    ("sampling_params", optionalJson .dict request.samplingParams), ("llm_api", optionalJson .text request.llmApi),
    ("metadata", optionalJson .dict request.metadata), ("timeout_seconds", optionalJson .number request.timeoutSeconds),
    ("preparation", optionalJson id request.preparation), ("deadline_at", optionalJson .text request.deadlineAt)]

def RequestConfig.parameters (request : RequestConfig) : Dict String Json := request.samplingParams.getD []

def RequestConfig.context (request : RequestConfig) : Dict String Json := request.metadata.getD []

def userMessage (content : String) : Json := chatMessage "user" (.text content)

def assistantMessage (content : String) : Json := chatMessage "assistant" (.text content)

-- request_messages of WorkerCompletion.messages: the messages that the request
-- carries, else its prompt as one turn.
def carriedMessages (parameters : Dict String Json) (prompt : String) : Except String (List Json) :=
  match Dict.get "messages" parameters with
  | none | some .null => .ok [userMessage prompt]
  | some (.list previous) => if previous.all isDict then .ok previous else .error "Input should be a valid dictionary"
  | some _ => .error "Input should be a valid list"

def RequestConfig.executedMessages (request : RequestConfig) : Except String (List Json) :=
  carriedMessages request.parameters request.prompt.1

def composeHistory (completions : List Json) : Except String (List Json) := do
  let parts ← completions.mapM completionMessages
  .ok parts.flatten

structure PlannedStep where
  step : RequestStep
  request : RequestConfig
deriving DecidableEq

section Request

variable (messagesHash : List Json → String)

def sourceCompletion (results : Dict String WorkerResult) (source : String) : Except String Json :=
  match Dict.get source results with
  | none => .error source
  | some result => .ok result.completion

def withHistory (request : RequestConfig) (history messages : List Json) : RequestConfig :=
  { request with
    samplingParams := some (Dict.put "messages" (.list messages) request.parameters)
    metadata := some (Dict.put "messages_hash" (.text (messagesHash messages))
      (Dict.put "history_version" (.number history.length) request.context)) }

-- WorkflowTaskLogic.request
def logicRequest (planned : PlannedStep) (results : Dict String WorkerResult) : Except String RequestConfig :=
  if planned.step.messageSources = [] then .ok planned.request
  else do
    let completions ← planned.step.messageSources.mapM (sourceCompletion results)
    let history ← composeHistory completions
    let messages := if planned.request.preparation.isSome then history
      else history ++ [userMessage planned.request.prompt.1]
    .ok (withHistory messagesHash planned.request history messages)

structure Rendered where
  prompt : String × Int
  metadata : Dict String Json
  unversioned : Dict.get "history_version" metadata = none

def updated (metadata added : Dict String Json) : Dict String Json :=
  added.foldl (fun metadata entry => Dict.put entry.1 entry.2 metadata) metadata

-- parameters.get("messages", []), unpacked
def unpackedMessages (parameters : Dict String Json) : Except String (List Json) :=
  match Dict.get "messages" parameters with
  | none => .ok []
  | some (.list previous) => .ok previous
  | some _ => .error "Value after * must be an iterable"

-- WorkerInputPreparer.prepare
def prepare (rendered : Rendered) (request : RequestConfig) : Except String RequestConfig :=
  match request.preparation with
  | none => .ok request
  | some _ =>
      let metadata := updated request.context rendered.metadata
      let prepared := { request with
        prompt := rendered.prompt
        samplingParams := some request.parameters
        metadata := some metadata
        preparation := none }
      if isNone (Dict.get "history_version" metadata) then .ok prepared
      else do
        let previous ← unpackedMessages request.parameters
        let messages := previous ++ [userMessage rendered.prompt.1]
        .ok { prepared with
          samplingParams := some (Dict.put "messages" (.list messages) request.parameters)
          metadata := some (Dict.put "messages_hash" (.text (messagesHash messages)) metadata) }

-- The part of the benchmark that worker_steps copies into the one request of an
-- atomic invocation.
structure AtomicTemplate where
  model : String
  adapter : String
  additionalSamplingParams : Dict String Json
  maxTokens : Rat
  taskContext : Dict String Json
  timeoutSeconds : Rat
  meanInputTokens : Int
  recipe : Json

-- worker_steps with the input_messages that start_selected resolved.
def workerRequest (template : AtomicTemplate) (inputMessages : List Json) : RequestConfig :=
  let parameters := if Dict.get "max_tokens" template.additionalSamplingParams = none then
      Dict.put "max_tokens" (.number template.maxTokens) template.additionalSamplingParams
    else template.additionalSamplingParams
  let metadata := Dict.put "input_generation" (.text "worker-index-v1") template.taskContext
  { model := template.model
    prompt := ("", template.meanInputTokens)
    samplingParams := some (if inputMessages = [] then parameters else Dict.put "messages" (.list inputMessages) parameters)
    llmApi := some template.adapter
    metadata := some (if inputMessages = [] then metadata
      else Dict.put "history_version" (.number inputMessages.length) metadata)
    timeoutSeconds := some template.timeoutSeconds
    preparation := some template.recipe
    deadlineAt := none }

end Request

def restored (result : WorkerResult) : WorkerResult :=
  { result with metrics := logFields asciiLower result.metrics, request := logValue asciiLower result.request }

structure HistoryState where
  runner : State
  requests : Dict String RequestConfig
  executed : Dict String RequestConfig

def HistoryState.initial (settings : Settings) (clock : Instant) : HistoryState := ⟨State.initial settings clock, [], []⟩

inductive HistoryEvent where
  | run (event : Event) (deadlineAt : String)
  | execute (stepId : String) (rendered : Rendered)
  | complete (stepId : String) (metrics : List (String × Json)) (generatedText : String) (completedAt : Instant)

-- deadline_at is set where the input is still to be prepared.
def withDeadline (deadlineAt : String) (request : RequestConfig) : RequestConfig :=
  if request.preparation.isSome then { request with deadlineAt := some deadlineAt } else request

section Steps

variable (messagesHash : List Json → String) (planned : List PlannedStep) (settings : Settings)

def plannedStep (stepId : String) : Option PlannedStep := planned.find? fun item => item.step.stepId = stepId

def sendRequest (results : Dict String WorkerResult) (deadlineAt : String) (requests : Dict String RequestConfig)
    (step : RequestStep) : Except String (Dict String RequestConfig) :=
  match plannedStep planned step.stepId with
  | none => .error step.stepId
  | some item => do
      let request ← logicRequest messagesHash item results
      .ok (Dict.put step.stepId (withDeadline deadlineAt request) requests)

def wakeRunner (s : HistoryState) (messages : List Delivered) (submissionDone timerDone beforeDeadline expired : Bool)
    (deadlineAt : String) : Option HistoryState :=
  (step settings s.runner (.wake messages submissionDone timerDone beforeDeadline expired)).bind fun runner =>
    let scan := iterate settings s.runner.loop ⟨messages, submissionDone, timerDone, s.runner.clock, beforeDeadline, expired⟩
    match scan.sent.foldlM (sendRequest messagesHash planned scan.loop.results deadlineAt) s.requests with
    | .ok requests => some { s with runner := runner, requests := requests }
    | .error error => (step settings s.runner (.interrupt error)).map fun runner => { s with runner := runner }

-- The request actor prepares a request once and hands it to the client. Where
-- that fails, the completion is a failure that names the submitted request.
def historyStep (s : HistoryState) : HistoryEvent → Option HistoryState
  | .run (.complete _) _ => none
  | .run (.wake messages submissionDone timerDone beforeDeadline expired) deadlineAt =>
      wakeRunner messagesHash planned settings s messages submissionDone timerDone beforeDeadline expired deadlineAt
  | .run event _ => (step settings s.runner event).map fun runner => { s with runner := runner }
  | .execute stepId rendered =>
      match Dict.get stepId s.requests, Dict.get stepId s.executed with
      | some request, none =>
          match prepare messagesHash rendered request with
          | .ok prepared => some { s with executed := Dict.put stepId prepared s.executed }
          | .error _ => none
      | _, _ => none
  | .complete stepId metrics generatedText completedAt =>
      match Dict.get stepId s.executed, Dict.get stepId s.requests with
      | some request, _ =>
          (step settings s.runner (.complete (restored ⟨stepId, metrics, generatedText, request.document, completedAt⟩))).map
            fun runner => { s with runner := runner }
      | none, some request =>
          let result := restored ⟨stepId, metrics, "", request.document, completedAt⟩
          if result.succeeded then none
          else (step settings s.runner (.complete result)).map fun runner => { s with runner := runner }
      | none, none => none

end Steps

def Chat (message : Json) : Prop := ∃ role content, message = chatMessage role (.text content)

theorem chat_dict (message : Json) (chat : Chat message) : isDict message = true := by
  obtain ⟨role, content, rfl⟩ := chat
  rfl

theorem chat_logged (message : Json) (chat : Chat message) : logValue asciiLower message = message := by
  obtain ⟨role, content, rfl⟩ := chat
  have roles : excluded asciiLower "role" = false := by decide +kernel
  have contents : excluded asciiLower "content" = false := by decide +kernel
  simp [chatMessage, logValue, logFields, roles, contents]

theorem chats_logged (messages : List Json) (chats : ∀ message ∈ messages, Chat message) :
    logItems asciiLower messages = messages := by
  induction messages with
  | nil => rfl
  | cons message rest ih =>
      rw [logItems, chat_logged message (chats message List.mem_cons_self),
        ih fun other member => chats other (List.mem_cons_of_mem message member)]

theorem chats_dicts (messages : List Json) (chats : ∀ message ∈ messages, Chat message) : messages.all isDict = true :=
  List.all_eq_true.mpr fun message member => chat_dict message (chats message member)

structure Clean (request : RequestConfig) (messages : List Json) : Prop where
  chats : ∀ message ∈ messages, Chat message
  executed : request.executedMessages = .ok messages
  carried : Dict.get "messages" request.parameters = none ∨ Dict.get "messages" request.parameters = some (.list messages)

theorem clean_prompt (request : RequestConfig) (plain : Dict.get "messages" request.parameters = none) :
    Clean request [userMessage request.prompt.1] := by
  refine ⟨?_, ?_, .inl plain⟩
  · intro message member
    rw [List.mem_singleton.mp member]
    exact ⟨"user", request.prompt.1, rfl⟩
  · rw [RequestConfig.executedMessages, carriedMessages, plain]

theorem clean_carried (request : RequestConfig) (messages : List Json) (chats : ∀ message ∈ messages, Chat message)
    (carried : Dict.get "messages" request.parameters = some (.list messages)) : Clean request messages := by
  refine ⟨chats, ?_, .inr carried⟩
  rw [RequestConfig.executedMessages, carriedMessages, carried]
  exact if_pos (chats_dicts messages chats)

theorem restored_messages (result : WorkerResult) (request : RequestConfig) (messages : List Json)
    (same : result.request = request.document) (clean : Clean request messages) :
    completionMessages (restored result).completion = .ok (messages ++ [assistantMessage result.generatedText]) := by
  have field (name : String) (kept : excluded asciiLower name = false) :
      (logValue asciiLower request.document).field name = (request.document.field name).map (logValue asciiLower) := by
    change Dict.get name (logFields asciiLower _) = _
    rw [log_fields_get, if_neg (by rw [kept]; decide)]
    rfl
  have parameters := field "sampling_params" (by decide +kernel)
  have prompt := field "prompt" (by decide +kernel)
  have carried : ((logValue asciiLower request.document).field "sampling_params").bind (Json.field "messages") =
      (Dict.get "messages" request.parameters).map (logValue asciiLower) := by
    rw [parameters]
    change (Option.map (logValue asciiLower) (some (optionalJson Json.dict request.samplingParams))).bind (Json.field "messages") =
      (Dict.get "messages" (request.samplingParams.getD [])).map (logValue asciiLower)
    cases request.samplingParams with
    | none => rfl
    | some fields => exact (log_fields_get asciiLower fields "messages").trans (if_neg (by decide +kernel))
  have read : (restored result).completion.field "request" = some (logValue asciiLower request.document) := by
    rw [← same]
    rfl
  have answer : (restored result).completion.field "generated_text" = some (.text result.generatedText) := rfl
  simp only [completionMessages, read, answer, Option.getD_some, carried]
  cases clean.carried with
  | inl none_ =>
      have executed := clean.executed
      rw [RequestConfig.executedMessages, carriedMessages, none_] at executed
      cases executed
      rw [none_, prompt]
      rfl
  | inr some_ =>
      rw [some_]
      change (if (logItems asciiLower messages).all isDict then _ else _) = _
      rw [chats_logged messages clean.chats, if_pos (chats_dicts messages clean.chats)]
      rfl

section Preparation

variable (messagesHash : List Json → String)

theorem updated_get (metadata added : Dict String Json) (name : String) (absent : Dict.get name added = none) :
    Dict.get name (updated metadata added) = Dict.get name metadata := by
  induction added generalizing metadata with
  | nil => rfl
  | cons entry rest ih =>
      obtain ⟨key, value⟩ := entry
      rw [Dict.get] at absent
      by_cases same : key = name
      · rw [if_pos same] at absent
        cases absent
      · rw [if_neg same] at absent
        change Dict.get name (updated (Dict.put key value metadata) rest) = _
        rw [ih _ absent, dict_get_put, if_neg (Ne.symm same)]

theorem prepare_own (rendered : Rendered) (request prepared : RequestConfig)
    (done : prepare messagesHash rendered request = .ok prepared)
    (own : request.preparation = none ∨ isNone (Dict.get "history_version" request.context) = true) :
    prepared.parameters = request.parameters := by
  rw [prepare] at done
  cases recipe : request.preparation with
  | none =>
      rw [recipe] at done
      cases done
      rfl
  | some value =>
      rw [recipe] at done
      have unversioned := own.resolve_left (by rw [recipe]; simp)
      rw [← updated_get request.context rendered.metadata _ rendered.unversioned] at unversioned
      simp only [unversioned, if_true] at done
      cases done
      rfl

-- The prompt closes the history, whichever stage renders it.
theorem prepare_history (rendered : Rendered) (request prepared : RequestConfig) (history : List Json)
    (done : prepare messagesHash rendered request = .ok prepared) (recipe : request.preparation.isSome = true)
    (carried : Dict.get "messages" request.parameters = some (.list history))
    (versioned : isNone (Dict.get "history_version" request.context) = false) :
    Dict.get "messages" prepared.parameters = some (.list (history ++ [userMessage prepared.prompt.1])) := by
  obtain ⟨value, given⟩ := Option.isSome_iff_exists.mp recipe
  rw [← updated_get request.context rendered.metadata _ rendered.unversioned] at versioned
  simp only [prepare, given, versioned, unpackedMessages, carried] at done
  cases done
  simp [RequestConfig.parameters, dict_get_put]

theorem deadline_kept (deadlineAt : String) (request : RequestConfig) :
    (withDeadline deadlineAt request).parameters = request.parameters ∧
      (withDeadline deadlineAt request).context = request.context ∧
      (withDeadline deadlineAt request).preparation = request.preparation ∧
      (withDeadline deadlineAt request).prompt = request.prompt := by
  rw [withDeadline]
  by_cases recipe : request.preparation.isSome = true
  · rw [if_pos recipe]
    exact ⟨rfl, rfl, rfl, rfl⟩
  · rw [if_neg recipe]
    exact ⟨rfl, rfl, rfl, rfl⟩

theorem reuse_composes (item : PlannedStep) (results : Dict String WorkerResult) (completions history : List Json)
    (sent prepared : RequestConfig) (rendered : Rendered) (deadlineAt : String)
    (reuses : item.step.messageSources ≠ []) (chats : ∀ message ∈ history, Chat message)
    (sources : item.step.messageSources.mapM (sourceCompletion results) = .ok completions)
    (composed : composeHistory completions = .ok history)
    (built : logicRequest messagesHash item results = .ok sent)
    (done : prepare messagesHash rendered (withDeadline deadlineAt sent) = .ok prepared) :
    Clean prepared (history ++ [userMessage prepared.prompt.1]) := by
  have turns : ∀ message ∈ history ++ [userMessage prepared.prompt.1], Chat message := by
    intro message member
    cases List.mem_append.mp member with
    | inl old => exact chats message old
    | inr own =>
        rw [List.mem_singleton.mp own]
        exact ⟨"user", prepared.prompt.1, rfl⟩
  apply clean_carried prepared _ turns
  rw [logicRequest, if_neg reuses, sources] at built
  simp only [bind, Except.bind, composed] at built
  obtain ⟨parameters, context, preparation, prompt⟩ := deadline_kept deadlineAt sent
  cases recipe : item.request.preparation with
  | none =>
      rw [recipe] at built
      cases built
      have ready : (withDeadline deadlineAt (withHistory messagesHash item.request history
          (history ++ [userMessage item.request.prompt.1]))).preparation = none := preparation.trans recipe
      rw [prepare] at done
      simp only [Option.isSome_none, Bool.false_eq_true, if_false, ready] at done parameters prompt
      cases done
      rw [parameters, prompt]
      simp [withHistory, RequestConfig.parameters, dict_get_put]
  | some value =>
      rw [recipe] at built
      cases built
      apply prepare_history messagesHash rendered _ prepared history done
      · rw [preparation]
        simp [withHistory, recipe]
      · rw [parameters]
        simp [withHistory, RequestConfig.parameters, dict_get_put]
      · rw [context]
        simp [withHistory, RequestConfig.context, dict_get_put, isNone]

end Preparation

end LlmperfOrchestrator.Runtime.Histories

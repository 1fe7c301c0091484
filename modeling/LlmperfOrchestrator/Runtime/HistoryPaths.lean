import LlmperfOrchestrator.Runtime.MessageLineage
import LlmperfOrchestrator.Storage.Lifecycle

set_option autoImplicit false

namespace LlmperfOrchestrator.Runtime.Histories

open Tables Runs Storage Outcomes Progression

theorem completion_turns (completion : Json) (messages : List Json) (read : completionMessages completion = .ok messages) :
    messages ≠ [] ∧ messages.all isDict = true := by
  rw [completionMessages] at read
  split at read
  · split at read
    · cases read
      exact ⟨by simp, rfl⟩
    · cases read
  · split at read
    · cases read
      exact ⟨by simp, rfl⟩
    · cases read
  · rename_i previous _
    by_cases dicts : previous.all isDict = true
    · rw [if_pos dicts] at read
      cases read
      exact ⟨by simp, by rw [List.all_append, dicts]; rfl⟩
    · rw [if_neg dicts] at read
      cases read
  · cases read

theorem history_parts (completions history : List Json) (composed : composeHistory completions = .ok history) :
    ∃ parts, List.Forall₂ (fun completion part => completionMessages completion = .ok part) completions parts ∧
      history = parts.flatten := by
  obtain ⟨parts, read, same⟩ := (bind_ok _ _ _).mp composed
  cases same
  exact ⟨parts, mapM_pairs completionMessages completions parts read, rfl⟩

theorem history_dicts (completions history : List Json) (composed : composeHistory completions = .ok history) :
    history.all isDict = true := by
  obtain ⟨parts, each, rfl⟩ := history_parts completions history composed
  clear composed
  induction each with
  | nil => rfl
  | cons here _ ih =>
      rw [List.flatten_cons, List.all_append, ih, (completion_turns _ _ here).2]
      rfl

theorem history_some (completions history : List Json) (composed : composeHistory completions = .ok history)
    (some_ : completions ≠ []) : history ≠ [] := by
  obtain ⟨parts, each, rfl⟩ := history_parts completions history composed
  cases each with
  | nil => exact absurd rfl some_
  | cons here _ =>
      intro none_
      rw [List.flatten_cons] at none_
      exact (completion_turns _ _ here).1 (List.append_eq_nil_iff.mp none_).1

section Paths

variable (messagesHash : List Json → String)

def sentMessages (rendered : Rendered) (deadlineAt : String) (request : RequestConfig) : Except String (List Json) := do
  let prepared ← prepare messagesHash rendered (withDeadline deadlineAt request)
  prepared.executedMessages

def logicMessages (item : PlannedStep) (results : Dict String WorkerResult) (rendered : Rendered) (deadlineAt : String) :
    Except String (List Json) := do
  let request ← logicRequest messagesHash item results
  sentMessages messagesHash rendered deadlineAt request

theorem carried_history (request : RequestConfig) (history : List Json) (dicts : history.all isDict = true)
    (carried : Dict.get "messages" request.parameters = some (.list history)) :
    request.executedMessages = .ok history := by
  rw [RequestConfig.executedMessages, carriedMessages, carried]
  exact if_pos dicts

theorem versioned_path (rendered : Rendered) (deadlineAt : String) (request : RequestConfig) (history : List Json)
    (dicts : history.all isDict = true) (recipe : request.preparation.isSome = true)
    (carried : Dict.get "messages" request.parameters = some (.list history))
    (versioned : isNone (Dict.get "history_version" request.context) = false) :
    sentMessages messagesHash rendered deadlineAt request = .ok (history ++ [userMessage rendered.prompt.1]) := by
  obtain ⟨parameters, context, preparation, _⟩ := deadline_kept deadlineAt request
  obtain ⟨value, given⟩ := Option.isSome_iff_exists.mp recipe
  have closed : (history ++ [userMessage rendered.prompt.1]).all isDict = true := by
    rw [List.all_append, dicts]
    rfl
  rw [← updated_get request.context rendered.metadata _ rendered.unversioned] at versioned
  rw [sentMessages, prepare, preparation, given]
  simp only [parameters, context, versioned, unpackedMessages, carried]
  apply carried_history _ _ closed
  simp [RequestConfig.parameters, dict_get_put]

theorem ready_path (item : PlannedStep) (results : Dict String WorkerResult) (completions history : List Json)
    (rendered : Rendered) (deadlineAt : String) (reuses : item.step.messageSources ≠ [])
    (sources : item.step.messageSources.mapM (sourceCompletion results) = .ok completions)
    (composed : composeHistory completions = .ok history) (ready : item.request.preparation = none) :
    logicMessages messagesHash item results rendered deadlineAt = .ok (history ++ [userMessage item.request.prompt.1]) := by
  have closed : (history ++ [userMessage item.request.prompt.1]).all isDict = true := by
    rw [List.all_append, history_dicts completions history composed]
    rfl
  rw [logicMessages, logicRequest, if_neg reuses, sources]
  simp only [bind, Except.bind, composed, ready]
  obtain ⟨parameters, _, preparation, _⟩ := deadline_kept deadlineAt
    (withHistory messagesHash item.request history (history ++ [userMessage item.request.prompt.1]))
  simp only [Option.isSome_none, Bool.false_eq_true, if_false]
  rw [sentMessages, prepare, preparation.trans ready]
  apply carried_history _ _ closed
  rw [parameters]
  simp [withHistory, RequestConfig.parameters, dict_get_put]

theorem recipe_path (item : PlannedStep) (results : Dict String WorkerResult) (completions history : List Json)
    (rendered : Rendered) (deadlineAt : String) (reuses : item.step.messageSources ≠ [])
    (sources : item.step.messageSources.mapM (sourceCompletion results) = .ok completions)
    (composed : composeHistory completions = .ok history) (recipe : item.request.preparation.isSome = true) :
    logicMessages messagesHash item results rendered deadlineAt = .ok (history ++ [userMessage rendered.prompt.1]) := by
  rw [logicMessages, logicRequest, if_neg reuses, sources]
  simp only [bind, Except.bind, composed, if_pos recipe]
  apply versioned_path messagesHash rendered deadlineAt _ history (history_dicts completions history composed)
  · exact recipe
  · simp [withHistory, RequestConfig.parameters, dict_get_put]
  · simp [withHistory, RequestConfig.context, dict_get_put, isNone]

theorem worker_path (template : AtomicTemplate) (completions history : List Json) (rendered : Rendered) (deadlineAt : String)
    (some_ : completions ≠ []) (composed : composeHistory completions = .ok history) :
    sentMessages messagesHash rendered deadlineAt (workerRequest template history) =
      .ok (history ++ [userMessage rendered.prompt.1]) := by
  have carries := history_some completions history composed some_
  apply versioned_path messagesHash rendered deadlineAt _ history (history_dicts completions history composed)
  · rfl
  · simp [workerRequest, RequestConfig.parameters, carries, dict_get_put]
  · simp [workerRequest, RequestConfig.context, carries, dict_get_put, isNone]

structure SamePaths (completions : List Json) (messages : String → List Json) : Prop where
  ready : ∀ item results rendered deadlineAt, item.step.messageSources ≠ [] → item.request.preparation = none →
    item.step.messageSources.mapM (sourceCompletion results) = .ok completions →
    logicMessages messagesHash item results rendered deadlineAt = .ok (messages item.request.prompt.1)
  rendered : ∀ item results rendered deadlineAt, item.step.messageSources ≠ [] → item.request.preparation.isSome = true →
    item.step.messageSources.mapM (sourceCompletion results) = .ok completions →
    logicMessages messagesHash item results rendered deadlineAt = .ok (messages rendered.prompt.1)
  crossNode : ∀ template history rendered deadlineAt, composeHistory completions = .ok history →
    sentMessages messagesHash rendered deadlineAt (workerRequest template history) = .ok (messages rendered.prompt.1)

theorem same_paths (completions history : List Json) (some_ : completions ≠ [])
    (composed : composeHistory completions = .ok history) :
    SamePaths messagesHash completions fun prompt => history ++ [userMessage prompt] := by
  refine ⟨?_, ?_, ?_⟩
  · intro item results rendered deadlineAt reuses ready sources
    exact ready_path messagesHash item results completions history rendered deadlineAt reuses sources composed ready
  · intro item results rendered deadlineAt reuses recipe sources
    exact recipe_path messagesHash item results completions history rendered deadlineAt reuses sources composed recipe
  · intro template other rendered deadlineAt again
    cases composed.symm.trans again
    exact worker_path messagesHash template completions history rendered deadlineAt some_ composed

end Paths

section Selection

variable {Digest : Type} [DecidableEq Digest]

inductive CommittedSource (store : Store Digest) (context : TaskContext) (source : String) (completion : Json) : Prop where
  | read (key : DispatchId) (node : ExecutionNode) (runner : RunnerId) (position : MessageId) (message : Storage.Message Digest)
      (worker : WorkerId) (log : LogKey Digest)
      (node_ : store.nodes.filter (fun _ node => node.taskInstance = context.instanceId ∧ node.nodeId = source) = [(key, node)])
      (emitted : node.runner = some runner)
      (message_ : store.messages.filter (fun _ message =>
        message.runner = runner ∧ message.topic = "worker.completed" ∧ message.source = some "0") = [(position, message)])
      (payload : message.payload = .completion worker log)
      (document : Dict.get log store.logs = some completion)
      (succeeded : isNone ((completion.field "metrics").bind (Json.field "error_code")) = true)

theorem one_read {Row : Type} (rows : List Row) (row : Row) (found : oneOrNone rows = .ok (some row)) : rows = [row] := by
  match rows, found with
  | [only], found =>
      cases found
      rfl

theorem reused_committed (store : Store Digest) (context : TaskContext) (source : String) (messages : List Json)
    (reused : reusedMessages store context source = .ok messages) :
    ∃ completion, CommittedSource store context source completion ∧ completionMessages completion = .ok messages := by
  rw [reusedMessages] at reused
  obtain ⟨node, foundNode, reused⟩ := (bind_ok _ _ _).mp reused
  cases node with
  | none => cases reused
  | some entry =>
      obtain ⟨key, node⟩ := entry
      dsimp only at reused
      cases emitted : node.runner with
      | none =>
          rw [emitted] at reused
          cases reused
      | some runner =>
          rw [emitted] at reused
          obtain ⟨message, foundMessage, reused⟩ := (bind_ok _ _ _).mp reused
          cases message with
          | none => cases reused
          | some entry =>
              obtain ⟨position, message⟩ := entry
              dsimp only at reused
              cases payload : message.payload with
              | document value =>
                  rw [payload] at reused
                  cases reused
              | completion worker log =>
                  rw [payload] at reused
                  dsimp only at reused
                  split at reused
                  · cases reused
                  · cases document : Dict.get log store.logs with
                    | none =>
                        rw [document] at reused
                        cases reused
                    | some completion =>
                        rw [document] at reused
                        dsimp only at reused
                        split at reused
                        · cases reused
                        · by_cases succeeded : isNone ((completion.field "metrics").bind (Json.field "error_code")) = true
                          · rw [if_pos succeeded] at reused
                            exact ⟨completion, .read key node runner position message worker log (one_read _ _ foundNode) emitted
                              (one_read _ _ foundMessage) payload document succeeded, reused⟩
                          · rw [if_neg succeeded] at reused
                            cases reused

theorem reused_sources (store : Store Digest) (context : TaskContext) (sources : List String) (parts : List (List Json))
    (read : List.Forall₂ (fun source part => reusedMessages store context source = .ok part) sources parts) :
    ∃ completions, List.Forall₂ (CommittedSource store context) sources completions ∧
      List.Forall₂ (fun completion part => completionMessages completion = .ok part) completions parts := by
  induction read with
  | nil => exact ⟨[], .nil, .nil⟩
  | cons here _ ih =>
      obtain ⟨completion, committed, turns⟩ := reused_committed store context _ _ here
      obtain ⟨completions, others, rest⟩ := ih
      exact ⟨completion :: completions, .cons committed others, .cons turns rest⟩

theorem selected_history (store next : Store Digest) (caller : Caller) (runner started : RunnerId) (owner : String)
    (messages : List Json) (done : startSelected store caller runner owner = .ok (next, some ⟨started, some messages⟩)) :
    ∃ record context completions, store.runners.get runner = some record ∧ record.template.taskContext = some context ∧
      context.messageSources ≠ [] ∧ List.Forall₂ (CommittedSource next context) context.messageSources completions ∧
      composeHistory completions = .ok messages := by
  rw [startSelected] at done
  obtain ⟨_, _, opened⟩ := (bind_ok _ _ _).mp done
  cases found : (store.runners.get runner).filter fun record => record.status = .queued ∧ record.cancelRequested = false with
  | none =>
      simp only [found] at opened
      cases opened
  | some record =>
      obtain ⟨read, _⟩ := Option.filter_eq_some_iff.mp found
      simp only [found] at opened
      cases named : record.template.taskContext with
      | none =>
          simp only [named] at opened
          cases opened
      | some context =>
          simp only [named] at opened
          split at opened
          · cases opened
          · by_cases alone : context.messageSources = []
            · rw [if_pos alone] at opened
              cases opened
            · rw [if_neg alone] at opened
              obtain ⟨reused, each, final⟩ := (bind_ok _ _ _).mp opened
              cases final
              obtain ⟨completions, committed, turns⟩ := reused_sources _ context _ _ (mapM_pairs _ _ _ each)
              exact ⟨record, context, completions, read, named, alone, committed, compose_all completions reused turns⟩

end Selection

section Contract

variable {messagesHash : List Json → String} {planned : List PlannedStep} {settings : Settings}

theorem initial_history (settings : Settings) (clock : Instant) (unique : (settings.steps.map RequestStep.stepId).Nodup) :
    HistoryInvariant messagesHash planned settings (HistoryState.initial settings clock) :=
  ⟨initial_submissions settings clock unique, (fun _ _ none_ => by cases none_), (fun _ _ none_ => by cases none_),
    (fun _ _ none_ => by cases none_), fun _ none_ => by cases none_⟩

end Contract

theorem message_composition {Digest : Type} [DecidableEq Digest] (messagesHash : List Json → String)
    (planned : List PlannedStep) (createdAt clock : Instant) (timeout : Rat) (maxOutstandingWorkers : Option Int)
    (cooldown : Option Nat) (settings : Settings) (events : List HistoryEvent) (s : HistoryState)
    (accepted : runnerRuntime (planned.map PlannedStep.step) createdAt timeout maxOutstandingWorkers cooldown = .ok settings)
    (apart : MessagesApart planned)
    (reached : run (historyStep messagesHash planned settings) (HistoryState.initial settings clock) events = some s) :
    (∀ item ∈ planned, ∀ prepared, Dict.get item.step.stepId s.executed = some prepared → Composed planned s item prepared) ∧
    (∀ completions history, completions ≠ [] → composeHistory completions = .ok history →
      SamePaths messagesHash completions fun prompt => history ++ [userMessage prompt]) ∧
    (∀ (store next : Store Digest) caller runner started owner messages,
      startSelected store caller runner owner = .ok (next, some ⟨started, some messages⟩) →
      ∃ record context completions, store.runners.get runner = some record ∧ record.template.taskContext = some context ∧
        context.messageSources ≠ [] ∧ List.Forall₂ (CommittedSource next context) context.messageSources completions ∧
        composeHistory completions = .ok messages) := by
  obtain ⟨steps, unique, checked, _⟩ := runtime_settings _ createdAt timeout maxOutstandingWorkers cooldown settings accepted
  have logic : workflowTaskLogic settings.steps = .ok () := by
    rw [workflowTaskLogic, steps, if_neg (not_not.mpr unique)]
    exact checked
  have graph := accepted_graph planned settings steps logic
  have inv := run_invariant (historyStep messagesHash planned settings) (HistoryInvariant messagesHash planned settings)
    (history_step graph) events (HistoryState.initial settings clock) s (initial_history settings clock graph.unique) reached
  refine ⟨?_, same_paths messagesHash, selected_history⟩
  intro item member prepared found
  exact history_composed graph apart s inv item member prepared found

def plainRequest (prompt : String) (preparation : Option Json) : RequestConfig :=
  ⟨"model", (prompt, 1), none, none, none, none, preparation, none⟩

def questions : List PlannedStep :=
  [⟨⟨"a", [], [], 0, none, none⟩, plainRequest "question" none⟩,
    ⟨⟨"b", ["a"], ["a"], 0, none, none⟩, plainRequest "" (some .null)⟩]

def questionSettings : Settings := ⟨questions.map PlannedStep.step, 0, none, none⟩

def firstAnswer : WorkerResult := restored ⟨"a", [], "answer", (plainRequest "question" none).document, 5⟩

def questionEvents : List HistoryEvent :=
  [.run (.wake [] false false true false) "60", .execute "a" ⟨("", 0), [], rfl⟩, .complete "a" [] "answer" 5,
    .run (.tick 6) "60", .run (.wake [.completed firstAnswer] true false true false) "60",
    .execute "b" ⟨("follow-up", 2), [], rfl⟩]

theorem questions_apart : MessagesApart questions := by
  intro _ item member
  cases List.mem_cons.mp member with
  | inl same =>
      rw [same]
      exact ⟨rfl, rfl⟩
  | inr later =>
      rw [List.mem_singleton.mp later]
      exact ⟨rfl, rfl⟩

theorem message_composition_followed : ∃ s item prepared,
    run (historyStep (fun _ => "sha256") questions questionSettings) (HistoryState.initial questionSettings 0) questionEvents =
      some s ∧ Dict.get "b" s.executed = some prepared ∧ Composed questions s item prepared ∧
    prepared.executedMessages = .ok [userMessage "question", assistantMessage "answer", userMessage "follow-up"] := by
  refine ⟨_, questions[1], _, rfl, rfl, ?_, rfl⟩
  exact (@message_composition String _ (fun _ => "sha256") questions 0 0 60 none none questionSettings questionEvents _ rfl
    questions_apart rfl).1 questions[1] (by decide) _ rfl

end LlmperfOrchestrator.Runtime.Histories

import LlmperfOrchestrator.Runtime.MessageHistory

set_option autoImplicit false

namespace LlmperfOrchestrator.Runtime.Histories

open Tables Runs Storage Outcomes Cascade Progression

theorem check_sources (steps : List RequestStep) (visited : List String) (checked : checkSteps steps visited = .ok ()) :
    Topological RequestStep.stepId RequestStep.messageSources steps visited ∧
      ∀ step ∈ steps, ∀ source ∈ step.messageSources, source ∈ step.dependencies := by
  induction steps generalizing visited with
  | nil => exact ⟨trivial, fun _ member => (by cases member)⟩
  | cons step rest ih =>
      rw [checkSteps] at checked
      by_cases late : step.stepId = "" ∨ ¬ ∀ parent ∈ step.dependencies, parent ∈ visited
      · rw [if_pos late] at checked
        cases checked
      rw [if_neg late] at checked
      by_cases apart : ∀ source ∈ step.messageSources, source ∈ step.dependencies
      · rw [if_neg (not_not.mpr apart)] at checked
        obtain ⟨ordered, sources⟩ := ih (step.stepId :: visited) checked
        have earlier := not_not.mp (not_or.mp late).2
        refine ⟨⟨fun source member => earlier source (apart source member), ordered⟩, ?_⟩
        intro other member
        cases List.mem_cons.mp member with
        | inl same => exact same ▸ apart
        | inr later => exact sources other later
      · rw [if_pos apart] at checked
        cases checked

structure Graph (planned : List PlannedStep) (settings : Settings) : Prop where
  steps : settings.steps = planned.map PlannedStep.step
  unique : (settings.steps.map RequestStep.stepId).Nodup
  ordered : Topological RequestStep.stepId RequestStep.messageSources settings.steps []
  sources : ∀ step ∈ settings.steps, ∀ source ∈ step.messageSources, source ∈ step.dependencies

theorem accepted_graph (planned : List PlannedStep) (settings : Settings) (steps : settings.steps = planned.map PlannedStep.step)
    (accepted : workflowTaskLogic settings.steps = .ok ()) : Graph planned settings := by
  rw [workflowTaskLogic] at accepted
  by_cases unique : (settings.steps.map RequestStep.stepId).Nodup
  · rw [if_neg (not_not.mpr unique)] at accepted
    obtain ⟨ordered, sources⟩ := check_sources settings.steps [] accepted
    exact ⟨steps, unique, ordered, sources⟩
  · rw [if_pos unique] at accepted
    cases accepted

section Runs

variable {messagesHash : List Json → String} {planned : List PlannedStep} {settings : Settings}

theorem planned_step (graph : Graph planned settings) (item : PlannedStep) (member : item ∈ planned) :
    plannedStep planned item.step.stepId = some item := by
  have unique := graph.unique
  rw [graph.steps, List.map_map] at unique
  clear graph
  induction planned with
  | nil => cases member
  | cons head rest ih =>
      rw [List.map_cons, List.nodup_cons] at unique
      rw [plannedStep, List.find?_cons]
      cases List.mem_cons.mp member with
      | inl same =>
          subst same
          simp
      | inr later =>
          have other : head.step.stepId ≠ item.step.stepId := by
            intro same
            exact unique.1 (List.mem_map.mpr ⟨item, later, same.symm⟩)
          simp only [decide_eq_false other]
          exact ih later unique.2

theorem logic_request_same (item : PlannedStep) (before after : Dict String WorkerResult)
    (same : ∀ source ∈ item.step.messageSources, Dict.get source after = Dict.get source before) :
    logicRequest messagesHash item after = logicRequest messagesHash item before := by
  rw [logicRequest, logicRequest]
  have sources : item.step.messageSources.mapM (sourceCompletion after) = item.step.messageSources.mapM (sourceCompletion before) := by
    apply mapM_same
    intro source member
    rw [sourceCompletion, sourceCompletion, same source member]
  rw [sources]

variable (messagesHash planned settings)

-- A submitted request was built from results that are still there; what is
-- executed was prepared from it; a success came from an execution.
structure HistoryInvariant (s : HistoryState) : Prop where
  base : SubmissionInvariant settings s.runner
  submitted : ∀ id request, Dict.get id s.requests = some request → id ∈ s.runner.submitted
  sent : ∀ id request, Dict.get id s.requests = some request → ∃ item, plannedStep planned id = some item ∧
    (∀ source ∈ item.step.messageSources, ∃ result,
      Dict.get source s.runner.loop.results = some result ∧ result.succeeded = true) ∧
    ∃ deadlineAt built, logicRequest messagesHash item s.runner.loop.results = .ok built ∧ request = withDeadline deadlineAt built
  executed : ∀ id prepared, Dict.get id s.executed = some prepared → ∃ request rendered,
    Dict.get id s.requests = some request ∧ prepare messagesHash rendered request = .ok prepared
  posted : ∀ result, Delivered.completed result ∈ s.runner.posted → result.succeeded = true → ∃ prepared original,
    Dict.get result.stepId s.executed = some prepared ∧ original.request = prepared.document ∧ result = restored original

structure Continues (before after : State) : Prop where
  results : ∀ id result, Dict.get id before.loop.results = some result → Dict.get id after.loop.results = some result
  posted : ∀ result, Delivered.completed result ∈ after.posted → Delivered.completed result ∈ before.posted
  submitted : ∀ id ∈ before.submitted, id ∈ after.submitted

variable {messagesHash planned settings}

theorem step_continues (before after : State) (event : Event) (inv : SubmissionInvariant settings before)
    (taken : step settings before event = some after) (other : ∀ result, event ≠ .complete result) :
    Continues before after := by
  cases event with
  | complete result => exact absurd rfl (other result)
  | tick later =>
      simp only [step] at taken
      split at taken <;> cases taken
      exact ⟨fun _ _ found => found, fun _ listed => listed, fun _ held => held⟩
  | fire =>
      cases taken
      refine ⟨fun _ _ found => found, fun result listed => ?_, fun _ held => held⟩
      cases List.mem_append.mp listed with
      | inl old => exact old
      | inr fresh => cases List.mem_singleton.mp fresh
  | interrupt error =>
      cases taken
      exact ⟨fun _ _ found => found, fun _ listed => listed, fun _ held => held⟩
  | wake messages submissionDone timerDone beforeDeadline expired =>
      simp only [step] at taken
      split at taken <;> cases taken
      rename_i allowed
      have iterated := iterate_keeps settings before ⟨messages, submissionDone, timerDone, before.clock, beforeDeadline, expired⟩
        inv allowed.1 allowed.2.1
      refine ⟨iterated.keeps.results, fun result listed => ?_, fun _ held => List.mem_append_right _ held⟩
      cases List.mem_append.mp listed with
      | inl old => exact old
      | inr fresh =>
          obtain ⟨cancellation, _, same⟩ := List.mem_map.mp fresh
          cases same

theorem invariant_continues (s : HistoryState) (runner : State) (inv : HistoryInvariant messagesHash planned settings s)
    (base : SubmissionInvariant settings runner) (continues : Continues s.runner runner) :
    HistoryInvariant messagesHash planned settings { s with runner := runner } := by
  refine ⟨base, fun id request found => continues.submitted id (inv.submitted id request found), ?_, inv.executed,
    fun result listed => inv.posted result (continues.posted result listed)⟩
  intro id request found
  obtain ⟨item, named, sources, deadlineAt, built, requested, same⟩ := inv.sent id request found
  refine ⟨item, named, ?_, deadlineAt, built, ?_, same⟩
  · intro source member
    obtain ⟨result, held, won⟩ := sources source member
    exact ⟨result, continues.results source result held, won⟩
  · rw [← requested]
    apply logic_request_same
    intro source member
    obtain ⟨result, held, _⟩ := sources source member
    rw [held]
    exact continues.results source result held

theorem wake_runner_keeps (graph : Graph planned settings) (s next : HistoryState)
    (messages : List Delivered) (submissionDone timerDone beforeDeadline expired : Bool) (deadlineAt : String)
    (inv : HistoryInvariant messagesHash planned settings s)
    (taken : wakeRunner messagesHash planned settings s messages submissionDone timerDone beforeDeadline expired deadlineAt =
      some next) : HistoryInvariant messagesHash planned settings next := by
  obtain ⟨runner, waked, taken⟩ := Option.bind_eq_some_iff.mp taken
  have base := submission_step settings s.runner _ runner inv.base waked
  have continues := step_continues s.runner runner _ inv.base waked (by intro result same; cases same)
  have carried := invariant_continues s runner inv base continues
  simp only [step] at waked
  split at waked <;> cases waked
  rename_i allowed
  have iterated := iterate_keeps settings s.runner ⟨messages, submissionDone, timerDone, s.runner.clock, beforeDeadline, expired⟩
    inv.base allowed.1 allowed.2.1
  dsimp only at taken
  generalize scanned : iterate settings s.runner.loop
    ⟨messages, submissionDone, timerDone, s.runner.clock, beforeDeadline, expired⟩ = scan at taken iterated
  cases sent : scan.sent.foldlM (sendRequest messagesHash planned scan.loop.results deadlineAt) s.requests with
  | error error =>
      rw [sent] at taken
      obtain ⟨stopped, interrupted, rfl⟩ := Option.map_eq_some_iff.mp taken
      exact invariant_continues s stopped inv (submission_step settings s.runner _ stopped inv.base interrupted)
        (step_continues s.runner stopped _ inv.base interrupted (by intro result same; cases same))
  | ok requests =>
      rw [sent] at taken
      cases taken
      cases iterated.sent with
      | inl none_ =>
          rw [none_] at sent
          cases (fold_nil _ _ _).mp sent
          exact carried
      | inr some_ =>
          obtain ⟨step, one, fresh, admissible⟩ := some_
          rw [one] at sent
          obtain ⟨grown, built, done⟩ := (fold_ok _ _ _ _ _).mp sent
          cases (fold_nil _ _ _).mp done
          obtain ⟨item, member, same⟩ := List.mem_map.mp (graph.steps ▸ admissible.known : step ∈ planned.map PlannedStep.step)
          subst same
          have named := planned_step graph item member
          rw [sendRequest, named] at built
          obtain ⟨request, requested, same⟩ := (bind_ok _ _ _).mp built
          cases same
          have results : (wakeStep settings s.runner
              ⟨messages, submissionDone, timerDone, s.runner.clock, beforeDeadline, expired⟩).loop.results = scan.loop.results := by
            rw [wakeStep, scanned]
          refine ⟨base, ?_, ?_, ?_, carried.posted⟩
          · intro id other found
            rw [dict_get_put] at found
            by_cases here : id = item.step.stepId
            · subst here
              change _ ∈ sentIds _ ++ s.runner.submitted
              rw [scanned, sentIds, one]
              exact List.mem_append_left _ (by simp)
            · rw [if_neg here] at found
              exact carried.submitted id other found
          · intro id other found
            rw [dict_get_put] at found
            by_cases here : id = item.step.stepId
            · subst here
              rw [if_pos rfl] at found
              cases found
              refine ⟨item, named, ?_, deadlineAt, request, by rw [results]; exact requested, rfl⟩
              intro source member'
              obtain ⟨result, held, won, _⟩ := admissible.dependencies source
                (graph.sources item.step admissible.known source member')
              exact ⟨result, by rw [results]; exact held, won⟩
            · rw [if_neg here] at found
              exact carried.sent id other found
          · intro id prepared found
            obtain ⟨other, rendered, held, done⟩ := inv.executed id prepared found
            refine ⟨other, rendered, ?_, done⟩
            have apart : id ≠ item.step.stepId := by
              intro same
              exact fresh (same ▸ inv.submitted id other held)
            rw [dict_get_put, if_neg apart]
            exact held

theorem complete_keeps (s : HistoryState) (runner : State) (result : WorkerResult)
    (inv : HistoryInvariant messagesHash planned settings s) (taken : step settings s.runner (.complete result) = some runner)
    (caused : result.succeeded = true → ∃ prepared original,
      Dict.get result.stepId s.executed = some prepared ∧ original.request = prepared.document ∧ result = restored original) :
    HistoryInvariant messagesHash planned settings { s with runner := runner } := by
  have base := submission_step settings s.runner _ runner inv.base taken
  simp only [step] at taken
  split at taken <;> cases taken
  refine ⟨base, inv.submitted, inv.sent, inv.executed, ?_⟩
  intro other listed won
  cases List.mem_append.mp listed with
  | inl old => exact inv.posted other old won
  | inr fresh =>
      cases List.mem_singleton.mp fresh
      exact caused won

theorem history_step (graph : Graph planned settings) (s : HistoryState) (event : HistoryEvent) (next : HistoryState)
    (inv : HistoryInvariant messagesHash planned settings s)
    (taken : historyStep messagesHash planned settings s event = some next) :
    HistoryInvariant messagesHash planned settings next := by
  have other (event : Event) (plain : ∀ result, event ≠ .complete result)
      (taken : (step settings s.runner event).map (fun runner => { s with runner := runner }) = some next) :
      HistoryInvariant messagesHash planned settings next := by
    obtain ⟨runner, stepped, rfl⟩ := Option.map_eq_some_iff.mp taken
    exact invariant_continues s runner inv (submission_step settings s.runner event runner inv.base stepped)
      (step_continues s.runner runner event inv.base stepped plain)
  cases event with
  | run event deadlineAt =>
      cases event with
      | complete result => cases taken
      | wake messages submissionDone timerDone beforeDeadline expired =>
          exact wake_runner_keeps graph s next messages submissionDone timerDone beforeDeadline expired deadlineAt inv taken
      | tick later => exact other (.tick later) (by intro result same; cases same) taken
      | fire => exact other .fire (by intro result same; cases same) taken
      | interrupt error => exact other (.interrupt error) (by intro result same; cases same) taken
  | execute stepId rendered =>
      rw [historyStep] at taken
      cases held : Dict.get stepId s.requests with
      | none => simp [held] at taken
      | some request =>
          cases fresh : Dict.get stepId s.executed with
          | some earlier => simp [held, fresh] at taken
          | none =>
              simp only [held, fresh] at taken
              cases done : prepare messagesHash rendered request with
              | error error => simp [done] at taken
              | ok prepared =>
                  simp only [done] at taken
                  cases taken
                  refine ⟨inv.base, inv.submitted, inv.sent, ?_, ?_⟩
                  · intro id other found
                    rw [dict_get_put] at found
                    by_cases here : id = stepId
                    · rw [if_pos here] at found
                      cases found
                      exact ⟨request, rendered, here ▸ held, done⟩
                    · rw [if_neg here] at found
                      exact inv.executed id other found
                  · intro result listed won
                    obtain ⟨other, original, found, same⟩ := inv.posted result listed won
                    refine ⟨other, original, ?_, same⟩
                    have apart : result.stepId ≠ stepId := by
                      intro same
                      rw [same, fresh] at found
                      cases found
                    rw [dict_get_put, if_neg apart]
                    exact found
  | complete stepId metrics generatedText completedAt =>
      rw [historyStep] at taken
      cases held : Dict.get stepId s.executed with
      | some request =>
          simp only [held] at taken
          obtain ⟨runner, stepped, rfl⟩ := Option.map_eq_some_iff.mp taken
          exact complete_keeps s runner _ inv stepped fun _ => ⟨request, _, held, rfl, rfl⟩
      | none =>
          cases asked : Dict.get stepId s.requests with
          | none => simp [held, asked] at taken
          | some request =>
              simp only [held, asked] at taken
              split at taken
              · cases taken
              · rename_i failed
                obtain ⟨runner, stepped, rfl⟩ := Option.map_eq_some_iff.mp taken
                exact complete_keeps s runner _ inv stepped fun won => absurd won failed

end Runs

-- The configuration rejects sampling messages beside message reuse, and only the
-- one request of an atomic invocation carries a history of its own.
def PlannedStep.Plain (item : PlannedStep) : Prop :=
  Dict.get "messages" item.request.parameters = none ∧ isNone (Dict.get "history_version" item.request.context) = true

def MessagesApart (planned : List PlannedStep) : Prop :=
  (∃ item ∈ planned, item.step.messageSources ≠ []) → ∀ item ∈ planned, item.Plain

def ownInput (item : PlannedStep) (prompt : String) : Except String (List Json) :=
  if item.step.messageSources ≠ [] then .ok [userMessage prompt]
  else if item.request.preparation = none ∨ isNone (Dict.get "history_version" item.request.context) = true then
    carriedMessages item.request.parameters prompt
  else do
    let previous ← unpackedMessages item.request.parameters
    carriedMessages [("messages", .list (previous ++ [userMessage prompt]))] prompt

namespace HistoryState

variable (s : HistoryState)

def messages (id : String) : List Json :=
  match Dict.get id s.executed with
  | none => []
  | some request => request.executedMessages.toOption.getD []

def prompt (id : String) : String := ((Dict.get id s.executed).map fun request => request.prompt.1).getD ""

def reply (id : String) : String := ((Dict.get id s.runner.loop.results).map WorkerResult.generatedText).getD ""

def turns (id : String) : List Json := s.messages id ++ [assistantMessage (s.reply id)]

def conversation (planned : List PlannedStep) : String → List Json :=
  evaluate RequestStep.stepId RequestStep.messageSources
    (fun step above => above.flatten ++ [userMessage (s.prompt step.stepId), assistantMessage (s.reply step.stepId)])
    (planned.map PlannedStep.step) fun _ => []

end HistoryState

section Composition

variable {messagesHash : List Json → String} {planned : List PlannedStep} {settings : Settings}

theorem own_composes (item : PlannedStep) (results : Dict String WorkerResult) (built prepared : RequestConfig)
    (rendered : Rendered) (deadlineAt : String) (alone : item.step.messageSources = [])
    (requested : logicRequest messagesHash item results = .ok built)
    (done : prepare messagesHash rendered (withDeadline deadlineAt built) = .ok prepared) :
    prepared.executedMessages = ownInput item prepared.prompt.1 := by
  rw [logicRequest, if_pos alone] at requested
  cases requested
  obtain ⟨parameters, context, preparation, _⟩ := deadline_kept deadlineAt item.request
  rw [ownInput, if_neg (not_not.mpr alone)]
  by_cases own : item.request.preparation = none ∨ isNone (Dict.get "history_version" item.request.context) = true
  · rw [if_pos own]
    have kept := prepare_own messagesHash rendered _ prepared done (by rw [preparation, context]; exact own)
    rw [RequestConfig.executedMessages, kept, parameters]
  · rw [if_neg own]
    obtain ⟨recipe, versioned⟩ := not_or.mp own
    have open_ : isNone (Dict.get "history_version" item.request.context) = false := by simpa using versioned
    obtain ⟨value, given⟩ := Option.ne_none_iff_exists'.mp recipe
    rw [prepare, preparation, given] at done
    simp only [parameters, context, updated_get item.request.context rendered.metadata _ rendered.unversioned, open_] at done
    obtain ⟨previous, unpacked, same⟩ := (bind_ok _ _ _).mp done
    cases same
    rw [unpacked, RequestConfig.executedMessages, carriedMessages]
    simp [RequestConfig.parameters, dict_get_put, carriedMessages, Dict.get, bind, Except.bind]

theorem compose_all (completions : List Json) (parts : List (List Json))
    (each : List.Forall₂ (fun completion part => completionMessages completion = .ok part) completions parts) :
    composeHistory completions = .ok parts.flatten := by
  have mapped : completions.mapM completionMessages = .ok parts := by
    induction each with
    | nil => rfl
    | cons here _ ih =>
        rw [List.mapM_cons, here]
        rw [ih]
        rfl
  rw [composeHistory, mapped]
  rfl

theorem executed_composes (s : HistoryState) (inv : HistoryInvariant messagesHash planned settings s) (item : PlannedStep)
    (named : plannedStep planned item.step.stepId = some item) (prepared : RequestConfig)
    (found : Dict.get item.step.stepId s.executed = some prepared) (reuses : item.step.messageSources ≠ [])
    (clean : ∀ source ∈ item.step.messageSources, ∀ request, Dict.get source s.executed = some request →
      ∃ messages, Clean request messages) :
    (∀ source ∈ item.step.messageSources, Dict.get source s.executed ≠ none) ∧
      Clean prepared (item.step.messageSources.flatMap s.turns ++ [userMessage prepared.prompt.1]) := by
  obtain ⟨request, rendered, held, done⟩ := inv.executed _ prepared found
  obtain ⟨other, again, sources, deadlineAt, built, requested, same⟩ := inv.sent _ request held
  cases named.symm.trans again
  subst same
  have source (id : String) (member : id ∈ item.step.messageSources) : ∃ result,
      Dict.get id s.runner.loop.results = some result ∧ Dict.get id s.executed ≠ none ∧
      completionMessages result.completion = .ok (s.turns id) ∧ ∀ message ∈ s.turns id, Chat message := by
    obtain ⟨result, known, won⟩ := sources id member
    obtain ⟨listed, sameId⟩ := inv.base.recorded id result known
    obtain ⟨sourceRequest, original, executed, document, restored_⟩ := inv.posted result listed won
    rw [sameId] at executed
    obtain ⟨messages, isClean⟩ := clean id member sourceRequest executed
    have answer : s.reply id = original.generatedText := by
      rw [HistoryState.reply, known, restored_]
      rfl
    have turns : s.turns id = messages ++ [assistantMessage original.generatedText] := by
      rw [HistoryState.turns, HistoryState.messages, executed, answer]
      simp only [isClean.executed]
      rfl
    refine ⟨result, known, by rw [executed]; simp, ?_, ?_⟩
    · rw [turns, restored_]
      exact restored_messages original sourceRequest messages document isClean
    · rw [turns]
      intro message inTurns
      cases List.mem_append.mp inTurns with
      | inl old => exact isClean.chats message old
      | inr fresh =>
          rw [List.mem_singleton.mp fresh]
          exact ⟨"assistant", original.generatedText, rfl⟩
  refine ⟨fun id member => (source id member).choose_spec.2.1, ?_⟩
  have completed : ∀ ids : List String, (∀ id ∈ ids, id ∈ item.step.messageSources) → ∃ completions,
      ids.mapM (sourceCompletion s.runner.loop.results) = .ok completions ∧
      List.Forall₂ (fun completion part => completionMessages completion = .ok part) completions (ids.map s.turns) := by
    intro ids within
    induction ids with
    | nil => exact ⟨[], rfl, .nil⟩
    | cons id rest ih =>
        obtain ⟨result, known, _, messages, _⟩ := source id (within id List.mem_cons_self)
        obtain ⟨completions, mapped, each⟩ := ih fun other member => within other (List.mem_cons_of_mem id member)
        refine ⟨result.completion :: completions, ?_, .cons messages each⟩
        rw [List.mapM_cons, sourceCompletion, known]
        rw [mapped]
        rfl
  obtain ⟨completions, mapped, each⟩ := completed item.step.messageSources fun _ member => member
  have history := compose_all completions _ each
  rw [List.flatMap_def]
  apply reuse_composes messagesHash item s.runner.loop.results completions _ built prepared rendered deadlineAt reuses _ mapped
    history requested done
  intro message member
  obtain ⟨part, inParts, inPart⟩ := List.mem_flatten.mp member
  obtain ⟨id, inSources, rfl⟩ := List.mem_map.mp inParts
  exact (source id inSources).choose_spec.2.2.2 message inPart

theorem executed_clean (graph : Graph planned settings) (apart : MessagesApart planned) (s : HistoryState)
    (inv : HistoryInvariant messagesHash planned settings s) (some_ : ∃ item ∈ planned, item.step.messageSources ≠ []) :
    ∀ step ∈ settings.steps, ∀ prepared, Dict.get step.stepId s.executed = some prepared → ∃ messages, Clean prepared messages := by
  apply topological_induction RequestStep.stepId RequestStep.messageSources
    (fun id => ∀ prepared, Dict.get id s.executed = some prepared → ∃ messages, Clean prepared messages) settings.steps []
    graph.ordered (fun _ none_ => by cases none_)
  intro step member above prepared found
  obtain ⟨item, inPlanned, rfl⟩ := List.mem_map.mp (graph.steps ▸ member)
  have named := planned_step graph item inPlanned
  by_cases alone : item.step.messageSources = []
  · obtain ⟨request, rendered, held, done⟩ := inv.executed _ prepared found
    obtain ⟨other, again, _, deadlineAt, built, requested, same⟩ := inv.sent _ request held
    cases named.symm.trans again
    subst same
    obtain ⟨silent, unversioned⟩ := apart some_ item inPlanned
    rw [logicRequest, if_pos alone] at requested
    cases requested
    obtain ⟨parameters, context, _, _⟩ := deadline_kept deadlineAt item.request
    have kept := prepare_own messagesHash rendered _ prepared done (.inr (by rw [context]; exact unversioned))
    exact ⟨_, clean_prompt prepared (by rw [kept, parameters]; exact silent)⟩
  · exact ⟨_, (executed_composes s inv item named prepared found alone above).2⟩

structure Composed (planned : List PlannedStep) (s : HistoryState) (item : PlannedStep) (prepared : RequestConfig) : Prop where
  step : prepared.executedMessages =
    (ownInput item prepared.prompt.1).map fun own => item.step.messageSources.flatMap s.turns ++ own
  lineage : prepared.executedMessages =
    (ownInput item prepared.prompt.1).map fun own => item.step.messageSources.flatMap (s.conversation planned) ++ own

theorem turns_conversation (graph : Graph planned settings) (apart : MessagesApart planned) (s : HistoryState)
    (inv : HistoryInvariant messagesHash planned settings s) (some_ : ∃ item ∈ planned, item.step.messageSources ≠ []) :
    ∀ step ∈ settings.steps, Dict.get step.stepId s.executed ≠ none →
      s.conversation planned step.stepId = s.turns step.stepId := by
  have clean := executed_clean graph apart s inv some_
  rw [HistoryState.conversation, ← graph.steps]
  apply evaluate_unique RequestStep.stepId RequestStep.messageSources _ settings.steps [] _ s.turns
    (fun id => Dict.get id s.executed ≠ none) graph.ordered graph.unique (fun _ _ none_ => by cases none_)
    (fun _ none_ => by cases none_)
  intro step member held
  obtain ⟨prepared, found⟩ := Option.ne_none_iff_exists'.mp held
  obtain ⟨item, inPlanned, rfl⟩ := List.mem_map.mp (graph.steps ▸ member)
  have named := planned_step graph item inPlanned
  have prompt : s.prompt item.step.stepId = prepared.prompt.1 := by
    rw [HistoryState.prompt, found]
    rfl
  have sent (messages : List Json) (executed : prepared.executedMessages = .ok messages) :
      s.messages item.step.stepId = messages := by
    rw [HistoryState.messages, found]
    simp only [executed]
    rfl
  have known (source : String) (inSources : source ∈ item.step.messageSources) : ∃ other ∈ settings.steps, other.stepId = source := by
    have listed := (topological_closed _ _ settings.steps [] graph.ordered item.step member source inSources).resolve_left
      fun none_ => (by cases none_)
    obtain ⟨other, inSteps, same⟩ := List.mem_map.mp listed
    exact ⟨other, inSteps, same⟩
  by_cases alone : item.step.messageSources = []
  · obtain ⟨request, rendered, asked, done⟩ := inv.executed _ prepared found
    obtain ⟨other, again, _, deadlineAt, built, requested, same⟩ := inv.sent _ request asked
    cases named.symm.trans again
    subst same
    obtain ⟨silent, unversioned⟩ := apart some_ item inPlanned
    have own := own_composes item _ built prepared rendered deadlineAt alone requested done
    rw [ownInput, if_neg (not_not.mpr alone), if_pos (.inr unversioned), carriedMessages, silent] at own
    have none_ : ∀ source ∈ item.step.messageSources, Dict.get source s.executed ≠ none := by
      intro source inSources
      rw [alone] at inSources
      cases inSources
    refine ⟨none_, ?_⟩
    rw [HistoryState.turns, sent _ own, alone, prompt]
    rfl
  · obtain ⟨above, isClean⟩ := executed_composes s inv item named prepared found alone fun source inSources request executed => by
      obtain ⟨other, inSteps, rfl⟩ := known source inSources
      exact clean other inSteps request executed
    refine ⟨above, ?_⟩
    rw [HistoryState.turns, sent _ isClean.executed, List.flatMap_def, prompt, List.append_assoc]
    rfl

theorem history_composed (graph : Graph planned settings) (apart : MessagesApart planned) (s : HistoryState)
    (inv : HistoryInvariant messagesHash planned settings s) (item : PlannedStep) (member : item ∈ planned)
    (prepared : RequestConfig) (found : Dict.get item.step.stepId s.executed = some prepared) :
    Composed planned s item prepared := by
  have named := planned_step graph item member
  by_cases alone : item.step.messageSources = []
  · obtain ⟨request, rendered, held, done⟩ := inv.executed _ prepared found
    obtain ⟨other, again, _, deadlineAt, built, requested, same⟩ := inv.sent _ request held
    cases named.symm.trans again
    subst same
    have own := own_composes item _ built prepared rendered deadlineAt alone requested done
    have whole : prepared.executedMessages = (ownInput item prepared.prompt.1).map fun input => [] ++ input := by
      rw [own]
      cases ownInput item prepared.prompt.1 <;> rfl
    refine ⟨?_, ?_⟩ <;> rw [alone] <;> exact whole
  · have some_ : ∃ item ∈ planned, item.step.messageSources ≠ [] := ⟨item, member, alone⟩
    have inSteps : item.step ∈ settings.steps := graph.steps ▸ List.mem_map_of_mem member
    have known (source : String) (inSources : source ∈ item.step.messageSources) :
        ∃ other ∈ settings.steps, other.stepId = source := by
      have listed := (topological_closed _ _ settings.steps [] graph.ordered item.step inSteps source inSources).resolve_left
        fun none_ => (by cases none_)
      obtain ⟨other, listed, same⟩ := List.mem_map.mp listed
      exact ⟨other, listed, same⟩
    obtain ⟨above, isClean⟩ := executed_composes s inv item named prepared found alone fun source inSources request executed => by
      obtain ⟨other, listed, rfl⟩ := known source inSources
      exact executed_clean graph apart s inv some_ other listed request executed
    have lineage : item.step.messageSources.flatMap (s.conversation planned) = item.step.messageSources.flatMap s.turns := by
      rw [List.flatMap_def, List.flatMap_def]
      congr 1
      apply List.map_congr_left
      intro source inSources
      obtain ⟨other, listed, rfl⟩ := known source inSources
      exact turns_conversation graph apart s inv some_ other listed (above _ inSources)
    refine ⟨?_, ?_⟩
    · rw [isClean.executed, ownInput, if_pos alone]
      rfl
    · rw [isClean.executed, ownInput, if_pos alone, lineage]
      rfl

end Composition

end LlmperfOrchestrator.Runtime.Histories

import LlmperfOrchestrator.Storage.Documents
import Mathlib.Data.List.Forall2

set_option autoImplicit false

namespace LlmperfOrchestrator.Runtime.Redaction

open Tables Storage

structure TreeSteps (motive : Json → Prop) : Prop where
  null : motive .null
  bool : ∀ value, motive (.bool value)
  number : ∀ value, motive (.number value)
  notFinite : motive .notFinite
  text : ∀ value, motive (.text value)
  list : ∀ items, (∀ item ∈ items, motive item) → motive (.list items)
  dict : ∀ fields, (∀ entry ∈ fields, motive entry.2) → motive (.dict fields)

mutual

theorem json_induction (motive : Json → Prop) (steps : TreeSteps motive) : ∀ document, motive document
  | .null => steps.null
  | .bool value => steps.bool value
  | .number value => steps.number value
  | .notFinite => steps.notFinite
  | .text value => steps.text value
  | .list items => steps.list items (items_induction motive steps items)
  | .dict fields => steps.dict fields (fields_induction motive steps fields)

theorem items_induction (motive : Json → Prop) (steps : TreeSteps motive) : ∀ items : List Json, ∀ item ∈ items, motive item
  | [], _, among => absurd among List.not_mem_nil
  | first :: rest, item, among => by
      rcases List.mem_cons.mp among with same | later
      · rw [same]
        exact json_induction motive steps first
      · exact items_induction motive steps rest item later

theorem fields_induction (motive : Json → Prop) (steps : TreeSteps motive) :
    ∀ fields : List (String × Json), ∀ entry ∈ fields, motive entry.2
  | [], _, among => absurd among List.not_mem_nil
  | (name, value) :: rest, entry, among => by
      rcases List.mem_cons.mp among with same | later
      · rw [same]
        exact json_induction motive steps value
      · exact fields_induction motive steps rest entry later

end

section Log

-- str.lower
variable (lower : String → String)

theorem log_items_map (items : List Json) : logItems lower items = items.map (logValue lower) := by
  induction items with
  | nil => rfl
  | cons item rest ih => rw [logItems, ih, List.map_cons]

variable (fields : List (String × Json))

theorem log_fields_filter :
    logFields lower fields = (fields.filter fun entry => !excluded lower entry.1).map fun entry => (entry.1, logValue lower entry.2) := by
  induction fields with
  | nil => rfl
  | cons entry rest ih =>
      obtain ⟨name, item⟩ := entry
      rw [logFields]
      by_cases dropped : excluded lower name = true
      · rw [if_pos dropped, List.filter_cons_of_neg (by simp [dropped]), ih]
      · rw [if_neg dropped, List.filter_cons_of_pos (by simp [dropped]), List.map_cons, ih]

theorem log_fields_names : (logFields lower fields).map Prod.fst = (fields.map Prod.fst).filter fun name => !excluded lower name := by
  rw [log_fields_filter, List.map_map, List.filter_map]
  rfl

theorem log_fields_member (entry : String × Json) (among : entry ∈ logFields lower fields) :
    excluded lower entry.1 = false ∧ ∃ item, (entry.1, item) ∈ fields ∧ entry.2 = logValue lower item := by
  rw [log_fields_filter] at among
  obtain ⟨before, kept, same⟩ := List.mem_map.mp among
  obtain ⟨present, clear⟩ := List.mem_filter.mp kept
  rw [← same]
  exact ⟨by simpa using clear, before.2, present, rfl⟩

theorem log_fields_kept (kept : ∀ name ∈ fields.map Prod.fst, excluded lower name = false) :
    logFields lower fields = fields.map fun entry => (entry.1, logValue lower entry.2) := by
  have all : fields.filter (fun entry => !excluded lower entry.1) = fields :=
    List.filter_eq_self.mpr fun entry among => by rw [kept entry.1 (List.mem_map_of_mem among), Bool.not_false]
  rw [log_fields_filter, all]

theorem log_value_idempotent (document : Json) : logValue lower (logValue lower document) = logValue lower document := by
  refine json_induction (fun document => logValue lower (logValue lower document) = logValue lower document) ?_ document
  refine ⟨rfl, fun _ => rfl, fun _ => rfl, rfl, fun _ => rfl, ?_, ?_⟩
  · intro items each
    rw [logValue, logValue, log_items_map, log_items_map, List.map_map]
    exact congrArg Json.list (List.map_congr_left each)
  · intro fields each
    rw [logValue, logValue]
    have kept : ∀ name ∈ (logFields lower fields).map Prod.fst, excluded lower name = false := by
      intro name among
      rw [log_fields_names] at among
      simpa using (List.mem_filter.mp among).2
    rw [log_fields_kept lower _ kept]
    refine congrArg Json.dict ?_
    refine (List.map_congr_left fun entry among => ?_).trans (List.map_id _)
    obtain ⟨item, present, same⟩ := (log_fields_member lower fields entry among).2
    rw [same, each _ present, ← same]
    rfl

inductive Inside : Json → Json → Prop where
  | whole (document : Json) : Inside document document
  | item (items : List Json) (item inner : Json) : item ∈ items → Inside item inner → Inside (.list items) inner
  | value (fields : List (String × Json)) (entry : String × Json) (inner : Json) :
      entry ∈ fields → Inside entry.2 inner → Inside (.dict fields) inner

theorem inside_logged (document inner : Json) (within : Inside (logValue lower document) inner) :
    ∃ before, Inside document before ∧ inner = logValue lower before := by
  generalize source : logValue lower document = logged at within
  induction within generalizing document with
  | whole logged => exact ⟨document, .whole document, source.symm⟩
  | item items item inner among deeper ih =>
      cases document with
      | list before =>
          rw [logValue, log_items_map] at source
          rw [← Json.list.inj source] at among
          obtain ⟨origin, present, same⟩ := List.mem_map.mp among
          obtain ⟨found, inside, logged⟩ := ih origin same
          exact ⟨found, .item before origin found present inside, logged⟩
      | null | bool | number | notFinite | text | dict => cases source
  | value fields entry inner among deeper ih =>
      cases document with
      | dict before =>
          rw [logValue] at source
          rw [← Json.dict.inj source] at among
          obtain ⟨item, present, same⟩ := (log_fields_member lower before entry among).2
          obtain ⟨found, inside, logged⟩ := ih item same.symm
          exact ⟨found, .value before (entry.1, item) found present inside, logged⟩
      | null | bool | number | notFinite | text | list => cases source

theorem logged_clean (document : Json) (fields : List (String × Json)) (within : Inside (logValue lower document) (.dict fields)) :
    ∀ entry ∈ fields, excluded lower entry.1 = false := by
  intro entry among
  obtain ⟨before, _, same⟩ := inside_logged lower document _ within
  cases before with
  | dict source =>
      rw [logValue] at same
      rw [Json.dict.inj same] at among
      exact (log_fields_member lower source entry among).1
  | null | bool | number | notFinite | text | list => cases same

inductive Turn where
  | key (name : String)
  | position (index : Nat)
deriving DecidableEq

def Turn.read : Turn → Json → Option Json
  | .key name, .dict fields => Dict.get name fields
  | .position index, .list items => items[index]?
  | _, _ => none

def Turn.excluded : Turn → Bool
  | .key name => Storage.excluded lower name
  | .position _ => false

def reach : List Turn → Json → Option Json
  | [], document => some document
  | turn :: path, document => (turn.read document).bind (reach path)

theorem logged_read (turn : Turn) (document : Json) :
    turn.read (logValue lower document) = if turn.excluded lower then none else (turn.read document).map (logValue lower) := by
  cases turn with
  | key name =>
      cases document with
      | dict fields => exact log_fields_get lower fields name
      | null | bool | number | notFinite | text | list => exact (ite_self none).symm
  | position index =>
      cases document with
      | list items =>
          change (logItems lower items)[index]? = items[index]?.map (logValue lower)
          rw [log_items_map, List.getElem?_map]
      | null | bool | number | notFinite | text | dict => rfl

theorem logged_reach (path : List Turn) (document : Json) :
    reach path (logValue lower document) =
      if path.any (Turn.excluded lower) then none else (reach path document).map (logValue lower) := by
  induction path generalizing document with
  | nil => rfl
  | cons turn path ih =>
      rw [reach, reach, logged_read, List.any_cons]
      by_cases dropped : turn.excluded lower = true
      · rw [if_pos dropped, dropped]
        rfl
      · rw [if_neg dropped, Bool.eq_false_iff.mpr dropped, Bool.false_or]
        cases turn.read document with
        | none => exact (ite_self none).symm
        | some item => exact ih item

mutual

inductive Agree : Json → Json → Prop where
  | same (document : Json) : Agree document document
  | list (first second : List Json) : AgreeItems first second → Agree (.list first) (.list second)
  | dict (first second : List (String × Json)) : AgreeFields first second → Agree (.dict first) (.dict second)

inductive AgreeItems : List Json → List Json → Prop where
  | nil : AgreeItems [] []
  | cons (item other : Json) (first second : List Json) :
      Agree item other → AgreeItems first second → AgreeItems (item :: first) (other :: second)

inductive AgreeFields : List (String × Json) → List (String × Json) → Prop where
  | nil : AgreeFields [] []
  | kept (name : String) (item other : Json) (first second : List (String × Json)) :
      Agree item other → AgreeFields first second → AgreeFields ((name, item) :: first) ((name, other) :: second)
  | left (name : String) (item : Json) (first second : List (String × Json)) :
      excluded lower name = true → AgreeFields first second → AgreeFields ((name, item) :: first) second
  | right (name : String) (item : Json) (first second : List (String × Json)) :
      excluded lower name = true → AgreeFields first second → AgreeFields first ((name, item) :: second)

end

theorem agree_fields_same (fields : List (String × Json)) : AgreeFields lower fields fields := by
  induction fields with
  | nil => exact .nil
  | cons entry rest ih => exact .kept entry.1 entry.2 entry.2 rest rest (.same entry.2) ih

theorem agree_fields_replaced (name : String) (item other : Json) (fields : List (String × Json)) (dropped : excluded lower name = true) :
    AgreeFields lower ((name, item) :: fields) ((name, other) :: fields) :=
  .left name item fields _ dropped (.right name other fields fields dropped (agree_fields_same lower fields))

mutual

theorem agree_logged : ∀ (first second : Json), Agree lower first second → logValue lower first = logValue lower second
  | _, _, .same _ => rfl
  | _, _, .list first second agree => by
      rw [logValue, logValue, agree_items_logged first second agree]
  | _, _, .dict first second agree => by
      rw [logValue, logValue, agree_fields_logged first second agree]

theorem agree_items_logged : ∀ (first second : List Json), AgreeItems lower first second → logItems lower first = logItems lower second
  | _, _, .nil => rfl
  | _, _, .cons item other first second head tail => by
      rw [logItems, logItems, agree_logged item other head, agree_items_logged first second tail]

theorem agree_fields_logged : ∀ (first second : List (String × Json)), AgreeFields lower first second →
    logFields lower first = logFields lower second
  | _, _, .nil => rfl
  | _, _, .kept name item other first second head tail => by
      rw [logFields, logFields, agree_logged item other head, agree_fields_logged first second tail]
  | _, _, .left name item first second dropped tail => by
      rw [logFields, if_pos dropped, agree_fields_logged first second tail]
  | _, _, .right name item first second dropped tail => by
      rw [logFields, if_pos dropped, agree_fields_logged first second tail]

end

def Image (before after : Json) : Prop :=
  match before with
  | .notFinite => after = .null
  | .list items => ∃ logged, after = .list logged ∧ logged.length = items.length
  | .dict fields => ∃ logged, after = .dict logged ∧
      logged.map Prod.fst = (fields.map Prod.fst).filter fun name => !excluded lower name
  | value => after = value

theorem logged_image (document : Json) : Image lower document (logValue lower document) := by
  cases document with
  | list items => exact ⟨_, rfl, by rw [log_items_map, List.length_map]⟩
  | dict fields => exact ⟨_, rfl, log_fields_names lower fields⟩
  | null | bool | number | notFinite | text => rfl

structure Redacted (document logged : Json) : Prop where
  clean : ∀ fields, Inside logged (.dict fields) → ∀ entry ∈ fields, excluded lower entry.1 = false
  dropped : ∀ path, path.any (Turn.excluded lower) = true → reach path logged = none
  kept : ∀ path value, path.any (Turn.excluded lower) = false → reach path document = some value →
    ∃ after, reach path logged = some after ∧ Image lower value after
  added : ∀ path, reach path document = none → reach path logged = none

theorem logged_redacted (document : Json) : Redacted lower document (logValue lower document) := by
  refine ⟨logged_clean lower document, ?_, ?_, ?_⟩
  · intro path under
    rw [logged_reach, if_pos under]
  · intro path value clear found
    refine ⟨logValue lower value, ?_, logged_image lower value⟩
    rw [logged_reach, clear, found]
    rfl
  · intro path missing
    rw [logged_reach, missing]
    exact ite_self none

end Log

def nullable {Value : Type} (json : Value → Json) (value : Option Value) : Json := (value.map json).getD .null

structure WorkerInput where
  inputName : String
  index : Int
  seed : Int
  prefixSeed : Option Int
  tokens : Int
  tokenStddev : Int
  prefixTokens : Int
  mode : String
  repeatCount : Int
  text : Option String
  datasetAdapter : Option String
  datasetFilename : Option String
  calibrated : Bool
  atomic : Bool
  outputTokenCount : String
  outputTokens : Int
  probe : Option (Dict String Json)
  probeFamily : Int
  probeOccurrence : Int
deriving DecidableEq

-- timeout_seconds holds a float: none stands for one that is not finite.
structure RequestConfig (Moment : Type) where
  model : String
  prompt : String × Int
  samplingParams : Option (Dict String Json)
  llmApi : Option String
  metadata : Option (Dict String Json)
  timeoutSeconds : Option (Option Rat)
  preparation : Option WorkerInput
  deadlineAt : Option Moment
deriving DecidableEq

structure WorkerCompletion (Moment : Type) where
  stepId : String
  metrics : Dict String Json
  generatedText : String
  request : RequestConfig Moment
deriving DecidableEq

section Dump

variable {Moment : Type} (isoformat : Moment → String)

def integer (value : Int) : Json := .number value

def seconds : Option Rat → Json
  | none => .notFinite
  | some value => .number value

def WorkerInput.dump (recipe : WorkerInput) : Dict String Json :=
  [("input_name", .text recipe.inputName), ("index", integer recipe.index), ("seed", integer recipe.seed),
    ("prefix_seed", nullable integer recipe.prefixSeed), ("tokens", integer recipe.tokens),
    ("token_stddev", integer recipe.tokenStddev), ("prefix_tokens", integer recipe.prefixTokens), ("mode", .text recipe.mode),
    ("repeat_count", integer recipe.repeatCount), ("text", nullable .text recipe.text),
    ("dataset_adapter", nullable .text recipe.datasetAdapter), ("dataset_filename", nullable .text recipe.datasetFilename),
    ("calibrated", .bool recipe.calibrated), ("atomic", .bool recipe.atomic),
    ("output_token_count", .text recipe.outputTokenCount), ("output_tokens", integer recipe.outputTokens),
    ("probe", nullable .dict recipe.probe), ("probe_family", integer recipe.probeFamily),
    ("probe_occurrence", integer recipe.probeOccurrence)]

def RequestConfig.dump (request : RequestConfig Moment) : Dict String Json :=
  [("model", .text request.model), ("prompt", .list [.text request.prompt.1, integer request.prompt.2]),
    ("sampling_params", nullable .dict request.samplingParams), ("llm_api", nullable .text request.llmApi),
    ("metadata", nullable .dict request.metadata), ("timeout_seconds", nullable seconds request.timeoutSeconds),
    ("preparation", nullable (fun recipe => .dict recipe.dump) request.preparation),
    ("deadline_at", nullable (fun deadline => .text (isoformat deadline)) request.deadlineAt)]

-- model_dump(mode="json")
def WorkerCompletion.dump (completion : WorkerCompletion Moment) : Dict String Json :=
  [("step_id", .text completion.stepId), ("metrics", .dict completion.metrics),
    ("generated_text", .text completion.generatedText), ("request", .dict (completion.request.dump isoformat))]

end Dump

section Stored

variable {Moment : Type} (isoformat : Moment → String) (lower : String → String)
  (modelValidate : Json → Except String (WorkerCompletion Moment))

-- for_storage: the dump is a document of string keys already.
def forStorage (completion : WorkerCompletion Moment) : Except String (WorkerCompletion Moment) :=
  modelValidate (logValue lower (.dict (completion.dump isoformat)))

-- The payload that write_worker writes.
def workerPayload (completion : WorkerCompletion Moment) : Except String Json :=
  (forStorage isoformat lower modelValidate completion).map fun stored => .dict (stored.dump isoformat)

def WorkerInput.stored (recipe : WorkerInput) : WorkerInput := { recipe with probe := recipe.probe.map (logFields lower) }

def RequestConfig.stored (request : RequestConfig Moment) : RequestConfig Moment :=
  { request with
    samplingParams := request.samplingParams.map (logFields lower)
    metadata := request.metadata.map (logFields lower)
    timeoutSeconds := request.timeoutSeconds.filter Option.isSome
    preparation := request.preparation.map (WorkerInput.stored lower) }

def WorkerCompletion.stored (completion : WorkerCompletion Moment) : WorkerCompletion Moment :=
  { completion with metrics := logFields lower completion.metrics, request := completion.request.stored lower }

def unmarked (name : String) : Bool := name.toList.all fun c => c = '_' ∨ c.isLower

theorem unmarked_kept (plain : ∀ name, unmarked name = true → lower name = name) (names : List String)
    (clear : (names.all fun name => unmarked name ∧
      excludedText (name.toList.map fun c => if c = '-' then '_' else c) = false) = true) :
    ∀ name ∈ names, excluded lower name = false := by
  intro name among
  obtain ⟨simple, kept⟩ := of_decide_eq_true (List.all_eq_true.mp clear name among)
  rw [excluded, normalizedName, plain name simple]
  exact kept

def recipeFields : List String :=
  ["input_name", "index", "seed", "prefix_seed", "tokens", "token_stddev", "prefix_tokens", "mode", "repeat_count", "text",
    "dataset_adapter", "dataset_filename", "calibrated", "atomic", "output_token_count", "output_tokens", "probe", "probe_family",
    "probe_occurrence"]

def requestFields : List String :=
  ["model", "prompt", "sampling_params", "llm_api", "metadata", "timeout_seconds", "preparation", "deadline_at"]

def completionFields : List String := ["step_id", "metrics", "generated_text", "request"]

theorem nullable_logged {Value : Type} (json : Value → Json) (after : Value → Value) (value : Option Value)
    (each : ∀ value, logValue lower (json value) = json (after value)) :
    nullable json (value.map after) = logValue lower (nullable json value) := by
  cases value with
  | none => rfl
  | some value => exact (each value).symm

theorem nullable_plain {Value : Type} (json : Value → Json) (value : Option Value)
    (each : ∀ value, logValue lower (json value) = json value) : logValue lower (nullable json value) = nullable json value := by
  cases value with
  | none => rfl
  | some value => exact each value

theorem recipe_stored_dump (plain : ∀ name, unmarked name = true → lower name = name) (recipe : WorkerInput) :
    (recipe.stored lower).dump = logFields lower recipe.dump := by
  have names : recipe.dump.map Prod.fst = recipeFields := rfl
  rw [log_fields_kept lower recipe.dump (names ▸ unmarked_kept lower plain recipeFields (by decide +kernel))]
  have probe := nullable_logged lower Json.dict (logFields lower) recipe.probe fun _ => rfl
  simp only [WorkerInput.dump, List.map_cons, List.map_nil, nullable_plain lower integer _ fun _ => rfl,
    nullable_plain lower Json.text _ fun _ => rfl, ← probe]
  rfl

theorem request_stored_dump (plain : ∀ name, unmarked name = true → lower name = name) (request : RequestConfig Moment) :
    (request.stored lower).dump isoformat = logFields lower (request.dump isoformat) := by
  have names : (request.dump isoformat).map Prod.fst = requestFields := rfl
  rw [log_fields_kept lower _ (names ▸ unmarked_kept lower plain requestFields (by decide +kernel))]
  have parameters := nullable_logged lower Json.dict (logFields lower) request.samplingParams fun _ => rfl
  have metadata := nullable_logged lower Json.dict (logFields lower) request.metadata fun _ => rfl
  have preparation := nullable_logged lower (fun recipe => Json.dict recipe.dump) (WorkerInput.stored lower) request.preparation
    fun recipe => congrArg Json.dict (recipe_stored_dump lower plain recipe).symm
  have timeout : nullable seconds (request.timeoutSeconds.filter Option.isSome) = logValue lower (nullable seconds request.timeoutSeconds) := by
    rcases request.timeoutSeconds with none | none | value <;> rfl
  simp only [RequestConfig.dump, List.map_cons, List.map_nil, nullable_plain lower Json.text _ fun _ => rfl,
    nullable_plain lower (fun deadline => Json.text (isoformat deadline)) _ fun _ => rfl, ← parameters, ← metadata, ← preparation,
    ← timeout]
  rfl

theorem completion_stored_dump (plain : ∀ name, unmarked name = true → lower name = name) (completion : WorkerCompletion Moment) :
    (completion.stored lower).dump isoformat = logFields lower (completion.dump isoformat) := by
  have names : (completion.dump isoformat).map Prod.fst = completionFields := rfl
  rw [log_fields_kept lower _ (names ▸ unmarked_kept lower plain completionFields (by decide +kernel))]
  have request := request_stored_dump isoformat lower plain completion.request
  simp only [WorkerCompletion.dump, List.map_cons, List.map_nil, logValue, ← request]
  rfl

theorem for_storage_stored (plain : ∀ name, unmarked name = true → lower name = name) (completion : WorkerCompletion Moment)
    (round : modelValidate (.dict ((completion.stored lower).dump isoformat)) = .ok (completion.stored lower)) :
    forStorage isoformat lower modelValidate completion = .ok (completion.stored lower) ∧
      workerPayload isoformat lower modelValidate completion = .ok (logValue lower (.dict (completion.dump isoformat))) := by
  have stored : forStorage isoformat lower modelValidate completion = .ok (completion.stored lower) := by
    rw [forStorage, logValue, ← completion_stored_dump isoformat lower plain completion, round]
  refine ⟨stored, ?_⟩
  rw [workerPayload, stored, logValue, ← completion_stored_dump isoformat lower plain completion]
  rfl

theorem durable_log_redacted :
    (∀ document, Redacted lower document (logValue lower document) ∧
      logValue lower (logValue lower document) = logValue lower document) ∧
    (∀ first second : WorkerCompletion Moment, Agree lower (.dict (first.dump isoformat)) (.dict (second.dump isoformat)) →
      forStorage isoformat lower modelValidate first = forStorage isoformat lower modelValidate second) ∧
    ∀ completion : WorkerCompletion Moment, (∀ name, unmarked name = true → lower name = name) →
      modelValidate (.dict ((completion.stored lower).dump isoformat)) = .ok (completion.stored lower) →
        forStorage isoformat lower modelValidate completion = .ok (completion.stored lower) ∧
          workerPayload isoformat lower modelValidate completion = .ok (logValue lower (.dict (completion.dump isoformat))) := by
  refine ⟨fun document => ⟨logged_redacted lower document, log_value_idempotent lower document⟩, ?_, ?_⟩
  · intro first second agree
    rw [forStorage, forStorage, agree_logged lower _ _ agree]
  · intro completion plain round
    exact for_storage_stored isoformat lower modelValidate plain completion round

end Stored

section Ascii

theorem lower_plain (c : Char) (notUpper : ¬ (c.val ≥ 'A'.val ∧ c.val ≤ 'Z'.val)) : c.toLower = c := dif_neg notUpper

theorem lower_small (c : Char) (small : c.isLower = true) : c.toLower = c := by
  have range : decide (c.val ≥ 'a'.val) = true ∧ decide (c.val ≤ 'z'.val) = true := (Bool.and_eq_true _ _).mp small
  apply lower_plain
  intro upper
  have low : 97 ≤ c.val.toNat := UInt32.le_iff_toNat_le.mp (of_decide_eq_true range.1)
  have high : c.val.toNat ≤ 90 := UInt32.le_iff_toNat_le.mp upper.2
  omega

theorem ascii_plain (name : String) (plain : unmarked name = true) : asciiLower name = name := by
  have each : ∀ c ∈ name.toList, c.toLower = c := by
    intro c among
    rcases of_decide_eq_true (List.all_eq_true.mp plain c among) with underscore | small
    · rw [underscore]
      rfl
    · exact lower_small c small
  rw [asciiLower, List.map_congr_left each, List.map_id', String.ofList_toList]

def leakyCompletion (header key : String) : WorkerCompletion Unit where
  stepId := "0"
  metrics := [("error_code", .null), ("Response-Headers", .dict [("cookie", .text header)]), ("ttft_s", .notFinite)]
  generatedText := "answer"
  request := ⟨"model", ("question", 1), some [("api_key", .text key), ("top_p", .number 1)], none, none, some none, none, none⟩

def readBack (stored : WorkerCompletion Unit) (document : Json) : Except String (WorkerCompletion Unit) :=
  if document = .dict (stored.dump fun _ => "") then .ok stored else .error "Input should be a valid dictionary"

theorem keys_not_stored :
    forStorage (fun _ => "") asciiLower (readBack ((leakyCompletion "a" "b").stored asciiLower)) (leakyCompletion "a" "b") =
      forStorage (fun _ => "") asciiLower (readBack ((leakyCompletion "a" "b").stored asciiLower)) (leakyCompletion "c" "d") ∧
    forStorage (fun _ => "") asciiLower (readBack ((leakyCompletion "a" "b").stored asciiLower)) (leakyCompletion "a" "b") =
      .ok ((leakyCompletion "a" "b").stored asciiLower) := by
  obtain ⟨_, equal, stores⟩ := durable_log_redacted (fun _ : Unit => "") asciiLower
    (readBack ((leakyCompletion "a" "b").stored asciiLower))
  have headers : excluded asciiLower "Response-Headers" = true := by decide +kernel
  have keys : excluded asciiLower "api_key" = true := by decide +kernel
  have metrics := agree_fields_replaced asciiLower "Response-Headers" (.dict [("cookie", .text "a")]) (.dict [("cookie", .text "c")])
    [("ttft_s", .notFinite)] headers
  have parameters := agree_fields_replaced asciiLower "api_key" (.text "b") (.text "d") [("top_p", .number 1)] keys
  refine ⟨equal _ _ (.dict _ _ ?_), (stores _ ascii_plain (if_pos rfl)).1⟩
  refine .kept _ _ _ _ _ (.same _) (.kept _ _ _ _ _ (.dict _ _ (.kept _ _ _ _ _ (.same _) metrics)) (.kept _ _ _ _ _ (.same _) ?_))
  refine .kept _ _ _ _ _ (.dict _ _ (.kept _ _ _ _ _ (.same _) (.kept _ _ _ _ _ (.same _) ?_))) .nil
  exact .kept _ _ _ _ _ (.dict _ _ parameters) (agree_fields_same asciiLower _)

end Ascii

end LlmperfOrchestrator.Runtime.Redaction

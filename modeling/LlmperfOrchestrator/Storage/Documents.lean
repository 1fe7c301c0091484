import LlmperfOrchestrator.Library.Tables
import Mathlib.Data.List.Infix
import Mathlib.Data.Rat.Defs

set_option autoImplicit false

namespace LlmperfOrchestrator.Storage

open Tables

-- Instants and spans are counted in microseconds, the resolution of the stored
-- timestamps.
abbrev Instant := Int

-- JSON values. The documents the code compares (payload evidence and message
-- payloads) list their fields in sorted order, as objects compare without it.
inductive Json where
  | null
  | bool (value : Bool)
  | number (value : Rat)
  | notFinite
  | text (value : String)
  | list (items : List Json)
  | dict (fields : List (String × Json))

mutual

def Json.decideEq : (a b : Json) → Decidable (a = b)
  | .null, .null => .isTrue rfl
  | .bool a, .bool b => decidable_of_iff (a = b) (by simp)
  | .number a, .number b => decidable_of_iff (a = b) (by simp)
  | .notFinite, .notFinite => .isTrue rfl
  | .text a, .text b => decidable_of_iff (a = b) (by simp)
  | .list a, .list b => match Json.decideItems a b with
      | .isTrue same => .isTrue (congrArg _ same)
      | .isFalse differ => .isFalse fun same => differ (Json.list.inj same)
  | .dict a, .dict b => match Json.decideFields a b with
      | .isTrue same => .isTrue (congrArg _ same)
      | .isFalse differ => .isFalse fun same => differ (Json.dict.inj same)
  | .null, .bool _ | .null, .number _ | .null, .notFinite | .null, .text _ | .null, .list _ | .null, .dict _
  | .bool _, .null | .bool _, .number _ | .bool _, .notFinite | .bool _, .text _ | .bool _, .list _ | .bool _, .dict _
  | .number _, .null | .number _, .bool _ | .number _, .notFinite | .number _, .text _ | .number _, .list _
  | .number _, .dict _ | .notFinite, .null | .notFinite, .bool _ | .notFinite, .number _ | .notFinite, .text _
  | .notFinite, .list _ | .notFinite, .dict _ | .text _, .null | .text _, .bool _ | .text _, .number _
  | .text _, .notFinite | .text _, .list _ | .text _, .dict _ | .list _, .null | .list _, .bool _ | .list _, .number _
  | .list _, .notFinite | .list _, .text _ | .list _, .dict _ | .dict _, .null | .dict _, .bool _ | .dict _, .number _
  | .dict _, .notFinite | .dict _, .text _ | .dict _, .list _ => .isFalse Json.noConfusion

def Json.decideItems : (a b : List Json) → Decidable (a = b)
  | [], [] => .isTrue rfl
  | [], _ :: _ | _ :: _, [] => .isFalse (by simp)
  | a :: as, b :: bs => match Json.decideEq a b, Json.decideItems as bs with
      | .isTrue head, .isTrue tail => .isTrue (head ▸ tail ▸ rfl)
      | .isFalse differ, _ => .isFalse fun same => differ (List.cons.inj same).1
      | _, .isFalse differ => .isFalse fun same => differ (List.cons.inj same).2

def Json.decideFields : (a b : List (String × Json)) → Decidable (a = b)
  | [], [] => .isTrue rfl
  | [], _ :: _ | _ :: _, [] => .isFalse (by simp)
  | (m, a) :: as, (n, b) :: bs => match decEq m n, Json.decideEq a b, Json.decideFields as bs with
      | .isTrue name, .isTrue head, .isTrue tail => .isTrue (name ▸ head ▸ tail ▸ rfl)
      | .isFalse differ, _, _ => .isFalse fun same => differ (Prod.mk.inj (List.cons.inj same).1).1
      | _, .isFalse differ, _ => .isFalse fun same => differ (Prod.mk.inj (List.cons.inj same).1).2
      | _, _, .isFalse differ => .isFalse fun same => differ (List.cons.inj same).2

end

instance : DecidableEq Json := Json.decideEq

def Json.field (name : String) : Json → Option Json
  | .dict fields => Dict.get name fields
  | _ => none

def Json.text? : Json → Option String
  | .text value => some value
  | _ => none

-- The names that _log_value drops, after lower() and the replacement of "-".
def redactedNames : List String :=
  ["headers", "response_headers", "base_url", "api_base", "error_msg"]

def redactedFragments : List String :=
  ["api_key", "apikey", "authorization", "password", "secret", "credential", "private_key"]

section Log

-- str.lower
variable (lower : String → String)

def normalizedName (name : String) : List Char := (lower name).toList.map fun c => if c = '-' then '_' else c

def excludedText (normalized : List Char) : Bool :=
  (∃ name ∈ redactedNames, name.toList = normalized) ∨ ∃ fragment ∈ redactedFragments, fragment.toList <:+: normalized

def excluded (name : String) : Bool := excludedText (normalizedName lower name)

mutual

-- _log_value
def logValue : Json → Json
  | .notFinite => .null
  | .list items => .list (logItems items)
  | .dict fields => .dict (logFields fields)
  | .null => .null
  | .bool value => .bool value
  | .number value => .number value
  | .text value => .text value

def logItems : List Json → List Json
  | [] => []
  | item :: rest => logValue item :: logItems rest

def logFields : List (String × Json) → List (String × Json)
  | [] => []
  | (name, item) :: rest => if excluded lower name then logFields rest else (name, logValue item) :: logFields rest

end

theorem log_fields_get (fields : List (String × Json)) (name : String) :
    Dict.get name (logFields lower fields) = if excluded lower name then none else (Dict.get name fields).map (logValue lower) := by
  induction fields with
  | nil => cases excluded lower name <;> rfl
  | cons entry rest ih =>
      obtain ⟨key, item⟩ := entry
      rw [logFields, Dict.get]
      by_cases dropped : excluded lower key = true
      · rw [if_pos dropped, ih]
        by_cases here : key = name
        · rw [← here, if_pos dropped, if_pos dropped]
        · rw [if_neg here]
      · rw [if_neg dropped, Dict.get]
        by_cases here : key = name
        · rw [if_pos here, if_pos here, if_neg (here ▸ dropped), Option.map_some]
        · rw [if_neg here, if_neg here, ih]

end Log

-- str.lower on ASCII names.
def asciiLower (name : String) : String := String.ofList (name.toList.map Char.toLower)

structure WorkerResult where
  stepId : String
  metrics : List (String × Json)
  generatedText : String
  request : Json
  completedAt : Instant
deriving DecidableEq

def isNone : Option Json → Bool
  | none | some .null => true
  | some _ => false

def WorkerResult.succeeded (result : WorkerResult) : Bool := isNone (Dict.get "error_code" result.metrics)

def WorkerResult.completion (result : WorkerResult) : Json :=
  .dict [("step_id", .text result.stepId), ("metrics", .dict result.metrics),
    ("generated_text", .text result.generatedText), ("request", result.request)]

-- for_storage validates the redacted document again; no field of the model has
-- a redacted name, so the document itself is what is written.
def forStorage (completion : Json) : Json := logValue asciiLower completion

def chatMessage (role : String) (content : Json) : Json := .dict [("role", .text role), ("content", content)]

def isDict : Json → Bool
  | .dict _ => true
  | _ => false

-- WorkerCompletion.messages: the executed request's messages and its response.
def completionMessages (completion : Json) : Except String (List Json) :=
  let request := (completion.field "request").getD .null
  let answer := chatMessage "assistant" ((completion.field "generated_text").getD .null)
  match (request.field "sampling_params").bind (Json.field "messages") with
  | none | some .null =>
      match request.field "prompt" with
      | some (.list (prompt :: _)) => .ok [chatMessage "user" prompt, answer]
      | _ => .error "Invalid Worker completion request"
  | some (.list previous) =>
      if previous.all isDict then .ok (previous ++ [answer]) else .error "Input should be a valid dictionary"
  | some _ => .error "Input should be a valid list"

end LlmperfOrchestrator.Storage

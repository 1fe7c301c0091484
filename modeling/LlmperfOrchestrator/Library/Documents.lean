import Mathlib.Data.Rat.Defs

set_option autoImplicit false

namespace LlmperfOrchestrator.Documents

-- JSON values; numbers keep apart whether they were written as integers.
mutual
inductive Document where
  | null
  | boolean (value : Bool)
  | integer (value : Int)
  | number (value : Rat)
  | text (value : String)
  | list (items : Items)
  | object (fields : Fields)
inductive Items where
  | nil
  | cons (item : Document) (rest : Items)
inductive Fields where
  | nil
  | cons (key : String) (value : Document) (rest : Fields)
end

def Items.ofList : List Document → Items
  | [] => .nil
  | item :: rest => .cons item (Items.ofList rest)

def Items.toList : Items → List Document
  | .nil => []
  | .cons item rest => item :: rest.toList

def Fields.ofList : List (String × Document) → Fields
  | [] => .nil
  | (key, value) :: rest => .cons key value (Fields.ofList rest)

def Fields.get (key : String) : Fields → Option Document
  | .nil => none
  | .cons name value rest => if name = key then some value else rest.get key

def Fields.toList : Fields → List (String × Document)
  | .nil => []
  | .cons name value rest => (name, value) :: rest.toList

def Fields.keys : Fields → List String
  | .nil => []
  | .cons name _ rest => name :: rest.keys

-- fields[key] = value keeps the place of a key that is there.
def Fields.put (key : String) (value : Document) : Fields → Fields
  | .nil => .cons key value .nil
  | .cons name old rest => if name = key then .cons name value rest else .cons name old (rest.put key value)

def Fields.pop (key : String) : Fields → Fields
  | .nil => .nil
  | .cons name value rest => if name = key then rest.pop key else .cons name value (rest.pop key)

namespace Document

def listOf (items : List Document) : Document := .list (Items.ofList items)

def record (entries : List (String × Document)) : Document := .object (Fields.ofList entries)

-- A key that is left out when it has no value.
def optional (key : String) (value : Option Document) : List (String × Document) :=
  match value with
  | none => []
  | some value => [(key, value)]

end Document

@[simp] theorem items_round (items : List Document) : (Items.ofList items).toList = items := by
  induction items with
  | nil => rfl
  | cons item rest ih => rw [Items.ofList, Items.toList, ih]

theorem fields_get_put (fields : Fields) (key query : String) (value : Document) :
    (fields.put key value).get query = if key = query then some value else fields.get query := by
  cases fields with
  | nil => rfl
  | cons name old rest =>
      rw [Fields.put]
      by_cases here : name = key
      · rw [if_pos here, Fields.get, Fields.get, here]
        by_cases asked : key = query
        · rw [if_pos asked, if_pos asked]
        · rw [if_neg asked, if_neg asked, if_neg asked]
      · rw [if_neg here, Fields.get, Fields.get, fields_get_put rest]
        by_cases asked : name = query
        · rw [if_pos asked, if_pos asked, if_neg fun same => here (asked.trans same.symm)]
        · rw [if_neg asked, if_neg asked]

theorem fields_get_pop (fields : Fields) (key query : String) :
    (fields.pop key).get query = if key = query then none else fields.get query := by
  cases fields with
  | nil =>
      rw [Fields.pop, Fields.get]
      split <;> rfl
  | cons name value rest =>
      rw [Fields.pop]
      by_cases here : name = key
      · rw [if_pos here, fields_get_pop rest, Fields.get, here]
        by_cases asked : key = query
        · rw [if_pos asked, if_pos asked]
        · rw [if_neg asked, if_neg asked, if_neg asked]
      · rw [if_neg here, Fields.get, Fields.get, fields_get_pop rest]
        by_cases asked : name = query
        · rw [if_pos asked, if_pos asked, if_neg fun same => here (asked.trans same.symm)]
        · rw [if_neg asked, if_neg asked]

end LlmperfOrchestrator.Documents

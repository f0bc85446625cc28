import AutoRouteGateway.Runtime.FloatText

/-!
Owns the decoded JSON values that cross the gateway, their truth values, and
the text of the two exceptions that wrong shapes raise.

Keys of a dictionary are unique after decoding, and a lookup takes the first.
-/

namespace AutoRouteGateway.Runtime

inductive Json where
  | null
  | bool (value : Bool)
  | int (value : Int)
  | float (value : PyFloat)
  | str (text : String)
  | list (items : List Json)
  | dict (fields : List (String × Json))

abbrev Dict := List (String × Json)

/-- `fields.get(key)`. -/
def Dict.get? (key : String) : Dict → Option Json
  | [] => none
  | (name, value) :: rest => if name = key then some value else Dict.get? key rest

namespace Json

/-- `bool(value)`. -/
def truthy : Json → Bool
  | null => false
  | bool value => value
  | int value => value != 0
  | float value => !value.isZero
  | str text => text != ""
  | list items => !items.isEmpty
  | dict fields => !fields.isEmpty

/-- The truth value of `fields.get(key)`; an absent key is falsy. -/
def truthyField (key : String) (fields : Dict) : Bool :=
  match Dict.get? key fields with
  | some value => value.truthy
  | none => false

/-- `value == text`. -/
def isText (text : String) : Json → Bool
  | str own => own == text
  | _ => false

theorem isText_iff {text : String} {value : Json} :
    value.isText text = true ↔ value = .str text := by
  cases value <;> simp [isText]

/-- The type name that exception texts print. -/
def typeName : Json → String
  | null => "NoneType"
  | bool _ => "bool"
  | int _ => "int"
  | float _ => "float"
  | str _ => "str"
  | list _ => "list"
  | dict _ => "dict"

def noGetText (value : Json) : String :=
  "'" ++ value.typeName ++ "' object has no attribute 'get'"

def notSubscriptableText (value : Json) : String :=
  "'" ++ value.typeName ++ "' object is not subscriptable"

def notIterableText (value : Json) : String :=
  "'" ++ value.typeName ++ "' object is not iterable"

/-- The first character of a text, as a text. -/
def firstCharacter (text : String) : Json := .str (String.ofList (text.toList.take 1))

/-- `value[0]` of a truthy value. Dictionary keys are texts, so `0` is none of them. -/
def first : Json → Except String Json
  | list (item :: _) => .ok item
  | list [] => .error "list index out of range"
  | str text => .ok (firstCharacter text)
  | dict _ => .error "0"
  | other => .error other.notSubscriptableText

/-- The elements a `for` loop visits. -/
def elements : Json → Except String (List Json)
  | list items => .ok items
  | str text => .ok (text.toList.map fun char => .str (String.singleton char))
  | dict fields => .ok (fields.map fun field => .str field.1)
  | other => .error other.notIterableText

mutual

/-- The strings of a value at any depth, keys included. -/
def strings : Json → List String
  | null | bool _ | int _ | float _ => []
  | str text => [text]
  | list items => elementsStrings items
  | dict fields => membersStrings fields

def elementsStrings : List Json → List String
  | [] => []
  | value :: rest => value.strings ++ elementsStrings rest

def membersStrings : List (String × Json) → List String
  | [] => []
  | (name, value) :: rest => name :: (value.strings ++ membersStrings rest)

end

/-- Induction over a value and the values nested in it. -/
@[elab_as_elim]
theorem nested_induction {P : Json → Prop} (null : P .null) (bool : ∀ value, P (.bool value))
    (int : ∀ value, P (.int value)) (float : ∀ value, P (.float value))
    (str : ∀ text, P (.str text))
    (list : ∀ items : List Json, (∀ item ∈ items, P item) → P (.list items))
    (dict : ∀ fields : Dict, (∀ field ∈ fields, P field.2) → P (.dict fields))
    (value : Json) : P value := by
  apply @Json.rec P (fun items => ∀ item ∈ items, P item)
    (fun fields => ∀ field ∈ fields, P field.2) (fun field => P field.2)
    null bool int float str list dict
  · exact List.forall_mem_nil _
  · intro head tail isHead isTail
    exact List.forall_mem_cons.mpr ⟨isHead, isTail⟩
  · exact List.forall_mem_nil _
  · intro head tail isHead isTail
    exact List.forall_mem_cons.mpr ⟨isHead, isTail⟩
  · intro name value isValue
    exact isValue

end Json

end AutoRouteGateway.Runtime

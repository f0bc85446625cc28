import AutoRouteGateway.Runtime.JsonText
import AutoRouteGateway.Runtime.Text

/-!
Contract: the shape-only schemas that the recording gateway writes to its
capture file.

Owns: `schema_of`, `header_schema`, `_content_schema`, `request_schema` and
`response_schema`, and `str` of a decoded value.

Does not own: the recorder and the HTTP routes that call it. A decoded mapping has
unique names, so a loop that fills one dictionary from another is a map here.
-/

namespace AutoRouteGateway.Capture

open AutoRouteGateway.Runtime

/-! ## `str` of a decoded value -/

mutual

/-- `repr(value)`. -/
def reprText : Json → String
  | .null => "None"
  | .bool true => "True"
  | .bool false => "False"
  | .int value => String.ofList (intText value)
  | .float value => String.ofList (floatRepr value)
  | .str text => quoted text
  | .list items => "[" ++ ", ".intercalate (itemTexts items) ++ "]"
  | .dict fields => "\x7b" ++ ", ".intercalate (fieldTexts fields) ++ "\x7d"

def itemTexts : List Json → List String
  | [] => []
  | value :: rest => reprText value :: itemTexts rest

def fieldTexts : List (String × Json) → List String
  | [] => []
  | (name, value) :: rest => (quoted name ++ ": " ++ reprText value) :: fieldTexts rest

end

/-- `str(value)`. -/
def strText : Json → String
  | .str text => text
  | other => reprText other

/-- `str(fields.get(key) or fallback)`. -/
def textField (key fallback : String) (fields : Dict) : String :=
  match Dict.get? key fields with
  | some value => if value.truthy then strText value else fallback
  | none => fallback

/-- `fields.get(key)`, with `None` for an absent key. -/
def fieldOrNull (key : String) (fields : Dict) : Json := (Dict.get? key fields).getD .null

/-! ## Schemas of values -/

def sensitiveHeaders : List String :=
  ["authorization", "proxy-authorization", "x-api-key", "api-key", "cookie", "set-cookie"]

def typed (type : String) (rest : Dict) : Json := .dict (("type", .str type) :: rest)

def lengthField (length : Nat) : String × Json := ("length", .int length)

/-- `sorted(str(key) for key in value.keys())`. -/
def sortedNames (fields : Dict) : List String :=
  (fields.map Prod.fst).mergeSort fun one other => decide (one ≤ other)

mutual

def schemaOf : Json → Json
  | .null => typed "null" []
  | .bool _ => typed "boolean" []
  | .str text => typed "string" [lengthField text.length]
  | .int _ => typed "number" []
  | .float _ => typed "number" []
  | .list items =>
      typed "array" [lengthField items.length, ("items", .list (itemSchemas 3 items))]
  | .dict fields =>
      typed "object" [("keys", .list ((sortedNames fields).map .str)),
        ("fields", .dict (fieldSchemas fields))]

/-- `[schema_of(item) for item in items[:limit]]`. -/
def itemSchemas : Nat → List Json → List Json
  | 0, _ => []
  | _ + 1, [] => []
  | limit + 1, item :: rest => schemaOf item :: itemSchemas limit rest

/-- `{str(key): schema_of(item) for key, item in fields.items()}`. -/
def fieldSchemas : List (String × Json) → List (String × Json)
  | [] => []
  | (name, value) :: rest => (name, schemaOf value) :: fieldSchemas rest

end

/-- Header names are compared in lower case. -/
def isSensitive (name : String) : Bool := sensitiveHeaders.contains (lower name)

def headerSchema (headers : List (String × String)) : Dict :=
  headers.map fun header =>
    (header.1,
      if isSensitive header.1 then .str "<redacted>"
      else .dict [lengthField header.2.length])

/-! ## Schemas of messages -/

def blockSchema : Json → Json
  | .dict part =>
      if textField "type" "unknown" part = "text" then
        typed "text" [("content", typed "text" [lengthField (textField "text" "" part).length])]
      else if textField "type" "unknown" part = "image_url" then typed "image_url" []
      else typed (textField "type" "unknown" part) []
  | other => schemaOf other

def contentSchema : Json → Json
  | .str text => typed "text" [lengthField text.length]
  | .list parts =>
      typed "blocks" [lengthField parts.length, ("items", .list (parts.map blockSchema))]
  | other => schemaOf other

/-- `value if isinstance(value, list) else []`. -/
def listItems : Json → List Json
  | .list items => items
  | _ => []

/-- The value, if it is a mapping. -/
def mapping? : Json → Option Dict
  | .dict fields => some fields
  | _ => none

def messageBlock (message : Dict) : Json :=
  .dict [("role", .str (textField "role" "" message)),
    ("content", contentSchema (fieldOrNull "content" message))]

def messagesSchema (value : Json) : Json :=
  let messages := (listItems value).filterMap mapping?
  .dict [("count", .int (listItems value).length),
    ("roles", .list (messages.map fun message => .str (textField "role" "" message))),
    ("content_blocks", .list (messages.map messageBlock))]

def requestSchema (payload : Dict) : Dict :=
  payload.map fun field =>
    (field.1, if field.1 = "messages" then messagesSchema field.2 else schemaOf field.2)

/-- The `message` or the `delta` of a choice, if it is a mapping. -/
def turnSchema (name : String) (choice : Dict) : Dict :=
  match (Dict.get? name choice).bind mapping? with
  | some message =>
      [(name, .dict [("role", fieldOrNull "role" message),
        ("content", contentSchema (fieldOrNull "content" message))])]
  | none => []

def firstChoiceSchema : List Json → Dict
  | .dict choice :: _ =>
      ("finish_reason", fieldOrNull "finish_reason" choice) ::
        (turnSchema "message" choice ++ turnSchema "delta" choice)
  | _ => []

def choicesSchema (value : Json) : Json :=
  .dict [("count", .int (listItems value).length),
    ("first", .dict (firstChoiceSchema (listItems value)))]

def responseSchema (body : Dict) : Dict :=
  body.map fun field =>
    (field.1, if field.1 = "choices" then choicesSchema field.2 else schemaOf field.2)

/-- A prompt leaves only its length. -/
example : contentSchema (.str "private prompt") =
    .dict [("type", .str "text"), ("length", .int 14)] := rfl

end AutoRouteGateway.Capture

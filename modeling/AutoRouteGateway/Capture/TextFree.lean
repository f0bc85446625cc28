import AutoRouteGateway.Capture.SchemaExtract

/-!
Contract: a captured schema is the same for all texts of the same structure.

Owns: what of a payload, of a response and of a header map a schema may show, the
comparison of schemas up to lengths, and the two-run theorem.

The public part of a value keeps its structure and empties its strings. A schema
with its lengths dropped is a function of the public part.
-/

namespace AutoRouteGateway.Capture

open AutoRouteGateway.Runtime

/-! ## Public parts -/

mutual

/-- The value with every string in it emptied; names of fields stay. -/
def blank : Json → Json
  | .str _ => .str ""
  | .list items => .list (blankItems items)
  | .dict fields => .dict (blankFields fields)
  | .null => .null
  | .bool value => .bool value
  | .int value => .int value
  | .float value => .float value

def blankItems : List Json → List Json
  | [] => []
  | item :: rest => blank item :: blankItems rest

def blankFields : List (String × Json) → List (String × Json)
  | [] => []
  | (name, value) :: rest => (name, blank value) :: blankFields rest

end

/-- A value of each field, by the rule for its name. -/
def eachField (rule : String → Json → Json) (fields : Dict) : Dict :=
  fields.map fun field => (field.1, rule field.1 field.2)

/-- The fields of a mapping by a rule; any other value is emptied. -/
def publicFields (rule : String → Json → Json) : Json → Json
  | .dict fields => .dict (eachField rule fields)
  | other => blank other

/-- The items of a list by a rule; any other value is emptied. -/
def publicItems (rule : Json → Json) : Json → Json
  | .list items => .list (items.map rule)
  | other => blank other

/-- A content block shows its type. -/
def blockRule (name : String) (value : Json) : Json :=
  if name = "type" then value else blank value

def publicBlock : Json → Json := publicFields blockRule

def publicContent : Json → Json := publicItems publicBlock

/-- A message or a delta shows its role. -/
def messageRule (name : String) (value : Json) : Json :=
  if name = "role" then value
  else if name = "content" then publicContent value
  else blank value

def publicMessage : Json → Json := publicFields messageRule

/-- A choice shows its finish reason. -/
def choiceRule (name : String) (value : Json) : Json :=
  if name = "finish_reason" then value
  else if name = "message" ∨ name = "delta" then publicMessage value
  else blank value

def publicChoice : Json → Json := publicFields choiceRule

def publicRequest (payload : Dict) : Dict :=
  eachField (fun name value =>
    if name = "messages" then publicItems publicMessage value else blank value) payload

def publicBody (body : Dict) : Dict :=
  eachField (fun name value =>
    if name = "choices" then publicItems publicChoice value else blank value) body

/-! ## Schemas up to lengths -/

/-- An integer under a length field. -/
def isLength (name : String) : Json → Bool
  | .int _ => name == "length"
  | _ => false

mutual

/-- The value with `0` for every integer under a length field. -/
def dropLengths : Json → Json
  | .list items => .list (itemsDropLengths items)
  | .dict fields => .dict (fieldsDropLengths fields)
  | .null => .null
  | .bool value => .bool value
  | .int value => .int value
  | .float value => .float value
  | .str text => .str text

def itemsDropLengths : List Json → List Json
  | [] => []
  | item :: rest => dropLengths item :: itemsDropLengths rest

def fieldsDropLengths : List (String × Json) → List (String × Json)
  | [] => []
  | (name, value) :: rest =>
      (name, if isLength name value then .int 0 else dropLengths value) ::
        fieldsDropLengths rest

end

/-- The value of a field up to lengths. -/
def fieldDropLengths (name : String) (value : Json) : Json :=
  if isLength name value then .int 0 else dropLengths value

theorem blankItems_eq_map (items : List Json) : blankItems items = items.map blank := by
  induction items with
  | nil => rfl
  | cons item rest inductionHypothesis =>
      rw [blankItems, inductionHypothesis, List.map_cons]

theorem blankFields_eq (fields : Dict) :
    blankFields fields = eachField (fun _ value => blank value) fields := by
  induction fields with
  | nil => rfl
  | cons field rest inductionHypothesis =>
      rw [blankFields, inductionHypothesis]
      rfl

theorem itemsDropLengths_eq_map (items : List Json) :
    itemsDropLengths items = items.map dropLengths := by
  induction items with
  | nil => rfl
  | cons item rest inductionHypothesis =>
      rw [itemsDropLengths, inductionHypothesis, List.map_cons]

theorem fieldsDropLengths_eq (fields : Dict) :
    fieldsDropLengths fields = eachField fieldDropLengths fields := by
  induction fields with
  | nil => rfl
  | cons field rest inductionHypothesis =>
      rw [fieldsDropLengths, inductionHypothesis]
      rfl

theorem fieldsDropLengths_cons (name : String) (value : Json) (rest : Dict) :
    fieldsDropLengths ((name, value) :: rest) =
      (name, fieldDropLengths name value) :: fieldsDropLengths rest := rfl

theorem fieldsDropLengths_append (one other : Dict) :
    fieldsDropLengths (one ++ other) = fieldsDropLengths one ++ fieldsDropLengths other := by
  rw [fieldsDropLengths_eq, fieldsDropLengths_eq, fieldsDropLengths_eq]
  exact List.map_append

theorem get?_eachField (rule : String → Json → Json) (key : String) (fields : Dict) :
    Dict.get? key (eachField rule fields) = (Dict.get? key fields).map (rule key) := by
  induction fields with
  | nil => rfl
  | cons field rest inductionHypothesis =>
      obtain ⟨name, value⟩ := field
      change Dict.get? key ((name, rule name value) :: eachField rule rest) = _
      rw [Dict.get?, Dict.get?]
      by_cases named : name = key
      · rw [if_pos named, if_pos named, named, Option.map_some]
      · rw [if_neg named, if_neg named, inductionHypothesis]

theorem names_eachField (rule : String → Json → Json) (fields : Dict) :
    (eachField rule fields).map Prod.fst = fields.map Prod.fst := by
  rw [eachField, List.map_map]
  rfl

/-- Two dictionaries whose fields agree up to lengths under a rule. -/
theorem fieldsDropLengths_eachField {schema rule : String → Json → Json} {fields : Dict}
    (agree : ∀ name value, fieldDropLengths name (schema name (rule name value)) =
      fieldDropLengths name (schema name value)) :
    fieldsDropLengths (eachField schema (eachField rule fields)) =
      fieldsDropLengths (eachField schema fields) := by
  rw [fieldsDropLengths_eq, fieldsDropLengths_eq]
  simp only [eachField, List.map_map]
  apply List.map_congr_left
  intro field _
  exact congrArg (Prod.mk field.1) (agree field.1 field.2)

theorem dropLengths_dict (fields : Dict) :
    dropLengths (.dict fields) = .dict (fieldsDropLengths fields) := rfl

/-- Lengths are dropped inside a mapping, never the mapping itself. -/
theorem fieldDropLengths_dict (name : String) (fields : Dict) :
    fieldDropLengths name (.dict fields) = dropLengths (.dict fields) := rfl

theorem fieldDropLengths_list (name : String) (items : List Json) :
    fieldDropLengths name (.list items) = dropLengths (.list items) := rfl

theorem dropLengths_typed (type : String) (rest : Dict) :
    dropLengths (typed type rest) = typed type (fieldsDropLengths rest) := rfl

/-! ## Schemas of values -/

theorem schemaOf_eq_dict (value : Json) : ∃ fields, schemaOf value = .dict fields := by
  cases value <;> exact ⟨_, rfl⟩

theorem fieldDropLengths_schemaOf (name : String) (value : Json) :
    fieldDropLengths name (schemaOf value) = dropLengths (schemaOf value) := by
  obtain ⟨fields, schema⟩ := schemaOf_eq_dict value
  rw [schema]
  rfl

theorem itemSchemas_eq_map (limit : Nat) (items : List Json) :
    itemSchemas limit items = (items.take limit).map schemaOf := by
  induction limit generalizing items with
  | zero => simp [itemSchemas]
  | succ limit inductionHypothesis =>
      cases items with
      | nil => rfl
      | cons item rest =>
          rw [itemSchemas, inductionHypothesis, List.take_succ_cons, List.map_cons]

theorem fieldSchemas_eq (fields : Dict) :
    fieldSchemas fields = eachField (fun _ value => schemaOf value) fields := by
  induction fields with
  | nil => rfl
  | cons field rest inductionHypothesis =>
      rw [fieldSchemas, inductionHypothesis]
      rfl

theorem sortedNames_blankFields (fields : Dict) :
    sortedNames (blankFields fields) = sortedNames fields := by
  rw [sortedNames, blankFields_eq, names_eachField, sortedNames]

/-- A schema up to lengths does not see the strings of its value. -/
theorem schemaOf_blank (value : Json) :
    dropLengths (schemaOf (blank value)) = dropLengths (schemaOf value) := by
  induction value using Json.nested_induction with
  | null => rfl
  | bool value => rfl
  | int value => rfl
  | float value => rfl
  | str text => rfl
  | list items inductionHypothesis =>
      have itemsAgree : itemsDropLengths (itemSchemas 3 (blankItems items)) =
          itemsDropLengths (itemSchemas 3 items) := by
        rw [itemsDropLengths_eq_map, itemsDropLengths_eq_map, itemSchemas_eq_map,
          itemSchemas_eq_map, blankItems_eq_map, ← List.map_take]
        simp only [List.map_map]
        apply List.map_congr_left
        intro item isItem
        exact inductionHypothesis item (List.mem_of_mem_take isItem)
      rw [blank, schemaOf, schemaOf, dropLengths_typed, dropLengths_typed]
      simp [fieldsDropLengths, isLength, lengthField, dropLengths, itemsAgree]
  | dict fields inductionHypothesis =>
      have fieldsAgree : fieldsDropLengths (fieldSchemas (blankFields fields)) =
          fieldsDropLengths (fieldSchemas fields) := by
        rw [fieldsDropLengths_eq, fieldsDropLengths_eq, fieldSchemas_eq, fieldSchemas_eq,
          blankFields_eq]
        simp only [eachField, List.map_map]
        apply List.map_congr_left
        intro field isField
        simp only [Function.comp_apply, fieldDropLengths_schemaOf]
        rw [inductionHypothesis field isField]
      rw [blank, schemaOf, schemaOf, dropLengths_typed, dropLengths_typed]
      simp [fieldsDropLengths, isLength, dropLengths, sortedNames_blankFields, fieldsAgree]

/-! ## Schemas of messages -/

theorem textField_eachField {rule : String → Json → Json} {key : String}
    (keeps : ∀ value, rule key value = value) (fallback : String) (fields : Dict) :
    textField key fallback (eachField rule fields) = textField key fallback fields := by
  rw [textField, get?_eachField, textField]
  cases Dict.get? key fields with
  | none => rfl
  | some value => rw [Option.map_some, keeps]

theorem fieldOrNull_eachField {rule : String → Json → Json} {key : String}
    (keepsNull : rule key .null = .null) (fields : Dict) :
    fieldOrNull key (eachField rule fields) = rule key (fieldOrNull key fields) := by
  rw [fieldOrNull, get?_eachField, fieldOrNull]
  cases Dict.get? key fields with
  | none => exact keepsNull.symm
  | some value => rfl

theorem dropLengths_textBlock (length : Nat) :
    dropLengths (typed "text" [("content", typed "text" [lengthField length])]) =
      dropLengths (typed "text" [("content", typed "text" [lengthField 0])]) := rfl

theorem blockSchema_publicBlock (part : Json) :
    dropLengths (blockSchema (publicBlock part)) = dropLengths (blockSchema part) := by
  cases part with
  | dict fields =>
      have sameType : textField "type" "unknown" (eachField blockRule fields) =
          textField "type" "unknown" fields :=
        textField_eachField (fun value => if_pos rfl) _ _
      change dropLengths (blockSchema (.dict (eachField blockRule fields))) = _
      rw [blockSchema, blockSchema, sameType]
      by_cases isText : textField "type" "unknown" fields = "text"
      · rw [if_pos isText, if_pos isText, dropLengths_textBlock,
          dropLengths_textBlock (textField "text" "" fields).length]
      · rw [if_neg isText, if_neg isText]
  | null => rfl
  | bool value => rfl
  | int value => rfl
  | float value => rfl
  | str text => exact schemaOf_blank (.str text)
  | list items => exact schemaOf_blank (.list items)

theorem contentSchema_publicContent (content : Json) :
    dropLengths (contentSchema (publicContent content)) =
      dropLengths (contentSchema content) := by
  cases content with
  | list parts =>
      have partsAgree : itemsDropLengths ((parts.map publicBlock).map blockSchema) =
          itemsDropLengths (parts.map blockSchema) := by
        rw [itemsDropLengths_eq_map, itemsDropLengths_eq_map]
        simp only [List.map_map]
        apply List.map_congr_left
        intro part _
        exact blockSchema_publicBlock part
      change dropLengths (contentSchema (.list (parts.map publicBlock))) = _
      rw [contentSchema, contentSchema, dropLengths_typed, dropLengths_typed]
      simp only [fieldsDropLengths, isLength, lengthField, dropLengths, partsAgree]
      rfl
  | str text => rfl
  | null => rfl
  | bool value => rfl
  | int value => rfl
  | float value => rfl
  | dict fields => exact schemaOf_blank (.dict fields)

theorem fieldOrNull_role (message : Dict) :
    fieldOrNull "role" (eachField messageRule message) = fieldOrNull "role" message :=
  fieldOrNull_eachField rfl message

theorem contentSchema_messageRule (message : Dict) :
    dropLengths (contentSchema (fieldOrNull "content" (eachField messageRule message))) =
      dropLengths (contentSchema (fieldOrNull "content" message)) := by
  have sameContent : fieldOrNull "content" (eachField messageRule message) =
      publicContent (fieldOrNull "content" message) :=
    fieldOrNull_eachField (by rfl) message
  rw [sameContent, contentSchema_publicContent]

theorem mapping?_publicFields (rule : String → Json → Json) (value : Json) :
    mapping? (publicFields rule value) = (mapping? value).map (eachField rule) := by
  cases value <;> rfl

theorem listItems_publicItems (rule : Json → Json) (value : Json) :
    listItems (publicItems rule value) = (listItems value).map rule := by
  cases value <;> rfl

theorem mappings_publicItems (rule : String → Json → Json) (value : Json) :
    (listItems (publicItems (publicFields rule) value)).filterMap mapping? =
      ((listItems value).filterMap mapping?).map (eachField rule) := by
  rw [listItems_publicItems, List.filterMap_map, List.map_filterMap]
  apply List.filterMap_congr
  intro item _
  exact mapping?_publicFields rule item

theorem fieldDropLengths_of_ne {name : String} (named : name ≠ "length") (value : Json) :
    fieldDropLengths name value = dropLengths value := by
  have notLength : isLength name value = false := by
    cases value with
    | int value => exact beq_false_of_ne named
    | _ => rfl
  rw [fieldDropLengths, notLength]
  rfl

/-! ## Requests -/

theorem messageBlock_eachField (message : Dict) :
    dropLengths (messageBlock (eachField messageRule message)) =
      dropLengths (messageBlock message) := by
  have sameRole : textField "role" "" (eachField messageRule message) =
      textField "role" "" message :=
    textField_eachField (fun value => if_pos rfl) _ _
  rw [messageBlock, messageBlock, sameRole, dropLengths, dropLengths, fieldsDropLengths_eq,
    fieldsDropLengths_eq]
  simp only [eachField, List.map_cons, List.map_nil]
  rw [fieldDropLengths_of_ne (by decide) (contentSchema _), ← eachField,
    contentSchema_messageRule, fieldDropLengths_of_ne (by decide) (contentSchema _)]

theorem messagesSchema_public (value : Json) :
    dropLengths (messagesSchema (publicItems publicMessage value)) =
      dropLengths (messagesSchema value) := by
  have sameCount : (listItems (publicItems publicMessage value)).length =
      (listItems value).length := by
    rw [listItems_publicItems, List.length_map]
  have sameRoles : ∀ message : Dict,
      textField "role" "" (eachField messageRule message) = textField "role" "" message :=
    fun message => textField_eachField (fun value => if_pos rfl) _ message
  have blocksAgree : ∀ messages : List Dict,
      dropLengths (.list ((messages.map (eachField messageRule)).map messageBlock)) =
        dropLengths (.list (messages.map messageBlock)) := by
    intro messages
    rw [dropLengths, dropLengths, itemsDropLengths_eq_map, itemsDropLengths_eq_map]
    simp only [List.map_map]
    congr 1
    apply List.map_congr_left
    intro message _
    exact messageBlock_eachField message
  rw [messagesSchema, messagesSchema, sameCount, publicMessage, mappings_publicItems]
  simp only [dropLengths_dict, fieldsDropLengths_cons, fieldDropLengths_list, blocksAgree]
  simp only [List.map_map, Function.comp_def, sameRoles]

theorem requestSchema_eq (payload : Dict) :
    requestSchema payload = eachField (fun name value =>
      if name = "messages" then messagesSchema value else schemaOf value) payload := rfl

theorem requestSchema_public (payload : Dict) :
    fieldsDropLengths (requestSchema (publicRequest payload)) =
      fieldsDropLengths (requestSchema payload) := by
  rw [requestSchema_eq, requestSchema_eq]
  apply fieldsDropLengths_eachField
  intro name value
  by_cases messages : name = "messages"
  · rw [if_pos messages, if_pos messages, if_pos messages,
      fieldDropLengths_of_ne (by rw [messages]; decide),
      fieldDropLengths_of_ne (by rw [messages]; decide), messagesSchema_public]
  · rw [if_neg messages, if_neg messages, if_neg messages, fieldDropLengths_schemaOf,
      fieldDropLengths_schemaOf, schemaOf_blank]

/-! ## Responses -/

theorem turnSchema_public {name : String} (turn : name = "message" ∨ name = "delta")
    (choice : Dict) :
    fieldsDropLengths (turnSchema name (eachField choiceRule choice)) =
      fieldsDropLengths (turnSchema name choice) := by
  have sameTurn : (Dict.get? name (eachField choiceRule choice)).bind mapping? =
      ((Dict.get? name choice).bind mapping?).map (eachField messageRule) := by
    have publicTurn : choiceRule name = publicMessage := by
      funext value
      have notReason : name ≠ "finish_reason" := by
        rcases turn with isMessage | isDelta
        · rw [isMessage]; decide
        · rw [isDelta]; decide
      rw [choiceRule, if_neg notReason, if_pos turn]
    rw [get?_eachField, publicTurn]
    cases Dict.get? name choice with
    | none => rfl
    | some value => exact mapping?_publicFields messageRule value
  rw [turnSchema, turnSchema, sameTurn]
  cases (Dict.get? name choice).bind mapping? with
  | none => rfl
  | some message =>
      simp only [Option.map_some]
      rw [fieldOrNull_role]
      simp only [fieldsDropLengths_eq, eachField, List.map_cons, List.map_nil,
        fieldDropLengths_dict, dropLengths]
      rw [fieldDropLengths_of_ne (by decide) (contentSchema _), ← eachField,
        contentSchema_messageRule, fieldDropLengths_of_ne (by decide) (contentSchema _)]

theorem firstChoiceSchema_public (choices : List Json) :
    fieldsDropLengths (firstChoiceSchema (choices.map publicChoice)) =
      fieldsDropLengths (firstChoiceSchema choices) := by
  cases choices with
  | nil => rfl
  | cons choice rest =>
      cases choice with
      | dict fields =>
          have sameReason : fieldOrNull "finish_reason" (eachField choiceRule fields) =
              fieldOrNull "finish_reason" fields :=
            fieldOrNull_eachField rfl fields
          change fieldsDropLengths (firstChoiceSchema
            (.dict (eachField choiceRule fields) :: rest.map publicChoice)) = _
          rw [firstChoiceSchema, firstChoiceSchema, sameReason, fieldsDropLengths_cons,
            fieldsDropLengths_cons, fieldsDropLengths_append, fieldsDropLengths_append,
            turnSchema_public (Or.inl rfl), turnSchema_public (Or.inr rfl)]
      | _ => rfl

theorem choicesSchema_public (value : Json) :
    dropLengths (choicesSchema (publicItems publicChoice value)) =
      dropLengths (choicesSchema value) := by
  rw [choicesSchema, choicesSchema, listItems_publicItems, List.length_map]
  simp only [dropLengths_dict, fieldsDropLengths_cons, fieldDropLengths_dict,
    firstChoiceSchema_public]

theorem responseSchema_eq (body : Dict) :
    responseSchema body = eachField (fun name value =>
      if name = "choices" then choicesSchema value else schemaOf value) body := rfl

theorem responseSchema_public (body : Dict) :
    fieldsDropLengths (responseSchema (publicBody body)) =
      fieldsDropLengths (responseSchema body) := by
  rw [responseSchema_eq, responseSchema_eq]
  apply fieldsDropLengths_eachField
  intro name value
  by_cases choices : name = "choices"
  · rw [if_pos choices, if_pos choices, if_pos choices,
      fieldDropLengths_of_ne (by rw [choices]; decide),
      fieldDropLengths_of_ne (by rw [choices]; decide), choicesSchema_public]
  · rw [if_neg choices, if_neg choices, if_neg choices, fieldDropLengths_schemaOf,
      fieldDropLengths_schemaOf, schemaOf_blank]

/-! ## Headers -/

/-- What a header of the name shows, up to its length. -/
def headerShape (name : String) : Json :=
  if isSensitive name then .str "<redacted>" else .dict [lengthField 0]

theorem get?_headerSchema (name : String) (headers : List (String × String)) :
    Dict.get? name (fieldsDropLengths (headerSchema headers)) =
      if name ∈ headers.map Prod.fst then some (headerShape name) else none := by
  induction headers with
  | nil => rfl
  | cons header rest inductionHypothesis =>
      obtain ⟨own, value⟩ := header
      have ownShape : fieldDropLengths own
          (if isSensitive own then .str "<redacted>" else .dict [lengthField value.length]) =
            headerShape own := by
        rw [headerShape]
        by_cases sensitive : isSensitive own = true
        · rw [if_pos sensitive, if_pos sensitive]
          rfl
        · rw [if_neg sensitive, if_neg sensitive]
          rfl
      rw [headerSchema, List.map_cons, ← headerSchema, fieldsDropLengths_cons, ownShape,
        Dict.get?, List.map_cons]
      by_cases named : own = name
      · rw [if_pos named, named, if_pos List.mem_cons_self]
      · have sameMembership : name ∈ own :: rest.map Prod.fst ↔ name ∈ rest.map Prod.fst := by
          rw [List.mem_cons]
          exact or_iff_right (Ne.symm named)
        rw [if_neg named, inductionHypothesis]
        simp only [sameMembership]

theorem isSensitive_iff {name : String} :
    isSensitive name = true ↔ lower name ∈ sensitiveHeaders := List.contains_iff_mem

theorem get?_headerSchema_sensitive {name : String} (sensitive : isSensitive name = true)
    (headers : List (String × String)) :
    Dict.get? name (headerSchema headers) =
      if name ∈ headers.map Prod.fst then some (.str "<redacted>") else none := by
  induction headers with
  | nil => rfl
  | cons header rest inductionHypothesis =>
      obtain ⟨own, value⟩ := header
      rw [headerSchema, List.map_cons, ← headerSchema, Dict.get?, List.map_cons]
      by_cases named : own = name
      · rw [if_pos named, named, if_pos sensitive, if_pos List.mem_cons_self]
      · have sameMembership : name ∈ own :: rest.map Prod.fst ↔ name ∈ rest.map Prod.fst := by
          rw [List.mem_cons]
          exact or_iff_right (Ne.symm named)
        rw [if_neg named, inductionHypothesis]
        simp only [sameMembership]

/-- Two header maps with the same names, in any order. -/
def SameNames (one other : List (String × String)) : Prop :=
  ∀ name, name ∈ one.map Prod.fst ↔ name ∈ other.map Prod.fst

/-! ## Two captures -/

/-- Payloads, bodies and header maps that differ in their texts only are captured
alike up to lengths, and sensitive headers alike outright. -/
theorem schemas_forget_texts :
    (∀ one other : Dict, publicRequest one = publicRequest other →
      fieldsDropLengths (requestSchema one) = fieldsDropLengths (requestSchema other)) ∧
    (∀ one other : Dict, publicBody one = publicBody other →
      fieldsDropLengths (responseSchema one) = fieldsDropLengths (responseSchema other)) ∧
    (∀ one other : List (String × String), SameNames one other → ∀ name,
      Dict.get? name (fieldsDropLengths (headerSchema one)) =
        Dict.get? name (fieldsDropLengths (headerSchema other)) ∧
      (lower name ∈ sensitiveHeaders →
        Dict.get? name (headerSchema one) = Dict.get? name (headerSchema other))) := by
  refine ⟨?_, ?_, ?_⟩
  · intro one other samePublic
    calc fieldsDropLengths (requestSchema one)
        = fieldsDropLengths (requestSchema (publicRequest one)) :=
          (requestSchema_public one).symm
      _ = fieldsDropLengths (requestSchema (publicRequest other)) := by rw [samePublic]
      _ = fieldsDropLengths (requestSchema other) := requestSchema_public other
  · intro one other samePublic
    calc fieldsDropLengths (responseSchema one)
        = fieldsDropLengths (responseSchema (publicBody one)) :=
          (responseSchema_public one).symm
      _ = fieldsDropLengths (responseSchema (publicBody other)) := by rw [samePublic]
      _ = fieldsDropLengths (responseSchema other) := responseSchema_public other
  · intro one other sameNames name
    constructor
    · rw [get?_headerSchema, get?_headerSchema]
      simp only [sameNames name]
    · intro listed
      have sensitive := isSensitive_iff.mpr listed
      rw [get?_headerSchema_sensitive sensitive, get?_headerSchema_sensitive sensitive]
      simp only [sameNames name]

/-- A request with a single message of the user. -/
def userRequest (text : String) : Dict :=
  [("messages", .list [.dict [("role", .str "user"), ("content", .str text)]])]

/-- Two prompts in one request, and two bearer tokens in one header. -/
theorem schemas_forget_texts_prompt :
    fieldsDropLengths (requestSchema (userRequest "private")) =
        fieldsDropLengths (requestSchema (userRequest "other")) ∧
      Dict.get? "Authorization" (headerSchema [("Authorization", "Bearer a")]) =
        Dict.get? "Authorization" (headerSchema [("Authorization", "Bearer bc")]) :=
  ⟨schemas_forget_texts.1 _ _ (by rfl),
    (schemas_forget_texts.2.2 _ _ (fun _ => Iff.rfl) "Authorization").2 (by decide +kernel)⟩

end AutoRouteGateway.Capture

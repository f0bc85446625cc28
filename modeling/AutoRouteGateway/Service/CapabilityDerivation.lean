import Mathlib.Tactic.SplitIfs
import AutoRouteGateway.Service.Payload

/-!
Contract: the capabilities that a payload asks for, read off its JSON.

Owns: what each capability says about the fields of a payload, and the exact
condition on the shapes of `messages` and `stream_options` under which the
derivation does not raise and finds just these.

Does not own: the checks of the HTTP layer, which looks at `model` and `stream`
only.
-/

namespace AutoRouteGateway.Service

open AutoRouteGateway.Domain
open AutoRouteGateway.Runtime

/-! ## What the fields say -/

/-- A message of the list holds an image block in its content list. -/
def ShowsImage (payload : Dict) : Prop :=
  ∃ messages, Dict.get? "messages" payload = some (.list messages) ∧
    ∃ message, .dict message ∈ messages ∧
      ∃ blocks, Dict.get? "content" message = some (.list blocks) ∧
        ∃ block, .dict block ∈ blocks ∧ Dict.get? "type" block = some (.str "image_url")

def HasSeveralMessages (payload : Dict) : Prop :=
  ∃ messages, Dict.get? "messages" payload = some (.list messages) ∧ 2 ≤ messages.length

/-- A stream whose options refuse the usage. -/
def RefusesUsage (payload : Dict) : Prop :=
  Json.truthyField "stream" payload = true ∧
    ∃ options value, Dict.get? "stream_options" payload = some (.dict options) ∧
      Dict.get? "include_usage" options = some value ∧ value.truthy = false

/-- The set holds a capability exactly if the payload asks for it. -/
structure AskedFor (payload : Dict) (required : CapabilitySet) : Prop where
  vision : .visionInput ∈ required ↔ ShowsImage payload
  multiTurn : .multiTurn ∈ required ↔ HasSeveralMessages payload
  stream : .stream ∈ required ↔ Json.truthyField "stream" payload = true
  tools : .tools ∈ required ↔ Json.truthyField "tools" payload = true
  structuredOutput : .structuredOutput ∈ required ↔
    Json.truthyField "response_format" payload = true
  usage : .usage ∈ required ↔ ¬ RefusesUsage payload

/-! ## What the derivation reads -/

theorem mem_requiredCapabilities (stream tools structuredOutput visionInput multiTurn usage : Bool)
    (capability : Capability) :
    capability ∈ requiredCapabilitiesFromRequest stream tools structuredOutput visionInput multiTurn
        usage ↔
      capability = .text ∨ capability = .stream ∧ stream = true ∨
        capability = .tools ∧ tools = true ∨
        capability = .structuredOutput ∧ structuredOutput = true ∨
        capability = .visionInput ∧ visionInput = true ∨
        capability = .multiTurn ∧ multiTurn = true ∨ capability = .usage ∧ usage = true := by
  unfold requiredCapabilitiesFromRequest
  cases stream <;> cases tools <;> cases structuredOutput <;> cases visionInput <;>
    cases multiTurn <;> cases usage <;> cases capability <;> decide

theorem hasImageBlock_iff {message : Json} :
    hasImageBlock message = true ↔
      ∃ fields, message = .dict fields ∧
        ∃ blocks, Dict.get? "content" fields = some (.list blocks) ∧
          ∃ block, .dict block ∈ blocks ∧ Dict.get? "type" block = some (.str "image_url") := by
  constructor
  · intro shown
    cases message with
    | dict fields =>
        cases found : Dict.get? "content" fields with
        | none => simp [hasImageBlock, found] at shown
        | some content =>
            cases content with
            | list blocks =>
                simp only [hasImageBlock, found, List.any_eq_true] at shown
                obtain ⟨block, member, isImage⟩ := shown
                cases block with
                | dict inner =>
                    cases isType : Dict.get? "type" inner with
                    | none => simp [isType] at isImage
                    | some value =>
                        simp only [isType, Json.isText_iff] at isImage
                        exact ⟨fields, rfl, blocks, found, inner, member, isImage ▸ isType⟩
                | _ => cases isImage
            | _ => simp [hasImageBlock, found] at shown
    | _ => cases shown
  · rintro ⟨fields, rfl, blocks, isContent, block, member, isType⟩
    simp only [hasImageBlock, isContent, List.any_eq_true]
    exact ⟨.dict block, member, by simp [isType, Json.isText]⟩

theorem any_hasImageBlock_iff {messages : List Json} :
    messages.any hasImageBlock = true ↔
      ∃ message, .dict message ∈ messages ∧
        ∃ blocks, Dict.get? "content" message = some (.list blocks) ∧
          ∃ block, .dict block ∈ blocks ∧ Dict.get? "type" block = some (.str "image_url") := by
  simp only [List.any_eq_true, hasImageBlock_iff]
  constructor
  · rintro ⟨message, member, fields, rfl, shown⟩
    exact ⟨fields, member, shown⟩
  · rintro ⟨fields, member, shown⟩
    exact ⟨.dict fields, member, fields, rfl, shown⟩

/-! ## When the derivation is total and exact -/

/-- Absent or falsy messages, a list, or a text of one character or an object of
one field, which a `for` loop takes for a single message. -/
def MessagesRead (payload : Dict) : Prop :=
  ∀ value, Dict.get? "messages" payload = some value → value.truthy = true →
    (∃ messages, value = .list messages) ∨ (∃ text, value = .str text ∧ text.toList.length = 1) ∨
      ∃ field, value = .dict [field]

/-- Absent options, or an object. -/
def OptionsRead (payload : Dict) : Prop :=
  ∀ value, Dict.get? "stream_options" payload = some value → ∃ options, value = .dict options

/-- What the loop runs over: the list, or at most one element that is no object. -/
structure ReadAs (payload : Dict) (messages : List Json) : Prop where
  images : messages.any hasImageBlock = true ↔ ShowsImage payload
  several : 1 < messages.length ↔ HasSeveralMessages payload

/-- The elements of a value that is no list are no objects. -/
theorem elements_no_image {value : Json} {elements : List Json}
    (noList : ∀ messages, value ≠ .list messages) (isElements : value.elements = .ok elements) :
    elements.any hasImageBlock = false := by
  rw [List.any_eq_false]
  cases value with
  | list items => exact absurd rfl (noList items)
  | str text =>
      cases isElements
      intro element member
      obtain ⟨char, -, rfl⟩ := List.mem_map.mp member
      exact Bool.false_ne_true
  | dict fields =>
      cases isElements
      intro element member
      obtain ⟨field, -, rfl⟩ := List.mem_map.mp member
      exact Bool.false_ne_true
  | null | bool _ | int _ | float _ => cases isElements

theorem readAs_of_noList {payload : Dict} {elements : List Json}
    (noList : ∀ messages, Dict.get? "messages" payload ≠ some (.list messages))
    (noImage : elements.any hasImageBlock = false) :
    ReadAs payload elements ↔ elements.length ≤ 1 := by
  have noMessages : ∀ messages, ¬ Dict.get? "messages" payload = some (.list messages) := noList
  constructor
  · intro read
    by_contra several
    obtain ⟨messages, isList, -⟩ := read.several.mp (Nat.lt_of_not_le several)
    exact noList messages isList
  · intro short
    constructor
    · simp [noImage, ShowsImage, noMessages]
    · simp [HasSeveralMessages, noMessages, short]

theorem readAs_list {payload : Dict} {messages : List Json}
    (isList : Dict.get? "messages" payload = some (.list messages)) : ReadAs payload messages where
  images := by
    rw [any_hasImageBlock_iff, ShowsImage, isList]
    simp
  several := by
    rw [HasSeveralMessages, isList]
    simp [Nat.succ_le_iff]

/-- The loop over the messages runs, over what the payload says, exactly for the
shapes that are read. -/
theorem messages_read_iff (payload : Dict) :
    (∃ elements, (messagesOf payload).elements = .ok elements ∧ ReadAs payload elements) ↔
      MessagesRead payload := by
  unfold messagesOf MessagesRead
  cases found : Dict.get? "messages" payload with
  | none =>
      refine iff_of_true ⟨[], rfl, ?_⟩ nofun
      exact (readAs_of_noList (by simp [found]) rfl).mpr (Nat.zero_le 1)
  | some value =>
      cases truthy : value.truthy with
      | false =>
          refine iff_of_true ⟨[], by simp [truthy, Json.elements], ?_⟩ (by simp [truthy])
          cases value with
          | list messages =>
              cases messages with
              | nil => exact readAs_list found
              | cons message messages => cases truthy
          | _ => exact (readAs_of_noList (by simp [found]) rfl).mpr (Nat.zero_le 1)
      | true =>
          simp only [truthy, if_true, Option.some.injEq, forall_eq', forall_const]
          have single : ∀ elements, (∀ messages, value ≠ .list messages) →
              value.elements = .ok elements →
              ((∃ elements, value.elements = .ok elements ∧ ReadAs payload elements) ↔
                elements.length ≤ 1) := by
            intro elements noList isElements
            have noMessages : ∀ messages, Dict.get? "messages" payload ≠ some (.list messages) :=
              fun messages isList => noList messages (Option.some.inj (found.symm.trans isList))
            rw [isElements, ← readAs_of_noList noMessages (elements_no_image noList isElements)]
            simp
          cases value with
          | list messages => exact iff_of_true ⟨messages, rfl, readAs_list found⟩ (by simp)
          | str text =>
              have nonempty : text.toList.length ≠ 0 := by
                intro empty
                rw [String.toList_eq_nil_iff.mp (List.length_eq_zero_iff.mp empty)] at truthy
                cases truthy
              rw [single _ (by simp) rfl, List.length_map]
              simp
              omega
          | dict fields =>
              rw [single _ (by simp) rfl, List.length_map]
              cases fields with
              | nil => cases truthy
              | cons field fields => simp
          | null | bool _ | int _ | float _ => simp [Json.elements]

/-- The options are read exactly when they are absent or an object. -/
theorem includeUsage_ok_iff (payload : Dict) :
    (∃ usage, includeUsage payload = .ok usage) ↔ OptionsRead payload := by
  unfold includeUsage OptionsRead
  cases found : Dict.get? "stream_options" payload with
  | none => simp
  | some value =>
      cases value with
      | dict options =>
          refine iff_of_true ?_ (by simp)
          cases asked : Dict.get? "include_usage" options <;> simp only [asked] <;> exact ⟨_, rfl⟩
      | _ => simp

theorem includeUsage_refuses {payload : Dict} {usage : Bool}
    (read : includeUsage payload = .ok usage) :
    (usage || !Json.truthyField "stream" payload) = true ↔ ¬ RefusesUsage payload := by
  have refuses : RefusesUsage payload ↔
      Json.truthyField "stream" payload = true ∧ usage = false := by
    unfold includeUsage at read
    unfold RefusesUsage
    cases found : Dict.get? "stream_options" payload with
    | none =>
        rw [found] at read
        cases read
        simp
    | some value =>
        rw [found] at read
        cases value with
        | dict options =>
            cases asked : Dict.get? "include_usage" options with
            | none =>
                simp only [asked] at read
                cases read
                simp [asked]
            | some value =>
                simp only [asked] at read
                cases read
                simp [asked]
        | _ => cases read
  rw [refuses]
  cases usage <;> cases Json.truthyField "stream" payload <;> decide

/-- What the derivation returns for what its loop and its options gave. -/
def derivedSet (payload : Dict) (messages : List Json) (usage : Bool) : CapabilitySet :=
  requiredCapabilitiesFromRequest (Json.truthyField "stream" payload)
    (Json.truthyField "tools" payload) (Json.truthyField "response_format" payload)
    (messages.any hasImageBlock) (decide (1 < messages.length))
    (usage || !Json.truthyField "stream" payload)

theorem capabilitiesFromPayload_ok_iff {payload : Dict} {required : CapabilitySet} :
    capabilitiesFromPayload payload = .ok required ↔
      ∃ messages usage, (messagesOf payload).elements = .ok messages ∧
        includeUsage payload = .ok usage ∧ required = derivedSet payload messages usage := by
  unfold capabilitiesFromPayload
  cases (messagesOf payload).elements with
  | error text => simp
  | ok messages =>
      cases includeUsage payload with
      | error text => simp
      | ok usage =>
          constructor
          · intro derived
            exact ⟨messages, usage, rfl, rfl, (Except.ok.inj derived).symm⟩
          · rintro ⟨messages', usage', isMessages, isUsage, rfl⟩
            cases isMessages
            cases isUsage
            rfl

theorem askedFor_derivedSet_iff {payload : Dict} {messages : List Json} {usage : Bool}
    (read : includeUsage payload = .ok usage) :
    AskedFor payload (derivedSet payload messages usage) ↔ ReadAs payload messages := by
  have mem := mem_requiredCapabilities (Json.truthyField "stream" payload)
    (Json.truthyField "tools" payload) (Json.truthyField "response_format" payload)
    (messages.any hasImageBlock) (decide (1 < messages.length))
    (usage || !Json.truthyField "stream" payload)
  have refuses := includeUsage_refuses read
  constructor
  · intro asked
    have vision := asked.vision
    have multiTurn := asked.multiTurn
    rw [derivedSet, mem] at vision multiTurn
    exact ⟨by simpa using vision, by simpa using multiTurn⟩
  · intro asks
    constructor <;> rw [derivedSet, mem]
    · simpa using asks.images
    · simpa using asks.several
    · simp
    · simp
    · simp
    · simpa using refuses

/-- The derivation returns exactly the capabilities that the payload asks for if
and only if `messages` and `stream_options` have a shape that it reads. -/
theorem derives_asked_iff (payload : Dict) :
    (∃ required, capabilitiesFromPayload payload = .ok required ∧ AskedFor payload required) ↔
      MessagesRead payload ∧ OptionsRead payload := by
  rw [← messages_read_iff, ← includeUsage_ok_iff]
  constructor
  · rintro ⟨required, derived, asked⟩
    obtain ⟨messages, usage, elements, read, rfl⟩ := capabilitiesFromPayload_ok_iff.mp derived
    exact ⟨⟨messages, elements, (askedFor_derivedSet_iff read).mp asked⟩, usage, read⟩
  · rintro ⟨⟨messages, elements, asks⟩, usage, read⟩
    exact ⟨_, capabilitiesFromPayload_ok_iff.mpr ⟨messages, usage, elements, read, rfl⟩,
      (askedFor_derivedSet_iff read).mpr asks⟩

/-- Options that are `null` raise, and a text of two characters counts as two
messages. -/
theorem null_options_raise :
    capabilitiesFromPayload [("stream_options", .null)] =
        .error "'NoneType' object has no attribute 'get'" ∧
      (∃ required, capabilitiesFromPayload [("messages", .str "hi")] = .ok required ∧
        Capability.multiTurn ∈ required) ∧ ¬ HasSeveralMessages [("messages", .str "hi")] := by
  refine ⟨rfl, ⟨_, rfl, by decide⟩, ?_⟩
  rintro ⟨messages, isList, -⟩
  cases isList

end AutoRouteGateway.Service

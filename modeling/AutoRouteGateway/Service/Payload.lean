import AutoRouteGateway.Domain.Capability
import AutoRouteGateway.Runtime.Json

/-!
Owns what the service reads from JSON: the capabilities a payload requires,
and whether a stream event ends the stream or carries content.

Wrong shapes raise; an `Except.error` holds the text of the exception.
-/

namespace AutoRouteGateway.Service

open AutoRouteGateway.Domain
open AutoRouteGateway.Runtime

/-! ## Requests -/

/-- The message is an object whose content list holds an image block. -/
def hasImageBlock : Json → Bool
  | .dict message =>
      match Dict.get? "content" message with
      | some (.list blocks) => blocks.any fun block =>
          match block with
          | .dict fields =>
              match Dict.get? "type" fields with
              | some value => value.isText "image_url"
              | none => false
          | _ => false
      | _ => false
  | _ => false

/-- `payload.get("messages") or []`. -/
def messagesOf (payload : Dict) : Json :=
  match Dict.get? "messages" payload with
  | some value => if value.truthy then value else .list []
  | none => .list []

/-- `payload.get("stream_options", {}).get("include_usage", True)`. -/
def includeUsage (payload : Dict) : Except String Bool :=
  match Dict.get? "stream_options" payload with
  | none => .ok true
  | some (.dict options) =>
      match Dict.get? "include_usage" options with
      | some value => .ok value.truthy
      | none => .ok true
  | some other => .error other.noGetText

def capabilitiesFromPayload (payload : Dict) : Except String CapabilitySet :=
  match (messagesOf payload).elements with
  | .error text => .error text
  | .ok messages =>
      match includeUsage payload with
      | .error text => .error text
      | .ok usage =>
          let stream := Json.truthyField "stream" payload
          .ok (requiredCapabilitiesFromRequest stream
            (Json.truthyField "tools" payload)
            (Json.truthyField "response_format" payload)
            (messages.any hasImageBlock)
            (decide (1 < messages.length))
            (usage || !stream))

/-! ## Stream events -/

/-- A parsed SSE event of an adapter. -/
abbrev Event := Dict

/-- `event.get("data") == "[DONE]"`. -/
def isDone (event : Event) : Bool :=
  match Dict.get? "data" event with
  | some value => value.isText "[DONE]"
  | none => false

/-- The delta carries content, a tool call or reasoning. -/
def hasSubstance (delta : Dict) : Bool :=
  Json.truthyField "content" delta || Json.truthyField "tool_calls" delta ||
    Json.truthyField "reasoning_content" delta

/-- `choices[0].get("delta") or {}` carries substance. -/
def choiceHasSubstance (choices : Json) : Except String Bool :=
  match choices.first with
  | .error text => .error text
  | .ok (.dict choice) =>
      match Dict.get? "delta" choice with
      | none => .ok false
      | some (.dict delta) => .ok (hasSubstance delta)
      | some other => if other.truthy then .error other.noGetText else .ok false
  | .ok other => .error other.noGetText

/-- A valid downstream chunk: substantive content or a tool call. -/
def isValidChunk (event : Event) : Except String Bool :=
  match Dict.get? "data" event with
  | some (.dict data) =>
      if isDone data then .ok false
      else
        match Dict.get? "choices" data with
        | none => .ok false
        | some choices => if choices.truthy then choiceHasSubstance choices else .ok false
  | _ => .ok false

/-- The end marker is never a valid chunk, and checking it never raises. -/
theorem isValidChunk_of_isDone {event : Event} (done : isDone event = true) :
    isValidChunk event = .ok false := by
  unfold isDone at done
  unfold isValidChunk
  cases data : Dict.get? "data" event with
  | none => rfl
  | some value =>
      rw [data] at done
      cases value with
      | str text => rfl
      | _ => cases done

end AutoRouteGateway.Service

import AutoRouteGateway.Service.Chat
import AutoRouteGateway.Service.ChatStream

/-!
Owns the streaming half of the chat completions endpoint: the bodies it hands
to its generator, and the frames the generator makes of one `chat_stream` call.

A chunk frame holds the data that is serialized; the text of a frame is not
modelled here. The generator reads the call lazily and stops reading at the
first end marker.
-/

namespace AutoRouteGateway.Api

open AutoRouteGateway.Policy
open AutoRouteGateway.Routing
open AutoRouteGateway.Runtime
open AutoRouteGateway.Service
open AutoRouteGateway.State

/-- The name of the enumeration member, as a formatted string prints it. -/
def errorClassName : ErrorClass → String
  | .auth => "ErrorClass.AUTH"
  | .tokenLimit => "ErrorClass.TOKEN_LIMIT"
  | .rateLimit => "ErrorClass.RATE_LIMIT"
  | .quota => "ErrorClass.QUOTA"
  | .modelNotFound => "ErrorClass.MODEL_NOT_FOUND"
  | .network => "ErrorClass.NETWORK"
  | .server => "ErrorClass.SERVER"
  | .unknown => "ErrorClass.UNKNOWN"

def noEligibleText (error : NoEligibleCandidateError) : String :=
  let lastError := match error.lastError with
    | some errorClass => errorClassName errorClass
    | none => "None"
  "no eligible candidate left for " ++ quoted error.virtualModel ++ " after " ++
    toString error.attempts ++ " attempts (last error: " ++ lastError ++ ")"

def noEligibleCode (error : NoEligibleCandidateError) : String :=
  match error.lastError with
  | some errorClass => errorClass.value
  | none => "no_candidate"

def unknownVirtualModelText (error : UnknownVirtualModelError) : String :=
  "unknown virtual model: " ++ error.name

/-- A `data:` frame: a chunk, the end marker, or an error object. -/
inductive Frame where
  | chunk (data : Dict)
  | done
  | error (message code : String)

/-- What the generator yields, and the exception that leaves it. -/
structure SseOutput where
  frames : List Frame
  escaped : Option ServiceError

/-- The end of the call: three exceptions are caught, every other one leaves. -/
def sseEnding : Except ServiceError Unit → SseOutput
  | .ok () => ⟨[.done], none⟩
  | .error (.partialStream _) => ⟨[], none⟩
  | .error (.noEligible error) => ⟨[.error (noEligibleText error) (noEligibleCode error)], none⟩
  | .error (.unknownVirtualModel error) =>
      ⟨[.error (unknownVirtualModelText error) "unknown_model"], none⟩
  | .error other => ⟨[], some other⟩

/-- The generator over the events of the call. Data that is neither the end
marker nor a dictionary is dropped. -/
def sse (virtualModel : String) (result : Except ServiceError Unit) : List Event → SseOutput
  | [] => sseEnding result
  | event :: rest =>
      if isDone event then ⟨[.done], none⟩
      else
        let later := sse virtualModel result rest
        match Dict.get? "data" event with
        | some (.dict data) =>
            { later with frames := .chunk (withModel virtualModel data) :: later.frames }
        | _ => later

/-- A body that the endpoint hands to its generator. -/
structure StreamRequest where
  payload : Dict
  virtualModel : String
  isModel : Dict.get? "model" payload = some (.str virtualModel)
  named : virtualModel ≠ ""
  streams : Json.truthyField "stream" payload = true

/-- The checks on the fields of a JSON object; `.ok none` stands for a request
that does not stream. -/
def checkFields (payload : Dict) : Except (Nat × String) (Option StreamRequest) :=
  match isModel : Dict.get? "model" payload with
  | some (.str virtualModel) =>
      if named : virtualModel = "" then
        .error (400, "missing or invalid 'model' (virtual model name)")
      else if streams : Json.truthyField "stream" payload = true then
        .ok (some ⟨payload, virtualModel, isModel, named, streams⟩)
      else .ok none
  | _ => .error (400, "missing or invalid 'model' (virtual model name)")

/-- The endpoint's checks, in order; `none` stands for a body that is not JSON. -/
def checkBody : Option Json → Except (Nat × String) (Option StreamRequest)
  | none => .error (400, "invalid JSON body")
  | some (.dict payload) => checkFields payload
  | some _ => .error (400, "body must be a JSON object")

/-- The bodies handed to the generator are the streaming requests. -/
theorem checkBody_eq_stream_iff {payload : Dict} {request : StreamRequest} :
    checkBody (some (.dict payload)) = .ok (some request) ↔ request.payload = payload := by
  obtain ⟨own, virtualModel, isModel, named, streams⟩ := request
  change checkFields payload = _ ↔ own = payload
  unfold checkFields
  constructor
  · intro accepted
    split at accepted
    · split_ifs at accepted <;> cases accepted
      rfl
    · cases accepted
  · rintro rfl
    split
    · rename_i found isFound
      cases isFound.symm.trans isModel
      rw [dif_neg named, dif_pos streams]
    · rename_i other
      exact absurd isModel (other virtualModel)

/-- The response to a streaming request. -/
def streamResponse {σ : Type} (S : StateStore σ) (engine : FallbackEngine)
    (service : GatewayService) (clock : Clock) (upstream : Upstream σ) (requestId : String)
    (request : StreamRequest) (counter : Nat) (start : σ) : SseOutput :=
  let call := chatStream S engine service clock upstream requestId request.virtualModel
    request.payload counter start
  sse request.virtualModel call.result call.yields

end AutoRouteGateway.Api

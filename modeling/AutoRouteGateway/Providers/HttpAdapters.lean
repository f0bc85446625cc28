import AutoRouteGateway.Providers.Gemini
import AutoRouteGateway.Providers.OpenAiCompatible

/-!
Contract: the chat calls of the two adapters, up to the HTTP client.

A call sends one request at most, and what it sends is settled before the
client answers. The calls are therefore written as that request, if there is
one, and what is made of the client's answer.

Owns: both chat calls of both adapters, and the adapter the registry builds for
a provider type.

Does not own: the client, the texts of its errors, and `json` and `dict`, which
are parameters.
-/

namespace AutoRouteGateway.Providers

open AutoRouteGateway.Config
open AutoRouteGateway.Runtime
open AutoRouteGateway.Service

/-! ## Calls -/

/-- A call of an adapter: it ends before it sends anything, or it sends one
request and makes something of the answer. -/
inductive HttpCall (α : Type) where
  | unsent (result : α)
  | sent (request : HttpRequest) (answered : Except ClientError HttpResponse → α)

namespace HttpCall

variable {α β : Type}

def run (client : HttpClient) : HttpCall α → α
  | unsent result => result
  | sent request answered => answered (client request)

def request? : HttpCall α → Option HttpRequest
  | unsent _ => none
  | sent request _ => some request

def map (f : α → β) : HttpCall α → HttpCall β
  | unsent result => unsent (f result)
  | sent request answered => sent request fun answer => f (answered answer)

@[simp] theorem run_map (f : α → β) (client : HttpClient) (call : HttpCall α) :
    (call.map f).run client = f (call.run client) := by
  cases call <;> rfl

@[simp] theorem request?_map (f : α → β) (call : HttpCall α) :
    (call.map f).request? = call.request? := by
  cases call <;> rfl

end HttpCall

/-- `{**fields, key: value}`. -/
def setField (key : String) (value : Json) : Dict → Dict
  | [] => [(key, value)]
  | field :: rest =>
      if field.1 = key then (key, value) :: rest else field :: setField key value rest

theorem get?_setField (key : String) (value : Json) (name : String) (fields : Dict) :
    Dict.get? name (setField key value fields) =
      if name = key then some value else Dict.get? name fields := by
  induction fields with
  | nil =>
      by_cases same : name = key
      · simp [setField, Dict.get?, same]
      · simp [setField, Dict.get?, same, Ne.symm same]
  | cons field rest inductionHypothesis =>
      obtain ⟨own, held⟩ := field
      by_cases replaced : own = key
      · rw [setField, if_pos replaced]
        by_cases same : name = key
        · simp [Dict.get?, same]
        · simp [Dict.get?, same, Ne.symm same, replaced]
      · rw [setField, if_neg replaced]
        by_cases found : own = name
        · have other : name ≠ key := fun same => replaced (found.trans same)
          simp [Dict.get?, found, other]
        · simp only [Dict.get?, if_neg found, inductionHypothesis]

/-- What turns a success body into the dictionary `chat` works on: `json.loads`
with the text of its decoding error, and `dict(body)` of a value that is no
object. -/
structure BodyReader where
  codec : JsonCodec
  decodeErrorText : String → String
  dictOf : Json → Except String Dict

/-- `dict(body)`; an object is copied. -/
def BodyReader.reply (reader : BodyReader) : Json → ApiReply
  | .dict fields => .body fields
  | other =>
      match reader.dictOf other with
      | .ok fields => .body fields
      | .error text => .unreadable text

/-! ## OpenAI-compatible providers -/

structure OpenAiCompatibleAdapter where
  providerId : String
  baseUrl : String

namespace OpenAiCompatibleAdapter

/-- `OpenAiCompatibleAdapter(provider_id, base_url, models)`; the registry
passes no extra headers. -/
def make (providerId baseUrl : String) : OpenAiCompatibleAdapter :=
  ⟨providerId, stripSlashes baseUrl⟩

def userAgent : String :=
  "Mozilla/5.0 (Windows NT 10.0; Win64; x64) AppleWebKit/537.36 " ++
    "(KHTML, like Gecko) Chrome/126.0.0.0 Safari/537.36"

def headers (secret : String) : List (String × String) :=
  [("Authorization", "Bearer " ++ secret), ("User-Agent", userAgent)]

variable (adapter : OpenAiCompatibleAdapter) (reader : BodyReader)

def chatUrl : String := adapter.baseUrl ++ "/chat/completions"

/-- An error of the client is wrapped, any other exception leaves as it is. -/
def transportFailure (what : String) : ClientError → UpstreamException
  | .http text => .adapter (adapter.providerId ++ what ++ text)
  | .other text => .other text

/-- `_request_json` on an answer, then `resp.json()`. -/
def readCompletion : Except ClientError HttpResponse → ApiReply
  | .error error => .raised (adapter.transportFailure " transport failure: " error)
  | .ok response =>
      match response.body with
      | .error error => .raised (adapter.transportFailure " transport failure: " error)
      | .ok text =>
          if 400 ≤ response.status then
            .raised (classifyHttpError response.status text response.headers)
          else
            match reader.codec.loads text with
            | .error .decode => .raised (.adapter (adapter.providerId ++ ": non-JSON success body"))
            | .error (.other text) => .raised (.other text)
            | .ok value => reader.reply value

def chatCompletions (payload : Dict) (secret modelId : String) : HttpCall ApiReply :=
  .sent ⟨adapter.chatUrl, headers secret, setField "model" (.str modelId) payload⟩
    (adapter.readCompletion reader)

/-- The events of an opened stream, or the error its status stands for. -/
def readStream (codec : JsonCodec) : Except ClientError HttpResponse → UpstreamStream
  | .error error => ⟨[], some (adapter.transportFailure " stream transport failure: " error)⟩
  | .ok response =>
      if 400 ≤ response.status then
        match response.body with
        | .error error =>
            ⟨[], some (adapter.transportFailure " stream transport failure: " error)⟩
        | .ok text => ⟨[], some (classifyHttpError response.status text response.headers)⟩
      else
        iterSseEvents codec
          (response.ending.map (adapter.transportFailure " stream transport failure: "))
          response.lines

def chatCompletionsStream (payload : Dict) (secret modelId : String) :
    HttpCall UpstreamStream :=
  .sent ⟨adapter.chatUrl, headers secret,
      setField "stream" (.bool true) (setField "model" (.str modelId) payload)⟩
    (adapter.readStream reader.codec)

end OpenAiCompatibleAdapter

/-! ## Gemini -/

namespace GeminiAdapter

variable (adapter : GeminiAdapter) (reader : BodyReader)

def generateUrl (modelId : String) : String :=
  adapter.baseUrl ++ "/models/" ++ modelId ++ ":generateContent"

def transportFailure : ClientError → UpstreamException
  | .http text => .adapter (adapter.providerId ++ " transport failure: " ++ text)
  | .other text => .other text

/-- The answer to a non-streaming call. A body that is no JSON raises the error
of the decoder itself. -/
def readCompletion (modelId : String) : Except ClientError HttpResponse → ApiReply
  | .error error => .raised (adapter.transportFailure error)
  | .ok response =>
      match response.body with
      | .error error => .raised (adapter.transportFailure error)
      | .ok text =>
          if 400 ≤ response.status then .raised (.http response.status text response.headers)
          else
            match reader.codec.loads text with
            | .error .decode => .raised (.other (reader.decodeErrorText text))
            | .error (.other text) => .raised (.other text)
            | .ok value =>
                match toOpenai modelId value with
                | .error text => .raised (.other text)
                | .ok fields => .body fields

def chatCompletions (payload : Dict) (secret modelId : String) : HttpCall ApiReply :=
  match toGemini reader.codec payload with
  | .error exception => .unsent (.raised exception)
  | .ok body =>
      .sent ⟨adapter.generateUrl modelId, [("x-goog-api-key", secret)], body⟩
        (adapter.readCompletion reader modelId)

/-- The streaming call, with its request apart. -/
def streamCall (payload : Dict) (secret modelId : String) : HttpCall UpstreamStream :=
  match toGemini reader.codec payload with
  | .error exception => .unsent ⟨[], some exception⟩
  | .ok body =>
      .sent (adapter.streamRequest secret modelId body) (adapter.readStream reader.codec modelId)

end GeminiAdapter

/-! ## The registry -/

inductive ProviderAdapter where
  | openAiCompatible (adapter : OpenAiCompatibleAdapter)
  | gemini (adapter : GeminiAdapter)

/-- `build_adapter`; `none` stands for the types without a factory. -/
def buildAdapter (kind : ProviderType) (providerId baseUrl : String) : Option ProviderAdapter :=
  match kind with
  | .openaiCompatible | .amd | .modelscope | .opencode =>
      some (.openAiCompatible (.make providerId baseUrl))
  | .gemini => some (.gemini (.make providerId baseUrl))
  | .executor | .unregistered _ => none

theorem isSome_buildAdapter (kind : ProviderType) (providerId baseUrl : String) :
    (buildAdapter kind providerId baseUrl).isSome = hasFactory kind := by
  cases kind <;> rfl

namespace ProviderAdapter

variable (reader : BodyReader)

def chatCompletions (payload : Dict) (secret modelId : String) :
    ProviderAdapter → HttpCall ApiReply
  | openAiCompatible adapter => adapter.chatCompletions reader payload secret modelId
  | gemini adapter => adapter.chatCompletions reader payload secret modelId

def chatCompletionsStream (payload : Dict) (secret modelId : String) :
    ProviderAdapter → HttpCall UpstreamStream
  | openAiCompatible adapter => adapter.chatCompletionsStream reader payload secret modelId
  | gemini adapter => adapter.streamCall reader payload secret modelId

end ProviderAdapter

end AutoRouteGateway.Providers

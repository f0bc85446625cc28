import AutoRouteGateway.Runtime.JsonText
import AutoRouteGateway.Service.Gateway

/-!
Contract: the Gemini adapter.

Owns: the conversion of a chat payload to a request body and of a response to a
chat completion, and the event stream the adapter makes of the lines it reads.

Does not own: the HTTP client and the JSON codec. They are parameters, with the
exceptions they raise.
-/

namespace AutoRouteGateway.Providers

open AutoRouteGateway.Runtime
open AutoRouteGateway.Service

/-! ## What the adapter calls -/

/-- The client raises an error of its own, or any other exception. -/
inductive ClientError where
  | http (text : String)
  | other (text : String)

structure HttpRequest where
  url : String
  headers : List (String × String)
  body : Dict

/-- One opened response: the body, if it is read at once, and its lines with
how they end, if they are read one by one. -/
structure HttpResponse where
  status : Int
  headers : List (String × String)
  body : Except ClientError String
  lines : List String
  ending : Option ClientError

abbrev HttpClient := HttpRequest → Except ClientError HttpResponse

/-! ## Requests -/

section Conversion

variable (codec : JsonCodec)

/-- The part made of one block of a content list. -/
def blockPart : Json → Except UpstreamException Json
  | .str text => .ok (.dict [("text", .str text)])
  | .dict block =>
      match Dict.get? "type" block with
      | some (.str "text") =>
          .ok (.dict [("text", (Dict.get? "text" block).getD (.str ""))])
      | some (.str "image_url") =>
          .error (.adapter
            "gemini vision_input is not enabled before capability conformance (POC pending)")
      | _ => .ok (.dict [("text", .str (codec.dumps (.dict block)))])
  | other => .error (.other other.noGetText)

def contentParts (content : Option Json) : Except UpstreamException (List Json) :=
  match content with
  | some (.str text) => .ok [.dict [("text", .str text)]]
  | some (.list blocks) => blocks.mapM (blockPart codec)
  | _ => .ok [.dict [("text", .str "")]]

def messageRole (message : Dict) : String :=
  match Dict.get? "role" message with
  | some (.str "assistant") => "model"
  | _ => "user"

def messageContent : Json → Except UpstreamException Json
  | .dict message =>
      match contentParts codec (Dict.get? "content" message) with
      | .error exception => .error exception
      | .ok parts => .ok (.dict [("role", .str (messageRole message)), ("parts", .list parts)])
  | other => .error (.other other.noGetText)

/-- The field is present and not null. -/
def presentField (key : String) (payload : Dict) (name : String) : Dict :=
  match Dict.get? key payload with
  | none | some .null => []
  | some value => [(name, value)]

def generationConfig (payload : Dict) : Dict :=
  presentField "max_tokens" payload "maxOutputTokens" ++
    presentField "temperature" payload "temperature"

def toGemini (payload : Dict) : Except UpstreamException Dict :=
  match ((Dict.get? "messages" payload).getD (.list [])).elements with
  | .error text => .error (.other text)
  | .ok messages =>
      match messages.mapM (messageContent codec) with
      | .error exception => .error exception
      | .ok contents =>
          match generationConfig payload with
          | [] => .ok [("contents", .list contents)]
          | config => .ok [("contents", .list contents), ("generationConfig", .dict config)]

/-! ## Responses -/

/-- `text += value`. -/
def appendText (text : String) : Json → Except String String
  | .str own => .ok (text ++ own)
  | other => .error ("can only concatenate str (not \"" ++ other.typeName ++ "\") to str")

/-- One part: its text is appended if there is one. -/
def appendPart (text : String) : Json → Except String String
  | .dict part =>
      match Dict.get? "text" part with
      | some value => appendText text value
      | none => .ok text
  | .str part =>
      if Contains "text" part then .error "string indices must be integers, not 'str'"
      else .ok text
  | .list items =>
      if items.any (Json.isText "text") then
        .error "list indices must be integers or slices, not str"
      else .ok text
  | other => .error ("argument of type '" ++ other.typeName ++ "' is not iterable")

/-- `candidate.get("content", {}).get("parts", [])`. -/
def candidateParts : Json → Except String (List Json)
  | .dict candidate =>
      match (Dict.get? "content" candidate).getD (.dict []) with
      | .dict content => ((Dict.get? "parts" content).getD (.list [])).elements
      | other => .error other.noGetText
  | other => .error other.noGetText

def appendCandidate (text : String) (candidate : Json) : Except String String :=
  match candidateParts candidate with
  | .error raised => .error raised
  | .ok parts => parts.foldlM appendPart text

/-- The value of a field if it is truthy, and an empty one otherwise. -/
def truthyOr (key : String) (fields : Dict) (empty : Json) : Json :=
  match Dict.get? key fields with
  | some value => if value.truthy then value else empty
  | none => empty

/-- The text of the candidates' parts, in order. -/
def responseText (response : Dict) : Except String String :=
  match (truthyOr "candidates" response (.list [])).elements with
  | .error raised => .error raised
  | .ok candidates => candidates.foldlM appendCandidate ""

def usageCount (key : String) (usage : Dict) : Json := (Dict.get? key usage).getD (.int 0)

/-- The completion made of a text, a usage record and the id of the response. -/
def completion (modelId text : String) (responseId : Json) (usage : Dict) : Dict :=
  [("id", responseId),
    ("object", .str "chat.completion"),
    ("model", .str modelId),
    ("choices", .list [.dict
      [("index", .int 0),
        ("message", .dict [("role", .str "assistant"), ("content", .str text)]),
        ("finish_reason", .str "stop")]]),
    ("usage", .dict
      [("prompt_tokens", usageCount "promptTokenCount" usage),
        ("completion_tokens", usageCount "candidatesTokenCount" usage),
        ("total_tokens", usageCount "totalTokenCount" usage)])]

def toOpenai (modelId : String) : Json → Except String Dict
  | .dict response =>
      match responseText response with
      | .error raised => .error raised
      | .ok text =>
          match truthyOr "usageMetadata" response (.dict []) with
          | .dict usage =>
              .ok (completion modelId text
                ((Dict.get? "responseId" response).getD (.str "gemini")) usage)
          | other => .error other.noGetText
  | other => .error other.noGetText

/-! ## The stream -/

/-- The response on one line: none if the line is no data line or its data does
not decode. -/
def lineResponse (line : String) : Except String (Option Json) :=
  match afterPrefix "data:" (strip line) with
  | none => .ok none
  | some data =>
      match codec.loads (strip data) with
      | .error .decode => .ok none
      | .error (.other text) => .error text
      | .ok response => .ok (some response)

/-- The event made of one line, if it holds a response. -/
def lineEvent (modelId line : String) : Except String (Option Event) :=
  match lineResponse codec line with
  | .error text => .error text
  | .ok none => .ok none
  | .ok (some response) =>
      match toOpenai modelId response with
      | .error text => .error text
      | .ok chunk => .ok (some [("data", .dict chunk)])

end Conversion

structure GeminiAdapter where
  providerId : String
  baseUrl : String

namespace GeminiAdapter

/-- `GeminiAdapter(provider_id, base_url, ...)`. -/
def make (providerId baseUrl : String) : GeminiAdapter := ⟨providerId, stripSlashes baseUrl⟩

variable (adapter : GeminiAdapter) (codec : JsonCodec) (client : HttpClient)

/-- An error of the client is wrapped, any other exception leaves as it is. -/
def clientException : ClientError → UpstreamException
  | .http text => .adapter (adapter.providerId ++ " stream transport failure: " ++ text)
  | .other text => .other text

def lineEvents (modelId : String) (ending : Option ClientError) : List String → UpstreamStream
  | [] => ⟨[], ending.map adapter.clientException⟩
  | line :: rest =>
      match lineEvent codec modelId line with
      | .error text => ⟨[], some (.other text)⟩
      | .ok none => lineEvents modelId ending rest
      | .ok (some event) =>
          let later := lineEvents modelId ending rest
          { later with events := event :: later.events }

def streamRequest (secret modelId : String) (body : Dict) : HttpRequest where
  url := adapter.baseUrl ++ "/models/" ++ modelId ++ ":streamGenerateContent?alt=sse"
  headers := [("x-goog-api-key", secret)]
  body := body

/-- The events of an opened stream, or the error its status stands for. -/
def readStream (modelId : String) : Except ClientError HttpResponse → UpstreamStream
  | .error error => ⟨[], some (adapter.clientException error)⟩
  | .ok response =>
      if 400 ≤ response.status then
        match response.body with
        | .error error => ⟨[], some (adapter.clientException error)⟩
        | .ok text => ⟨[], some (.http response.status text response.headers)⟩
      else adapter.lineEvents codec modelId response.ending response.lines

def chatCompletionsStream (payload : Dict) (secret modelId : String) : UpstreamStream :=
  match toGemini codec payload with
  | .error exception => ⟨[], some exception⟩
  | .ok body =>
      adapter.readStream codec modelId (client (adapter.streamRequest secret modelId body))

end GeminiAdapter

end AutoRouteGateway.Providers

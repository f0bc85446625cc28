import AutoRouteGateway.Providers.Gemini
import AutoRouteGateway.Service.StreamDelivery
import AutoRouteGateway.State.InMemory

/-!
Contract: Gemini streams behind `chat_stream`.

The adapter puts the text of a response into the message of a completion, and
sends no end marker; the service looks for a delta or the end marker.

Owns: what the events of a Gemini stream carry, that the service selects no
Gemini stream, and how it settles one that ends without an exception.
-/

namespace AutoRouteGateway.Service

open AutoRouteGateway.Config
open AutoRouteGateway.Domain
open AutoRouteGateway.Library
open AutoRouteGateway.Policy
open AutoRouteGateway.Providers
open AutoRouteGateway.Routing
open AutoRouteGateway.Runtime
open AutoRouteGateway.State

/-! ## The text of the events -/

/-- The content a choice holds under `key`. -/
def contentUnder (key : String) (choice : Dict) : String :=
  match Dict.get? key choice with
  | some (.dict fields) =>
      match Dict.get? "content" fields with
      | some (.str text) => text
      | _ => ""
  | _ => ""

/-- The text an event carries, in the delta or in the message of its first choice. -/
def eventText (event : Event) : String :=
  match Dict.get? "data" event with
  | some (.dict data) =>
      match Dict.get? "choices" data with
      | some (.list (.dict choice :: _)) =>
          contentUnder "delta" choice ++ contentUnder "message" choice
      | _ => ""
  | _ => ""

/-- The text of the response on a line, if there is one. -/
def lineText (codec : JsonCodec) (line : String) : String :=
  match lineResponse codec line with
  | .ok (some (.dict response)) => (responseText response).toOption.getD ""
  | _ => ""

theorem eventText_completion (modelId text : String) (responseId : Json) (usage : Dict) :
    eventText [("data", .dict (completion modelId text responseId usage))] = text := by
  change "" ++ text = text
  exact String.empty_append

/-- A converted response is the completion of its text. -/
theorem toOpenai_chunk {modelId : String} {response : Json} {chunk : Dict}
    (converted : toOpenai modelId response = .ok chunk) :
    ∃ fields text responseId usage, response = .dict fields ∧ responseText fields = .ok text ∧
      chunk = completion modelId text responseId usage := by
  cases response with
  | dict fields =>
      simp only [toOpenai] at converted
      split at converted
      · cases converted
      · rename_i text found
        split at converted
        · rename_i usage _
          cases converted
          exact ⟨fields, text, _, usage, rfl, found, rfl⟩
        · cases converted
  | _ => cases converted

/-- Nothing in the event ends a stream or selects one. -/
def Unrecognised (event : Event) : Prop := isDone event = false ∧ isValidChunk event = .ok false

theorem unrecognised_completion (modelId text : String) (responseId : Json) (usage : Dict) :
    Unrecognised [("data", .dict (completion modelId text responseId usage))] := ⟨rfl, rfl⟩

theorem lineEvent_event {codec : JsonCodec} {modelId line : String} {event : Event}
    (made : lineEvent codec modelId line = .ok (some event)) :
    Unrecognised event ∧ eventText event = lineText codec line := by
  unfold lineEvent at made
  unfold lineText
  split at made
  · cases made
  · cases made
  · rename_i response decoded
    split at made
    · cases made
    · rename_i chunk converted
      cases made
      obtain ⟨fields, text, responseId, usage, rfl, found, rfl⟩ := toOpenai_chunk converted
      rw [decoded]
      dsimp only
      rw [found]
      exact ⟨unrecognised_completion _ _ _ _, eventText_completion _ _ _ _⟩

theorem lineText_of_no_event {codec : JsonCodec} {modelId line : String}
    (skipped : lineEvent codec modelId line = .ok none) : lineText codec line = "" := by
  unfold lineEvent at skipped
  unfold lineText
  split at skipped
  · cases skipped
  · rename_i nothing
    rw [nothing]
  · split at skipped <;> cases skipped

section Adapter

variable (adapter : GeminiAdapter) (codec : JsonCodec) (client : HttpClient)

theorem unrecognised_of_mem_lineEvents {modelId : String} {ending : Option ClientError}
    {lines : List String} {event : Event}
    (member : event ∈ (adapter.lineEvents codec modelId ending lines).events) :
    Unrecognised event := by
  induction lines with
  | nil => cases member
  | cons line rest inductionHypothesis =>
      simp only [GeminiAdapter.lineEvents] at member
      split at member
      · cases member
      · exact inductionHypothesis member
      · rename_i own made
        rcases List.mem_cons.mp member with same | later
        · exact same ▸ (lineEvent_event made).1
        · exact inductionHypothesis later

/-- Whatever the client answers, no event of the stream ends or selects it. -/
theorem unrecognised_of_mem_stream {payload : Dict} {secret modelId : String} {event : Event}
    (member : event ∈ (adapter.chatCompletionsStream codec client payload secret
      modelId).events) : Unrecognised event := by
  unfold GeminiAdapter.chatCompletionsStream at member
  split at member
  · cases member
  · unfold GeminiAdapter.readStream at member
    split at member
    · cases member
    · split at member
      · split at member <;> cases member
      · exact unrecognised_of_mem_lineEvents adapter codec member

/-- A stream without an exception carries the text of every line, in order. -/
theorem text_lineEvents {modelId : String} {ending : Option ClientError} {lines : List String}
    (clean : (adapter.lineEvents codec modelId ending lines).ending = none) :
    (adapter.lineEvents codec modelId ending lines).events.foldr (eventText · ++ ·) "" =
      lines.foldr (lineText codec · ++ ·) "" := by
  induction lines with
  | nil => rfl
  | cons line rest inductionHypothesis =>
      rw [GeminiAdapter.lineEvents] at clean ⊢
      cases made : lineEvent codec modelId line with
      | error text =>
          rw [made] at clean
          cases clean
      | ok found =>
          rw [made] at clean
          cases found with
          | none =>
              rw [List.foldr_cons, lineText_of_no_event made, String.empty_append]
              exact inductionHypothesis clean
          | some event =>
              rw [List.foldr_cons, List.foldr_cons, (lineEvent_event made).2]
              exact congrArg (lineText codec line ++ ·) (inductionHypothesis clean)

end Adapter

/-! ## The call -/

section Call

variable {σ : Type} {S : StateStore σ} {engine : FallbackEngine} {service : GatewayService}
  {clock : Clock} {upstream : Upstream σ} {request : RequestInfo}

/-- The call selected the attempt with this number. -/
def StreamResult.Selects (call : StreamResult σ) (number : Nat) : Prop :=
  ∃ selection handle, call.selection = some selection ∧
    selection.ending = .selected handle ∧ handle.attempt = number

/-- The attempt was selected, and the events yielded carry the text in order. -/
structure RecognisedAsContent (number : Nat) (text : String) (call : StreamResult σ) : Prop where
  selected : call.Selects number
  carried : call.yields.foldr (eventText · ++ ·) "" = text

/-- Only the selected attempt yields. -/
theorem selects_of_yielded {requestId virtualModel : String} {payload : Dict} {counter : Nat}
    {start : σ} {number : Nat} {event : Event}
    (yielded : .yielded number event ∈ (chatStream S engine service clock upstream requestId
      virtualModel payload counter start).steps) :
    (chatStream S engine service clock upstream requestId virtualModel payload counter
      start).Selects number := by
  have onlyContacts : ∀ turns : List (StreamTurn σ),
      StreamStep.yielded number event ∉ turns.flatMap StreamTurn.steps := by
    intro turns member
    rw [steps_eq_contacts] at member
    obtain ⟨contact, -, same⟩ := List.mem_map.mp member
    cases same
  simp only [chatStream] at yielded ⊢
  split at yielded
  · cases yielded
  · split at yielded
    · exact absurd yielded (onlyContacts _)
    · rename_i handle selected
      rcases List.mem_append.mp yielded with contacted | delivered
      · exact absurd contacted (onlyContacts _)
      · obtain ⟨other, -, same⟩ := List.mem_map.mp delivered
        cases same
        exact ⟨_, handle, rfl, selected, rfl⟩

/-- The selected handle holds the stream of the attempt with its number. -/
theorem events_of_selected {selection : Selection σ} {handle : StreamHandle}
    {turn : StreamTurn σ} {attempt : StreamAttempt σ}
    (contacts : Contacts upstream 0 selection) (selected : selection.ending = .selected handle)
    (isTurn : turn ∈ selection.turns) (contacted : turn.verdict = .contacted attempt)
    (same : handle.attempt = attempt.number) :
    handle.buffered ++ handle.events = attempt.stream.events := by
  have own : Contact.mk attempt.number attempt.candidate attempt.stream ∈ selection.contacts :=
    List.mem_filterMap.mpr ⟨turn, isTurn, by rw [StreamTurn.contact?, contacted]⟩
  obtain ⟨last, isLast, number, whole⟩ := contacts.selected handle selected
  have distinct : (selection.contacts.map Contact.attempt).Nodup := by
    rw [contacts.numbers]
    exact List.nodup_range'
  have isOwn := List.inj_on_of_nodup_map distinct (List.mem_of_getLast? isLast) own
    (number.trans same)
  rw [whole, isOwn]

/-- No stream of unrecognised events is selected. -/
theorem not_selects_of_unrecognised {requestId virtualModel : String} {payload : Dict}
    {counter : Nat} {start : σ} {selection : Selection σ} {turn : StreamTurn σ}
    {attempt : StreamAttempt σ}
    (isSelection : (chatStream S engine service clock upstream requestId virtualModel payload
      counter start).selection = some selection)
    (isTurn : turn ∈ selection.turns) (contacted : turn.verdict = .contacted attempt)
    (unrecognised : ∀ event ∈ attempt.stream.events, Unrecognised event) :
    ¬ (chatStream S engine service clock upstream requestId virtualModel payload counter
      start).Selects attempt.number := by
  intro selects
  obtain ⟨other, handle, isOther, selected, same⟩ := selects
  have isSame : other = selection := by
    rw [isSelection] at isOther
    exact (Option.some.inj isOther).symm
  subst isSame
  obtain ⟨scored, -, isLoop⟩ := selection_of_chatStream isSelection
  subst isLoop
  have contacts := selectFrom_contacts S engine service clock upstream
    ⟨requestId, virtualModel⟩ scored 0 0 start
  obtain ⟨event, buffered, decides⟩ := (selectFrom_validated scored 0 0 start selected).decided
  have member : event ∈ attempt.stream.events :=
    events_of_selected contacts selected isTurn contacted same ▸ List.mem_append_left _ buffered
  obtain ⟨notDone, invalid⟩ := unrecognised event member
  rcases decides with done | valid
  · rw [notDone] at done
    cases done
  · rw [invalid] at valid
    cases valid

theorem readPrefix_unrecognised (ending : Option UpstreamException) {events : List Event}
    (unrecognised : ∀ event ∈ events, Unrecognised event) :
    readPrefix ending events = match ending with
      | none => .exhausted
      | some exception => .failed exception := by
  induction events with
  | nil => cases ending <;> rfl
  | cons event rest inductionHypothesis =>
      obtain ⟨notDone, invalid⟩ := unrecognised event (by simp)
      have tail := inductionHypothesis fun other member => unrecognised other (by simp [member])
      rw [readPrefix, notDone, invalid, tail]
      cases ending <;> rfl

/-- A Gemini stream that ends without an exception passes for one without
content: a server failure is recorded, and the loop goes on. -/
theorem contactCandidate_clean_gemini (S : StateStore σ) (engine : FallbackEngine) (clock : Clock)
    (upstream : Upstream σ) (request : RequestInfo) (adapter : GeminiAdapter) (codec : JsonCodec)
    (client : HttpClient) {payload : Dict} {attempt : Nat} {candidate : RouteCandidate}
    {secret : String} {s : σ}
    (adapted : (upstream.chatCompletionsStream attempt candidate secret s).1 =
      adapter.chatCompletionsStream codec client payload secret candidate.concreteModel.modelId)
    (clean : (upstream.chatCompletionsStream attempt candidate secret s).1.ending = none) :
    (contactCandidate S engine clock upstream request attempt candidate secret s).1.settled =
      (S.recordRouteEvent (routeEvent request candidate attempt (some .server) .nextCandidate)
        (upstream.chatCompletionsStream attempt candidate secret s).2).state := by
  have unrecognised : ∀ event ∈ (upstream.chatCompletionsStream attempt candidate secret
      s).1.events, Unrecognised event := by
    intro event member
    rw [adapted] at member
    exact unrecognised_of_mem_stream adapter codec client member
  rw [contactCandidate_log]
  dsimp only
  rw [clean, readPrefix_unrecognised none unrecognised, settlePrefix]

/-- Whatever the responses say, a Gemini stream that a call attempts is not
recognised as content: it is not selected, and none of its events is yielded. -/
theorem gemini_stream_never_recognised {σ : Type} (S : StateStore σ) (engine : FallbackEngine)
    (service : GatewayService) (clock : Clock) (upstream : Upstream σ)
    (adapter : GeminiAdapter) (codec : JsonCodec) (client : HttpClient)
    (requestId virtualModel : String) (payload : Dict) (counter : Nat) (start : σ)
    {selection : Selection σ} {turn : StreamTurn σ} {attempt : StreamAttempt σ}
    (isSelection : (chatStream S engine service clock upstream requestId virtualModel payload
      counter start).selection = some selection)
    (isTurn : turn ∈ selection.turns) (contacted : turn.verdict = .contacted attempt)
    (adapted : attempt.stream = adapter.chatCompletionsStream codec client payload attempt.secret
      attempt.candidate.concreteModel.modelId) (text : String) :
    ¬ RecognisedAsContent attempt.number text (chatStream S engine service clock upstream
        requestId virtualModel payload counter start) ∧
      ∀ event, .yielded attempt.number event ∉ (chatStream S engine service clock upstream
        requestId virtualModel payload counter start).steps := by
  have unrecognised : ∀ event ∈ attempt.stream.events, Unrecognised event := by
    intro event member
    rw [adapted] at member
    exact unrecognised_of_mem_stream adapter codec client member
  have unselected := not_selects_of_unrecognised isSelection isTurn contacted unrecognised
  constructor
  · intro recognised
    exact unselected recognised.selected
  · intro event yielded
    exact unselected (selects_of_yielded yielded)

end Call

/-- One route `v` to the default model of one Gemini provider with one key. -/
def geminiService : GatewayService where
  config :=
    { routes := UpsertTable.empty.upsert "v" ⟨[⟨"g", none⟩]⟩
      providers := UpsertTable.empty.upsert "g"
        { id := "g"
          type := .gemini
          baseUrl := some "u/"
          models := [{ id := "m", capabilities := {.text, .stream, .usage} }]
          keys := [{ id := "k", env := "K" }] }
      idsMatch := idsMatch_single rfl }
  resolver := ⟨UpsertTable.empty.upsert "K" "s", .empty⟩
  built := ⟨["g"], []⟩
  isBuilt := rfl

/-- One response in JSON, with one text part. -/
def helloData : String :=
  "\x7b\"candidates\": [\x7b\"content\": \x7b\"parts\": [\x7b\"text\": \"hi\"\x7d]\x7d\x7d]\x7d"

def helloCodec : JsonCodec where
  loads := fun text =>
    if text = helloData then
      .ok (.dict [("candidates", .list [.dict [("content", .dict [("parts", .list
        [.dict [("text", .str "hi")]])])]])])
    else .error .decode
  dumps := fun _ => ""

/-- The client answers with one line of data. -/
def helloClient : HttpClient := fun _ => .ok
  { status := 200
    headers := []
    body := .ok ""
    lines := ["data: " ++ helloData]
    ending := none }

def helloStream : UpstreamStream :=
  (GeminiAdapter.make "g" "u/").chatCompletionsStream helloCodec helloClient [] "s" "m"

def helloCall : StreamResult InMemoryStateStore :=
  chatStream InMemoryStateStore.store {} geminiService ⟨fun _ => 0, fun _ => 0⟩
    (.constant _ (.body []) (.completed []) helloStream) "r" "v" [] 0 .empty

/-- The stream of one text response is attempted, not recognised, and yields nothing. -/
theorem gemini_stream_never_recognised_hello :
    ¬ RecognisedAsContent 1 "hi" helloCall ∧ ∀ event, .yielded 1 event ∉ helloCall.steps :=
  gemini_stream_never_recognised InMemoryStateStore.store {} geminiService
    ⟨fun _ => 0, fun _ => 0⟩ (.constant _ (.body []) (.completed []) helloStream)
    (GeminiAdapter.make "g" "u/") helloCodec helloClient "r" "v" [] 0 .empty rfl
    (List.Mem.head _) rfl rfl "hi"

/-- The adapter's stream ends cleanly and carries the text, and the call still
raises that there is no candidate. -/
theorem gemini_text_is_lost :
    helloStream.ending = none ∧
      helloStream.events.foldr (eventText · ++ ·) "" = "hi" ∧
      helloCall.result = .error (.noEligible ⟨"v", 1, none⟩) ∧ helloCall.yields = [] ∧
      ¬ RecognisedAsContent 1 "hi" helloCall := by
  refine ⟨rfl, rfl, rfl, rfl, ?_⟩
  intro recognised
  exact absurd (show "" = "hi" from recognised.carried) (by decide)

end AutoRouteGateway.Service

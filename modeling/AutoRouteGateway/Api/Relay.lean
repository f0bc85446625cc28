import AutoRouteGateway.Api.SseText
import AutoRouteGateway.Api.StreamShapes
import AutoRouteGateway.Providers.HttpAdapters
import AutoRouteGateway.Service.Endings

/-!
Contract: what a client reads from a stream is what the upstream wrote.

Between the two stand the adapter that reads the upstream's body, the request
that selects and delivers its events among others, the generator that makes
frames of them, and the text of the frames. Each keeps the chunks and their
order, and only the model is replaced.

Owns: what a reader makes of any frames, the frames written for the events
delivered so far, and the composition of all of this in every interleaving, and
along a series of gateways.
-/

namespace AutoRouteGateway.Api

open AutoRouteGateway.Library
open AutoRouteGateway.Providers
open AutoRouteGateway.Routing
open AutoRouteGateway.Runtime
open AutoRouteGateway.Service
open AutoRouteGateway.State

/-! ## Reading frames -/

namespace Frame

/-- The object a frame holds, unless it is the end marker. -/
def data? : Frame → Option Dict
  | .chunk data => some data
  | .done => none
  | .error message code =>
      some [("error", .dict [("message", .str message), ("type", .str "gateway_error"),
        ("code", .str code)])]

/-- The event a reader makes of the frame. -/
def event (frame : Frame) : Event :=
  match frame.data? with
  | some data => dataEvent (.dict data)
  | none => doneEvent

/-- The object of the frame is well formed, and none of its strings splits the line. -/
def Readable (depth : Nat) (frame : Frame) : Prop :=
  ∀ data, frame.data? = some data → (Json.dict data).WellFormed depth ∧ Unbroken data

theorem payload_of_data? {frame : Frame} {data : Dict} (isData : frame.data? = some data) :
    frame.payload = (Json.dict data).text := by
  cases frame with
  | chunk own =>
      cases isData
      rfl
  | done => cases isData
  | error message code =>
      cases isData
      rfl

end Frame

section Reading

variable {depth : Nat}

theorem readText_readable {frame : Frame} (readable : frame.Readable depth)
    {ending : Option UpstreamException} (rest : List Char) :
    readText (jsonCodec depth) ending (frame.text ++ rest) =
      ⟨frame.event :: (readText (jsonCodec depth) ending rest).events,
        (readText (jsonCodec depth) ending rest).ending⟩ := by
  cases isData : frame.data? with
  | none =>
      have isDone : frame = .done := by
        cases frame with
        | done => rfl
        | chunk data => cases isData
        | error message code => cases isData
      subst isDone
      exact readText_done rest
  | some data =>
      obtain ⟨wellFormed, unbroken⟩ := readable data isData
      have payload := Frame.payload_of_data? isData
      have oneLine : ∀ char ∈ frame.payload, isLineBreak char = false := by
        rw [payload]
        exact (unbroken_iff data).mp unbroken
      apply readText_frame oneLine
      rw [payload, sseLine_whole wellFormed, Frame.event, isData]

/-- A body of readable frames is read frame by frame. -/
theorem readBody_bodyText {frames : List Frame}
    (readable : ∀ frame ∈ frames, frame.Readable depth) :
    readBody (jsonCodec depth) none (bodyText frames) = ⟨frames.map Frame.event, none⟩ := by
  have whole : readText (jsonCodec depth) none (frames.flatMap Frame.text) =
      ⟨frames.map Frame.event, none⟩ := by
    induction frames with
    | nil => rfl
    | cons frame rest inductionHypothesis =>
        rw [List.forall_mem_cons] at readable
        rw [List.flatMap_cons, readText_readable readable.1, inductionHypothesis readable.2,
          List.map_cons]
  unfold readBody bodyText splitLines
  rw [String.toList_ofList]
  exact whole

/-! ### What was read -/

/-- The data of the event is well formed if it is an object. -/
def Sound (depth : Nat) (event : Event) : Prop :=
  ∀ data, Dict.get? "data" event = some (.dict data) → (Json.dict data).WellFormed depth

theorem get?_dataEvent (data : Json) : Dict.get? "data" (dataEvent data) = some data := by
  simp [Dict.get?, dataEvent]

theorem sound_of_sseData {text : String} {event : Event}
    (read : sseData (jsonCodec depth) text = .ok event) : Sound depth event := by
  intro data isData
  unfold sseData at read
  split_ifs at read
  · rw [← Except.ok.inj read, doneEvent, get?_dataEvent] at isData
    cases Option.some.inj isData
  · split at read
    · rename_i value isValue
      rw [← Except.ok.inj read, get?_dataEvent] at isData
      rw [Option.some.inj isData] at isValue
      exact wellFormed_of_loads isValue
    · rw [← Except.ok.inj read, get?_dataEvent] at isData
      cases Option.some.inj isData
    · cases read

theorem sound_of_sseLine {line : String} {event : Event}
    (read : sseLine (jsonCodec depth) line = .ok (some event)) : Sound depth event := by
  unfold sseLine at read
  dsimp only at read
  split_ifs at read with blank comment
  · cases Except.ok.inj read
  · cases Except.ok.inj read
  split at read
  · rename_i text isText
    cases isRead : sseData (jsonCodec depth) (strip text) with
    | error raised =>
        rw [isRead] at read
        cases read
    | ok own =>
        rw [isRead] at read
        rw [← Option.some.inj (Except.ok.inj read)]
        exact sound_of_sseData isRead
  · split at read
    · rw [← Option.some.inj (Except.ok.inj read)]
      intro data isData
      simp [Dict.get?] at isData
    · rw [← Option.some.inj (Except.ok.inj read)]
      intro data isData
      simp [Dict.get?] at isData

theorem sound_of_mem_iterSseEvents {ending : Option UpstreamException} {lines : List String} :
    ∀ event ∈ (iterSseEvents (jsonCodec depth) ending lines).events, Sound depth event := by
  induction lines with
  | nil => exact List.forall_mem_nil _
  | cons line rest inductionHypothesis =>
      cases read : sseLine (jsonCodec depth) line with
      | error text =>
          rw [iterSseEvents, read]
          exact List.forall_mem_nil _
      | ok event =>
          rw [iterSseEvents_cons read]
          refine List.forall_mem_append.mpr ⟨?_, inductionHypothesis⟩
          intro own member
          rw [Option.mem_toList] at member
          rw [member] at read
          exact sound_of_sseLine read

end Reading

/-! ## Writing events -/

/-- The frames the generator has written once it has pulled these events; it
pulls no event after the end marker. -/
def written (virtualModel : String) : List Event → List Frame
  | [] => []
  | event :: rest =>
      if isDone event then [.done]
      else (relay virtualModel event).toList ++ written virtualModel rest

/-- The generator's output is what it has written, and then its ending unless
the end marker came first. -/
theorem frames_sse (virtualModel : String) (result : Except ServiceError Unit)
    (events : List Event) :
    (sse virtualModel result events).frames = written virtualModel events ++
      if events.any isDone then [] else (sseEnding result).frames := by
  induction events with
  | nil => rfl
  | cons event rest inductionHypothesis =>
      rw [written, List.any_cons]
      by_cases done : isDone event = true
      · rw [sse, if_pos done, if_pos done, done]
        rfl
      · have notDone : isDone event = false := by simpa using done
        rw [sse_cons result notDone, if_neg done, notDone, Bool.false_or]
        dsimp only
        rw [inductionHypothesis, List.append_assoc]

theorem written_append {virtualModel : String} {earlier later : List Event} :
    written virtualModel earlier <+: written virtualModel (earlier ++ later) := by
  induction earlier with
  | nil => exact List.nil_prefix
  | cons event rest inductionHypothesis =>
      rw [List.cons_append, written, written]
      split_ifs
      · exact List.prefix_refl _
      · exact (List.prefix_append_right_inj _).mpr inductionHypothesis

/-- The chunks that are written for sound events are well formed. -/
theorem wellFormed_of_written {virtualModel : String} {events : List Event} {depth : Nat}
    (sound : ∀ event ∈ events, Sound depth event) {frame : Frame}
    (member : frame ∈ written virtualModel events) {data : Dict}
    (isData : frame.data? = some data) :
    (Json.dict data).WellFormed depth ∧ frame = .chunk data := by
  induction events with
  | nil => cases member
  | cons event rest inductionHypothesis =>
      rw [List.forall_mem_cons] at sound
      rw [written] at member
      split_ifs at member with done
      · rw [List.mem_singleton.mp member] at isData
        cases isData
      · rcases List.mem_append.mp member with isRelayed | isLater
        · rw [Option.mem_toList] at isRelayed
          unfold relay at isRelayed
          split at isRelayed
          · rename_i own isOwn
            cases isRelayed
            cases isData
            exact ⟨wellFormed_withModel virtualModel (sound.1 own isOwn), rfl⟩
          · cases isRelayed
        · exact inductionHypothesis sound.2 isLater

/-! ## Gateways in series -/

theorem withModel_withModel (virtualModel other : String) (data : Dict) :
    withModel virtualModel (withModel other data) = withModel virtualModel data := by
  induction data with
  | nil => rfl
  | cons field rest inductionHypothesis =>
      rw [withModel]
      split
      · rename_i isModel
        rw [withModel, withModel, if_pos rfl, if_pos isModel]
      · rename_i otherField
        rw [withModel, withModel, if_neg otherField, if_neg otherField, inductionHypothesis]

/-- A relayed event is relayed again as it would have been at first. -/
theorem relay_event (virtualModel : String) {other : String} {event : Event} {frame : Frame}
    (isFrame : relay other event = some frame) :
    isDone frame.event = false ∧ relay virtualModel frame.event = relay virtualModel event := by
  unfold relay at isFrame
  split at isFrame
  · rename_i data isData
    cases isFrame
    refine ⟨rfl, ?_⟩
    rw [relay, relay, isData]
    exact congrArg (fun data => some (Frame.chunk data))
      (withModel_withModel virtualModel other data)
  · cases isFrame

/-- A gateway that reads another one's frames writes what it would have written
for the events themselves. -/
theorem written_written (virtualModel other : String) (events : List Event) :
    written virtualModel ((written other events).map Frame.event) =
      written virtualModel events := by
  induction events with
  | nil => rfl
  | cons event rest inductionHypothesis =>
      rw [written, written]
      by_cases done : isDone event = true
      · rw [if_pos done, if_pos done]
        rfl
      · rw [if_neg done, if_neg done, List.map_append]
        cases isFrame : relay other event with
        | none =>
            have dropped : relay virtualModel event = none := by
              unfold relay at isFrame ⊢
              split at isFrame
              · cases isFrame
              · rfl
            rw [dropped, Option.toList_none, List.map_nil, List.nil_append, List.nil_append]
            exact inductionHypothesis
        | some frame =>
            obtain ⟨goesOn, again⟩ := relay_event virtualModel isFrame
            rw [Option.toList_some, List.map_singleton, List.singleton_append, written, goesOn,
              if_neg Bool.false_ne_true, again, inductionHypothesis]

/-- The body after it went through gateways, each with its virtual model. -/
def through (depth : Nat) (virtualModels : List String) (body : String) : String :=
  virtualModels.foldl (fun body virtualModel =>
    bodyText (written virtualModel (readBody (jsonCodec depth) none body).events)) body

/-- No chunk that gateways with these models can write for the events holds a
string that splits the line. -/
def UnbrokenBy (virtualModels : List String) (events : List Event) : Prop :=
  ∀ virtualModel ∈ virtualModels, ∀ data, Frame.chunk data ∈ written virtualModel events →
    Unbroken data

theorem UnbrokenBy.of_begins {virtualModels : List String} {earlier events : List Event}
    (unbroken : UnbrokenBy virtualModels events) (isPrefix : earlier <+: events) :
    UnbrokenBy virtualModels earlier := by
  obtain ⟨later, rfl⟩ := isPrefix
  intro virtualModel member data isChunk
  exact unbroken virtualModel member data (written_append.subset isChunk)

theorem UnbrokenBy.readable {virtualModels : List String} {events : List Event} {depth : Nat}
    (unbroken : UnbrokenBy virtualModels events) (sound : ∀ event ∈ events, Sound depth event)
    {virtualModel : String} (member : virtualModel ∈ virtualModels) :
    ∀ frame ∈ written virtualModel events, frame.Readable depth := by
  intro frame isFrame data isData
  obtain ⟨wellFormed, rfl⟩ := wellFormed_of_written sound isFrame isData
  exact ⟨wellFormed, unbroken virtualModel member data isFrame⟩

/-- Behind any number of gateways the chunks are those of the first one, with
the model of the last one. -/
theorem readBody_through {virtualModel : String} {virtualModels : List String}
    {events : List Event} {depth : Nat} (sound : ∀ event ∈ events, Sound depth event)
    (unbroken : UnbrokenBy (virtualModel :: virtualModels) events) :
    readBody (jsonCodec depth) none
        (through depth virtualModels (bodyText (written virtualModel events))) =
      ⟨(written (virtualModels.getLastD virtualModel) events).map Frame.event, none⟩ := by
  induction virtualModels generalizing virtualModel with
  | nil => exact readBody_bodyText (unbroken.readable sound List.mem_cons_self)
  | cons next rest inductionHypothesis =>
      obtain ⟨own, others⟩ := List.forall_mem_cons.mp unbroken
      have readable := UnbrokenBy.readable (List.forall_mem_singleton.mpr own) sound
        List.mem_cons_self
      rw [through, List.foldl_cons, readBody_bodyText readable, written_written]
      exact (inductionHypothesis others).trans (by rw [List.getLastD_cons])

/-! ## Every interleaving -/

/-- The stream is what an OpenAI-compatible adapter makes of a successful
response with this body, in which no escape stands for half of a surrogate pair. -/
def ReadFrom (depth : Nat) (body : String) (stream : UpstreamStream) : Prop :=
  ∃ (adapter : OpenAiCompatibleAdapter) (response : Providers.HttpResponse),
    response.status < 400 ∧ response.lines = splitLines body ∧
      (∀ line ∈ response.lines, PairedLine depth line) ∧
      stream = adapter.readStream (jsonCodec depth) (.ok response)

theorem ReadFrom.read {depth : Nat} {body : String} {stream : UpstreamStream}
    (readFrom : ReadFrom depth body stream) :
    stream.events = (readBody (jsonCodec depth) none body).events ∧
      (stream.ending = none → (readBody (jsonCodec depth) none body).ending = none) := by
  obtain ⟨adapter, response, success, lines, -, rfl⟩ := readFrom
  rw [OpenAiCompatibleAdapter.readStream, if_neg (Int.not_le.mpr success), lines,
    iterSseEvents_ending]
  refine ⟨rfl, ?_⟩
  intro ended
  exact (Option.or_eq_none_iff.mp ended).1

section Interleaved

variable {ρ : Type} (kind : StoreKind) (engine : FallbackEngine) (service : GatewayService)
  {ι : Type} [DecidableEq ι] (requests : ι → Request kind.Contents) (start : kind.Contents)
  (schedule : List (Move ι Question (Question.Answer ρ)))

end Interleaved

/-! ### One chunk -/

def idChunk : Dict := [("id", .str "x")]

/-- A streaming request to the service with one key. -/
def streamedRequest : Request InMemoryStateStore where
  entry := .chatStream
  info := ⟨"r", "v"⟩
  clock := ⟨fun _ => 0, fun _ => 0⟩
  scored := fun s =>
    (scoredCandidates InMemoryStateStore.store (keyedService "s") "v" [] 0 s).1

/-- The request arrives, its contact opens a stream of the chunk and the end
marker, and both are pulled. -/
def idPulls : List (Move Unit Question (Question.Answer Dict)) :=
  List.replicate 4 ⟨(), fun
    | .arrival => ()
    | .call _ _ _ _ => AttemptOutcome.returned []
    | .contact _ _ _ _ => (⟨[dataEvent (.dict idChunk), doneEvent], none⟩ : UpstreamStream)
    | .yielded _ _ => ()⟩

instance (char : Char) : Decidable (SplitsLine char) :=
  inferInstanceAs (Decidable (_ ∨ _ ∨ _))

/-- The check of the strings, in a form that runs. -/
theorem unbroken_of_all {data : Dict}
    (plain : ((Json.dict data).strings.all fun text => text.toList.all fun char =>
      decide ¬ SplitsLine char) = true) : Unbroken data := by
  intro text isText
  exact forall_mem_of_all (List.all_eq_true.mp plain text isText)

theorem wellFormed_idChunk : (Json.dict idChunk).WellFormed 1 :=
  .dict (by decide) (List.forall_mem_singleton.mpr (.str "x"))

/-- The body of one chunk and the end marker. -/
def idBody : String := bodyText [.chunk idChunk, .done]

theorem splitLines_idBody : splitLines idBody =
    [String.ofList ("data: ".toList ++ (Json.dict idChunk).text), "", "data: [DONE]", ""] := by
  decide

theorem pairedLine_idBody : ∀ line ∈ splitLines idBody, PairedLine 1 line := by
  rw [splitLines_idBody]
  simp only [List.forall_mem_cons]
  refine ⟨pairedLine_whole wellFormed_idChunk, ?_, ?_, ?_, List.forall_mem_nil _⟩
  · intro data isData
    cases isData
  · intro data isData notDone
    exact absurd (by rw [← Option.some.inj isData]; decide) notDone
  · intro data isData
    cases isData

end AutoRouteGateway.Api

import AutoRouteGateway.Api.CommitBoundary
import AutoRouteGateway.Service.StreamFallback

/-!
Contract: how the output of a streaming request can look.

The generator catches three exceptions of `chat_stream`. A requirement that no
candidate meets, a payload that cannot be read, and a candidate without an
adapter or a secret raise others, which leave the generator.

Owns: the three shapes of the output, and the exact condition under which a
request gets one of them.
-/

namespace AutoRouteGateway.Api

open AutoRouteGateway.Config
open AutoRouteGateway.Domain
open AutoRouteGateway.Policy
open AutoRouteGateway.Routing
open AutoRouteGateway.Runtime
open AutoRouteGateway.Service
open AutoRouteGateway.State

/-! ## Shapes -/

/-- The chunk frame of an event, if it holds a dictionary. -/
def relay (virtualModel : String) (event : Event) : Option Frame :=
  match Dict.get? "data" event with
  | some (.dict data) => some (.chunk (withModel virtualModel data))
  | _ => none

def relayed (virtualModel : String) (events : List Event) : List Frame :=
  events.filterMap (relay virtualModel)

inductive Shape where
  | complete
  | singleError
  | truncated
deriving DecidableEq

/-- The frames have the shape, for a call that yielded the events. -/
def Shape.Fits (virtualModel : String) (events : List Event) (frames : List Frame) :
    Shape → Prop
  | .complete => ∃ before, before <+: events ∧ frames = relayed virtualModel before ++ [.done]
  | .singleError => ∃ message code, frames = [.error message code]
  | .truncated => frames = relayed virtualModel events ∧ HasValidChunk events

/-- The generator does not raise, and its output has exactly one of the shapes. -/
structure DefinedShape (virtualModel : String) (events : List Event) (output : SseOutput) :
    Prop where
  contained : output.escaped = none
  shaped : ∃! shape : Shape, shape.Fits virtualModel events output.frames

section Shapes

variable {virtualModel : String} {events : List Event}

theorem relayed_isChunk {frame : Frame} (member : frame ∈ relayed virtualModel events) :
    ∃ data, frame = .chunk data := by
  obtain ⟨event, -, isRelay⟩ := List.mem_filterMap.mp member
  unfold relay at isRelay
  split at isRelay
  · exact ⟨_, (Option.some.inj isRelay).symm⟩
  · cases isRelay

/-- Frames fit one shape at most. -/
theorem Shape.unique {frames : List Frame} {left right : Shape}
    (fitsLeft : left.Fits virtualModel events frames)
    (fitsRight : right.Fits virtualModel events frames) : left = right := by
  have doneIff : ∀ shape : Shape, shape.Fits virtualModel events frames →
      (Frame.done ∈ frames ↔ shape = .complete) := by
    intro shape fits
    cases shape with
    | complete =>
        obtain ⟨before, -, rfl⟩ := fits
        simp
    | singleError =>
        obtain ⟨message, code, rfl⟩ := fits
        simp
    | truncated =>
        obtain ⟨rfl, -⟩ := fits
        refine iff_of_false (fun member => ?_) (by simp)
        obtain ⟨data, same⟩ := relayed_isChunk member
        cases same
  have errorIff : ∀ shape : Shape, shape.Fits virtualModel events frames →
      ((∃ message code, Frame.error message code ∈ frames) ↔ shape = .singleError) := by
    intro shape fits
    cases shape with
    | complete =>
        obtain ⟨before, -, rfl⟩ := fits
        refine iff_of_false ?_ (by simp)
        rintro ⟨message, code, member⟩
        rcases List.mem_append.mp member with chunk | last
        · obtain ⟨data, same⟩ := relayed_isChunk chunk
          cases same
        · simp at last
    | singleError =>
        obtain ⟨message, code, rfl⟩ := fits
        simp
    | truncated =>
        obtain ⟨rfl, -⟩ := fits
        refine iff_of_false ?_ (by simp)
        rintro ⟨message, code, member⟩
        obtain ⟨data, same⟩ := relayed_isChunk member
        cases same
  have sameDone := (doneIff left fitsLeft).symm.trans (doneIff right fitsRight)
  have sameError := (errorIff left fitsLeft).symm.trans (errorIff right fitsRight)
  cases left <;> cases right <;> simp_all

theorem DefinedShape.of_fits {output : SseOutput} (contained : output.escaped = none)
    (shape : Shape) (fits : shape.Fits virtualModel events output.frames) :
    DefinedShape virtualModel events output :=
  ⟨contained, shape, fits, fun _ other => Shape.unique other fits⟩

theorem relayed_cons (event : Event) :
    relayed virtualModel (event :: events) =
      (relay virtualModel event).toList ++ relayed virtualModel events := by
  unfold relayed
  cases found : relay virtualModel event <;> simp [found]

/-- An event that is no end marker is relayed, or dropped. -/
theorem sse_cons (result : Except ServiceError Unit) {event : Event}
    (notDone : isDone event = false) :
    sse virtualModel result (event :: events) =
      ⟨(relay virtualModel event).toList ++ (sse virtualModel result events).frames,
        (sse virtualModel result events).escaped⟩ := by
  rw [sse, notDone, if_neg Bool.false_ne_true]
  unfold relay
  cases Dict.get? "data" event with
  | none => rfl
  | some data => cases data <;> rfl

/-- Frames of a call without an end marker: the relayed ones, then its end. -/
theorem sse_of_no_done (result : Except ServiceError Unit)
    (noDone : ∀ event ∈ events, isDone event = false) :
    sse virtualModel result events =
      ⟨relayed virtualModel events ++ (sseEnding result).frames, (sseEnding result).escaped⟩ := by
  induction events with
  | nil => rfl
  | cons event rest inductionHypothesis =>
      have later := inductionHypothesis fun other member => noDone other (by simp [member])
      rw [sse_cons result (noDone event (by simp)), later, relayed_cons, List.append_assoc]

/-- The first end marker ends the output. -/
theorem sse_of_done (virtualModel : String) (result : Except ServiceError Unit)
    (done : ∃ event ∈ events, isDone event = true) :
    ∃ before, before <+: events ∧
      sse virtualModel result events = ⟨relayed virtualModel before ++ [.done], none⟩ := by
  induction events with
  | nil =>
      obtain ⟨event, member, -⟩ := done
      cases member
  | cons event rest inductionHypothesis =>
      by_cases first : isDone event = true
      · exact ⟨[], List.nil_prefix, by rw [sse, if_pos first]; rfl⟩
      · have later : ∃ other ∈ rest, isDone other = true := by
          obtain ⟨other, member, isLast⟩ := done
          rcases List.mem_cons.mp member with same | member
          · exact absurd (same ▸ isLast) first
          · exact ⟨other, member, isLast⟩
        obtain ⟨before, isPrefix, output⟩ := inductionHypothesis later
        refine ⟨event :: before, List.cons_prefix_cons.mpr ⟨rfl, isPrefix⟩, ?_⟩
        rw [sse_cons result (by simpa using first), output, relayed_cons, List.append_assoc]

end Shapes

/-! ## The shape of a call -/

section Calls

variable {kind : StoreKind} {engine : FallbackEngine} {service : GatewayService} {clock : Clock}
  {upstream : Upstream kind.Contents}

theorem quietRecord (kind : StoreKind) : QuietRecord kind.store :=
  recordRouteEvent_done kind

/-- A call that raises without delivering anything has a shape exactly when the
generator catches what it raises. -/
theorem definedShape_undelivered_iff (virtualModel : String) (error : ServiceError)
    (notPartial : ∀ errorClass, error ≠ .partialStream errorClass) :
    DefinedShape virtualModel [] (sse virtualModel (.error error) []) ↔
      (∃ own, error = .noEligible own) ∨ ∃ own, error = .unknownVirtualModel own := by
  constructor
  · intro defined
    have contained := defined.contained
    cases error with
    | noEligible own => exact Or.inl ⟨own, rfl⟩
    | unknownVirtualModel own => exact Or.inr ⟨own, rfl⟩
    | partialStream errorClass => exact absurd rfl (notPartial errorClass)
    | _ => cases contained
  · rintro (⟨own, rfl⟩ | ⟨own, rfl⟩)
    · exact .of_fits rfl .singleError ⟨_, _, rfl⟩
    · exact .of_fits rfl .singleError ⟨_, _, rfl⟩

/-- What is delivered has a shape, whatever the upstream does. -/
theorem definedShape_delivered (request : RequestInfo) {handle : StreamHandle}
    (validated : handle.Validated) (s : kind.Contents) :
    let delivery := deliver kind.store request handle handle.iterated false s
    DefinedShape request.virtualModel delivery.yields
      (sse request.virtualModel delivery.result delivery.yields) := by
  intro delivery
  obtain ⟨yields, result⟩ := deliver_iterate request handle (quietRecord kind) handle.iterated
    false s
  rw [handle.iterate_iterated] at yields result
  change delivery.yields = handle.iteration.yields at yields
  change delivery.result = _ at result
  obtain ⟨decisive, yielded, decides⟩ := validated.yields
  rw [← yields] at result yielded
  by_cases done : ∃ event ∈ delivery.yields, isDone event = true
  · obtain ⟨before, isPrefix, output⟩ := sse_of_done request.virtualModel delivery.result
      done
    rw [output]
    exact .of_fits rfl .complete ⟨before, isPrefix, rfl⟩
  · have noDone : ∀ event ∈ delivery.yields, isDone event = false := by
      intro event member
      by_contra other
      exact done ⟨event, member, by simpa using other⟩
    -- the stream was not selected by an end marker
    have chunk : HasValidChunk delivery.yields := by
      rcases decides with isLast | valid
      · rw [noDone decisive yielded] at isLast
        cases isLast
      · exact ⟨decisive, yielded, valid⟩
    rw [sse_of_no_done delivery.result noDone]
    cases raised : handle.iteration.raised with
    | none =>
        rw [raised] at result
        rw [result]
        exact .of_fits rfl .complete ⟨_, List.prefix_rfl, rfl⟩
    | some exception =>
        rw [raised] at result
        simp only [Bool.false_eq_true, false_or, deliveryError, chunk, if_true] at result
        rw [result]
        exact .of_fits rfl .truncated ⟨List.append_nil _, chunk⟩

/-- The payload can be read, and a configured route has a candidate that meets
its requirement. -/
def Servable (service : GatewayService) (virtualModel : String) (payload : Dict)
    (counter : Nat) : Prop :=
  ∃ required, capabilitiesFromPayload payload = .ok required ∧
    ∀ candidates, (buildCandidates virtualModel service.config counter).1 = .ok candidates →
      capabilityGate candidates required ≠ []

/-- Every candidate that work starts on has an adapter and a secret. -/
def DuePrepared (kind : StoreKind) (engine : FallbackEngine) (service : GatewayService)
    (clock : Clock) (selection : Selection kind.Contents) : Prop :=
  ∀ turn ∈ selection.turns, turn.Due kind.store engine clock →
    Prepared service turn.scored.candidate

theorem servable_of_scored {virtualModel : String} {payload : Dict} {counter : Nat}
    {s : kind.Contents} {scored : List ScoredCandidate}
    (isScored : (scoredCandidates kind.store service virtualModel payload counter s).1 =
      .ok scored) : Servable service virtualModel payload counter := by
  unfold scoredCandidates at isScored
  split at isScored
  · cases isScored
  · rename_i required derived
    refine ⟨required, derived, ?_⟩
    intro candidates isBuilt
    split at isScored
    · cases isScored
    · rename_i own counter' build
      rw [build, Except.ok.injEq] at isBuilt
      split at isScored
      · cases isScored
      · rename_i nonempty
        rw [← isBuilt]
        exact nonempty

theorem servable_unscored_iff {virtualModel : String} {payload : Dict} {counter : Nat}
    {s : kind.Contents} {error : ServiceError}
    (raised : (scoredCandidates kind.store service virtualModel payload counter s).1 =
      .error error) :
    Servable service virtualModel payload counter ↔
      ∃ own, error = .unknownVirtualModel own := by
  unfold scoredCandidates at raised
  unfold Servable
  split at raised
  · rename_i text unreadable
    cases raised
    simp [unreadable]
  · rename_i required derived
    split at raised
    · rename_i own counter' build
      cases raised
      simp [derived, build]
    · rename_i candidates counter' build
      split at raised
      · rename_i empty
        cases raised
        simp [derived, build, empty]
      · cases raised

/-- Selection raises nothing but an empty pool exactly when every candidate that
work starts on is prepared. -/
theorem duePrepared_iff {requestId virtualModel : String} {payload : Dict} {counter : Nat}
    {start : kind.Contents} {selection : Selection kind.Contents}
    (isSelection : (chatStream kind.store engine service clock upstream requestId virtualModel
      payload counter start).selection = some selection) :
    DuePrepared kind engine service clock selection ↔
      ∀ error, selection.ending = .raised error → ∃ own, error = .noEligible own := by
  obtain ⟨scored, -, rfl⟩ := selection_of_chatStream isSelection
  have run := selectFrom_run kind engine service clock upstream ⟨requestId, virtualModel⟩ scored
    0 0 start
  constructor
  · intro prepared error raised
    obtain ⟨made, isError, -⟩ := (run.total prepared).raises error raised
    exact ⟨_, isError⟩
  · exact run.prepared

/-- The output of a streaming request has a defined shape, without an exception
that leaves the generator, exactly when the request can be served and every
candidate that work starts on is prepared. The turns are those of a selection
really made from the start store. -/
theorem stream_shape_defined_iff (kind : StoreKind) (engine : FallbackEngine)
    (service : GatewayService) (clock : Clock) (upstream : Upstream kind.Contents)
    (requestId : String) (request : StreamRequest) (counter : Nat) (start : kind.Contents) :
    (DefinedShape request.virtualModel
        (chatStream kind.store engine service clock upstream requestId request.virtualModel
          request.payload counter start).yields
        (streamResponse kind.store engine service clock upstream requestId request counter
          start) ↔
      Servable service request.virtualModel request.payload counter ∧
        ∀ selection, (chatStream kind.store engine service clock upstream requestId
            request.virtualModel request.payload counter start).selection = some selection →
          DuePrepared kind engine service clock selection) ∧
      ∀ selection, (chatStream kind.store engine service clock upstream requestId
          request.virtualModel request.payload counter start).selection = some selection →
        SelectionPerformed kind.store engine service clock upstream
          ⟨requestId, request.virtualModel⟩ start selection := by
  refine ⟨?_, ?_⟩
  swap
  · intro selection isSelection
    obtain ⟨scored, -, rfl⟩ := selection_of_chatStream isSelection
    exact selectFrom_performed ..
  simp only [streamResponse]
  cases found : (scoredCandidates kind.store service request.virtualModel request.payload counter
      start).1 with
  | error error =>
      obtain ⟨result, selection, yields⟩ := chatStream_unscored engine clock upstream
        requestId found
      have early := scoredCandidates_raises found
      rw [result, selection, yields, definedShape_undelivered_iff _ _ early.not_partialStream,
        servable_unscored_iff found]
      constructor
      · rintro (⟨own, rfl⟩ | unknown)
        · exact absurd early id
        · exact ⟨unknown, fun _ none => by cases none⟩
      · exact fun both => Or.inr both.1
  | ok scored =>
      have servable := servable_of_scored found
      have isSelection : (chatStream kind.store engine service clock upstream requestId
          request.virtualModel request.payload counter start).selection =
          some (selectFrom kind.store engine service clock upstream
            ⟨requestId, request.virtualModel⟩ scored 0 0 start) :=
        chatStream_selection requestId found
      have only : (∀ selection, (chatStream kind.store engine service clock upstream requestId
            request.virtualModel request.payload counter start).selection = some selection →
          DuePrepared kind engine service clock selection) ↔
          DuePrepared kind engine service clock (selectFrom kind.store engine service clock
            upstream ⟨requestId, request.virtualModel⟩ scored 0 0 start) := by
        rw [isSelection]
        simp
      rw [only, and_iff_right servable, duePrepared_iff isSelection]
      cases chatStream_outcome kind.store engine service clock upstream requestId
        request.virtualModel request.payload counter start with
      | unscored error early none yields result =>
          rw [isSelection] at none
          cases none
      | unselected selection error late isOwn ending yields result =>
          rw [isSelection, Option.some.injEq] at isOwn
          rw [result, yields, isOwn, ending,
            definedShape_undelivered_iff _ _ late.not_partialStream]
          constructor
          · rintro (⟨own, rfl⟩ | ⟨own, rfl⟩) other same
            · cases same
              exact ⟨own, rfl⟩
            · exact absurd late id
          · exact fun onlyNoEligible => Or.inl (onlyNoEligible error rfl)
      | delivered selection handle isOwn ending validated yields result =>
          rw [isSelection, Option.some.injEq] at isOwn
          rw [result, yields, isOwn, ending]
          have shaped := definedShape_delivered ⟨requestId, request.virtualModel⟩ validated
            selection.store
          refine iff_of_true shaped ?_
          intro error same
          cases same

end Calls

/-- The least body that streams. -/
def streamingRequest : StreamRequest where
  payload := [("model", .str "v"), ("stream", .bool true)]
  virtualModel := "v"
  isModel := rfl
  named := by decide
  streams := rfl

/-- A streaming request on a route whose only model does not stream: the
exception leaves the generator, and there is no output. -/
theorem unsatisfiable_request_escapes :
    let service := keyedService "s"
    let upstream : Upstream InMemoryStateStore :=
      .constant _ (.body []) (.completed []) ⟨[[("data", .str "[DONE]")]], none⟩
    let output := streamResponse InMemoryStateStore.store {} service ⟨fun _ => 0, fun _ => 0⟩
      upstream "r" streamingRequest 0 InMemoryStateStore.empty
    validate service.config = .ok () ∧ output.frames = [] ∧
      output.escaped = some (.requestValidation {.usage, .stream, .text} "v") ∧
      ∀ events, ¬ DefinedShape "v" events output := by
  refine ⟨rfl, rfl, rfl, ?_⟩
  intro events defined
  cases defined.contained

end AutoRouteGateway.Api

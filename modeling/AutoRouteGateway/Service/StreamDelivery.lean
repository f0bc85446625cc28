import AutoRouteGateway.Service.NoMixedResponse

/-!
Contract: what a caller of `chat_stream` gets.

Owns: the iterator of the selected handle on its own, the delivery in terms of
it when recording does not raise, and the three ways a call can go: it raises
before it selects, its selection raises, or it delivers the selected stream.
-/

namespace AutoRouteGateway.Service

open AutoRouteGateway.Domain
open AutoRouteGateway.Policy
open AutoRouteGateway.Routing
open AutoRouteGateway.Runtime
open AutoRouteGateway.State

/-! ## The iterator of the handle -/

/-- What the iterator yields, and the exception that leaves it: the upstream's
own, or one raised by looking at an event. -/
structure Iteration where
  yields : List Event
  raised : Option UpstreamException

def StreamHandle.iterate (handle : StreamHandle) : List (Bool × Event) → (committed : Bool) →
    Iteration
  | [], _ => ⟨[], handle.ending⟩
  | (replayed, event) :: rest, committed =>
      match commits replayed committed event with
      | .error text => ⟨[], some (.other text)⟩
      | .ok committed =>
          let later := handle.iterate rest committed
          { later with yields := event :: later.yields }

def StreamHandle.iteration (handle : StreamHandle) : Iteration :=
  handle.iterate handle.iterated false

theorem StreamHandle.iterate_iterated (handle : StreamHandle) :
    handle.iterate handle.iterated false = handle.iteration := rfl

/-- Some of the events is a valid chunk. -/
def HasValidChunk (events : List Event) : Prop :=
  ∃ event ∈ events, isValidChunk event = .ok true

instance (event : Event) : Decidable (isValidChunk event = .ok true) :=
  match isValidChunk event with
  | .ok true => isTrue rfl
  | .ok false => isFalse nofun
  | .error _ => isFalse nofun

instance (events : List Event) : Decidable (HasValidChunk events) :=
  inferInstanceAs (Decidable (∃ event ∈ events, isValidChunk event = .ok true))

theorem hasValidChunk_cons {event : Event} {rest : List Event} :
    HasValidChunk (event :: rest) ↔ isValidChunk event = .ok true ∨ HasValidChunk rest :=
  List.exists_mem_cons_iff ..

theorem not_hasValidChunk_nil : ¬ HasValidChunk [] := by
  rintro ⟨event, member, -⟩
  cases member

/-- The flag after one event: it was set, or the event is a valid chunk. -/
theorem commits_ok {replayed committed committed' : Bool} {event : Event}
    (looked : commits replayed committed event = .ok committed') :
    committed' = true ↔ committed = true ∨ isValidChunk event = .ok true := by
  unfold commits at looked
  split at looked
  · rename_i skipped
    cases looked
    rw [Bool.and_eq_true] at skipped
    simp [skipped.1]
  · split at looked
    · cases looked
    · rename_i valid isValid
      cases looked
      rw [Bool.or_eq_true, isValid, Except.ok.injEq]

/-- How the delivery ends after an exception, by the commitment. -/
def deliveryError (virtualModel : String) (handle : StreamHandle)
    (exception : UpstreamException) (committed : Prop) [Decidable committed] : ServiceError :=
  if committed then .partialStream (candidateFailure exception).errorClass
  else .noEligible ⟨virtualModel, handle.attempt, some (candidateFailure exception).errorClass⟩

/-! ## Selected handles -/

/-- What reading the prefix makes sure of: every buffered event was looked at
without an exception, and the last one ends the stream or is a valid chunk. -/
structure StreamHandle.Validated (handle : StreamHandle) : Prop where
  inspected : ∀ event ∈ handle.buffered, ∃ valid, isValidChunk event = .ok valid
  decided : ∃ event ∈ handle.buffered, isDone event = true ∨ isValidChunk event = .ok true

theorem validated_of_readPrefix {handle : StreamHandle} {ending : Option UpstreamException}
    {events rest : List Event}
    (selected : readPrefix ending events = .selected handle.buffered rest) :
    handle.Validated := by
  obtain ⟨attempt, candidate, buffered, tail, handleEnding⟩ := handle
  dsimp only at selected
  suffices both : (∀ event ∈ buffered, ∃ valid, isValidChunk event = .ok valid) ∧
      ∃ event ∈ buffered, isDone event = true ∨ isValidChunk event = .ok true from
    ⟨both.1, both.2⟩
  induction events generalizing buffered with
  | nil => cases ending <;> cases selected
  | cons event later inductionHypothesis =>
      simp only [readPrefix] at selected
      split at selected
      · rename_i done
        cases selected
        simp [done, isValidChunk_of_isDone done]
      · split at selected
        · cases selected
        · rename_i valid
          cases selected
          simp [valid]
        · rename_i invalid
          split at selected
          · rename_i buffered' rest' read
            cases selected
            obtain ⟨inspected, decided⟩ := inductionHypothesis buffered' read
            constructor
            · intro other member
              rcases List.mem_cons.mp member with same | member
              · exact ⟨false, same ▸ invalid⟩
              · exact inspected other member
            · obtain ⟨other, member, decides⟩ := decided
              exact ⟨other, List.mem_cons_of_mem _ member, decides⟩
          · rename_i other
            exact absurd selected (by simpa using other buffered rest)

/-- The replay of inspected events yields them all. -/
theorem iterate_replayed (handle : StreamHandle) {buffered : List Event}
    (inspected : ∀ event ∈ buffered, ∃ valid, isValidChunk event = .ok valid)
    (rest : List (Bool × Event)) (committed : Bool) :
    ∃ committed', (handle.iterate (buffered.map (true, ·) ++ rest) committed).yields =
      buffered ++ (handle.iterate rest committed').yields := by
  induction buffered generalizing committed with
  | nil => exact ⟨committed, rfl⟩
  | cons event later inductionHypothesis =>
      obtain ⟨valid, looked⟩ := inspected event (by simp)
      obtain ⟨committed', yields⟩ := inductionHypothesis
        (fun other member => inspected other (by simp [member])) (committed || valid)
      refine ⟨committed', ?_⟩
      rw [List.map_cons, List.cons_append, StreamHandle.iterate]
      simp only [commits, Bool.not_true, Bool.and_false, Bool.false_eq_true, if_false, looked,
        yields, List.cons_append]

/-- A selected stream yields an end marker or a valid chunk, before anything
can go wrong. -/
theorem StreamHandle.Validated.yields {handle : StreamHandle} (validated : handle.Validated) :
    ∃ event ∈ handle.iteration.yields, isDone event = true ∨ isValidChunk event = .ok true := by
  obtain ⟨event, member, decides⟩ := validated.decided
  obtain ⟨committed', yields⟩ := iterate_replayed handle validated.inspected
    (handle.events.map (false, ·)) false
  refine ⟨event, ?_, decides⟩
  rw [StreamHandle.iteration, StreamHandle.iterated, yields]
  exact List.mem_append_left _ member

section Delivery

variable {σ : Type} {S : StateStore σ} (request : RequestInfo) (handle : StreamHandle)

/-- Recording an event never raises. -/
def QuietRecord (S : StateStore σ) : Prop :=
  ∀ event s, ∃ s', S.recordRouteEvent event s = .done s'

theorem recordDone_done (quiet : QuietRecord S) (event : Event) (s : σ) :
    ∃ s', recordDone S request handle event s = .done s' := by
  unfold recordDone
  split
  · exact quiet _ s
  · exact ⟨s, rfl⟩

theorem deliveryFailure_result (quiet : QuietRecord S) (exception : UpstreamException)
    (committed : Bool) (s : σ) :
    (deliveryFailure S request handle exception committed s).result =
      .error (deliveryError request.virtualModel handle exception (committed = true)) := by
  obtain ⟨s', recorded⟩ := quiet (routeEvent request handle.candidate handle.attempt
    (some (candidateFailure exception).errorClass)
    (if committed then .partialStreamFailure else .nextCandidate)) s
  simp only [deliveryFailure, recorded, deliveryError]
  cases committed <;> rfl

/-- The delivery yields what the iterator yields, and raises when it raises. -/
theorem deliver_iterate (quiet : QuietRecord S) (events : List (Bool × Event))
    (committed : Bool) (s : σ) :
    (deliver S request handle events committed s).yields =
        (handle.iterate events committed).yields ∧
      (deliver S request handle events committed s).result =
        match (handle.iterate events committed).raised with
        | none => .ok ()
        | some exception => .error (deliveryError request.virtualModel handle exception
            (committed = true ∨ HasValidChunk (handle.iterate events committed).yields)) := by
  induction events generalizing committed s with
  | nil =>
      simp only [deliver, StreamHandle.iterate]
      cases handle.ending with
      | none => exact ⟨rfl, rfl⟩
      | some exception =>
          simp only [deliveryFailure_yields, deliveryFailure_result request handle quiet,
            not_hasValidChunk_nil, or_false, and_self]
  | cons item rest inductionHypothesis =>
      obtain ⟨replayed, event⟩ := item
      cases looked : commits replayed committed event with
      | error text =>
          simp only [deliver, StreamHandle.iterate, looked, deliveryFailure_yields,
            deliveryFailure_result request handle quiet, not_hasValidChunk_nil, or_false, and_self]
      | ok committed' =>
          obtain ⟨s', recorded⟩ := recordDone_done request handle quiet
            event s
          obtain ⟨yields, result⟩ := inductionHypothesis committed' s'
          simp only [deliver, StreamHandle.iterate, looked, recorded]
          refine ⟨congrArg (event :: ·) yields, ?_⟩
          rw [result]
          simp only [hasValidChunk_cons, commits_ok looked, or_assoc]

end Delivery

/-! ## The ways of a call -/

section Call

variable {σ : Type} {S : StateStore σ} {engine : FallbackEngine} {service : GatewayService}
  {clock : Clock} {upstream : Upstream σ} {request : RequestInfo}

/-- What the candidates of a request raise before any of them is tried. -/
def ServiceError.BeforeSelection : ServiceError → Prop
  | .payload _ | .unknownVirtualModel _ | .requestValidation _ _ => True
  | _ => False

/-- What the selection loop raises. -/
def ServiceError.OfSelection : ServiceError → Prop
  | .noEligible error => error.lastError = none
  | .noAdapter _ | .secret _ | .store _ => True
  | _ => False

theorem ServiceError.BeforeSelection.not_partialStream {error : ServiceError}
    (early : error.BeforeSelection) (errorClass : ErrorClass) :
    error ≠ .partialStream errorClass := by
  rintro rfl
  exact early

theorem ServiceError.OfSelection.not_partialStream {error : ServiceError}
    (late : error.OfSelection) (errorClass : ErrorClass) :
    error ≠ .partialStream errorClass := by
  rintro rfl
  exact late

theorem scoredCandidates_raises {virtualModel : String} {payload : Dict} {counter : Nat} {s : σ}
    {error : ServiceError}
    (raised : (scoredCandidates S service virtualModel payload counter s).1 = .error error) :
    error.BeforeSelection := by
  unfold scoredCandidates at raised
  split at raised
  · cases raised
    trivial
  · split at raised
    · cases raised
      trivial
    · split at raised
      · cases raised
        trivial
      · cases raised

theorem prepare_raises {candidate : RouteCandidate} {error : ServiceError}
    (raised : prepare service candidate = .error error) : error.OfSelection := by
  unfold prepare at raised
  split at raised
  · cases raised
    trivial
  · split at raised
    · cases raised
      trivial
    · cases raised

theorem contactCandidate_raises {attempt : Nat} {candidate : RouteCandidate} {secret : String}
    {s : σ} {error : ServiceError}
    (raised : (contactCandidate S engine clock upstream request attempt candidate secret s).2 =
      some (.raised error)) : error.OfSelection := by
  simp only [contactCandidate] at raised
  split at raised
  · cases raised
    trivial
  · split at raised <;> cases raised

theorem selectFrom_raises (scored : List ScoredCandidate) (position attempts : Nat) (s : σ)
    {error : ServiceError}
    (raised : (selectFrom S engine service clock upstream request scored position attempts
      s).ending = .raised error) : error.OfSelection := by
  induction scored generalizing position attempts s with
  | nil =>
      cases raised
      rfl
  | cons sc rest inductionHypothesis =>
      simp only [selectFrom] at raised
      split at raised
      · split at raised
        · cases raised
          rfl
        · split at raised
          · rename_i failed
            cases raised
            exact prepare_raises failed
          · split at raised
            · rename_i ending ends
              rw [show ending = .raised error from raised] at ends
              exact contactCandidate_raises ends
            · exact inductionHypothesis _ _ _ raised
      · exact inductionHypothesis _ _ _ raised

theorem contactCandidate_validated {attempt : Nat} {candidate : RouteCandidate} {secret : String}
    {s : σ} {handle : StreamHandle}
    (selected : (contactCandidate S engine clock upstream request attempt candidate secret s).2 =
      some (.selected handle)) : handle.Validated := by
  simp only [contactCandidate] at selected
  split at selected
  · cases selected
  · split at selected
    · rename_i buffered rest read
      cases selected
      exact validated_of_readPrefix read
    · cases selected

theorem selectFrom_validated (scored : List ScoredCandidate) (position attempts : Nat) (s : σ)
    {handle : StreamHandle}
    (selected : (selectFrom S engine service clock upstream request scored position attempts
      s).ending = .selected handle) : handle.Validated := by
  induction scored generalizing position attempts s with
  | nil => cases selected
  | cons sc rest inductionHypothesis =>
      simp only [selectFrom] at selected
      split at selected
      · split at selected
        · cases selected
        · split at selected
          · cases selected
          · split at selected
            · rename_i ending ends
              rw [show ending = .selected handle from selected] at ends
              exact contactCandidate_validated ends
            · exact inductionHypothesis _ _ _ selected
      · exact inductionHypothesis _ _ _ selected

theorem yields_of_contacts (contacts : List StreamStep) (yields : List Event) (attempt : Nat)
    (onlyContacts : contacts.filterMap StreamStep.event? = []) :
    (contacts ++ yields.map (StreamStep.yielded attempt)).filterMap StreamStep.event? = yields := by
  rw [List.filterMap_append, onlyContacts, List.nil_append, List.filterMap_map]
  exact List.filterMap_some

theorem contacts_yield_nothing (turns : List (StreamTurn σ)) :
    (turns.flatMap StreamTurn.steps).filterMap StreamStep.event? = [] := by
  rw [steps_eq_contacts, List.filterMap_map]
  exact List.filterMap_eq_nil_iff.mpr fun _ _ => rfl

variable (S engine service clock upstream)

/-- The three ways of one call. -/
inductive CallOutcome (request : RequestInfo) (call : StreamResult σ) : Prop where
  | unscored (error : ServiceError) (early : error.BeforeSelection)
      (selection : call.selection = none) (yields : call.yields = [])
      (result : call.result = .error error)
  | unselected (selection : Selection σ) (error : ServiceError) (late : error.OfSelection)
      (isSelection : call.selection = some selection) (ending : selection.ending = .raised error)
      (yields : call.yields = []) (result : call.result = .error error)
  | delivered (selection : Selection σ) (handle : StreamHandle)
      (isSelection : call.selection = some selection)
      (ending : selection.ending = .selected handle) (validated : handle.Validated)
      (yields : call.yields =
        (deliver S request handle handle.iterated false selection.store).yields)
      (result : call.result =
        (deliver S request handle handle.iterated false selection.store).result)

theorem chatStream_outcome (requestId virtualModel : String) (payload : Dict) (counter : Nat)
    (start : σ) :
    CallOutcome S ⟨requestId, virtualModel⟩ (chatStream S engine service clock upstream requestId
      virtualModel payload counter start) := by
  simp only [chatStream]
  split
  · rename_i error counter' raised
    exact .unscored error (scoredCandidates_raises (congrArg Prod.fst raised)) rfl rfl rfl
  · split
    · rename_i error ending
      exact .unselected _ error (selectFrom_raises _ _ _ _ ending) rfl ending
        (contacts_yield_nothing _) rfl
    · rename_i handle ending
      exact .delivered _ handle rfl ending (selectFrom_validated _ _ _ _ ending)
        (yields_of_contacts _ _ _ (contacts_yield_nothing _)) rfl

variable {S service}

/-- A call without a scored list raises what kept it from one. -/
theorem chatStream_unscored (requestId : String) {virtualModel : String} {payload : Dict}
    {counter : Nat} {start : σ} {error : ServiceError}
    (raised : (scoredCandidates S service virtualModel payload counter start).1 = .error error) :
    (chatStream S engine service clock upstream requestId virtualModel payload counter
        start).result = .error error ∧
      (chatStream S engine service clock upstream requestId virtualModel payload counter
        start).selection = none ∧
      (chatStream S engine service clock upstream requestId virtualModel payload counter
        start).yields = [] := by
  simp only [chatStream]
  split
  · rename_i found
    rw [found] at raised
    cases raised
    exact ⟨rfl, rfl, rfl⟩
  · rename_i found
    rw [found] at raised
    cases raised

end Call

end AutoRouteGateway.Service

import AutoRouteGateway.Service.Gateway

/-!
Contract: the streaming entry.

Owns: reading the prefix of one upstream stream, the selection loop over the
scored list, the replay and the tail of the selected stream, and the trace of
one call of `chat_stream`.

A caller consumes the yielded events one by one and may stop at any of them,
so it observes a prefix of the trace. As in `Routing.Run`, the log of the
selection is for the observer only.
-/

namespace AutoRouteGateway.Service

open AutoRouteGateway.Domain
open AutoRouteGateway.Policy
open AutoRouteGateway.Routing
open AutoRouteGateway.Runtime
open AutoRouteGateway.State

/-! ## The prefix of one stream -/

/-- How reading a prefix ends: with the events buffered and those still to
come, with the stream over, or with an exception. -/
inductive PrefixResult where
  | selected (buffered rest : List Event)
  | exhausted
  | failed (exception : UpstreamException)

/-- Read up to the end marker or the first valid chunk. -/
def readPrefix (ending : Option UpstreamException) : List Event → PrefixResult
  | [] =>
      match ending with
      | none => .exhausted
      | some exception => .failed exception
  | event :: rest =>
      if isDone event then .selected [event] rest
      else
        match isValidChunk event with
        | .error text => .failed (.other text)
        | .ok true => .selected [event] rest
        | .ok false =>
            match readPrefix ending rest with
            | .selected buffered rest => .selected (event :: buffered) rest
            | other => other

/-- The buffer and what is still to come are the stream, with nothing lost,
repeated or reordered, and the buffer holds at least one event. -/
theorem readPrefix_selected {ending : Option UpstreamException}
    {events buffered rest : List Event}
    (selected : readPrefix ending events = .selected buffered rest) :
    buffered ++ rest = events ∧ buffered ≠ [] := by
  induction events generalizing buffered with
  | nil => cases ending <;> cases selected
  | cons event tail inductionHypothesis =>
      simp only [readPrefix] at selected
      split at selected
      · cases selected
        simp
      · split at selected
        · cases selected
        · cases selected
          simp
        · split at selected
          · rename_i buffered' rest' read
            cases selected
            obtain ⟨whole, -⟩ := inductionHypothesis read
            exact ⟨by rw [List.cons_append, whole], by simp⟩
          · rename_i other
            exact absurd selected (by simpa using other buffered rest)

/-! ## Selection -/

/-- The selected stream: its attempt, the buffer, and the rest of the iterator. -/
structure StreamHandle where
  attempt : Nat
  candidate : RouteCandidate
  buffered : List Event
  events : List Event
  ending : Option UpstreamException

/-- One candidate that was contacted: the secret it was called with, its
stream, and the store before the contact, when its prefix was read and after
the bookkeeping. -/
structure StreamAttempt (σ : Type) where
  number : Nat
  candidate : RouteCandidate
  secret : String
  stream : UpstreamStream
  started : σ
  returned : σ
  settled : σ

/-- What became of one position of the scored list. -/
inductive Verdict (σ : Type) where
  | skipped
  | ceiling
  | unprepared (error : ServiceError)
  | contacted (attempt : StreamAttempt σ)

/-- One position of the scored list: the store and the attempts made at its turn. -/
structure StreamTurn (σ : Type) where
  position : Nat
  scored : ScoredCandidate
  store : σ
  attempts : Nat
  verdict : Verdict σ

inductive SelectionEnd where
  | selected (handle : StreamHandle)
  | raised (error : ServiceError)

structure Selection (σ : Type) where
  turns : List (StreamTurn σ)
  ending : SelectionEnd
  store : σ

/-- The store a turn leaves. -/
def StreamTurn.left {σ : Type} (turn : StreamTurn σ) : σ :=
  match turn.verdict with
  | .contacted attempt => attempt.settled
  | _ => turn.store

section Stream

variable {σ : Type} (S : StateStore σ) (engine : FallbackEngine) (service : GatewayService)
  (clock : Clock) (upstream : Upstream σ) (request : RequestInfo)

/-- The adapter and the secret of a candidate, looked up outside the `try`. -/
def prepare (candidate : RouteCandidate) : Except ServiceError String :=
  if service.hasAdapter candidate = false then .error (.noAdapter candidate.providerId)
  else
    match service.secret candidate with
    | .error error => .error (.secret error)
    | .ok secret => .ok secret

/-- The bookkeeping after a prefix that selects nothing: the store it leaves,
and the exception a store operation raised, if any. A stream that ends without
content is recorded as a server failure but writes no state. -/
def settlePrefix (attempt : Nat) (candidate : RouteCandidate) (s : σ) :
    PrefixResult → StoreResult σ
  | .selected _ _ => .done s
  | .exhausted =>
      S.recordRouteEvent
        (routeEvent request candidate attempt (some .server) .nextCandidate) s
  | .failed exception =>
      let failure := candidateFailure exception
      match applyFailure S engine (clock.settle attempt) candidate failure s with
      | .raised error s => .raised error s
      | .done s =>
          S.recordRouteEvent
            (routeEvent request candidate attempt (some failure.errorClass) .nextCandidate) s

/-- One contact: the log of it, and the selection if it ends here. -/
def contactCandidate (attempt : Nat) (candidate : RouteCandidate) (secret : String) (s : σ) :
    StreamAttempt σ × Option SelectionEnd :=
  let call := upstream.chatCompletionsStream attempt candidate secret s
  let read := readPrefix call.1.ending call.1.events
  let settled := settlePrefix S engine clock request attempt candidate call.2 read
  let log : StreamAttempt σ :=
    { number := attempt
      candidate := candidate
      secret := secret
      stream := call.1
      started := s
      returned := call.2
      settled := settled.state }
  match settled with
  | .raised error _ => (log, some (.raised (.store error)))
  | .done _ =>
      match read with
      | .selected buffered rest =>
          (log, some (.selected ⟨attempt, candidate, buffered, rest, call.1.ending⟩))
      | _ => (log, none)

/-- The log of a contact, whatever follows it. -/
theorem contactCandidate_log (attempt : Nat) (candidate : RouteCandidate) (secret : String)
    (s : σ) :
    (contactCandidate S engine clock upstream request attempt candidate secret s).1 =
      let call := upstream.chatCompletionsStream attempt candidate secret s
      { number := attempt
        candidate := candidate
        secret := secret
        stream := call.1
        started := s
        returned := call.2
        settled := (settlePrefix S engine clock request attempt candidate call.2
          (readPrefix call.1.ending call.1.events)).state } := by
  simp only [contactCandidate]
  split
  · rfl
  · split <;> rfl

/-- The selection loop from one position on. -/
def selectFrom : List ScoredCandidate → (position attempts : Nat) → σ → Selection σ
  | [], _, attempts, s =>
      { turns := []
        ending := .raised (.noEligible ⟨request.virtualModel, attempts, none⟩)
        store := s }
  | sc :: rest, position, attempts, s =>
      if attemptable S (clock.check position) s sc then
        if engine.policy.hardAttemptCeiling ≤ attempts then
          { turns := [⟨position, sc, s, attempts, .ceiling⟩]
            ending := .raised (.noEligible ⟨request.virtualModel, attempts, none⟩)
            store := s }
        else
          match prepare service sc.candidate with
          | .error error =>
              { turns := [⟨position, sc, s, attempts, .unprepared error⟩]
                ending := .raised error
                store := s }
          | .ok secret =>
              let contact := contactCandidate S engine clock upstream request (attempts + 1)
                sc.candidate secret s
              let turn : StreamTurn σ := ⟨position, sc, s, attempts, .contacted contact.1⟩
              match contact.2 with
              | some ending => ⟨[turn], ending, contact.1.settled⟩
              | none =>
                  let later := selectFrom rest (position + 1) (attempts + 1) contact.1.settled
                  { later with turns := turn :: later.turns }
      else
        let later := selectFrom rest (position + 1) attempts s
        { later with turns := ⟨position, sc, s, attempts, .skipped⟩ :: later.turns }

/-- The log tells of a selection that was really made from `start` on: each
contact is one of `upstream` with the candidate's own secret, its bookkeeping
follows, and every turn found the store that was left before it. -/
structure SelectionPerformed (start : σ) (selection : Selection σ) : Prop where
  contacted : ∀ turn ∈ selection.turns, ∀ attempt, turn.verdict = .contacted attempt →
    prepare service turn.scored.candidate = .ok attempt.secret ∧
      attempt = (contactCandidate S engine clock upstream request (turn.attempts + 1)
        turn.scored.candidate attempt.secret turn.store).1
  turns : Handed StreamTurn.store StreamTurn.left start selection.turns selection.store

variable {S engine service clock upstream request} in
/-- A turn in front of what the selection does from the store it leaves. -/
theorem SelectionPerformed.cons (turn : StreamTurn σ) {later : Selection σ}
    (own : ∀ attempt, turn.verdict = .contacted attempt →
      prepare service turn.scored.candidate = .ok attempt.secret ∧
        attempt = (contactCandidate S engine clock upstream request (turn.attempts + 1)
          turn.scored.candidate attempt.secret turn.store).1)
    (performed : SelectionPerformed S engine service clock upstream request turn.left later) :
    SelectionPerformed S engine service clock upstream request turn.store
      { later with turns := turn :: later.turns } where
  contacted := List.forall_mem_cons.mpr ⟨own, performed.contacted⟩
  turns := ⟨rfl, performed.turns⟩

theorem selectFrom_performed (scored : List ScoredCandidate) (position attempts : Nat) (s : σ) :
    SelectionPerformed S engine service clock upstream request s
      (selectFrom S engine service clock upstream request scored position attempts s) := by
  have nothing : ∀ (s : σ) (ending : SelectionEnd),
      SelectionPerformed S engine service clock upstream request s ⟨[], ending, s⟩ :=
    fun s ending => ⟨List.forall_mem_nil _, rfl⟩
  induction scored generalizing position attempts s with
  | nil => exact nothing _ _
  | cons sc rest inductionHypothesis =>
      simp only [selectFrom]
      split
      · split
        · refine SelectionPerformed.cons ⟨position, sc, s, attempts, .ceiling⟩ ?_ (nothing s _)
          intro attempt same
          cases same
        · split
          · rename_i error _
            refine SelectionPerformed.cons ⟨position, sc, s, attempts, .unprepared error⟩ ?_
              (nothing s _)
            intro attempt same
            cases same
          · rename_i secret prepared
            have logged := contactCandidate_log S engine clock upstream request (attempts + 1)
              sc.candidate secret s
            have own : ∀ attempt, Verdict.contacted (contactCandidate S engine clock upstream
                request (attempts + 1) sc.candidate secret s).1 = .contacted attempt →
                prepare service sc.candidate = .ok attempt.secret ∧
                  attempt = (contactCandidate S engine clock upstream request (attempts + 1)
                    sc.candidate attempt.secret s).1 := by
              rintro attempt ⟨⟩
              have secretKept : (contactCandidate S engine clock upstream request (attempts + 1)
                  sc.candidate secret s).1.secret = secret := by rw [logged]
              rw [secretKept]
              exact ⟨prepared, rfl⟩
            split
            · exact SelectionPerformed.cons ⟨position, sc, s, attempts, .contacted _⟩ own
                (nothing _ _)
            · exact SelectionPerformed.cons ⟨position, sc, s, attempts, .contacted _⟩ own
                (inductionHypothesis _ _ _)
      · refine SelectionPerformed.cons ⟨position, sc, s, attempts, .skipped⟩ ?_
          (inductionHypothesis _ _ s)
        intro attempt same
        cases same

/-! ## Delivery -/

/-- What the delivery of the selected stream yields, how it ends, and the store
it leaves. -/
structure Delivery (σ : Type) where
  yields : List Event
  result : Except ServiceError Unit
  store : σ

/-- An exception during the delivery: it is recorded, and what is raised
depends on whether the stream was committed. -/
def deliveryFailure (handle : StreamHandle) (exception : UpstreamException) (committed : Bool)
    (s : σ) : Delivery σ :=
  let failure := candidateFailure exception
  let action : EventAction := if committed then .partialStreamFailure else .nextCandidate
  match S.recordRouteEvent
      (routeEvent request handle.candidate handle.attempt (some failure.errorClass) action) s with
  | .raised error s => ⟨[], .error (.store error), s⟩
  | .done s =>
      if committed then ⟨[], .error (.partialStream failure.errorClass), s⟩
      else
        ⟨[], .error (.noEligible
          ⟨request.virtualModel, handle.attempt, some failure.errorClass⟩), s⟩

/-- `committed` after the iterator of the handle has looked at the event. The
replay of the buffer looks at every event, the tail only until committed. -/
def commits (replayed committed : Bool) (event : Event) : Except String Bool :=
  if committed && !replayed then .ok true
  else
    match isValidChunk event with
    | .error text => .error text
    | .ok valid => .ok (committed || valid)

/-- The end marker is recorded as a success before it is yielded. -/
def recordDone (handle : StreamHandle) (event : Event) (s : σ) : StoreResult σ :=
  if isDone event then
    S.recordRouteEvent (routeEvent request handle.candidate handle.attempt none .success) s
  else .done s

/-- Deliver the remaining events, each marked as replayed from the buffer or not. -/
def deliver (handle : StreamHandle) : List (Bool × Event) → (committed : Bool) → σ → Delivery σ
  | [], committed, s =>
      match handle.ending with
      | none => ⟨[], .ok (), s⟩
      | some exception => deliveryFailure S request handle exception committed s
  | (replayed, event) :: rest, committed, s =>
      match commits replayed committed event with
      | .error text => deliveryFailure S request handle (.other text) committed s
      | .ok committed =>
          match recordDone S request handle event s with
          | .raised error s => deliveryFailure S request handle (.other error.message) committed s
          | .done s =>
              let later := deliver handle rest committed s
              { later with yields := event :: later.yields }

/-- The buffer, then the tail of the same iterator. -/
def StreamHandle.iterated (handle : StreamHandle) : List (Bool × Event) :=
  handle.buffered.map (true, ·) ++ handle.events.map (false, ·)

/-! ## The whole call -/

/-- What an observer sees: a candidate is contacted, or an event of an attempt
reaches the caller. -/
inductive StreamStep where
  | contact (attempt : Nat) (candidate : RouteCandidate) (stream : UpstreamStream)
  | yielded (attempt : Nat) (event : Event)

def StreamTurn.steps (turn : StreamTurn σ) : List StreamStep :=
  match turn.verdict with
  | .contacted attempt => [.contact attempt.number attempt.candidate attempt.stream]
  | _ => []

structure StreamResult (σ : Type) where
  steps : List StreamStep
  result : Except ServiceError Unit
  selection : Option (Selection σ)
  store : σ
  counter : Nat

def StreamStep.event? : StreamStep → Option Event
  | .contact _ _ _ => none
  | .yielded _ event => some event

/-- The events that reach the caller. -/
def StreamResult.yields (result : StreamResult σ) : List Event :=
  result.steps.filterMap StreamStep.event?

def chatStream (requestId virtualModel : String) (payload : Dict) (counter : Nat) (start : σ) :
    StreamResult σ :=
  let request : RequestInfo := ⟨requestId, virtualModel⟩
  match scoredCandidates S service virtualModel payload counter start with
  | (.error error, counter) => ⟨[], .error error, none, start, counter⟩
  | (.ok scored, counter) =>
      let selection := selectFrom S engine service clock upstream request scored 0 0 start
      let contacts := selection.turns.flatMap StreamTurn.steps
      match selection.ending with
      | .raised error => ⟨contacts, .error error, some selection, selection.store, counter⟩
      | .selected handle =>
          let delivery := deliver S request handle handle.iterated false selection.store
          { steps := contacts ++ delivery.yields.map (.yielded handle.attempt)
            result := delivery.result
            selection := some selection
            store := delivery.store
            counter := counter }

end Stream

section Call

variable {σ : Type} {S : StateStore σ} {engine : FallbackEngine} {service : GatewayService}
  {clock : Clock} {upstream : Upstream σ} {virtualModel : String} {payload : Dict}
  {counter : Nat} {start : σ} {scored : List ScoredCandidate}

/-- A call with a scored list selects from it. -/
theorem chatStream_selection (requestId : String)
    (isScored : (scoredCandidates S service virtualModel payload counter start).1 = .ok scored) :
    (chatStream S engine service clock upstream requestId virtualModel payload counter
        start).selection =
      some (selectFrom S engine service clock upstream ⟨requestId, virtualModel⟩ scored 0 0
        start) := by
  simp only [chatStream]
  split
  · rename_i failed
    rw [failed] at isScored
    cases isScored
  · rename_i found
    rw [found] at isScored
    cases isScored
    split <;> rfl

theorem selection_of_chatStream {requestId : String} {selection : Selection σ}
    (selected : (chatStream S engine service clock upstream requestId virtualModel payload counter
      start).selection = some selection) :
    ∃ scored, (scoredCandidates S service virtualModel payload counter start).1 = .ok scored ∧
      selection = selectFrom S engine service clock upstream ⟨requestId, virtualModel⟩ scored 0 0
        start := by
  simp only [chatStream] at selected
  split at selected
  · cases selected
  · rename_i scored counter' found
    refine ⟨scored, by rw [found], ?_⟩
    split at selected <;> exact (Option.some.inj selected).symm

/-- What the selection raises, the call raises, with the store as it was left. -/
theorem chatStream_raised (requestId : String) {error : ServiceError}
    (isScored : (scoredCandidates S service virtualModel payload counter start).1 = .ok scored)
    (raised : (selectFrom S engine service clock upstream ⟨requestId, virtualModel⟩ scored 0 0
      start).ending = .raised error) :
    (chatStream S engine service clock upstream requestId virtualModel payload counter
        start).result = .error error ∧
      (chatStream S engine service clock upstream requestId virtualModel payload counter
          start).store =
        (selectFrom S engine service clock upstream ⟨requestId, virtualModel⟩ scored 0 0
          start).store := by
  simp only [chatStream]
  split
  · rename_i failed
    rw [failed] at isScored
    cases isScored
  · rename_i found
    rw [found] at isScored
    cases isScored
    rw [raised]
    exact ⟨rfl, rfl⟩

/-- What the selection selects, the call delivers. -/
theorem chatStream_delivered (requestId : String) {handle : StreamHandle}
    (isScored : (scoredCandidates S service virtualModel payload counter start).1 = .ok scored)
    (selected : (selectFrom S engine service clock upstream ⟨requestId, virtualModel⟩ scored 0 0
      start).ending = .selected handle) :
    (chatStream S engine service clock upstream requestId virtualModel payload counter
        start).store =
      (deliver S ⟨requestId, virtualModel⟩ handle handle.iterated false
        (selectFrom S engine service clock upstream ⟨requestId, virtualModel⟩ scored 0 0
          start).store).store := by
  simp only [chatStream]
  split
  · rename_i failed
    rw [failed] at isScored
    cases isScored
  · rename_i found
    rw [found] at isScored
    cases isScored
    rw [selected]

end Call

end AutoRouteGateway.Service

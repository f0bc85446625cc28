import AutoRouteGateway.Service.StoreMaps
import AutoRouteGateway.Service.StreamDelivery
import AutoRouteGateway.State.InMemory

/-!
Contract: the route events of one streamed call.

A success is recorded for every end marker that is delivered, and not when the
stream ends; a failure is recorded for every exception of the delivery.

Owns: the events a call records, in order, and the exact condition under which
exactly one of them is terminal and closes the selected attempt.
-/

namespace AutoRouteGateway.Service

open AutoRouteGateway.Domain
open AutoRouteGateway.Policy
open AutoRouteGateway.Routing
open AutoRouteGateway.Runtime
open AutoRouteGateway.State

/-! ## Recorded events -/

/-- The same upstream beside the events kept, which are those of one request
and which no other request writes. -/
def Upstream.beside {σ : Type} (upstream : Upstream σ) : Upstream (σ × List RouteEvent) where
  chatCompletions := fun number candidate secret s =>
    let call := upstream.chatCompletions number candidate secret s.1
    (call.1, (call.2, s.2))
  execute := fun number candidate s =>
    let call := upstream.execute number candidate s.1
    (call.1, (call.2, s.2))
  chatCompletionsStream := fun number candidate secret s =>
    let call := upstream.chatCompletionsStream number candidate secret s.1
    (call.1, (call.2, s.2))

theorem streamsAlike_beside {σ : Type} (S : StateStore σ) (upstream : Upstream σ) :
    StreamsAlike (recordingMap S) upstream.beside upstream where
  stream := fun _ _ _ _ => rfl

section Recorded

variable {σ : Type} (S : StateStore σ) (engine : FallbackEngine) (service : GatewayService)
  (clock : Clock) (upstream : Upstream σ)

/-- The call, with the events it records kept. -/
def recordedCall (requestId virtualModel : String) (payload : Dict) (counter : Nat) (start : σ) :
    StreamResult (σ × List RouteEvent) :=
  chatStream (recording S) engine service clock upstream.beside requestId virtualModel payload
    counter (start, [])

/-- The events the call records, in order. -/
def recordedEvents (requestId virtualModel : String) (payload : Dict) (counter : Nat)
    (start : σ) : List RouteEvent :=
  (recordedCall S engine service clock upstream requestId virtualModel payload counter
    start).store.2

/-- Keeping the events changes nothing else. -/
theorem recordedCall_erased (requestId virtualModel : String) (payload : Dict) (counter : Nat)
    (start : σ) :
    (recordedCall S engine service clock upstream requestId virtualModel payload counter
        start).map Prod.fst =
      chatStream S engine service clock upstream requestId virtualModel payload counter start :=
  (chatStream_read (recordingMap S) engine service clock (streamsAlike_beside S upstream)
    requestId virtualModel payload counter (start, [])).symm

end Recorded

/-! ## Selection -/

section Selection

variable {σ : Type} {S : StateStore σ} {engine : FallbackEngine} {service : GatewayService}
  {clock : Clock} {upstream : Upstream σ} {request : RequestInfo}

theorem applyFailure_keeps_events (S : StateStore σ) (engine : FallbackEngine) (now : Instant)
    (candidate : RouteCandidate) (failure : CandidateFailure) (s : σ × List RouteEvent) :
    (applyFailure (recording S) engine now candidate failure s).state.2 = s.2 := by
  unfold applyFailure
  cases failure.errorClass <;> simp [recording]

theorem record_keeps_order {event : RouteEvent} {s s' : σ × List RouteEvent}
    (recorded : (recording S).recordRouteEvent event s = .done s') : s'.2 = s.2 ++ [event] := by
  simp only [recording] at recorded
  cases result : S.recordRouteEvent event s.1 with
  | done own =>
      rw [result] at recorded
      cases recorded
      rfl
  | raised error own =>
      rw [result] at recorded
      cases recorded

/-- A failed attempt: its event goes on to the next candidate. -/
def NotesFailure (attempt : Nat) (event : RouteEvent) : Prop :=
  event.attempt = attempt ∧ event.action = .nextCandidate

/-- A prefix that selects nothing is recorded once. -/
theorem settlePrefix_records {attempt : Nat} {candidate : RouteCandidate}
    {s s' : σ × List RouteEvent} {read : PrefixResult}
    (nothing : ∀ buffered rest, read ≠ .selected buffered rest)
    (settled : settlePrefix (recording S) engine clock request attempt candidate s read =
      .done s') :
    ∃ event, NotesFailure attempt event ∧ s'.2 = s.2 ++ [event] := by
  cases read with
  | selected buffered rest => exact absurd rfl (nothing buffered rest)
  | exhausted =>
      exact ⟨routeEvent request candidate attempt (some .server) .nextCandidate, ⟨rfl, rfl⟩,
        record_keeps_order settled⟩
  | failed exception =>
      have kept := applyFailure_keeps_events S engine (clock.settle attempt) candidate
        (candidateFailure exception) s
      simp only [settlePrefix] at settled
      cases applied : applyFailure (recording S) engine (clock.settle attempt) candidate
          (candidateFailure exception) s with
      | raised error own =>
          rw [applied] at settled
          cases settled
      | done own =>
          rw [applied] at settled kept
          refine ⟨routeEvent request candidate attempt (some (candidateFailure
            exception).errorClass) .nextCandidate, ⟨rfl, rfl⟩, ?_⟩
          rw [record_keeps_order settled, show own.2 = s.2 from kept]

/-- One event for each of the attempts after `attempts`, up to the selected one. -/
structure EarlierFailures (attempts attempt : Nat) (events : List RouteEvent) : Prop where
  numbers : events.map RouteEvent.attempt = List.range' (attempts + 1) events.length
  actions : ∀ event ∈ events, event.action = .nextCandidate
  selected : attempt = attempts + events.length + 1

theorem EarlierFailures.cons {attempts attempt : Nat} {event : RouteEvent}
    {events : List RouteEvent} (failed : NotesFailure (attempts + 1) event)
    (later : EarlierFailures (attempts + 1) attempt events) :
    EarlierFailures attempts attempt (event :: events) where
  numbers := by
    rw [List.map_cons, failed.1, later.numbers, List.length_cons, List.range'_succ]
  actions := by
    intro other member
    rcases List.mem_cons.mp member with same | member
    · exact same ▸ failed.2
    · exact later.actions other member
  selected := by
    have own := later.selected
    rw [List.length_cons]
    omega

/-- The events of a contact: none if it selects, one if the loop goes on. -/
theorem contactCandidate_records (S : StateStore σ) (engine : FallbackEngine) (clock : Clock)
    (upstream : Upstream σ) (request : RequestInfo) (attempt : Nat) (candidate : RouteCandidate)
    (secret : String) (s : σ × List RouteEvent) :
    (∀ handle, (contactCandidate (recording S) engine clock upstream.beside request attempt
        candidate secret s).2 = some (.selected handle) →
        handle.attempt = attempt ∧ (contactCandidate (recording S) engine clock upstream.beside
          request attempt candidate secret s).1.settled.2 = s.2) ∧
      ((contactCandidate (recording S) engine clock upstream.beside request attempt candidate
          secret s).2 = none →
        ∃ event, NotesFailure attempt event ∧
          (contactCandidate (recording S) engine clock upstream.beside request attempt candidate
            secret s).1.settled.2 = s.2 ++ [event]) := by
  simp only [contactCandidate, Upstream.beside]
  generalize upstream.chatCompletionsStream attempt candidate secret s.1 = call
  cases settled : settlePrefix (recording S) engine clock request attempt candidate
      (call.2, s.2) (readPrefix call.1.ending call.1.events) with
  | raised error s' =>
      constructor
      · intro handle selected
        cases selected
      · intro none
        cases none
  | done s' =>
      dsimp only
      cases read : readPrefix call.1.ending call.1.events with
      | selected buffered rest =>
          rw [read] at settled
          cases settled
          constructor
          · intro handle selected
            cases selected
            exact ⟨rfl, rfl⟩
          · intro none
            cases none
      | exhausted =>
          rw [read] at settled
          have noted := settlePrefix_records (by simp) settled
          exact ⟨fun handle selected => (by cases selected), fun _ => noted⟩
      | failed exception =>
          rw [read] at settled
          have noted := settlePrefix_records (by simp) settled
          exact ⟨fun handle selected => (by cases selected), fun _ => noted⟩

/-- A selection leaves one event for each attempt before the selected one. -/
theorem selectFrom_records (scored : List ScoredCandidate) (position attempts : Nat)
    (s : σ × List RouteEvent) {handle : StreamHandle}
    (selected : (selectFrom (recording S) engine service clock upstream.beside request scored
      position attempts s).ending = .selected handle) :
    ∃ earlier, EarlierFailures attempts handle.attempt earlier ∧
      (selectFrom (recording S) engine service clock upstream.beside request scored position
        attempts s).store.2 = s.2 ++ earlier := by
  induction scored generalizing position attempts s with
  | nil => cases selected
  | cons sc rest inductionHypothesis =>
      simp only [selectFrom] at selected ⊢
      split at selected
      · rename_i ready
        rw [if_pos ready]
        split at selected
        · cases selected
        · rename_i below
          rw [if_neg below]
          split at selected
          · cases selected
          · rename_i secret _
            obtain ⟨selects, goesOn⟩ := contactCandidate_records S engine clock upstream request
              (attempts + 1) sc.candidate secret s
            split at selected
            · rename_i ending ends
              rw [show ending = .selected handle from selected] at ends
              obtain ⟨number, unchanged⟩ := selects handle ends
              exact ⟨[], ⟨rfl, by simp, by rw [number]; rfl⟩, by rw [unchanged, List.append_nil]⟩
            · rename_i continues
              obtain ⟨event, failed, noted⟩ := goesOn continues
              obtain ⟨earlier, failures, left⟩ := inductionHypothesis _ _ _ selected
              refine ⟨event :: earlier, failures.cons failed, ?_⟩
              rw [left, noted, List.append_assoc, List.singleton_append]
      · rename_i idle
        rw [if_neg idle]
        exact inductionHypothesis _ _ _ selected

end Selection

/-! ## Delivery -/

section Delivery

variable {σ : Type} {S : StateStore σ} (request : RequestInfo) (handle : StreamHandle)

theorem quietRecord_recording (quiet : QuietRecord S) : QuietRecord (recording S) := by
  intro event s
  obtain ⟨own, recorded⟩ := quiet event s.1
  exact ⟨(own, s.2 ++ [event]), by simp only [recording, recorded]⟩

/-- What is recorded for every delivered end marker. -/
def successEvent : RouteEvent := routeEvent request handle.candidate handle.attempt none .success

/-- What is recorded for an exception of the delivery. -/
def failureEvent (exception : UpstreamException) (committed : Prop) [Decidable committed] :
    RouteEvent :=
  routeEvent request handle.candidate handle.attempt (some (candidateFailure exception).errorClass)
    (if committed then .partialStreamFailure else .nextCandidate)

/-- The end markers among the events. -/
def doneCount (events : List Event) : Nat := events.countP isDone

theorem doneCount_cons (event : Event) (rest : List Event) :
    doneCount (event :: rest) = doneCount [event] + doneCount rest := by
  simp only [doneCount, List.countP_cons, List.countP_nil, Nat.zero_add, Nat.add_comm]

theorem recordDone_records (quiet : QuietRecord S) (event : Event) (s : σ × List RouteEvent) :
    ∃ s', recordDone (recording S) request handle event s = .done s' ∧
      s'.2 = s.2 ++ List.replicate (doneCount [event]) (successEvent request handle) := by
  unfold recordDone doneCount
  by_cases done : isDone event = true
  · obtain ⟨s', recorded⟩ := quietRecord_recording quiet (successEvent request handle) s
    refine ⟨s', by rw [if_pos done]; exact recorded, ?_⟩
    rw [record_keeps_order recorded]
    simp [done]
  · exact ⟨s, if_neg done, by simp [done]⟩

theorem deliveryFailure_records (quiet : QuietRecord S) (exception : UpstreamException)
    (committed : Bool) (s : σ × List RouteEvent) :
    (deliveryFailure (recording S) request handle exception committed s).store.2 =
      s.2 ++ [failureEvent request handle exception (committed = true)] := by
  obtain ⟨s', recorded⟩ := quietRecord_recording quiet
    (failureEvent request handle exception (committed = true)) s
  have order := record_keeps_order recorded
  unfold failureEvent at recorded
  simp only [deliveryFailure, recorded]
  cases committed <;> exact order

/-- The delivery records a success for each end marker, then its failure. -/
theorem deliver_records (quiet : QuietRecord S) (events : List (Bool × Event))
    (committed : Bool) (s : σ × List RouteEvent) :
    (deliver (recording S) request handle events committed s).store.2 =
      s.2 ++ List.replicate (doneCount (handle.iterate events committed).yields)
          (successEvent request handle) ++
        match (handle.iterate events committed).raised with
        | none => []
        | some exception => [failureEvent request handle exception
            (committed = true ∨ HasValidChunk (handle.iterate events committed).yields)] := by
  induction events generalizing committed s with
  | nil =>
      simp only [deliver, StreamHandle.iterate]
      cases handle.ending with
      | none => simp [doneCount]
      | some exception =>
          simp [deliveryFailure_records request handle quiet, doneCount, not_hasValidChunk_nil]
  | cons item rest inductionHypothesis =>
      obtain ⟨replayed, event⟩ := item
      cases looked : commits replayed committed event with
      | error text =>
          simp [deliver, StreamHandle.iterate, looked, deliveryFailure_records request handle quiet,
            doneCount, not_hasValidChunk_nil]
      | ok committed' =>
          obtain ⟨s', recorded, noted⟩ := recordDone_records request handle quiet event s
          have later := inductionHypothesis committed' s'
          simp only [deliver, StreamHandle.iterate, looked, recorded, later, noted]
          rw [doneCount_cons event (handle.iterate rest committed').yields, List.replicate_add,
            List.append_assoc s.2]
          simp only [hasValidChunk_cons, commits_ok looked, or_assoc]

end Delivery

/-! ## One terminal event -/

def EventAction.isTerminal : EventAction → Bool
  | .success | .stop | .stopCommittedStream | .partialStreamFailure => true
  | .retrySameCandidate | .nextCandidate => false

/-- One event for each attempt up to the selected one, of which the last one
alone is terminal, and says how the stream ended. -/
structure OneTerminalEvent (attempt : Nat) (result : Except ServiceError Unit)
    (events : List RouteEvent) : Prop where
  numbered : events.map RouteEvent.attempt = List.range' 1 attempt
  terminal : ∀ event ∈ events,
    EventAction.isTerminal event.action = true ↔ event.attempt = attempt
  success : result = .ok () → ∀ event ∈ events, event.attempt = attempt →
    event.action = .success
  partialFailure : ∀ errorClass, result = .error (.partialStream errorClass) →
    ∀ event ∈ events, event.attempt = attempt → event.action = .partialStreamFailure

/-- What an upstream stream comes to: the service looks at its events up to the
first valid chunk, and an event it cannot look at ends the stream for it. -/
def UpstreamStream.readable (ending : Option UpstreamException) : List Event → Iteration
  | [] => ⟨[], ending⟩
  | event :: rest =>
      match isValidChunk event with
      | .error text => ⟨[], some (.other text)⟩
      | .ok true => ⟨event :: rest, ending⟩
      | .ok false =>
          let later := UpstreamStream.readable ending rest
          { later with yields := event :: later.yields }

/-- Every replayed event was looked at without an exception. -/
def ReplayInspected (items : List (Bool × Event)) : Prop :=
  ∀ item ∈ items, item.1 = true → ∃ valid, isValidChunk item.2 = .ok valid

/-- Once committed, nothing of the tail is looked at, and the buffer was before. -/
theorem iterate_committed (handle : StreamHandle) {items : List (Bool × Event)}
    (inspected : ReplayInspected items) :
    handle.iterate items true = ⟨items.map Prod.snd, handle.ending⟩ := by
  induction items with
  | nil => rfl
  | cons item rest inductionHypothesis =>
      obtain ⟨replayed, event⟩ := item
      have tail := inductionHypothesis fun other member => inspected other (by simp [member])
      have looked : commits replayed true event = .ok true := by
        cases replayed with
        | false => rfl
        | true =>
            obtain ⟨valid, looked⟩ := inspected (true, event) (by simp) rfl
            simp [commits, looked]
      simp only [StreamHandle.iterate, looked, tail, List.map_cons]

theorem iterate_readable (handle : StreamHandle) {items : List (Bool × Event)}
    (inspected : ReplayInspected items) :
    handle.iterate items false =
      UpstreamStream.readable handle.ending (items.map Prod.snd) := by
  induction items with
  | nil => rfl
  | cons item rest inductionHypothesis =>
      obtain ⟨replayed, event⟩ := item
      have inspectedRest : ReplayInspected rest :=
        fun other member => inspected other (by simp [member])
      have uncommitted := inductionHypothesis inspectedRest
      have committed := iterate_committed handle inspectedRest
      simp only [StreamHandle.iterate, List.map_cons, UpstreamStream.readable]
      cases looked : isValidChunk event with
      | error text => simp [commits, looked]
      | ok valid => cases valid <;> simp [commits, looked, uncommitted, committed]

/-- The iterator of a selected handle gives what its upstream stream comes to. -/
theorem StreamHandle.Validated.iteration {handle : StreamHandle} (validated : handle.Validated) :
    handle.iteration =
      UpstreamStream.readable handle.ending (handle.buffered ++ handle.events) := by
  have inspected : ReplayInspected handle.iterated := by
    intro item member replayed
    rcases List.mem_append.mp member with fromBuffer | fromTail
    · obtain ⟨event, isBuffered, rfl⟩ := List.mem_map.mp fromBuffer
      exact validated.inspected event isBuffered
    · obtain ⟨event, -, rfl⟩ := List.mem_map.mp fromTail
      cases replayed
  rw [StreamHandle.iteration, iterate_readable handle inspected, StreamHandle.iterated]
  simp

/-- One end marker if the stream ends without an exception, and none if it raises. -/
def EndsOnce (stream : Iteration) : Prop :=
  doneCount stream.yields =
    match stream.raised with
    | none => 1
    | some _ => 0

section OneTerminal

variable {σ : Type} {S : StateStore σ} {request : RequestInfo} {handle : StreamHandle}

/-- Earlier failures and one terminal event behind them. -/
theorem OneTerminalEvent.of_last {attempt : Nat} {result : Except ServiceError Unit}
    {earlier : List RouteEvent} {last : RouteEvent} (failures : EarlierFailures 0 attempt earlier)
    (isLast : last.attempt = attempt) (terminal : EventAction.isTerminal last.action = true)
    (success : result = .ok () → last.action = .success)
    (partialFailure : ∀ errorClass, result = .error (.partialStream errorClass) →
      last.action = .partialStreamFailure) :
    OneTerminalEvent attempt result (earlier ++ [last]) := by
  have before : ∀ event ∈ earlier, event.attempt ≠ attempt := by
    intro event member
    have numbered : event.attempt ∈ List.range' (0 + 1) earlier.length :=
      failures.numbers ▸ List.mem_map_of_mem member
    have bound := (List.mem_range'_1.mp numbered).2
    have own := failures.selected
    omega
  have only : ∀ event ∈ earlier ++ [last], event.attempt = attempt → event = last := by
    intro event member same
    rcases List.mem_append.mp member with earlierOne | isOwn
    · exact absurd same (before event earlierOne)
    · exact List.mem_singleton.mp isOwn
  constructor
  · rw [List.map_append, failures.numbers, failures.selected, List.map_singleton, isLast,
      failures.selected, Nat.zero_add, List.range'_concat, Nat.one_mul, Nat.zero_add,
      Nat.add_comm 1]
  · intro event member
    rcases List.mem_append.mp member with earlierOne | isOwn
    · rw [failures.actions event earlierOne]
      exact iff_of_false (by simp [EventAction.isTerminal]) (before event earlierOne)
    · rw [List.mem_singleton.mp isOwn]
      exact iff_of_true terminal isLast
  · intro ended event member same
    rw [only event member same]
    exact success ended
  · intro errorClass failed event member same
    rw [only event member same]
    exact partialFailure errorClass failed

/-- The events of a call that delivers: earlier failures, a success for each end
marker, and a failure if it raises. -/
theorem oneTerminalEvent_iff {result : Except ServiceError Unit} {earlier : List RouteEvent}
    (failures : EarlierFailures 0 handle.attempt earlier) (validated : handle.Validated)
    (ended : result = match handle.iteration.raised with
      | none => .ok ()
      | some exception => .error (deliveryError request.virtualModel handle exception
          (false = true ∨ HasValidChunk handle.iteration.yields))) :
    OneTerminalEvent handle.attempt result
        (earlier ++ List.replicate (doneCount handle.iteration.yields)
            (successEvent request handle) ++
          match handle.iteration.raised with
          | none => []
          | some exception => [failureEvent request handle exception
              (false = true ∨ HasValidChunk handle.iteration.yields)]) ↔
      EndsOnce handle.iteration := by
  unfold EndsOnce
  have selected := failures.selected
  cases raised : handle.iteration.raised with
  | none =>
      rw [raised] at ended
      dsimp only at ended ⊢
      constructor
      · intro one
        have lengths := congrArg List.length one.numbered
        simp only [List.length_map, List.length_append, List.length_replicate,
          List.length_range', List.length_nil] at lengths
        omega
      · intro once
        rw [once, List.append_nil]
        apply OneTerminalEvent.of_last failures rfl rfl
        · exact fun _ => rfl
        · intro errorClass failed
          rw [ended] at failed
          cases failed
  | some exception =>
      rw [raised] at ended
      dsimp only at ended ⊢
      constructor
      · intro one
        have lengths := congrArg List.length one.numbered
        simp only [List.length_map, List.length_append, List.length_replicate,
          List.length_range', List.length_singleton] at lengths
        omega
      · intro never
        -- no end marker was yielded, so a valid chunk was
        have chunk : HasValidChunk handle.iteration.yields := by
          obtain ⟨event, member, isDone' | valid⟩ := validated.yields
          · exact absurd isDone' (List.countP_eq_zero.mp never event member)
          · exact ⟨event, member, valid⟩
        have action : (failureEvent request handle exception
            (false = true ∨ HasValidChunk handle.iteration.yields)).action =
              .partialStreamFailure := by
          rw [failureEvent, routeEvent, if_pos (Or.inr chunk)]
        rw [never, List.replicate_zero, List.append_nil]
        apply OneTerminalEvent.of_last failures rfl
        · rw [action]
          rfl
        · intro clean
          rw [ended] at clean
          cases clean
        · exact fun _ _ => action

end OneTerminal

/-- When a candidate was selected and its stream is consumed to the end, the
call leaves exactly one terminal event, numbered and marked as it should be,
exactly when its upstream stream comes to one end marker and no exception, or
to none and an exception. -/
theorem one_terminal_event_iff {σ : Type} (S : StateStore σ) (quiet : QuietRecord S)
    (engine : FallbackEngine) (service : GatewayService) (clock : Clock) (upstream : Upstream σ)
    (requestId virtualModel : String) (payload : Dict) (counter : Nat) (start : σ)
    {selection : Selection σ} {handle : StreamHandle}
    (isSelection : (chatStream S engine service clock upstream requestId virtualModel payload
      counter start).selection = some selection)
    (selected : selection.ending = .selected handle) :
    OneTerminalEvent handle.attempt
        (chatStream S engine service clock upstream requestId virtualModel payload counter
          start).result
        (recordedEvents S engine service clock upstream requestId virtualModel payload counter
          start) ↔
      EndsOnce (UpstreamStream.readable handle.ending (handle.buffered ++ handle.events)) := by
  have erased := recordedCall_erased S engine service clock upstream requestId virtualModel payload
    counter start
  rw [← erased] at isSelection ⊢
  obtain ⟨kept, isKept, isImage⟩ := Option.map_eq_some_iff.mp isSelection
  have keptSelected : kept.ending = .selected handle := by
    rw [← selected, ← isImage]
    rfl
  change OneTerminalEvent handle.attempt (recordedCall S engine service clock upstream requestId
    virtualModel payload counter start).result _ ↔ _
  unfold recordedEvents
  unfold recordedCall at isKept ⊢
  obtain ⟨scored, isScored, isOwn⟩ := selection_of_chatStream isKept
  rw [isOwn] at keptSelected
  obtain ⟨earlier, failures, left⟩ := selectFrom_records scored 0 0 (start, []) keptSelected
  have store := chatStream_delivered requestId isScored keptSelected
  cases chatStream_outcome (recording S) engine service clock upstream.beside requestId
    virtualModel payload counter (start, []) with
  | unscored error early none yields result =>
      rw [none] at isKept
      cases isKept
  | unselected other error late isOther ending yields result =>
      rw [isOther, Option.some.injEq] at isKept
      rw [isKept, isOwn, keptSelected] at ending
      cases ending
  | delivered other otherHandle isOther ending validated yields result =>
      rw [isOther, Option.some.injEq] at isKept
      rw [isKept, isOwn, keptSelected, SelectionEnd.selected.injEq] at ending
      subst ending
      have quietRecording := quietRecord_recording quiet
      obtain ⟨-, ended⟩ := deliver_iterate ⟨requestId, virtualModel⟩ handle quietRecording
        handle.iterated false other.store
      rw [store, deliver_records _ handle quiet, left, List.nil_append, result,
        ← validated.iteration]
      exact oneTerminalEvent_iff failures validated ended

def contentChunk : Event :=
  [("data", .dict [("choices", .list [.dict [("delta", .dict [("content", .str "hi")])]])])]

def doneMarker : Event := [("data", .str "[DONE]")]

/-- One key, and an upstream that streams the events and ends. -/
def streamingOf (events : List Event) (requestId : String) :
    StreamResult InMemoryStateStore × List RouteEvent :=
  let upstream : Upstream InMemoryStateStore :=
    .constant _ (.body []) (.completed []) ⟨events, none⟩
  (chatStream InMemoryStateStore.store {} (keyedService "s") ⟨fun _ => 0, fun _ => 0⟩ upstream
      requestId "v" [] 0 .empty,
    recordedEvents InMemoryStateStore.store {} (keyedService "s") ⟨fun _ => 0, fun _ => 0⟩ upstream
      requestId "v" [] 0 .empty)

/-- A content chunk and the end marker leave one success. -/
theorem one_terminal_event_iff_clean :
    OneTerminalEvent 1 (.ok ()) (streamingOf [contentChunk, doneMarker] "r").2 :=
  (one_terminal_event_iff InMemoryStateStore.store (fun _ _ => ⟨_, rfl⟩) {} (keyedService "s")
    ⟨fun _ => 0, fun _ => 0⟩
    (.constant _ (.body []) (.completed []) ⟨[contentChunk, doneMarker], none⟩) "r" "v" [] 0
    .empty rfl rfl).mpr rfl

/-- Without an end marker nothing is recorded for a stream that ended cleanly,
and with two of them two successes are. -/
theorem success_count_is_marker_count :
    (streamingOf [contentChunk] "r").1.result = .ok () ∧
      (streamingOf [contentChunk] "r").2 = [] ∧
      ¬ OneTerminalEvent 1 (.ok ()) (streamingOf [contentChunk] "r").2 ∧
      (streamingOf [contentChunk, doneMarker, doneMarker] "r").1.result = .ok () ∧
      (streamingOf [contentChunk, doneMarker, doneMarker] "r").2.map RouteEvent.action =
        [.success, .success] := by
  refine ⟨rfl, rfl, ?_, rfl, rfl⟩
  intro one
  exact absurd one.numbered (by decide)

end AutoRouteGateway.Service

import AutoRouteGateway.Library.Coroutine
import AutoRouteGateway.Service.Chat
import AutoRouteGateway.Service.ChatStream

/-!
Contract: requests as coroutines.

The event loop may switch to another request wherever a request awaits: at the
call of `attempt_fn`, while the prefix of a stream is read, and whenever an
event has been yielded. Between two such points a request has the store for
itself.

Owns: the coroutine of `FallbackEngine.run`, that of `chat_stream`, and the
proof that one driven alone does what `run` and `chatStream` do.
-/

namespace AutoRouteGateway.Service

open AutoRouteGateway.Domain
open AutoRouteGateway.Library
open AutoRouteGateway.Library.Coroutine
open AutoRouteGateway.Policy
open AutoRouteGateway.Routing
open AutoRouteGateway.Runtime
open AutoRouteGateway.State

/-! ## What a request waits for -/

/-- A request that has not started, one attempt, with the clock as it was last
read before it, or the consumer of a yielded event. -/
inductive Question where
  | arrival
  | call (number retries : Nat) (candidate : RouteCandidate) (now : Instant)
  | contact (number : Nat) (candidate : RouteCandidate) (secret : String) (now : Instant)
  | yielded (attempt : Nat) (event : Event)

/-- A contact is answered by the whole stream; the events of its tail are
pulled one by one. -/
def Question.Answer (ρ : Type) : Question → Type
  | .arrival => Unit
  | .call _ _ _ _ => AttemptOutcome ρ
  | .contact _ _ _ _ => UpstreamStream
  | .yielded _ _ => Unit

/-- The attempt a question starts. -/
def Question.attempt? : Question → Option (Nat × RouteCandidate)
  | .arrival => none
  | .call number _ candidate _ => some (number, candidate)
  | .contact number candidate _ _ => some (number, candidate)
  | .yielded _ _ => none

/-- How a request ends: without a scored list, as its run ends, or as its stream does. -/
inductive RequestEnd (ρ : Type) where
  | unscored (error : ServiceError)
  | ran (ending : RunEnding ρ)
  | streamed (result : Except ServiceError Unit)

abbrev RequestSegment (σ ρ : Type) := Segment σ Question (Question.Answer ρ) (RequestEnd ρ)

abbrev RequestCoroutine (σ ρ : Type) := Coroutine σ Question (Question.Answer ρ) (RequestEnd ρ)

section Requests

variable {σ ρ : Type} (S : StateStore σ) (engine : FallbackEngine) (service : GatewayService)
  (clock : Clock) (request : RequestInfo)

/-! ## `FallbackEngine.run` -/

/-- What follows the bookkeeping of a call. -/
def callEnd (retry proceed : Progress σ → RequestSegment σ ρ) :
    NextStep σ ρ → RequestSegment σ ρ
  | .retry progress => retry progress
  | .next progress => proceed progress
  | .stop ending progress => (progress.store, .done (.ran ending))

/-- The retry loop on one candidate, then what is done with the next one. -/
def attemptOn (candidate : RouteCandidate) (proceed : Progress σ → RequestSegment σ ρ) :
    (budget retries : Nat) → (now : Instant) → Progress σ → RequestSegment σ ρ
  | 0, _, _, progress =>
      (progress.store,
        .done (.ran (.hardCeiling ⟨engine.policy.hardAttemptCeiling, request.virtualModel⟩)))
  | budget + 1, retries, now, progress =>
      (progress.store,
        pause (.call (progress.attempts + 1) retries candidate now) fun outcome s =>
          callEnd
            (fun progress => attemptOn candidate proceed budget (retries + 1)
              (clock.settle progress.attempts) progress)
            proceed
            (settleCall S engine clock request candidate retries outcome
              { progress with store := s, attempts := progress.attempts + 1 }).2)

/-- The loop over the scored list from one position on. -/
def runOver : List ScoredCandidate → (position : Nat) → Progress σ → RequestSegment σ ρ
  | [], _, progress =>
      (progress.store, .done (.ran
        (.noEligible ⟨request.virtualModel, progress.attempts, progress.lastError⟩)))
  | sc :: rest, position, progress =>
      if attemptable S (clock.check position) progress.store sc then
        attemptOn S engine clock request sc.candidate (runOver rest (position + 1))
          (attemptBudget engine progress.attempts) 0 (clock.check position) progress
      else runOver rest (position + 1) progress

/-! ## `chat_stream` -/

/-- An exception of the delivery is handled without waiting. -/
def deliveryEnd (handle : StreamHandle) (exception : UpstreamException) (committed : Bool)
    (s : σ) : RequestSegment σ ρ :=
  let delivery := deliveryFailure S request handle exception committed s
  (delivery.store, .done (.streamed delivery.result))

/-- Deliver the remaining events, and wait for the consumer after each of them. -/
def deliverOn (handle : StreamHandle) :
    List (Bool × Event) → (committed : Bool) → σ → RequestSegment σ ρ
  | [], committed, s =>
      match handle.ending with
      | none => (s, .done (.streamed (.ok ())))
      | some exception => deliveryEnd S request handle exception committed s
  | (replayed, event) :: rest, committed, s =>
      match commits replayed committed event with
      | .error text => deliveryEnd S request handle (.other text) committed s
      | .ok committed =>
          match recordDone S request handle event s with
          | .raised error s => deliveryEnd S request handle (.other error.message) committed s
          | .done s =>
              (s, pause (.yielded handle.attempt event) fun _ s =>
                deliverOn handle rest committed s)

/-- The bookkeeping after the prefix of a stream, then its delivery or what is
done with the next candidate. -/
def contactEnd (attempt : Nat) (candidate : RouteCandidate) (proceed : σ → RequestSegment σ ρ)
    (stream : UpstreamStream) (s : σ) : RequestSegment σ ρ :=
  let read := readPrefix stream.ending stream.events
  match settlePrefix S engine clock request attempt candidate s read with
  | .raised error s => (s, .done (.streamed (.error (.store error))))
  | .done s =>
      match read with
      | .selected buffered rest =>
          let handle : StreamHandle := ⟨attempt, candidate, buffered, rest, stream.ending⟩
          deliverOn S request handle handle.iterated false s
      | _ => proceed s

/-- The selection loop from one position on. -/
def selectOver : List ScoredCandidate → (position attempts : Nat) → σ → RequestSegment σ ρ
  | [], _, attempts, s =>
      (s, .done (.streamed (.error (.noEligible ⟨request.virtualModel, attempts, none⟩))))
  | sc :: rest, position, attempts, s =>
      if attemptable S (clock.check position) s sc then
        if engine.policy.hardAttemptCeiling ≤ attempts then
          (s, .done (.streamed (.error (.noEligible ⟨request.virtualModel, attempts, none⟩))))
        else
          match prepare service sc.candidate with
          | .error error => (s, .done (.streamed (.error error)))
          | .ok secret =>
              (s, pause (.contact (attempts + 1) sc.candidate secret (clock.check position))
                (contactEnd S engine clock request (attempts + 1) sc.candidate
                  (selectOver rest (position + 1) (attempts + 1))))
      else selectOver rest (position + 1) attempts s

end Requests

/-! ## Requests -/

/-- The two entries that attempt candidates. -/
inductive Entry where
  | run
  | chatStream
deriving DecidableEq, Repr

/-- A request to come: what it is made for, its clock, and the list it scores
when it starts, or what keeps it from one. -/
structure Request (σ : Type) where
  entry : Entry
  info : RequestInfo
  clock : Clock
  scored : σ → Except ServiceError (List ScoredCandidate)

/-- The first segment of a request. -/
def Request.start {σ ρ : Type} (S : StateStore σ) (engine : FallbackEngine)
    (service : GatewayService) (request : Request σ) (s : σ) : RequestSegment σ ρ :=
  match request.scored s with
  | .error error => (s, .done (.unscored error))
  | .ok scored =>
      match request.entry with
      | .run => runOver S engine request.clock request.info scored 0 { store := s }
      | .chatStream => selectOver S engine service request.clock request.info scored 0 0 s

def Request.coroutine {σ ρ : Type} (S : StateStore σ) (engine : FallbackEngine)
    (service : GatewayService) (request : Request σ) : RequestCoroutine σ ρ :=
  pause .arrival fun _ s => request.start S engine service s

/-! ## One request alone -/

/-- What an observer of one request sees: its attempts with the stores they
started in, how it ends, and the store it leaves. -/
structure Observation (σ ρ : Type) where
  attempts : List ((Nat × RouteCandidate) × σ)
  ending : RequestEnd ρ
  store : σ

def Observation.after {σ ρ : Type} (earlier : List ((Nat × RouteCandidate) × σ))
    (later : Observation σ ρ) : Observation σ ρ :=
  { later with attempts := earlier ++ later.attempts }

def startedAttempts {σ : Type} (asked : List (Question × σ)) :
    List ((Nat × RouteCandidate) × σ) :=
  asked.filterMap fun ask => ask.1.attempt?.map (·, ask.2)

section Alone

variable {σ ρ : Type} (S : StateStore σ) (engine : FallbackEngine) (service : GatewayService)
  (clock : Clock) (request : RequestInfo) (attemptFn : AttemptFn σ ρ) (upstream : Upstream σ)

/-- An environment that answers as `attempt_fn` and the upstream do, with a
consumer that pulls without touching the store. -/
def environmentOf : (question : Question) → σ → question.Answer ρ × σ
  | .arrival, s => ((), s)
  | .call number _ candidate _, s => attemptFn number candidate s
  | .contact number candidate secret _, s =>
      upstream.chatCompletionsStream number candidate secret s
  | .yielded _ _, s => ((), s)

/-- What is seen of a segment that is run on to the end. -/
def observe (segment : RequestSegment σ ρ) : Observation σ ρ :=
  let driven := drive (environmentOf attemptFn upstream) segment.2 segment.1
  ⟨startedAttempts driven.asked, driven.result, driven.state⟩

/-- A question that starts an attempt adds it to what is seen. -/
theorem observe_pause (question : Question)
    (resume : question.Answer ρ → σ → RequestSegment σ ρ) (s : σ) :
    observe attemptFn upstream (s, pause question resume) =
      let reply := environmentOf attemptFn upstream question s
      (observe attemptFn upstream (resume reply.1 reply.2)).after
        (startedAttempts [(question, s)]) := by
  unfold observe
  dsimp only
  rw [drive_pause]
  cases question <;> rfl

theorem observe_call (number retries : Nat) (candidate : RouteCandidate) (now : Instant)
    (resume : AttemptOutcome ρ → σ → RequestSegment σ ρ) (s : σ) :
    observe attemptFn upstream (s, pause (.call number retries candidate now) resume) =
      (observe attemptFn upstream (resume (attemptFn number candidate s).1
        (attemptFn number candidate s).2)).after [((number, candidate), s)] :=
  observe_pause attemptFn upstream (.call number retries candidate now) resume s

theorem observe_contact (number : Nat) (candidate : RouteCandidate) (secret : String)
    (now : Instant) (resume : UpstreamStream → σ → RequestSegment σ ρ) (s : σ) :
    observe attemptFn upstream (s, pause (.contact number candidate secret now) resume) =
      (observe attemptFn upstream
        (resume (upstream.chatCompletionsStream number candidate secret s).1
          (upstream.chatCompletionsStream number candidate secret s).2)).after
        [((number, candidate), s)] :=
  observe_pause attemptFn upstream (.contact number candidate secret now) resume s

theorem Observation.after_after {earlier middle : List ((Nat × RouteCandidate) × σ)}
    {later : Observation σ ρ} :
    (later.after middle).after earlier = later.after (earlier ++ middle) := by
  simp only [Observation.after, List.append_assoc]

/-- The starts of the calls that one candidate got. -/
def callStarts (candidate : RouteCandidate) (calls : List (AttemptLog σ ρ)) :
    List ((Nat × RouteCandidate) × σ) :=
  calls.map fun call => ((call.number, candidate), call.started)

/-- The retry loop driven alone is `attemptCandidate`. -/
theorem observe_attemptOn (candidate : RouteCandidate)
    (proceed : Progress σ → RequestSegment σ ρ) (budget retries : Nat) (now : Instant)
    (progress : Progress σ) :
    observe attemptFn upstream
        (attemptOn S engine clock request candidate proceed budget retries now progress) =
      let loop := attemptCandidate S engine clock request attemptFn candidate budget retries
        progress
      let starts := callStarts candidate loop.2
      match loop.1 with
      | .stop ending progress => ⟨starts, .ran ending, progress.store⟩
      | .retry progress | .next progress =>
          (observe attemptFn upstream (proceed progress)).after starts := by
  induction budget generalizing retries now progress with
  | zero => rfl
  | succ budget inductionHypothesis =>
      have asked := observe_call attemptFn upstream (progress.attempts + 1) retries candidate now
        (fun outcome s => callEnd
          (fun progress => attemptOn S engine clock request candidate proceed budget (retries + 1)
            (clock.settle progress.attempts) progress)
          proceed
          (settleCall S engine clock request candidate retries outcome
            { progress with store := s, attempts := progress.attempts + 1 }).2) progress.store
      refine Eq.trans asked ?_
      simp only [attemptCandidate, oneCall]
      cases (settleCall S engine clock request candidate retries
        (attemptFn (progress.attempts + 1) candidate progress.store).1
        { progress with
          store := (attemptFn (progress.attempts + 1) candidate progress.store).2
          attempts := progress.attempts + 1 }).2 with
      | stop ending left => rfl
      | next left => rfl
      | retry left =>
          dsimp only [callEnd]
          rw [inductionHypothesis]
          dsimp only
          cases (attemptCandidate S engine clock request attemptFn candidate budget (retries + 1)
            left).1 with
          | stop ending last => rfl
          | retry last => exact Observation.after_after
          | next last => exact Observation.after_after

/-- The starts of the attempts of a run, in order. -/
def RunLog.starts (log : RunLog σ ρ) : List ((Nat × RouteCandidate) × σ) :=
  log.turns.flatMap fun turn => callStarts turn.scored.candidate turn.attempts

theorem observe_runOver (scored : List ScoredCandidate) (position : Nat) (progress : Progress σ) :
    observe attemptFn upstream (runOver S engine clock request scored position progress) =
      let log := runFrom S engine clock request attemptFn scored position progress
      ⟨RunLog.starts log, .ran log.ending, log.store⟩ := by
  induction scored generalizing position progress with
  | nil => rfl
  | cons sc rest inductionHypothesis =>
      simp only [runOver, runFrom]
      split
      · rw [observe_attemptOn]
        dsimp only
        cases (attemptCandidate S engine clock request attemptFn sc.candidate
          (attemptBudget engine progress.attempts) 0 progress).1 with
        | stop ending left => simp [RunLog.starts]
        | retry left =>
            dsimp only
            rw [inductionHypothesis]
            rfl
        | next left =>
            dsimp only
            rw [inductionHypothesis]
            rfl
      · exact inductionHypothesis _ _

/-- The delivery driven alone is `deliver`. -/
theorem observe_deliverOn (handle : StreamHandle) (events : List (Bool × Event))
    (committed : Bool) (s : σ) :
    observe attemptFn upstream (deliverOn S request handle events committed s) =
      let delivery := deliver S request handle events committed s
      ⟨[], .streamed delivery.result, delivery.store⟩ := by
  induction events generalizing committed s with
  | nil =>
      simp only [deliverOn, deliver]
      cases handle.ending <;> rfl
  | cons item rest inductionHypothesis =>
      obtain ⟨replayed, event⟩ := item
      simp only [deliverOn, deliver]
      cases commits replayed committed event with
      | error text => rfl
      | ok committed' =>
          dsimp only
          cases recordDone S request handle event s with
          | raised error s' => rfl
          | done s' =>
              refine Eq.trans (observe_pause attemptFn upstream (.yielded handle.attempt event)
                (fun _ s => deliverOn S request handle rest committed' s) s') ?_
              exact inductionHypothesis committed' s'

/-- What is seen from the end of a selection on. -/
def afterSelection (ending : SelectionEnd) (s : σ) : Observation σ ρ :=
  match ending with
  | .raised error => ⟨[], .streamed (.error error), s⟩
  | .selected handle =>
      let delivery := deliver S request handle handle.iterated false s
      ⟨[], .streamed delivery.result, delivery.store⟩

theorem observe_contactEnd (attempt : Nat) (candidate : RouteCandidate) (secret : String)
    (proceed : σ → RequestSegment σ ρ) (s : σ) :
    observe attemptFn upstream (contactEnd S engine clock request attempt candidate proceed
        (upstream.chatCompletionsStream attempt candidate secret s).1
        (upstream.chatCompletionsStream attempt candidate secret s).2) =
      let contact := contactCandidate S engine clock upstream request attempt candidate secret s
      match contact.2 with
      | some ending => afterSelection S request ending contact.1.settled
      | none => observe attemptFn upstream (proceed contact.1.settled) := by
  simp only [contactEnd, contactCandidate]
  generalize upstream.chatCompletionsStream attempt candidate secret s = call
  cases settlePrefix S engine clock request attempt candidate call.2
      (readPrefix call.1.ending call.1.events) with
  | raised error s' => rfl
  | done s' =>
      dsimp only
      cases readPrefix call.1.ending call.1.events with
      | selected buffered rest => exact observe_deliverOn S request attemptFn upstream _ _ _ _
      | exhausted => rfl
      | failed exception => rfl

theorem contact_start (attempt : Nat) (candidate : RouteCandidate) (secret : String) (s : σ) :
    let log := (contactCandidate S engine clock upstream request attempt candidate secret s).1
    ((log.number, log.candidate), log.started) = ((attempt, candidate), s) := by
  rw [contactCandidate_log]

/-- The starts of the attempts of a selection, in order. -/
def Selection.starts (selection : Selection σ) : List ((Nat × RouteCandidate) × σ) :=
  selection.turns.flatMap fun turn =>
    match turn.verdict with
    | .contacted attempt => [((attempt.number, attempt.candidate), attempt.started)]
    | _ => []

/-- The selection loop driven alone is `selectFrom`, and what follows it. -/
theorem observe_selectOver (scored : List ScoredCandidate) (position attempts : Nat) (s : σ) :
    observe attemptFn upstream
        (selectOver S engine service clock request scored position attempts s) =
      let selection := selectFrom S engine service clock upstream request scored position attempts s
      (afterSelection S request selection.ending selection.store).after selection.starts := by
  induction scored generalizing position attempts s with
  | nil => rfl
  | cons sc rest inductionHypothesis =>
      simp only [selectOver, selectFrom]
      split
      · split
        · rfl
        · cases prepare service sc.candidate with
          | error error => rfl
          | ok secret =>
              dsimp only
              refine Eq.trans (observe_contact attemptFn upstream (attempts + 1) sc.candidate secret
                (clock.check position) (contactEnd S engine clock request (attempts + 1)
                  sc.candidate (selectOver S engine service clock request rest (position + 1)
                    (attempts + 1))) s) ?_
              rw [observe_contactEnd]
              have start := contact_start S engine clock request upstream (attempts + 1)
                sc.candidate secret s
              generalize contactCandidate S engine clock upstream request (attempts + 1)
                sc.candidate secret s = contact at start
              obtain ⟨log, ending⟩ := contact
              dsimp only at start ⊢
              cases ending with
              | some ending =>
                  dsimp only
                  rw [Selection.starts, List.flatMap_singleton]
                  dsimp only
                  rw [start]
              | none =>
                  dsimp only
                  rw [inductionHypothesis]
                  dsimp only
                  rw [Observation.after_after, Selection.starts, Selection.starts,
                    List.flatMap_cons]
                  dsimp only
                  rw [start]
      · exact inductionHypothesis _ _ _

/-- One request of the fallback engine alone is a run. -/
theorem observe_start_run {request : Request σ} {scored : List ScoredCandidate} {start : σ}
    (isRun : request.entry = .run) (isScored : request.scored start = .ok scored) :
    observe attemptFn upstream (request.start S engine service start) =
      let log := run S engine request.clock request.info attemptFn scored start
      ⟨RunLog.starts log, .ran log.ending, log.store⟩ := by
  rw [Request.start, isScored, isRun]
  exact observe_runOver S engine request.clock request.info attemptFn upstream scored 0 _

/-- One streaming request alone is a call of `chat_stream`. -/
theorem observe_start_chatStream {requestId virtualModel : String} {payload : Dict} {counter : Nat}
    {request : Request σ} {start : σ} (isStream : request.entry = .chatStream)
    (isInfo : request.info = ⟨requestId, virtualModel⟩)
    (isScored : request.scored = fun s =>
      (scoredCandidates S service virtualModel payload counter s).1) :
    let call := chatStream S engine service request.clock upstream requestId virtualModel payload
      counter start
    let seen := observe attemptFn upstream (request.start S engine service start)
    seen.store = call.store ∧
      seen.attempts = (call.selection.map Selection.starts).getD [] ∧
      seen.ending = match call.selection, call.result with
        | none, .error error => .unscored error
        | _, result => .streamed result := by
  rw [Request.start, isScored, isStream, isInfo]
  simp only [chatStream]
  cases scoredCandidates S service virtualModel payload counter start with
  | mk found counter' =>
      cases found with
      | error error => exact ⟨rfl, rfl, rfl⟩
      | ok scored =>
          dsimp only
          rw [observe_selectOver]
          dsimp only
          cases (selectFrom S engine service request.clock upstream ⟨requestId, virtualModel⟩ scored
            0 0 start).ending with
          | raised error => exact ⟨rfl, List.append_nil _, rfl⟩
          | selected handle => exact ⟨rfl, List.append_nil _, rfl⟩

end Alone

end AutoRouteGateway.Service

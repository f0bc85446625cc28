import AutoRouteGateway.Routing.RunMaps
import AutoRouteGateway.Service.ChatStream

/-!
Contract: a streamed call over a mapped store.

Owns: the image of every log and result of `chat_stream` under a store map, and
the proof that the call commutes with it, function by function.
-/

namespace AutoRouteGateway.Service

open AutoRouteGateway.Domain
open AutoRouteGateway.Policy
open AutoRouteGateway.Routing
open AutoRouteGateway.Runtime
open AutoRouteGateway.State

/-! ## Images -/

section Images

variable {σ τ : Type} (f : σ → τ)

def StreamAttempt.map (attempt : StreamAttempt σ) : StreamAttempt τ where
  number := attempt.number
  candidate := attempt.candidate
  secret := attempt.secret
  stream := attempt.stream
  started := f attempt.started
  returned := f attempt.returned
  settled := f attempt.settled

def Verdict.map : Verdict σ → Verdict τ
  | .skipped => .skipped
  | .ceiling => .ceiling
  | .unprepared error => .unprepared error
  | .contacted attempt => .contacted (attempt.map f)

def StreamTurn.map (turn : StreamTurn σ) : StreamTurn τ where
  position := turn.position
  scored := turn.scored
  store := f turn.store
  attempts := turn.attempts
  verdict := turn.verdict.map f

def Selection.map (selection : Selection σ) : Selection τ where
  turns := selection.turns.map (StreamTurn.map f)
  ending := selection.ending
  store := f selection.store

def Delivery.map (delivery : Delivery σ) : Delivery τ where
  yields := delivery.yields
  result := delivery.result
  store := f delivery.store

def StreamResult.map (result : StreamResult σ) : StreamResult τ where
  steps := result.steps
  result := result.result
  selection := result.selection.map (Selection.map f)
  store := f result.store
  counter := result.counter

theorem steps_map (turns : List (StreamTurn σ)) :
    (turns.map (StreamTurn.map f)).flatMap StreamTurn.steps = turns.flatMap StreamTurn.steps := by
  rw [List.flatMap_map]
  apply List.flatMap_congr
  intro turn member
  obtain ⟨position, scored, store, attempts, verdict⟩ := turn
  cases verdict <;> rfl

end Images

/-! ## Calls -/

section Calls

variable {σ τ : Type} {S : StateStore σ} {T : StateStore τ} (m : StoreMap S T)

theorem scoredCandidates_read (service : GatewayService) (virtualModel : String)
    (payload : Dict) (counter : Nat) (s : σ) :
    scoredCandidates T service virtualModel payload counter (m.read s) =
      scoredCandidates S service virtualModel payload counter s := by
  simp only [scoredCandidates, scoreCandidates_read]

/-- The upstream answers alike, and leaves stores that are read alike. -/
structure StreamsAlike (upstream : Upstream σ) (upstream' : Upstream τ) : Prop where
  stream : ∀ number candidate secret s,
    upstream'.chatCompletionsStream number candidate secret (m.read s) =
      ((upstream.chatCompletionsStream number candidate secret s).1,
        m.read (upstream.chatCompletionsStream number candidate secret s).2)

variable (engine : FallbackEngine) (service : GatewayService) (clock : Clock)
  (request : RequestInfo)

theorem settlePrefix_read (attempt : Nat) (candidate : RouteCandidate) (s : σ)
    (read : PrefixResult) :
    settlePrefix T engine clock request attempt candidate (m.read s) read =
      (settlePrefix S engine clock request attempt candidate s read).map m.read := by
  cases read with
  | selected buffered rest => rfl
  | exhausted => exact m.record _ _
  | failed exception =>
      simp only [settlePrefix, applyFailure_read]
      cases applyFailure S engine (clock.settle attempt) candidate (candidateFailure exception)
        s with
      | raised error s => rfl
      | done s => exact m.record _ _

variable {upstream : Upstream σ} {upstream' : Upstream τ}
  (alike : StreamsAlike m upstream upstream')

include alike

theorem contactCandidate_read (attempt : Nat) (candidate : RouteCandidate) (secret : String)
    (s : σ) :
    contactCandidate T engine clock upstream' request attempt candidate secret (m.read s) =
      ((contactCandidate S engine clock upstream request attempt candidate secret s).1.map m.read,
        (contactCandidate S engine clock upstream request attempt candidate secret s).2) := by
  simp only [contactCandidate, alike.stream, settlePrefix_read, StoreResult.state_map]
  cases settlePrefix S engine clock request attempt candidate
    (upstream.chatCompletionsStream attempt candidate secret s).2
    (readPrefix (upstream.chatCompletionsStream attempt candidate secret s).1.ending
      (upstream.chatCompletionsStream attempt candidate secret s).1.events) with
  | raised error s' => rfl
  | done s' =>
      dsimp only [StoreResult.map]
      split <;> rfl

theorem selectFrom_read (scored : List ScoredCandidate) (position attempts : Nat) (s : σ) :
    selectFrom T engine service clock upstream' request scored position attempts (m.read s) =
      (selectFrom S engine service clock upstream request scored position attempts s).map
        m.read := by
  induction scored generalizing position attempts s with
  | nil => rfl
  | cons sc rest inductionHypothesis =>
      simp only [selectFrom, attemptable_read, contactCandidate_read m engine clock request alike]
      split
      · split
        · rfl
        · split
          · rfl
          · dsimp only [StreamAttempt.map]
            split
            · rfl
            · rw [inductionHypothesis]
              rfl
      · rw [inductionHypothesis]
        rfl

omit alike

theorem deliveryFailure_read (handle : StreamHandle) (exception : UpstreamException)
    (committed : Bool) (s : σ) :
    deliveryFailure T request handle exception committed (m.read s) =
      (deliveryFailure S request handle exception committed s).map m.read := by
  simp only [deliveryFailure, m.record]
  cases S.recordRouteEvent (routeEvent request handle.candidate handle.attempt
    (some (candidateFailure exception).errorClass)
    (if committed then .partialStreamFailure else .nextCandidate)) s with
  | raised error s => rfl
  | done s => cases committed <;> rfl

theorem deliver_read (handle : StreamHandle) (events : List (Bool × Event)) (committed : Bool)
    (s : σ) :
    deliver T request handle events committed (m.read s) =
      (deliver S request handle events committed s).map m.read := by
  induction events generalizing committed s with
  | nil =>
      simp only [deliver]
      cases handle.ending with
      | none => rfl
      | some exception => exact deliveryFailure_read m request handle exception committed s
  | cons item rest inductionHypothesis =>
      obtain ⟨replayed, event⟩ := item
      have recorded : recordDone T request handle event (m.read s) =
          (recordDone S request handle event s).map m.read := by
        unfold recordDone
        split
        · exact m.record _ _
        · rfl
      simp only [deliver, recorded]
      split
      · exact deliveryFailure_read m request handle _ committed s
      · rename_i committed' _
        cases recordDone S request handle event s with
        | raised error s => exact deliveryFailure_read m request handle _ committed' s
        | done s =>
            dsimp only [StoreResult.map]
            rw [inductionHypothesis]
            rfl

include alike

/-- A streamed call commutes with reading the store. -/
theorem chatStream_read (requestId virtualModel : String) (payload : Dict) (counter : Nat)
    (s : σ) :
    chatStream T engine service clock upstream' requestId virtualModel payload counter
        (m.read s) =
      (chatStream S engine service clock upstream requestId virtualModel payload counter s).map
        m.read := by
  simp only [chatStream, scoredCandidates_read, selectFrom_read m engine service clock _ alike]
  split
  · rfl
  · dsimp only [Selection.map]
    rw [steps_map]
    split
    · rfl
    · rw [deliver_read]
      rfl

end Calls

end AutoRouteGateway.Service

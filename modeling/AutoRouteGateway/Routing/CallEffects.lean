import AutoRouteGateway.Routing.Replay
import AutoRouteGateway.Routing.RunRecord
import AutoRouteGateway.Routing.StoreAgreement

/-!
Contract: what the bookkeeping of one call does to a store.

On the board it is one engine call, or none. In the event log it is one event
of the attempt; only a refused authentication of a candidate without a
credential leaves none.

Owns: the engine on boards, the event log of both implementations, and the
effect of the bookkeeping of one call on the two.
-/

namespace AutoRouteGateway.Routing

open AutoRouteGateway.Domain
open AutoRouteGateway.Library
open AutoRouteGateway.Policy
open AutoRouteGateway.Runtime
open AutoRouteGateway.State

/-! ## The engine on boards -/

def boardCall {scheme : ScopeScheme} (engine : FallbackEngine) (board : Board scheme) :
    EngineCall → Board scheme
  | .succeeded candidate => boardSuccess candidate board
  | .failed now candidate failure => boardFailure engine now candidate failure board

def boardAfter {scheme : ScopeScheme} (engine : FallbackEngine) (calls : List EngineCall)
    (board : Board scheme) : Board scheme :=
  calls.foldl (boardCall engine) board

@[simp] theorem boardAfter_nil {scheme : ScopeScheme} (engine : FallbackEngine)
    (board : Board scheme) : boardAfter engine [] board = board := rfl

@[simp] theorem boardAfter_singleton {scheme : ScopeScheme} (engine : FallbackEngine)
    (call : EngineCall) (board : Board scheme) :
    boardAfter engine [call] board = boardCall engine board call := rfl

theorem boardAfter_append {scheme : ScopeScheme} (engine : FallbackEngine)
    (earlier later : List EngineCall) (board : Board scheme) :
    boardAfter engine (earlier ++ later) board =
      boardAfter engine later (boardAfter engine earlier board) :=
  List.foldl_append

/-- A history of engine calls on a store is the same history on its board. -/
theorem board_stateAfter {σ : Type} {S : StateStore σ} (store : ScopedStore S)
    (engine : FallbackEngine) (calls : List EngineCall) (start : σ) :
    store.board (stateAfter S engine calls start) =
      boardAfter engine calls (store.board start) := by
  induction calls generalizing start with
  | nil => rfl
  | cons call rest inductionHypothesis =>
      have first : store.board (call.run S engine start).state =
          boardCall engine (store.board start) call := by
        rw [board_run]
        cases call <;> rfl
      refine (inductionHypothesis (call.run S engine start).state).trans ?_
      rw [first]
      rfl

/-! ## The event log -/

/-- The route events a store holds, oldest first. -/
def eventLog : (kind : StoreKind) → kind.Contents → List RouteEvent
  | .inMemory, s => s.events
  | .sqlite, s => s.routeEvents

/-- Whatever an event is recorded for, it goes to the end of the log. -/
theorem record_effect (kind : StoreKind) (event : RouteEvent) (s : kind.Contents) :
    ∃ s', kind.store.recordRouteEvent event s = .done s' ∧
      kind.scopedStore.board s' = kind.scopedStore.board s ∧
      eventLog kind s' = eventLog kind s ++ [event] := by
  cases kind <;> exact ⟨_, rfl, rfl, rfl⟩

theorem applySuccess_effect (kind : StoreKind) (candidate : RouteCandidate) (s : kind.Contents) :
    ∃ s', applySuccess kind.store candidate s = .done s' ∧
      kind.scopedStore.board s' = boardSuccess candidate (kind.scopedStore.board s) ∧
      eventLog kind s' = eventLog kind s := by
  have board := board_applySuccess kind.scopedStore candidate s
  cases kind <;> exact ⟨_, rfl, board, rfl⟩

theorem eventLog_applyFailure (kind : StoreKind) (engine : FallbackEngine) (now : Instant)
    (candidate : RouteCandidate) (failure : CandidateFailure) (s : kind.Contents) :
    eventLog kind (applyFailure kind.store engine now candidate failure s).state =
      eventLog kind s := by
  obtain ⟨provider, credential, model, executor⟩ := candidate
  unfold applyFailure
  cases kind with
  | inMemory => cases failure.errorClass <;> rfl
  | sqlite => cases failure.errorClass <;> cases credential <;> rfl

/-- A failure is written without an exception, unless it refuses a credential
that the candidate does not have. -/
theorem applyFailure_effect (kind : StoreKind) (engine : FallbackEngine) (now : Instant)
    (candidate : RouteCandidate) (failure : CandidateFailure) (s : kind.Contents) :
    (∃ s', applyFailure kind.store engine now candidate failure s = .done s' ∧
      kind.scopedStore.board s' = boardFailure engine now candidate failure
        (kind.scopedStore.board s) ∧
      eventLog kind s' = eventLog kind s) ∨
    (∃ error s', applyFailure kind.store engine now candidate failure s = .raised error s' ∧
      failure.errorClass = .auth ∧ candidate.credentialId = none ∧
      kind.scopedStore.board s' = boardFailure engine now candidate failure
        (kind.scopedStore.board s) ∧
      eventLog kind s' = eventLog kind s) := by
  have board := board_applyFailure kind.scopedStore engine now candidate failure s
  have log := eventLog_applyFailure kind engine now candidate failure s
  cases applied : applyFailure kind.store engine now candidate failure s with
  | done s' =>
      rw [applied] at board log
      exact Or.inl ⟨s', rfl, board, log⟩
  | raised error s' =>
      rw [applied] at board log
      refine Or.inr ⟨error, s', rfl, ?_, ?_, board, log⟩
      · unfold applyFailure at applied
        cases kind <;> cases errorClass : failure.errorClass <;> rw [errorClass] at applied <;>
          first | rfl | cases applied
      · by_contra keyed
        obtain ⟨id, isId⟩ := Option.ne_none_iff_exists'.mp keyed
        obtain ⟨provider, credential, model, executor⟩ := candidate
        subst isId
        unfold applyFailure at applied
        cases kind <;> cases errorClass : failure.errorClass <;> rw [errorClass] at applied <;>
          cases applied

/-! ## The bookkeeping of one call -/

section Bookkeeping

variable {ρ : Type}

/-- The state-writing call of the engine that an outcome leads to. -/
def outcomeCalls (now : Instant) (candidate : RouteCandidate) :
    AttemptOutcome ρ → List EngineCall
  | .returned _ => [.succeeded candidate]
  | .failed failure => if failure.committed then [] else [.failed now candidate failure]
  | .raised text => [.failed now candidate (serverFailure text)]

theorem candidate_of_mem_outcomeCalls {now : Instant} {candidate : RouteCandidate}
    {outcome : AttemptOutcome ρ} {call : EngineCall}
    (member : call ∈ outcomeCalls now candidate outcome) : call.candidate = candidate := by
  cases outcome with
  | returned value => rw [List.mem_singleton.mp member, EngineCall.candidate]
  | raised text => rw [List.mem_singleton.mp member, EngineCall.candidate]
  | failed failure =>
      simp only [outcomeCalls] at member
      split_ifs at member
      · cases member
      · rw [List.mem_singleton.mp member, EngineCall.candidate]

/-- The action an outcome is recorded with. -/
def outcomeAction (policy : RetryPolicy) (retries : Nat) : AttemptOutcome ρ → EventAction
  | .returned _ => .success
  | .failed failure =>
      if failure.committed then .stopCommittedStream
      else actionOf (nextAction failure.errorClass retries policy)
  | .raised _ => .nextCandidate

variable (kind : StoreKind) (engine : FallbackEngine) (clock : Clock) (request : RequestInfo)

/-- The event of one call. -/
def outcomeEvent (candidate : RouteCandidate) (number retries : Nat)
    (outcome : AttemptOutcome ρ) : RouteEvent :=
  routeEvent request candidate number outcome.errorClass
    (outcomeAction engine.policy retries outcome)

/-- At most one event of the attempt is added to the log. -/
def AddsEvent (number : Nat) (candidate : RouteCandidate) (s s' : kind.Contents) : Prop :=
  eventLog kind s' = eventLog kind s ∨ ∃ errorClass action,
    eventLog kind s' =
      eventLog kind s ++ [routeEvent request candidate number errorClass action]

/-- From one store to the other, the bookkeeping of one call was done. -/
structure CallSettled (number retries : Nat) (candidate : RouteCandidate)
    (outcome : AttemptOutcome ρ) (s s' : kind.Contents) : Prop where
  board : kind.scopedStore.board s' =
    boardAfter engine (outcomeCalls (clock.settle number) candidate outcome)
      (kind.scopedStore.board s)
  log : AddsEvent kind request number candidate s s'
  keyed : candidate.credentialId ≠ none →
    eventLog kind s' =
      eventLog kind s ++ [outcomeEvent engine request candidate number retries outcome]

variable {kind engine clock request}

theorem CallSettled.of_event {number retries : Nat} {candidate : RouteCandidate}
    {outcome : AttemptOutcome ρ} {s s' : kind.Contents}
    (board : kind.scopedStore.board s' =
      boardAfter engine (outcomeCalls (clock.settle number) candidate outcome)
        (kind.scopedStore.board s))
    (log : eventLog kind s' =
      eventLog kind s ++ [outcomeEvent engine request candidate number retries outcome]) :
    CallSettled kind engine clock request number retries candidate outcome s s' :=
  ⟨board, Or.inr ⟨_, _, log⟩, fun _ => log⟩

/-- Recording in a run is recording in its store; the counters stay. -/
theorem progress_record_effect (event : RouteEvent) (progress : Progress kind.Contents) :
    ∃ progress', progress.record kind.store event = .done progress' ∧
      progress'.attempts = progress.attempts ∧
      kind.scopedStore.board progress'.store = kind.scopedStore.board progress.store ∧
      eventLog kind progress'.store = eventLog kind progress.store ++ [event] := by
  obtain ⟨s', recorded, board, log⟩ := record_effect kind event progress.store
  unfold Progress.record
  simp only [recorded]
  exact ⟨_, rfl, rfl, board, log⟩

/-- The decision after a failure changes neither the store nor the attempts. -/
theorem afterAction_keeps (engine : FallbackEngine) (request : RequestInfo)
    (action : FallbackAction) (progress : Progress kind.Contents) :
    (afterAction (ρ := ρ) engine request action progress).progress.attempts =
        progress.attempts ∧
      (afterAction (ρ := ρ) engine request action progress).progress.store =
        progress.store := by
  cases action with
  | retrySameCandidate => exact ⟨rfl, rfl⟩
  | nextCandidate =>
      simp only [afterAction]
      split <;> exact ⟨rfl, rfl⟩
  | stop =>
      simp only [afterAction]
      split <;> exact ⟨rfl, rfl⟩

/-- The bookkeeping of one call, whatever its outcome. -/
theorem settleCall_effect (engine : FallbackEngine) (clock : Clock) (request : RequestInfo)
    (candidate : RouteCandidate) (retries : Nat) (outcome : AttemptOutcome ρ)
    (progress : Progress kind.Contents) :
    let step := (settleCall kind.store engine clock request candidate retries outcome progress).2
    step.progress.attempts = progress.attempts ∧
      CallSettled kind engine clock request progress.attempts retries candidate outcome
        progress.store step.progress.store := by
  cases outcome with
  | returned value =>
      obtain ⟨s, applied, board, log⟩ := applySuccess_effect kind candidate progress.store
      obtain ⟨left, recorded, attempts, board', log'⟩ := progress_record_effect
        (routeEvent request candidate progress.attempts none .success)
        { progress with store := s }
      simp only [settleCall, afterReturn, applied, recorded, NextStep.progress]
      exact ⟨attempts, .of_event (board'.trans board) (log'.trans (by rw [log]; rfl))⟩
  | raised text =>
      obtain ⟨s, applied, board, log⟩ | ⟨error, s, applied, auth, -⟩ := applyFailure_effect kind
        engine (clock.settle progress.attempts) candidate (serverFailure text) progress.store
      · obtain ⟨left, recorded, attempts, board', log'⟩ := progress_record_effect
          (routeEvent request candidate progress.attempts (some .server) .nextCandidate)
          { progress with store := s }
        unfold serverFailure at applied
        simp only [settleCall, afterException, applied, recorded, NextStep.progress]
        exact ⟨attempts, .of_event (board'.trans board) (log'.trans (by rw [log]; rfl))⟩
      · cases auth
  | failed failure =>
      by_cases committed : failure.committed = true
      · obtain ⟨left, recorded, attempts, board', log'⟩ := progress_record_effect
          (routeEvent request candidate progress.attempts (some failure.errorClass)
            .stopCommittedStream) progress
        simp only [settleCall, committed, if_true, afterCommittedFailure, recorded,
          NextStep.progress]
        refine ⟨attempts, .of_event ?_ ?_⟩
        · simpa [outcomeCalls, committed] using board'
        · simpa [outcomeEvent, outcomeAction, AttemptOutcome.errorClass, committed] using log'
      · have uncommitted : failure.committed = false := by simpa using committed
        simp only [settleCall, uncommitted, Bool.false_eq_true, if_false, afterFailure]
        obtain ⟨s, applied, board, log⟩ | ⟨error, s, applied, -, keyless, board, log⟩ :=
          applyFailure_effect kind engine (clock.settle progress.attempts) candidate failure
            progress.store
        · obtain ⟨left, recorded, attempts, board', log'⟩ := progress_record_effect
            (routeEvent request candidate progress.attempts (some failure.errorClass)
              (actionOf (nextAction failure.errorClass retries engine.policy)))
            { progress with store := s }
          simp only [applied, recorded]
          obtain ⟨sameAttempts, sameStore⟩ := afterAction_keeps (ρ := ρ) engine request
            (nextAction failure.errorClass retries engine.policy)
            { left with lastError := some failure.errorClass }
          rw [sameAttempts, sameStore]
          refine ⟨attempts, .of_event ?_ ?_⟩
          · simpa [outcomeCalls, uncommitted, boardCall] using board'.trans board
          · simpa [outcomeEvent, outcomeAction, AttemptOutcome.errorClass, uncommitted, log]
              using log'
        · simp only [applied, NextStep.progress]
          refine ⟨trivial, ⟨?_, Or.inl log, fun keyed => absurd keyless keyed⟩⟩
          simpa [outcomeCalls, uncommitted, boardCall] using board

end Bookkeeping

end AutoRouteGateway.Routing

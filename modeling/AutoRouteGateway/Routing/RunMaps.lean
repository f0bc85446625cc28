import AutoRouteGateway.Routing.Run
import AutoRouteGateway.State.Journal

/-!
Contract: a run of the fallback engine over a mapped store.

Owns: the image of the log of a run under a store map, the proof that the run
commutes with it, function by function, and the run that keeps a journal of its
writes.
-/

namespace AutoRouteGateway.Routing

open AutoRouteGateway.Domain
open AutoRouteGateway.Policy
open AutoRouteGateway.Runtime
open AutoRouteGateway.State

/-! ## Images -/

section Images

variable {σ τ ρ : Type} (f : σ → τ)

def Progress.map (progress : Progress σ) : Progress τ where
  store := f progress.store
  attempts := progress.attempts
  fallbackCount := progress.fallbackCount
  lastError := progress.lastError
  events := progress.events

def NextStep.map : NextStep σ ρ → NextStep τ ρ
  | .retry progress => .retry (progress.map f)
  | .next progress => .next (progress.map f)
  | .stop ending progress => .stop ending (progress.map f)

def AttemptLog.map (call : AttemptLog σ ρ) : AttemptLog τ ρ where
  number := call.number
  started := f call.started
  outcome := call.outcome
  returned := f call.returned
  settled := f call.settled
  storeError := call.storeError

def Turn.map (turn : Turn σ ρ) : Turn τ ρ where
  position := turn.position
  scored := turn.scored
  store := f turn.store
  attempts := turn.attempts.map (AttemptLog.map f)

def RunLog.map (log : RunLog σ ρ) : RunLog τ ρ where
  turns := log.turns.map (Turn.map f)
  ending := log.ending
  store := f log.store

theorem NextStep.progress_map (step : NextStep σ ρ) :
    (step.map f).progress = step.progress.map f := by
  cases step <;> rfl

end Images

/-! ## Store operations -/

section Operations

variable {σ τ ρ : Type} {S : StateStore σ} {T : StateStore τ} (m : StoreMap S T)

theorem eligible_read (now : Instant) (s : σ) (candidate : RouteCandidate) :
    eligible T now (m.read s) candidate = eligible S now s candidate := by
  simp only [eligible, m.getHealth, m.getQuota, m.getCredential, m.getCooldown]

theorem attemptable_read (now : Instant) (s : σ) (sc : ScoredCandidate) :
    attemptable T now (m.read s) sc = attemptable S now s sc := by
  rw [attemptable, attemptable, eligible_read]

theorem scoreCandidates_read (s : σ) (candidates : List RouteCandidate) :
    scoreCandidates T (m.read s) candidates = scoreCandidates S s candidates := by
  have one : scoreCandidate T (m.read s) = scoreCandidate S s := by
    funext candidate
    simp only [scoreCandidate, m.getHealth, m.getQuota, m.getCredential]
  rw [scoreCandidates, scoreCandidates, one]

theorem applyFailure_read (engine : FallbackEngine) (now : Instant) (candidate : RouteCandidate)
    (failure : CandidateFailure) (s : σ) :
    applyFailure T engine now candidate failure (m.read s) =
      (applyFailure S engine now candidate failure s).map m.read := by
  unfold applyFailure
  cases failure.errorClass with
  | auth => exact m.setCredential _ _ _ _
  | quota => exact m.setQuota _ _ _ _ _
  | rateLimit => exact m.setQuota _ _ _ _ _
  | modelNotFound => exact m.setHealth _ _ _ _ _
  | network => exact m.setHealth _ _ _ _ _
  | server => exact m.setHealth _ _ _ _ _
  | tokenLimit => rfl
  | unknown => rfl

theorem applySuccess_read (candidate : RouteCandidate) (s : σ) :
    applySuccess T candidate (m.read s) = (applySuccess S candidate s).map m.read :=
  m.setHealth _ _ _ _ _

theorem record_read (progress : Progress σ) (event : RouteEvent) :
    (progress.map m.read).record T event =
      (progress.record S event).map (Progress.map m.read) := by
  simp only [Progress.record, Progress.map, m.record]
  cases S.recordRouteEvent event progress.store <;> rfl

end Operations

/-! ## Bookkeeping -/

section Bookkeeping

variable {σ τ ρ : Type} {S : StateStore σ} {T : StateStore τ} (m : StoreMap S T)
  (engine : FallbackEngine) (clock : Clock) (request : RequestInfo)

theorem afterException_read (candidate : RouteCandidate) (text : String)
    (progress : Progress σ) :
    afterException (ρ := ρ) T engine clock request candidate text (progress.map m.read) =
      Prod.map id (NextStep.map m.read)
        (afterException S engine clock request candidate text progress) := by
  simp only [afterException, Progress.map, applyFailure_read]
  cases applyFailure S engine (clock.settle progress.attempts) candidate
      { errorClass := .server, message := truncate 200 text } progress.store with
  | raised error s => rfl
  | done s =>
      have recorded := record_read m { progress with store := s } (routeEvent request candidate
        progress.attempts (some .server) .nextCandidate)
      simp only [Progress.map] at recorded
      simp only [StoreResult.map, recorded]
      cases Progress.record S { progress with store := s } (routeEvent request candidate
        progress.attempts (some .server) .nextCandidate) <;> rfl

theorem afterReturn_read (candidate : RouteCandidate) (value : ρ) (progress : Progress σ) :
    afterReturn T engine clock request candidate value (progress.map m.read) =
      Prod.map id (NextStep.map m.read)
        (afterReturn S engine clock request candidate value progress) := by
  simp only [afterReturn, show (progress.map m.read).store = m.read progress.store from rfl,
    applySuccess_read]
  cases applySuccess S candidate progress.store with
  | raised error s =>
      have excepted := afterException_read (ρ := ρ) m engine clock request candidate
        error.message { progress with store := s }
      exact congrArg (Prod.mk (some error)) (congrArg Prod.snd excepted)
  | done s =>
      have recorded := record_read m { progress with store := s } (routeEvent request candidate
        progress.attempts none .success)
      simp only [Progress.map] at recorded
      simp only [StoreResult.map, Progress.map, recorded]
      cases Progress.record S { progress with store := s } (routeEvent request candidate
          progress.attempts none .success) with
      | raised error progress' =>
          have excepted := afterException_read (ρ := ρ) m engine clock request candidate
            error.message progress'
          exact congrArg (Prod.mk (some error)) (congrArg Prod.snd excepted)
      | done progress' => rfl

theorem afterCommittedFailure_read (candidate : RouteCandidate) (failure : CandidateFailure)
    (progress : Progress σ) :
    afterCommittedFailure (ρ := ρ) T request candidate failure (progress.map m.read) =
      Prod.map id (NextStep.map m.read)
        (afterCommittedFailure S request candidate failure progress) := by
  simp only [afterCommittedFailure, record_read]
  rw [show (progress.map m.read).attempts = progress.attempts from rfl]
  cases progress.record S (routeEvent request candidate progress.attempts
    (some failure.errorClass) .stopCommittedStream) <;> rfl

theorem afterAction_read (action : FallbackAction) (progress : Progress σ) :
    afterAction (ρ := ρ) engine request action (progress.map m.read) =
      (afterAction engine request action progress).map m.read := by
  have giveUp : ∀ progress : Progress σ,
      (if candidateLimitReached engine.policy (progress.map m.read).fallbackCount then
        (NextStep.stop (.noEligible ⟨request.virtualModel, (progress.map m.read).attempts,
          (progress.map m.read).lastError⟩) (progress.map m.read) : NextStep τ ρ)
      else .next (progress.map m.read)) =
        NextStep.map m.read (if candidateLimitReached engine.policy progress.fallbackCount then
          .stop (.noEligible ⟨request.virtualModel, progress.attempts, progress.lastError⟩)
            progress
        else .next progress) := by
    intro progress
    by_cases reached : candidateLimitReached engine.policy progress.fallbackCount = true
    · rw [if_pos reached, if_pos (show candidateLimitReached engine.policy
        (progress.map m.read).fallbackCount = true from reached)]
      rfl
    · rw [if_neg reached, if_neg (show ¬ candidateLimitReached engine.policy
        (progress.map m.read).fallbackCount = true from reached)]
      rfl
  cases action with
  | retrySameCandidate => rfl
  | nextCandidate => exact giveUp { progress with fallbackCount := progress.fallbackCount + 1 }
  | stop => exact giveUp { progress with fallbackCount := progress.fallbackCount + 1 }

theorem afterFailure_read (candidate : RouteCandidate) (failure : CandidateFailure)
    (retries : Nat) (progress : Progress σ) :
    afterFailure (ρ := ρ) T engine clock request candidate failure retries
        (progress.map m.read) =
      Prod.map id (NextStep.map m.read)
        (afterFailure S engine clock request candidate failure retries progress) := by
  simp only [afterFailure, show (progress.map m.read).store = m.read progress.store from rfl,
    show (progress.map m.read).attempts = progress.attempts from rfl, applyFailure_read]
  cases applyFailure S engine (clock.settle progress.attempts) candidate failure
      progress.store with
  | raised error s => rfl
  | done s =>
      have recorded := record_read m { progress with store := s } (routeEvent request candidate
        progress.attempts (some failure.errorClass)
        (actionOf (nextAction failure.errorClass retries engine.policy)))
      simp only [Progress.map] at recorded
      simp only [StoreResult.map, Progress.map, recorded]
      cases Progress.record S { progress with store := s } (routeEvent request candidate
          progress.attempts (some failure.errorClass)
          (actionOf (nextAction failure.errorClass retries engine.policy))) with
      | raised error progress' => rfl
      | done progress' =>
          exact congrArg (Prod.mk none) (afterAction_read m engine request _
            { progress' with lastError := some failure.errorClass })

theorem settleCall_read (candidate : RouteCandidate) (retries : Nat)
    (outcome : AttemptOutcome ρ) (progress : Progress σ) :
    settleCall T engine clock request candidate retries outcome (progress.map m.read) =
      Prod.map id (NextStep.map m.read)
        (settleCall S engine clock request candidate retries outcome progress) := by
  cases outcome with
  | returned value => exact afterReturn_read m engine clock request candidate value progress
  | raised text => exact afterException_read m engine clock request candidate text progress
  | failed failure =>
      simp only [settleCall]
      by_cases committed : failure.committed = true
      · rw [if_pos committed, if_pos committed]
        exact afterCommittedFailure_read m request candidate failure progress
      · rw [if_neg committed, if_neg committed]
        exact afterFailure_read m engine clock request candidate failure retries progress

end Bookkeeping

/-! ## The loops -/

section Loops

variable {σ τ ρ : Type} {S : StateStore σ} {T : StateStore τ} (m : StoreMap S T)

/-- The attempts answer alike, and leave stores that are read alike. -/
structure AttemptsAlike (attemptFn : AttemptFn σ ρ) (attemptFn' : AttemptFn τ ρ) : Prop where
  answer : ∀ number candidate s,
    attemptFn' number candidate (m.read s) =
      ((attemptFn number candidate s).1, m.read (attemptFn number candidate s).2)

variable (engine : FallbackEngine) (clock : Clock) (request : RequestInfo)
  {attemptFn : AttemptFn σ ρ} {attemptFn' : AttemptFn τ ρ}
  (alike : AttemptsAlike m attemptFn attemptFn')

include alike

theorem oneCall_read (candidate : RouteCandidate) (retries : Nat) (progress : Progress σ) :
    oneCall T engine clock request attemptFn' candidate retries (progress.map m.read) =
      Prod.map (NextStep.map m.read) (AttemptLog.map m.read)
        (oneCall S engine clock request attemptFn candidate retries progress) := by
  have settled := settleCall_read m engine clock request candidate retries
    (attemptFn (progress.attempts + 1) candidate progress.store).1
    { progress with
      store := (attemptFn (progress.attempts + 1) candidate progress.store).2
      attempts := progress.attempts + 1 }
  simp only [Progress.map] at settled
  simp only [oneCall, Progress.map, alike.answer, settled, Prod.map_fst, Prod.map_snd, id_eq,
    NextStep.progress_map]
  rfl

theorem attemptCandidate_read (candidate : RouteCandidate) (budget retries : Nat)
    (progress : Progress σ) :
    attemptCandidate T engine clock request attemptFn' candidate budget retries
        (progress.map m.read) =
      Prod.map (NextStep.map m.read) (List.map (AttemptLog.map m.read))
        (attemptCandidate S engine clock request attemptFn candidate budget retries
          progress) := by
  induction budget generalizing retries progress with
  | zero => rfl
  | succ budget inductionHypothesis =>
      simp only [attemptCandidate, oneCall_read m engine clock request alike, Prod.map_fst,
        Prod.map_snd]
      cases (oneCall S engine clock request attemptFn candidate retries progress).1 with
      | retry progress' =>
          simp only [NextStep.map, inductionHypothesis, Prod.map_fst, Prod.map_snd]
          rfl
      | next progress' => rfl
      | stop ending progress' => rfl

theorem runFrom_read (scored : List ScoredCandidate) (position : Nat) (progress : Progress σ) :
    runFrom T engine clock request attemptFn' scored position (progress.map m.read) =
      (runFrom S engine clock request attemptFn scored position progress).map m.read := by
  induction scored generalizing position progress with
  | nil => rfl
  | cons sc rest inductionHypothesis =>
      have sameTurn : attemptable T (clock.check position) (progress.map m.read).store sc =
          attemptable S (clock.check position) progress.store sc :=
        attemptable_read m _ _ sc
      have sameBudget : attemptBudget engine (progress.map m.read).attempts =
          attemptBudget engine progress.attempts := rfl
      simp only [runFrom, sameTurn, sameBudget, attemptCandidate_read m engine clock request alike]
      split
      · generalize attemptCandidate S engine clock request attemptFn sc.candidate
          (attemptBudget engine progress.attempts) 0 progress = attempted
        obtain ⟨step, calls⟩ := attempted
        cases step with
        | stop ending progress' => rfl
        | retry progress' =>
            simp only [Prod.map_apply, NextStep.map, inductionHypothesis]
            rfl
        | next progress' =>
            simp only [Prod.map_apply, NextStep.map, inductionHypothesis]
            rfl
      · rw [inductionHypothesis]
        rfl

/-- A run commutes with reading the store. -/
theorem run_read (scored : List ScoredCandidate) (start : σ) :
    run T engine clock request attemptFn' scored (m.read start) =
      (run S engine clock request attemptFn scored start).map m.read :=
  runFrom_read m engine clock request alike scored 0 { store := start }

end Loops

/-! ## The journal of a run -/

section Journaled

variable {σ ρ : Type} (S : StateStore σ) (engine : FallbackEngine) (clock : Clock)
  (request : RequestInfo) (attemptFn : AttemptFn σ ρ)

/-- The same attempts next to a journal, which they do not write. -/
def besideJournal : AttemptFn (σ × List Write) ρ := fun number candidate s =>
  let call := attemptFn number candidate s.1
  (call.1, (call.2, s.2))

theorem attemptsAlike_besideJournal :
    AttemptsAlike (journalingMap S) (besideJournal attemptFn) attemptFn where
  answer := fun _ _ _ => rfl

/-- The run, with the journal of what the engine wrote. -/
def journaledRun (scored : List ScoredCandidate) (start : σ) : RunLog (σ × List Write) ρ :=
  run (journaling S) engine clock request (besideJournal attemptFn) scored (start, [])

/-- Keeping the journal changes nothing else. -/
theorem journaledRun_erased (scored : List ScoredCandidate) (start : σ) :
    (journaledRun S engine clock request attemptFn scored start).map Prod.fst =
      run S engine clock request attemptFn scored start :=
  (run_read (journalingMap S) engine clock request (attemptsAlike_besideJournal S attemptFn)
    scored (start, [])).symm

end Journaled

end AutoRouteGateway.Routing

import AutoRouteGateway.Routing.Scorer
import AutoRouteGateway.Runtime.Text

/-!
Contract: the attempt loop of the fallback engine.

Owns: the bookkeeping after one call of `attempt_fn`, the retry loop on one
candidate, the loop over the scored list, and the log of a run.

The log is what an observer of the run would write down: each position with
the store at its turn, and each call with the store before it, when it came
back, and after its bookkeeping. Nothing in the loop reads the log.

A call runs across an `await`, so other requests may write to the shared store
before it comes back. The bookkeeping runs without one.
-/

namespace AutoRouteGateway.Routing

open AutoRouteGateway.Domain
open AutoRouteGateway.Policy
open AutoRouteGateway.Runtime
open AutoRouteGateway.State

/-- How a call of `attempt_fn` ends; `raised` is any exception other than a
candidate failure, with its text. -/
inductive AttemptOutcome (ρ : Type) where
  | returned (value : ρ)
  | failed (failure : CandidateFailure)
  | raised (text : String)
deriving DecidableEq

/-- The n-th call of `attempt_fn`, and the store when it comes back. -/
abbrev AttemptFn (σ ρ : Type) := Nat → RouteCandidate → σ → AttemptOutcome ρ × σ

/-- The wall clock as the engine reads it: at the eligibility check of a
position, and in the bookkeeping after an attempt. -/
structure Clock where
  check : Nat → Instant
  settle : Nat → Instant

/-- What an attempt is made for. -/
structure RequestInfo where
  requestId : String
  virtualModel : String
deriving DecidableEq, Repr

structure NoEligibleCandidateError where
  virtualModel : String
  attempts : Nat
  lastError : Option ErrorClass
deriving DecidableEq, Repr

structure HardAttemptCeilingError where
  hardAttemptCeiling : Int
  virtualModel : String
deriving DecidableEq, Repr

structure FallbackResult where
  success : Bool
  virtualModel : String
  candidate : RouteCandidate
  attempts : Nat
  fallbackCount : Nat
  events : List RouteEvent
  errorClass : Option ErrorClass := none
  partialStreamFailure : Bool := false
deriving DecidableEq

/-- How a run ends: it returns, with the value of the successful call if there
was one, or it raises. -/
inductive RunEnding (ρ : Type) where
  | finished (result : FallbackResult) (value : Option ρ)
  | noEligible (error : NoEligibleCandidateError)
  | hardCeiling (error : HardAttemptCeilingError)
  | storeError (error : StoreError)
deriving DecidableEq

/-- The variables the loops share. -/
structure Progress (σ : Type) where
  store : σ
  attempts : Nat := 0
  fallbackCount : Nat := 0
  lastError : Option ErrorClass := none
  events : List RouteEvent := []

/-- What follows the bookkeeping of one call. -/
inductive NextStep (σ ρ : Type) where
  | retry (progress : Progress σ)
  | next (progress : Progress σ)
  | stop (ending : RunEnding ρ) (progress : Progress σ)

def NextStep.progress {σ ρ : Type} : NextStep σ ρ → Progress σ
  | .retry progress => progress
  | .next progress => progress
  | .stop _ progress => progress

theorem retry_ne_stop {σ ρ : Type} {progress : Progress σ} (ending : RunEnding ρ)
    (progress' : Progress σ) :
    NextStep.retry progress ≠ .stop ending progress' := by
  intro same
  cases same

theorem next_ne_stop {σ ρ : Type} {progress : Progress σ} (ending : RunEnding ρ)
    (progress' : Progress σ) :
    NextStep.next progress ≠ .stop ending progress' := by
  intro same
  cases same

/-- One call of `attempt_fn`: its number, the store before it, when it came
back and after its bookkeeping, and the first exception a store operation
raised in its bookkeeping. -/
structure AttemptLog (σ ρ : Type) where
  number : Nat
  started : σ
  outcome : AttemptOutcome ρ
  returned : σ
  settled : σ
  storeError : Option StoreError

/-- One position of the scored list: the store at its turn and its calls. -/
structure Turn (σ ρ : Type) where
  position : Nat
  scored : ScoredCandidate
  store : σ
  attempts : List (AttemptLog σ ρ)

structure RunLog (σ ρ : Type) where
  turns : List (Turn σ ρ)
  ending : RunEnding ρ
  store : σ

/-- The store a turn leaves. -/
def Turn.left {σ ρ : Type} (turn : Turn σ ρ) : σ :=
  turn.attempts.getLast?.elim turn.store AttemptLog.settled

/-- Each entry is given the state that the one before it left: the first one
`start`, and what the last one leaves is `final`. -/
def Handed {σ τ : Type} (given left : τ → σ) : σ → List τ → σ → Prop
  | start, [], final => final = start
  | start, entry :: later, final => given entry = start ∧ Handed given left (left entry) later final

theorem Handed.final_eq {σ τ : Type} {given left : τ → σ} {start final : σ} {entries : List τ}
    (handed : Handed given left start entries final) :
    final = entries.getLast?.elim start left := by
  induction entries generalizing start with
  | nil => exact handed
  | cons entry later inductionHypothesis =>
      rw [inductionHypothesis handed.2, List.getLast?_cons]
      cases later.getLast? <;> rfl

def actionOf : FallbackAction → EventAction
  | .retrySameCandidate => .retrySameCandidate
  | .nextCandidate => .nextCandidate
  | .stop => .stop

def routeEvent (request : RequestInfo) (candidate : RouteCandidate) (attempt : Nat)
    (errorClass : Option ErrorClass) (action : EventAction) : RouteEvent where
  requestId := request.requestId
  virtualModel := request.virtualModel
  attempt := attempt
  providerId := candidate.providerId
  credentialId := candidate.credentialId
  model := candidate.concreteModel.modelId
  errorClass := errorClass
  action := action

section Run

variable {σ ρ : Type} (S : StateStore σ) (engine : FallbackEngine) (clock : Clock)
  (request : RequestInfo)

/-! ## The bookkeeping after one call -/

/-- Append the event to the run's list, then record it. -/
def Progress.record (progress : Progress σ) (event : RouteEvent) : StoreResult (Progress σ) :=
  let progress := { progress with events := progress.events ++ [event] }
  match S.recordRouteEvent event progress.store with
  | .done s => .done { progress with store := s }
  | .raised error s => .raised error { progress with store := s }

/-- `except Exception`: a server-class failure, and the next candidate. What a
store operation raises in here leaves the run. -/
def afterException (candidate : RouteCandidate) (text : String) (progress : Progress σ) :
    Option StoreError × NextStep σ ρ :=
  let failure : CandidateFailure := { errorClass := .server, message := truncate 200 text }
  match applyFailure S engine (clock.settle progress.attempts) candidate failure
      progress.store with
  | .raised error s => (some error, .stop (.storeError error) { progress with store := s })
  | .done s =>
      match ({ progress with store := s }).record S
          (routeEvent request candidate progress.attempts (some .server) .nextCandidate) with
      | .raised error progress => (some error, .stop (.storeError error) progress)
      | .done progress =>
          (none, .next { progress with
            lastError := some .server
            fallbackCount := progress.fallbackCount + 1 })

/-- A result was returned. What the store raises while the success is recorded
is caught by the same `try`. -/
def afterReturn (candidate : RouteCandidate) (value : ρ) (progress : Progress σ) :
    Option StoreError × NextStep σ ρ :=
  match applySuccess S candidate progress.store with
  | .raised error s =>
      (some error, (afterException S engine clock request candidate error.message
        { progress with store := s }).2)
  | .done s =>
      match ({ progress with store := s }).record S
          (routeEvent request candidate progress.attempts none .success) with
      | .raised error progress =>
          (some error,
            (afterException S engine clock request candidate error.message progress).2)
      | .done progress =>
          (none, .stop
            (.finished
              { success := true
                virtualModel := request.virtualModel
                candidate := candidate
                attempts := progress.attempts
                fallbackCount := progress.fallbackCount
                events := progress.events }
              (some value))
            progress)

/-- A failure after the stream was committed ends the run. -/
def afterCommittedFailure (candidate : RouteCandidate) (failure : CandidateFailure)
    (progress : Progress σ) : Option StoreError × NextStep σ ρ :=
  match progress.record S (routeEvent request candidate progress.attempts
      (some failure.errorClass) .stopCommittedStream) with
  | .raised error progress => (some error, .stop (.storeError error) progress)
  | .done progress =>
      (none, .stop
        (.finished
          { success := false
            virtualModel := request.virtualModel
            candidate := candidate
            attempts := progress.attempts
            fallbackCount := progress.fallbackCount
            events := progress.events
            errorClass := some failure.errorClass
            partialStreamFailure := true }
          none)
        progress)

/-- The route's candidate limit, when it has one, is used up. -/
def candidateLimitReached (policy : RetryPolicy) (fallbackCount : Nat) : Bool :=
  match policy.routeCandidateLimit with
  | none => false
  | some limit => decide (limit ≤ fallbackCount)

/-- What a recorded failure leads to: a retry, the end of the run when the
candidate limit is reached, or the next candidate. -/
def afterAction (action : FallbackAction) (progress : Progress σ) : NextStep σ ρ :=
  match action with
  | .retrySameCandidate => .retry progress
  | _ =>
      let progress := { progress with fallbackCount := progress.fallbackCount + 1 }
      if candidateLimitReached engine.policy progress.fallbackCount then
        .stop (.noEligible ⟨request.virtualModel, progress.attempts, progress.lastError⟩) progress
      else
        .next progress

/-- A candidate failure before commit. -/
def afterFailure (candidate : RouteCandidate) (failure : CandidateFailure) (retries : Nat)
    (progress : Progress σ) : Option StoreError × NextStep σ ρ :=
  match applyFailure S engine (clock.settle progress.attempts) candidate failure
      progress.store with
  | .raised error s => (some error, .stop (.storeError error) { progress with store := s })
  | .done s =>
      let action := nextAction failure.errorClass retries engine.policy
      match ({ progress with store := s }).record S (routeEvent request candidate
          progress.attempts (some failure.errorClass) (actionOf action)) with
      | .raised error progress => (some error, .stop (.storeError error) progress)
      | .done progress =>
          (none, afterAction engine request action
            { progress with lastError := some failure.errorClass })

/-- The bookkeeping after one call, by how the call ended. -/
def settleCall (candidate : RouteCandidate) (retries : Nat) (outcome : AttemptOutcome ρ)
    (progress : Progress σ) : Option StoreError × NextStep σ ρ :=
  match outcome with
  | .returned value => afterReturn S engine clock request candidate value progress
  | .failed failure =>
      if failure.committed then afterCommittedFailure S request candidate failure progress
      else afterFailure S engine clock request candidate failure retries progress
  | .raised text => afterException S engine clock request candidate text progress

/-! ## The loops -/

variable (attemptFn : AttemptFn σ ρ)

/-- One call and its bookkeeping, with its log. -/
def oneCall (candidate : RouteCandidate) (retries : Nat) (progress : Progress σ) :
    NextStep σ ρ × AttemptLog σ ρ :=
  let number := progress.attempts + 1
  let call := attemptFn number candidate progress.store
  let settled := settleCall S engine clock request candidate retries call.1
    { progress with store := call.2, attempts := number }
  (settled.2,
    { number := number
      started := progress.store
      outcome := call.1
      returned := call.2
      settled := settled.2.progress.store
      storeError := settled.1 })

/-- The retry loop on one candidate. `budget` is what the ceiling leaves:
`attempts >= hard_attempt_ceiling` exactly when it is zero. -/
def attemptCandidate (candidate : RouteCandidate) :
    (budget retries : Nat) → Progress σ → NextStep σ ρ × List (AttemptLog σ ρ)
  | 0, _, progress =>
      (.stop (.hardCeiling ⟨engine.policy.hardAttemptCeiling, request.virtualModel⟩) progress, [])
  | budget + 1, retries, progress =>
      let call := oneCall S engine clock request attemptFn candidate retries progress
      match call.1 with
      | .retry progress =>
          let later := attemptCandidate candidate budget (retries + 1) progress
          (later.1, call.2 :: later.2)
      | other => (other, [call.2])

/-- The attempts the ceiling still allows. -/
def attemptBudget (attempts : Nat) : Nat := engine.policy.hardAttemptCeiling.toNat - attempts

theorem attemptBudget_eq_zero_iff (attempts : Nat) :
    attemptBudget engine attempts = 0 ↔ engine.policy.hardAttemptCeiling ≤ attempts := by
  unfold attemptBudget
  omega

/-- The position is attempted when its turn comes. -/
def attemptable (now : Instant) (s : σ) (sc : ScoredCandidate) : Bool :=
  sc.usable && eligible S now s sc.candidate

/-- The loop over the scored list from one position on. -/
def runFrom : List ScoredCandidate → (position : Nat) → Progress σ → RunLog σ ρ
  | [], _, progress =>
      { turns := []
        ending := .noEligible ⟨request.virtualModel, progress.attempts, progress.lastError⟩
        store := progress.store }
  | sc :: rest, position, progress =>
      if attemptable S (clock.check position) progress.store sc then
        let attempted := attemptCandidate S engine clock request attemptFn sc.candidate
          (attemptBudget engine progress.attempts) 0 progress
        let turn : Turn σ ρ := ⟨position, sc, progress.store, attempted.2⟩
        match attempted.1 with
        | .stop ending progress => ⟨[turn], ending, progress.store⟩
        | .retry progress | .next progress =>
            let later := runFrom rest (position + 1) progress
            { later with turns := turn :: later.turns }
      else
        let later := runFrom rest (position + 1) progress
        { later with turns := ⟨position, sc, progress.store, []⟩ :: later.turns }

/-- `FallbackEngine.run`. -/
def run (scored : List ScoredCandidate) (start : σ) : RunLog σ ρ :=
  runFrom S engine clock request attemptFn scored 0 { store := start }

/-! ## What the log records -/

/-- The log of a call made after `retries` retries: what `attempt_fn` answered,
and what the bookkeeping made of it. -/
structure Logged (candidate : RouteCandidate) (retries : Nat) (call : AttemptLog σ ρ) : Prop where
  answered : attemptFn call.number candidate call.started = (call.outcome, call.returned)
  settled : ∃ progress step, progress.store = call.returned ∧ progress.attempts = call.number ∧
    settleCall S engine clock request candidate retries call.outcome progress =
      (call.storeError, step) ∧ call.settled = step.progress.store

variable {S engine clock request attemptFn}

theorem oneCall_logged (S : StateStore σ) (engine : FallbackEngine) (clock : Clock)
    (request : RequestInfo) (attemptFn : AttemptFn σ ρ) (candidate : RouteCandidate)
    (retries : Nat) (progress : Progress σ) :
    Logged S engine clock request attemptFn candidate retries
      (oneCall S engine clock request attemptFn candidate retries progress).2 :=
  ⟨rfl, _, _, rfl, rfl, rfl, rfl⟩

theorem attemptCandidate_logged {candidate : RouteCandidate} (budget retries : Nat)
    (progress : Progress σ) {earlier later : List (AttemptLog σ ρ)} {call : AttemptLog σ ρ}
    (split : (attemptCandidate S engine clock request attemptFn candidate budget retries
      progress).2 = earlier ++ call :: later) :
    Logged S engine clock request attemptFn candidate (retries + earlier.length) call := by
  induction budget generalizing retries progress earlier with
  | zero =>
      rw [attemptCandidate] at split
      simp at split
  | succ budget inductionHypothesis =>
      have logged := oneCall_logged S engine clock request attemptFn candidate retries progress
      simp only [attemptCandidate] at split
      generalize oneCall S engine clock request attemptFn candidate retries progress = made
        at logged split
      obtain ⟨step, log⟩ := made
      cases earlier with
      | nil =>
          have head : log = call := by
            cases step <;> exact (List.cons.inj split).1
          exact head ▸ logged
      | cons first earlier =>
          cases step with
          | retry progress' =>
              have tail := inductionHypothesis (retries + 1) progress' (List.cons.inj split).2
              rw [List.length_cons, show retries + (earlier.length + 1) =
                retries + 1 + earlier.length by omega]
              exact tail
          | next progress' => exact absurd (List.cons.inj split).2 (by simp)
          | stop ending progress' => exact absurd (List.cons.inj split).2 (by simp)

/-- Every call of a run is logged with the retries made before it in its turn. -/
theorem runFrom_logged (scored : List ScoredCandidate) (position : Nat) (progress : Progress σ)
    {turn : Turn σ ρ}
    (member : turn ∈ (runFrom S engine clock request attemptFn scored position progress).turns)
    {earlier later : List (AttemptLog σ ρ)} {call : AttemptLog σ ρ}
    (split : turn.attempts = earlier ++ call :: later) :
    Logged S engine clock request attemptFn turn.scored.candidate earlier.length call := by
  induction scored generalizing position progress with
  | nil => cases member
  | cons sc rest inductionHypothesis =>
      by_cases ready : attemptable S (clock.check position) progress.store sc = true
      · simp only [runFrom, ready, if_true] at member
        have own : ∀ turn : Turn σ ρ,
            turn = ⟨position, sc, progress.store, (attemptCandidate S engine clock request
              attemptFn sc.candidate (attemptBudget engine progress.attempts) 0 progress).2⟩ →
            turn.attempts = earlier ++ call :: later →
            Logged S engine clock request attemptFn turn.scored.candidate earlier.length call := by
          intro turn same attempts
          subst same
          have logged := attemptCandidate_logged _ _ _ attempts
          rwa [Nat.zero_add] at logged
        cases step : (attemptCandidate S engine clock request attemptFn sc.candidate
          (attemptBudget engine progress.attempts) 0 progress).1 with
        | stop ending progress' =>
            simp only [step] at member
            exact own turn (List.mem_singleton.mp member) split
        | retry progress' =>
            simp only [step] at member
            rcases List.mem_cons.mp member with same | later
            · exact own turn same split
            · exact inductionHypothesis _ _ later
        | next progress' =>
            simp only [step] at member
            rcases List.mem_cons.mp member with same | later
            · exact own turn same split
            · exact inductionHypothesis _ _ later
      · simp only [runFrom, ready, if_false, Bool.false_eq_true] at member
        rcases List.mem_cons.mp member with same | later
        · rw [same] at split
          simp at split
        · exact inductionHypothesis _ _ later

variable (S engine clock request attemptFn) in
/-- The calls on one candidate hand the store on. -/
theorem attemptCandidate_handed (candidate : RouteCandidate) (budget retries : Nat)
    (progress : Progress σ) :
    Handed AttemptLog.started AttemptLog.settled progress.store
      (attemptCandidate S engine clock request attemptFn candidate budget retries progress).2
      (attemptCandidate S engine clock request attemptFn candidate budget retries
        progress).1.progress.store := by
  induction budget generalizing retries progress with
  | zero => rfl
  | succ budget inductionHypothesis =>
      have started : (oneCall S engine clock request attemptFn candidate retries
          progress).2.started = progress.store := rfl
      have settled : (oneCall S engine clock request attemptFn candidate retries
          progress).2.settled = (oneCall S engine clock request attemptFn candidate retries
            progress).1.progress.store := rfl
      simp only [attemptCandidate]
      generalize oneCall S engine clock request attemptFn candidate retries progress = made
        at started settled ⊢
      obtain ⟨step, call⟩ := made
      cases step with
      | retry progress' =>
          refine ⟨started, ?_⟩
          rw [settled]
          exact inductionHypothesis (retries + 1) progress'
      | next progress' => exact ⟨started, settled.symm⟩
      | stop ending progress' => exact ⟨started, settled.symm⟩

variable (S engine clock request attemptFn) in
/-- The log tells of a run that was really made from `start` on: every call was
answered by `attempt_fn` and followed by the bookkeeping, and every turn and
every call found the store that was left before it. -/
structure Performed (start : σ) (log : RunLog σ ρ) : Prop where
  logged : ∀ turn ∈ log.turns, ∀ earlier call later, turn.attempts = earlier ++ call :: later →
    Logged S engine clock request attemptFn turn.scored.candidate earlier.length call
  calls : ∀ turn ∈ log.turns,
    Handed AttemptLog.started AttemptLog.settled turn.store turn.attempts turn.left
  turns : Handed Turn.store Turn.left start log.turns log.store

theorem runFrom_calls_handed (scored : List ScoredCandidate) (position : Nat)
    (progress : Progress σ) {turn : Turn σ ρ}
    (member : turn ∈ (runFrom S engine clock request attemptFn scored position
      progress).turns) :
    Handed AttemptLog.started AttemptLog.settled turn.store turn.attempts turn.left := by
  induction scored generalizing position progress with
  | nil => cases member
  | cons sc rest inductionHypothesis =>
      by_cases ready : attemptable S (clock.check position) progress.store sc = true
      · have handed := attemptCandidate_handed S engine clock request attemptFn sc.candidate
          (attemptBudget engine progress.attempts) 0 progress
        simp only [runFrom, ready, if_true] at member
        generalize attemptCandidate S engine clock request attemptFn sc.candidate
          (attemptBudget engine progress.attempts) 0 progress = attempted at handed member
        obtain ⟨step, calls⟩ := attempted
        have own : ∀ turn : Turn σ ρ, turn = ⟨position, sc, progress.store, calls⟩ →
            Handed AttemptLog.started AttemptLog.settled turn.store turn.attempts turn.left := by
          rintro turn rfl
          rw [handed.final_eq] at handed
          exact handed
        cases step with
        | stop ending progress' => exact own turn (List.mem_singleton.mp member)
        | retry progress' =>
            rcases List.mem_cons.mp member with same | later
            · exact own turn same
            · exact inductionHypothesis _ _ later
        | next progress' =>
            rcases List.mem_cons.mp member with same | later
            · exact own turn same
            · exact inductionHypothesis _ _ later
      · simp only [runFrom, ready, if_false, Bool.false_eq_true] at member
        rcases List.mem_cons.mp member with same | later
        · subst same
          rfl
        · exact inductionHypothesis _ _ later

theorem runFrom_turns_handed (scored : List ScoredCandidate) (position : Nat)
    (progress : Progress σ) :
    Handed Turn.store Turn.left progress.store
      (runFrom S engine clock request attemptFn scored position progress).turns
      (runFrom S engine clock request attemptFn scored position progress).store := by
  induction scored generalizing position progress with
  | nil => rfl
  | cons sc rest inductionHypothesis =>
      by_cases ready : attemptable S (clock.check position) progress.store sc = true
      · have left := (attemptCandidate_handed S engine clock request attemptFn sc.candidate
          (attemptBudget engine progress.attempts) 0 progress).final_eq
        simp only [runFrom, ready, if_true]
        generalize attemptCandidate S engine clock request attemptFn sc.candidate
          (attemptBudget engine progress.attempts) 0 progress = attempted at left ⊢
        obtain ⟨step, calls⟩ := attempted
        have isLeft : Turn.left ⟨position, sc, progress.store, calls⟩ = step.progress.store :=
          left.symm
        cases step with
        | stop ending progress' => exact ⟨rfl, isLeft.symm⟩
        | retry progress' => exact ⟨rfl, isLeft ▸ inductionHypothesis (position + 1) progress'⟩
        | next progress' => exact ⟨rfl, isLeft ▸ inductionHypothesis (position + 1) progress'⟩
      · simp only [runFrom, ready, if_false, Bool.false_eq_true]
        exact ⟨rfl, inductionHypothesis (position + 1) progress⟩

theorem run_performed (scored : List ScoredCandidate) (start : σ) :
    Performed S engine clock request attemptFn start
      (run S engine clock request attemptFn scored start) where
  logged := by
    intro turn member earlier call later split
    exact runFrom_logged _ _ _ member split
  calls := fun _ member => runFrom_calls_handed _ _ _ member
  turns := runFrom_turns_handed scored 0 { store := start }

end Run

end AutoRouteGateway.Routing

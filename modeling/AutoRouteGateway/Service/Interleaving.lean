import AutoRouteGateway.Routing.BlastRadius
import AutoRouteGateway.Service.Awaiting
import AutoRouteGateway.Service.StreamFallback

/-!
Contract: requests interleaved on one store.

Every first attempt on a candidate, of a run or of a stream, follows its
eligibility check without an await in between. A retry of the same candidate
follows no check.

Owns: what one request may ask after each answer it gets, and the exact
condition under which every attempt of every interleaving starts on an eligible
candidate.
-/

namespace AutoRouteGateway.Service

open AutoRouteGateway.Domain
open AutoRouteGateway.Library
open AutoRouteGateway.Library.Coroutine
open AutoRouteGateway.Policy
open AutoRouteGateway.Routing
open AutoRouteGateway.Runtime
open AutoRouteGateway.State

/-- An attempt starts in a store in which its candidate is eligible. -/
def StartsEligible {σ : Type} (S : StateStore σ) (question : Question) (s : σ) : Prop :=
  match question with
  | .call _ _ candidate now => eligible S now s candidate = true
  | .contact _ candidate _ now => eligible S now s candidate = true
  | _ => True

/-- A call comes back with a failure that the same candidate is retried after,
to a store in which that candidate is no longer eligible. -/
def CallLost {σ ρ : Type} (S : StateStore σ) (engine : FallbackEngine) (clock : Clock)
    (number retries : Nat) (candidate : RouteCandidate) (outcome : AttemptOutcome ρ) (s : σ) :
    Prop :=
  ∃ failure, outcome = .failed failure ∧ failure.committed = false ∧
    nextAction failure.errorClass retries engine.policy = .retrySameCandidate ∧
      (number : Int) < engine.policy.hardAttemptCeiling ∧
        eligible S (clock.settle number) s candidate = false

/-- The answer of a call that is not lost, or of anything else. -/
def KeepsRetry {σ ρ : Type} (S : StateStore σ) (engine : FallbackEngine) (clock : Clock) :
    (question : Question) → question.Answer ρ → σ → Prop
  | .call number retries candidate _, outcome, s =>
      ¬ CallLost S engine clock number retries candidate outcome s
  | _, _, _ => True

/-! ## The bookkeeping of one call -/

section Settle

variable {ρ : Type} {kind : StoreKind} {engine : FallbackEngine} {clock : Clock}
  {request : RequestInfo} {candidate : RouteCandidate}

/-- Recording an event changes no eligibility. -/
theorem eligible_recordRouteEvent (event : RouteEvent) (s : kind.Contents) (now : Instant)
    (candidate : RouteCandidate) :
    eligible kind.store now (kind.store.recordRouteEvent event s).state candidate =
      eligible kind.store now s candidate := by
  apply eligible_congr kind.scopedStore
  rw [kind.scopedStore.record_board]

theorem afterException_ne_retry {text : String} {progress left : Progress kind.Contents} :
    (afterException (ρ := ρ) kind.store engine clock request candidate text progress).2 ≠
      .retry left := by
  simp only [afterException]
  split
  · simp
  · split <;> simp

/-- A failure that asks for a retry gets one, with the eligibility unchanged. -/
theorem settleCall_retry (clock : Clock) (request : RequestInfo) (candidate : RouteCandidate)
    {retries : Nat} {failure : CandidateFailure} (progress : Progress kind.Contents)
    (uncommitted : failure.committed = false)
    (action : nextAction failure.errorClass retries engine.policy = .retrySameCandidate) :
    ∃ left : Progress kind.Contents,
      (settleCall (ρ := ρ) kind.store engine clock request candidate retries (.failed failure)
        progress).2 = .retry left ∧
        left.attempts = progress.attempts ∧
          ∀ now, eligible kind.store now left.store candidate =
            eligible kind.store now progress.store candidate := by
  have tokenLimit := (nextAction_eq_retry_iff.mp action).1
  have applied : applyFailure kind.store engine (clock.settle progress.attempts) candidate failure
      progress.store = .done progress.store := by
    rw [applyFailure, tokenLimit]
  have unchanged := eligible_recordRouteEvent (routeEvent request candidate progress.attempts
    (some failure.errorClass) (actionOf .retrySameCandidate)) progress.store
  obtain ⟨s, recorded⟩ := recordRouteEvent_done kind (routeEvent request candidate
    progress.attempts (some failure.errorClass) (actionOf .retrySameCandidate)) progress.store
  rw [recorded, StoreResult.state_done] at unchanged
  simp only [settleCall, uncommitted, Bool.false_eq_true, if_false, afterFailure, applied, action,
    Progress.record, recorded]
  exact ⟨_, rfl, rfl, fun now => unchanged now candidate⟩

/-- Only such a failure leads to a retry. -/
theorem failed_of_settleCall_retry {retries : Nat} {outcome : AttemptOutcome ρ}
    {progress left : Progress kind.Contents}
    (retried : (settleCall kind.store engine clock request candidate retries outcome
      progress).2 = .retry left) :
    ∃ failure, outcome = .failed failure ∧ failure.committed = false ∧
      nextAction failure.errorClass retries engine.policy = .retrySameCandidate := by
  cases outcome with
  | raised text => exact absurd retried afterException_ne_retry
  | returned value =>
      simp only [settleCall, afterReturn] at retried
      split at retried
      · exact absurd retried afterException_ne_retry
      · split at retried
        · exact absurd retried afterException_ne_retry
        · cases retried
  | failed failure =>
      simp only [settleCall] at retried
      split at retried
      · simp only [afterCommittedFailure] at retried
        split at retried <;> cases retried
      · rename_i uncommitted
        refine ⟨failure, rfl, by simpa using uncommitted, ?_⟩
        simp only [afterFailure] at retried
        split at retried
        · cases retried
        · split at retried
          · cases retried
          · cases action : nextAction failure.errorClass retries engine.policy with
            | retrySameCandidate => rfl
            | nextCandidate =>
                simp only [action, afterAction] at retried
                split at retried <;> cases retried
            | stop =>
                simp only [action, afterAction] at retried
                split at retried <;> cases retried

theorem callLost_failed_iff {S : StateStore kind.Contents} {number retries : Nat}
    {failure : CandidateFailure} {s : kind.Contents}
    (uncommitted : failure.committed = false)
    (action : nextAction failure.errorClass retries engine.policy = .retrySameCandidate) :
    CallLost (ρ := ρ) S engine clock number retries candidate (.failed failure) s ↔
      (number : Int) < engine.policy.hardAttemptCeiling ∧
        eligible S (clock.settle number) s candidate = false := by
  constructor
  · rintro ⟨own, isOwn, -, -, below, lost⟩
    exact ⟨below, lost⟩
  · rintro ⟨below, lost⟩
    exact ⟨failure, rfl, uncommitted, action, below, lost⟩

theorem not_callLost_of_settled {number retries : Nat}
    {outcome : AttemptOutcome ρ} {progress : Progress kind.Contents} {s : kind.Contents}
    {step : NextStep kind.Contents ρ}
    (settled : (settleCall kind.store engine clock request candidate retries outcome
      progress).2 = step)
    (noRetry : ∀ left, step ≠ .retry left) :
    ¬ CallLost kind.store engine clock number retries candidate outcome s := by
  rintro ⟨failure, rfl, uncommitted, action, -, -⟩
  obtain ⟨left, retried, -⟩ := settleCall_retry clock request candidate progress uncommitted action
  exact noRetry left (settled.symm.trans retried)

end Settle

/-! ## One request -/

section OneRequest

variable {ρ : Type} (kind : StoreKind) (engine : FallbackEngine) (service : GatewayService)
  (clock : Clock) (request : RequestInfo)

/-- A segment that ends with a good question, if with one, and goes on well. -/
structure Proceeds (segment : RequestSegment kind.Contents ρ) : Prop where
  asks : segment.2.Asks (StartsEligible kind.store) segment.1
  meets : segment.2.Meets (StartsEligible kind.store) (KeepsRetry kind.store engine clock)

theorem Proceeds.done (s : kind.Contents) (ending : RequestEnd ρ) :
    Proceeds kind engine clock (s, .done ending) := ⟨trivial, trivial⟩

theorem attemptBudget_succ {attempts budget : Nat}
    (isBudget : budget + 1 = attemptBudget engine attempts) :
    budget = attemptBudget engine (attempts + 1) := by
  unfold attemptBudget at isBudget ⊢
  omega

theorem asks_attemptOn {candidate : RouteCandidate}
    {proceed : Progress kind.Contents → RequestSegment kind.Contents ρ} (budget retries : Nat)
    (now : Instant) (progress : Progress kind.Contents) :
    (attemptOn kind.store engine clock request candidate proceed budget retries now
        progress).2.Asks (StartsEligible kind.store)
        (attemptOn kind.store engine clock request candidate proceed budget retries now
          progress).1 ↔
      budget = 0 ∨ eligible kind.store now progress.store candidate = true := by
  cases budget with
  | zero => exact iff_of_true trivial (Or.inl rfl)
  | succ budget =>
      rw [attemptOn, asks_pause, StartsEligible]
      simp

/-- The retry loop: by induction on the budget, which says whether the ceiling
leaves an attempt for a retry. -/
theorem meets_attemptOn {candidate : RouteCandidate}
    {proceed : Progress kind.Contents → RequestSegment kind.Contents ρ}
    (proceeds : ∀ progress, Proceeds kind engine clock (proceed progress))
    (budget retries : Nat) (now : Instant) (progress : Progress kind.Contents)
    (isBudget : budget = attemptBudget engine progress.attempts) :
    (attemptOn kind.store engine clock request candidate proceed budget retries now
      progress).2.Meets (StartsEligible kind.store) (KeepsRetry kind.store engine clock) := by
  induction budget generalizing retries now progress with
  | zero => trivial
  | succ budget inductionHypothesis =>
      refine meets_pause.mpr ?_
      intro outcome s
      have budgetLeft := attemptBudget_succ engine isBudget
      have isZero := attemptBudget_eq_zero_iff engine (progress.attempts + 1)
      rw [← budgetLeft] at isZero
      change AttemptOutcome ρ at outcome
      let returned : Progress kind.Contents :=
        { progress with store := s, attempts := progress.attempts + 1 }
      let goOn : NextStep kind.Contents ρ → RequestSegment kind.Contents ρ := callEnd
        (fun left => attemptOn kind.store engine clock request candidate proceed budget
          (retries + 1) (clock.settle left.attempts) left)
        proceed
      let step := (settleCall kind.store engine clock request candidate retries outcome returned).2
      change ((goOn step).2.Asks (StartsEligible kind.store) (goOn step).1 ↔
          ¬ CallLost kind.store engine clock (progress.attempts + 1) retries candidate outcome s) ∧
        (goOn step).2.Meets (StartsEligible kind.store) (KeepsRetry kind.store engine clock)
      cases settled : step with
      | retry left =>
          obtain ⟨failure, rfl, uncommitted, action⟩ := failed_of_settleCall_retry settled
          obtain ⟨left', same, attempts, unchanged⟩ := settleCall_retry clock request candidate
            returned uncommitted action
          cases settled.symm.trans same
          refine ⟨?_, inductionHypothesis _ _ _ (attempts ▸ budgetLeft)⟩
          refine Iff.trans (asks_attemptOn kind engine clock request _ _ _ _) ?_
          rw [unchanged, attempts, callLost_failed_iff uncommitted action, isZero, not_and_or,
            Int.not_lt, Bool.not_eq_false]
      | next left =>
          refine ⟨iff_of_true (proceeds left).asks ?_, (proceeds left).meets⟩
          exact not_callLost_of_settled settled (by simp)
      | stop ending left =>
          refine ⟨iff_of_true trivial ?_, trivial⟩
          exact not_callLost_of_settled settled (by simp)

/-- The loop over the scored list: the check of a position and the start of its
first attempt are one segment. -/
theorem proceeds_runOver (scored : List ScoredCandidate) (position : Nat)
    (progress : Progress kind.Contents) :
    Proceeds (ρ := ρ) kind engine clock
      (runOver kind.store engine clock request scored position progress) := by
  induction scored generalizing position progress with
  | nil => exact Proceeds.done kind engine clock _ _
  | cons sc rest inductionHypothesis =>
      rw [runOver]
      split
      · rename_i ready
        have isEligible := (Bool.and_eq_true _ _ ▸ ready).2
        have later := inductionHypothesis (position + 1)
        exact ⟨(asks_attemptOn kind engine clock request _ _ _ _).mpr (Or.inr isEligible),
          meets_attemptOn kind engine clock request later _ _ _ _ rfl⟩
      · exact inductionHypothesis (position + 1) progress

/-- A delivery attempts nothing. -/
theorem proceeds_deliverOn (handle : StreamHandle) (events : List (Bool × Event))
    (committed : Bool) (s : kind.Contents) :
    Proceeds (ρ := ρ) kind engine clock
      (deliverOn kind.store request handle events committed s) := by
  induction events generalizing committed s with
  | nil =>
      rw [deliverOn]
      cases handle.ending with
      | none => exact Proceeds.done kind engine clock _ _
      | some exception => exact Proceeds.done kind engine clock _ _
  | cons item rest inductionHypothesis =>
      obtain ⟨replayed, event⟩ := item
      rw [deliverOn]
      split
      · exact Proceeds.done kind engine clock _ _
      · rename_i committed' _
        split
        · exact Proceeds.done kind engine clock _ _
        · refine ⟨trivial, meets_pause.mpr ?_⟩
          intro answer s'
          have later := inductionHypothesis committed' s'
          exact ⟨iff_of_true later.asks trivial, later.meets⟩

theorem proceeds_contactEnd (attempt : Nat) (candidate : RouteCandidate)
    {proceed : kind.Contents → RequestSegment kind.Contents ρ}
    (proceeds : ∀ s, Proceeds kind engine clock (proceed s)) (stream : UpstreamStream)
    (s : kind.Contents) :
    Proceeds kind engine clock
      (contactEnd kind.store engine clock request attempt candidate proceed stream s) := by
  simp only [contactEnd]
  split
  · exact Proceeds.done kind engine clock _ _
  · split
    · exact proceeds_deliverOn kind engine clock request _ _ _ _
    · exact proceeds _

/-- The selection loop: every contact follows its check. -/
theorem proceeds_selectOver (scored : List ScoredCandidate) (position attempts : Nat)
    (s : kind.Contents) :
    Proceeds (ρ := ρ) kind engine clock
      (selectOver kind.store engine service clock request scored position attempts s) := by
  induction scored generalizing position attempts s with
  | nil => exact Proceeds.done kind engine clock _ _
  | cons sc rest inductionHypothesis =>
      rw [selectOver]
      split
      · rename_i ready
        have isEligible := (Bool.and_eq_true _ _ ▸ ready).2
        split
        · exact Proceeds.done kind engine clock _ _
        · split
          · exact Proceeds.done kind engine clock _ _
          · refine ⟨isEligible, meets_pause.mpr ?_⟩
            intro stream s'
            have later := proceeds_contactEnd kind engine clock request (attempts + 1) sc.candidate
              (inductionHypothesis (position + 1) (attempts + 1)) stream s'
            exact ⟨iff_of_true later.asks trivial, later.meets⟩
      · exact inductionHypothesis (position + 1) attempts s

theorem meets_coroutine (request : Request kind.Contents) :
    (request.coroutine (ρ := ρ) kind.store engine service).Meets (StartsEligible kind.store)
      (KeepsRetry kind.store engine request.clock) := by
  refine meets_pause.mpr ?_
  intro answer s
  have starts : Proceeds (ρ := ρ) kind engine request.clock
      (request.start kind.store engine service s) := by
    rw [Request.start]
    split
    · exact Proceeds.done kind engine request.clock _ _
    · split
      · exact proceeds_runOver kind engine request.clock request.info _ _ _
      · exact proceeds_selectOver kind engine service request.clock request.info _ _ _ _
  exact ⟨iff_of_true starts.asks trivial, starts.meets⟩

end OneRequest

/-! ## Requests on one store -/

/-- What is eligible stays so while the store does, as time passes. -/
theorem eligible_later {σ : Type} {S : StateStore σ} {now later : Instant} {s : σ}
    {candidate : RouteCandidate} (isEligible : eligible S now s candidate = true)
    (passed : now ≤ later) : eligible S later s candidate = true := by
  simp only [eligible] at isEligible ⊢
  split_ifs at isEligible ⊢
  split at isEligible
  · have before := of_decide_eq_true isEligible
    exact decide_eq_true (Int.le_trans before passed)
  · rfl

section Interleaved

variable {ρ : Type} (kind : StoreKind) (engine : FallbackEngine) (service : GatewayService)
  {ι : Type}

/-- Any number of requests on one store, none of them started. -/
def requestPool (requests : ι → Request kind.Contents) (start : kind.Contents) :
    Pool ι kind.Contents Question (Question.Answer ρ) (RequestEnd ρ) where
  state := start
  threads := fun i => (requests i).coroutine kind.store engine service

variable [DecidableEq ι]

/-- Whatever the requests are, whatever their attempts answer and in whatever
order they move: every attempt, first or retried, of a run or of a stream,
starts in a store in which its candidate is eligible, exactly when no call comes
back with a failure to be retried to a store in which its candidate is not
eligible any more. -/
theorem attempts_start_eligible_iff (requests : ι → Request kind.Contents)
    (start : kind.Contents) (schedule : List (Move ι Question (Question.Answer ρ))) :
    (requestPool kind engine service requests start).Along
        (Pool.MovedWell fun _ => StartsEligible kind.store) schedule ↔
      (requestPool kind engine service requests start).Along
        (Pool.Allows fun i => KeepsRetry kind.store engine (requests i).clock) schedule :=
  Pool.along_movedWell_iff (fun i => meets_coroutine kind engine service (requests i)) schedule

end Interleaved

/-- A chat request to the service with one key. -/
def keyedRequest : Request InMemoryStateStore where
  entry := .run
  info := ⟨"r", "v"⟩
  clock := ⟨fun _ => 0, fun _ => 0⟩
  scored := fun s =>
    (scoredCandidates InMemoryStateStore.store (keyedService "s") "v" [] 0 s).1

/-- One answer for whatever call is waited for. -/
def calledBack (outcome : AttemptOutcome Dict) : (question : Question) → question.Answer Dict
  | .arrival => ()
  | .call _ _ _ _ => outcome
  | .contact _ _ _ _ => ⟨[], none⟩
  | .yielded _ _ => ()

/-- Both requests call the one key; the second one is told that the key is bad,
and after that the first one that its context is too long. -/
def crossedCalls : List (Move Bool Question (Question.Answer Dict)) :=
  [⟨false, calledBack (.returned [])⟩, ⟨true, calledBack (.returned [])⟩,
    ⟨true, calledBack (.failed { errorClass := .auth })⟩,
    ⟨false, calledBack (.failed { errorClass := .tokenLimit })⟩]

/-- The first request calls the key again, which has an authentication error by then. -/
theorem bad_key_called_again :
    ¬ (requestPool .inMemory {} (keyedService "s") (fun _ => keyedRequest) .empty).Along
        (Pool.MovedWell fun _ : Bool => StartsEligible StoreKind.inMemory.store) crossedCalls ∧
      StoreKind.inMemory.store.getCredential
        ((requestPool .inMemory {} (keyedService "s") (fun _ => keyedRequest) .empty).run
          crossedCalls).state ⟨"p", some "k", some "m"⟩ = .authError := by
  constructor
  · intro along
    have last := along (crossedCalls.take 3) _ [] rfl
    exact absurd (show false = true from last) (by decide)
  · rfl

end AutoRouteGateway.Service

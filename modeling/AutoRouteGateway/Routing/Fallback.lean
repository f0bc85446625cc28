import AutoRouteGateway.Domain.Candidate
import AutoRouteGateway.Policy.RetryPolicy
import AutoRouteGateway.State.Store

/-!
Owns the fallback engine's settings and its three store operations: the
eligibility check, and the state writes after a failure and after a success.

Does not own: the attempt loop, which is `Routing.Run`.
-/

namespace AutoRouteGateway.Routing

open AutoRouteGateway.Domain
open AutoRouteGateway.Policy
open AutoRouteGateway.State

/-- A classified candidate failure. -/
structure CandidateFailure where
  errorClass : ErrorClass
  status : Option Int := none
  message : String := ""
  /-- The failure happened after a downstream chunk was sent. -/
  committed : Bool := false
  retryAfterSeconds : Option Duration := none
deriving DecidableEq, Repr

structure FallbackEngine where
  policy : RetryPolicy := {}
  rateLimitCooldown : Duration := 60 * second
  networkCooldown : Duration := 30 * second
  serverCooldown : Duration := 30 * second
deriving DecidableEq, Repr

/-- The full scope of a candidate. -/
def subject (candidate : RouteCandidate) : StateSubject where
  providerId := candidate.providerId
  credentialId := candidate.credentialId
  concreteModel := some candidate.concreteModel.modelId

def providerSubject (candidate : RouteCandidate) : StateSubject where
  providerId := candidate.providerId

def providerModelSubject (candidate : RouteCandidate) : StateSubject where
  providerId := candidate.providerId
  concreteModel := some candidate.concreteModel.modelId

def credentialSubject (candidate : RouteCandidate) : StateSubject where
  providerId := candidate.providerId
  credentialId := candidate.credentialId

/-- `message or default`. -/
def orDefault (message default : String) : String :=
  if message = "" then default else message

section Engine

variable {σ : Type}

def eligible (S : StateStore σ) (now : Instant) (s : σ) (candidate : RouteCandidate) : Bool :=
  let subj := subject candidate
  let health := S.getHealth s subj
  let quota := S.getQuota s subj
  let credential := S.getCredential s subj
  if health = .down then false
  else if quota = .exhausted then false
  else if credential = .disabled ∨ credential = .authError then false
  else
    match S.getCooldown s subj with
    | some cooldown => decide (cooldown ≤ now)
    | none => true

/-- `_now() + timedelta(seconds=seconds + extra)`. -/
def cooldown (now : Instant) (seconds extra : Duration) : Instant :=
  now + (seconds + extra)

/-- The write a failure prescribes; `token_limit` and `unknown` write nothing. -/
def applyFailure (S : StateStore σ) (engine : FallbackEngine) (now : Instant)
    (candidate : RouteCandidate) (failure : CandidateFailure) (s : σ) : StoreResult σ :=
  match failure.errorClass with
  | .auth =>
      S.setCredential (credentialSubject candidate) .authError
        (orDefault failure.message "auth") s
  | .quota =>
      S.setQuota (credentialSubject candidate) .exhausted
        (orDefault failure.message "quota exhausted") none s
  | .rateLimit =>
      S.setQuota (subject candidate) .rateLimited
        (orDefault failure.message "rate limit")
        (some (cooldown now engine.rateLimitCooldown (failure.retryAfterSeconds.getD 0))) s
  | .modelNotFound =>
      S.setHealth (providerModelSubject candidate) .down
        (orDefault failure.message "model not found") none s
  | .network =>
      S.setHealth (providerSubject candidate) .degraded
        (orDefault failure.message "network")
        (some (cooldown now engine.networkCooldown 0)) s
  | .server =>
      S.setHealth (providerSubject candidate) .degraded
        (orDefault failure.message "server")
        (some (cooldown now engine.serverCooldown 0)) s
  | .tokenLimit => .done s
  | .unknown => .done s

/-- A success is observed at provider and model scope. -/
def applySuccess (S : StateStore σ) (candidate : RouteCandidate) (s : σ) : StoreResult σ :=
  S.setHealth (providerModelSubject candidate) .healthy "success" none s

/-! ## Engine traffic -/

/-- One state-writing call of the engine. -/
inductive EngineCall where
  | succeeded (candidate : RouteCandidate)
  | failed (now : Instant) (candidate : RouteCandidate) (failure : CandidateFailure)

def EngineCall.run (S : StateStore σ) (engine : FallbackEngine) (s : σ) :
    EngineCall → StoreResult σ
  | .succeeded candidate => applySuccess S candidate s
  | .failed now candidate failure => applyFailure S engine now candidate failure s

/-- The state after a history of engine calls, oldest first. A call that raises
leaves the state its write left. -/
def stateAfter (S : StateStore σ) (engine : FallbackEngine) (calls : List EngineCall)
    (start : σ) : σ :=
  calls.foldl (fun s call => (call.run S engine s).state) start

@[simp] theorem stateAfter_append_singleton (S : StateStore σ) (engine : FallbackEngine)
    (calls : List EngineCall) (call : EngineCall) (start : σ) :
    stateAfter S engine (calls ++ [call]) start =
      (call.run S engine (stateAfter S engine calls start)).state := by
  simp [stateAfter]

end Engine

end AutoRouteGateway.Routing

import AutoRouteGateway.Service.Gateway

/-!
Owns the non-streaming entry: one call of `attempt`, and `chat`, which hands
the scored list to the fallback engine.
-/

namespace AutoRouteGateway.Service

open AutoRouteGateway.Domain
open AutoRouteGateway.Routing
open AutoRouteGateway.Runtime
open AutoRouteGateway.State

section Chat

variable {σ : Type} (S : StateStore σ) (engine : FallbackEngine) (service : GatewayService)
  (clock : Clock) (upstream : Upstream σ)

/-- Replace the model of a response, or add it. -/
def withModel (virtualModel : String) : Dict → Dict
  | [] => [("model", .str virtualModel)]
  | field :: rest =>
      if field.1 = "model" then ("model", .str virtualModel) :: rest
      else field :: withModel virtualModel rest

/-- `attempt` on an executor candidate. Only what `execute` raises is
classified; the rest reaches the engine as it is. -/
def attemptExecutor (number : Nat) (candidate : RouteCandidate) (s : σ) :
    AttemptOutcome Dict × σ :=
  if service.hasExecutor candidate = false then
    (.raised ("no executor for provider " ++ quoted candidate.providerId), s)
  else
    match upstream.execute number candidate s with
    | (.raised exception, s) => (.failed (candidateFailure exception), s)
    | (.refused message, s) => (.raised (message.getD "executor failed"), s)
    | (.unreadable text, s) => (.raised text, s)
    | (.completed response, s) => (.returned response, s)

/-- `attempt` on an api candidate: the adapter and the secret are looked up
outside its `try`. -/
def attemptApi (virtualModel : String) (number : Nat) (candidate : RouteCandidate) (s : σ) :
    AttemptOutcome Dict × σ :=
  if service.hasAdapter candidate = false then (.raised (quoted candidate.providerId), s)
  else
    match service.secret candidate with
    | .error error => (.raised error.text, s)
    | .ok secret =>
        match upstream.chatCompletions number candidate secret s with
        | (.raised exception, s) => (.failed (candidateFailure exception), s)
        | (.unreadable text, s) => (.raised text, s)
        | (.body fields, s) => (.returned (withModel virtualModel fields), s)

def chatAttempt (virtualModel : String) : AttemptFn σ Dict :=
  fun number candidate s =>
    match candidate.executorType with
    | .cli => attemptExecutor service upstream number candidate s
    | .api => attemptApi service upstream virtualModel number candidate s

/-- What `chat` returns or raises, the run of the engine if there was one, and
the store and the counter it leaves. -/
structure ChatResult (σ : Type) where
  result : Except ServiceError Dict
  run : Option (RunLog σ Dict)
  store : σ
  counter : Nat

/-- `holder["body"]` is the value of the last call that returned, which is the
one a successful run ends with. -/
def chatEnding : RunEnding Dict → Except ServiceError Dict
  | .finished _ (some body) => .ok body
  | .finished _ none => .error .noBody
  | .noEligible error => .error (.noEligible error)
  | .hardCeiling error => .error (.hardCeiling error)
  | .storeError error => .error (.store error)

def chat (requestId virtualModel : String) (payload : Dict) (counter : Nat) (start : σ) :
    ChatResult σ :=
  match scoredCandidates S service virtualModel payload counter start with
  | (.error error, counter) => ⟨.error error, none, start, counter⟩
  | (.ok scored, counter) =>
      let log := run S engine clock ⟨requestId, virtualModel⟩
        (chatAttempt service upstream virtualModel) scored start
      ⟨chatEnding log.ending, some log, log.store, counter⟩

/-- A call with a scored list is a run of the engine over it. -/
theorem chat_scored {S : StateStore σ} {service : GatewayService} (requestId : String)
    {virtualModel : String} {payload : Dict} {counter : Nat} {start : σ}
    {scored : List ScoredCandidate}
    (isScored : (scoredCandidates S service virtualModel payload counter start).1 = .ok scored) :
    ∃ log, log = run S engine clock ⟨requestId, virtualModel⟩
        (chatAttempt service upstream virtualModel) scored start ∧
      (chat S engine service clock upstream requestId virtualModel payload counter start).run =
        some log ∧
      (chat S engine service clock upstream requestId virtualModel payload counter
        start).result = chatEnding log.ending ∧
      (chat S engine service clock upstream requestId virtualModel payload counter
        start).store = log.store := by
  simp only [chat]
  split
  · rename_i failed
    rw [failed] at isScored
    cases isScored
  · rename_i found
    rw [found] at isScored
    cases isScored
    exact ⟨_, rfl, rfl, rfl, rfl⟩

/-- The run of a call is one over its scored list. -/
theorem run_of_chat {S : StateStore σ} {engine : FallbackEngine} {service : GatewayService}
    {clock : Clock} {upstream : Upstream σ} {requestId virtualModel : String} {payload : Dict}
    {counter : Nat} {start : σ} {log : RunLog σ Dict}
    (ran : (chat S engine service clock upstream requestId virtualModel payload counter
      start).run = some log) :
    ∃ scored, (scoredCandidates S service virtualModel payload counter start).1 = .ok scored ∧
      log = run S engine clock ⟨requestId, virtualModel⟩
        (chatAttempt service upstream virtualModel) scored start := by
  simp only [chat] at ran
  split at ran
  · cases ran
  · rename_i scored counter' found
    exact ⟨scored, by rw [found], (Option.some.inj ran).symm⟩

/-- An empty pool is raised as the engine raises it. -/
theorem chatEnding_eq_noEligible {ending : RunEnding Dict} {error : NoEligibleCandidateError}
    (raised : chatEnding ending = .error (.noEligible error)) : ending = .noEligible error := by
  cases ending with
  | finished result value => cases value <;> cases raised
  | noEligible own =>
      cases raised
      rfl
  | hardCeiling own => cases raised
  | storeError own => cases raised

end Chat

end AutoRouteGateway.Service

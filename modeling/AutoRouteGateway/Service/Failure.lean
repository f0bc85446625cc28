import AutoRouteGateway.Domain.Capability
import AutoRouteGateway.Policy.ErrorClassifier
import AutoRouteGateway.Routing.CandidateBuilder
import AutoRouteGateway.Routing.Run

/-!
Owns the exceptions that reach the service from upstream, their conversion to
candidate failures, and the exceptions that leave the service.
-/

namespace AutoRouteGateway.Service

open AutoRouteGateway.Domain
open AutoRouteGateway.Policy
open AutoRouteGateway.Routing
open AutoRouteGateway.Runtime
open AutoRouteGateway.State

/-- What an adapter or executor may raise: a non-2xx response, an adapter
error, or any other exception with its text. -/
inductive UpstreamException where
  | http (status : Int) (bodyText : String) (headers : List (String × String))
  | adapter (message : String)
  | other (text : String)
deriving DecidableEq, Repr

/-- Remove bearer prefixes, then cut. -/
def sanitize (text : String) : String :=
  truncate 300 (removeAll "bearer " (removeAll "Bearer " text))

def candidateFailure : UpstreamException → CandidateFailure
  | .http status bodyText _ =>
      { errorClass := classifyError (some status) bodyText
        status := some status
        message := sanitize bodyText }
  | .adapter message =>
      { errorClass := classifyError none message
        message := sanitize message }
  | .other text =>
      { errorClass := .server
        message := sanitize text }

theorem errorClass_candidateFailure_http (status : Int) (bodyText : String)
    (headers : List (String × String)) :
    (candidateFailure (.http status bodyText headers)).errorClass =
      classifyError (some status) bodyText := by
  simp only [candidateFailure]

theorem candidateFailure_committed (exception : UpstreamException) :
    (candidateFailure exception).committed = false := by
  cases exception <;> rfl

/-- A secret that cannot be produced: the provider is not configured, no key
of it has the credential's id, or the variable of the key is not set. -/
inductive SecretError where
  | unknownProvider (providerId : String)
  | unknownKey
  | missing (envVar : String)
deriving DecidableEq, Repr

/-- The exception text, as a coroutine re-raises it. -/
def SecretError.text : SecretError → String
  | .unknownProvider providerId => quoted providerId
  | .unknownKey => "coroutine raised StopIteration"
  | .missing envVar =>
      "missing secret: environment variable " ++ quoted envVar ++ " is not set"

/-- What `chat` and `chat_stream` raise. -/
inductive ServiceError where
  | payload (text : String)
  | unknownVirtualModel (error : UnknownVirtualModelError)
  | requestValidation (required : CapabilitySet) (virtualModel : String)
  | noEligible (error : NoEligibleCandidateError)
  | hardCeiling (error : HardAttemptCeilingError)
  | partialStream (errorClass : ErrorClass)
  | noAdapter (providerId : String)
  | secret (error : SecretError)
  | store (error : StoreError)
  | noBody
deriving DecidableEq

end AutoRouteGateway.Service

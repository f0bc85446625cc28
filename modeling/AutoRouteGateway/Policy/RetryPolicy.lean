import AutoRouteGateway.Policy.ErrorClass

/-!
Owns the attempt budget and the action decided after one candidate failure.
-/

namespace AutoRouteGateway.Policy

inductive FallbackAction where
  | retrySameCandidate
  | nextCandidate
  | stop
deriving DecidableEq, Repr

/-- Budgets are plain integers in the configuration, so negative values are
possible and mean what the comparisons below make of them. -/
structure RetryPolicy where
  perCandidateRetryLimit : Int := 2
  routeCandidateLimit : Option Int := none
  hardAttemptCeiling : Int := 50
deriving DecidableEq, Repr

/-- Only `token_limit` retries the same candidate, while under the limit. -/
def nextAction (errorClass : ErrorClass) (perCandidateRetriesUsed : Nat)
    (policy : RetryPolicy) : FallbackAction :=
  if errorClass = .tokenLimit ∧ (perCandidateRetriesUsed : Int) < policy.perCandidateRetryLimit then
    .retrySameCandidate
  else
    .nextCandidate

theorem nextAction_eq_retry_iff {errorClass : ErrorClass} {used : Nat} {policy : RetryPolicy} :
    nextAction errorClass used policy = .retrySameCandidate ↔
      errorClass = .tokenLimit ∧ (used : Int) < policy.perCandidateRetryLimit := by
  unfold nextAction
  split <;> simp_all

/-- `stop` is no decision of the policy: only the engine stops a run. -/
theorem nextAction_ne_stop (errorClass : ErrorClass) (used : Nat) (policy : RetryPolicy) :
    nextAction errorClass used policy ≠ .stop := by
  unfold nextAction
  split <;> decide

end AutoRouteGateway.Policy

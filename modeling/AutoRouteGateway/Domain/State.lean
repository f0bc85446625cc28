/-!
Owns the three orthogonal state dimensions, the scope a state observation is
bound to, quota reset policies, and instants.

Instants are microseconds, the resolution of `datetime`; durations are
differences of instants. Rounding of fractional seconds is not modelled.
-/

namespace AutoRouteGateway.Domain

abbrev Instant := Int

abbrev Duration := Int

/-- One second in microseconds. -/
def second : Duration := 1000000

inductive HealthState where
  | unknown
  | healthy
  | degraded
  | down
deriving DecidableEq, Repr

inductive QuotaState where
  | unknown
  | available
  | low
  | rateLimited
  | exhausted
deriving DecidableEq, Repr

inductive CredentialState where
  | enabled
  | reserve
  | disabled
  | authError
deriving DecidableEq, Repr

def HealthState.value : HealthState → String
  | .unknown => "UNKNOWN"
  | .healthy => "HEALTHY"
  | .degraded => "DEGRADED"
  | .down => "DOWN"

def QuotaState.value : QuotaState → String
  | .unknown => "UNKNOWN"
  | .available => "AVAILABLE"
  | .low => "LOW"
  | .rateLimited => "RATE_LIMITED"
  | .exhausted => "EXHAUSTED"

def CredentialState.value : CredentialState → String
  | .enabled => "ENABLED"
  | .reserve => "RESERVE"
  | .disabled => "DISABLED"
  | .authError => "AUTH_ERROR"

inductive ResetPolicyType where
  | knownSchedule
  | observed
  | unknown
deriving DecidableEq, Repr

def ResetPolicyType.value : ResetPolicyType → String
  | .knownSchedule => "known_schedule"
  | .observed => "observed"
  | .unknown => "unknown"

/-- When a quota resets; nothing is assumed by default. -/
structure ResetPolicy where
  type : ResetPolicyType := .unknown
  timezone : Option String := none
  time : Option String := none
deriving DecidableEq, Repr

/-- Scope of a state observation: provider, optional credential, optional model. -/
structure StateSubject where
  providerId : String
  credentialId : Option String := none
  concreteModel : Option String := none
deriving DecidableEq, Repr

end AutoRouteGateway.Domain

/-!
Owns the closed set of error classes and their names on the wire.
-/

namespace AutoRouteGateway.Policy

inductive ErrorClass where
  | auth
  | tokenLimit
  | rateLimit
  | quota
  | modelNotFound
  | network
  | server
  | unknown
deriving DecidableEq, Repr

def ErrorClass.value : ErrorClass → String
  | .auth => "auth"
  | .tokenLimit => "token_limit"
  | .rateLimit => "rate_limit"
  | .quota => "quota"
  | .modelNotFound => "model_not_found"
  | .network => "network"
  | .server => "server"
  | .unknown => "unknown"

end AutoRouteGateway.Policy

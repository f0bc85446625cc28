import AutoRouteGateway.Policy.ErrorClass
import AutoRouteGateway.Runtime.Text

/-!
Owns the classification of an upstream failure by body text, then by status.
Response headers are accepted by the source and consulted by nothing.
-/

namespace AutoRouteGateway.Policy

open AutoRouteGateway.Runtime

def tokenLimitTokens : List String :=
  ["maximum context length", "context length exceeded", "too many tokens", "max tokens",
    "maxoutputtokens", "prompt is too long", "payload too large", "contextwindowexceeded",
    "input length"]

def authTokens : List String :=
  ["invalid api key", "unauthorized", "forbidden", "permission denied", "authentication",
    "incorrect api key", "api key not valid"]

def modelTokens : List String :=
  ["model not found", "unknown model", "unsupported model", "does not exist",
    "model_not_found", "no such model"]

def quotaTokens : List String :=
  ["quota exceeded", "insufficient quota", "insufficient credits", "billing",
    "exceeded your current quota", "insufficient_quota", "quota_exhausted", "out of credits"]

def rateLimitTokens : List String :=
  ["rate limit", "rate_limit", "too many requests", "retry later", "throttle", "slow down"]

def networkTokens : List String :=
  ["network", "connection", "timed out", "timeout", "certificate verify failed",
    "local issuer certificate", "ssl", "tls", "connect error", "connection reset", "eof"]

/-- `any(token in text for token in tokens)`. -/
def containsAny (tokens : List String) (text : String) : Bool :=
  tokens.any fun token => decide (Contains token text)

/-- The classes a body can signal, in order of precedence. -/
def bodyClass (text : String) : Option ErrorClass :=
  if containsAny tokenLimitTokens text then some .tokenLimit
  else if containsAny authTokens text then some .auth
  else if containsAny modelTokens text then some .modelNotFound
  else if containsAny quotaTokens text then some .quota
  else if containsAny rateLimitTokens text then some .rateLimit
  else if containsAny networkTokens text then some .network
  else none

/-- The class of a status whose body signals nothing; no status at all is a
transport-level failure. -/
def statusClass (text : String) : Option Int → ErrorClass
  | none => if containsAny ["insufficient", "quota"] text then .quota else .network
  | some status =>
      if status = 401 ∨ status = 403 then .auth
      else if status = 404 then .modelNotFound
      else if status = 429 then .rateLimit
      else if status = 402 ∨ containsAny ["insufficient", "quota"] text then .quota
      else if 500 ≤ status then .server
      else .unknown

def classifyError (status : Option Int) (bodyText : String) : ErrorClass :=
  let text := lower bodyText
  match bodyClass text with
  | some errorClass => errorClass
  | none => statusClass text status

end AutoRouteGateway.Policy

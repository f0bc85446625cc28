import AutoRouteGateway.Runtime.IpAddress

/-!
Contract: the security middleware of the application.

Owns: the peer and host tests, the network ACL, the verdict on a request, and
exactly which requests reach a handler when no token is configured.

Does not own: the handlers.
-/

namespace AutoRouteGateway.Api

open AutoRouteGateway.Runtime

/-- The settings the middleware reads. -/
structure ServerConfig where
  authToken : Option String := none
  /-- Allow-listed addresses and networks; loopback only when empty. -/
  allowIps : List String := []
deriving DecidableEq, Repr

/-- The client's address, if there is one, and the headers under their
lower-case names. -/
structure HttpRequest where
  client : Option String
  headers : List (String × String)
deriving DecidableEq, Repr

namespace HttpRequest

/-- `request.headers.get(name)`. -/
def header (request : HttpRequest) (name : String) : Option String :=
  (request.headers.find? fun field => field.1 = name).map Prod.snd

/-- `request.client.host`, or the empty text. -/
def clientIp (request : HttpRequest) : String := request.client.getD ""

end HttpRequest

/-! ## Tests -/

/-- `_is_loopback`; the identity of the test client counts as local. -/
def isLoopback (ip : String) : Bool :=
  if ip = "testclient" then true
  else
    match ipAddress ip with
    | some address => address.isLoopback
    | none => false

/-- One entry of the ACL against an address; `none` stands for the exception a
malformed entry raises. -/
def entryCovers (entry : String) (address : IpAddress) : Option Bool :=
  if '/' ∈ entry.toList then (ipNetwork entry).map fun network => network.contains address
  else (ipAddress entry).map fun own => decide (own = address)

/-- The entries in order, up to the first that covers the address. -/
def anyCovers (address : IpAddress) : List String → Option Bool
  | [] => some false
  | entry :: rest =>
      match entryCovers entry address with
      | none => none
      | some true => some true
      | some false => anyCovers address rest

/-- `_allowed`. -/
def allowed (clientIp : String) (allowIps : List String) : Option Bool :=
  if allowIps = [] then some (isLoopback clientIp)
  else
    match ipAddress clientIp with
    | none => some false
    | some address => anyCovers address allowIps

/-- The host of a `Host` header, without its port. -/
def hostName (hostHeader : String) : String :=
  let host := (lower (strip hostHeader)).toList
  match afterWord ['['] host with
  | some inner => String.ofList (inner.takeWhile (· ≠ ']'))
  | none =>
      if host.count ':' = 1 then String.ofList (host.takeWhile (· ≠ ':')) else String.ofList host

/-- `_host_is_loopback`. -/
def hostIsLoopback (hostHeader : String) : Bool :=
  let name := hostName hostHeader
  name == "localhost" || isLoopback name

/-- `_browser_forged`. -/
def browserForged (request : HttpRequest) : Bool :=
  (request.header "origin").isSome || !hostIsLoopback ((request.header "host").getD "")

/-! ## The middleware -/

/-- What becomes of a request: a handler sees it, it is refused, or a malformed
ACL entry raises. -/
inductive Verdict where
  | passed
  | refused (status : Nat) (message : String)
  | raised
deriving DecidableEq, Repr

/-- The ACL, after the other guard. -/
def aclVerdict (config : ServerConfig) (request : HttpRequest) : Verdict :=
  match allowed request.clientIp config.allowIps with
  | none => .raised
  | some false => .refused 403 "network ACL denied"
  | some true => .passed

/-- `security_middleware`; an empty token counts as none. -/
def securityMiddleware (config : ServerConfig) (request : HttpRequest) : Verdict :=
  match config.authToken with
  | some token =>
      if token = "" then forgeryGuard
      else if (request.header "authorization").getD "" = "Bearer " ++ token then
        aclVerdict config request
      else .refused 401 "gateway auth required"
  | none => forgeryGuard
where
  forgeryGuard : Verdict :=
    if browserForged request then
      .refused 403
        "cross-origin or non-loopback Host refused; configure a gateway auth token"
    else aclVerdict config request

/-- No token is configured. -/
def Tokenless (config : ServerConfig) : Prop := config.authToken = none ∨ config.authToken = some ""

/-! ## What passes without a token -/

theorem anyCovers_eq_true {address : IpAddress} {entries : List String}
    (covered : anyCovers address entries = some true) :
    ∃ entry ∈ entries, entryCovers entry address = some true := by
  induction entries with
  | nil => cases covered
  | cons entry rest inductionHypothesis =>
      rw [anyCovers] at covered
      split at covered
      · cases covered
      · rename_i own
        exact ⟨entry, List.mem_cons_self, own⟩
      · obtain ⟨later, member, own⟩ := inductionHypothesis covered
        exact ⟨later, List.mem_cons_of_mem _ member, own⟩

theorem securityMiddleware_tokenless {config : ServerConfig} (tokenless : Tokenless config)
    (request : HttpRequest) :
    securityMiddleware config request = securityMiddleware.forgeryGuard config request := by
  unfold securityMiddleware
  rcases tokenless with absent | empty
  · rw [absent]
  · rw [empty]
    rfl

/-- A handler sees exactly the requests that are not forged and that the ACL allows. -/
theorem passed_tokenless_iff {config : ServerConfig} (tokenless : Tokenless config)
    (request : HttpRequest) :
    securityMiddleware config request = .passed ↔
      browserForged request = false ∧ allowed request.clientIp config.allowIps = some true := by
  rw [securityMiddleware_tokenless tokenless, securityMiddleware.forgeryGuard, aclVerdict]
  by_cases forged : browserForged request = true
  · simp [forged]
  · rw [if_neg forged]
    rw [Bool.not_eq_true] at forged
    cases allowed request.clientIp config.allowIps with
    | none => simp
    | some allows => cases allows <;> simp [forged]

/-- A loopback address, or the identity of the test client. -/
def LoopbackPeer (ip : String) : Prop :=
  ip = "testclient" ∨ ∃ address, ipAddress ip = some address ∧ address.isLoopback = true

theorem isLoopback_iff {ip : String} : isLoopback ip = true ↔ LoopbackPeer ip := by
  unfold isLoopback LoopbackPeer
  by_cases local' : ip = "testclient"
  · simp [local']
  · rw [if_neg local']
    cases parsed : ipAddress ip with
    | none => simp [local']
    | some address => simp [local']

theorem hostIsLoopback_iff {hostHeader : String} :
    hostIsLoopback hostHeader = true ↔
      hostName hostHeader = "localhost" ∨ LoopbackPeer (hostName hostHeader) := by
  unfold hostIsLoopback
  simp only [Bool.or_eq_true, beq_iff_eq, isLoopback_iff]

theorem browserForged_eq_false_iff {request : HttpRequest} :
    browserForged request = false ↔
      request.header "origin" = none ∧
        hostIsLoopback ((request.header "host").getD "") = true := by
  unfold browserForged
  rw [Bool.or_eq_false_iff, Option.isSome_eq_false_iff, Option.isNone_iff_eq_none,
    Bool.not_eq_false']

end AutoRouteGateway.Api

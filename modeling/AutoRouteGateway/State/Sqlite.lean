import AutoRouteGateway.Library.UpsertTable
import AutoRouteGateway.State.Store

/-!
Owns the SQLite store over the current schema: one table for each dimension
keyed by its primary key, and the event log.

An absent scope component is the empty string in `provider_health` and
`quota_state`. `credential_state.credential_id` is `NOT NULL` and not
normalized: writing it without a credential violates the constraint and rolls
back, and comparing it with `NULL` matches no row. `observed_at`, `updated_at`
and `ts` come from the wall clock and nothing consults them, so they are left
out.
-/

namespace AutoRouteGateway.State

open AutoRouteGateway.Domain
open AutoRouteGateway.Library

/-- Encode an optional scope component into a non-`NULL` key. -/
def scopeKey : Option String → String
  | some value => value
  | none => ""

structure HealthRow where
  state : HealthState
  reason : String
  cooldownUntil : Option Instant
deriving DecidableEq, Repr

structure CredentialRow where
  state : CredentialState
  reason : String
deriving DecidableEq, Repr

structure QuotaRow where
  state : QuotaState
  reason : String
  cooldownUntil : Option Instant
deriving DecidableEq, Repr

structure SqliteStateStore where
  providerHealth : UpsertTable (String × String) HealthRow
  credentialState : UpsertTable (String × String) CredentialRow
  quotaState : UpsertTable (String × String × String) QuotaRow
  routeEvents : List RouteEvent

namespace SqliteStateStore

def empty : SqliteStateStore := ⟨.empty, .empty, .empty, []⟩

/-- `if row is None and consult: row = next`. -/
def fallBack {ρ : Type} (consult : Bool) (next row : Option ρ) : Option ρ :=
  match row with
  | some found => some found
  | none => if consult then next else none

/-- The row both `get_health` and `get_cooldown` select. -/
def selectHealth (s : SqliteStateStore) (subject : StateSubject) : Option HealthRow :=
  fallBack subject.concreteModel.isSome
    (s.providerHealth.get? (subject.providerId, ""))
    (s.providerHealth.get? (subject.providerId, scopeKey subject.concreteModel))

def getHealth (s : SqliteStateStore) (subject : StateSubject) : HealthState :=
  match selectHealth s subject with
  | some row => row.state
  | none => .unknown

def setHealth (subject : StateSubject) (state : HealthState) (reason : String)
    (cooldownUntil : Option Instant) (s : SqliteStateStore) : StoreResult SqliteStateStore :=
  .done { s with
    providerHealth := s.providerHealth.upsert
      (subject.providerId, scopeKey subject.concreteModel) ⟨state, reason, cooldownUntil⟩ }

/-- The row both `get_quota` and `get_cooldown` select. -/
def selectQuota (s : SqliteStateStore) (subject : StateSubject) : Option QuotaRow :=
  let row := s.quotaState.get?
    (subject.providerId, scopeKey subject.credentialId, scopeKey subject.concreteModel)
  let row := fallBack (subject.credentialId.isSome || subject.concreteModel.isSome)
    (s.quotaState.get? (subject.providerId, scopeKey subject.credentialId, "")) row
  fallBack subject.credentialId.isSome (s.quotaState.get? (subject.providerId, "", "")) row

def getQuota (s : SqliteStateStore) (subject : StateSubject) : QuotaState :=
  match selectQuota s subject with
  | some row => row.state
  | none => .unknown

def setQuota (subject : StateSubject) (state : QuotaState) (reason : String)
    (cooldownUntil : Option Instant) (s : SqliteStateStore) : StoreResult SqliteStateStore :=
  .done { s with
    quotaState := s.quotaState.upsert
      (subject.providerId, scopeKey subject.credentialId, scopeKey subject.concreteModel)
      ⟨state, reason, cooldownUntil⟩ }

def getCredential (s : SqliteStateStore) (subject : StateSubject) : CredentialState :=
  match subject.credentialId with
  | none => .enabled
  | some credentialId =>
      match s.credentialState.get? (subject.providerId, credentialId) with
      | some row => row.state
      | none => .enabled

def notNullError : StoreError :=
  ⟨"NOT NULL constraint failed: credential_state.credential_id"⟩

def setCredential (subject : StateSubject) (state : CredentialState) (reason : String)
    (s : SqliteStateStore) : StoreResult SqliteStateStore :=
  match subject.credentialId with
  | none => .raised notNullError s
  | some credentialId =>
      .done { s with
        credentialState := s.credentialState.upsert
          (subject.providerId, credentialId) ⟨state, reason⟩ }

def getCooldown (s : SqliteStateStore) (subject : StateSubject) : Option Instant :=
  let h := selectHealth s subject
  let q := selectQuota s subject
  laterDeadline (h.bind HealthRow.cooldownUntil) (q.bind QuotaRow.cooldownUntil)

def recordRouteEvent (event : RouteEvent) (s : SqliteStateStore) :
    StoreResult SqliteStateStore :=
  .done { s with routeEvents := s.routeEvents ++ [event] }

/-- The SQLite implementation of the protocol. -/
def store : StateStore SqliteStateStore where
  getHealth := getHealth
  setHealth := setHealth
  getQuota := getQuota
  setQuota := setQuota
  getCredential := getCredential
  setCredential := setCredential
  getCooldown := getCooldown
  recordRouteEvent := recordRouteEvent

end SqliteStateStore

end AutoRouteGateway.State

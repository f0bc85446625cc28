import AutoRouteGateway.Library.ScopeChain
import AutoRouteGateway.Library.UpsertTable
import AutoRouteGateway.State.Store

/-!
Owns the in-memory store: three dictionaries keyed by scope tuples and a list
of events. Reasons are accepted and dropped. Both health and quota are read
through one four-key chain.
-/

namespace AutoRouteGateway.State

open AutoRouteGateway.Domain
open AutoRouteGateway.Library

/-- `(provider_id, credential_id, concrete_model)`. -/
abbrev ScopeTuple := String × Option String × Option String

structure InMemoryStateStore where
  health : UpsertTable ScopeTuple (HealthState × Option Instant)
  quota : UpsertTable ScopeTuple (QuotaState × Option Instant)
  credential : UpsertTable (String × Option String) CredentialState
  events : List RouteEvent

namespace InMemoryStateStore

def empty : InMemoryStateStore := ⟨.empty, .empty, .empty, []⟩

def key (subject : StateSubject) : ScopeTuple :=
  (subject.providerId, subject.credentialId, subject.concreteModel)

/-- The keys `_fallback_get` tries, most specific first. -/
def fallbackKeys (subject : StateSubject) : List ScopeTuple :=
  [(subject.providerId, subject.credentialId, subject.concreteModel),
    (subject.providerId, none, subject.concreteModel),
    (subject.providerId, subject.credentialId, none),
    (subject.providerId, none, none)]

def fallbackGet {ν : Type} (mapping : UpsertTable ScopeTuple ν) (subject : StateSubject) :
    Option ν :=
  firstHit mapping.get? (fallbackKeys subject)

def getHealth (s : InMemoryStateStore) (subject : StateSubject) : HealthState :=
  match fallbackGet s.health subject with
  | some row => row.1
  | none => .unknown

def setHealth (subject : StateSubject) (state : HealthState) (_reason : String)
    (cooldownUntil : Option Instant) (s : InMemoryStateStore) :
    StoreResult InMemoryStateStore :=
  .done { s with health := s.health.upsert (key subject) (state, cooldownUntil) }

def getQuota (s : InMemoryStateStore) (subject : StateSubject) : QuotaState :=
  match fallbackGet s.quota subject with
  | some row => row.1
  | none => .unknown

def setQuota (subject : StateSubject) (state : QuotaState) (_reason : String)
    (cooldownUntil : Option Instant) (s : InMemoryStateStore) :
    StoreResult InMemoryStateStore :=
  .done { s with quota := s.quota.upsert (key subject) (state, cooldownUntil) }

def getCredential (s : InMemoryStateStore) (subject : StateSubject) : CredentialState :=
  (s.credential.get? (subject.providerId, subject.credentialId)).getD .enabled

def setCredential (subject : StateSubject) (state : CredentialState) (_reason : String)
    (s : InMemoryStateStore) : StoreResult InMemoryStateStore :=
  .done { s with
    credential := s.credential.upsert (subject.providerId, subject.credentialId) state }

def getCooldown (s : InMemoryStateStore) (subject : StateSubject) : Option Instant :=
  let healthRow := fallbackGet s.health subject
  let quotaRow := fallbackGet s.quota subject
  laterDeadline (healthRow.bind Prod.snd) (quotaRow.bind Prod.snd)

def recordRouteEvent (event : RouteEvent) (s : InMemoryStateStore) :
    StoreResult InMemoryStateStore :=
  .done { s with events := s.events ++ [event] }

/-- The in-memory implementation of the protocol. -/
def store : StateStore InMemoryStateStore where
  getHealth := getHealth
  setHealth := setHealth
  getQuota := getQuota
  setQuota := setQuota
  getCredential := getCredential
  setCredential := setCredential
  getCooldown := getCooldown
  recordRouteEvent := recordRouteEvent

end InMemoryStateStore

end AutoRouteGateway.State

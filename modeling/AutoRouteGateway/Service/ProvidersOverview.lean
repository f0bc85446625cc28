import Mathlib.Data.List.Forall2
import AutoRouteGateway.Routing.StoreAgreement
import AutoRouteGateway.Service.Gateway
import AutoRouteGateway.State.Snapshot

/-!
Contract: the overview of the providers, and the credential states it shows.

The overview reads the credential states through `snapshot` and expects rows with
the two ids as columns, which is the shape that SQLite gives.

Owns: `providers_overview`, what it means for it to show the real states, and the
exact condition on a store and its history under which it does.
-/

namespace AutoRouteGateway.Service

open AutoRouteGateway.Config
open AutoRouteGateway.Domain
open AutoRouteGateway.Library
open AutoRouteGateway.Policy
open AutoRouteGateway.Routing
open AutoRouteGateway.Runtime
open AutoRouteGateway.State

/-! ## The overview -/

/-- `value[name]`. -/
def subscript (name : String) : Json → Except String Json
  | .dict fields =>
      match Dict.get? name fields with
      | some value => .ok value
      | none => .error (quoted name)
  | .str _ => .error "string indices must be integers, not 'str'"
  | .list _ => .error "list indices must be integers or slices, not str"
  | other => .error other.notSubscriptableText

/-- `r["provider_id"] == pid and r["credential_id"] == k.id`. -/
def isRowOf (pid keyId : String) (row : Json) : Except String Bool :=
  match subscript "provider_id" row with
  | .error text => .error text
  | .ok provider =>
      if provider.isText pid = false then .ok false
      else
        match subscript "credential_id" row with
        | .error text => .error text
        | .ok credential => .ok (credential.isText keyId)

def credRows (pid keyId : String) : List Json → Except String (List Json)
  | [] => .ok []
  | row :: rest =>
      match isRowOf pid keyId row with
      | .error text => .error text
      | .ok isRow =>
          match credRows pid keyId rest with
          | .error text => .error text
          | .ok rows => .ok (if isRow then row :: rows else rows)

/-- The state shown for a key: that of its first row, else `ENABLED`. -/
def keyState (credential : Json) (pid keyId : String) : Except String Json :=
  match credential.elements with
  | .error text => .error text
  | .ok elements =>
      match credRows pid keyId elements with
      | .error text => .error text
      | .ok [] => .ok (.str "ENABLED")
      | .ok (row :: _) => subscript "state" row

structure KeyInfo where
  id : String
  env : String
  priority : Int
  reserve : Bool
  state : Json

structure ModelInfo where
  id : String
  capabilities : List String

structure ProviderInfo where
  type : ProviderType
  baseUrl : Option String
  enabled : Bool
  models : List ModelInfo
  keys : List KeyInfo

def keyInfos (credential : Json) (pid : String) : List KeyConfig → Except String (List KeyInfo)
  | [] => .ok []
  | key :: rest =>
      match keyState credential pid key.id with
      | .error text => .error text
      | .ok state =>
          match keyInfos credential pid rest with
          | .error text => .error text
          | .ok infos => .ok (⟨key.id, key.env, key.priority, key.reserve, state⟩ :: infos)

def providerInfos (credential : Json) :
    List (String × ProviderConfig) → Except String (List (String × ProviderInfo))
  | [] => .ok []
  | (pid, provider) :: rest =>
      match keyInfos credential pid provider.keys with
      | .error text => .error text
      | .ok keys =>
          match providerInfos credential rest with
          | .error text => .error text
          | .ok infos =>
              .ok ((pid,
                { type := provider.type
                  baseUrl := provider.baseUrl
                  enabled := provider.enabled
                  models := provider.models.map fun model => ⟨model.id, model.capabilities.values⟩
                  keys := keys }) :: infos)

/-- The overview over `snapshot()["credential"]`. -/
def providersOverview (config : GatewayConfig) (credential : Json) :
    Except String (List (String × ProviderInfo)) :=
  providerInfos credential config.providers.rows

/-! ## The states it shows -/

/-- The state that `get_credential` returns for a provider and a key. -/
def realState (kind : StoreKind) (s : kind.Contents) (pid keyId : String) : Json :=
  .str (kind.store.getCredential s ⟨pid, some keyId, none⟩).value

/-- The overview returns, with every key of every provider and its real state. -/
def ShowsRealStates (config : GatewayConfig) (kind : StoreKind) (s : kind.Contents) : Prop :=
  ∃ overview, providersOverview config (kind.credentialSnapshot s) = .ok overview ∧
    List.Forall₂ (fun (row : String × ProviderConfig) info =>
        info.1 = row.1 ∧
          List.Forall₂ (fun key (shown : KeyInfo) =>
            shown.id = key.id ∧ shown.state = realState kind s row.1 key.id) row.2.keys info.2.keys)
      config.providers.rows overview

/-- The state of one key is read as the store holds it. -/
def ReadsKey (kind : StoreKind) (s : kind.Contents) (pid keyId : String) : Prop :=
  keyState (kind.credentialSnapshot s) pid keyId = .ok (realState kind s pid keyId)

theorem keyInfos_shows_iff {credential : Json} {pid : String} {real : String → Json}
    (keys : List KeyConfig) :
    (∃ infos, keyInfos credential pid keys = .ok infos ∧
        List.Forall₂ (fun key (shown : KeyInfo) =>
          shown.id = key.id ∧ shown.state = real key.id) keys infos) ↔
      ∀ key ∈ keys, keyState credential pid key.id = .ok (real key.id) := by
  induction keys with
  | nil => simp [keyInfos]
  | cons key rest inductionHypothesis =>
      rw [List.forall_mem_cons, ← inductionHypothesis, keyInfos]
      cases keyState credential pid key.id with
      | error text => simp
      | ok state =>
          cases keyInfos credential pid rest with
          | error text => simp
          | ok infos =>
              constructor
              · rintro ⟨_, returned, shown⟩
                cases returned
                cases shown with
                | cons first later => exact ⟨congrArg _ first.2, infos, rfl, later⟩
              · rintro ⟨isReal, _, returned, later⟩
                cases returned
                exact ⟨_, rfl, .cons ⟨rfl, Except.ok.inj isReal⟩ later⟩

theorem providerInfos_shows_iff {credential : Json} {real : String → String → Json}
    (rows : List (String × ProviderConfig)) :
    (∃ infos, providerInfos credential rows = .ok infos ∧
        List.Forall₂ (fun (row : String × ProviderConfig) (info : String × ProviderInfo) =>
          info.1 = row.1 ∧
            List.Forall₂ (fun key (shown : KeyInfo) =>
              shown.id = key.id ∧ shown.state = real row.1 key.id) row.2.keys info.2.keys)
          rows infos) ↔
      ∀ row ∈ rows, ∀ key ∈ row.2.keys,
        keyState credential row.1 key.id = .ok (real row.1 key.id) := by
  induction rows with
  | nil => simp [providerInfos]
  | cons row rest inductionHypothesis =>
      obtain ⟨pid, provider⟩ := row
      rw [List.forall_mem_cons, ← inductionHypothesis, ← keyInfos_shows_iff, providerInfos]
      cases keyInfos credential pid provider.keys with
      | error text => simp
      | ok keys =>
          cases providerInfos credential rest with
          | error text => simp
          | ok infos =>
              constructor
              · rintro ⟨_, returned, shown⟩
                cases returned
                cases shown with
                | cons first later => exact ⟨⟨keys, rfl, first.2⟩, infos, rfl, later⟩
              · rintro ⟨⟨_, firstReturned, first⟩, _, laterReturned, later⟩
                cases firstReturned
                cases laterReturned
                exact ⟨_, rfl, .cons ⟨rfl, first⟩ later⟩

theorem showsRealStates_iff (config : GatewayConfig) (kind : StoreKind) (s : kind.Contents) :
    ShowsRealStates config kind s ↔
      ∀ row ∈ config.providers.rows, ∀ key ∈ row.2.keys, ReadsKey kind s row.1 key.id :=
  providerInfos_shows_iff config.providers.rows

/-! ## SQLite rows -/

theorem isRowOf_selected (pid keyId : String) (key : String × String) (row : CredentialRow) :
    isRowOf pid keyId (.dict (row.selected key)) = .ok (decide (key = (pid, keyId))) := by
  obtain ⟨ownPid, ownId⟩ := key
  by_cases sameProvider : ownPid = pid
  · by_cases sameKey : ownId = keyId
    · simp [isRowOf, subscript, CredentialRow.selected, Dict.get?, Json.isText, sameProvider,
        sameKey]
    · simp [isRowOf, subscript, CredentialRow.selected, Dict.get?, Json.isText, sameProvider,
        sameKey]
  · simp [isRowOf, subscript, CredentialRow.selected, Dict.get?, Json.isText, sameProvider]

theorem credRows_selected (pid keyId : String) (rows : List ((String × String) × CredentialRow)) :
    credRows pid keyId (rows.map fun row => .dict (row.2.selected row.1)) =
      .ok ((rows.filter fun row => row.1 = (pid, keyId)).map fun row =>
        .dict (row.2.selected row.1)) := by
  induction rows with
  | nil => rfl
  | cons row rest inductionHypothesis =>
      rw [List.map_cons, credRows, isRowOf_selected, inductionHypothesis, List.filter_cons]
      by_cases same : row.1 = (pid, keyId) <;> simp [same]

theorem sqlite_readsKey (s : SqliteStateStore) (pid keyId : String) :
    ReadsKey .sqlite s pid keyId := by
  have first := lookupRows_eq_head?_filter (pid, keyId) s.sortedCredentials
  rw [s.lookupRows_sortedCredentials] at first
  change keyState (.list _) pid keyId = .ok (.str (s.getCredential ⟨pid, some keyId, none⟩).value)
  simp only [keyState, Json.elements, credRows_selected, SqliteStateStore.getCredential, first]
  cases s.sortedCredentials.filter fun row => row.1 = (pid, keyId) with
  | nil => rfl
  | cons row rest => rfl

/-! ## In-memory entries -/

/-- A dictionary is iterated over its keys, and a key has no columns. -/
theorem inMemory_readsKey_iff (s : InMemoryStateStore) (pid keyId : String) :
    ReadsKey .inMemory s pid keyId ↔ s.credential.rows = [] := by
  change keyState (.dict _) pid keyId =
    .ok (.str (s.getCredential ⟨pid, some keyId, none⟩).value) ↔ _
  cases rows : s.credential.rows with
  | nil =>
      simp [keyState, Json.elements, credRows, InMemoryStateStore.getCredential, UpsertTable.get?,
        rows, lookupRows, CredentialState.value]
  | cons row rest => simp [keyState, Json.elements, credRows, isRowOf, subscript]

/-- The call writes a credential state. -/
def IsAuthFailure : EngineCall → Prop
  | .succeeded _ => False
  | .failed _ _ failure => failure.errorClass = .auth

theorem credentialRows_run_iff (engine : FallbackEngine) (call : EngineCall)
    (s : InMemoryStateStore) :
    (call.run InMemoryStateStore.store engine s).state.credential.rows = [] ↔
      s.credential.rows = [] ∧ ¬ IsAuthFailure call := by
  cases call with
  | succeeded candidate => simp [IsAuthFailure, EngineCall.run, applySuccess,
      InMemoryStateStore.store, InMemoryStateStore.setHealth, StoreResult.state]
  | failed now candidate failure =>
      cases errorClass : failure.errorClass <;>
        simp [IsAuthFailure, EngineCall.run, applyFailure, errorClass, InMemoryStateStore.store,
          InMemoryStateStore.setHealth, InMemoryStateStore.setQuota,
          InMemoryStateStore.setCredential, StoreResult.state, UpsertTable.upsert,
          upsertRows_ne_nil]

theorem credentialRows_storeAfter_iff (engine : FallbackEngine) (calls : List EngineCall) :
    (storeAfter .inMemory engine calls).credential.rows = [] ↔
      ∀ call ∈ calls, ¬ IsAuthFailure call := by
  induction calls using List.reverseRecOn with
  | nil => simp [storeAfter, stateAfter, StoreKind.empty, InMemoryStateStore.empty,
      UpsertTable.empty]
  | append_singleton calls call inductionHypothesis =>
      unfold storeAfter at inductionHypothesis ⊢
      rw [stateAfter_append_singleton]
      change (call.run InMemoryStateStore.store engine _).state.credential.rows = [] ↔ _
      rw [credentialRows_run_iff, List.forall_mem_append, List.forall_mem_singleton]
      exact and_congr_left fun _ => inductionHypothesis

/-- After a history of failures and successes, the overview shows the real states
exactly with SQLite, or without keys, or if no failure was an auth failure. -/
theorem overview_real_iff (config : GatewayConfig) (kind : StoreKind) (engine : FallbackEngine)
    (calls : List EngineCall) :
    ShowsRealStates config kind (storeAfter kind engine calls) ↔
      kind = .sqlite ∨ (∀ row ∈ config.providers.rows, row.2.keys = []) ∨
        ∀ call ∈ calls, ¬ IsAuthFailure call := by
  rw [showsRealStates_iff]
  cases kind with
  | sqlite => exact iff_of_true (fun row _ key _ => sqlite_readsKey _ _ _) (Or.inl rfl)
  | inMemory =>
      simp only [inMemory_readsKey_iff, credentialRows_storeAfter_iff, reduceCtorEq, false_or]
      constructor
      · intro reads
        by_cases keyless : ∀ row ∈ config.providers.rows, row.2.keys = []
        · exact Or.inl keyless
        · push Not at keyless
          obtain ⟨row, member, keyed⟩ := keyless
          obtain ⟨key, isKey⟩ := List.exists_mem_of_ne_nil _ keyed
          exact Or.inr (reads row member key isKey)
      · rintro (keyless | quiet) row member key isKey
        · rw [keyless row member] at isKey
          cases isKey
        · exact quiet

/-- After one auth failure the overview over the in-memory store raises. -/
theorem overview_raises_after_auth :
    ∃ candidate, IsCandidate (singleProviderConfig [⟨"k", "K", 100, false⟩]) candidate ∧
      providersOverview (singleProviderConfig [⟨"k", "K", 100, false⟩])
          (StoreKind.inMemory.credentialSnapshot
            (storeAfter .inMemory {} [.failed 0 candidate ⟨.auth, some 401, "", false, none⟩])) =
        .error "string indices must be integers, not 'str'" :=
  ⟨_, ⟨"v", 0, _, rfl, List.mem_cons_self⟩, rfl⟩

end AutoRouteGateway.Service

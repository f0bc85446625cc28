import AutoRouteGateway.State.Board
import AutoRouteGateway.State.InMemory
import AutoRouteGateway.State.Sqlite

/-!
Owns the scope scheme of each store implementation, the proof that each
implementation keeps a board, and the type that ranges over both.
-/

namespace AutoRouteGateway.State

open AutoRouteGateway.Domain
open AutoRouteGateway.Library

/-! ## In-memory -/

def inMemoryScheme : ScopeScheme where
  HealthKey := ScopeTuple
  QuotaKey := ScopeTuple
  CredentialKey := String × Option String
  healthKey := InMemoryStateStore.key
  healthChain := InMemoryStateStore.fallbackKeys
  quotaKey := InMemoryStateStore.key
  quotaChain := InMemoryStateStore.fallbackKeys
  credentialKey := fun subject => some (subject.providerId, subject.credentialId)

def InMemoryStateStore.board (s : InMemoryStateStore) : Board inMemoryScheme where
  health := s.health.get?
  quota := s.quota.get?
  credential := s.credential.get?

def inMemoryScoped : ScopedStore InMemoryStateStore.store where
  scheme := inMemoryScheme
  board := InMemoryStateStore.board
  getHealth_eq := by
    intro s subject
    change InMemoryStateStore.getHealth s subject = _
    unfold InMemoryStateStore.getHealth InMemoryStateStore.fallbackGet
    change _ = ((firstHit s.health.get? (InMemoryStateStore.fallbackKeys subject)).map
      Prod.fst).getD .unknown
    cases firstHit s.health.get? (InMemoryStateStore.fallbackKeys subject) <;> rfl
  getQuota_eq := by
    intro s subject
    change InMemoryStateStore.getQuota s subject = _
    unfold InMemoryStateStore.getQuota InMemoryStateStore.fallbackGet
    change _ = ((firstHit s.quota.get? (InMemoryStateStore.fallbackKeys subject)).map
      Prod.fst).getD .unknown
    cases firstHit s.quota.get? (InMemoryStateStore.fallbackKeys subject) <;> rfl
  getCredential_eq := fun _ _ => rfl
  getCooldown_eq := fun _ _ => rfl
  setHealth_board := by
    intro subject state reason deadline s
    apply Board.ext
    · exact UpsertTable.get?_upsert_eq_update s.health _ _
    · rfl
    · rfl
  setQuota_board := by
    intro subject state reason deadline s
    apply Board.ext
    · rfl
    · exact UpsertTable.get?_upsert_eq_update s.quota _ _
    · rfl
  setCredential_board := by
    intro subject state reason s
    apply Board.ext
    · rfl
    · rfl
    · exact UpsertTable.get?_upsert_eq_update s.credential _ _
  record_board := fun _ _ => rfl

/-! ## SQLite -/

/-- The rows `get_health` selects, in order. -/
def sqliteHealthChain (subject : StateSubject) : List (String × String) :=
  match subject.concreteModel with
  | some model => [(subject.providerId, model), (subject.providerId, "")]
  | none => [(subject.providerId, "")]

/-- The rows `get_quota` selects, in order. -/
def sqliteQuotaChain (subject : StateSubject) : List (String × String × String) :=
  match subject.credentialId, subject.concreteModel with
  | some credential, some model =>
      [(subject.providerId, credential, model), (subject.providerId, credential, ""),
        (subject.providerId, "", "")]
  | some credential, none =>
      [(subject.providerId, credential, ""), (subject.providerId, "", "")]
  | none, some model => [(subject.providerId, "", model), (subject.providerId, "", "")]
  | none, none => [(subject.providerId, "", "")]

def sqliteScheme : ScopeScheme where
  HealthKey := String × String
  QuotaKey := String × String × String
  CredentialKey := String × String
  healthKey := fun subject => (subject.providerId, scopeKey subject.concreteModel)
  healthChain := sqliteHealthChain
  quotaKey := fun subject =>
    (subject.providerId, scopeKey subject.credentialId, scopeKey subject.concreteModel)
  quotaChain := sqliteQuotaChain
  credentialKey := fun subject => subject.credentialId.map fun id => (subject.providerId, id)

def HealthRow.observation (row : HealthRow) : HealthObservation := (row.state, row.cooldownUntil)

def QuotaRow.observation (row : QuotaRow) : QuotaObservation := (row.state, row.cooldownUntil)

namespace SqliteStateStore

def healthObservations (s : SqliteStateStore) (key : String × String) :
    Option HealthObservation :=
  (s.providerHealth.get? key).map HealthRow.observation

def quotaObservations (s : SqliteStateStore) (key : String × String × String) :
    Option QuotaObservation :=
  (s.quotaState.get? key).map QuotaRow.observation

def credentialObservations (s : SqliteStateStore) (key : String × String) :
    Option CredentialState :=
  (s.credentialState.get? key).map CredentialRow.state

def board (s : SqliteStateStore) : Board sqliteScheme where
  health := s.healthObservations
  quota := s.quotaObservations
  credential := s.credentialObservations

theorem map_fallBack {ρ α : Type} (f : ρ → α) (consult : Bool) (next row : Option ρ) :
    (fallBack consult next row).map f =
      (row.map f).or (if consult then next.map f else none) := by
  cases row <;> cases consult <;> rfl

theorem selectHealth_observation (s : SqliteStateStore) (subject : StateSubject) :
    (s.selectHealth subject).map HealthRow.observation = s.board.seenHealth subject := by
  obtain ⟨provider, credential, model⟩ := subject
  change _ = firstHit s.healthObservations (sqliteHealthChain ⟨provider, credential, model⟩)
  rw [selectHealth, map_fallBack]
  cases model with
  | none => simp [sqliteHealthChain, firstHit_cons, healthObservations, scopeKey]
  | some model => simp [sqliteHealthChain, firstHit_cons, healthObservations, scopeKey]

theorem selectQuota_observation (s : SqliteStateStore) (subject : StateSubject) :
    (s.selectQuota subject).map QuotaRow.observation = s.board.seenQuota subject := by
  obtain ⟨provider, credential, model⟩ := subject
  change _ = firstHit s.quotaObservations (sqliteQuotaChain ⟨provider, credential, model⟩)
  rw [selectQuota, map_fallBack, map_fallBack]
  cases credential with
  | none =>
      cases model with
      | none => simp [sqliteQuotaChain, firstHit_cons, quotaObservations, scopeKey]
      | some model => simp [sqliteQuotaChain, firstHit_cons, quotaObservations, scopeKey]
  | some credential =>
      cases model with
      | none => simp [sqliteQuotaChain, firstHit_cons, quotaObservations, scopeKey]
      | some model =>
          simp [sqliteQuotaChain, firstHit_cons, quotaObservations, scopeKey, Option.or_assoc]

end SqliteStateStore

def sqliteScoped : ScopedStore SqliteStateStore.store where
  scheme := sqliteScheme
  board := SqliteStateStore.board
  getHealth_eq := by
    intro s subject
    rw [← SqliteStateStore.selectHealth_observation]
    change SqliteStateStore.getHealth s subject = _
    unfold SqliteStateStore.getHealth
    cases s.selectHealth subject <;> rfl
  getQuota_eq := by
    intro s subject
    rw [← SqliteStateStore.selectQuota_observation]
    change SqliteStateStore.getQuota s subject = _
    unfold SqliteStateStore.getQuota
    cases s.selectQuota subject <;> rfl
  getCredential_eq := by
    intro s subject
    obtain ⟨provider, credential, model⟩ := subject
    change SqliteStateStore.getCredential s ⟨provider, credential, model⟩ = _
    cases credential with
    | none => rfl
    | some credential =>
        change _ = ((s.credentialState.get? (provider, credential)).map
          CredentialRow.state).getD .enabled
        simp only [SqliteStateStore.getCredential]
        cases s.credentialState.get? (provider, credential) <;> rfl
  getCooldown_eq := by
    intro s subject
    rw [← SqliteStateStore.selectHealth_observation, ← SqliteStateStore.selectQuota_observation]
    change SqliteStateStore.getCooldown s subject = _
    unfold SqliteStateStore.getCooldown
    cases s.selectHealth subject <;> cases s.selectQuota subject <;> rfl
  setHealth_board := by
    intro subject state reason deadline s
    apply Board.ext
    · change (fun key => ((s.providerHealth.upsert _ _).get? key).map HealthRow.observation) = _
      rw [UpsertTable.get?_upsert_eq_update]
      exact Function.comp_update (Option.map HealthRow.observation) _ _ _
    · rfl
    · rfl
  setQuota_board := by
    intro subject state reason deadline s
    apply Board.ext
    · rfl
    · change (fun key => ((s.quotaState.upsert _ _).get? key).map QuotaRow.observation) = _
      rw [UpsertTable.get?_upsert_eq_update]
      exact Function.comp_update (Option.map QuotaRow.observation) _ _ _
    · rfl
  setCredential_board := by
    intro subject state reason s
    obtain ⟨provider, credential, model⟩ := subject
    cases credential with
    | none => rfl
    | some credential =>
        apply Board.ext
        · rfl
        · rfl
        · change (fun key => ((s.credentialState.upsert _ _).get? key).map
            CredentialRow.state) = _
          rw [UpsertTable.get?_upsert_eq_update]
          exact Function.comp_update (Option.map CredentialRow.state) _ _ _
  record_board := fun _ _ => rfl

/-! ## Both implementations -/

/-- The two implementations of the store protocol. -/
inductive StoreKind where
  | inMemory
  | sqlite
deriving DecidableEq, Repr

namespace StoreKind

/-- The states of one implementation. -/
abbrev Contents : StoreKind → Type
  | .inMemory => InMemoryStateStore
  | .sqlite => SqliteStateStore

def store : (kind : StoreKind) → StateStore kind.Contents
  | .inMemory => InMemoryStateStore.store
  | .sqlite => SqliteStateStore.store

def empty : (kind : StoreKind) → kind.Contents
  | .inMemory => InMemoryStateStore.empty
  | .sqlite => SqliteStateStore.empty

def scopedStore : (kind : StoreKind) → ScopedStore kind.store
  | .inMemory => inMemoryScoped
  | .sqlite => sqliteScoped

theorem board_empty (kind : StoreKind) :
    (kind.scopedStore.board kind.empty) = Board.blank := by
  cases kind <;> rfl

/-! ### What a subject reads of its own scope -/

/-- The row of its own scope is the first health row a subject reads. -/
theorem readsHealth_self {kind : StoreKind} (board : Board kind.scopedStore.scheme)
    (subject : StateSubject) : board.ReadsHealth subject subject := by
  have first : ∃ rest, kind.scopedStore.scheme.healthChain subject =
      kind.scopedStore.scheme.healthKey subject :: rest := by
    obtain ⟨provider, credential, model⟩ := subject
    cases kind with
    | inMemory => exact ⟨_, rfl⟩
    | sqlite => cases model <;> exact ⟨_, rfl⟩
  obtain ⟨rest, chain⟩ := first
  unfold Board.ReadsHealth
  rw [chain, moreSpecific_cons_self]
  exact ⟨List.mem_cons_self, rfl⟩

/-- The row of its own scope is the first quota row a subject reads. -/
theorem readsQuota_self {kind : StoreKind} (board : Board kind.scopedStore.scheme)
    (subject : StateSubject) : board.ReadsQuota subject subject := by
  have first : ∃ rest, kind.scopedStore.scheme.quotaChain subject =
      kind.scopedStore.scheme.quotaKey subject :: rest := by
    obtain ⟨provider, credential, model⟩ := subject
    cases kind with
    | inMemory => exact ⟨_, rfl⟩
    | sqlite => cases credential <;> cases model <;> exact ⟨_, rfl⟩
  obtain ⟨rest, chain⟩ := first
  unfold Board.ReadsQuota
  rw [chain, moreSpecific_cons_self]
  exact ⟨List.mem_cons_self, rfl⟩

/-! ### Which writes a reader's chain can reach

An absent component and, in SQLite, an empty one name the wider scope; any
other component of the written subject must be the reader's own. -/

theorem healthKey_mem_healthChain {kind : StoreKind} {written reader : StateSubject}
    (member : kind.scopedStore.scheme.healthKey written ∈
      kind.scopedStore.scheme.healthChain reader) :
    written.providerId = reader.providerId ∧
      (scopeKey written.concreteModel = "" ∨ written.concreteModel = reader.concreteModel) := by
  obtain ⟨provider, credential, model⟩ := written
  obtain ⟨provider', credential', model'⟩ := reader
  cases kind with
  | inMemory =>
      change (provider, credential, model) ∈
        InMemoryStateStore.fallbackKeys ⟨provider', credential', model'⟩ at member
      simp only [InMemoryStateStore.fallbackKeys, List.mem_cons, Prod.mk.injEq,
        List.not_mem_nil, or_false] at member
      rcases member with ⟨p, -, m⟩ | ⟨p, -, m⟩ | ⟨p, -, m⟩ | ⟨p, -, m⟩
      · exact ⟨p, Or.inr m⟩
      · exact ⟨p, Or.inr m⟩
      · exact ⟨p, Or.inl (by simp [m, scopeKey])⟩
      · exact ⟨p, Or.inl (by simp [m, scopeKey])⟩
  | sqlite =>
      change (provider, scopeKey model) ∈ sqliteHealthChain ⟨provider', credential', model'⟩
        at member
      cases model' with
      | none =>
          simp only [sqliteHealthChain, List.mem_singleton, Prod.mk.injEq] at member
          exact ⟨member.1, Or.inl member.2⟩
      | some model' =>
          simp only [sqliteHealthChain, List.mem_cons, List.not_mem_nil, or_false,
            Prod.mk.injEq] at member
          rcases member with ⟨p, m⟩ | ⟨p, m⟩
          · cases model with
            | none => exact ⟨p, Or.inl rfl⟩
            | some model => exact ⟨p, Or.inr (congrArg some m)⟩
          · exact ⟨p, Or.inl m⟩

theorem quotaKey_mem_quotaChain {kind : StoreKind} {written reader : StateSubject}
    (member : kind.scopedStore.scheme.quotaKey written ∈
      kind.scopedStore.scheme.quotaChain reader) :
    written.providerId = reader.providerId ∧
      (scopeKey written.credentialId = "" ∨ written.credentialId = reader.credentialId) ∧
      (scopeKey written.concreteModel = "" ∨ written.concreteModel = reader.concreteModel) := by
  have component : ∀ {component : Option String} {value : String},
      scopeKey component = value → scopeKey component = "" ∨ component = some value := by
    intro component value equal
    cases component with
    | none => exact Or.inl rfl
    | some own => exact Or.inr (congrArg some equal)
  obtain ⟨provider, credential, model⟩ := written
  obtain ⟨provider', credential', model'⟩ := reader
  cases kind with
  | inMemory =>
      change (provider, credential, model) ∈
        InMemoryStateStore.fallbackKeys ⟨provider', credential', model'⟩ at member
      simp only [InMemoryStateStore.fallbackKeys, List.mem_cons, Prod.mk.injEq,
        List.not_mem_nil, or_false] at member
      rcases member with ⟨p, c, m⟩ | ⟨p, c, m⟩ | ⟨p, c, m⟩ | ⟨p, c, m⟩
      · exact ⟨p, Or.inr c, Or.inr m⟩
      · exact ⟨p, Or.inl (by simp [c, scopeKey]), Or.inr m⟩
      · exact ⟨p, Or.inr c, Or.inl (by simp [m, scopeKey])⟩
      · exact ⟨p, Or.inl (by simp [c, scopeKey]), Or.inl (by simp [m, scopeKey])⟩
  | sqlite =>
      change (provider, scopeKey credential, scopeKey model) ∈
        sqliteQuotaChain ⟨provider', credential', model'⟩ at member
      cases credential' with
      | none =>
          cases model' with
          | none =>
              simp only [sqliteQuotaChain, List.mem_singleton, Prod.mk.injEq] at member
              exact ⟨member.1, Or.inl member.2.1, Or.inl member.2.2⟩
          | some model' =>
              simp only [sqliteQuotaChain, List.mem_cons, List.not_mem_nil, or_false,
                Prod.mk.injEq] at member
              rcases member with ⟨p, c, m⟩ | ⟨p, c, m⟩
              · exact ⟨p, Or.inl c, component m⟩
              · exact ⟨p, Or.inl c, Or.inl m⟩
      | some credential' =>
          cases model' with
          | none =>
              simp only [sqliteQuotaChain, List.mem_cons, List.not_mem_nil, or_false,
                Prod.mk.injEq] at member
              rcases member with ⟨p, c, m⟩ | ⟨p, c, m⟩
              · exact ⟨p, component c, Or.inl m⟩
              · exact ⟨p, Or.inl c, Or.inl m⟩
          | some model' =>
              simp only [sqliteQuotaChain, List.mem_cons, List.not_mem_nil, or_false,
                Prod.mk.injEq] at member
              rcases member with ⟨p, c, m⟩ | ⟨p, c, m⟩ | ⟨p, c, m⟩
              · exact ⟨p, component c, component m⟩
              · exact ⟨p, component c, Or.inl m⟩
              · exact ⟨p, Or.inl c, Or.inl m⟩

theorem credentialKey_eq {kind : StoreKind} {written reader : StateSubject}
    (present : (kind.scopedStore.scheme.credentialKey written).isSome)
    (same : kind.scopedStore.scheme.credentialKey written =
      kind.scopedStore.scheme.credentialKey reader) :
    written.providerId = reader.providerId ∧ written.credentialId = reader.credentialId := by
  obtain ⟨provider, credential, model⟩ := written
  obtain ⟨provider', credential', model'⟩ := reader
  cases kind with
  | inMemory =>
      change some (provider, credential) = some (provider', credential') at same
      simpa using same
  | sqlite =>
      change (credential.map fun id => (provider, id)).isSome at present
      change (credential.map fun id => (provider, id)) =
        (credential'.map fun id => (provider', id)) at same
      cases credential with
      | none => simp at present
      | some credential =>
          cases credential' with
          | none => simp at same
          | some credential' => simpa using same

end StoreKind

end AutoRouteGateway.State

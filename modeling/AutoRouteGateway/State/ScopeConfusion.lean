import Mathlib.Data.Finset.Basic
import Mathlib.Data.Fintype.EquivFin
import AutoRouteGateway.State.DocumentedScopes

/-!
Contract: which scopes must not be written for the documented chains to hold.

A scope that is not regular for an implementation is confused with another
one: it shares a row with it, or stands on a chain that the documentation
leaves it out of. Writing the worst state there and a good state everywhere
else makes some reader see the worst state off its documented chain.

Owns: the exact scopes whose writes are read as documented.
-/

namespace AutoRouteGateway.State

open AutoRouteGateway.Domain
open AutoRouteGateway.Library

/-! ## One marked scope -/

def markedHealth (target subject : StateSubject) : HealthState :=
  if subject = target then .down else .healthy

def markedQuota (target subject : StateSubject) : QuotaState :=
  if subject = target then .exhausted else .available

/-- The call that writes the worst state at the target and a good one elsewhere. -/
def marked (target : StateSubject) : Dimension × StateSubject → ScopeWrite
  | (.health, subject) => .health subject (markedHealth target subject) "" none
  | (.quota, subject) => .quota subject (markedQuota target subject) "" none

theorem scope_marked (target : StateSubject) (scope : Dimension × StateSubject) :
    (marked target scope).scope = scope := by
  obtain ⟨dimension, subject⟩ := scope
  cases dimension <;> rfl

def healthScope? : Dimension × StateSubject → Option StateSubject
  | (.health, subject) => some subject
  | (.quota, _) => none

def quotaScope? : Dimension × StateSubject → Option StateSubject
  | (.health, _) => none
  | (.quota, subject) => some subject

section Marked

variable (scopes : List (Dimension × StateSubject)) (target : StateSubject)

theorem mem_healthScopes {subject : StateSubject} :
    subject ∈ scopes.filterMap healthScope? ↔ (.health, subject) ∈ scopes := by
  rw [List.mem_filterMap]
  constructor
  · rintro ⟨⟨dimension, subject⟩, member, own⟩
    cases dimension with
    | health =>
        cases own
        exact member
    | quota => cases own
  · exact fun member => ⟨_, member, rfl⟩

theorem mem_quotaScopes {subject : StateSubject} :
    subject ∈ scopes.filterMap quotaScope? ↔ (.quota, subject) ∈ scopes := by
  rw [List.mem_filterMap]
  constructor
  · rintro ⟨⟨dimension, subject⟩, member, own⟩
    cases dimension with
    | health => cases own
    | quota =>
        cases own
        exact member
  · exact fun member => ⟨_, member, rfl⟩

theorem filterMap_health_marked :
    (scopes.map (marked target)).filterMap ScopeWrite.health? =
      (scopes.filterMap healthScope?).map fun subject =>
        (subject, (markedHealth target subject, none)) := by
  rw [List.filterMap_map, List.map_filterMap]
  congr 1
  funext scope
  obtain ⟨dimension, subject⟩ := scope
  cases dimension <;> rfl

theorem filterMap_quota_marked :
    (scopes.map (marked target)).filterMap ScopeWrite.quota? =
      (scopes.filterMap quotaScope?).map fun subject =>
        (subject, (markedQuota target subject, none)) := by
  rw [List.filterMap_map, List.map_filterMap]
  congr 1
  funext scope
  obtain ⟨dimension, subject⟩ := scope
  cases dimension <;> rfl

/-- The documented reading of the target is the worst state. -/
theorem documentedHealth_target {scopes : List (Dimension × StateSubject)}
    {target : StateSubject} (written : (.health, target) ∈ scopes) :
    documentedHealth (scopes.map (marked target)) target = .down := by
  rw [documentedHealth, filterMap_health_marked, documentedHealthChain, firstHit_cons,
    latest_map_self, if_pos ((mem_healthScopes scopes).mpr written)]
  simp [markedHealth]

theorem documentedQuota_target {scopes : List (Dimension × StateSubject)}
    {target : StateSubject} (written : (.quota, target) ∈ scopes) :
    documentedQuota (scopes.map (marked target)) target = .exhausted := by
  rw [documentedQuota, filterMap_quota_marked, documentedQuotaChain, firstHit_cons,
    latest_map_self, if_pos ((mem_quotaScopes scopes).mpr written)]
  simp [markedQuota]

/-- A reader whose documented chain leaves the target out does not read the
worst state. -/
theorem documentedHealth_marked_ne {reader : StateSubject}
    (outside : target ∉ documentedHealthChain reader) :
    documentedHealth (scopes.map (marked target)) reader ≠ .down := by
  rw [documentedHealth, filterMap_health_marked]
  cases found : firstHit (latest ((scopes.filterMap healthScope?).map fun subject =>
      (subject, (markedHealth target subject, (none : Option Instant)))))
      (documentedHealthChain reader) with
  | none => simp
  | some row =>
      obtain ⟨scope, onChain, written⟩ := mem_of_firstHit_latest_eq_some found
      obtain ⟨subject, -, own⟩ := List.mem_map.mp written
      have different : subject ≠ target := by
        intro same
        rw [Prod.mk.injEq] at own
        exact outside (same ▸ own.1 ▸ onChain)
      have healthy : row = (.healthy, none) := by
        rw [← (Prod.mk.inj own).2, markedHealth, if_neg different]
      simp [healthy]

theorem documentedQuota_marked_ne {reader : StateSubject}
    (outside : target ∉ documentedQuotaChain reader) :
    documentedQuota (scopes.map (marked target)) reader ≠ .exhausted := by
  rw [documentedQuota, filterMap_quota_marked]
  cases found : firstHit (latest ((scopes.filterMap quotaScope?).map fun subject =>
      (subject, (markedQuota target subject, (none : Option Instant)))))
      (documentedQuotaChain reader) with
  | none => simp
  | some row =>
      obtain ⟨scope, onChain, written⟩ := mem_of_firstHit_latest_eq_some found
      obtain ⟨subject, -, own⟩ := List.mem_map.mp written
      have different : subject ≠ target := by
        intro same
        rw [Prod.mk.injEq] at own
        exact outside (same ▸ own.1 ▸ onChain)
      have available : row = (.available, none) := by
        rw [← (Prod.mk.inj own).2, markedQuota, if_neg different]
      simp [available]

end Marked

/-! ## Where a scope is confused with another -/

theorem exists_fresh (used : List String) : ∃ name, name ∉ used := by
  obtain ⟨name, outside⟩ := Infinite.exists_notMem_finset used.toFinset
  exact ⟨name, fun member => outside (List.mem_toFinset.mpr member)⟩

/-- A subject that reads, for every content of the store, what the target reads. -/
def ReadsAlikeHealth (kind : StoreKind) (writes : List ScopeWrite)
    (target reader : StateSubject) : Prop :=
  kind.store.getHealth (afterWrites kind writes) reader =
    kind.store.getHealth (afterWrites kind writes) target

def ReadsAlikeQuota (kind : StoreKind) (writes : List ScopeWrite)
    (target reader : StateSubject) : Prop :=
  kind.store.getQuota (afterWrites kind writes) reader =
    kind.store.getQuota (afterWrites kind writes) target

/-- For a model of which nothing is known, the in-memory store reads the health
of the credential. -/
theorem inMemory_health_alike {writes : List ScopeWrite} {provider credential model : String}
    (fresh : ∀ write ∈ writes.filterMap ScopeWrite.health?, write.1.concreteModel ≠ some model) :
    ReadsAlikeHealth .inMemory writes ⟨provider, some credential, none⟩
      ⟨provider, some credential, some model⟩ := by
  have unknown : ∀ credential, latest (writes.filterMap ScopeWrite.health?)
      ⟨provider, credential, some model⟩ = none := by
    intro credential
    apply latest_eq_none_iff.mpr
    intro write member same
    exact fresh write member (same ▸ rfl)
  unfold ReadsAlikeHealth
  rw [getHealth_afterWrites, getHealth_afterWrites]
  refine congrArg (fun row : Option HealthObservation => (row.map Prod.fst).getD .unknown) ?_
  refine (firstHit_fallbackKeys _ _).trans (Eq.trans ?_ (firstHit_fallbackKeys _ _).symm)
  simp only [firstHit_cons, firstHit_nil, Option.or_none, modelScope, credentialScope,
    providerScope, unknown, Option.none_or]
  cases latest (writes.filterMap ScopeWrite.health?) ⟨provider, some credential, none⟩ <;> simp

/-- For a credential of which nothing is known, the in-memory store reads the
quota of the model. -/
theorem inMemory_quota_alike {writes : List ScopeWrite} {provider credential model : String}
    (fresh : ∀ write ∈ writes.filterMap ScopeWrite.quota?,
      write.1.credentialId ≠ some credential) :
    ReadsAlikeQuota .inMemory writes ⟨provider, none, some model⟩
      ⟨provider, some credential, some model⟩ := by
  have unknown : ∀ model, latest (writes.filterMap ScopeWrite.quota?)
      ⟨provider, some credential, model⟩ = none := by
    intro model
    apply latest_eq_none_iff.mpr
    intro write member same
    exact fresh write member (same ▸ rfl)
  unfold ReadsAlikeQuota
  rw [getQuota_afterWrites, getQuota_afterWrites]
  refine congrArg (fun row : Option QuotaObservation => (row.map Prod.fst).getD .unknown) ?_
  refine (firstHit_fallbackKeys _ _).trans (Eq.trans ?_ (firstHit_fallbackKeys _ _).symm)
  simp only [firstHit_cons, firstHit_nil, Option.or_none, modelScope, credentialScope,
    providerScope, unknown, Option.none_or]
  rw [← Option.or_assoc, Option.or_self, Option.or_self]

/-- Subjects that write one health row in SQLite read alike. -/
theorem sqlite_health_alike (writes : List ScopeWrite) {target reader : StateSubject}
    (same : sqliteScheme.healthKey reader = sqliteScheme.healthKey target) :
    ReadsAlikeHealth .sqlite writes target reader := by
  obtain ⟨provider, columns⟩ := Prod.mk.inj same
  unfold ReadsAlikeHealth
  rw [getHealth_afterWrites, getHealth_afterWrites]
  refine congrArg (fun row : Option HealthObservation => (row.map Prod.fst).getD .unknown) ?_
  refine (firstHit_sqliteHealthChain _ _).trans
    (Eq.trans ?_ (firstHit_sqliteHealthChain _ _).symm)
  rw [provider, columns]

theorem sqlite_quota_alike (writes : List ScopeWrite) {target reader : StateSubject}
    (same : sqliteScheme.quotaKey reader = sqliteScheme.quotaKey target) :
    ReadsAlikeQuota .sqlite writes target reader := by
  obtain ⟨provider, columns⟩ := Prod.mk.inj same
  obtain ⟨credential, model⟩ := Prod.mk.inj columns
  unfold ReadsAlikeQuota
  rw [getQuota_afterWrites, getQuota_afterWrites]
  refine congrArg (fun row : Option QuotaObservation => (row.map Prod.fst).getD .unknown) ?_
  refine (firstHit_sqliteQuotaChain _ _).trans
    (Eq.trans ?_ (firstHit_sqliteQuotaChain _ _).symm)
  rw [provider, credential, model]

/-! ## Irregular scopes -/

/-- A health scope that is not regular has a reader that reads alike, off its
documented chain. -/
theorem exists_confused_health {kind : StoreKind} {target : StateSubject}
    (irregular : ¬ Regular kind (.health, target)) (writes : List ScopeWrite) :
    ∃ reader, target ∉ documentedHealthChain reader ∧
      ReadsAlikeHealth kind writes target reader := by
  obtain ⟨provider, credential, model⟩ := target
  cases kind with
  | inMemory =>
      simp only [Regular, not_forall] at irregular
      obtain ⟨rfl, keyed⟩ := irregular
      obtain ⟨credential, rfl⟩ := Option.ne_none_iff_exists'.mp keyed
      obtain ⟨name, outside⟩ := exists_fresh
        ((writes.filterMap ScopeWrite.health?).filterMap fun write => write.1.concreteModel)
      refine ⟨⟨provider, some credential, some name⟩, ?_, inMemory_health_alike ?_⟩
      · simp [documentedHealthChain, modelScope, providerScope]
      · intro write member named
        exact outside (List.mem_filterMap.mpr ⟨write, member, named⟩)
  | sqlite =>
      cases credential with
      | some credential =>
          refine ⟨⟨provider, none, model⟩, ?_, sqlite_health_alike writes rfl⟩
          simp [documentedHealthChain, modelScope, providerScope]
      | none =>
          have empty : model = some "" := by
            by_contra named
            exact irregular ⟨rfl, named⟩
          refine ⟨⟨provider, none, none⟩, ?_, sqlite_health_alike writes ?_⟩
          · simp [documentedHealthChain, modelScope, providerScope, empty]
          · simp [sqliteScheme, scopeKey, empty]

theorem exists_confused_quota {kind : StoreKind} {target : StateSubject}
    (irregular : ¬ Regular kind (.quota, target)) (writes : List ScopeWrite) :
    ∃ reader, target ∉ documentedQuotaChain reader ∧
      ReadsAlikeQuota kind writes target reader := by
  obtain ⟨provider, credential, model⟩ := target
  cases kind with
  | inMemory =>
      simp only [Regular, not_forall] at irregular
      obtain ⟨rfl, named⟩ := irregular
      obtain ⟨model, rfl⟩ := Option.ne_none_iff_exists'.mp named
      obtain ⟨name, outside⟩ := exists_fresh
        ((writes.filterMap ScopeWrite.quota?).filterMap fun write => write.1.credentialId)
      refine ⟨⟨provider, some name, some model⟩, ?_, inMemory_quota_alike ?_⟩
      · simp [documentedQuotaChain, credentialScope, providerScope]
      · intro write member keyed
        exact outside (List.mem_filterMap.mpr ⟨write, member, keyed⟩)
  | sqlite =>
      by_cases empty : model = some ""
      · refine ⟨⟨provider, credential, none⟩, ?_, sqlite_quota_alike writes ?_⟩
        · simp [documentedQuotaChain, credentialScope, providerScope, empty]
        · simp [sqliteScheme, scopeKey, empty]
      · by_cases keyless : credential = some ""
        · refine ⟨⟨provider, none, model⟩, ?_, sqlite_quota_alike writes ?_⟩
          · simp [documentedQuotaChain, credentialScope, providerScope, keyless]
          · simp [sqliteScheme, scopeKey, keyless]
        · -- a model of the provider, which is the model of an empty credential
          have shape : credential = none ∧ model ≠ none := by
            by_contra other
            refine irregular ⟨fun absent => ?_, keyless, empty⟩
            by_contra present
            exact other ⟨absent, present⟩
          refine ⟨⟨provider, some "", model⟩, ?_, sqlite_quota_alike writes ?_⟩
          · simp [documentedQuotaChain, credentialScope, providerScope, shape]
          · simp [sqliteScheme, scopeKey, shape]

/-- Scope lookup follows the documented chains, for every sequence of writes at
the given scopes, exactly when each of these scopes is regular for the
implementation. -/
theorem readsAsDocumented_iff_regular (kind : StoreKind)
    (scopes : List (Dimension × StateSubject)) :
    (∀ writes : List ScopeWrite, writes.map ScopeWrite.scope = scopes →
        ReadsAsDocumented kind writes) ↔
      ∀ scope ∈ scopes, Regular kind scope := by
  constructor
  · intro documented scope written
    by_contra irregular
    obtain ⟨dimension, target⟩ := scope
    have sameScopes : (scopes.map (marked target)).map ScopeWrite.scope = scopes := by
      rw [List.map_map]
      exact List.map_id'' (scope_marked target) scopes
    have reads := documented _ sameScopes
    cases dimension with
    | health =>
        obtain ⟨reader, outside, alike⟩ := exists_confused_health irregular
          (scopes.map (marked target))
        apply documentedHealth_marked_ne scopes target outside
        calc documentedHealth (scopes.map (marked target)) reader
            = documentedHealth (scopes.map (marked target)) target := by
              rw [← reads.health, ← reads.health, alike]
          _ = .down := documentedHealth_target written
    | quota =>
        obtain ⟨reader, outside, alike⟩ := exists_confused_quota irregular
          (scopes.map (marked target))
        apply documentedQuota_marked_ne scopes target outside
        calc documentedQuota (scopes.map (marked target)) reader
            = documentedQuota (scopes.map (marked target)) target := by
              rw [← reads.quota, ← reads.quota, alike]
          _ = .exhausted := documentedQuota_target written
  · intro regular writes sameScopes
    apply readsAsDocumented_of_regular
    intro write member
    exact regular _ (sameScopes ▸ List.mem_map_of_mem member)

/-- In memory, health written for a credential is read for its models, where
nothing is documented to be seen. In SQLite, health written for one credential
and model is read for another credential. -/
theorem credential_health_leaks :
    (let writes := [ScopeWrite.health ⟨"claude", some "key-1", none⟩ .down "" none]
     let reader : StateSubject := ⟨"claude", some "key-1", some "sonnet"⟩
     InMemoryStateStore.store.getHealth (afterWrites .inMemory writes) reader = .down ∧
       documentedHealth writes reader = .unknown) ∧
      (let writes := [ScopeWrite.health ⟨"claude", some "key-1", some "sonnet"⟩ .down "" none]
       let reader : StateSubject := ⟨"claude", some "key-2", some "sonnet"⟩
       SqliteStateStore.store.getHealth (afterWrites .sqlite writes) reader = .down ∧
         documentedHealth writes reader = .unknown) ∧
      ¬ (∀ kind writes, ReadsAsDocumented kind writes) := by
  refine ⟨by decide, by decide, ?_⟩
  intro always
  have documented := (always .inMemory
    [ScopeWrite.health ⟨"claude", some "key-1", none⟩ .down "" none]).health
      ⟨"claude", some "key-1", some "sonnet"⟩
  revert documented
  decide

end AutoRouteGateway.State

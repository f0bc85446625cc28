import AutoRouteGateway.State.Stores

/-!
Contract: what a subject reads, against the documented chains of scopes.

Health is documented to be read at `(p, c, m)`, `(p, m)` and `(p)`, quota at
`(p, c, m)`, `(p, c)` and `(p)`, the first scope with an observation deciding.
The in-memory store reads both through one chain of four keys. SQLite keeps no
credential in its health rows and writes an absent component as an empty one.

Owns: the documented readings, and the exact scopes whose writes the two
implementations keep to them.
-/

namespace AutoRouteGateway.State

open AutoRouteGateway.Domain
open AutoRouteGateway.Library

/-! ## Sequences of writes -/

/-- A `set_health` or `set_quota` call. -/
inductive ScopeWrite where
  | health (subject : StateSubject) (state : HealthState) (reason : String)
      (cooldownUntil : Option Instant)
  | quota (subject : StateSubject) (state : QuotaState) (reason : String)
      (cooldownUntil : Option Instant)
deriving DecidableEq, Repr

inductive Dimension where
  | health
  | quota
deriving DecidableEq, Repr

/-- Where a call writes. -/
def ScopeWrite.scope : ScopeWrite → Dimension × StateSubject
  | .health subject _ _ _ => (.health, subject)
  | .quota subject _ _ _ => (.quota, subject)

def ScopeWrite.run (kind : StoreKind) (s : kind.Contents) : ScopeWrite → kind.Contents
  | .health subject state reason cooldownUntil =>
      (kind.store.setHealth subject state reason cooldownUntil s).state
  | .quota subject state reason cooldownUntil =>
      (kind.store.setQuota subject state reason cooldownUntil s).state

/-- The contents after the calls, from an empty store. -/
def afterWrites (kind : StoreKind) (writes : List ScopeWrite) : kind.Contents :=
  writes.foldl (ScopeWrite.run kind) kind.empty

/-- The health observation a call writes, with the subject as it was given. -/
def ScopeWrite.health? : ScopeWrite → Option (StateSubject × HealthObservation)
  | .health subject state _ cooldownUntil => some (subject, (state, cooldownUntil))
  | .quota _ _ _ _ => none

def ScopeWrite.quota? : ScopeWrite → Option (StateSubject × QuotaObservation)
  | .health _ _ _ _ => none
  | .quota subject state _ cooldownUntil => some (subject, (state, cooldownUntil))

/-! ## The documented readings -/

/-- The subject without its credential. -/
def modelScope (subject : StateSubject) : StateSubject := { subject with credentialId := none }

/-- The subject without its model. -/
def credentialScope (subject : StateSubject) : StateSubject :=
  { subject with concreteModel := none }

def providerScope (subject : StateSubject) : StateSubject :=
  { subject with credentialId := none, concreteModel := none }

def documentedHealthChain (subject : StateSubject) : List StateSubject :=
  [subject, modelScope subject, providerScope subject]

def documentedQuotaChain (subject : StateSubject) : List StateSubject :=
  [subject, credentialScope subject, providerScope subject]

/-- The state last written at the first scope of the chain with a write. -/
def documentedHealth (writes : List ScopeWrite) (reader : StateSubject) : HealthState :=
  ((firstHit (latest (writes.filterMap ScopeWrite.health?)) (documentedHealthChain reader)).map
    Prod.fst).getD .unknown

def documentedQuota (writes : List ScopeWrite) (reader : StateSubject) : QuotaState :=
  ((firstHit (latest (writes.filterMap ScopeWrite.quota?)) (documentedQuotaChain reader)).map
    Prod.fst).getD .unknown

/-- Both dimensions read as documented, and so a write for one credential is
not read for another credential of the provider. -/
structure ReadsAsDocumented (kind : StoreKind) (writes : List ScopeWrite) : Prop where
  health : ∀ reader, kind.store.getHealth (afterWrites kind writes) reader =
    documentedHealth writes reader
  quota : ∀ reader, kind.store.getQuota (afterWrites kind writes) reader =
    documentedQuota writes reader
  isolated : ∀ earlier write later, writes = earlier ++ write :: later →
    ∀ own, write.scope.2.credentialId = some own →
      ∀ reader other, reader.credentialId = some other → other ≠ own →
        kind.store.getHealth (afterWrites kind (earlier ++ [write])) reader =
            kind.store.getHealth (afterWrites kind earlier) reader ∧
          kind.store.getQuota (afterWrites kind (earlier ++ [write])) reader =
            kind.store.getQuota (afterWrites kind earlier) reader

/-- The scopes an implementation writes and reads as documented: in memory, no
health for a credential without a model and no quota for a model without a
credential; in SQLite, no health for a credential, no quota for a model without
a credential, and no empty component. -/
def Regular : StoreKind → Dimension × StateSubject → Prop
  | .inMemory, (.health, subject) =>
      subject.concreteModel = none → subject.credentialId = none
  | .inMemory, (.quota, subject) =>
      subject.credentialId = none → subject.concreteModel = none
  | .sqlite, (.health, subject) =>
      subject.credentialId = none ∧ subject.concreteModel ≠ some ""
  | .sqlite, (.quota, subject) =>
      (subject.credentialId = none → subject.concreteModel = none) ∧
        subject.credentialId ≠ some "" ∧ subject.concreteModel ≠ some ""

/-! ## Rows after the writes -/

section Rows

variable (kind : StoreKind) (writes : List ScopeWrite)

/-- The written observations, under the keys of the implementation. -/
def keyedHealth : List (kind.scopedStore.scheme.HealthKey × HealthObservation) :=
  (writes.filterMap ScopeWrite.health?).map fun write =>
    (kind.scopedStore.scheme.healthKey write.1, write.2)

def keyedQuota : List (kind.scopedStore.scheme.QuotaKey × QuotaObservation) :=
  (writes.filterMap ScopeWrite.quota?).map fun write =>
    (kind.scopedStore.scheme.quotaKey write.1, write.2)

/-- A health row holds the last observation written under its key. -/
theorem health_afterWrites :
    (kind.scopedStore.board (afterWrites kind writes)).health =
      latest (keyedHealth kind writes) := by
  rw [keyedHealth, List.map_filterMap, ← replay_blank]
  have start : (kind.scopedStore.board kind.empty).health = fun _ => none :=
    congrArg Board.health (StoreKind.board_empty kind)
  rw [← start]
  apply rows_foldl _ fun s => (kind.scopedStore.board s).health
  intro s write
  cases write with
  | health subject state reason cooldownUntil =>
      rw [ScopeWrite.run, kind.scopedStore.setHealth_board]
      rfl
  | quota subject state reason cooldownUntil =>
      rw [ScopeWrite.run, kind.scopedStore.setQuota_board]
      rfl

theorem quota_afterWrites :
    (kind.scopedStore.board (afterWrites kind writes)).quota =
      latest (keyedQuota kind writes) := by
  rw [keyedQuota, List.map_filterMap, ← replay_blank]
  have start : (kind.scopedStore.board kind.empty).quota = fun _ => none :=
    congrArg Board.quota (StoreKind.board_empty kind)
  rw [← start]
  apply rows_foldl _ fun s => (kind.scopedStore.board s).quota
  intro s write
  cases write with
  | health subject state reason cooldownUntil =>
      rw [ScopeWrite.run, kind.scopedStore.setHealth_board]
      rfl
  | quota subject state reason cooldownUntil =>
      rw [ScopeWrite.run, kind.scopedStore.setQuota_board]
      rfl

theorem getHealth_afterWrites (reader : StateSubject) :
    kind.store.getHealth (afterWrites kind writes) reader =
      ((firstHit (latest (keyedHealth kind writes))
        (kind.scopedStore.scheme.healthChain reader)).map Prod.fst).getD .unknown := by
  rw [kind.scopedStore.getHealth_eq, Board.seenHealth, health_afterWrites]

theorem getQuota_afterWrites (reader : StateSubject) :
    kind.store.getQuota (afterWrites kind writes) reader =
      ((firstHit (latest (keyedQuota kind writes))
        (kind.scopedStore.scheme.quotaChain reader)).map Prod.fst).getD .unknown := by
  rw [kind.scopedStore.getQuota_eq, Board.seenQuota, quota_afterWrites]

end Rows

/-! ## Regular scopes are read as documented -/

section RegularScopes

variable {kind : StoreKind} {writes : List ScopeWrite}

/-- Every call writes a scope that is regular for the implementation. -/
def AllRegular (kind : StoreKind) (writes : List ScopeWrite) : Prop :=
  ∀ write ∈ writes, Regular kind write.scope

theorem regular_of_mem_health (regular : AllRegular kind writes)
    {write : StateSubject × HealthObservation}
    (member : write ∈ writes.filterMap ScopeWrite.health?) :
    Regular kind (.health, write.1) := by
  obtain ⟨call, inWrites, own⟩ := List.mem_filterMap.mp member
  cases call with
  | health subject state reason cooldownUntil =>
      cases own
      exact regular _ inWrites
  | quota subject state reason cooldownUntil => cases own

theorem regular_of_mem_quota (regular : AllRegular kind writes)
    {write : StateSubject × QuotaObservation}
    (member : write ∈ writes.filterMap ScopeWrite.quota?) :
    Regular kind (.quota, write.1) := by
  obtain ⟨call, inWrites, own⟩ := List.mem_filterMap.mp member
  cases call with
  | health subject state reason cooldownUntil => cases own
  | quota subject state reason cooldownUntil =>
      cases own
      exact regular _ inWrites

/-- Nothing was written at a scope that is not regular. -/
theorem latest_health_irregular (regular : AllRegular kind writes) {subject : StateSubject}
    (irregular : ¬ Regular kind (.health, subject)) :
    latest (writes.filterMap ScopeWrite.health?) subject = none := by
  apply latest_eq_none_iff.mpr
  intro write member same
  exact irregular (same ▸ regular_of_mem_health regular member)

theorem latest_quota_irregular (regular : AllRegular kind writes) {subject : StateSubject}
    (irregular : ¬ Regular kind (.quota, subject)) :
    latest (writes.filterMap ScopeWrite.quota?) subject = none := by
  apply latest_eq_none_iff.mpr
  intro write member same
  exact irregular (same ▸ regular_of_mem_quota regular member)

/-! ### In memory -/

theorem key_injective : Function.Injective InMemoryStateStore.key := by
  intro left right same
  obtain ⟨provider, credential, model⟩ := left
  simp only [InMemoryStateStore.key, Prod.mk.injEq] at same
  obtain ⟨rfl, rfl, rfl⟩ := same
  rfl

theorem latest_key {ν : Type} (own : List (StateSubject × ν)) (subject : StateSubject) :
    latest (own.map fun write => (InMemoryStateStore.key write.1, write.2))
      (InMemoryStateStore.key subject) = latest own subject :=
  latest_map InMemoryStateStore.key subject fun _ _ same => key_injective same

/-- The four keys of a subject are those of itself and its three wider scopes. -/
theorem firstHit_fallbackKeys {ν : Type} (own : List (StateSubject × ν))
    (subject : StateSubject) :
    firstHit (latest (own.map fun write => (InMemoryStateStore.key write.1, write.2)))
        (InMemoryStateStore.fallbackKeys subject) =
      firstHit (latest own)
        [subject, modelScope subject, credentialScope subject, providerScope subject] := by
  have keys : InMemoryStateStore.fallbackKeys subject =
      [subject, modelScope subject, credentialScope subject, providerScope subject].map
        InMemoryStateStore.key := rfl
  rw [keys]
  simp only [List.map_cons, List.map_nil, firstHit_cons, firstHit_nil, latest_key]

theorem inMemory_health_documented (regular : AllRegular .inMemory writes)
    (reader : StateSubject) :
    firstHit (latest (keyedHealth .inMemory writes)) (inMemoryScheme.healthChain reader) =
      firstHit (latest (writes.filterMap ScopeWrite.health?)) (documentedHealthChain reader) := by
  refine (firstHit_fallbackKeys _ reader).trans ?_
  obtain ⟨provider, credential, model⟩ := reader
  simp only [documentedHealthChain, firstHit_cons, firstHit_nil, Option.or_none]
  cases credential with
  | none =>
      -- the extra scope is the provider's own
      have same : credentialScope ⟨provider, none, model⟩ = providerScope ⟨provider, none, model⟩ :=
        rfl
      rw [same, Option.or_self]
  | some credential =>
      have nothing : latest (writes.filterMap ScopeWrite.health?)
          (credentialScope ⟨provider, some credential, model⟩) = none := by
        apply latest_health_irregular regular
        simp [Regular, credentialScope]
      rw [nothing, Option.none_or]

theorem inMemory_quota_documented (regular : AllRegular .inMemory writes)
    (reader : StateSubject) :
    firstHit (latest (keyedQuota .inMemory writes)) (inMemoryScheme.quotaChain reader) =
      firstHit (latest (writes.filterMap ScopeWrite.quota?)) (documentedQuotaChain reader) := by
  refine (firstHit_fallbackKeys _ reader).trans ?_
  obtain ⟨provider, credential, model⟩ := reader
  simp only [documentedQuotaChain, firstHit_cons, firstHit_nil, Option.or_none]
  cases model with
  | none =>
      -- the extra scope is the provider's, and comes after the subject itself
      have widest : modelScope ⟨provider, credential, none⟩ =
          providerScope ⟨provider, credential, none⟩ := rfl
      have narrowest : credentialScope ⟨provider, credential, none⟩ =
          ⟨provider, credential, none⟩ := rfl
      rw [widest, narrowest]
      cases latest (writes.filterMap ScopeWrite.quota?) ⟨provider, credential, none⟩ <;> simp
  | some model =>
      have nothing : latest (writes.filterMap ScopeWrite.quota?)
          (modelScope ⟨provider, credential, some model⟩) = none := by
        apply latest_quota_irregular regular
        simp [Regular, modelScope]
      rw [nothing, Option.none_or]

/-! ### SQLite -/

/-- The component that a non-empty column stands for. -/
def fromScopeKey (column : String) : Option String :=
  if column = "" then none else some column

theorem fromScopeKey_scopeKey {component : Option String} (named : component ≠ some "") :
    fromScopeKey (scopeKey component) = component := by
  cases component with
  | none => rfl
  | some value =>
      have nonempty : value ≠ "" := fun empty => named (congrArg some empty)
      simp [fromScopeKey, scopeKey, nonempty]

theorem scopeKey_fromScopeKey (column : String) : scopeKey (fromScopeKey column) = column := by
  by_cases empty : column = "" <;> simp [fromScopeKey, scopeKey, empty]

/-- SQLite consults the same row twice where a component is absent. -/
theorem firstHit_sqliteHealthChain {ν : Type} (rows : String × String → Option ν)
    (reader : StateSubject) :
    firstHit rows (sqliteHealthChain reader) =
      (rows (reader.providerId, scopeKey reader.concreteModel)).or
        (rows (reader.providerId, "")) := by
  obtain ⟨provider, credential, model⟩ := reader
  cases model with
  | none => simp [sqliteHealthChain, firstHit_cons, scopeKey]
  | some model => simp [sqliteHealthChain, firstHit_cons, scopeKey]

theorem firstHit_sqliteQuotaChain {ν : Type} (rows : String × String × String → Option ν)
    (reader : StateSubject) :
    firstHit rows (sqliteQuotaChain reader) =
      (rows (reader.providerId, scopeKey reader.credentialId,
        scopeKey reader.concreteModel)).or
        ((rows (reader.providerId, scopeKey reader.credentialId, "")).or
          (rows (reader.providerId, "", ""))) := by
  obtain ⟨provider, credential, model⟩ := reader
  cases credential with
  | none =>
      cases model with
      | none => simp [sqliteQuotaChain, firstHit_cons, scopeKey]
      | some model => simp [sqliteQuotaChain, firstHit_cons, scopeKey]
  | some credential =>
      cases model with
      | none =>
          simp only [sqliteQuotaChain, firstHit_cons, firstHit_nil, Option.or_none, scopeKey]
          rw [← Option.or_assoc, Option.or_self]
      | some model => simp [sqliteQuotaChain, firstHit_cons, scopeKey]

theorem latest_sqlite_health (regular : AllRegular .sqlite writes) (provider model : String) :
    latest (keyedHealth .sqlite writes) (provider, model) =
      latest (writes.filterMap ScopeWrite.health?) ⟨provider, none, fromScopeKey model⟩ := by
  have faithful : ∀ write ∈ writes.filterMap ScopeWrite.health?,
      sqliteScheme.healthKey write.1 =
        sqliteScheme.healthKey ⟨provider, none, fromScopeKey model⟩ →
          write.1 = ⟨provider, none, fromScopeKey model⟩ := by
    intro write member same
    obtain ⟨keyless, named⟩ := regular_of_mem_health regular member
    obtain ⟨⟨provider', credential', model'⟩, row⟩ := write
    change (provider', scopeKey model') = (provider, scopeKey (fromScopeKey model)) at same
    rw [scopeKey_fromScopeKey, Prod.mk.injEq] at same
    rw [← same.1, ← same.2, fromScopeKey_scopeKey named]
    exact congrArg (fun credential => StateSubject.mk provider' credential model') keyless
  have own := latest_map sqliteScheme.healthKey _ faithful
  rw [← own]
  change _ = latest _ (provider, scopeKey (fromScopeKey model))
  rw [scopeKey_fromScopeKey]
  rfl

theorem latest_sqlite_quota (regular : AllRegular .sqlite writes)
    (provider credential model : String) :
    latest (keyedQuota .sqlite writes) (provider, credential, model) =
      latest (writes.filterMap ScopeWrite.quota?)
        ⟨provider, fromScopeKey credential, fromScopeKey model⟩ := by
  have faithful : ∀ write ∈ writes.filterMap ScopeWrite.quota?,
      sqliteScheme.quotaKey write.1 =
        sqliteScheme.quotaKey ⟨provider, fromScopeKey credential, fromScopeKey model⟩ →
          write.1 = ⟨provider, fromScopeKey credential, fromScopeKey model⟩ := by
    intro write member same
    obtain ⟨-, keyNamed, modelNamed⟩ := regular_of_mem_quota regular member
    obtain ⟨⟨provider', credential', model'⟩, row⟩ := write
    change (provider', scopeKey credential', scopeKey model') =
      (provider, scopeKey (fromScopeKey credential), scopeKey (fromScopeKey model)) at same
    rw [scopeKey_fromScopeKey, scopeKey_fromScopeKey, Prod.mk.injEq, Prod.mk.injEq] at same
    rw [← same.1, ← same.2.1, ← same.2.2, fromScopeKey_scopeKey keyNamed,
      fromScopeKey_scopeKey modelNamed]
  have own := latest_map sqliteScheme.quotaKey _ faithful
  rw [← own]
  change _ = latest _ (provider, scopeKey (fromScopeKey credential),
    scopeKey (fromScopeKey model))
  rw [scopeKey_fromScopeKey, scopeKey_fromScopeKey]
  rfl

/-- Every scope of the documented health chain but the last two was never
written with a credential, so only the model and the provider are consulted. -/
theorem documentedHealth_sqlite (regular : AllRegular .sqlite writes) (reader : StateSubject) :
    firstHit (latest (writes.filterMap ScopeWrite.health?)) (documentedHealthChain reader) =
      (latest (writes.filterMap ScopeWrite.health?) (modelScope reader)).or
        (latest (writes.filterMap ScopeWrite.health?) (providerScope reader)) := by
  obtain ⟨provider, credential, model⟩ := reader
  simp only [documentedHealthChain, firstHit_cons, firstHit_nil, Option.or_none]
  cases credential with
  | none =>
      have same : modelScope ⟨provider, none, model⟩ = ⟨provider, none, model⟩ := rfl
      rw [same, ← Option.or_assoc, Option.or_self]
  | some credential =>
      have nothing : latest (writes.filterMap ScopeWrite.health?)
          ⟨provider, some credential, model⟩ = none := by
        apply latest_health_irregular regular
        simp [Regular]
      rw [nothing, Option.none_or]

theorem sqlite_health_documented (regular : AllRegular .sqlite writes) (reader : StateSubject) :
    firstHit (latest (keyedHealth .sqlite writes)) (sqliteScheme.healthChain reader) =
      firstHit (latest (writes.filterMap ScopeWrite.health?)) (documentedHealthChain reader) := by
  rw [documentedHealth_sqlite regular]
  refine (firstHit_sqliteHealthChain _ reader).trans ?_
  rw [latest_sqlite_health regular, latest_sqlite_health regular]
  have widest : fromScopeKey "" = none := rfl
  obtain ⟨provider, credential, model⟩ := reader
  simp only [modelScope, providerScope, widest]
  by_cases empty : model = some ""
  · -- an empty model is read as no model, and is never written
    have nothing : latest (writes.filterMap ScopeWrite.health?)
        ⟨provider, none, some ""⟩ = none := by
      apply latest_health_irregular regular
      simp [Regular]
    rw [empty, nothing, Option.none_or, scopeKey, widest, Option.or_self]
  · rw [fromScopeKey_scopeKey empty]

theorem sqlite_quota_documented (regular : AllRegular .sqlite writes) (reader : StateSubject) :
    firstHit (latest (keyedQuota .sqlite writes)) (sqliteScheme.quotaChain reader) =
      firstHit (latest (writes.filterMap ScopeWrite.quota?)) (documentedQuotaChain reader) := by
  refine (firstHit_sqliteQuotaChain _ reader).trans ?_
  rw [latest_sqlite_quota regular, latest_sqlite_quota regular, latest_sqlite_quota regular]
  have widest : fromScopeKey "" = none := rfl
  obtain ⟨provider, credential, model⟩ := reader
  simp only [documentedQuotaChain, firstHit_cons, firstHit_nil, Option.or_none, credentialScope,
    providerScope, widest]
  by_cases keyless : credential = some ""
  · -- an empty credential is read as no credential, which has no model of its own
    have unwritten : ∀ model, latest (writes.filterMap ScopeWrite.quota?)
        ⟨provider, some "", model⟩ = none := by
      intro model
      apply latest_quota_irregular regular
      simp [Regular]
    rw [keyless, unwritten, unwritten, Option.none_or, Option.none_or, scopeKey, widest,
      Option.or_self]
    cases column : fromScopeKey (scopeKey model) with
    | none => rw [Option.or_self]
    | some model =>
        have nothing : latest (writes.filterMap ScopeWrite.quota?)
            ⟨provider, none, some model⟩ = none := by
          apply latest_quota_irregular regular
          simp [Regular]
        rw [nothing, Option.none_or]
  · rw [fromScopeKey_scopeKey keyless]
    by_cases empty : model = some ""
    · have nothing : latest (writes.filterMap ScopeWrite.quota?)
          ⟨provider, credential, some ""⟩ = none := by
        apply latest_quota_irregular regular
        simp [Regular]
      rw [empty, nothing, Option.none_or, scopeKey, widest, ← Option.or_assoc, Option.or_self]
    · rw [fromScopeKey_scopeKey empty]

/-! ### Both implementations -/

theorem getHealth_documented (regular : AllRegular kind writes) (reader : StateSubject) :
    kind.store.getHealth (afterWrites kind writes) reader = documentedHealth writes reader := by
  rw [getHealth_afterWrites, documentedHealth]
  cases kind with
  | inMemory =>
      exact congrArg (fun row => (row.map Prod.fst).getD .unknown)
        (inMemory_health_documented regular reader)
  | sqlite =>
      exact congrArg (fun row => (row.map Prod.fst).getD .unknown)
        (sqlite_health_documented regular reader)

theorem getQuota_documented (regular : AllRegular kind writes) (reader : StateSubject) :
    kind.store.getQuota (afterWrites kind writes) reader = documentedQuota writes reader := by
  rw [getQuota_afterWrites, documentedQuota]
  cases kind with
  | inMemory =>
      exact congrArg (fun row => (row.map Prod.fst).getD .unknown)
        (inMemory_quota_documented regular reader)
  | sqlite =>
      exact congrArg (fun row => (row.map Prod.fst).getD .unknown)
        (sqlite_quota_documented regular reader)

end RegularScopes

/-! ## Isolation of credentials in the documented reading -/

/-- A scope of another credential is on neither chain of a reader. -/
theorem notMem_chains_of_credential {subject reader : StateSubject} {own other : String}
    (written : subject.credentialId = some own) (read : reader.credentialId = some other)
    (different : other ≠ own) :
    subject ∉ documentedHealthChain reader ∧ subject ∉ documentedQuotaChain reader := by
  have notReader : subject ≠ reader := by
    intro same
    rw [same, read] at written
    exact different (Option.some.inj written)
  have keyless : ∀ scope : StateSubject, scope.credentialId = none → subject ≠ scope := by
    intro scope none same
    rw [same, none] at written
    cases written
  have notCredential : subject ≠ credentialScope reader := by
    intro same
    have sameCredential : (credentialScope reader).credentialId = some own := same ▸ written
    exact different (Option.some.inj (read.symm.trans sameCredential))
  constructor
  · simp [documentedHealthChain, notReader, keyless (modelScope reader) rfl,
      keyless (providerScope reader) rfl]
  · simp [documentedQuotaChain, notReader, notCredential, keyless (providerScope reader) rfl]

/-- One more write off the reader's chains changes neither documented reading. -/
theorem documented_append_of_notMem (writes : List ScopeWrite) (write : ScopeWrite)
    {reader : StateSubject}
    (outside : write.scope.2 ∉ documentedHealthChain reader ∧
      write.scope.2 ∉ documentedQuotaChain reader) :
    documentedHealth (writes ++ [write]) reader = documentedHealth writes reader ∧
      documentedQuota (writes ++ [write]) reader = documentedQuota writes reader := by
  unfold documentedHealth documentedQuota
  rw [List.filterMap_append, List.filterMap_append]
  cases write with
  | health subject state reason cooldownUntil =>
      have same : firstHit (latest (writes.filterMap ScopeWrite.health? ++
          [(subject, (state, cooldownUntil))])) (documentedHealthChain reader) =
          firstHit (latest (writes.filterMap ScopeWrite.health?))
            (documentedHealthChain reader) := by
        apply firstHit_congr
        intro scope member
        have different : subject ≠ scope := fun equal => outside.1 (equal ▸ member)
        rw [latest_append_singleton, if_neg different]
      have none : [ScopeWrite.health subject state reason cooldownUntil].filterMap
          ScopeWrite.quota? = [] := rfl
      rw [none, List.append_nil]
      exact ⟨congrArg (fun row => (row.map Prod.fst).getD .unknown) same, rfl⟩
  | quota subject state reason cooldownUntil =>
      have same : firstHit (latest (writes.filterMap ScopeWrite.quota? ++
          [(subject, (state, cooldownUntil))])) (documentedQuotaChain reader) =
          firstHit (latest (writes.filterMap ScopeWrite.quota?))
            (documentedQuotaChain reader) := by
        apply firstHit_congr
        intro scope member
        have different : subject ≠ scope := fun equal => outside.2 (equal ▸ member)
        rw [latest_append_singleton, if_neg different]
      have none : [ScopeWrite.quota subject state reason cooldownUntil].filterMap
          ScopeWrite.health? = [] := rfl
      rw [none, List.append_nil]
      exact ⟨rfl, congrArg (fun row => (row.map Prod.fst).getD .unknown) same⟩

theorem readsAsDocumented_of_regular {kind : StoreKind} {writes : List ScopeWrite}
    (regular : AllRegular kind writes) : ReadsAsDocumented kind writes where
  health := getHealth_documented regular
  quota := getQuota_documented regular
  isolated := by
    intro earlier write later split own written reader other read different
    have before : AllRegular kind earlier := fun call member =>
      regular call (by simp [split, member])
    have after : AllRegular kind (earlier ++ [write]) := by
      intro call member
      rw [List.mem_append, List.mem_singleton] at member
      exact regular call (by simpa [split, or_assoc] using Or.inl member)
    obtain ⟨sameHealth, sameQuota⟩ := documented_append_of_notMem earlier write
      (notMem_chains_of_credential written read different)
    rw [getHealth_documented after, getHealth_documented before, getQuota_documented after,
      getQuota_documented before]
    exact ⟨sameHealth, sameQuota⟩

end AutoRouteGateway.State

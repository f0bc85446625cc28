import Mathlib.Data.Finset.Insert
import AutoRouteGateway.Library.NullableKeys
import AutoRouteGateway.State.Sqlite

/-!
Contract: the schema script a SQLite store runs when it opens its file.

Owns: the two scopes with their optional columns, the database the script works
on, its statements in order, and what the script makes of a file that an older
schema or an interrupted script left behind.

A statement is atomic and takes effect when it ends, so an interrupted script is
a prefix of it. The columns that no statement of the script reads or writes are
one value for each row. The tables the script only creates are known by name.
-/

namespace AutoRouteGateway.State

open AutoRouteGateway.Library

/-! ## Scopes -/

/-- The key of `provider_health`; an older schema admits a `NULL` model. -/
structure HealthScope where
  providerId : String
  model : Option String
deriving DecidableEq, Repr

/-- The key of `quota_state`; an older schema admits `NULL` in both components. -/
structure QuotaScope where
  providerId : String
  credentialId : Option String
  model : Option String
deriving DecidableEq, Repr

/-- `COALESCE(column, '')`. -/
def coalesce : Option String → String
  | some value => value
  | none => ""

/-- `(provider_id, COALESCE(model, ''))`. -/
def healthKey : NullableKey HealthScope (String × String) where
  normalize := fun scope => (scope.providerId, coalesce scope.model)
  embed := fun normal => ⟨normal.1, some normal.2⟩
  complete := fun scope => scope.model.isSome
  normalize_embed := fun _ => rfl
  complete_embed := fun _ => rfl
  embed_normalize := by
    rintro ⟨providerId, model⟩ complete
    cases model with
    | none => cases complete
    | some model => rfl

/-- `(provider_id, COALESCE(credential_id, ''), COALESCE(model, ''))`. -/
def quotaKey : NullableKey QuotaScope (String × String × String) where
  normalize := fun scope =>
    (scope.providerId, coalesce scope.credentialId, coalesce scope.model)
  embed := fun normal => ⟨normal.1, some normal.2.1, some normal.2.2⟩
  complete := fun scope => scope.credentialId.isSome && scope.model.isSome
  normalize_embed := fun _ => rfl
  complete_embed := fun _ => rfl
  embed_normalize := by
    rintro ⟨providerId, credentialId, model⟩ complete
    cases credentialId with
    | none => cases complete
    | some credentialId =>
        cases model with
        | none => cases complete
        | some model => rfl

/-- `SET model = '' WHERE model IS NULL`. -/
def fillHealthScope (scope : HealthScope) : HealthScope :=
  if scope.model = none then { scope with model := some "" } else scope

/-- `SET credential_id = COALESCE(credential_id, ''), model = COALESCE(model, '')`. -/
def fillQuotaScope (scope : QuotaScope) : QuotaScope :=
  { scope with
    credentialId := some (coalesce scope.credentialId)
    model := some (coalesce scope.model) }

theorem fillHealthScope_eq_fill : fillHealthScope = healthKey.fill := by
  funext scope
  obtain ⟨providerId, model⟩ := scope
  cases model <;> rfl

theorem fillQuotaScope_eq_fill : fillQuotaScope = quotaKey.fill := rfl

/-! ## The database -/

/-- The objects of the schema that the script creates and leaves alone. -/
inductive SchemaObject where
  | credentialState
  | routeEvents
  | idxRouteEventsReq
  | usageDaily
deriving DecidableEq, Repr

/-- The part of a database file the script works on; `η` and `θ` are the other
columns of the two tables. -/
@[ext]
structure Database (η θ : Type) where
  providerHealth : Option (KeyedTable healthKey η)
  quotaState : Option (KeyedTable quotaKey θ)
  objects : Finset SchemaObject

inductive ScriptError where
  | noSuchTable
  | violation (violation : KeyViolation)
deriving DecidableEq, Repr

/-- The statements of the script, under the tables they name. -/
inductive Statement where
  | createProviderHealth
  | createObject (object : SchemaObject)
  | createQuotaState
  | deleteSupersededHealth
  | fillHealthModel
  | deleteSupersededQuota
  | fillQuotaScope
  | createHealthIndex
  | createQuotaIndex
deriving DecidableEq, Repr

/-- `_init_schema`. -/
def initSchema : List Statement :=
  [.createProviderHealth, .createObject .credentialState, .createQuotaState,
    .createObject .routeEvents, .createObject .idxRouteEventsReq, .createObject .usageDaily,
    .deleteSupersededHealth, .fillHealthModel, .deleteSupersededQuota, .fillQuotaScope,
    .createHealthIndex, .createQuotaIndex]

/-- `CREATE TABLE IF NOT EXISTS`. -/
def createTable {κ ν χ : Type} {K : NullableKey κ ν} (table : Option (KeyedTable K χ)) :
    KeyedTable K χ :=
  table.getD .empty

/-- A statement over a table that has to exist. -/
def onTable {κ ν χ : Type} {K : NullableKey κ ν}
    (operation : KeyedTable K χ → Except KeyViolation (KeyedTable K χ)) :
    Option (KeyedTable K χ) → Except ScriptError (KeyedTable K χ)
  | none => .error .noSuchTable
  | some table =>
      match operation table with
      | .error violation => .error (.violation violation)
      | .ok table => .ok table

section Script

variable {η θ : Type}

def Database.setHealth (db : Database η θ) :
    Except ScriptError (KeyedTable healthKey η) → Except ScriptError (Database η θ)
  | .error error => .error error
  | .ok table => .ok { db with providerHealth := some table }

def Database.setQuota (db : Database η θ) :
    Except ScriptError (KeyedTable quotaKey θ) → Except ScriptError (Database η θ)
  | .error error => .error error
  | .ok table => .ok { db with quotaState := some table }

def execute (db : Database η θ) : Statement → Except ScriptError (Database η θ)
  | .createProviderHealth => .ok { db with providerHealth := some (createTable db.providerHealth) }
  | .createObject object => .ok { db with objects := insert object db.objects }
  | .createQuotaState => .ok { db with quotaState := some (createTable db.quotaState) }
  | .deleteSupersededHealth =>
      db.setHealth (onTable (fun table => .ok table.deleteSuperseded) db.providerHealth)
  | .fillHealthModel =>
      db.setHealth (onTable (KeyedTable.updateKeys fillHealthScope) db.providerHealth)
  | .deleteSupersededQuota =>
      db.setQuota (onTable (fun table => .ok table.deleteSuperseded) db.quotaState)
  | .fillQuotaScope =>
      db.setQuota (onTable (KeyedTable.updateKeys fillQuotaScope) db.quotaState)
  | .createHealthIndex => db.setHealth (onTable KeyedTable.createUniqueIndex db.providerHealth)
  | .createQuotaIndex => db.setQuota (onTable KeyedTable.createUniqueIndex db.quotaState)

/-- The statements one after the other, up to the first that fails. -/
def runScript : List Statement → Database η θ → Except ScriptError (Database η θ)
  | [], db => .ok db
  | statement :: rest, db =>
      match execute db statement with
      | .error error => .error error
      | .ok db => runScript rest db

/-! ## What the script leaves -/

/-- The compacted form of the file: both tables compacted, everything created. -/
def Database.migrated (db : Database η θ) : Database η θ where
  providerHealth := some (createTable db.providerHealth).compacted
  quotaState := some (createTable db.quotaState).compacted
  objects := {.credentialState, .routeEvents, .idxRouteEventsReq, .usageDaily}

theorem compacted_of_onTable {κ ν χ : Type} [DecidableEq ν] {K : NullableKey κ ν}
    {operation : KeyedTable K χ → Except KeyViolation (KeyedTable K χ)}
    (keeps : ∀ {table result}, operation table = .ok result → result.compacted = table.compacted)
    {table : Option (KeyedTable K χ)} {after : KeyedTable K χ}
    (ran : onTable operation table = .ok after) :
    after.compacted = (createTable table).compacted := by
  cases table with
  | none => cases ran
  | some table =>
      cases result : operation table with
      | error violation =>
          rw [onTable, result] at ran
          cases ran
      | ok changed =>
          rw [onTable, result] at ran
          cases ran
          exact keeps result

/-- A statement on `provider_health` that keeps the compacted table keeps the
compacted file. -/
theorem migrated_setHealth {db after : Database η θ}
    {operation : KeyedTable healthKey η → Except KeyViolation (KeyedTable healthKey η)}
    (keeps : ∀ {table result}, operation table = .ok result → result.compacted = table.compacted)
    (executed : db.setHealth (onTable operation db.providerHealth) = .ok after) :
    after.migrated = db.migrated := by
  cases ran : onTable operation db.providerHealth with
  | error error =>
      rw [ran] at executed
      cases executed
  | ok table =>
      rw [ran] at executed
      cases executed
      ext1
      · exact congrArg some (compacted_of_onTable keeps ran)
      · rfl
      · rfl

theorem migrated_setQuota {db after : Database η θ}
    {operation : KeyedTable quotaKey θ → Except KeyViolation (KeyedTable quotaKey θ)}
    (keeps : ∀ {table result}, operation table = .ok result → result.compacted = table.compacted)
    (executed : db.setQuota (onTable operation db.quotaState) = .ok after) :
    after.migrated = db.migrated := by
  cases ran : onTable operation db.quotaState with
  | error error =>
      rw [ran] at executed
      cases executed
  | ok table =>
      rw [ran] at executed
      cases executed
      ext1
      · rfl
      · exact congrArg some (compacted_of_onTable keeps ran)
      · rfl

/-- No statement changes the compacted form of the file. -/
theorem migrated_of_execute {db after : Database η θ} {statement : Statement}
    (executed : execute db statement = .ok after) : after.migrated = db.migrated := by
  have deletes {κ ν χ : Type} [DecidableEq ν] {K : NullableKey κ ν} {table result : KeyedTable K χ}
      (deleted : Except.ok (ε := KeyViolation) table.deleteSuperseded = .ok result) :
      result.compacted = table.compacted := by
    cases deleted
    exact table.compacted_deleteSuperseded
  cases statement with
  | createProviderHealth =>
      cases executed
      rfl
  | createObject object =>
      cases executed
      rfl
  | createQuotaState =>
      cases executed
      rfl
  | deleteSupersededHealth => exact migrated_setHealth deletes executed
  | fillHealthModel =>
      apply migrated_setHealth _ executed
      rw [fillHealthScope_eq_fill]
      exact KeyedTable.compacted_updateKeys
  | deleteSupersededQuota => exact migrated_setQuota deletes executed
  | fillQuotaScope =>
      apply migrated_setQuota _ executed
      rw [fillQuotaScope_eq_fill]
      exact KeyedTable.compacted_updateKeys
  | createHealthIndex => exact migrated_setHealth KeyedTable.compacted_createUniqueIndex executed
  | createQuotaIndex => exact migrated_setQuota KeyedTable.compacted_createUniqueIndex executed

theorem migrated_of_runScript {script : List Statement} {db after : Database η θ}
    (ran : runScript script db = .ok after) : after.migrated = db.migrated := by
  induction script generalizing db with
  | nil =>
      cases ran
      rfl
  | cons statement rest inductionHypothesis =>
      cases executed : execute db statement with
      | error error =>
          rw [runScript, executed] at ran
          cases ran
      | ok between =>
          rw [runScript, executed] at ran
          exact (inductionHypothesis ran).trans (migrated_of_execute executed)

/-- The whole script succeeds on every file and leaves its compacted form. -/
theorem runScript_initSchema (db : Database η θ) :
    runScript initSchema db = .ok db.migrated := by
  obtain ⟨health, healthFilled, healthIndexed⟩ :=
    (createTable db.providerHealth).compaction_succeeds
  obtain ⟨quota, quotaFilled, quotaIndexed⟩ := (createTable db.quotaState).compaction_succeeds
  have objects : insert SchemaObject.usageDaily (insert .idxRouteEventsReq
      (insert .routeEvents (insert .credentialState db.objects))) =
      {.credentialState, .routeEvents, .idxRouteEventsReq, .usageDaily} := by
    ext object
    cases object <;> simp
  simp only [initSchema, runScript, execute, Database.setHealth, Database.setQuota, onTable,
    fillHealthScope_eq_fill, fillQuotaScope_eq_fill, healthFilled, healthIndexed, quotaFilled,
    quotaIndexed, objects, Database.migrated]

/-- A script that succeeds has succeeded up to each of its statements. -/
theorem runScript_append {first second : List Statement} {db after : Database η θ}
    (ran : runScript (first ++ second) db = .ok after) :
    ∃ between, runScript first db = .ok between ∧ runScript second between = .ok after := by
  induction first generalizing db with
  | nil => exact ⟨db, rfl, ran⟩
  | cons statement rest inductionHypothesis =>
      cases executed : execute db statement with
      | error error =>
          rw [List.cons_append, runScript, executed] at ran
          cases ran
      | ok between =>
          rw [List.cons_append, runScript, executed] at ran
          rw [runScript, executed]
          exact inductionHypothesis ran

/-- The rows of a table that may not exist yet. -/
def tableRows {κ ν χ : Type} {K : NullableKey κ ν} (table : Option (KeyedTable K χ)) :
    List (KeyedRow κ χ) :=
  match table with
  | none => []
  | some table => table.rows

theorem compacts_createTable {κ ν χ : Type} [DecidableEq ν] {K : NullableKey κ ν}
    (table : Option (KeyedTable K χ)) :
    KeyedTable.Compacts K (tableRows table) (createTable table).compacted.rows := by
  cases table with
  | none => exact KeyedTable.compacts_compacted (KeyedTable.empty : KeyedTable K χ)
  | some table => exact KeyedTable.compacts_compacted table

/-- The script migrates every file an older schema may have left, running it
again changes nothing, and an interrupted run is made up for by a whole one. -/
theorem initSchema_migrates (db : Database η θ) :
    ∃ final, runScript initSchema db = .ok final ∧
      KeyedTable.Compacts healthKey (tableRows db.providerHealth)
        (tableRows final.providerHealth) ∧
      KeyedTable.Compacts quotaKey (tableRows db.quotaState) (tableRows final.quotaState) ∧
      runScript initSchema final = .ok final ∧
      ∀ executed, ∃ between, runScript (initSchema.take executed) db = .ok between ∧
        runScript initSchema between = .ok final := by
  have ran := runScript_initSchema db
  refine ⟨db.migrated, ran, compacts_createTable _, compacts_createTable _, ?_, ?_⟩
  · rw [runScript_initSchema, migrated_of_runScript ran]
  · intro executed
    rw [← List.take_append_drop executed initSchema] at ran
    obtain ⟨between, started, -⟩ := runScript_append ran
    refine ⟨between, started, ?_⟩
    rw [runScript_initSchema, migrated_of_runScript started]

/-- Three rows of one provider scope: the one with the greatest row number stays. -/
example : newestRows healthKey [⟨1, ⟨"p", none⟩, "DOWN"⟩, ⟨2, ⟨"p", some ""⟩, "HEALTHY"⟩,
    ⟨3, ⟨"p", none⟩, "DEGRADED"⟩, ⟨4, ⟨"p", some "m"⟩, "DOWN"⟩] =
    [⟨3, ⟨"p", none⟩, "DEGRADED"⟩, ⟨4, ⟨"p", some "m"⟩, "DOWN"⟩] := by decide

/-! ## The store opened on the file -/

/-- The rows by their normalized key, in row order. -/
def byKey {κ ν χ : Type} {K : NullableKey κ ν} (table : KeyedTable K χ)
    (isIndexed : table.indexed = true) : UpsertTable ν χ where
  rows := table.rows.map fun row => (K.normalize row.key, row.columns)
  keysNodup := by
    rw [List.Nodup, List.map_map, List.pairwise_map]
    exact table.admitted.uniqueIndex isIndexed

/-- The store reads the migrated tables; `credential_state` and `route_events`
are as they were. -/
def openStore (db : Database HealthRow QuotaRow)
    (credentialState : UpsertTable (String × String) CredentialRow)
    (routeEvents : List RouteEvent) : SqliteStateStore where
  providerHealth := byKey (createTable db.providerHealth).compacted rfl
  credentialState := credentialState
  quotaState := byKey (createTable db.quotaState).compacted rfl
  routeEvents := routeEvents

theorem get?_byKey_of_mem {κ ν χ : Type} [DecidableEq ν] {K : NullableKey κ ν}
    {table : KeyedTable K χ} (isIndexed : table.indexed = true) {row : KeyedRow κ χ}
    (member : row ∈ table.rows) :
    (byKey table isIndexed).get? (K.normalize row.key) = some row.columns := by
  have listed : (K.normalize row.key, row.columns) ∈ (byKey table isIndexed).rows :=
    List.mem_map_of_mem (f := fun row : KeyedRow κ χ => (K.normalize row.key, row.columns)) member
  exact lookupRows_eq_some_of_mem (byKey table isIndexed).keysNodup listed

/-- Under the scope of an older row the opened store finds the newest row of
this scope. -/
theorem get?_byKey_compacted {κ ν χ : Type} [DecidableEq ν] {K : NullableKey κ ν}
    (table : Option (KeyedTable K χ)) {old : KeyedRow κ χ} (isOld : old ∈ tableRows table) :
    ∃ newest ∈ tableRows table, K.normalize newest.key = K.normalize old.key ∧
      (∀ other ∈ tableRows table, K.normalize other.key = K.normalize old.key →
        other.rowid ≤ newest.rowid) ∧
      (byKey (createTable table).compacted rfl).get? (K.normalize old.key) =
        some newest.columns := by
  obtain ⟨newest, isRow, same, greatest, kept⟩ := (compacts_createTable table).newest old isOld
  refine ⟨newest, isRow, same, greatest, ?_⟩
  have member := (kept (newest.mapKey K.fill)).mpr rfl
  rw [← member.2]
  exact get?_byKey_of_mem rfl member.1

theorem scopeKey_eq_coalesce (value : Option String) : scopeKey value = coalesce value := by
  cases value <;> rfl

/-- Where an older `provider_health` had rows, reads see the newest of them. -/
theorem selectHealth_openStore (db : Database HealthRow QuotaRow)
    (credentialState : UpsertTable (String × String) CredentialRow)
    (routeEvents : List RouteEvent) (credentialId : Option String)
    {old : KeyedRow HealthScope HealthRow} (isOld : old ∈ tableRows db.providerHealth) :
    ∃ newest ∈ tableRows db.providerHealth,
      healthKey.normalize newest.key = healthKey.normalize old.key ∧
      (∀ other ∈ tableRows db.providerHealth,
        healthKey.normalize other.key = healthKey.normalize old.key →
          other.rowid ≤ newest.rowid) ∧
      (openStore db credentialState routeEvents).selectHealth
        ⟨old.key.providerId, credentialId, old.key.model⟩ = some newest.columns := by
  obtain ⟨newest, isRow, same, greatest, found⟩ := get?_byKey_compacted db.providerHealth isOld
  refine ⟨newest, isRow, same, greatest, ?_⟩
  unfold SqliteStateStore.selectHealth
  rw [scopeKey_eq_coalesce]
  change SqliteStateStore.fallBack _ _
    ((byKey (createTable db.providerHealth).compacted rfl).get? (healthKey.normalize old.key)) = _
  rw [found]
  rfl

/-- Where an older `quota_state` had rows, reads see the newest of them. -/
theorem selectQuota_openStore (db : Database HealthRow QuotaRow)
    (credentialState : UpsertTable (String × String) CredentialRow)
    (routeEvents : List RouteEvent)
    {old : KeyedRow QuotaScope QuotaRow} (isOld : old ∈ tableRows db.quotaState) :
    ∃ newest ∈ tableRows db.quotaState,
      quotaKey.normalize newest.key = quotaKey.normalize old.key ∧
      (∀ other ∈ tableRows db.quotaState,
        quotaKey.normalize other.key = quotaKey.normalize old.key →
          other.rowid ≤ newest.rowid) ∧
      (openStore db credentialState routeEvents).selectQuota
        ⟨old.key.providerId, old.key.credentialId, old.key.model⟩ = some newest.columns := by
  obtain ⟨newest, isRow, same, greatest, found⟩ := get?_byKey_compacted db.quotaState isOld
  refine ⟨newest, isRow, same, greatest, ?_⟩
  unfold SqliteStateStore.selectQuota
  rw [scopeKey_eq_coalesce, scopeKey_eq_coalesce]
  change SqliteStateStore.fallBack _ _ (SqliteStateStore.fallBack _ _
    ((byKey (createTable db.quotaState).compacted rfl).get? (quotaKey.normalize old.key))) = _
  rw [found]
  rfl

end Script

end AutoRouteGateway.State

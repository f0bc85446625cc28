import AutoRouteGateway.Library.KeyedUpsert
import AutoRouteGateway.State.InitSchema
import AutoRouteGateway.State.StoreMap

/-!
Contract: the SQLite store over the tables of its file.

The statements of a store address rows of tables whose keys have optional
columns, under the indexes the schema script creates. On a file the script has
been through, they do to the rows what the store of `State.Sqlite` does to its
tables, so this store is seen through that one.

Owns: the file, its opening by the script, the statements of the getters and
setters over it, and the view of it as a store.
-/

namespace AutoRouteGateway.State

open AutoRouteGateway.Domain
open AutoRouteGateway.Library

/-! ## Files -/

/-- What the file holds. -/
structure StoreFile where
  database : Database HealthRow QuotaRow
  credentialState : UpsertTable (String × String) CredentialRow
  routeEvents : List RouteEvent

/-- A file as an opened store finds it: the script has nothing left to do. -/
structure OpenedFile extends StoreFile where
  settled : database.migrated = database

namespace StoreFile

/-- The store that the file stands for, whatever schema it has. -/
def view (file : StoreFile) : SqliteStateStore :=
  openStore file.database file.credentialState file.routeEvents

/-- The first statements of the script, as far as it got. -/
def interrupted (executed : Nat) (file : StoreFile) : Except ScriptError StoreFile :=
  match runScript (initSchema.take executed) file.database with
  | .error error => .error error
  | .ok database => .ok { file with database := database }

/-- `SqliteStateStore(path)`. -/
def openFile (file : StoreFile) : Except ScriptError OpenedFile :=
  match ran : runScript initSchema file.database with
  | .error error => .error error
  | .ok database => .ok
      { file with
        database := database
        settled := by
          rw [runScript_initSchema] at ran
          cases ran
          exact migrated_of_runScript (runScript_initSchema file.database) }

/-- Two files with one compacted form have one view. -/
theorem view_of_migrated {file file' : StoreFile}
    (migrated : file'.database.migrated = file.database.migrated)
    (credentials : file'.credentialState = file.credentialState)
    (events : file'.routeEvents = file.routeEvents) : file'.view = file.view := by
  have health : (createTable file'.database.providerHealth).compacted =
      (createTable file.database.providerHealth).compacted :=
    Option.some.inj (congrArg Database.providerHealth migrated)
  have quota : (createTable file'.database.quotaState).compacted =
      (createTable file.database.quotaState).compacted :=
    Option.some.inj (congrArg Database.quotaState migrated)
  unfold view openStore
  simp only [health, quota, credentials, events]

/-- The script may stop after any statement: the file stands for the same store. -/
theorem interrupted_succeeds (executed : Nat) (file : StoreFile) :
    ∃ left, file.interrupted executed = .ok left ∧ left.view = file.view := by
  have whole := runScript_initSchema file.database
  rw [← List.take_append_drop executed initSchema] at whole
  obtain ⟨between, started, -⟩ := runScript_append whole
  unfold interrupted
  rw [started]
  exact ⟨_, rfl, view_of_migrated (migrated_of_runScript started) rfl rfl⟩

/-- Opening succeeds on every file, and changes nothing that the store can see. -/
theorem open_succeeds (file : StoreFile) :
    ∃ opened, file.openFile = .ok opened ∧ opened.toStoreFile.view = file.view := by
  unfold openFile
  split
  · rename_i error failed
    rw [runScript_initSchema] at failed
    cases failed
  · rename_i database ran
    exact ⟨_, rfl, view_of_migrated (migrated_of_runScript ran) rfl rfl⟩

end StoreFile

/-! ## The store over an opened file -/

namespace OpenedFile

/-- `provider_health`. -/
def health (file : OpenedFile) : KeyedTable healthKey HealthRow :=
  createTable file.database.providerHealth

/-- `quota_state`. -/
def quota (file : OpenedFile) : KeyedTable quotaKey QuotaRow :=
  createTable file.database.quotaState

theorem providerHealth_eq (file : OpenedFile) :
    file.database.providerHealth = some file.health.compacted :=
  (congrArg Database.providerHealth file.settled).symm

theorem quotaState_eq (file : OpenedFile) :
    file.database.quotaState = some file.quota.compacted :=
  (congrArg Database.quotaState file.settled).symm

theorem health_settled (file : OpenedFile) : file.health.Settled := by
  have isCompacted : file.health = file.health.compacted := by
    conv_lhs => rw [health, providerHealth_eq]
    rfl
  rw [isCompacted]
  exact KeyedTable.settled_compacted _

theorem quota_settled (file : OpenedFile) : file.quota.Settled := by
  have isCompacted : file.quota = file.quota.compacted := by
    conv_lhs => rw [quota, quotaState_eq]
    rfl
  rw [isCompacted]
  exact KeyedTable.settled_compacted _

theorem migrated_withHealth (file : OpenedFile) {table : KeyedTable healthKey HealthRow}
    (settled : table.Settled) :
    ({ file.database with providerHealth := some table } : Database HealthRow QuotaRow).migrated =
      { file.database with providerHealth := some table } := by
  ext1
  · exact congrArg some (KeyedTable.compacted_of_settled settled)
  · change file.database.migrated.quotaState = file.database.quotaState
    rw [file.settled]
  · change file.database.migrated.objects = file.database.objects
    rw [file.settled]

theorem migrated_withQuota (file : OpenedFile) {table : KeyedTable quotaKey QuotaRow}
    (settled : table.Settled) :
    ({ file.database with quotaState := some table } : Database HealthRow QuotaRow).migrated =
      { file.database with quotaState := some table } := by
  ext1
  · change file.database.migrated.providerHealth = file.database.providerHealth
    rw [file.settled]
  · exact congrArg some (KeyedTable.compacted_of_settled settled)
  · change file.database.migrated.objects = file.database.objects
    rw [file.settled]

/-- The file with another settled `provider_health`. -/
def withHealth (file : OpenedFile) (table : KeyedTable healthKey HealthRow)
    (settled : table.Settled) : OpenedFile where
  database := { file.database with providerHealth := some table }
  credentialState := file.credentialState
  routeEvents := file.routeEvents
  settled := file.migrated_withHealth settled

/-- The file with another settled `quota_state`. -/
def withQuota (file : OpenedFile) (table : KeyedTable quotaKey QuotaRow)
    (settled : table.Settled) : OpenedFile where
  database := { file.database with quotaState := some table }
  credentialState := file.credentialState
  routeEvents := file.routeEvents
  settled := file.migrated_withQuota settled

/-- The error of a violated index. -/
def uniqueError (index : String) : StoreError :=
  ⟨"UNIQUE constraint failed: index '" ++ index ++ "'"⟩

/-! ### Health -/

/-- The row both `get_health` and `get_cooldown` select. -/
def selectHealth (file : OpenedFile) (subject : StateSubject) : Option HealthRow :=
  SqliteStateStore.fallBack subject.concreteModel.isSome
    (file.health.find? ⟨subject.providerId, some ""⟩)
    (file.health.find? ⟨subject.providerId, some (scopeKey subject.concreteModel)⟩)

def getHealth (file : OpenedFile) (subject : StateSubject) : HealthState :=
  match file.selectHealth subject with
  | some row => row.state
  | none => .unknown

def setHealth (subject : StateSubject) (state : HealthState) (reason : String)
    (cooldownUntil : Option Instant) (file : OpenedFile) : StoreResult OpenedFile :=
  match written : file.health.put
      (healthKey.embed (subject.providerId, scopeKey subject.concreteModel))
      ⟨state, reason, cooldownUntil⟩ with
  | .error _ => .raised (uniqueError "ux_provider_health_normalized_scope") file
  | .ok table =>
      .done (file.withHealth table (KeyedTable.settled_of_put file.health_settled _ written))

/-! ### Quota -/

/-- The row both `get_quota` and `get_cooldown` select. -/
def selectQuota (file : OpenedFile) (subject : StateSubject) : Option QuotaRow :=
  let row := file.quota.find? ⟨subject.providerId, some (scopeKey subject.credentialId),
    some (scopeKey subject.concreteModel)⟩
  let row := SqliteStateStore.fallBack
    (subject.credentialId.isSome || subject.concreteModel.isSome)
    (file.quota.find? ⟨subject.providerId, some (scopeKey subject.credentialId), some ""⟩) row
  SqliteStateStore.fallBack subject.credentialId.isSome
    (file.quota.find? ⟨subject.providerId, some "", some ""⟩) row

def getQuota (file : OpenedFile) (subject : StateSubject) : QuotaState :=
  match file.selectQuota subject with
  | some row => row.state
  | none => .unknown

def setQuota (subject : StateSubject) (state : QuotaState) (reason : String)
    (cooldownUntil : Option Instant) (file : OpenedFile) : StoreResult OpenedFile :=
  match written : file.quota.put
      (quotaKey.embed (subject.providerId, scopeKey subject.credentialId,
        scopeKey subject.concreteModel))
      ⟨state, reason, cooldownUntil⟩ with
  | .error _ => .raised (uniqueError "ux_quota_normalized_scope") file
  | .ok table =>
      .done (file.withQuota table (KeyedTable.settled_of_put file.quota_settled _ written))

/-! ### Credentials, cooldowns and events -/

def getCredential (file : OpenedFile) (subject : StateSubject) : CredentialState :=
  match subject.credentialId with
  | none => .enabled
  | some credentialId =>
      match file.credentialState.get? (subject.providerId, credentialId) with
      | some row => row.state
      | none => .enabled

def setCredential (subject : StateSubject) (state : CredentialState) (reason : String)
    (file : OpenedFile) : StoreResult OpenedFile :=
  match subject.credentialId with
  | none => .raised SqliteStateStore.notNullError file
  | some credentialId =>
      .done { file with
        credentialState := file.credentialState.upsert
          (subject.providerId, credentialId) ⟨state, reason⟩ }

def getCooldown (file : OpenedFile) (subject : StateSubject) : Option Instant :=
  laterDeadline ((file.selectHealth subject).bind HealthRow.cooldownUntil)
    ((file.selectQuota subject).bind QuotaRow.cooldownUntil)

def recordRouteEvent (event : RouteEvent) (file : OpenedFile) : StoreResult OpenedFile :=
  .done { file with routeEvents := file.routeEvents ++ [event] }

/-- The statements of the store over the tables of its file. -/
def store : StateStore OpenedFile where
  getHealth := getHealth
  setHealth := setHealth
  getQuota := getQuota
  setQuota := setQuota
  getCredential := getCredential
  setCredential := setCredential
  getCooldown := getCooldown
  recordRouteEvent := recordRouteEvent

/-! ## The view -/

section View

variable (file : OpenedFile)

theorem rows_providerHealth_view :
    file.toStoreFile.view.providerHealth.rows = file.health.pairs := by
  have settled := KeyedTable.compacted_of_settled file.health_settled
  change (file.health.compacted).pairs = _
  rw [settled]

theorem rows_quotaState_view :
    file.toStoreFile.view.quotaState.rows = file.quota.pairs := by
  have settled := KeyedTable.compacted_of_settled file.quota_settled
  change (file.quota.compacted).pairs = _
  rw [settled]

theorem health_find? (normal : String × String) :
    file.health.find? (healthKey.embed normal) =
      file.toStoreFile.view.providerHealth.get? normal := by
  rw [KeyedTable.find?_embed file.health_settled, ← rows_providerHealth_view]
  rfl

theorem quota_find? (normal : String × String × String) :
    file.quota.find? (quotaKey.embed normal) =
      file.toStoreFile.view.quotaState.get? normal := by
  rw [KeyedTable.find?_embed file.quota_settled, ← rows_quotaState_view]
  rfl

theorem selectHealth_view (subject : StateSubject) :
    file.toStoreFile.view.selectHealth subject = file.selectHealth subject := by
  unfold SqliteStateStore.selectHealth
  rw [← health_find?, ← health_find?]
  rfl

theorem selectQuota_view (subject : StateSubject) :
    file.toStoreFile.view.selectQuota subject = file.selectQuota subject := by
  unfold SqliteStateStore.selectQuota
  rw [← quota_find?, ← quota_find?, ← quota_find?]
  rfl

theorem upsert_providerHealth_view {table : KeyedTable healthKey HealthRow}
    (settled : table.Settled) {normal : String × String} {row : HealthRow}
    (pairs : table.pairs = upsertRows normal row file.health.pairs) :
    (file.withHealth table settled).toStoreFile.view =
      { file.toStoreFile.view with
        providerHealth := file.toStoreFile.view.providerHealth.upsert normal row } := by
  have rows : (file.withHealth table settled).toStoreFile.view.providerHealth =
      file.toStoreFile.view.providerHealth.upsert normal row := by
    apply UpsertTable.eq_of_rows
    rw [rows_providerHealth_view]
    change table.pairs = upsertRows normal row file.toStoreFile.view.providerHealth.rows
    rw [rows_providerHealth_view, pairs]
  rw [← rows]
  rfl

theorem upsert_quotaState_view {table : KeyedTable quotaKey QuotaRow} (settled : table.Settled)
    {normal : String × String × String} {row : QuotaRow}
    (pairs : table.pairs = upsertRows normal row file.quota.pairs) :
    (file.withQuota table settled).toStoreFile.view =
      { file.toStoreFile.view with
        quotaState := file.toStoreFile.view.quotaState.upsert normal row } := by
  have rows : (file.withQuota table settled).toStoreFile.view.quotaState =
      file.toStoreFile.view.quotaState.upsert normal row := by
    apply UpsertTable.eq_of_rows
    rw [rows_quotaState_view]
    change table.pairs = upsertRows normal row file.toStoreFile.view.quotaState.rows
    rw [rows_quotaState_view, pairs]
  rw [← rows]
  rfl

end View

/-- The store over the file is seen as the one over its tables by key. -/
def viewMap : StoreMap store SqliteStateStore.store where
  read := fun file => file.toStoreFile.view
  getHealth := by
    intro file subject
    change SqliteStateStore.getHealth _ _ = getHealth file subject
    rw [SqliteStateStore.getHealth, selectHealth_view]
    rfl
  getQuota := by
    intro file subject
    change SqliteStateStore.getQuota _ _ = getQuota file subject
    rw [SqliteStateStore.getQuota, selectQuota_view]
    rfl
  getCredential := fun _ _ => rfl
  getCooldown := by
    intro file subject
    change SqliteStateStore.getCooldown _ _ = getCooldown file subject
    rw [SqliteStateStore.getCooldown, selectHealth_view, selectQuota_view]
    rfl
  setHealth := by
    intro subject state reason deadline file
    obtain ⟨after, written, settled, pairs⟩ := KeyedTable.put_settled file.health_settled
      (subject.providerId, scopeKey subject.concreteModel) ⟨state, reason, deadline⟩
    change SqliteStateStore.setHealth _ _ _ _ _ =
      (setHealth subject state reason deadline file).map _
    unfold setHealth
    split
    · rename_i failed
      rw [written] at failed
      cases failed
    · rename_i table isTable
      rw [written] at isTable
      cases isTable
      exact congrArg StoreResult.done (file.upsert_providerHealth_view settled pairs).symm
  setQuota := by
    intro subject state reason deadline file
    obtain ⟨after, written, settled, pairs⟩ := KeyedTable.put_settled file.quota_settled
      (subject.providerId, scopeKey subject.credentialId, scopeKey subject.concreteModel)
      ⟨state, reason, deadline⟩
    change SqliteStateStore.setQuota _ _ _ _ _ =
      (setQuota subject state reason deadline file).map _
    unfold setQuota
    split
    · rename_i failed
      rw [written] at failed
      cases failed
    · rename_i table isTable
      rw [written] at isTable
      cases isTable
      exact congrArg StoreResult.done (file.upsert_quotaState_view settled pairs).symm
  setCredential := by
    intro subject state reason file
    obtain ⟨provider, credential, model⟩ := subject
    cases credential <;> rfl
  record := fun _ _ => rfl

end OpenedFile

end AutoRouteGateway.State

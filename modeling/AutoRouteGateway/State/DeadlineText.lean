import AutoRouteGateway.Runtime.DateTime
import AutoRouteGateway.State.Sqlite
import AutoRouteGateway.State.StoreMap

/-!
Contract: the SQLite store with its deadlines as the texts it holds them in.

A deadline is written with `isoformat` and parsed whenever a cooldown is looked
up. Read back, it is the deadline that was written. An instant that is no
`datetime` is never written: the addition that makes it raises.

Owns: the column, the store over it, and that this store is seen as the one
that keeps instants.

Does not own: texts that were written by anything else.
-/

namespace AutoRouteGateway.State

open AutoRouteGateway.Domain
open AutoRouteGateway.Library
open AutoRouteGateway.Runtime

/-! ## The column -/

/-- `_parse_dt`. -/
def parseDt (value : Option String) : Option DateTime :=
  match value with
  | none => none
  | some text => if text = "" then none else DateTime.fromIsoformat text

theorem parseDt_isoformat (moment : DateTime) : parseDt (some moment.isoformat) = some moment := by
  have nonempty : moment.isoformat ≠ "" := by
    intro empty
    have back := DateTime.fromIsoformat_isoformat moment
    rw [empty] at back
    cases back
  rw [parseDt, if_neg nonempty, DateTime.fromIsoformat_isoformat]

/-- A value of the column `cooldown_until`: nothing, or a text that `isoformat`
has written. -/
inductive DeadlineColumn where
  | null
  | text (own : String) (written : ∃ moment : DateTime, own = moment.isoformat)

namespace DeadlineColumn

/-- `cooldown_until.isoformat() if cooldown_until else None`; an instant that is
no `datetime` has no text. -/
def write : Option Instant → Option DeadlineColumn
  | none => some .null
  | some deadline =>
      (DateTime.ofInstant? deadline).map fun moment => .text moment.isoformat ⟨moment, rfl⟩

def read : DeadlineColumn → Option Instant
  | .null => (parseDt none).map DateTime.toInstant
  | .text own _ => (parseDt (some own)).map DateTime.toInstant

/-- There is no deadline, or it is a `datetime`. -/
def Storable (deadline : Option Instant) : Prop :=
  ∀ own, deadline = some own → DateTime.Representable own

instance (deadline : Option Instant) : Decidable (Storable deadline) :=
  match deadline with
  | none => isTrue nofun
  | some own =>
      decidable_of_iff (DateTime.Representable own)
        ⟨fun within _ same => Option.some.inj same ▸ within, fun all => all own rfl⟩

theorem write_of_storable {deadline : Option Instant} (storable : Storable deadline) :
    ∃ column, write deadline = some column ∧ column.read = deadline := by
  cases deadline with
  | none => exact ⟨.null, rfl, rfl⟩
  | some own =>
      obtain ⟨moment, isMoment, back⟩ := DateTime.ofInstant?_eq_some (storable own rfl)
      refine ⟨.text moment.isoformat ⟨moment, rfl⟩, ?_, ?_⟩
      · rw [write, isMoment, Option.map_some]
      · rw [read, parseDt_isoformat, Option.map_some, back]

theorem write_of_not_storable {deadline : Option Instant} (past : ¬ Storable deadline) :
    write deadline = none := by
  cases deadline with
  | none => exact absurd nofun past
  | some own =>
      have outside : ¬ DateTime.Representable own := by
        intro within
        exact past fun _ same => Option.some.inj same ▸ within
      rw [write, DateTime.ofInstant?, dif_neg outside, Option.map_none]

end DeadlineColumn

/-- Every moment of the years one to 9999 is read back from the text that is
stored of it. -/
theorem stored_deadline_read_back (deadline : Instant)
    (within : DateTime.Representable deadline) :
    ∃ text written moment, DeadlineColumn.write (some deadline) = some (.text text written) ∧
      parseDt (some text) = some moment ∧ moment.toInstant = deadline := by
  obtain ⟨moment, isMoment, back⟩ := DateTime.ofInstant?_eq_some within
  refine ⟨moment.isoformat, ⟨moment, rfl⟩, moment, ?_, parseDt_isoformat moment, back⟩
  rw [DeadlineColumn.write, isMoment, Option.map_some]

/-- The last microsecond of a leap day. -/
theorem stored_deadline_read_back_leap_day :
    ∃ text written moment, DeadlineColumn.write (some 1709251199999999) =
        some (.text text written) ∧
      parseDt (some text) = some moment ∧ moment.toInstant = 1709251199999999 :=
  stored_deadline_read_back 1709251199999999 (by decide)

/-! ## The store -/

/-- `_now() + timedelta(...)` raises this, before anything is written, where the
sum is no `datetime`. -/
def overflowError : StoreError := ⟨"date value out of range"⟩

structure TextRow (α : Type) where
  state : α
  reason : String
  cooldownUntil : DeadlineColumn

structure TextStateStore where
  providerHealth : UpsertTable (String × String) (TextRow HealthState)
  credentialState : UpsertTable (String × String) CredentialRow
  quotaState : UpsertTable (String × String × String) (TextRow QuotaState)
  routeEvents : List RouteEvent

namespace TextStateStore

open SqliteStateStore (fallBack notNullError)

def selectHealth (s : TextStateStore) (subject : StateSubject) : Option (TextRow HealthState) :=
  fallBack subject.concreteModel.isSome
    (s.providerHealth.get? (subject.providerId, ""))
    (s.providerHealth.get? (subject.providerId, scopeKey subject.concreteModel))

def getHealth (s : TextStateStore) (subject : StateSubject) : HealthState :=
  match selectHealth s subject with
  | some row => row.state
  | none => .unknown

def setHealth (subject : StateSubject) (state : HealthState) (reason : String)
    (cooldownUntil : Option Instant) (s : TextStateStore) : StoreResult TextStateStore :=
  match DeadlineColumn.write cooldownUntil with
  | none => .raised overflowError s
  | some column =>
      .done { s with
        providerHealth := s.providerHealth.upsert
          (subject.providerId, scopeKey subject.concreteModel) ⟨state, reason, column⟩ }

def selectQuota (s : TextStateStore) (subject : StateSubject) : Option (TextRow QuotaState) :=
  let row := s.quotaState.get?
    (subject.providerId, scopeKey subject.credentialId, scopeKey subject.concreteModel)
  let row := fallBack (subject.credentialId.isSome || subject.concreteModel.isSome)
    (s.quotaState.get? (subject.providerId, scopeKey subject.credentialId, "")) row
  fallBack subject.credentialId.isSome (s.quotaState.get? (subject.providerId, "", "")) row

def getQuota (s : TextStateStore) (subject : StateSubject) : QuotaState :=
  match selectQuota s subject with
  | some row => row.state
  | none => .unknown

def setQuota (subject : StateSubject) (state : QuotaState) (reason : String)
    (cooldownUntil : Option Instant) (s : TextStateStore) : StoreResult TextStateStore :=
  match DeadlineColumn.write cooldownUntil with
  | none => .raised overflowError s
  | some column =>
      .done { s with
        quotaState := s.quotaState.upsert
          (subject.providerId, scopeKey subject.credentialId, scopeKey subject.concreteModel)
          ⟨state, reason, column⟩ }

def getCredential (s : TextStateStore) (subject : StateSubject) : CredentialState :=
  match subject.credentialId with
  | none => .enabled
  | some credentialId =>
      match s.credentialState.get? (subject.providerId, credentialId) with
      | some row => row.state
      | none => .enabled

def setCredential (subject : StateSubject) (state : CredentialState) (reason : String)
    (s : TextStateStore) : StoreResult TextStateStore :=
  match subject.credentialId with
  | none => .raised notNullError s
  | some credentialId =>
      .done { s with
        credentialState := s.credentialState.upsert
          (subject.providerId, credentialId) ⟨state, reason⟩ }

/-- The deadlines of the rows found are parsed, and the later one is taken. -/
def getCooldown (s : TextStateStore) (subject : StateSubject) : Option Instant :=
  let h := selectHealth s subject
  let q := selectQuota s subject
  laterDeadline (h.bind fun row => row.cooldownUntil.read)
    (q.bind fun row => row.cooldownUntil.read)

def recordRouteEvent (event : RouteEvent) (s : TextStateStore) : StoreResult TextStateStore :=
  .done { s with routeEvents := s.routeEvents ++ [event] }

def store : StateStore TextStateStore where
  getHealth := getHealth
  setHealth := setHealth
  getQuota := getQuota
  setQuota := setQuota
  getCredential := getCredential
  setCredential := setCredential
  getCooldown := getCooldown
  recordRouteEvent := recordRouteEvent

/-! ## What the store stands for -/

def healthRow (row : TextRow HealthState) : HealthRow :=
  ⟨row.state, row.reason, row.cooldownUntil.read⟩

def quotaRow (row : TextRow QuotaState) : QuotaRow :=
  ⟨row.state, row.reason, row.cooldownUntil.read⟩

/-- The store with its texts read. -/
def view (s : TextStateStore) : SqliteStateStore where
  providerHealth := s.providerHealth.mapValues fun _ => healthRow
  credentialState := s.credentialState
  quotaState := s.quotaState.mapValues fun _ => quotaRow
  routeEvents := s.routeEvents

theorem fallBack_map {ρ ρ' : Type} (f : ρ → ρ') (consult : Bool) (next row : Option ρ) :
    fallBack consult (next.map f) (row.map f) = (fallBack consult next row).map f := by
  cases row <;> cases consult <;> rfl

theorem selectHealth_view (s : TextStateStore) (subject : StateSubject) :
    s.view.selectHealth subject = (s.selectHealth subject).map healthRow := by
  rw [SqliteStateStore.selectHealth, selectHealth, ← fallBack_map]
  dsimp only [view]
  rw [UpsertTable.get?_mapValues, UpsertTable.get?_mapValues]

theorem selectQuota_view (s : TextStateStore) (subject : StateSubject) :
    s.view.selectQuota subject = (s.selectQuota subject).map quotaRow := by
  rw [SqliteStateStore.selectQuota, selectQuota, ← fallBack_map, ← fallBack_map]
  dsimp only [view]
  rw [UpsertTable.get?_mapValues, UpsertTable.get?_mapValues, UpsertTable.get?_mapValues]

/-- The store that keeps instants, of those only that are a `datetime`. -/
def instantStore : StateStore SqliteStateStore where
  getHealth := SqliteStateStore.getHealth
  setHealth := fun subject state reason deadline s =>
    if DeadlineColumn.Storable deadline then
      SqliteStateStore.setHealth subject state reason deadline s
    else .raised overflowError s
  getQuota := SqliteStateStore.getQuota
  setQuota := fun subject state reason deadline s =>
    if DeadlineColumn.Storable deadline then
      SqliteStateStore.setQuota subject state reason deadline s
    else .raised overflowError s
  getCredential := SqliteStateStore.getCredential
  setCredential := SqliteStateStore.setCredential
  getCooldown := SqliteStateStore.getCooldown
  recordRouteEvent := SqliteStateStore.recordRouteEvent

/-- The store is seen as the one that keeps instants. -/
def viewMap : StoreMap store instantStore where
  read := view
  getHealth := by
    intro s subject
    change SqliteStateStore.getHealth _ _ = getHealth s subject
    rw [SqliteStateStore.getHealth, selectHealth_view, getHealth]
    cases s.selectHealth subject <;> rfl
  getQuota := by
    intro s subject
    change SqliteStateStore.getQuota _ _ = getQuota s subject
    rw [SqliteStateStore.getQuota, selectQuota_view, getQuota]
    cases s.selectQuota subject <;> rfl
  getCredential := fun _ _ => rfl
  getCooldown := by
    intro s subject
    change SqliteStateStore.getCooldown _ _ = getCooldown s subject
    rw [SqliteStateStore.getCooldown, selectHealth_view, selectQuota_view, getCooldown]
    cases s.selectHealth subject <;> cases s.selectQuota subject <;> rfl
  setHealth := by
    intro subject state reason deadline s
    change (if DeadlineColumn.Storable deadline then _ else _) =
      (setHealth subject state reason deadline s).map view
    rw [setHealth]
    by_cases storable : DeadlineColumn.Storable deadline
    · obtain ⟨column, written, back⟩ := DeadlineColumn.write_of_storable storable
      have upserted := UpsertTable.mapValues_upsert (fun _ => healthRow) s.providerHealth
        (subject.providerId, scopeKey subject.concreteModel) ⟨state, reason, column⟩
      have row : healthRow ⟨state, reason, column⟩ = ⟨state, reason, deadline⟩ :=
        congrArg (HealthRow.mk state reason) back
      rw [row] at upserted
      rw [if_pos storable, written]
      exact congrArg (fun rows => StoreResult.done { s.view with providerHealth := rows })
        upserted.symm
    · rw [if_neg storable, DeadlineColumn.write_of_not_storable storable]
      rfl
  setQuota := by
    intro subject state reason deadline s
    change (if DeadlineColumn.Storable deadline then _ else _) =
      (setQuota subject state reason deadline s).map view
    rw [setQuota]
    by_cases storable : DeadlineColumn.Storable deadline
    · obtain ⟨column, written, back⟩ := DeadlineColumn.write_of_storable storable
      have upserted := UpsertTable.mapValues_upsert (fun _ => quotaRow) s.quotaState
        (subject.providerId, scopeKey subject.credentialId, scopeKey subject.concreteModel)
        ⟨state, reason, column⟩
      have row : quotaRow ⟨state, reason, column⟩ = ⟨state, reason, deadline⟩ :=
        congrArg (QuotaRow.mk state reason) back
      rw [row] at upserted
      rw [if_pos storable, written]
      exact congrArg (fun rows => StoreResult.done { s.view with quotaState := rows })
        upserted.symm
    · rw [if_neg storable, DeadlineColumn.write_of_not_storable storable]
      rfl
  setCredential := by
    intro subject state reason s
    obtain ⟨provider, credential, model⟩ := subject
    cases credential <;> rfl
  record := fun _ _ => rfl

end TextStateStore

end AutoRouteGateway.State

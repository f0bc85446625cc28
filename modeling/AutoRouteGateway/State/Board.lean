import Mathlib
import AutoRouteGateway.Library.Horizon
import AutoRouteGateway.Library.ScopeChain
import AutoRouteGateway.State.Store

/-!
Contract: what a state store is for.

A board keeps, for each dimension, the observation bound to each scope. A
subject sees the first observation along its chain of scopes. Together the
three dimensions hold a subject out of service up to a horizon: for ever when
it is down, exhausted or disabled, up to the later cooldown otherwise.

Owns: scope schemes, boards, what a subject sees, its hold, and the laws that
tie a store implementation to the board it keeps.

Does not own: a concrete encoding of scopes. `State.Stores` gives one scheme
for each implementation.
-/

namespace AutoRouteGateway.State

open AutoRouteGateway.Domain
open AutoRouteGateway.Library

/-- How an implementation encodes scopes: the key a write goes to and the keys
a read consults, most specific first. A subject without a credential key
cannot be written in the credential dimension and reads no row there. -/
structure ScopeScheme where
  HealthKey : Type
  QuotaKey : Type
  CredentialKey : Type
  [healthDecidable : DecidableEq HealthKey]
  [quotaDecidable : DecidableEq QuotaKey]
  [credentialDecidable : DecidableEq CredentialKey]
  healthKey : StateSubject → HealthKey
  healthChain : StateSubject → List HealthKey
  quotaKey : StateSubject → QuotaKey
  quotaChain : StateSubject → List QuotaKey
  credentialKey : StateSubject → Option CredentialKey

attribute [instance] ScopeScheme.healthDecidable ScopeScheme.quotaDecidable
  ScopeScheme.credentialDecidable

abbrev HealthObservation := HealthState × Option Instant

abbrev QuotaObservation := QuotaState × Option Instant

/-- The observation bound to each scope, by dimension. -/
@[ext]
structure Board (scheme : ScopeScheme) where
  health : scheme.HealthKey → Option HealthObservation
  quota : scheme.QuotaKey → Option QuotaObservation
  credential : scheme.CredentialKey → Option CredentialState

/-- How long a health observation keeps its readers out. -/
def healthHorizon : Option HealthObservation → Horizon Instant
  | none => ⊥
  | some (.down, _) => ⊤
  | some (_, deadline) => Horizon.ofDeadline deadline

/-- How long a quota observation keeps its readers out. -/
def quotaHorizon : Option QuotaObservation → Horizon Instant
  | none => ⊥
  | some (.exhausted, _) => ⊤
  | some (_, deadline) => Horizon.ofDeadline deadline

/-- How long a credential state keeps its readers out. -/
def credentialHorizon : Option CredentialState → Horizon Instant
  | some .disabled => ⊤
  | some .authError => ⊤
  | _ => ⊥

namespace Board

variable {scheme : ScopeScheme}

/-- The board without observations. -/
def blank : Board scheme := ⟨fun _ => none, fun _ => none, fun _ => none⟩

def seenHealth (board : Board scheme) (subject : StateSubject) : Option HealthObservation :=
  firstHit board.health (scheme.healthChain subject)

def seenQuota (board : Board scheme) (subject : StateSubject) : Option QuotaObservation :=
  firstHit board.quota (scheme.quotaChain subject)

def seenCredential (board : Board scheme) (subject : StateSubject) : Option CredentialState :=
  (scheme.credentialKey subject).bind board.credential

/-- The horizon up to which a subject is held out of service. -/
def hold (board : Board scheme) (subject : StateSubject) : Horizon Instant :=
  healthHorizon (board.seenHealth subject) ⊔ quotaHorizon (board.seenQuota subject) ⊔
    credentialHorizon (board.seenCredential subject)

def postHealth (board : Board scheme) (subject : StateSubject) (row : HealthObservation) :
    Board scheme :=
  { board with health := Function.update board.health (scheme.healthKey subject) (some row) }

def postQuota (board : Board scheme) (subject : StateSubject) (row : QuotaObservation) :
    Board scheme :=
  { board with quota := Function.update board.quota (scheme.quotaKey subject) (some row) }

/-- A credential observation is dropped when the subject has no credential key. -/
def postCredential (board : Board scheme) (subject : StateSubject) (state : CredentialState) :
    Board scheme :=
  match scheme.credentialKey subject with
  | none => board
  | some key => { board with credential := Function.update board.credential key (some state) }

/-! ### What a subject sees after an observation is posted -/

@[simp] theorem seenQuota_postHealth (board : Board scheme) (written reader : StateSubject)
    (row : HealthObservation) :
    (board.postHealth written row).seenQuota reader = board.seenQuota reader := rfl

@[simp] theorem seenCredential_postHealth (board : Board scheme)
    (written reader : StateSubject) (row : HealthObservation) :
    (board.postHealth written row).seenCredential reader = board.seenCredential reader := rfl

@[simp] theorem seenHealth_postQuota (board : Board scheme) (written reader : StateSubject)
    (row : QuotaObservation) :
    (board.postQuota written row).seenHealth reader = board.seenHealth reader := rfl

@[simp] theorem seenCredential_postQuota (board : Board scheme)
    (written reader : StateSubject) (row : QuotaObservation) :
    (board.postQuota written row).seenCredential reader = board.seenCredential reader := rfl

@[simp] theorem health_postCredential (board : Board scheme) (written : StateSubject)
    (state : CredentialState) : (board.postCredential written state).health = board.health := by
  unfold postCredential
  cases scheme.credentialKey written <;> rfl

@[simp] theorem quota_postCredential (board : Board scheme) (written : StateSubject)
    (state : CredentialState) : (board.postCredential written state).quota = board.quota := by
  unfold postCredential
  cases scheme.credentialKey written <;> rfl

@[simp] theorem seenHealth_postCredential (board : Board scheme)
    (written reader : StateSubject) (state : CredentialState) :
    (board.postCredential written state).seenHealth reader = board.seenHealth reader := by
  unfold seenHealth
  rw [health_postCredential]

@[simp] theorem seenQuota_postCredential (board : Board scheme)
    (written reader : StateSubject) (state : CredentialState) :
    (board.postCredential written state).seenQuota reader = board.seenQuota reader := by
  unfold seenQuota
  rw [quota_postCredential]

theorem seenHealth_postHealth (board : Board scheme) {written reader : StateSubject}
    (member : scheme.healthKey written ∈ scheme.healthChain reader) (row : HealthObservation) :
    (board.postHealth written row).seenHealth reader =
      (firstHit board.health
        (moreSpecific (scheme.healthChain reader) (scheme.healthKey written))).or (some row) :=
  firstHit_update member board.health row

theorem seenHealth_postHealth_of_notMem (board : Board scheme) {written reader : StateSubject}
    (outside : scheme.healthKey written ∉ scheme.healthChain reader) (row : HealthObservation) :
    (board.postHealth written row).seenHealth reader = board.seenHealth reader :=
  firstHit_update_of_notMem outside _

theorem seenQuota_postQuota (board : Board scheme) {written reader : StateSubject}
    (member : scheme.quotaKey written ∈ scheme.quotaChain reader) (row : QuotaObservation) :
    (board.postQuota written row).seenQuota reader =
      (firstHit board.quota
        (moreSpecific (scheme.quotaChain reader) (scheme.quotaKey written))).or (some row) :=
  firstHit_update member board.quota row

theorem seenQuota_postQuota_of_notMem (board : Board scheme) {written reader : StateSubject}
    (outside : scheme.quotaKey written ∉ scheme.quotaChain reader) (row : QuotaObservation) :
    (board.postQuota written row).seenQuota reader = board.seenQuota reader :=
  firstHit_update_of_notMem outside _

theorem seenCredential_postCredential (board : Board scheme) (written reader : StateSubject)
    (state : CredentialState) :
    (board.postCredential written state).seenCredential reader =
      if (scheme.credentialKey written).isSome ∧
          scheme.credentialKey written = scheme.credentialKey reader then
        some state
      else
        board.seenCredential reader := by
  unfold postCredential seenCredential
  cases writtenKey : scheme.credentialKey written with
  | none => simp
  | some key =>
      cases readerKey : scheme.credentialKey reader with
      | none => simp
      | some other =>
          by_cases same : key = other
          · simp [same]
          · simp [same, Function.update_of_ne (Ne.symm same)]

/-! ### Whether a reader reads the written row -/

/-- The written scope is on the reader's chain and no more specific scope has a row. -/
def ReadsHealth (board : Board scheme) (written reader : StateSubject) : Prop :=
  scheme.healthKey written ∈ scheme.healthChain reader ∧
    firstHit board.health
      (moreSpecific (scheme.healthChain reader) (scheme.healthKey written)) = none

def ReadsQuota (board : Board scheme) (written reader : StateSubject) : Prop :=
  scheme.quotaKey written ∈ scheme.quotaChain reader ∧
    firstHit board.quota
      (moreSpecific (scheme.quotaChain reader) (scheme.quotaKey written)) = none

theorem seenHealth_postHealth_of_reads {board : Board scheme} {written reader : StateSubject}
    (reads : board.ReadsHealth written reader) (row : HealthObservation) :
    (board.postHealth written row).seenHealth reader = some row := by
  rw [seenHealth_postHealth board reads.1, reads.2, Option.none_or]

theorem seenHealth_postHealth_of_not_reads {board : Board scheme}
    {written reader : StateSubject} (hidden : ¬ board.ReadsHealth written reader)
    (row : HealthObservation) :
    (board.postHealth written row).seenHealth reader = board.seenHealth reader := by
  by_cases member : scheme.healthKey written ∈ scheme.healthChain reader
  · rw [seenHealth_postHealth board member]
    cases found : firstHit board.health
        (moreSpecific (scheme.healthChain reader) (scheme.healthKey written)) with
    | none => exact absurd ⟨member, found⟩ hidden
    | some earlier => exact (firstHit_of_moreSpecific found).symm
  · exact seenHealth_postHealth_of_notMem board member row

theorem seenQuota_postQuota_of_reads {board : Board scheme} {written reader : StateSubject}
    (reads : board.ReadsQuota written reader) (row : QuotaObservation) :
    (board.postQuota written row).seenQuota reader = some row := by
  rw [seenQuota_postQuota board reads.1, reads.2, Option.none_or]

theorem seenQuota_postQuota_of_not_reads {board : Board scheme}
    {written reader : StateSubject} (hidden : ¬ board.ReadsQuota written reader)
    (row : QuotaObservation) :
    (board.postQuota written row).seenQuota reader = board.seenQuota reader := by
  by_cases member : scheme.quotaKey written ∈ scheme.quotaChain reader
  · rw [seenQuota_postQuota board member]
    cases found : firstHit board.quota
        (moreSpecific (scheme.quotaChain reader) (scheme.quotaKey written)) with
    | none => exact absurd ⟨member, found⟩ hidden
    | some earlier => exact (firstHit_of_moreSpecific found).symm
  · exact seenQuota_postQuota_of_notMem board member row

/-! ### Frames and bounds of the hold -/

/-- A row that keeps its readers out for ever shortens no hold. -/
theorem hold_le_hold_postHealth (board : Board scheme) (written reader : StateSubject)
    {row : HealthObservation} (lasting : healthHorizon (some row) = ⊤) :
    board.hold reader ≤ (board.postHealth written row).hold reader := by
  unfold hold
  rw [seenQuota_postHealth, seenCredential_postHealth]
  by_cases reads : board.ReadsHealth written reader
  · rw [seenHealth_postHealth_of_reads reads, lasting]
    exact sup_le_sup_right (sup_le_sup_right le_top _) _
  · rw [seenHealth_postHealth_of_not_reads reads]

theorem hold_le_hold_postQuota (board : Board scheme) (written reader : StateSubject)
    {row : QuotaObservation} (lasting : quotaHorizon (some row) = ⊤) :
    board.hold reader ≤ (board.postQuota written row).hold reader := by
  unfold hold
  rw [seenHealth_postQuota, seenCredential_postQuota]
  by_cases reads : board.ReadsQuota written reader
  · rw [seenQuota_postQuota_of_reads reads, lasting]
    exact sup_le_sup_right (sup_le_sup_left le_top _) _
  · rw [seenQuota_postQuota_of_not_reads reads]

theorem hold_le_hold_postCredential (board : Board scheme) (written reader : StateSubject)
    {state : CredentialState} (lasting : credentialHorizon (some state) = ⊤) :
    board.hold reader ≤ (board.postCredential written state).hold reader := by
  unfold hold
  rw [seenHealth_postCredential, seenQuota_postCredential, seenCredential_postCredential]
  split
  · rw [lasting]
    exact sup_le_sup_left le_top _
  · exact le_rfl

/-- A health write outside the reader's chain leaves its hold alone. -/
theorem hold_postHealth_of_notMem (board : Board scheme) {written reader : StateSubject}
    (outside : scheme.healthKey written ∉ scheme.healthChain reader) (row : HealthObservation) :
    (board.postHealth written row).hold reader = board.hold reader := by
  unfold hold
  rw [seenHealth_postHealth_of_notMem board outside, seenQuota_postHealth,
    seenCredential_postHealth]

/-- A quota write outside the reader's chain leaves its hold alone. -/
theorem hold_postQuota_of_notMem (board : Board scheme) {written reader : StateSubject}
    (outside : scheme.quotaKey written ∉ scheme.quotaChain reader) (row : QuotaObservation) :
    (board.postQuota written row).hold reader = board.hold reader := by
  unfold hold
  rw [seenQuota_postQuota_of_notMem board outside, seenHealth_postQuota,
    seenCredential_postQuota]

/-- A credential write under another key leaves the reader's hold alone. -/
theorem hold_postCredential_of_ne (board : Board scheme) {written reader : StateSubject}
    (different : (scheme.credentialKey written).isSome →
      scheme.credentialKey written ≠ scheme.credentialKey reader) (state : CredentialState) :
    (board.postCredential written state).hold reader = board.hold reader := by
  unfold hold
  rw [seenHealth_postCredential, seenQuota_postCredential, seenCredential_postCredential,
    if_neg fun both => different both.1 both.2]

end Board

/-- A store implementation that keeps a board. -/
structure ScopedStore {σ : Type} (S : StateStore σ) where
  scheme : ScopeScheme
  board : σ → Board scheme
  getHealth_eq : ∀ s subject,
    S.getHealth s subject = (((board s).seenHealth subject).map Prod.fst).getD .unknown
  getQuota_eq : ∀ s subject,
    S.getQuota s subject = (((board s).seenQuota subject).map Prod.fst).getD .unknown
  getCredential_eq : ∀ s subject,
    S.getCredential s subject = ((board s).seenCredential subject).getD .enabled
  getCooldown_eq : ∀ s subject,
    S.getCooldown s subject = laterDeadline (((board s).seenHealth subject).bind Prod.snd)
      (((board s).seenQuota subject).bind Prod.snd)
  setHealth_board : ∀ subject state reason deadline s,
    board (S.setHealth subject state reason deadline s).state =
      (board s).postHealth subject (state, deadline)
  setQuota_board : ∀ subject state reason deadline s,
    board (S.setQuota subject state reason deadline s).state =
      (board s).postQuota subject (state, deadline)
  setCredential_board : ∀ subject state reason s,
    board (S.setCredential subject state reason s).state =
      (board s).postCredential subject state
  record_board : ∀ event s, board (S.recordRouteEvent event s).state = board s

end AutoRouteGateway.State

import AutoRouteGateway.Service.RoutingAgreement

/-!
Contract: what an upstream error response leaves in the state store.

The response text becomes the message of a candidate failure after `sanitize`,
and the message becomes the reason of a state row. `sanitize` removes bearer
prefixes and cuts; it does not look for the secret.

Owns: the texts of a store, which secrets of a body survive `sanitize`, and the
exact condition on a response under which handling it keeps a secret out.
-/

namespace AutoRouteGateway.Service

open AutoRouteGateway.Config
open AutoRouteGateway.Domain
open AutoRouteGateway.Library
open AutoRouteGateway.Policy
open AutoRouteGateway.Routing
open AutoRouteGateway.Runtime
open AutoRouteGateway.State

/-! ## The texts of a store -/

def eventTexts (event : RouteEvent) : List String :=
  [event.requestId, event.virtualModel, event.providerId, event.model, event.action.value] ++
    event.credentialId.toList ++ (event.errorClass.map ErrorClass.value).toList

/-- The texts one recorded event adds. SQLite also keeps the other entries of
the event as a JSON object, and there are none. -/
def recordedTexts : StoreKind → RouteEvent → List String
  | .inMemory, event => eventTexts event
  | .sqlite, event => "{}" :: eventTexts event

/-- The reason columns and the events. The in-memory store keeps no reasons. -/
def storedTexts : (kind : StoreKind) → kind.Contents → List String
  | .inMemory, s => s.events.flatMap (recordedTexts .inMemory)
  | .sqlite, s =>
      (s.providerHealth.rows.map fun row => row.2.reason) ++
        (s.credentialState.rows.map fun row => row.2.reason) ++
        (s.quotaState.rows.map fun row => row.2.reason) ++
        s.routeEvents.flatMap (recordedTexts .sqlite)

/-- No stored text holds the secret. -/
def Sealed (kind : StoreKind) (secret : String) (s : kind.Contents) : Prop :=
  ∀ text ∈ storedTexts kind s, ¬ Contains secret text

instance (kind : StoreKind) (secret : String) (s : kind.Contents) :
    Decidable (Sealed kind secret s) :=
  inferInstanceAs (Decidable (∀ text ∈ storedTexts kind s, ¬ Contains secret text))

/-! ## What is left of a body -/

/-- The body without its bearer prefixes, the capital ones first. -/
def Stripped (body kept : List Char) : Prop :=
  ∃ once, Without "Bearer ".toList body once ∧ Without "bearer ".toList once kept

/-- The secret stands in the body without its bearer prefixes, and ends within
the first 300 characters of it. -/
def Retains (secret body : String) : Prop :=
  ∃ before after, Stripped body.toList (before ++ secret.toList ++ after) ∧
    before.length + secret.toList.length ≤ 300

/-- The body is made of bearer prefixes only. -/
def NothingLeft (body : String) : Prop := Stripped body.toList []

theorem stripped_iff {body : String} {kept : List Char} :
    Stripped body.toList kept ↔ (removeAll "bearer " (removeAll "Bearer " body)).toList = kept := by
  have first : "Bearer ".toList ≠ [] := by decide
  have second : "bearer ".toList ≠ [] := by decide
  simp only [Stripped, without_iff first, without_iff second, removeAll, String.toList_ofList,
    exists_eq_left']

theorem infix_take_iff {part text : List Char} (limit : Nat) :
    part <:+: text.take limit ↔
      ∃ before after, text = before ++ part ++ after ∧ before.length + part.length ≤ limit := by
  constructor
  · rintro ⟨before, after, split⟩
    refine ⟨before, after ++ text.drop limit, ?_, ?_⟩
    · rw [← List.append_assoc, split, List.take_append_drop]
    · have short := congrArg List.length split
      rw [List.length_append, List.length_append, List.length_take] at short
      omega
  · rintro ⟨before, after, rfl, within⟩
    rw [← List.length_append] at within
    rw [List.take_append, List.take_of_length_le within]
    exact ⟨before, _, rfl⟩

/-- What `sanitize` lets through is decided by where the secret stands in the body. -/
theorem contains_sanitize_iff {secret body : String} :
    Contains secret (sanitize body) ↔ Retains secret body := by
  rw [Contains, sanitize, truncate, String.toList_ofList, infix_take_iff]
  simp only [Retains, stripped_iff]

theorem sanitize_eq_empty_iff {body : String} : sanitize body = "" ↔ NothingLeft body := by
  rw [NothingLeft, stripped_iff, sanitize, truncate, String.ofList_eq_empty_iff,
    List.take_eq_nil_iff]
  simp

/-- The reason of a state row: what is left of the body, or the default text. -/
theorem contains_orDefault_iff {secret body default : String} :
    Contains secret (orDefault (sanitize body) default) ↔
      Retains secret body ∨ NothingLeft body ∧ Contains secret default := by
  unfold orDefault
  by_cases empty : sanitize body = ""
  · have nothing := sanitize_eq_empty_iff.mp empty
    rw [if_pos empty, and_iff_right nothing, ← contains_sanitize_iff, empty]
    refine (or_iff_right_of_imp ?_).symm
    intro inEmpty
    have isEmpty : secret.toList = [] := List.infix_nil.mp inEmpty
    rw [Contains, isEmpty]
    exact List.nil_infix
  · rw [if_neg empty, contains_sanitize_iff]
    refine (or_iff_left ?_).symm
    exact fun both => empty (sanitize_eq_empty_iff.mpr both.1)

/-! ## Harmless responses -/

/-- The text a state row gets when nothing is left of the body; a class without
one writes no row. -/
def defaultReason : ErrorClass → Option String
  | .auth => some "auth"
  | .quota => some "quota exhausted"
  | .rateLimit => some "rate limit"
  | .modelNotFound => some "model not found"
  | .network => some "network"
  | .server => some "server"
  | .tokenLimit => none
  | .unknown => none

/-- The reason written for a failure, if it writes a state row. -/
def failureReason (failure : CandidateFailure) : Option String :=
  (defaultReason failure.errorClass).map (orDefault failure.message)

/-- Neither the reason written, if one is, nor the event holds the secret. -/
structure Unspoken (kind : StoreKind) (secret : String) (reason : Option String)
    (event : RouteEvent) : Prop where
  reason : kind = .sqlite → ∀ text ∈ reason, ¬ Contains secret text
  event : ∀ text ∈ recordedTexts kind event, ¬ Contains secret text

/-- An error response whose handling tells nothing of the secret, with a state
row or without one. -/
structure Harmless (kind : StoreKind) (secret : String) (request : RequestInfo)
    (candidate : RouteCandidate) (status : Int) (body : String) (row : Bool)
    (action : EventAction) : Prop where
  /-- Where a row is written, the body does not retain it, nor does the default text. -/
  reason : kind = .sqlite → row = true →
    ∀ default ∈ defaultReason (classifyError (some status) body),
      ¬ Retains secret body ∧ (NothingLeft body → ¬ Contains secret default)
  /-- The names and the fixed words of the event are free of it. -/
  recorded : ∀ text ∈ [request.requestId, request.virtualModel, candidate.providerId,
      candidate.concreteModel.modelId, action.value] ++ candidate.credentialId.toList ++
        [(classifyError (some status) body).value],
    ¬ Contains secret text
  braces : kind = .sqlite → ¬ Contains secret "{}"

theorem unspoken_iff_harmless {kind : StoreKind} {secret : String} {request : RequestInfo}
    {candidate : RouteCandidate} {attempt : Nat} {status : Int} {body : String}
    {row : Bool} {action : EventAction} {reason : Option String}
    (headers : List (String × String))
    (isReason : reason =
      if row then failureReason (candidateFailure (.http status body headers)) else none) :
    Unspoken kind secret reason
        (routeEvent request candidate attempt (some (classifyError (some status) body)) action) ↔
      Harmless kind secret request candidate status body row action := by
  have events : (∀ text ∈ recordedTexts kind (routeEvent request candidate attempt
        (some (classifyError (some status) body)) action), ¬ Contains secret text) ↔
      (∀ text ∈ [request.requestId, request.virtualModel, candidate.providerId,
          candidate.concreteModel.modelId, action.value] ++ candidate.credentialId.toList ++
            [(classifyError (some status) body).value], ¬ Contains secret text) ∧
        (kind = .sqlite → ¬ Contains secret "{}") := by
    cases kind with
    | inMemory =>
        refine (and_iff_left ?_).symm
        intro isSqlite
        cases isSqlite
    | sqlite =>
        refine List.forall_mem_cons.trans (and_comm.trans (and_congr Iff.rfl ?_))
        exact ⟨fun free _ => free, fun free => free rfl⟩
  have reasons : (∀ text ∈ failureReason (candidateFailure (.http status body headers)),
        ¬ Contains secret text) ↔
      ∀ default ∈ defaultReason (classifyError (some status) body),
        ¬ Retains secret body ∧ (NothingLeft body → ¬ Contains secret default) := by
    simp only [failureReason, candidateFailure, Option.mem_map, forall_exists_index, and_imp,
      forall_apply_eq_imp_iff₂, contains_orDefault_iff, not_or, not_and]
  subst isReason
  constructor
  · intro unspoken
    obtain ⟨recorded, braces⟩ := events.mp unspoken.event
    refine ⟨?_, recorded, braces⟩
    rintro isSqlite rfl
    exact reasons.mp (unspoken.reason isSqlite)
  · intro harmless
    refine ⟨?_, events.mpr ⟨harmless.recorded, harmless.braces⟩⟩
    intro isSqlite
    cases row with
    | false =>
        intro text member
        cases member
    | true => exact reasons.mpr (harmless.reason isSqlite rfl)

/-! ## What one write adds -/

section Writes

variable {kind : StoreKind} {secret : String}

theorem sealed_sqlite_iff {s : SqliteStateStore} :
    Sealed .sqlite secret s ↔
      (∀ row ∈ s.providerHealth.rows, ¬ Contains secret row.2.reason) ∧
      (∀ row ∈ s.credentialState.rows, ¬ Contains secret row.2.reason) ∧
      (∀ row ∈ s.quotaState.rows, ¬ Contains secret row.2.reason) ∧
      ∀ event ∈ s.routeEvents, ∀ text ∈ recordedTexts .sqlite event, ¬ Contains secret text := by
  unfold Sealed storedTexts
  simp only [List.forall_mem_append, List.forall_mem_map, List.forall_mem_flatMap, and_assoc]

theorem sealed_recordRouteEvent_iff {event : RouteEvent} {s s' : kind.Contents}
    (recorded : kind.store.recordRouteEvent event s = .done s') :
    Sealed kind secret s' ↔
      Sealed kind secret s ∧ ∀ text ∈ recordedTexts kind event, ¬ Contains secret text := by
  cases kind with
  | inMemory =>
      cases recorded
      simp only [Sealed, storedTexts, List.flatMap_append, List.forall_mem_append,
        List.flatMap_singleton]
  | sqlite =>
      cases recorded
      simp only [Sealed, storedTexts, List.flatMap_append, List.forall_mem_append,
        List.flatMap_singleton, and_assoc]

theorem sealed_setHealth_iff {subject : StateSubject} {state : HealthState} {reason : String}
    {deadline : Option Instant} {s s' : SqliteStateStore}
    (written : SqliteStateStore.setHealth subject state reason deadline s = .done s')
    (clean : Sealed .sqlite secret s) :
    Sealed .sqlite secret s' ↔ ¬ Contains secret reason := by
  cases written
  rw [sealed_sqlite_iff] at clean ⊢
  obtain ⟨health, credential, quota, events⟩ := clean
  have own := UpsertTable.forall_upsert_iff (fun row : HealthRow => ¬ Contains secret row.reason)
    (subject.providerId, scopeKey subject.concreteModel) ⟨state, reason, deadline⟩ health
  exact ⟨fun all => own.mp all.1, fun free => ⟨own.mpr free, credential, quota, events⟩⟩

theorem sealed_setQuota_iff {subject : StateSubject} {state : QuotaState} {reason : String}
    {deadline : Option Instant} {s s' : SqliteStateStore}
    (written : SqliteStateStore.setQuota subject state reason deadline s = .done s')
    (clean : Sealed .sqlite secret s) :
    Sealed .sqlite secret s' ↔ ¬ Contains secret reason := by
  cases written
  rw [sealed_sqlite_iff] at clean ⊢
  obtain ⟨health, credential, quota, events⟩ := clean
  have own := UpsertTable.forall_upsert_iff (fun row : QuotaRow => ¬ Contains secret row.reason)
    (subject.providerId, scopeKey subject.credentialId, scopeKey subject.concreteModel)
    ⟨state, reason, deadline⟩ quota
  exact ⟨fun all => own.mp all.2.2.1, fun free => ⟨health, credential, own.mpr free, events⟩⟩

theorem sealed_setCredential_iff {subject : StateSubject} {state : CredentialState}
    {reason : String} {s s' : SqliteStateStore}
    (written : SqliteStateStore.setCredential subject state reason s = .done s')
    (clean : Sealed .sqlite secret s) :
    Sealed .sqlite secret s' ↔ ¬ Contains secret reason := by
  unfold SqliteStateStore.setCredential at written
  split at written
  · cases written
  · rename_i credentialId _
    cases written
    rw [sealed_sqlite_iff] at clean ⊢
    obtain ⟨health, credential, quota, events⟩ := clean
    have own := UpsertTable.forall_upsert_iff
      (fun row : CredentialRow => ¬ Contains secret row.reason)
      (subject.providerId, credentialId) ⟨state, reason⟩ credential
    exact ⟨fun all => own.mp all.2.1, fun free => ⟨health, own.mpr free, quota, events⟩⟩

/-- A failure adds its reason to a SQLite store, and nothing to the other. -/
theorem sealed_applyFailure_iff {engine : FallbackEngine} {now : Instant}
    {candidate : RouteCandidate} {failure : CandidateFailure} {s s' : kind.Contents}
    (applied : applyFailure kind.store engine now candidate failure s = .done s')
    (clean : Sealed kind secret s) :
    Sealed kind secret s' ↔
      (kind = .sqlite → ∀ text ∈ failureReason failure, ¬ Contains secret text) := by
  unfold applyFailure at applied
  cases kind with
  | inMemory =>
      have unchanged : storedTexts .inMemory s' = storedTexts .inMemory s := by
        cases isClass : failure.errorClass <;> rw [isClass] at applied <;> cases applied <;> rfl
      rw [Sealed, unchanged]
      refine iff_of_true clean ?_
      intro isSqlite
      cases isSqlite
  | sqlite =>
      unfold failureReason
      cases isClass : failure.errorClass <;> rw [isClass] at applied
      case auth => simpa [defaultReason] using sealed_setCredential_iff applied clean
      case quota => simpa [defaultReason] using sealed_setQuota_iff applied clean
      case rateLimit => simpa [defaultReason] using sealed_setQuota_iff applied clean
      case modelNotFound => simpa [defaultReason] using sealed_setHealth_iff applied clean
      case network => simpa [defaultReason] using sealed_setHealth_iff applied clean
      case server => simpa [defaultReason] using sealed_setHealth_iff applied clean
      case tokenLimit =>
        cases applied
        simpa [defaultReason] using clean
      case unknown =>
        cases applied
        simpa [defaultReason] using clean

/-- The two writes of a handled failure. -/
theorem sealed_handled_iff {engine : FallbackEngine} {now : Instant} {candidate : RouteCandidate}
    {failure : CandidateFailure} {event : RouteEvent} {s applied recorded : kind.Contents}
    (isApplied : applyFailure kind.store engine now candidate failure s = .done applied)
    (isRecorded : kind.store.recordRouteEvent event applied = .done recorded)
    (clean : Sealed kind secret s) :
    Sealed kind secret recorded ↔ Unspoken kind secret (failureReason failure) event := by
  rw [sealed_recordRouteEvent_iff isRecorded, sealed_applyFailure_iff isApplied clean]
  exact ⟨fun both => ⟨both.1, both.2⟩, fun unspoken => ⟨unspoken.reason, unspoken.event⟩⟩

end Writes

/-! ## Handled responses -/

section Handled

variable (kind : StoreKind) (engine : FallbackEngine) (service : GatewayService) (clock : Clock)
  (upstream : Upstream kind.Contents) (request : RequestInfo)

theorem afterAction_store (action : FallbackAction) (progress : Progress kind.Contents) :
    (afterAction (ρ := Dict) engine request action progress).progress.store = progress.store := by
  unfold afterAction
  split
  · rfl
  · dsimp only
    split <;> rfl

/-- `chat` writes the reason of a failure, then its event. -/
theorem sealed_afterFailure_iff {candidate : RouteCandidate}
    (keyed : candidate.credentialId ≠ none) (failure : CandidateFailure) (retries : Nat)
    (progress : Progress kind.Contents) {secret : String}
    (clean : Sealed kind secret progress.store) :
    Sealed kind secret (afterFailure (ρ := Dict) kind.store engine clock request candidate
        failure retries progress).2.progress.store ↔
      Unspoken kind secret (failureReason failure) (routeEvent request candidate
        progress.attempts (some failure.errorClass)
        (actionOf (nextAction failure.errorClass retries engine.policy))) := by
  obtain ⟨applied, isApplied⟩ := applyFailure_done kind engine keyed
    (clock.settle progress.attempts) failure progress.store
  obtain ⟨recorded, isRecorded⟩ := recordRouteEvent_done kind (routeEvent request candidate
    progress.attempts (some failure.errorClass)
    (actionOf (nextAction failure.errorClass retries engine.policy))) applied
  rw [← sealed_handled_iff isApplied isRecorded clean]
  simp only [afterFailure, isApplied, Progress.record, isRecorded, afterAction_store]

/-- `chat_stream` writes the reason of a failure, then its event. -/
theorem sealed_settlePrefix_iff {candidate : RouteCandidate}
    (keyed : candidate.credentialId ≠ none) (exception : UpstreamException) (attempt : Nat)
    (s : kind.Contents) {secret : String} (clean : Sealed kind secret s) :
    Sealed kind secret (settlePrefix kind.store engine clock request attempt candidate s
        (.failed exception)).state ↔
      Unspoken kind secret (failureReason (candidateFailure exception)) (routeEvent request
        candidate attempt (some (candidateFailure exception).errorClass) .nextCandidate) := by
  obtain ⟨applied, isApplied⟩ := applyFailure_done kind engine keyed (clock.settle attempt)
    (candidateFailure exception) s
  obtain ⟨recorded, isRecorded⟩ := recordRouteEvent_done kind (routeEvent request candidate
    attempt (some (candidateFailure exception).errorClass) .nextCandidate) applied
  rw [← sealed_handled_iff isApplied isRecorded clean]
  simp only [settlePrefix, isApplied, isRecorded, StoreResult.state_done]

/-- Delivering some events leads from one committed flag and store to another. -/
inductive Delivers (handle : StreamHandle) : List (Bool × Event) → (committed : Bool) →
    (before : kind.Contents) → (committed' : Bool) → (after : kind.Contents) → Prop where
  | nil {committed : Bool} {s : kind.Contents} : Delivers handle [] committed s committed s
  | cons {replayed committed committed' committed'' : Bool} {event : Event}
      {rest : List (Bool × Event)} {s s' s'' : kind.Contents}
      (committing : commits replayed committed event = .ok committed')
      (recorded : recordDone kind.store request handle event s = .done s')
      (later : Delivers handle rest committed' s' committed'' s'') :
      Delivers handle ((replayed, event) :: rest) committed s committed'' s''

/-- An iterator that raises after its last event fails the delivery there. -/
theorem deliver_of_delivers {handle : StreamHandle} {events : List (Bool × Event)}
    {committed committed' : Bool} {s s' : kind.Contents} {exception : UpstreamException}
    (delivered : Delivers kind request handle events committed s committed' s')
    (ending : handle.ending = some exception) :
    (deliver kind.store request handle events committed s).store =
      (deliveryFailure kind.store request handle exception committed' s').store := by
  induction delivered with
  | nil => simp only [deliver, ending]
  | cons committing recorded _ inductionHypothesis =>
      simp only [deliver, committing, recorded]
      exact inductionHypothesis

/-- A failed delivery writes its event only. -/
theorem sealed_deliveryFailure_iff (handle : StreamHandle) (exception : UpstreamException)
    (committed : Bool) (s : kind.Contents) {secret : String} (clean : Sealed kind secret s) :
    Sealed kind secret (deliveryFailure kind.store request handle exception committed s).store ↔
      Unspoken kind secret none (routeEvent request handle.candidate handle.attempt
        (some (candidateFailure exception).errorClass)
        (if committed then .partialStreamFailure else .nextCandidate)) := by
  obtain ⟨recorded, isRecorded⟩ := recordRouteEvent_done kind (routeEvent request
    handle.candidate handle.attempt (some (candidateFailure exception).errorClass)
    (if committed then .partialStreamFailure else .nextCandidate)) s
  have store : (deliveryFailure kind.store request handle exception committed s).store =
      recorded := by
    simp only [deliveryFailure, isRecorded]
    split <;> rfl
  rw [store, sealed_recordRouteEvent_iff isRecorded]
  refine ⟨fun both => ⟨fun _ => ?_, both.2⟩, fun unspoken => ⟨clean, unspoken.event⟩⟩
  intro text member
  cases member

/-- An error response to a call made with the secret: the candidate, whether its
class may write a state row, the action recorded, and the store before and after
it was handled. It comes back to an attempt of `chat`, or ends a stream of
`chat_stream` while its prefix is read or later. -/
inductive HandledResponse (secret : String) (status : Int) (body : String)
    (headers : List (String × String)) :
    RouteCandidate → (row : Bool) → EventAction → (before after : kind.Contents) → Prop where
  | chat {payload : Dict} {counter : Nat} {start : kind.Contents} {log : RunLog kind.Contents Dict}
      {turn : Turn kind.Contents Dict} {earlier later : List (AttemptLog kind.Contents Dict)}
      {call : AttemptLog kind.Contents Dict}
      (ran : (chat kind.store engine service clock upstream request.requestId
        request.virtualModel payload counter start).run = some log)
      (visited : turn ∈ log.turns) (made : turn.attempts = earlier ++ call :: later)
      (api : turn.scored.candidate.executorType = .api)
      (adapter : service.hasAdapter turn.scored.candidate = true)
      (resolved : service.secret turn.scored.candidate = .ok secret)
      (answer : (upstream.chatCompletions call.number turn.scored.candidate secret
        call.started).1 = .raised (.http status body headers)) :
      HandledResponse secret status body headers turn.scored.candidate true
        (actionOf (nextAction (classifyError (some status) body) earlier.length engine.policy))
        call.returned call.settled
  | stream {payload : Dict} {counter : Nat} {start : kind.Contents}
      {selection : Selection kind.Contents} {turn : StreamTurn kind.Contents}
      {attempt : StreamAttempt kind.Contents}
      (selected : (chatStream kind.store engine service clock upstream request.requestId
        request.virtualModel payload counter start).selection = some selection)
      (visited : turn ∈ selection.turns) (made : turn.verdict = .contacted attempt)
      (used : attempt.secret = secret)
      (answer : readPrefix attempt.stream.ending attempt.stream.events =
        .failed (.http status body headers)) :
      HandledResponse secret status body headers attempt.candidate true .nextCandidate
        attempt.returned attempt.settled
  -- no state row is written once a stream is selected
  | delivery {payload : Dict} {counter : Nat} {start before : kind.Contents}
      {selection : Selection kind.Contents} {handle : StreamHandle} {committed : Bool}
      (chosen : (chatStream kind.store engine service clock upstream request.requestId
        request.virtualModel payload counter start).selection = some selection)
      (selected : selection.ending = .selected handle)
      (delivered : Delivers kind request handle handle.iterated false selection.store committed
        before)
      (resolved : service.secret handle.candidate = .ok secret)
      (answer : handle.ending = some (.http status body headers)) :
      HandledResponse secret status body headers handle.candidate false
        (if committed then .partialStreamFailure else .nextCandidate) before
        (chatStream kind.store engine service clock upstream request.requestId
          request.virtualModel payload counter start).store

variable {kind engine service clock upstream request}

end Handled

end AutoRouteGateway.Service

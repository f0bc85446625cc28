import AutoRouteGateway.Routing.EngineBoard
import AutoRouteGateway.Routing.Scorer

/-!
Contract: transient failures never blacklist a candidate.

Owns: the transient classes, the deadlines a history writes, and the invariant
that a transient history leaves no refusing state and no other deadline.
-/

namespace AutoRouteGateway.Routing

open AutoRouteGateway.Domain
open AutoRouteGateway.Library
open AutoRouteGateway.Policy
open AutoRouteGateway.State

/-- The classes of failures that are expected to pass. -/
def TransientClass : ErrorClass → Prop
  | .rateLimit | .network | .server | .tokenLimit | .unknown => True
  | .auth | .quota | .modelNotFound => False

/-- A success, or a failure of a transient class. -/
def EngineCall.Transient : EngineCall → Prop
  | .succeeded _ => True
  | .failed _ _ failure => TransientClass failure.errorClass

/-- The cooldown deadline a call writes. -/
def EngineCall.deadline (engine : FallbackEngine) : EngineCall → Option Instant
  | .succeeded _ => none
  | .failed now _ failure =>
      match failure.errorClass with
      | .rateLimit => some (rateLimitDeadline engine now failure)
      | .network => some (providerDeadline engine now .network)
      | .server => some (providerDeadline engine now .server)
      | _ => none

section Writes

variable {engine : FallbackEngine} {call : EngineCall}

/-- A transient call writes no health row that refuses, and its own deadline. -/
theorem healthWrite_transient {scheme : ScopeScheme} (transient : call.Transient)
    {key : scheme.HealthKey} {row : HealthObservation}
    (writes : healthWrite scheme engine call = some (key, row)) :
    row.1 ≠ .down ∧ ∀ d, row.2 = some d → call.deadline engine = some d := by
  cases call with
  | succeeded candidate =>
      cases writes
      exact ⟨by simp, by simp⟩
  | failed now candidate failure =>
      simp only [EngineCall.Transient] at transient
      simp only [healthWrite] at writes
      simp only [EngineCall.deadline]
      cases isClass : failure.errorClass <;> rw [isClass] at transient writes <;> cases writes
      · exact absurd transient id
      · exact ⟨by simp, fun d same => same⟩
      · exact ⟨by simp, fun d same => same⟩

theorem quotaWrite_transient {scheme : ScopeScheme} (transient : call.Transient)
    {key : scheme.QuotaKey} {row : QuotaObservation}
    (writes : quotaWrite scheme engine call = some (key, row)) :
    row.1 ≠ .exhausted ∧ ∀ d, row.2 = some d → call.deadline engine = some d := by
  cases call with
  | succeeded candidate => cases writes
  | failed now candidate failure =>
      simp only [EngineCall.Transient] at transient
      simp only [quotaWrite] at writes
      simp only [EngineCall.deadline]
      cases isClass : failure.errorClass <;> rw [isClass] at transient writes <;> cases writes
      · exact ⟨by simp, fun d same => same⟩
      · exact absurd transient id

theorem credentialWrite_transient {scheme : ScopeScheme} (transient : call.Transient) :
    credentialWrite scheme call = none := by
  cases call with
  | succeeded candidate => rfl
  | failed now candidate failure =>
      simp only [EngineCall.Transient] at transient
      simp only [credentialWrite]
      cases isClass : failure.errorClass with
      | auth =>
          rw [isClass] at transient
          exact absurd transient id
      | _ => rfl

end Writes

section Histories

variable (kind : StoreKind) (engine : FallbackEngine) (calls : List EngineCall)

/-- What a subject sees after a transient history refuses nobody and expires
with a deadline of the history. -/
structure Passing (board : Board kind.scopedStore.scheme) (subject : StateSubject) : Prop where
  health : ∀ row, board.seenHealth subject = some row →
    row.1 ≠ .down ∧ ∀ d, row.2 = some d → ∃ call ∈ calls, call.deadline engine = some d
  quota : ∀ row, board.seenQuota subject = some row →
    row.1 ≠ .exhausted ∧ ∀ d, row.2 = some d → ∃ call ∈ calls, call.deadline engine = some d
  credential : board.seenCredential subject = none

theorem passing_stateAfter {calls} (transient : ∀ call ∈ calls, call.Transient)
    (subject : StateSubject) :
    Passing kind engine calls
      (kind.scopedStore.board (stateAfter kind.store engine calls kind.empty)) subject where
  health := by
    intro row seen
    rw [Board.seenHealth, healthRow_stateAfter_empty] at seen
    obtain ⟨scope, -, written⟩ := mem_of_firstHit_latest_eq_some seen
    obtain ⟨call, member, writes⟩ := List.mem_filterMap.mp written
    have own := healthWrite_transient (transient call member) writes
    exact ⟨own.1, fun d isDeadline => ⟨call, member, own.2 d isDeadline⟩⟩
  quota := by
    intro row seen
    rw [Board.seenQuota, quotaRow_stateAfter_empty] at seen
    obtain ⟨scope, -, written⟩ := mem_of_firstHit_latest_eq_some seen
    obtain ⟨call, member, writes⟩ := List.mem_filterMap.mp written
    have own := quotaWrite_transient (transient call member) writes
    exact ⟨own.1, fun d isDeadline => ⟨call, member, own.2 d isDeadline⟩⟩
  credential := by
    have nothing : calls.filterMap (credentialWrite kind.scopedStore.scheme) = [] := by
      apply List.filterMap_eq_nil_iff.mpr
      intro call member
      exact credentialWrite_transient (transient call member)
    rw [Board.seenCredential, credentialRow_stateAfter_empty, nothing]
    cases kind.scopedStore.scheme.credentialKey subject <;> rfl

variable {kind engine calls}

/-- Nothing is held out by states that refuse, only by deadlines. -/
theorem Passing.reads {s : kind.Contents} {subject : StateSubject}
    (passing : Passing kind engine calls (kind.scopedStore.board s) subject) :
    kind.store.getHealth s subject ≠ .down ∧ kind.store.getQuota s subject ≠ .exhausted ∧
      kind.store.getCredential s subject = .enabled ∧
      ∀ d, kind.store.getCooldown s subject = some d →
        ∃ call ∈ calls, call.deadline engine = some d := by
  rw [kind.scopedStore.getHealth_eq, kind.scopedStore.getQuota_eq,
    kind.scopedStore.getCredential_eq, kind.scopedStore.getCooldown_eq, passing.credential]
  have ofHealth : ∀ d, ((kind.scopedStore.board s).seenHealth subject).bind Prod.snd = some d →
      ∃ call ∈ calls, call.deadline engine = some d := by
    intro d isDeadline
    obtain ⟨row, seen, own⟩ := Option.bind_eq_some_iff.mp isDeadline
    exact (passing.health row seen).2 d own
  have ofQuota : ∀ d, ((kind.scopedStore.board s).seenQuota subject).bind Prod.snd = some d →
      ∃ call ∈ calls, call.deadline engine = some d := by
    intro d isDeadline
    obtain ⟨row, seen, own⟩ := Option.bind_eq_some_iff.mp isDeadline
    exact (passing.quota row seen).2 d own
  refine ⟨?_, ?_, rfl, ?_⟩
  · cases seen : (kind.scopedStore.board s).seenHealth subject with
    | none => simp
    | some row => exact (passing.health row seen).1
  · cases seen : (kind.scopedStore.board s).seenQuota subject with
    | none => simp
    | some row => exact (passing.quota row seen).1
  · intro d later
    rcases laterDeadline_eq_some later with left | right
    · exact ofHealth d left
    · exact ofQuota d right

end Histories

/-- After successes and transient failures only, from an empty store, every
candidate is usable, and eligible as soon as every deadline written has passed. -/
theorem transient_never_blacklists (kind : StoreKind) (engine : FallbackEngine)
    {calls : List EngineCall} (transient : ∀ call ∈ calls, call.Transient) :
    (∀ candidates, ∀ sc ∈ scoreCandidates kind.store
        (stateAfter kind.store engine calls kind.empty) candidates, sc.usable = true) ∧
      ∀ (candidate : RouteCandidate) (now : Instant),
        (∀ call ∈ calls, ∀ d, call.deadline engine = some d → d ≤ now) →
          eligible kind.store now (stateAfter kind.store engine calls kind.empty) candidate =
            true := by
  constructor
  · intro candidates sc member
    obtain ⟨candidate, -, rfl⟩ := mem_scoreCandidates.mp member
    obtain ⟨health, quota, credential, -⟩ :=
      (passing_stateAfter kind engine transient (subject candidate)).reads
    apply usable_scoreCandidate_iff.mpr
    exact ⟨health, quota, by simp [credential]⟩
  · intro candidate now passed
    obtain ⟨health, quota, credential, cooldown⟩ :=
      (passing_stateAfter kind engine transient (subject candidate)).reads
    rw [← Bool.not_eq_false, eligible_eq_false_iff_reads]
    rintro (down | exhausted | refused | ⟨d, isDeadline, late⟩)
    · exact health down
    · exact quota exhausted
    · rw [credential] at refused
      simp at refused
    · obtain ⟨call, member, own⟩ := cooldown d isDeadline
      exact absurd late (not_lt.mpr (passed call member d own))

/-- A rate limit and a server failure at time 0, seen after a minute. -/
theorem transient_never_blacklists_minute :
    let candidate : RouteCandidate := ⟨"p", some "k", ⟨"m", "p", ∅⟩, ∅, .api, 100, false⟩
    eligible SqliteStateStore.store (60 * second) (stateAfter SqliteStateStore.store {}
      [.failed 0 candidate { errorClass := .rateLimit },
        .failed 0 candidate { errorClass := .server }] SqliteStateStore.empty) candidate =
      true := by
  intro candidate
  have transient : ∀ call ∈ [EngineCall.failed 0 candidate { errorClass := .rateLimit },
      .failed 0 candidate { errorClass := .server }], call.Transient := by
    simp [EngineCall.Transient, TransientClass]
  apply (transient_never_blacklists .sqlite {} transient).2 candidate (60 * second)
  simp [EngineCall.deadline, rateLimitDeadline, providerDeadline, cooldown, second]

end AutoRouteGateway.Routing

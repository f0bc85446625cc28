import AutoRouteGateway.Routing.Cooldown

/-!
Contract: when recording a failure re-enables a candidate.

A failure replaces a whole row, its state and its cooldown together, and may
put a row in front of a stricter one. Refusals and exhaustions last for ever,
so they shorten nothing; a rate limit and a provider-wide cooldown can.

Owns: the exact condition under which a failure shortens a candidate's hold.
-/

namespace AutoRouteGateway.Routing

open AutoRouteGateway.Domain
open AutoRouteGateway.Library
open AutoRouteGateway.Policy
open AutoRouteGateway.State

section Shortening

variable {scheme : ScopeScheme}

/-- The rate limit is what `other` reads next, and what it read for its quota
before outlasts both the new cooldown and its other holds. -/
def ShortensQuota (engine : FallbackEngine) (now : Instant) (failed : RouteCandidate)
    (failure : CandidateFailure) (board : Board scheme) (other : RouteCandidate) : Prop :=
  board.ReadsQuota (subject failed) (subject other) ∧
    healthHorizon (board.seenHealth (subject other)) ⊔
        credentialHorizon (board.seenCredential (subject other)) ⊔
        Horizon.upTo (max now (rateLimitDeadline engine now failure)) <
      quotaHorizon (board.seenQuota (subject other))

/-- The provider row is what `other` reads next, and what it read for its
health before outlasts both the new cooldown and its other holds. -/
def ShortensHealth (engine : FallbackEngine) (now : Instant) (failed : RouteCandidate)
    (failure : CandidateFailure) (board : Board scheme) (other : RouteCandidate) : Prop :=
  board.ReadsHealth (providerSubject failed) (subject other) ∧
    quotaHorizon (board.seenQuota (subject other)) ⊔
        credentialHorizon (board.seenCredential (subject other)) ⊔
        Horizon.upTo (max now (now + providerCooldown engine failure.errorClass)) <
      healthHorizon (board.seenHealth (subject other))

/-- Recording the failure shortens what holds `other` out of service. -/
def Shortens (engine : FallbackEngine) (now : Instant) (failed : RouteCandidate)
    (failure : CandidateFailure) (board : Board scheme) (other : RouteCandidate) : Prop :=
  match failure.errorClass with
  | .rateLimit => ShortensQuota engine now failed failure board other
  | .network | .server => ShortensHealth engine now failed failure board other
  | _ => False

variable {engine : FallbackEngine} {now : Instant} {failed other : RouteCandidate}
  {failure : CandidateFailure} {board : Board scheme}

/-- Replacing one part of a hold keeps it long enough unless the part outlasts
the rest. -/
theorem replaced_le_iff {health quota credential replacement start : Horizon Instant} :
    health ⊔ quota ⊔ credential ≤ health ⊔ replacement ⊔ credential ⊔ start ↔
      ¬ health ⊔ credential ⊔ (start ⊔ replacement) < quota := by
  rw [not_lt]
  constructor
  · intro bound
    calc quota ≤ health ⊔ quota ⊔ credential := le_sup_of_le_left le_sup_right
      _ ≤ health ⊔ replacement ⊔ credential ⊔ start := bound
      _ = health ⊔ credential ⊔ (start ⊔ replacement) := by
          simp only [sup_comm, sup_left_comm]
  · intro bound
    refine sup_le (sup_le ?_ (bound.trans ?_)) ?_
    · exact le_sup_of_le_left (le_sup_of_le_left le_sup_left)
    · refine sup_le (sup_le ?_ ?_) (sup_le le_sup_right ?_)
      · exact le_sup_of_le_left (le_sup_of_le_left le_sup_left)
      · exact le_sup_of_le_left le_sup_right
      · exact le_sup_of_le_left (le_sup_of_le_left le_sup_right)
    · exact le_sup_of_le_left le_sup_right

theorem hold_postRateLimit_iff :
    board.hold (subject other) ≤
        (board.postQuota (subject failed)
          (.rateLimited, some (rateLimitDeadline engine now failure))).hold (subject other) ⊔
          Horizon.upTo now ↔
      ¬ ShortensQuota engine now failed failure board other := by
  unfold ShortensQuota Board.hold
  rw [Board.seenHealth_postQuota, Board.seenCredential_postQuota]
  by_cases reads : board.ReadsQuota (subject failed) (subject other)
  · rw [Board.seenQuota_postQuota_of_reads reads, Horizon.upTo_max]
    simp only [reads, true_and]
    exact replaced_le_iff
  · rw [Board.seenQuota_postQuota_of_not_reads reads]
    simp only [reads, false_and, not_false_eq_true, iff_true]
    exact le_sup_left

theorem hold_postProviderRow_iff :
    board.hold (subject other) ≤
        (board.postHealth (providerSubject failed)
          (.degraded, some (now + providerCooldown engine failure.errorClass))).hold
            (subject other) ⊔ Horizon.upTo now ↔
      ¬ ShortensHealth engine now failed failure board other := by
  unfold ShortensHealth Board.hold
  rw [Board.seenQuota_postHealth, Board.seenCredential_postHealth]
  by_cases reads : board.ReadsHealth (providerSubject failed) (subject other)
  · rw [Board.seenHealth_postHealth_of_reads reads, Horizon.upTo_max]
    simp only [reads, true_and]
    rw [sup_comm (healthHorizon _) (quotaHorizon _), sup_comm (healthHorizon _) (quotaHorizon _)]
    exact replaced_le_iff
  · rw [Board.seenHealth_postHealth_of_not_reads reads]
    simp only [reads, false_and, not_false_eq_true, iff_true]
    exact le_sup_left

end Shortening

/-- From `now` on, recording the failure keeps out whatever was out before
exactly when it does not shorten the candidate's hold. -/
theorem applyFailure_keeps_out_iff (kind : StoreKind) (engine : FallbackEngine)
    (s : kind.Contents) (candidate other : RouteCandidate) (failure : CandidateFailure)
    (now : Instant) :
    (∀ time, now ≤ time → eligible kind.store time s other = false →
        eligible kind.store time
          (applyFailure kind.store engine now candidate failure s).state other = false) ↔
      ¬ Shortens engine now candidate failure (kind.scopedStore.board s) other := by
  simp only [eligible_eq_false_iff kind.scopedStore]
  rw [Horizon.forall_ge_blocks_imp_iff, board_applyFailure]
  unfold Shortens
  have lasting : ∀ after : Board kind.scopedStore.scheme,
      (kind.scopedStore.board s).hold (subject other) ≤ after.hold (subject other) →
        ((kind.scopedStore.board s).hold (subject other) ≤
            after.hold (subject other) ⊔ Horizon.upTo now ↔ ¬ False) := by
    intro after grows
    simp only [not_false_eq_true, iff_true]
    exact grows.trans le_sup_left
  cases errorClass : failure.errorClass with
  | auth =>
      simp only [boardFailure, errorClass]
      exact lasting _ (Board.hold_le_hold_postCredential _ _ _ rfl)
  | quota =>
      simp only [boardFailure, errorClass]
      exact lasting _ (Board.hold_le_hold_postQuota _ _ _ rfl)
  | modelNotFound =>
      simp only [boardFailure, errorClass]
      exact lasting _ (Board.hold_le_hold_postHealth _ _ _ rfl)
  | rateLimit =>
      simp only [boardFailure, errorClass]
      exact hold_postRateLimit_iff
  | network =>
      rw [boardFailure_providerWide (Or.inl errorClass)]
      exact hold_postProviderRow_iff
  | server =>
      rw [boardFailure_providerWide (Or.inr errorClass)]
      exact hold_postProviderRow_iff
  | tokenLimit =>
      simp only [boardFailure, errorClass]
      exact lasting _ le_rfl
  | unknown =>
      simp only [boardFailure, errorClass]
      exact lasting _ le_rfl

/-- In both stores a rate limit re-enables an exhausted candidate once its
cooldown is over. -/
theorem applyFailure_reenables_exhausted :
    (eligible StoreKind.inMemory.store (60 * second)
        (stateAfter StoreKind.inMemory.store {}
          [.failed 0 ⟨"p", some "k", ⟨"m", "p", ∅⟩, ∅, .api, 100, false⟩
            { errorClass := .quota }]
          StoreKind.inMemory.empty)
        ⟨"p", some "k", ⟨"m", "p", ∅⟩, ∅, .api, 100, false⟩ = false ∧
      eligible StoreKind.inMemory.store (60 * second)
        (applyFailure StoreKind.inMemory.store {} 0
          ⟨"p", some "k", ⟨"m", "p", ∅⟩, ∅, .api, 100, false⟩ { errorClass := .rateLimit }
          (stateAfter StoreKind.inMemory.store {}
            [.failed 0 ⟨"p", some "k", ⟨"m", "p", ∅⟩, ∅, .api, 100, false⟩
              { errorClass := .quota }]
            StoreKind.inMemory.empty)).state
        ⟨"p", some "k", ⟨"m", "p", ∅⟩, ∅, .api, 100, false⟩ = true) ∧
    eligible StoreKind.sqlite.store (60 * second)
        (stateAfter StoreKind.sqlite.store {}
          [.failed 0 ⟨"p", some "k", ⟨"m", "p", ∅⟩, ∅, .api, 100, false⟩
            { errorClass := .quota }]
          StoreKind.sqlite.empty)
        ⟨"p", some "k", ⟨"m", "p", ∅⟩, ∅, .api, 100, false⟩ = false ∧
      eligible StoreKind.sqlite.store (60 * second)
        (applyFailure StoreKind.sqlite.store {} 0
          ⟨"p", some "k", ⟨"m", "p", ∅⟩, ∅, .api, 100, false⟩ { errorClass := .rateLimit }
          (stateAfter StoreKind.sqlite.store {}
            [.failed 0 ⟨"p", some "k", ⟨"m", "p", ∅⟩, ∅, .api, 100, false⟩
              { errorClass := .quota }]
            StoreKind.sqlite.empty)).state
        ⟨"p", some "k", ⟨"m", "p", ∅⟩, ∅, .api, 100, false⟩ = true := by
  decide

end AutoRouteGateway.Routing

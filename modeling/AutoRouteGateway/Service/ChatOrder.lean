import AutoRouteGateway.Routing.ScoredOrder
import AutoRouteGateway.Service.Chat

/-!
Contract: the candidates that one call of `chat` contacts, from the
configuration to the run.

Owns: that they come from the enumerated list with the reserve candidates last,
cover what the payload requires and leave no regular candidate out, and that
what the store has observed changes which candidates are usable but never their
order.
-/

namespace AutoRouteGateway.Service

open AutoRouteGateway.Config
open AutoRouteGateway.Domain
open AutoRouteGateway.Library
open AutoRouteGateway.Routing
open AutoRouteGateway.Runtime
open AutoRouteGateway.State

/-- The turns of a run over the candidates that were enumerated and passed the gate. -/
structure ContactsInOrder {σ ρ : Type} (S : StateStore σ) (clock : Clock) (start : σ)
    (enumerated : List RouteCandidate) (required : CapabilitySet) (log : RunLog σ ρ) : Prop where
  visits : Visits S clock 0 (scoreCandidates S start (capabilityGate enumerated required)) log
  configured : log.contacted.Sublist (reserveLast enumerated)
  covered : ∀ candidate ∈ log.contacted, required ⊆ candidate.capabilities
  regularFirst :
    RegularFirst S clock (scoreCandidates S start (capabilityGate enumerated required)) log

theorem reserveLast_sublist {candidates others : List RouteCandidate}
    (sublist : candidates.Sublist others) :
    (reserveLast candidates).Sublist (reserveLast others) :=
  (sublist.filter _).append (sublist.filter _)

section Order

variable {σ : Type} {S : StateStore σ} {engine : FallbackEngine} {service : GatewayService}
  {clock : Clock} {start : σ}

/-- The scored list of a request, with what it was made of. -/
theorem scoredCandidates_eq {virtualModel : String} {payload : Dict} {counter : Nat}
    {scored : List ScoredCandidate}
    (isScored : (scoredCandidates S service virtualModel payload counter start).1 = .ok scored) :
    ∃ required enumerated, capabilitiesFromPayload payload = .ok required ∧
      (buildCandidates virtualModel service.config counter).1 = .ok enumerated ∧
      scored = scoreCandidates S start (capabilityGate enumerated required) := by
  unfold scoredCandidates at isScored
  split at isScored
  · cases isScored
  · rename_i required isRequired
    split at isScored
    · cases isScored
    · rename_i enumerated counter' build
      split at isScored
      · cases isScored
      · cases isScored
        exact ⟨required, enumerated, isRequired, by rw [build], rfl⟩

/-- The usable candidates of the scored list, in the configured order. -/
theorem usable_scoreCandidates (candidates : List RouteCandidate) :
    ((scoreCandidates S start candidates).filter fun sc => sc.usable).map
        ScoredCandidate.candidate =
      reserveLast (candidates.filter (usableIn S start)) := by
  have scored : ∀ sc ∈ scoreCandidates S start candidates,
      sc.usable = usableIn S start sc.candidate := by
    intro sc member
    obtain ⟨candidate, -, rfl⟩ := mem_scoreCandidates.mp member
    rfl
  rw [← scoreCandidates_filter S start (fun _ usable => usable), List.filter_map]
  exact congrArg _ (List.filter_congr scored)

theorem contactsInOrder {ρ : Type} {enumerated : List RouteCandidate} {required : CapabilitySet}
    {log : RunLog σ ρ} (visits : Visits S clock 0
      (scoreCandidates S start (capabilityGate enumerated required)) log) :
    ContactsInOrder S clock start enumerated required log where
  visits := visits
  configured := by
    apply visits.contacted_sublist.trans
    rw [usable_scoreCandidates]
    exact reserveLast_sublist (List.filter_sublist.trans List.filter_sublist)
  covered := by
    intro candidate member
    have inScored := visits.contacted_sublist.subset member
    rw [usable_scoreCandidates] at inScored
    have gated := List.mem_of_mem_filter ((reserveLast_perm _).mem_iff.mp inScored)
    exact (mem_capabilityGate.mp gated).2
  regularFirst := visits.regularFirst (scoreCandidates_pairwise S start _)

end Order

/-- Ordering and gating from the configuration to the calls, which are those that the
run makes of `attempt` from the start store on. -/
theorem chat_keeps_configured_order {σ : Type} (S : StateStore σ) (engine : FallbackEngine)
    (service : GatewayService) (clock : Clock) (upstream : Upstream σ)
    (requestId virtualModel : String) (payload : Dict) (counter : Nat) (start : σ) :
    (∀ log, (chat S engine service clock upstream requestId virtualModel payload counter
        start).run = some log →
      Performed S engine clock ⟨requestId, virtualModel⟩
          (chatAttempt service upstream virtualModel) start log ∧
        ∃ enumerated required,
          (buildCandidates virtualModel service.config counter).1 = .ok enumerated ∧
          capabilitiesFromPayload payload = .ok required ∧
          ContactsInOrder S clock start enumerated required log) ∧
    (∀ s candidates,
      ((scoreCandidates S s candidates).map ScoredCandidate.candidate).Perm candidates) ∧
    (∀ s other candidates,
      ((scoreCandidates S s candidates).map ScoredCandidate.candidate).filter
          (fun candidate => usableIn S s candidate && usableIn S other candidate) =
        ((scoreCandidates S other candidates).map ScoredCandidate.candidate).filter
          (fun candidate => usableIn S s candidate && usableIn S other candidate)) := by
  refine ⟨?_, fun s => scoreCandidates_perm S s, ?_⟩
  · intro log ran
    obtain ⟨scored, isScored, isRun⟩ := run_of_chat ran
    obtain ⟨required, enumerated, isRequired, build, isList⟩ := scoredCandidates_eq isScored
    refine ⟨isRun ▸ run_performed scored start, enumerated, required, build, isRequired,
      contactsInOrder ?_⟩
    rw [isRun, ← isList]
    exact runFrom_visits _ _ _
  · intro s other candidates
    rw [scoreCandidates_filter S s (fun _ both => (Bool.and_eq_true_iff.mp both).1),
      scoreCandidates_filter S other (fun _ both => (Bool.and_eq_true_iff.mp both).2)]

/-- A reserve key in front of another, and both refused. -/
theorem chat_keeps_configured_order_refused :
    ∃ (log : RunLog InMemoryStateStore Dict) (enumerated : List RouteCandidate)
        (required : CapabilitySet),
      log.contacted.map RouteCandidate.credentialId = [some "second", some "first"] ∧
        ContactsInOrder InMemoryStateStore.store ⟨fun _ => 0, fun _ => 0⟩
          InMemoryStateStore.empty enumerated required log := by
  obtain ⟨-, enumerated, required, -, -, inOrder⟩ := (chat_keeps_configured_order
    InMemoryStateStore.store {}
    (singleProviderService
      [⟨"first", "K", 100, true⟩, ⟨"second", "K", 50, false⟩]
      ⟨UpsertTable.empty.upsert "K" "s", .empty⟩)
    ⟨fun _ => 0, fun _ => 0⟩
    (.constant _ (.raised (.http 401 "" [])) (.completed []) ⟨[], none⟩) "r" "v" [] 0 .empty).1
    _ rfl
  exact ⟨_, enumerated, required, by decide +kernel, inOrder⟩

end AutoRouteGateway.Service

import AutoRouteGateway.Domain.Candidate

/-!
Owns the gate before the router: candidates whose capabilities do not cover
the requirement are dropped, order kept.
-/

namespace AutoRouteGateway.Routing

open AutoRouteGateway.Domain

def capabilityGate (candidates : List RouteCandidate) (required : CapabilitySet) :
    List RouteCandidate :=
  candidates.filter fun candidate => candidate.capabilities.covers required

theorem mem_capabilityGate {candidates : List RouteCandidate} {required : CapabilitySet}
    {candidate : RouteCandidate} :
    candidate ∈ capabilityGate candidates required ↔
      candidate ∈ candidates ∧ required ⊆ candidate.capabilities := by
  unfold capabilityGate CapabilitySet.covers
  rw [List.mem_filter, decide_eq_true_iff]

end AutoRouteGateway.Routing

import AutoRouteGateway.Domain.Capability

/-!
Owns the routing unit: one provider, one credential and one concrete model,
with the capabilities declared for it.
-/

namespace AutoRouteGateway.Domain

/-- A specific model on a specific provider. -/
structure ConcreteModel where
  modelId : String
  providerId : String
  capabilities : CapabilitySet := ∅
deriving DecidableEq

inductive ExecutorType where
  | api
  | cli
deriving DecidableEq, Repr

/-- Executor candidates carry no credential, so `credentialId` is optional. -/
structure RouteCandidate where
  providerId : String
  credentialId : Option String
  concreteModel : ConcreteModel
  capabilities : CapabilitySet
  executorType : ExecutorType
  credentialPriority : Int := 100
  reserve : Bool := false
deriving DecidableEq

end AutoRouteGateway.Domain

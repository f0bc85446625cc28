import Mathlib.Data.List.Sort
import AutoRouteGateway.Config.Schema
import AutoRouteGateway.Domain.Candidate

/-!
Contract: the candidates of a virtual model, in route order.

Owns: key ordering with the round-robin counter, the enumeration over steps
and keys, and what every enumerated candidate carries.

The counter is a module global of the source. It is threaded explicitly: each
build takes the value it finds and returns the value it leaves.
-/

namespace AutoRouteGateway.Routing

open AutoRouteGateway.Config
open AutoRouteGateway.Domain
open AutoRouteGateway.Library

structure UnknownVirtualModelError where
  name : String
deriving DecidableEq, Repr

/-- The sort key `(-priority, reserve)`, compared lexicographically. -/
def keyBefore (left right : KeyConfig) : Bool :=
  decide (right.priority < left.priority) ||
    (left.priority == right.priority && (!left.reserve || right.reserve))

/-- The keys of one build and the counter after it. -/
def orderKeys (provider : ProviderConfig) (counter : Nat) : List KeyConfig × Nat :=
  let ordered := provider.keys.insertionSort fun left right => keyBefore left right = true
  match provider.keyPoolStrategy with
  | .roundRobin =>
      let counter := counter + 1
      let offset := if ordered = [] then 0 else counter % ordered.length
      (ordered.drop offset ++ ordered.take offset, counter)
  | _ => (ordered, counter)

theorem mem_orderKeys {provider : ProviderConfig} {counter : Nat} {key : KeyConfig} :
    key ∈ (orderKeys provider counter).1 ↔ key ∈ provider.keys := by
  have sorted : ∀ key, key ∈ provider.keys.insertionSort
      (fun left right => keyBefore left right = true) ↔ key ∈ provider.keys :=
    fun key => List.mem_insertionSort _
  unfold orderKeys
  split
  · rw [List.mem_append, or_comm, ← List.mem_append, List.take_append_drop]
    exact sorted key
  · exact sorted key

/-- `Provider.executor_type`. The builder reads it from the entry of the
provider's own id, which is the same entry. -/
def executorType (provider : ProviderConfig) : ExecutorType :=
  if provider.type = .executor then .cli else .api

def concreteModel (provider : ProviderConfig) (model : ModelConfig) : ConcreteModel where
  modelId := model.id
  providerId := provider.id
  capabilities := model.capabilities

/-- The single candidate of an executor provider, without a credential. -/
def executorCandidate (provider : ProviderConfig) (model : ModelConfig) : RouteCandidate where
  providerId := provider.id
  credentialId := none
  concreteModel := concreteModel provider model
  capabilities := model.capabilities
  executorType := .cli
  credentialPriority := 0
  reserve := false

def keyCandidate (provider : ProviderConfig) (model : ModelConfig) (key : KeyConfig) :
    RouteCandidate where
  providerId := provider.id
  credentialId := some key.id
  concreteModel := concreteModel provider model
  capabilities := model.capabilities
  executorType := executorType provider
  credentialPriority := key.priority
  reserve := key.reserve

/-- The candidates one route step contributes. -/
def stepCandidates (config : GatewayConfig) (step : RouteStep) (counter : Nat) :
    List RouteCandidate × Nat :=
  match config.providers.get? step.provider with
  | none => ([], counter)
  | some provider =>
      if provider.enabled = false then ([], counter)
      else if provider.type = .executor ∧ config.codexEnabled = false then ([], counter)
      else
        match provider.model step.model with
        | none => ([], counter)
        | some model =>
            if provider.type = .executor then ([executorCandidate provider model], counter)
            else
              let keys := orderKeys provider counter
              (keys.1.map (keyCandidate provider model), keys.2)

def stepsCandidates (config : GatewayConfig) :
    List RouteStep → Nat → List RouteCandidate × Nat
  | [], counter => ([], counter)
  | step :: rest, counter =>
      let first := stepCandidates config step counter
      let others := stepsCandidates config rest first.2
      (first.1 ++ others.1, others.2)

/-- The ordered candidates of a virtual model, and the counter after the build. -/
def buildCandidates (virtualModelName : String) (config : GatewayConfig) (counter : Nat) :
    Except UnknownVirtualModelError (List RouteCandidate) × Nat :=
  match config.routes.get? virtualModelName with
  | none => (.error ⟨virtualModelName⟩, counter)
  | some route =>
      let built := stepsCandidates config route.steps counter
      (.ok built.1, built.2)

/-! ## What a candidate carries -/

/-- The configuration entries a candidate was made from. -/
structure BuiltFrom (config : GatewayConfig) (candidate : RouteCandidate) where
  provider : ProviderConfig
  configured : config.providers.get? candidate.providerId = some provider
  enabled : provider.enabled = true
  model : ModelConfig
  modelConfigured : model ∈ provider.models
  modelId : candidate.concreteModel.modelId = model.id
  shape : (provider.type = .executor ∧ candidate.executorType = .cli ∧
      candidate.credentialId = none) ∨
    (provider.type ≠ .executor ∧ candidate.executorType = .api ∧
      ∃ key ∈ provider.keys, candidate.credentialId = some key.id)

theorem builtFrom_of_mem_stepCandidates {config : GatewayConfig} {step : RouteStep}
    {counter : Nat} {candidate : RouteCandidate}
    (member : candidate ∈ (stepCandidates config step counter).1) :
    Nonempty (BuiltFrom config candidate) := by
  unfold stepCandidates at member
  split at member
  · cases member
  · rename_i provider configured
    have sameId : provider.id = step.provider := config.idsMatch _ _ configured
    have ownEntry : config.providers.get? provider.id = some provider := sameId ▸ configured
    split_ifs at member with disabled codexOff executor
    · cases member
    · cases member
    · have enabled : provider.enabled = true := by simpa using disabled
      split at member
      · cases member
      · rename_i model found
        rw [List.mem_singleton] at member
        subst member
        exact ⟨⟨provider, ownEntry, enabled, model, ProviderConfig.mem_models_of_model found, rfl,
          Or.inl ⟨executor, rfl, rfl⟩⟩⟩
    · have enabled : provider.enabled = true := by simpa using disabled
      split at member
      · cases member
      · rename_i model found
        obtain ⟨key, keyMember, rfl⟩ := List.mem_map.mp member
        exact ⟨⟨provider, ownEntry, enabled, model, ProviderConfig.mem_models_of_model found, rfl,
          Or.inr ⟨executor, if_neg executor, key, mem_orderKeys.mp keyMember, rfl⟩⟩⟩

theorem builtFrom_of_mem_stepsCandidates {config : GatewayConfig} {steps : List RouteStep}
    {counter : Nat} {candidate : RouteCandidate}
    (member : candidate ∈ (stepsCandidates config steps counter).1) :
    Nonempty (BuiltFrom config candidate) := by
  induction steps generalizing counter with
  | nil => cases member
  | cons step rest inductionHypothesis =>
      rcases List.mem_append.mp member with first | later
      · exact builtFrom_of_mem_stepCandidates first
      · exact inductionHypothesis later

/-- The candidate appears in some build for some virtual model. -/
def IsCandidate (config : GatewayConfig) (candidate : RouteCandidate) : Prop :=
  ∃ name counter built, (buildCandidates name config counter).1 = .ok built ∧ candidate ∈ built

theorem builtFrom_of_mem_buildCandidates {config : GatewayConfig} {name : String}
    {counter : Nat} {built : List RouteCandidate} {candidate : RouteCandidate}
    (build : (buildCandidates name config counter).1 = .ok built)
    (member : candidate ∈ built) : Nonempty (BuiltFrom config candidate) := by
  unfold buildCandidates at build
  split at build
  · cases build
  · cases build
    exact builtFrom_of_mem_stepsCandidates member

theorem IsCandidate.builtFrom {config : GatewayConfig} {candidate : RouteCandidate}
    (isCandidate : IsCandidate config candidate) : Nonempty (BuiltFrom config candidate) := by
  obtain ⟨name, counter, built, build, member⟩ := isCandidate
  exact builtFrom_of_mem_buildCandidates build member

/-- The candidates of one provider all carry a credential or none does. -/
theorem IsCandidate.credential_none_iff {config : GatewayConfig}
    {left right : RouteCandidate} (isLeft : IsCandidate config left)
    (isRight : IsCandidate config right) (same : left.providerId = right.providerId) :
    left.credentialId = none ↔ right.credentialId = none := by
  obtain ⟨fromLeft⟩ := isLeft.builtFrom
  obtain ⟨fromRight⟩ := isRight.builtFrom
  have sameEntry : fromLeft.provider = fromRight.provider := by
    have entry := fromLeft.configured
    rw [same, fromRight.configured] at entry
    exact (Option.some.inj entry).symm
  rcases fromLeft.shape with ⟨executor, -, none⟩ | ⟨api, -, key, -, isKey⟩
  · rcases fromRight.shape with ⟨-, -, none'⟩ | ⟨api', -⟩
    · simp [none, none']
    · exact absurd (sameEntry ▸ executor) api'
  · rcases fromRight.shape with ⟨executor', -⟩ | ⟨-, -, key', -, isKey'⟩
    · exact absurd (sameEntry ▸ executor') api
    · simp [isKey, isKey']

end AutoRouteGateway.Routing

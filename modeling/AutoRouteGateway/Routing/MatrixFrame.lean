import AutoRouteGateway.Config.CapabilityMatrix
import AutoRouteGateway.Config.Loader
import AutoRouteGateway.Routing.CandidateBuilder

/-!
Contract: what applying the capability matrix leaves unchanged.

Owns: the candidates of successive builds up to capabilities, and the exact
condition under which the matrix changes capabilities only.
-/

namespace AutoRouteGateway.Routing

open AutoRouteGateway.Config
open AutoRouteGateway.Domain
open AutoRouteGateway.Library

/-- A candidate without its capabilities. -/
structure CandidateIdentity where
  providerId : String
  credentialId : Option String
  modelId : String
  executorType : ExecutorType
  credentialPriority : Int
  reserve : Bool
deriving DecidableEq, Repr

def identity (candidate : RouteCandidate) : CandidateIdentity where
  providerId := candidate.providerId
  credentialId := candidate.credentialId
  modelId := candidate.concreteModel.modelId
  executorType := candidate.executorType
  credentialPriority := candidate.credentialPriority
  reserve := candidate.reserve

/-- The candidates of one build. -/
def builtIdentities (name : String) (config : GatewayConfig) (counter : Nat) :
    Except UnknownVirtualModelError (List CandidateIdentity) :=
  (buildCandidates name config counter).1.map (List.map identity)

/-- Successive builds of one virtual model; each starts from the counter the
one before it left. -/
def successiveBuilds (name : String) (config : GatewayConfig) :
    (count counter : Nat) → List (Except UnknownVirtualModelError (List CandidateIdentity))
  | 0, _ => []
  | count + 1, counter =>
      builtIdentities name config counter ::
        successiveBuilds name config count (buildCandidates name config counter).2

/-- The two configurations build the same candidates, and their providers agree
in every field but the capabilities of the models. -/
structure ChangesCapabilitiesOnly (config applied : GatewayConfig) : Prop where
  builds : ∀ name count counter,
    successiveBuilds name applied count counter = successiveBuilds name config count counter
  fields : (applied.providers.rows.map fun row => (row.1, withoutCapabilities row.2)) =
    config.providers.rows.map fun row => (row.1, withoutCapabilities row.2)

section Builds

variable {config : GatewayConfig} (matrix : CapabilityMatrix)

/-- No provider rotates its keys. -/
def NoRotation (config : GatewayConfig) : Prop :=
  ∀ pid provider, config.providers.get? pid = some provider →
    provider.keyPoolStrategy ≠ .roundRobin

theorem orderKeys_refitProvider (pid : String) {provider : ProviderConfig}
    (fixed : provider.keyPoolStrategy ≠ .roundRobin) (counter : Nat) :
    orderKeys (refitProvider matrix pid provider) counter = orderKeys provider counter := by
  unfold orderKeys refitProvider
  cases strategy : provider.keyPoolStrategy with
  | priority => rfl
  | roundRobin => exact absurd strategy fixed
  | other name => rfl

/-- Without rotation, a step contributes the same candidates and leaves the
counter where it was left before. -/
theorem stepCandidates_applied (fixed : NoRotation config) (step : RouteStep) (counter : Nat) :
    (stepCandidates (applyCapabilityMatrix config matrix) step counter).1.map identity =
        (stepCandidates config step counter).1.map identity ∧
      (stepCandidates (applyCapabilityMatrix config matrix) step counter).2 =
        (stepCandidates config step counter).2 := by
  have lookup : (applyCapabilityMatrix config matrix).providers.get? step.provider =
      (config.providers.get? step.provider).map (refitProvider matrix step.provider) :=
    UpsertTable.get?_mapValues _ _ _
  have codex : (applyCapabilityMatrix config matrix).codexEnabled = config.codexEnabled := rfl
  simp only [stepCandidates, lookup, codex]
  cases configured : config.providers.get? step.provider with
  | none => exact ⟨rfl, rfl⟩
  | some provider =>
      have keys := orderKeys_refitProvider matrix step.provider
        (fixed _ _ configured) counter
      have enabled : (refitProvider matrix step.provider provider).enabled = provider.enabled :=
        rfl
      have type : (refitProvider matrix step.provider provider).type = provider.type := rfl
      simp only [Option.map_some, enabled, type, model_refitProvider, keys]
      split_ifs
      · exact ⟨rfl, rfl⟩
      · exact ⟨rfl, rfl⟩
      · cases provider.model step.model <;> exact ⟨rfl, rfl⟩
      · cases provider.model step.model with
        | none => exact ⟨rfl, rfl⟩
        | some model =>
            refine ⟨?_, rfl⟩
            simp only [Option.map_some, List.map_map]
            rfl

theorem stepsCandidates_applied (fixed : NoRotation config) (steps : List RouteStep)
    (counter : Nat) :
    (stepsCandidates (applyCapabilityMatrix config matrix) steps counter).1.map identity =
        (stepsCandidates config steps counter).1.map identity ∧
      (stepsCandidates (applyCapabilityMatrix config matrix) steps counter).2 =
        (stepsCandidates config steps counter).2 := by
  induction steps generalizing counter with
  | nil => exact ⟨rfl, rfl⟩
  | cons step rest inductionHypothesis =>
      obtain ⟨first, left⟩ := stepCandidates_applied matrix fixed step counter
      simp only [stepsCandidates, List.map_append, first, left]
      obtain ⟨others, final⟩ := inductionHypothesis (stepCandidates config step counter).2
      exact ⟨by rw [others], final⟩

theorem buildCandidates_applied (fixed : NoRotation config) (name : String) (counter : Nat) :
    builtIdentities name (applyCapabilityMatrix config matrix) counter =
        builtIdentities name config counter ∧
      (buildCandidates name (applyCapabilityMatrix config matrix) counter).2 =
        (buildCandidates name config counter).2 := by
  have routes : (applyCapabilityMatrix config matrix).routes = config.routes := rfl
  simp only [builtIdentities, buildCandidates, routes]
  cases config.routes.get? name with
  | none => exact ⟨rfl, rfl⟩
  | some route =>
      obtain ⟨same, left⟩ := stepsCandidates_applied matrix fixed route.steps counter
      exact ⟨congrArg Except.ok same, left⟩

/-- Without rotation, all successive builds are the same. -/
theorem successiveBuilds_applied (fixed : NoRotation config) (name : String)
    (count counter : Nat) :
    successiveBuilds name (applyCapabilityMatrix config matrix) count counter =
      successiveBuilds name config count counter := by
  induction count generalizing counter with
  | zero => rfl
  | succ count inductionHypothesis =>
      obtain ⟨same, left⟩ := buildCandidates_applied matrix fixed name counter
      rw [successiveBuilds, successiveBuilds, same, left, inductionHypothesis]

end Builds

/-- The matrix changes capabilities only, exactly when every provider has the
default strategy. -/
theorem changesCapabilitiesOnly_iff (config : GatewayConfig) (matrix : CapabilityMatrix) :
    ChangesCapabilitiesOnly config (applyCapabilityMatrix config matrix) ↔
      ∀ row ∈ config.providers.rows, row.2.keyPoolStrategy = .priority := by
  have rebuilt : ((applyCapabilityMatrix config matrix).providers.rows.map fun row =>
      (row.1, withoutCapabilities row.2)) = config.providers.rows.map fun row =>
        (row.1, { withoutCapabilities row.2 with keyPoolStrategy := .priority }) := by
    change (config.providers.rows.map _).map _ = _
    rw [List.map_map]
    apply List.map_congr_left
    intro row member
    exact congrArg (Prod.mk row.1) (withoutCapabilities_refitProvider matrix row.1 row.2)
  constructor
  · intro only row member
    have fields := only.fields
    rw [rebuilt, List.map_inj_left] at fields
    have same := congrArg (fun pair => pair.2.keyPoolStrategy) (fields row member)
    exact same.symm
  · intro priority
    constructor
    · apply successiveBuilds_applied matrix
      intro pid provider configured
      obtain ⟨row, member, -, isProvider⟩ := mem_of_lookupRows_eq_some configured
      rw [← isProvider, priority row member]
      simp
    · rw [rebuilt, List.map_inj_left]
      intro row member
      have same : row.2.keyPoolStrategy = .priority := priority row member
      have unchanged : ({ withoutCapabilities row.2 with keyPoolStrategy := .priority } :
          ProviderConfig) = withoutCapabilities row.2 := by
        rw [← same]
        rfl
      rw [unchanged]

/-- One route to a provider that rotates two keys. -/
def rotatingConfig : GatewayConfig where
  routes := UpsertTable.empty.upsert "v" ⟨[⟨"p", none⟩]⟩
  providers := UpsertTable.empty.upsert "p"
    { id := "p", type := .openaiCompatible, baseUrl := some "u", models := [{ id := "m" }]
      keys := [{ id := "k1", env := "A" }, { id := "k2", env := "B" }]
      keyPoolStrategy := .roundRobin }
  idsMatch := idsMatch_single rfl

/-- Even the empty matrix stops the rotation: the first build starts with the
other key. -/
theorem matrix_stops_rotation :
    validate rotatingConfig = .ok () ∧
      (builtIdentities "v" rotatingConfig 0).map (List.map CandidateIdentity.credentialId) =
        .ok [some "k2", some "k1"] ∧
      (builtIdentities "v" (applyCapabilityMatrix rotatingConfig .empty) 0).map
        (List.map CandidateIdentity.credentialId) = .ok [some "k1", some "k2"] ∧
      ¬ ChangesCapabilitiesOnly rotatingConfig (applyCapabilityMatrix rotatingConfig .empty) := by
  have rotated : (builtIdentities "v" rotatingConfig 0).map
      (List.map CandidateIdentity.credentialId) = .ok [some "k2", some "k1"] := by
    decide +kernel
  have static : (builtIdentities "v" (applyCapabilityMatrix rotatingConfig .empty) 0).map
      (List.map CandidateIdentity.credentialId) = .ok [some "k1", some "k2"] := by
    decide +kernel
  refine ⟨rfl, rotated, static, ?_⟩
  intro only
  have first := List.head_eq_of_cons_eq (only.builds "v" 1 0)
  rw [first, rotated] at static
  simp at static

end AutoRouteGateway.Routing

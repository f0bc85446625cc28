import AutoRouteGateway.Config.Schema

/-!
Owns the capability matrix and its application to a configuration.

The configuration is rebuilt field by field. The new provider is constructed
without a key pool strategy, so it gets the default one.
-/

namespace AutoRouteGateway.Config

open AutoRouteGateway.Domain
open AutoRouteGateway.Library

/-- Verified capabilities, keyed by `provider/model`. -/
abbrev CapabilityMatrix := UpsertTable String CapabilitySet

/-- The model with its verified capabilities, if it has any in the matrix. -/
def refitModel (matrix : CapabilityMatrix) (pid : String) (model : ModelConfig) :
    ModelConfig where
  id := model.id
  capabilities := (matrix.get? (pid ++ "/" ++ model.id)).getD model.capabilities
  default := model.default

def refitProvider (matrix : CapabilityMatrix) (pid : String) (provider : ProviderConfig) :
    ProviderConfig where
  id := provider.id
  type := provider.type
  baseUrl := provider.baseUrl
  models := provider.models.map (refitModel matrix pid)
  keys := provider.keys
  enabled := provider.enabled
  resetPolicy := provider.resetPolicy
  options := provider.options

def applyCapabilityMatrix (config : GatewayConfig) (matrix : CapabilityMatrix) :
    GatewayConfig where
  routes := config.routes
  providers := config.providers.mapValues (refitProvider matrix)
  codexEnabled := config.codexEnabled
  idsMatch := by
    intro pid provider found
    rw [UpsertTable.get?_mapValues] at found
    obtain ⟨original, configured, rfl⟩ := Option.map_eq_some_iff.mp found
    exact config.idsMatch pid original configured

/-- A provider with the capabilities of its models masked. -/
def withoutCapabilities (provider : ProviderConfig) : ProviderConfig :=
  { provider with models := provider.models.map fun model => { model with capabilities := ∅ } }

/-- Masked, a rebuilt provider differs from the original in the strategy at most. -/
theorem withoutCapabilities_refitProvider (matrix : CapabilityMatrix) (pid : String)
    (provider : ProviderConfig) :
    withoutCapabilities (refitProvider matrix pid provider) =
      { withoutCapabilities provider with keyPoolStrategy := .priority } := by
  simp only [withoutCapabilities, refitProvider, List.map_map]
  rfl

/-- The rebuilt provider finds the rebuilt model. -/
theorem model_refitProvider (matrix : CapabilityMatrix) (pid : String)
    (provider : ProviderConfig) (modelId : Option String) :
    (refitProvider matrix pid provider).model modelId =
      (provider.model modelId).map (refitModel matrix pid) := by
  cases modelId with
  | none =>
      simp only [ProviderConfig.model, ProviderConfig.defaultModel, refitProvider,
        List.find?_map, List.head?_map]
      have sameDefault : (fun model : ModelConfig => model.default) ∘ refitModel matrix pid =
          fun model => model.default := rfl
      rw [sameDefault]
      cases provider.models.find? (·.default) <;> rfl
  | some modelId => exact List.find?_map

end AutoRouteGateway.Config

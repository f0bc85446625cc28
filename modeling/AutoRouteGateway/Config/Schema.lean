import AutoRouteGateway.Domain.Capability
import AutoRouteGateway.Domain.State
import AutoRouteGateway.Library.UpsertTable
import AutoRouteGateway.Runtime.Json

/-!
Owns the policy configuration (keys, models, providers, routes) and the secret
resolver.

Does not own: server and log settings and route descriptions, which no modelled
function reads.
-/

namespace AutoRouteGateway.Config

open AutoRouteGateway.Domain
open AutoRouteGateway.Library
open AutoRouteGateway.Runtime

/-- One credential of a provider's key pool. -/
structure KeyConfig where
  id : String
  env : String
  priority : Int := 100
  reserve : Bool := false
deriving DecidableEq, Repr

/-- One concrete model of a provider. -/
structure ModelConfig where
  id : String
  capabilities : CapabilitySet := ∅
  default : Bool := false
deriving DecidableEq

/-- The `type` string of a provider; `unregistered` is any string that is
neither `executor` nor a key of the adapter registry. -/
inductive ProviderType where
  | openaiCompatible
  | amd
  | modelscope
  | opencode
  | gemini
  | executor
  | unregistered (name : String)
deriving DecidableEq, Repr

/-- The `key_pool_strategy` string; `other` orders like `priority`. -/
inductive KeyPoolStrategy where
  | priority
  | roundRobin
  | other (name : String)
deriving DecidableEq, Repr

structure ProviderConfig where
  id : String
  type : ProviderType
  baseUrl : Option String := none
  models : List ModelConfig := []
  keys : List KeyConfig := []
  enabled : Bool := true
  resetPolicy : ResetPolicy := {}
  keyPoolStrategy : KeyPoolStrategy := .priority
  options : Dict := []

namespace ProviderConfig

/-- The first model declared default, else the first model. -/
def defaultModel (provider : ProviderConfig) : Option ModelConfig :=
  match provider.models.find? (·.default) with
  | some model => some model
  | none => provider.models.head?

def model (provider : ProviderConfig) : Option String → Option ModelConfig
  | none => provider.defaultModel
  | some modelId => provider.models.find? fun model => model.id = modelId

theorem mem_models_of_model {provider : ProviderConfig} {modelId : Option String}
    {model : ModelConfig} (found : provider.model modelId = some model) :
    model ∈ provider.models := by
  cases modelId with
  | some modelId => exact List.mem_of_find?_eq_some found
  | none =>
      change (match provider.models.find? (·.default) with
        | some model => some model
        | none => provider.models.head?) = some model at found
      cases search : provider.models.find? (·.default) with
      | some default =>
          rw [search] at found
          cases found
          exact List.mem_of_find?_eq_some search
      | none =>
          rw [search] at found
          exact List.mem_of_head? found

end ProviderConfig

/-- One provider pick of a route; the provider's default model when `none`. -/
structure RouteStep where
  provider : String
  model : Option String := none
deriving DecidableEq, Repr

/-- A virtual model's route policy, in order. -/
structure RouteConfig where
  steps : List RouteStep := []
deriving DecidableEq, Repr

/-- Providers are stored under their own id, as `gateway_config_from_dict`
builds them. -/
structure GatewayConfig where
  routes : UpsertTable String RouteConfig
  providers : UpsertTable String ProviderConfig
  codexEnabled : Bool := false
  idsMatch : ∀ pid provider, providers.get? pid = some provider → provider.id = pid

/-- A table of one provider under its own id keeps the invariant. -/
theorem idsMatch_single {own : String} {config : ProviderConfig} (isOwn : config.id = own)
    (pid : String) (provider : ProviderConfig)
    (found : (UpsertTable.empty.upsert own config).get? pid = some provider) :
    provider.id = pid := by
  rw [UpsertTable.get?_upsert] at found
  split at found
  · rename_i same
    cases found
    exact isOwn.trans same.symm
  · cases found

/-! ## Secrets -/

/-- The variables loaded for the gateway, and those of the process. -/
structure SecretResolver where
  env : UpsertTable String String
  environ : UpsertTable String String := .empty

namespace SecretResolver

/-- An empty value counts as not set, but still hides the process variable. -/
def resolve (resolver : SecretResolver) (envVar : String) : Option String :=
  let value :=
    match resolver.env.get? envVar with
    | some value => some value
    | none => resolver.environ.get? envVar
  match value with
  | some text => if text = "" then none else some text
  | none => none

end SecretResolver

end AutoRouteGateway.Config

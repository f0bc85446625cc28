import AutoRouteGateway.Config.DotEnv
import AutoRouteGateway.Config.Loader

/-!
Contract: the policy document, and the configuration that is read from it.

Owns: the reader with its defaults, its short forms and its errors, a document
for every configuration, and which configurations have one.

Does not own: the text of the document and the description of a route. The
source does not check the type of a field it stores; a document with a value of
another type there is refused here as mistyped. What `int` makes of a value that
is no integer is a parameter.
-/

namespace AutoRouteGateway.Config

open AutoRouteGateway.Domain
open AutoRouteGateway.Library
open AutoRouteGateway.Runtime

/-! ## Reading fields -/

/-- What reading a document raises: an exception with its text, a key that is
missing, a value that is none of an enumeration; or a value no record holds. -/
inductive DocumentError where
  | raised (text : String)
  | missingKey (key : String)
  | invalidMember (enumeration : String) (value : Json)
  | mistyped (value : Json)

/-- `int(value)`, the identity on integers. -/
structure IntReader where
  read : Json → Except DocumentError Int
  read_int : ∀ value, read (.int value) = .ok value

def textOf : Json → Except DocumentError String
  | .str text => .ok text
  | other => .error (.mistyped other)

/-- A text or null. -/
def optionalText : Json → Except DocumentError (Option String)
  | .null => .ok none
  | .str text => .ok (some text)
  | other => .error (.mistyped other)

/-- `fields.get(key, default)`. -/
def fieldOr (key : String) (default : Json) (fields : Dict) : Json :=
  (Dict.get? key fields).getD default

/-- `bool(fields.get(key, default))`. -/
def flagOr (key : String) (default : Bool) (fields : Dict) : Bool :=
  (fieldOr key (.bool default) fields).truthy

/-- `fields[key]`. -/
def required (key : String) (fields : Dict) : Except DocumentError Json :=
  match Dict.get? key fields with
  | some value => .ok value
  | none => .error (.missingKey key)

/-- The elements of `fields.get(key) or []`. -/
def listed (key : String) (fields : Dict) : Except DocumentError (List Json) :=
  let value := fieldOr key .null fields
  if value.truthy then value.elements.mapError .raised else .ok []

/-- The items of `fields.get(key) or {}`, of which a method is called. -/
def mapped (method key : String) (fields : Dict) : Except DocumentError Dict :=
  match fieldOr key .null fields with
  | .dict own => .ok own
  | other =>
      if other.truthy then
        .error (.raised ("'" ++ other.typeName ++ "' object has no attribute '" ++ method ++ "'"))
      else .ok []

/-- `Enumeration(value)`. -/
def memberOf {α : Type} (enumeration : String) (members : List α) (valueOf : α → String) :
    Json → Except DocumentError α
  | .str text =>
      match members.find? fun member => valueOf member = text with
      | some member => .ok member
      | none => .error (.invalidMember enumeration (.str text))
  | other => .error (.invalidMember enumeration other)

/-- What `value[key]` raises of a value that is neither a text nor an object. -/
def subscriptError : Json → DocumentError
  | .list _ => .raised "list indices must be integers or slices, not str"
  | other => .raised other.notSubscriptableText

/-! ## Names of types -/

/-- The provider type a name stands for. -/
def ProviderType.ofName (name : String) : ProviderType :=
  if name = "openai_compatible" then .openaiCompatible
  else if name = "amd" then .amd
  else if name = "modelscope" then .modelscope
  else if name = "opencode" then .opencode
  else if name = "gemini" then .gemini
  else if name = "executor" then .executor
  else .unregistered name

def ProviderType.name : ProviderType → String
  | .openaiCompatible => "openai_compatible"
  | .amd => "amd"
  | .modelscope => "modelscope"
  | .opencode => "opencode"
  | .gemini => "gemini"
  | .executor => "executor"
  | .unregistered name => name

def KeyPoolStrategy.ofName (name : String) : KeyPoolStrategy :=
  if name = "priority" then .priority
  else if name = "round_robin" then .roundRobin
  else .other name

def KeyPoolStrategy.name : KeyPoolStrategy → String
  | .priority => "priority"
  | .roundRobin => "round_robin"
  | .other name => name

/-- Type and strategy are those their names stand for. -/
structure ProviderConfig.Named (provider : ProviderConfig) : Prop where
  type : ProviderType.ofName provider.type.name = provider.type
  strategy : KeyPoolStrategy.ofName provider.keyPoolStrategy.name = provider.keyPoolStrategy

@[simp] theorem ProviderType.name_ofName (name : String) : (ofName name).name = name := by
  unfold ofName
  split_ifs <;> simp_all [ProviderType.name]

@[simp] theorem KeyPoolStrategy.name_ofName (name : String) : (ofName name).name = name := by
  unfold ofName
  split_ifs <;> simp_all [KeyPoolStrategy.name]

/-! ## Reading parts -/

/-- `_capability_set`. -/
def capabilitySet (raw : Json) : Except DocumentError CapabilitySet := do
  match raw with
  | .null => return ∅
  | .str text =>
      return {← memberOf "Capability" Capability.sorted Capability.value (.str text)}
  | other =>
      let items ← other.elements.mapError .raised
      let members ← items.mapM (memberOf "Capability" Capability.sorted Capability.value)
      return members.toFinset

/-- `_reset_policy`. -/
def resetPolicy (raw : Json) : Except DocumentError ResetPolicy := do
  if raw.truthy = false then return {}
  match raw with
  | .dict fields =>
      return {
        type := ← memberOf "ResetPolicyType" [.knownSchedule, .observed, .unknown]
          ResetPolicyType.value (fieldOr "type" (.str "unknown") fields)
        timezone := ← optionalText (fieldOr "timezone" .null fields)
        time := ← optionalText (fieldOr "time" .null fields) }
  | other => throw (.raised other.noGetText)

/-- One model; the first one of a provider is its default unless it says otherwise. -/
def modelOf (isFirst : Bool) : Json → Except DocumentError ModelConfig
  | .str id => return { id := id, default := isFirst }
  | .dict fields => do
      let id ← required "id" fields
      let capabilities ← capabilitySet (fieldOr "capabilities" .null fields)
      return {
        id := ← textOf id
        capabilities := capabilities
        default := flagOr "default" isFirst fields }
  | other => throw (subscriptError other)

def modelsFrom (isFirst : Bool) : List Json → Except DocumentError (List ModelConfig)
  | [] => return []
  | raw :: rest => do
      let model ← modelOf isFirst raw
      let later ← modelsFrom false rest
      return model :: later

/-- One key; its id is the name of its variable unless it says otherwise. -/
def keyOf (ints : IntReader) : Json → Except DocumentError KeyConfig
  | .str env => return { id := env, env := env }
  | .dict fields => do
      let env ← required "env" fields
      let priority ← ints.read (fieldOr "priority" (.int 100) fields)
      return {
        id := ← textOf (fieldOr "id" env fields)
        env := ← textOf env
        priority := priority
        reserve := flagOr "reserve" false fields }
  | other => throw (.raised other.noGetText)

/-- `raw.get("options") or {}`. -/
def optionsOf (fields : Dict) : Except DocumentError Dict :=
  match fieldOr "options" .null fields with
  | .dict own => .ok own
  | other => if other.truthy then .error (.mistyped other) else .ok []

/-- A provider under its own id. -/
structure OwnProvider (pid : String) where
  config : ProviderConfig
  own : config.id = pid
  named : config.Named

/-- `_provider`. -/
def providerOf (ints : IntReader) (rawId : String) : Json →
    Except DocumentError (OwnProvider rawId)
  | .dict fields => do
      let models ← modelsFrom true (← listed "models" fields)
      let keys ← (← listed "keys" fields).mapM (keyOf ints)
      let type ← textOf (fieldOr "type" (.str "openai_compatible") fields)
      let baseUrl ← optionalText (fieldOr "base_url" .null fields)
      let policy ← resetPolicy (fieldOr "reset_policy" .null fields)
      let strategy ← textOf (fieldOr "key_pool_strategy" (.str "priority") fields)
      let options ← optionsOf fields
      let config : ProviderConfig := {
        id := rawId
        type := .ofName type
        baseUrl := baseUrl
        models := models
        keys := keys
        enabled := flagOr "enabled" true fields
        resetPolicy := policy
        keyPoolStrategy := .ofName strategy
        options := options }
      return ⟨config, rfl, by simp [config], by simp [config]⟩
  | other => throw (.raised other.noGetText)

def stepOf : Json → Except DocumentError RouteStep
  | .str provider => return { provider := provider }
  | .dict fields => do
      let provider ← required "provider" fields
      return {
        provider := ← textOf provider
        model := ← optionalText (fieldOr "model" .null fields) }
  | other => throw (subscriptError other)

/-- `_route`. -/
def routeOf : Json → Except DocumentError RouteConfig
  | .dict fields => do
      return { steps := ← (← listed "providers" fields).mapM stepOf }
  | other => throw (.raised other.noGetText)

/-! ## Reading the document -/

/-- Where the gateway listens and whom it answers. -/
structure ServerConfig where
  bind : String := "127.0.0.1"
  port : Int := 8700
  databasePath : String := "gateway.db"
  authToken : Option String := none
  allowIps : List String := []

/-- `value or other`. -/
def textOr (value other : Option String) : Option String :=
  match value with
  | some text => if text = "" then other else some text
  | none => other

def serverOf (ints : IntReader) (environ : UpsertTable String String) (fields : Dict) :
    Except DocumentError ServerConfig := do
  let server ← mapped "get" "server" fields
  let auth ← mapped "get" "auth" server
  let port ← ints.read (fieldOr "port" (.int 8700) server)
  let allowIps ← (← listed "allow_ips" server).mapM textOf
  return {
    bind := ← textOf (fieldOr "bind" (.str "127.0.0.1") server)
    port := port
    databasePath := ← textOf (fieldOr "database_path" (.str "gateway.db") server)
    authToken := textOr (← optionalText (fieldOr "token" .null auth))
      (environ.get? "GATEWAY_AUTH_TOKEN")
    allowIps := allowIps }

/-- Providers under their own ids. -/
structure ProviderTable where
  table : UpsertTable String ProviderConfig
  own : ∀ pid provider, table.get? pid = some provider → provider.id = pid ∧ provider.Named

namespace ProviderTable

def empty : ProviderTable := ⟨.empty, nofun⟩

def upsert {pid : String} (providers : ProviderTable) (provider : OwnProvider pid) :
    ProviderTable where
  table := providers.table.upsert pid provider.config
  own := by
    intro other config found
    rw [UpsertTable.get?_upsert] at found
    split_ifs at found with same
    · cases found
      exact ⟨provider.own.trans same.symm, provider.named⟩
    · exact providers.own other config found

end ProviderTable

def providersFrom (ints : IntReader) (providers : ProviderTable) :
    Dict → Except DocumentError ProviderTable
  | [] => return providers
  | (pid, raw) :: rest => do
      let provider ← providerOf ints pid raw
      providersFrom ints (providers.upsert provider) rest

def routesFrom (routes : UpsertTable String RouteConfig) :
    Dict → Except DocumentError (UpsertTable String RouteConfig)
  | [] => return routes
  | (name, raw) :: rest => do
      let route ← routeOf raw
      routesFrom (routes.upsert name route) rest

/-- `raw.get("codex", {}).get("enabled", False)`; null has no such field. -/
def codexEnabledOf (fields : Dict) : Except DocumentError Bool :=
  match fieldOr "codex" (.dict []) fields with
  | .dict codex => .ok (flagOr "enabled" false codex)
  | other => .error (.raised other.noGetText)

/-- A configuration with the settings that no route depends on. -/
structure LoadedConfig where
  config : GatewayConfig
  server : ServerConfig
  capabilityMatrixPath : Option String
  logDir : String

def gatewayConfigFromDict (ints : IntReader) (environ : UpsertTable String String) :
    Json → Except DocumentError LoadedConfig
  | .dict fields => do
      let server ← serverOf ints environ fields
      let routes ← routesFrom .empty (← mapped "items" "routes" fields)
      let providers ← providersFrom ints .empty (← mapped "items" "providers" fields)
      let codexEnabled ← codexEnabledOf fields
      return {
        config := ⟨routes, providers.table, codexEnabled,
          fun pid provider found => (providers.own pid provider found).1⟩
        server := server
        capabilityMatrixPath := ← optionalText (fieldOr "capability_matrix_path" .null fields)
        logDir := ← textOf (fieldOr "log_dir" (.str "logs") fields) }
  | other => throw (.raised other.noGetText)

/-- Why a gateway does not start. -/
inductive LoadFailure where
  | noDocument
  | document (error : DocumentError)
  | config (error : ConfigError)

/-- `load_gateway_config`, of the decoded document and of the text of the file of
secrets; there may be neither. -/
def loadGatewayConfig (ints : IntReader) (environ : UpsertTable String String)
    (yaml : Option Json) (file : Option String) (env : UpsertTable String String) :
    Except LoadFailure (LoadedConfig × SecretResolver) :=
  match yaml with
  | none => .error .noDocument
  | some yaml =>
      match gatewayConfigFromDict ints environ (if yaml.truthy then yaml else .dict []) with
      | .error error => .error (.document error)
      | .ok loaded =>
          match validate loaded.config with
          | .error error => .error (.config error)
          | .ok () => .ok (loaded, loadResolver file env environ)

end AutoRouteGateway.Config

import AutoRouteGateway.Config.Document

/-!
Contract: exactly which configurations a document can describe.

Owns: the document that spells a configuration out, that the reader makes the
configuration of it again, and what every configuration that was read satisfies.
-/

namespace AutoRouteGateway.Config

open AutoRouteGateway.Domain
open AutoRouteGateway.Library
open AutoRouteGateway.Runtime

/-! ## Writing -/

def textOrNull : Option String → Json
  | none => .null
  | some text => .str text

def modelDocument (model : ModelConfig) : Json :=
  .dict [("id", .str model.id), ("capabilities", .list (model.capabilities.values.map .str)),
    ("default", .bool model.default)]

def keyDocument (key : KeyConfig) : Json :=
  .dict [("id", .str key.id), ("env", .str key.env), ("priority", .int key.priority),
    ("reserve", .bool key.reserve)]

def resetPolicyDocument (policy : ResetPolicy) : Json :=
  .dict [("type", .str policy.type.value), ("timezone", textOrNull policy.timezone),
    ("time", textOrNull policy.time)]

def providerFields (provider : ProviderConfig) : Dict :=
  [("type", .str provider.type.name), ("base_url", textOrNull provider.baseUrl),
    ("models", .list (provider.models.map modelDocument)),
    ("keys", .list (provider.keys.map keyDocument)), ("enabled", .bool provider.enabled),
    ("reset_policy", resetPolicyDocument provider.resetPolicy),
    ("key_pool_strategy", .str provider.keyPoolStrategy.name),
    ("options", .dict provider.options)]

def providerDocument (provider : ProviderConfig) : Json := .dict (providerFields provider)

def stepDocument (step : RouteStep) : Json :=
  .dict [("provider", .str step.provider), ("model", textOrNull step.model)]

def routeDocument (route : RouteConfig) : Json :=
  .dict [("providers", .list (route.steps.map stepDocument))]

def serverFields (server : ServerConfig) : Dict :=
  [("bind", .str server.bind), ("port", .int server.port),
    ("database_path", .str server.databasePath),
    ("auth", .dict [("token", textOrNull server.authToken)]),
    ("allow_ips", .list (server.allowIps.map .str))]

/-- Every field, written out. -/
def documentFields (loaded : LoadedConfig) : Dict :=
  [("server", .dict (serverFields loaded.server)),
    ("routes", .dict (loaded.config.routes.rows.map fun row => (row.1, routeDocument row.2))),
    ("providers",
      .dict (loaded.config.providers.rows.map fun row => (row.1, providerDocument row.2))),
    ("capability_matrix_path", textOrNull loaded.capabilityMatrixPath),
    ("codex", .dict [("enabled", .bool loaded.config.codexEnabled)]),
    ("log_dir", .str loaded.logDir)]

def document (loaded : LoadedConfig) : Json := .dict (documentFields loaded)

/-! ## Reading what was written -/

theorem optionalText_textOrNull (text : Option String) :
    optionalText (textOrNull text) = .ok text := by
  cases text <;> rfl

/-- A non-empty list is truthy, and an empty one reads as none. -/
theorem listed_list {key : String} {fields : Dict} {items : List Json}
    (found : fieldOr key .null fields = .list items) : listed key fields = .ok items := by
  unfold listed
  rw [found]
  cases items <;> rfl

theorem mapM_map_ok {α β : Type} {read : β → Except DocumentError α} {write : α → β}
    {items : List α} (back : ∀ item ∈ items, read (write item) = .ok item) :
    (items.map write).mapM read = .ok items := by
  induction items with
  | nil => rfl
  | cons item rest inductionHypothesis =>
      rw [List.forall_mem_cons] at back
      rw [List.map_cons, List.mapM_cons, back.1, inductionHypothesis back.2]
      rfl

theorem capability_mem_sorted (capability : Capability) : capability ∈ Capability.sorted := by
  cases capability <;> decide

theorem memberOf_capability (capability : Capability) :
    memberOf "Capability" Capability.sorted Capability.value (.str capability.value) =
      .ok capability := by
  cases capability <;> rfl

theorem capabilitySet_values (capabilities : CapabilitySet) :
    capabilitySet (.list (capabilities.values.map .str)) = .ok capabilities := by
  have read : (capabilities.values.map Json.str).mapM
      (memberOf "Capability" Capability.sorted Capability.value) =
        .ok (Capability.sorted.filter (· ∈ capabilities)) := by
    rw [CapabilitySet.values, List.map_map]
    exact mapM_map_ok fun capability _ => memberOf_capability capability
  have whole : (Capability.sorted.filter (· ∈ capabilities)).toFinset = capabilities := by
    ext capability
    simp [capability_mem_sorted]
  have isRead : capabilitySet (.list (capabilities.values.map .str)) =
      ((capabilities.values.map Json.str).mapM
        (memberOf "Capability" Capability.sorted Capability.value)).map List.toFinset := rfl
  rw [isRead, read]
  exact congrArg Except.ok whole

theorem modelOf_modelDocument (isFirst : Bool) (model : ModelConfig) :
    modelOf isFirst (modelDocument model) = .ok model := by
  have isRead : modelOf isFirst (modelDocument model) =
      (capabilitySet (.list (model.capabilities.values.map .str))).map
        fun capabilities => { model with capabilities := capabilities } := rfl
  rw [isRead, capabilitySet_values]
  rfl

theorem modelsFrom_map (isFirst : Bool) (models : List ModelConfig) :
    modelsFrom isFirst (models.map modelDocument) = .ok models := by
  induction models generalizing isFirst with
  | nil => rfl
  | cons model rest inductionHypothesis =>
      rw [List.map_cons, modelsFrom, modelOf_modelDocument, inductionHypothesis]
      rfl

theorem keyOf_keyDocument (ints : IntReader) (key : KeyConfig) :
    keyOf ints (keyDocument key) = .ok key := by
  have isRead : keyOf ints (keyDocument key) =
      (ints.read (.int key.priority)).map fun priority => { key with priority := priority } := rfl
  rw [isRead, ints.read_int]
  rfl

theorem resetPolicy_resetPolicyDocument (policy : ResetPolicy) :
    resetPolicy (resetPolicyDocument policy) = .ok policy := by
  obtain ⟨type, timezone, time⟩ := policy
  cases type <;> cases timezone <;> cases time <;> rfl

theorem providerOf_providerDocument (ints : IntReader) {provider : ProviderConfig}
    (named : provider.Named) :
    ∃ own, providerOf ints provider.id (providerDocument provider) = .ok own ∧
      own.config = provider := by
  have models : listed "models" (providerFields provider) =
      .ok (provider.models.map modelDocument) := listed_list rfl
  have keys : listed "keys" (providerFields provider) =
      .ok (provider.keys.map keyDocument) := listed_list rfl
  have readKeys : (provider.keys.map keyDocument).mapM (keyOf ints) = .ok provider.keys :=
    mapM_map_ok fun key _ => keyOf_keyDocument ints key
  have type : textOf (fieldOr "type" (.str "openai_compatible") (providerFields provider)) =
      .ok provider.type.name := rfl
  have baseUrl : optionalText (fieldOr "base_url" .null (providerFields provider)) =
      .ok provider.baseUrl := optionalText_textOrNull provider.baseUrl
  have policy : resetPolicy (fieldOr "reset_policy" .null (providerFields provider)) =
      .ok provider.resetPolicy := resetPolicy_resetPolicyDocument provider.resetPolicy
  have strategy : textOf (fieldOr "key_pool_strategy" (.str "priority")
      (providerFields provider)) = .ok provider.keyPoolStrategy.name := rfl
  have options : optionsOf (providerFields provider) = .ok provider.options := rfl
  have enabled : flagOr "enabled" true (providerFields provider) = provider.enabled := rfl
  unfold providerOf providerDocument
  simp only [models, keys, readKeys, modelsFrom_map, type, baseUrl, policy, strategy, options,
    enabled, named.type, named.strategy, bind, Except.bind, pure, Except.pure]
  exact ⟨_, rfl, rfl⟩

theorem stepOf_stepDocument (step : RouteStep) : stepOf (stepDocument step) = .ok step := by
  obtain ⟨provider, model⟩ := step
  cases model <;> rfl

theorem routeOf_routeDocument (route : RouteConfig) :
    routeOf (routeDocument route) = .ok route := by
  have steps := mapM_map_ok fun step (_ : step ∈ route.steps) => stepOf_stepDocument step
  have isRead : routeOf (routeDocument route) =
      (listed "providers" [("providers", .list (route.steps.map stepDocument))] >>=
        fun items => (items.mapM stepOf).map fun steps => { steps := steps }) := rfl
  rw [isRead, listed_list rfl]
  change ((route.steps.map stepDocument).mapM stepOf).map _ = _
  rw [steps]
  rfl

/-! ## Tables -/

theorem providersFrom_map (ints : IntReader) (providers : ProviderTable)
    {rows : List (String × ProviderConfig)}
    (own : ∀ row ∈ rows, row.2.id = row.1 ∧ row.2.Named) :
    ∃ result, providersFrom ints providers
        (rows.map fun row => (row.1, providerDocument row.2)) = .ok result ∧
      result.table.rows =
        rows.foldl (fun table row => upsertRows row.1 row.2 table) providers.table.rows := by
  induction rows generalizing providers with
  | nil => exact ⟨providers, rfl, rfl⟩
  | cons row rest inductionHypothesis =>
      rw [List.forall_mem_cons] at own
      obtain ⟨pid, provider⟩ := row
      obtain ⟨⟨isOwn, named⟩, others⟩ := own
      dsimp only at isOwn named
      subst isOwn
      obtain ⟨read, isRead, isProvider⟩ := providerOf_providerDocument ints named
      obtain ⟨result, whole, rows⟩ := inductionHypothesis (providers.upsert read) others
      have step : (providers.upsert read).table.rows =
          upsertRows provider.id provider providers.table.rows :=
        congrArg (upsertRows provider.id · providers.table.rows) isProvider
      refine ⟨result, ?_, ?_⟩
      · rw [List.map_cons, providersFrom, isRead]
        exact whole
      · rw [rows, List.foldl_cons, step]

theorem routesFrom_map (routes : UpsertTable String RouteConfig)
    (rows : List (String × RouteConfig)) :
    ∃ result, routesFrom routes (rows.map fun row => (row.1, routeDocument row.2)) = .ok result ∧
      result.rows = rows.foldl (fun table row => upsertRows row.1 row.2 table) routes.rows := by
  induction rows generalizing routes with
  | nil => exact ⟨routes, rfl, rfl⟩
  | cons row rest inductionHypothesis =>
      obtain ⟨result, whole, rows⟩ := inductionHypothesis (routes.upsert row.1 row.2)
      refine ⟨result, ?_, rows⟩
      rw [List.map_cons, routesFrom, routeOf_routeDocument]
      exact whole

/-- Rows with distinct keys, inserted one by one, make their own table. -/
theorem foldl_rows {ν : Type} (table : UpsertTable String ν) :
    table.rows.foldl (fun rows row => upsertRows row.1 row.2 rows)
      (UpsertTable.empty : UpsertTable String ν).rows = table.rows :=
  foldl_upsertRows_of_nodup table.keysNodup

/-! ## Which configurations can be described -/

/-- Every type and strategy is the one of its name, and the gateway is without a
token only if the process gives it none. -/
structure Expressible (environ : UpsertTable String String) (loaded : LoadedConfig) : Prop where
  named : ∀ pid provider, loaded.config.providers.get? pid = some provider → provider.Named
  token : isBlank loaded.server.authToken = true →
    environ.get? "GATEWAY_AUTH_TOKEN" = loaded.server.authToken

theorem textOr_eq_self_iff {value other : Option String} :
    textOr value other = value ↔ (isBlank value = true → other = value) := by
  cases value with
  | none => simp [textOr, isBlank]
  | some text => by_cases empty : text = "" <;> simp [textOr, isBlank, empty]

theorem textOr_textOr (value other : Option String) :
    textOr (textOr value other) other = textOr value other := by
  cases value with
  | none => cases other <;> simp [textOr]
  | some text => by_cases empty : text = "" <;> cases other <;> simp [textOr, empty]

theorem bind_eq_ok {α β : Type} {first : Except DocumentError α}
    {next : α → Except DocumentError β} {result : β} :
    (first >>= next) = .ok result ↔ ∃ value, first = .ok value ∧ next value = .ok result := by
  cases first <;> simp [bind, Except.bind]

theorem serverOf_token {ints : IntReader} {environ : UpsertTable String String} {fields : Dict}
    {server : ServerConfig} (read : serverOf ints environ fields = .ok server) :
    textOr server.authToken (environ.get? "GATEWAY_AUTH_TOKEN") = server.authToken := by
  unfold serverOf at read
  simp only [bind_eq_ok] at read
  obtain ⟨own, -, auth, -, port, -, listed, -, allowed, -, bind, -, path, -, token, -, isServer⟩ :=
    read
  cases isServer
  exact textOr_textOr token _

theorem serverOf_serverFields (ints : IntReader) {environ : UpsertTable String String}
    {server : ServerConfig}
    (token : textOr server.authToken (environ.get? "GATEWAY_AUTH_TOKEN") = server.authToken)
    {fields : Dict} (found : fieldOr "server" .null fields = .dict (serverFields server)) :
    serverOf ints environ fields = .ok server := by
  have own : mapped "get" "server" fields = .ok (serverFields server) := by
    unfold mapped
    rw [found]
  have auth : mapped "get" "auth" (serverFields server) =
      .ok [("token", textOrNull server.authToken)] := rfl
  have port : fieldOr "port" (.int 8700) (serverFields server) = .int server.port := rfl
  have allowIps : listed "allow_ips" (serverFields server) =
      .ok (server.allowIps.map .str) := listed_list rfl
  have readIps : (server.allowIps.map Json.str).mapM textOf = .ok server.allowIps :=
    mapM_map_ok fun _ _ => rfl
  have bindText : textOf (fieldOr "bind" (.str "127.0.0.1") (serverFields server)) =
      .ok server.bind := rfl
  have path : textOf (fieldOr "database_path" (.str "gateway.db") (serverFields server)) =
      .ok server.databasePath := rfl
  have ownToken : optionalText
      (fieldOr "token" .null [("token", textOrNull server.authToken)]) = .ok server.authToken :=
    optionalText_textOrNull server.authToken
  unfold serverOf
  simp only [own, auth, port, ints.read_int, allowIps, readIps, bindText, path, ownToken, token,
    bind, Except.bind, pure, Except.pure]

theorem expressible_of_read {ints : IntReader} {environ : UpsertTable String String} {raw : Json}
    {loaded : LoadedConfig} (read : gatewayConfigFromDict ints environ raw = .ok loaded) :
    Expressible environ loaded := by
  cases raw with
  | dict fields =>
      unfold gatewayConfigFromDict at read
      simp only [bind_eq_ok] at read
      obtain ⟨server, isServer, -, -, routes, -, -, -, providers, -, codex, -, matrix, -, log, -,
        isLoaded⟩ := read
      cases isLoaded
      exact ⟨fun pid provider found => (providers.own pid provider found).2,
        textOr_eq_self_iff.mp (serverOf_token isServer)⟩
  | _ => cases read

/-- The document that was written for a configuration is read as the configuration. -/
theorem read_document (ints : IntReader) {environ : UpsertTable String String}
    {loaded : LoadedConfig} (expressible : Expressible environ loaded) :
    gatewayConfigFromDict ints environ (document loaded) = .ok loaded := by
  obtain ⟨⟨routes, providers, codexEnabled, idsMatch⟩, server, matrixPath, logDir⟩ := loaded
  have own : ∀ row ∈ providers.rows, row.2.id = row.1 ∧ row.2.Named := by
    intro row member
    have found := lookupRows_eq_some_of_mem providers.keysNodup member
    exact ⟨idsMatch row.1 row.2 found, expressible.named row.1 row.2 found⟩
  obtain ⟨readRoutes, isRoutes, routeRows⟩ := routesFrom_map .empty routes.rows
  obtain ⟨readProviders, isProviders, providerRows⟩ := providersFrom_map ints .empty own
  have sameRoutes : readRoutes = routes :=
    UpsertTable.eq_of_rows (routeRows.trans (foldl_rows routes))
  have sameProviders : readProviders.table = providers :=
    UpsertTable.eq_of_rows (providerRows.trans (foldl_rows providers))
  let loaded : LoadedConfig :=
    ⟨⟨routes, providers, codexEnabled, idsMatch⟩, server, matrixPath, logDir⟩
  have readServer : serverOf ints environ (documentFields loaded) = .ok server :=
    serverOf_serverFields ints (textOr_eq_self_iff.mpr expressible.token) rfl
  have routeItems : mapped "items" "routes" (documentFields loaded) =
      .ok (routes.rows.map fun row => (row.1, routeDocument row.2)) := rfl
  have providerItems : mapped "items" "providers" (documentFields loaded) =
      .ok (providers.rows.map fun row => (row.1, providerDocument row.2)) := rfl
  have codex : codexEnabledOf (documentFields loaded) = .ok codexEnabled := rfl
  have matrix : optionalText (fieldOr "capability_matrix_path" .null (documentFields loaded)) =
      .ok matrixPath := optionalText_textOrNull matrixPath
  have log : textOf (fieldOr "log_dir" (.str "logs") (documentFields loaded)) = .ok logDir := rfl
  change gatewayConfigFromDict ints environ (.dict (documentFields loaded)) = .ok loaded
  unfold gatewayConfigFromDict
  simp only [readServer, routeItems, isRoutes, providerItems, isProviders, codex, matrix, log,
    bind, Except.bind, pure, Except.pure]
  subst sameRoutes sameProviders
  rfl

/-- The configurations that a gateway starts with are those whose types and
strategies are called by their names, which pass the check, and which have a
token if the process has one. The document that writes every field out is read
as the configuration. -/
theorem gateway_starts_with_iff (ints : IntReader) (environ : UpsertTable String String)
    (file : Option String) (env : UpsertTable String String) (loaded : LoadedConfig)
    (resolver : SecretResolver) :
    ((∃ yaml, loadGatewayConfig ints environ yaml file env = .ok (loaded, resolver)) ↔
      Expressible environ loaded ∧ validate loaded.config = .ok () ∧
        resolver = loadResolver file env environ) ∧
      (Expressible environ loaded →
        gatewayConfigFromDict ints environ (document loaded) = .ok loaded) := by
  refine ⟨?_, read_document ints⟩
  constructor
  · rintro ⟨yaml, started⟩
    cases yaml with
    | none => cases started
    | some yaml =>
        unfold loadGatewayConfig at started
        dsimp only at started
        split at started
        · cases started
        · rename_i own isRead
          split at started
          · cases started
          · rename_i accepted
            cases started
            exact ⟨expressible_of_read isRead, accepted, rfl⟩
  · rintro ⟨expressible, accepted, rfl⟩
    refine ⟨some (document loaded), ?_⟩
    have truthy : (document loaded).truthy = true := rfl
    unfold loadGatewayConfig
    dsimp only
    rw [if_pos truthy, read_document ints expressible]
    dsimp only
    rw [accepted]

end AutoRouteGateway.Config

import AutoRouteGateway.Config.Schema

/-!
Owns the acceptance check a configuration passes once, at load.
-/

namespace AutoRouteGateway.Config

open AutoRouteGateway.Library

/-- The checks of `_validate`, each with the values its text names. -/
inductive ConfigError where
  | noProviderSteps (route : String)
  | unknownProvider (route provider : String)
  | disabledProvider (route provider : String)
  | executorDisabled (route provider : String)
  | noBaseUrl (provider : String)
  | noKeys (provider : String)
  | noModel (provider model : String)
deriving DecidableEq, Repr

/-- An absent or empty string is falsy. -/
def isBlank : Option String → Bool
  | none => true
  | some text => text = ""

def validateStep (config : GatewayConfig) (name : String) (step : RouteStep) :
    Except ConfigError Unit :=
  match config.providers.get? step.provider with
  | none => .error (.unknownProvider name step.provider)
  | some provider =>
      if provider.enabled = false ∧ provider.type ≠ .executor then
        .error (.disabledProvider name step.provider)
      else if provider.type = .executor ∧ config.codexEnabled = false then
        .error (.executorDisabled name step.provider)
      else if provider.type ≠ .executor ∧ isBlank provider.baseUrl then
        .error (.noBaseUrl step.provider)
      else if provider.type ≠ .executor ∧ provider.keys = [] then
        .error (.noKeys step.provider)
      else if isBlank step.model = false ∧ provider.model step.model = none then
        .error (.noModel step.provider (step.model.getD ""))
      else
        .ok ()

def validateSteps (config : GatewayConfig) (name : String) :
    List RouteStep → Except ConfigError Unit
  | [] => .ok ()
  | step :: rest =>
      match validateStep config name step with
      | .error error => .error error
      | .ok () => validateSteps config name rest

def validateRoutes (config : GatewayConfig) :
    List (String × RouteConfig) → Except ConfigError Unit
  | [] => .ok ()
  | (name, route) :: rest =>
      if route.steps = [] then .error (.noProviderSteps name)
      else
        match validateSteps config name route.steps with
        | .error error => .error error
        | .ok () => validateRoutes config rest

def validate (config : GatewayConfig) : Except ConfigError Unit :=
  validateRoutes config config.routes.rows

/-! ## What acceptance says -/

/-- What acceptance of a step says of the provider it names. -/
structure StepAccepted (config : GatewayConfig) (step : RouteStep) (provider : ProviderConfig) :
    Prop where
  configured : config.providers.get? step.provider = some provider
  enabled : provider.enabled = true ∨ provider.type = .executor
  executorOn : provider.type = .executor → config.codexEnabled = true
  baseUrl : provider.type ≠ .executor → isBlank provider.baseUrl = false
  keyed : provider.type ≠ .executor → provider.keys ≠ []
  model : isBlank step.model = false → provider.model step.model ≠ none

theorem validateStep_eq_ok_iff {config : GatewayConfig} {name : String} {step : RouteStep} :
    validateStep config name step = .ok () ↔ ∃ provider, StepAccepted config step provider := by
  unfold validateStep
  cases configured : config.providers.get? step.provider with
  | none =>
      refine iff_of_false (by simp) ?_
      rintro ⟨provider, accepted⟩
      rw [accepted.configured] at configured
      cases configured
  | some provider =>
      dsimp only
      constructor
      · intro accepted
        split_ifs at accepted with disabled codexOff noBaseUrl noKeys noModel
        refine ⟨provider, configured, ?_, ?_, ?_, ?_, ?_⟩
        · by_cases enabled : provider.enabled = true
          · exact Or.inl enabled
          · exact Or.inr (by_contra fun api => disabled ⟨by simpa using enabled, api⟩)
        · intro executor
          by_contra off
          exact codexOff ⟨executor, by simpa using off⟩
        · intro api
          by_contra blank
          exact noBaseUrl ⟨api, by simpa using blank⟩
        · exact fun api keyless => noKeys ⟨api, keyless⟩
        · exact fun named missing => noModel ⟨named, missing⟩
      · rintro ⟨other, accepted⟩
        have same : provider = other := Option.some.inj (configured.symm.trans accepted.configured)
        subst same
        rw [if_neg, if_neg, if_neg, if_neg, if_neg]
        · exact fun both => accepted.model both.1 both.2
        · exact fun both => accepted.keyed both.1 both.2
        · intro both
          rw [accepted.baseUrl both.1] at both
          cases both.2
        · intro both
          rw [accepted.executorOn both.1] at both
          cases both.2
        · intro both
          rcases accepted.enabled with enabled | executor
          · rw [enabled] at both
            cases both.1
          · exact both.2 executor

theorem validateSteps_eq_ok_iff {config : GatewayConfig} {name : String}
    {steps : List RouteStep} :
    validateSteps config name steps = .ok () ↔
      ∀ step ∈ steps, validateStep config name step = .ok () := by
  induction steps with
  | nil => simp [validateSteps]
  | cons step rest inductionHypothesis =>
      rw [List.forall_mem_cons, ← inductionHypothesis]
      simp only [validateSteps]
      cases validateStep config name step <;> simp

theorem validateRoutes_eq_ok_iff {config : GatewayConfig}
    {rows : List (String × RouteConfig)} :
    validateRoutes config rows = .ok () ↔
      ∀ row ∈ rows, row.2.steps ≠ [] ∧
        ∀ step ∈ row.2.steps, validateStep config row.1 step = .ok () := by
  induction rows with
  | nil => simp [validateRoutes]
  | cons row rest inductionHypothesis =>
      obtain ⟨name, route⟩ := row
      rw [List.forall_mem_cons, ← inductionHypothesis, ← validateSteps_eq_ok_iff]
      by_cases stepless : route.steps = []
      · simp [validateRoutes, stepless]
      · simp only [validateRoutes, if_neg stepless]
        cases validateSteps config name route.steps <;> simp [stepless]

/-- Every step of every route of an accepted configuration is accepted. -/
theorem stepAccepted_of_validate {config : GatewayConfig} (accepted : validate config = .ok ())
    {name : String} {route : RouteConfig} (configured : config.routes.get? name = some route)
    {step : RouteStep} (member : step ∈ route.steps) :
    ∃ provider, StepAccepted config step provider := by
  obtain ⟨row, inRows, -, isRoute⟩ := mem_of_lookupRows_eq_some configured
  subst isRoute
  have steps := (validateRoutes_eq_ok_iff.mp accepted row inRows).2
  exact validateStep_eq_ok_iff.mp (steps step member)

end AutoRouteGateway.Config

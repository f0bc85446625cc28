import AutoRouteGateway.Config.Loader
import AutoRouteGateway.Routing.CandidateBuilder

/-!
Contract: which steps of an accepted configuration get a candidate.

Acceptance and enumeration make the same decisions separately. Acceptance lets
a disabled executor pass, and it looks up a model only when the step names one
that is not empty.

Owns: what one step contributes to a build, and the exact condition under which
an accepted step contributes something.
-/

namespace AutoRouteGateway.Routing

open AutoRouteGateway.Config
open AutoRouteGateway.Domain
open AutoRouteGateway.Library

/-! ## The contribution of a step -/

/-- The candidates of `step` in a build that begins at `counter` and passes the
`earlier` steps first. -/
def contribution (config : GatewayConfig) (earlier : List RouteStep) (step : RouteStep)
    (counter : Nat) : List RouteCandidate :=
  (stepCandidates config step (stepsCandidates config earlier counter).2).1

/-! ## Accepted steps without a candidate -/

/-- What acceptance of a step leaves open: the provider is disabled, or the
model lookup finds nothing because no model was named and the provider has
none, or because an empty name was given and no model has it. -/
def Unroutable (config : GatewayConfig) (step : RouteStep) : Prop :=
  ∃ provider, config.providers.get? step.provider = some provider ∧
    (provider.enabled = false ∨ step.model = none ∧ provider.models = [] ∨
      step.model = some "" ∧ ∀ model ∈ provider.models, model.id ≠ "")

theorem orderKeys_ne_nil {provider : ProviderConfig} (keyed : provider.keys ≠ [])
    (counter : Nat) : (orderKeys provider counter).1 ≠ [] := by
  obtain ⟨key, member⟩ := List.exists_mem_of_ne_nil _ keyed
  exact List.ne_nil_of_mem (mem_orderKeys.mpr member)

theorem defaultModel_eq_none_iff {provider : ProviderConfig} :
    provider.defaultModel = none ↔ provider.models = [] := by
  unfold ProviderConfig.defaultModel
  cases search : provider.models.find? (·.default) with
  | some model =>
      have member := List.mem_of_find?_eq_some search
      exact iff_of_false (by simp) (List.ne_nil_of_mem member)
  | none => exact List.head?_eq_none_iff

/-- Acceptance of the model leaves two ways for the lookup to find nothing. -/
theorem model_eq_none_iff_of_accepted {config : GatewayConfig} {step : RouteStep}
    {provider : ProviderConfig} (accepted : StepAccepted config step provider) :
    provider.model step.model = none ↔
      step.model = none ∧ provider.models = [] ∨
        step.model = some "" ∧ ∀ model ∈ provider.models, model.id ≠ "" := by
  cases named : step.model with
  | none =>
      change provider.defaultModel = none ↔ _
      rw [defaultModel_eq_none_iff]
      simp
  | some modelId =>
      by_cases empty : modelId = ""
      · subst empty
        simp [ProviderConfig.model]
      · have found := accepted.model (by simp [named, isBlank, empty])
        rw [named] at found
        simp [found, empty]

theorem stepCandidates_ne_nil_iff {config : GatewayConfig} {step : RouteStep}
    {provider : ProviderConfig} (accepted : StepAccepted config step provider) (counter : Nat) :
    (stepCandidates config step counter).1 ≠ [] ↔
      provider.enabled = true ∧ provider.model step.model ≠ none := by
  simp only [stepCandidates, accepted.configured]
  by_cases enabled : provider.enabled = true
  · by_cases executor : provider.type = .executor
    · have codexOn := accepted.executorOn executor
      cases provider.model step.model <;> simp [enabled, executor, codexOn]
    · have keys := orderKeys_ne_nil (accepted.keyed executor) counter
      cases provider.model step.model <;> simp [enabled, executor, keys]
  · simp [enabled]

/-- In an accepted configuration a step contributes a candidate to every build
of its route, or to none. -/
theorem contribution_ne_nil_iff {config : GatewayConfig} (accepted : validate config = .ok ())
    {name : String} {route : RouteConfig} (configured : config.routes.get? name = some route)
    {earlier later : List RouteStep} {step : RouteStep}
    (split : route.steps = earlier ++ step :: later) (counter : Nat) :
    contribution config earlier step counter ≠ [] ↔ ¬ Unroutable config step := by
  obtain ⟨provider, stepAccepted⟩ := stepAccepted_of_validate accepted configured
    (show step ∈ route.steps by simp [split])
  have sameEntry : ∀ other, config.providers.get? step.provider = some other →
      other = provider :=
    fun other found => Option.some.inj (found.symm.trans stepAccepted.configured)
  rw [contribution, stepCandidates_ne_nil_iff stepAccepted, Ne,
    model_eq_none_iff_of_accepted stepAccepted]
  constructor
  · rintro ⟨enabled, found⟩ ⟨other, isOther, gap⟩
    rw [sameEntry other isOther] at gap
    rcases gap with disabled | missing
    · rw [enabled] at disabled
      cases disabled
    · exact found missing
  · intro routable
    constructor
    · by_contra disabled
      exact routable ⟨provider, stepAccepted.configured, Or.inl (by simpa using disabled)⟩
    · exact fun missing => routable ⟨provider, stepAccepted.configured, Or.inr missing⟩

/-- One route `v` to one provider with one key and the given models. -/
def oneProviderConfig (models : List ModelConfig) : GatewayConfig where
  routes := UpsertTable.empty.upsert "v" ⟨[⟨"p", none⟩]⟩
  providers := UpsertTable.empty.upsert "p"
    { id := "p", type := .openaiCompatible, baseUrl := some "u", models := models
      keys := [{ id := "k", env := "K" }] }
  idsMatch := idsMatch_single rfl

theorem contribution_ne_nil_iff_one_model :
    contribution (oneProviderConfig [{ id := "m" }]) [] ⟨"p", none⟩ 0 ≠ [] := by
  have accepted : validate (oneProviderConfig [{ id := "m" }]) = .ok () := rfl
  have configured : (oneProviderConfig [{ id := "m" }]).routes.get? "v" = some ⟨[⟨"p", none⟩]⟩ :=
    rfl
  have split : (RouteConfig.mk [⟨"p", none⟩]).steps = [] ++ (⟨"p", none⟩ : RouteStep) :: [] := rfl
  refine (contribution_ne_nil_iff accepted configured split 0).mpr ?_
  rintro ⟨provider, configured, gap⟩
  cases configured
  simp at gap

/-- A provider without models is accepted, and its step gets no candidate. -/
theorem contribution_empty_without_models :
    validate (oneProviderConfig []) = .ok () ∧
      (oneProviderConfig []).routes.get? "v" = some ⟨[⟨"p", none⟩]⟩ ∧
      contribution (oneProviderConfig []) [] ⟨"p", none⟩ 0 = [] :=
  ⟨rfl, rfl, rfl⟩

end AutoRouteGateway.Routing

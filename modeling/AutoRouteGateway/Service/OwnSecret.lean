import AutoRouteGateway.Config.Loader
import AutoRouteGateway.Service.Gateway

/-!
Contract: whose secret a candidate is called with.

A candidate is made from an entry of its provider's key list but carries only the
entry's id. The service searches the list again, and takes the first entry with
this id.

Owns: the entry behind a candidate, and the exact condition under which the search
ends at an entry with the same variable.
-/

namespace AutoRouteGateway.Service

open AutoRouteGateway.Config
open AutoRouteGateway.Domain
open AutoRouteGateway.Library
open AutoRouteGateway.Routing

/-! ## The key entry behind a candidate -/

/-- The step makes the candidate from the key entry. -/
def StepMakes (config : GatewayConfig) (step : RouteStep) (candidate : RouteCandidate)
    (key : KeyConfig) : Prop :=
  ∃ provider model, config.providers.get? step.provider = some provider ∧
    provider.enabled = true ∧ provider.type ≠ .executor ∧
      provider.model step.model = some model ∧ key ∈ provider.keys ∧
        candidate = keyCandidate provider model key

/-- A step of the route makes the candidate from the key entry. -/
def MadeFrom (config : GatewayConfig) (name : String) (candidate : RouteCandidate)
    (key : KeyConfig) : Prop :=
  ∃ route, config.routes.get? name = some route ∧
    ∃ step ∈ route.steps, StepMakes config step candidate key

theorem mem_stepCandidates_api_iff {config : GatewayConfig} {step : RouteStep} {counter : Nat}
    {candidate : RouteCandidate} :
    candidate ∈ (stepCandidates config step counter).1 ∧ candidate.executorType = .api ↔
      ∃ key, StepMakes config step candidate key := by
  constructor
  · intro made
    obtain ⟨member, api⟩ := made
    unfold stepCandidates at member
    split at member
    · cases member
    · rename_i provider configured
      split_ifs at member with disabled codexOff executor
      · cases member
      · cases member
      · split at member
        · cases member
        · rw [List.mem_singleton.mp member] at api
          cases api
      · split at member
        · cases member
        · rename_i model found
          obtain ⟨key, inOrder, isMade⟩ := List.mem_map.mp member
          have enabled : provider.enabled = true := by simpa using disabled
          exact ⟨key, provider, model, configured, enabled, executor, found,
            mem_orderKeys.mp inOrder, isMade.symm⟩
  · intro made
    obtain ⟨key, provider, model, configured, enabled, executor, found, member, isMade⟩ := made
    constructor
    · unfold stepCandidates
      simp only [configured, enabled, executor, found, false_and, if_false, Bool.true_eq_false]
      exact List.mem_map.mpr ⟨key, mem_orderKeys.mpr member, isMade.symm⟩
    · rw [isMade]
      exact if_neg executor

theorem mem_stepsCandidates_api_iff {config : GatewayConfig} {steps : List RouteStep}
    {counter : Nat} {candidate : RouteCandidate} :
    candidate ∈ (stepsCandidates config steps counter).1 ∧ candidate.executorType = .api ↔
      ∃ key, ∃ step ∈ steps, StepMakes config step candidate key := by
  induction steps generalizing counter with
  | nil => simp [stepsCandidates]
  | cons step rest inductionHypothesis =>
      simp only [stepsCandidates, List.mem_append, or_and_right, mem_stepCandidates_api_iff,
        inductionHypothesis, List.mem_cons, exists_or, exists_eq_left]

/-- The api candidates of a build are the ones made from key entries. -/
theorem mem_buildCandidates_api_iff {config : GatewayConfig} {name : String} {counter : Nat}
    {built : List RouteCandidate} (build : (buildCandidates name config counter).1 = .ok built)
    {candidate : RouteCandidate} :
    candidate ∈ built ∧ candidate.executorType = .api ↔
      ∃ key, MadeFrom config name candidate key := by
  unfold buildCandidates at build
  unfold MadeFrom
  cases routed : config.routes.get? name with
  | none =>
      rw [routed] at build
      cases build
  | some route =>
      rw [routed] at build
      cases build
      simp [mem_stepsCandidates_api_iff]

/-! ## The secret of a candidate -/

/-- `SecretResolver.require`. -/
def requireSecret (resolver : SecretResolver) (env : String) : Except SecretError String :=
  match resolver.resolve env with
  | none => .error (.missing env)
  | some value => .ok value

/-- Whatever the environment holds, the secret of the candidate is the variable's. -/
def ResolvesEnv (service : GatewayService) (candidate : RouteCandidate) (env : String) : Prop :=
  ∀ resolver, ({ service with resolver := resolver } : GatewayService).secret candidate =
    requireSecret resolver env

/-- The first key of the list with the entry's id names the entry's variable. -/
def FirstNamesVariable (keys : List KeyConfig) (key : KeyConfig) : Prop :=
  ∃ earlier first later, keys = earlier ++ first :: later ∧ first.id = key.id ∧
    first.env = key.env ∧ ∀ other ∈ earlier, other.id ≠ key.id

/-- Two variables are required alike only if they are the same: where neither is set,
the error names the variable. -/
theorem requireSecret_inj {env other : String}
    (alike : ∀ resolver, requireSecret resolver env = requireSecret resolver other) :
    env = other := by
  have unset := alike ⟨.empty, .empty⟩
  have errors : Except.error (SecretError.missing env) =
      (Except.error (SecretError.missing other) : Except SecretError String) := unset
  rw [Except.error.injEq, SecretError.missing.injEq] at errors
  exact errors

section Found

variable {service : GatewayService} {candidate : RouteCandidate} {key : KeyConfig}
  {provider : ProviderConfig}

/-- The search by id ends at the first entry with the id. -/
theorem secret_eq_require (configured : service.config.providers.get? candidate.providerId =
      some provider) (credential : candidate.credentialId = some key.id)
    {earlier later : List KeyConfig} {first : KeyConfig}
    (split : provider.keys = earlier ++ first :: later) (isFirst : first.id = key.id)
    (notEarlier : ∀ other ∈ earlier, other.id ≠ key.id) (resolver : SecretResolver) :
    ({ service with resolver := resolver } : GatewayService).secret candidate =
      requireSecret resolver first.env := by
  have found : (provider.keys.find? fun key => some key.id = candidate.credentialId) =
      some first := by
    rw [List.find?_eq_some_iff_append, credential]
    refine ⟨by simp [isFirst], earlier, later, split, ?_⟩
    intro other member
    simpa using notEarlier other member
  simp only [GatewayService.secret, configured, found]
  rfl

/-- An entry of the list is itself, or hidden behind, the first one with its id. -/
theorem exists_first_of_id {keys : List KeyConfig} (member : key ∈ keys) :
    ∃ earlier first later, keys = earlier ++ first :: later ∧ first.id = key.id ∧
      ∀ other ∈ earlier, other.id ≠ key.id := by
  have someone : (keys.find? fun other => other.id = key.id).isSome := by
    rw [List.find?_isSome]
    exact ⟨key, member, by simp⟩
  obtain ⟨first, found⟩ := Option.isSome_iff_exists.mp someone
  obtain ⟨isFirst, earlier, later, split, notEarlier⟩ := List.find?_eq_some_iff_append.mp found
  refine ⟨earlier, first, later, split, by simpa using isFirst, ?_⟩
  intro other isEarlier
  simpa using notEarlier other isEarlier

/-- What a candidate made from a key entry carries. -/
theorem MadeFrom.carries {name : String}
    (made : MadeFrom service.config name candidate key) :
    ∃ provider, service.config.providers.get? candidate.providerId = some provider ∧
      key ∈ provider.keys ∧ candidate.credentialId = some key.id := by
  obtain ⟨route, -, step, -, provider, model, configured, -, -, -, member, rfl⟩ := made
  have sameId : provider.id = step.provider := service.config.idsMatch _ _ configured
  refine ⟨provider, ?_, member, rfl⟩
  show service.config.providers.get? provider.id = some provider
  rw [sameId]
  exact configured

end Found

/-- A candidate is called with its own entry's secret exactly if the first key of the
provider with the entry's id names the entry's variable. -/
theorem resolves_own_env_iff {service : GatewayService} {name : String}
    {candidate : RouteCandidate} {key : KeyConfig} {provider : ProviderConfig}
    (made : MadeFrom service.config name candidate key)
    (configured : service.config.providers.get? candidate.providerId = some provider) :
    ResolvesEnv service candidate key.env ↔ FirstNamesVariable provider.keys key := by
  obtain ⟨own, ownConfigured, member, credential⟩ := made.carries
  have sameProvider : own = provider := Option.some.inj (ownConfigured.symm.trans configured)
  rw [sameProvider] at member
  constructor
  · intro resolves
    obtain ⟨earlier, first, later, split, isFirst, notEarlier⟩ := exists_first_of_id member
    refine ⟨earlier, first, later, split, isFirst, ?_, notEarlier⟩
    apply requireSecret_inj
    intro resolver
    rw [← resolves resolver]
    exact (secret_eq_require configured credential split isFirst notEarlier resolver).symm
  · intro condition resolver
    obtain ⟨earlier, first, later, split, isFirst, sameEnv, notEarlier⟩ := condition
    rw [secret_eq_require configured credential split isFirst notEarlier resolver, sameEnv]

/-- One key, under its own id. -/
theorem resolves_own_env_iff_single :
    ResolvesEnv (keyedService "s")
      (keyCandidate
        { id := "p", type := .openaiCompatible, baseUrl := some "u",
          models := [{ id := "m", capabilities := {.text, .usage} }],
          keys := [{ id := "k", env := "K" }] }
        { id := "m", capabilities := {.text, .usage} } { id := "k", env := "K" }) "K" :=
  (resolves_own_env_iff
    (show MadeFrom (keyedService "s").config "v" _ { id := "k", env := "K" } from
      ⟨_, rfl, _, List.mem_cons_self, _, _, rfl, rfl, by decide, rfl, List.mem_cons_self, rfl⟩)
    rfl).mpr ⟨[], _, [], rfl, rfl, rfl, List.forall_mem_nil _⟩

/-- Two keys of one id. The second candidate is called with the first key's secret. -/
theorem repeated_id_resolves_first :
    ∃ (service : GatewayService) (candidate : RouteCandidate),
      validate service.config = .ok () ∧
        MadeFrom service.config "v" candidate ⟨"k", "BOB", 50, false⟩ ∧
          service.secret candidate = .ok "of alice" ∧
            requireSecret service.resolver "BOB" = .ok "of bob" ∧
              ¬ ResolvesEnv service candidate "BOB" := by
  have made : MadeFrom (singleProviderConfig [⟨"k", "ALICE", 100, false⟩, ⟨"k", "BOB", 50, false⟩])
      "v" _ ⟨"k", "BOB", 50, false⟩ :=
    ⟨_, rfl, _, List.mem_cons_self, _, _, rfl, rfl, by decide, rfl,
      List.mem_cons_of_mem _ List.mem_cons_self, rfl⟩
  refine ⟨singleProviderService [⟨"k", "ALICE", 100, false⟩, ⟨"k", "BOB", 50, false⟩]
    ⟨(UpsertTable.empty.upsert "ALICE" "of alice").upsert "BOB" "of bob", .empty⟩,
    _, by decide +kernel, made, rfl, rfl, ?_⟩
  intro resolves
  have same : Except.ok "of alice" = (Except.ok "of bob" : Except SecretError String) := resolves
    ⟨(UpsertTable.empty.upsert "ALICE" "of alice").upsert "BOB" "of bob", .empty⟩
  exact absurd (Except.ok.inj same) (by decide)

end AutoRouteGateway.Service

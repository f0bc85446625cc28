import AutoRouteGateway.Routing.RoundRobin

/-!
Contract: the candidates of a route, step by step and key by key.

A step that takes its provider's keys contributes each entry of the pool once,
under every strategy. The pool is sorted by priority first and by the reserve
flag only among keys of one priority, so a reserve key of higher priority comes
before a regular one.

Owns: the blocks of candidates that the steps contribute, what a complete and
ordered block is, and the exact condition on the pools under which all blocks of
a route are.
-/

namespace AutoRouteGateway.Routing

open AutoRouteGateway.Config
open AutoRouteGateway.Domain
open AutoRouteGateway.Library

/-! ## Blocks -/

/-- What each step contributes, in route order. -/
def stepBlocks (config : GatewayConfig) : List RouteStep → Nat → List (List RouteCandidate)
  | [], _ => []
  | step :: rest, counter =>
      let first := stepCandidates config step counter
      first.1 :: stepBlocks config rest first.2

theorem flatten_stepBlocks (config : GatewayConfig) (steps : List RouteStep) (counter : Nat) :
    (stepBlocks config steps counter).flatten = (stepsCandidates config steps counter).1 := by
  induction steps generalizing counter with
  | nil => rfl
  | cons step rest inductionHypothesis =>
      rw [stepBlocks, List.flatten_cons, inductionHypothesis]
      rfl

/-- Regular keys before reserve keys, each group by falling priority, and keys of
one group and priority as configured. -/
structure PoolOrder (provider : ProviderConfig) (model : ModelConfig)
    (block : List RouteCandidate) : Prop where
  reserveLast : block.Pairwise fun left right => left.reserve = true → right.reserve = true
  falling : block.Pairwise fun left right =>
    left.reserve = right.reserve → right.credentialPriority ≤ left.credentialPriority
  ties : ∀ priority reserve,
    (block.filter fun candidate =>
        decide (candidate.credentialPriority = priority ∧ candidate.reserve = reserve)) =
      (provider.keys.filter fun key =>
        decide (key.priority = priority ∧ key.reserve = reserve)).map (keyCandidate provider model)

/-- One candidate for each entry of the pool, ordered where the strategy says so. -/
structure PoolBlock (provider : ProviderConfig) (model : ModelConfig)
    (block : List RouteCandidate) : Prop where
  complete : block.Perm (provider.keys.map (keyCandidate provider model))
  ordered : provider.keyPoolStrategy = .priority → PoolOrder provider model block

/-- What a step with an enabled api provider and a model is to contribute. -/
def EnumeratesStep (config : GatewayConfig) (step : RouteStep) (block : List RouteCandidate) :
    Prop :=
  ∀ provider model, config.providers.get? step.provider = some provider →
    provider.enabled = true → provider.type ≠ .executor →
      provider.model step.model = some model → PoolBlock provider model block

/-- The build yields the blocks of its steps, one after the other, each as it is to be. -/
structure Enumerates (config : GatewayConfig) (name : String) (steps : List RouteStep)
    (counter : Nat) : Prop where
  built : (buildCandidates name config counter).1 = .ok (stepBlocks config steps counter).flatten
  steps : List.Forall₂ (EnumeratesStep config) steps (stepBlocks config steps counter)

/-! ## The order of a pool -/

/-- No reserve key has a higher priority than a regular one. -/
def ReservesRankLast (keys : List KeyConfig) : Prop :=
  ∀ spare ∈ keys, ∀ regular ∈ keys, spare.reserve = true → regular.reserve = false →
    spare.priority ≤ regular.priority

instance (keys : List KeyConfig) : Decidable (ReservesRankLast keys) :=
  inferInstanceAs (Decidable (∀ spare ∈ keys, ∀ regular ∈ keys, _ → _ → _))

theorem keyBefore_iff {left right : KeyConfig} :
    keyBefore left right = true ↔
      right.priority < left.priority ∨
        left.priority = right.priority ∧ (left.reserve = true → right.reserve = true) := by
  cases leftReserve : left.reserve <;> cases rightReserve : right.reserve <;>
    simp [keyBefore, leftReserve, rightReserve]

instance : Std.Total fun left right : KeyConfig => keyBefore left right = true where
  total left right := by
    rw [keyBefore_iff, keyBefore_iff]
    rcases Int.lt_trichotomy left.priority right.priority with below | same | above
    · exact Or.inr (Or.inl below)
    · cases leftReserve : left.reserve with
      | true => exact Or.inr (Or.inr ⟨same.symm, fun _ => rfl⟩)
      | false => exact Or.inl (Or.inr ⟨same, nofun⟩)
    · exact Or.inl (Or.inl above)

instance : IsTrans KeyConfig fun left right => keyBefore left right = true where
  trans first second third := by
    rw [keyBefore_iff, keyBefore_iff, keyBefore_iff]
    rintro (above | ⟨same, reserve⟩) (above' | ⟨same', reserve'⟩)
    · exact Or.inl (above'.trans above)
    · exact Or.inl (same' ▸ above)
    · exact Or.inl (same ▸ above')
    · exact Or.inr ⟨same.trans same', reserve' ∘ reserve⟩

/-- The keys as a build without rotation takes them. -/
def sortedKeys (keys : List KeyConfig) : List KeyConfig :=
  keys.insertionSort fun left right => keyBefore left right = true

theorem sortedKeys_perm (keys : List KeyConfig) : (sortedKeys keys).Perm keys :=
  List.perm_insertionSort _ keys

theorem sortedKeys_pairwise (keys : List KeyConfig) :
    (sortedKeys keys).Pairwise fun left right => keyBefore left right = true :=
  List.pairwise_insertionSort _ keys

/-- Keys that compare equal keep their configured order. -/
theorem sortedKeys_ties (keys : List KeyConfig) (priority : Int) (reserve : Bool) :
    ((sortedKeys keys).filter fun key =>
        decide (key.priority = priority ∧ key.reserve = reserve)) =
      keys.filter fun key => decide (key.priority = priority ∧ key.reserve = reserve) := by
  have alike : (keys.filter fun key =>
      decide (key.priority = priority ∧ key.reserve = reserve)).Pairwise
        fun left right => keyBefore left right = true := by
    apply List.pairwise_of_forall_mem_list
    intro left isLeft right isRight
    have leftIs := of_decide_eq_true (List.mem_filter.mp isLeft).2
    have rightIs := of_decide_eq_true (List.mem_filter.mp isRight).2
    rw [keyBefore_iff]
    exact Or.inr ⟨leftIs.1.trans rightIs.1.symm, fun isReserve => by
      rw [rightIs.2, ← leftIs.2, isReserve]⟩
  have kept := (List.sublist_insertionSort alike List.filter_sublist).filter
    fun key => decide (key.priority = priority ∧ key.reserve = reserve)
  rw [List.filter_filter] at kept
  simp only [Bool.and_self] at kept
  exact (kept.eq_of_length ((sortedKeys_perm keys).filter _).length_eq.symm).symm

/-- The reserve keys come last exactly if none has a higher priority. -/
theorem reserveLast_sortedKeys_iff (keys : List KeyConfig) :
    ((sortedKeys keys).Pairwise fun left right => left.reserve = true → right.reserve = true) ↔
      ReservesRankLast keys := by
  constructor
  · intro last spare isSpare regular isRegular spareReserve regularReserve
    -- one of the two keys stands before the other
    let Orders (left right : KeyConfig) : Prop :=
      (left.reserve = true → right.reserve = true) ∧ keyBefore left right = true
    have related := List.Pairwise.forall_of_forall_of_flip
      (R := fun left right => Orders left right ∨ Orders right left)
      (fun key _ => Or.inl ⟨id, keyBefore_iff.mpr (Or.inr ⟨rfl, id⟩)⟩)
      ((last.and (sortedKeys_pairwise keys)).imp Or.inl)
      ((last.and (sortedKeys_pairwise keys)).imp Or.inr)
      ((sortedKeys_perm keys).mem_iff.mpr isSpare) ((sortedKeys_perm keys).mem_iff.mpr isRegular)
    rcases related with ⟨reserve, -⟩ | ⟨-, before⟩
    · rw [reserve spareReserve] at regularReserve
      cases regularReserve
    · rcases keyBefore_iff.mp before with above | ⟨same, -⟩ <;> omega
  · intro rank
    refine (sortedKeys_pairwise keys).imp_of_mem ?_
    intro left right isLeft isRight before spareReserve
    by_contra regularReserve
    have below := rank left ((sortedKeys_perm keys).mem_iff.mp isLeft) right
      ((sortedKeys_perm keys).mem_iff.mp isRight) spareReserve (by simpa using regularReserve)
    rcases keyBefore_iff.mp before with above | ⟨-, reserve⟩
    · omega
    · exact regularReserve (reserve spareReserve)

theorem poolOrder_sortedKeys_iff (provider : ProviderConfig) (model : ModelConfig) :
    PoolOrder provider model ((sortedKeys provider.keys).map (keyCandidate provider model)) ↔
      ReservesRankLast provider.keys := by
  rw [← reserveLast_sortedKeys_iff]
  constructor
  · intro order
    exact List.pairwise_map.mp order.reserveLast
  · intro reserveLast
    constructor
    · exact List.pairwise_map.mpr reserveLast
    · rw [List.pairwise_map]
      apply (sortedKeys_pairwise provider.keys).imp
      intro left right before _
      rcases keyBefore_iff.mp before with above | ⟨same, -⟩
      · exact Int.le_of_lt above
      · exact Int.le_of_eq same.symm
    · intro priority reserve
      rw [List.filter_map]
      exact congrArg _ (sortedKeys_ties provider.keys priority reserve)

/-! ## Steps -/

theorem orderKeys_perm (provider : ProviderConfig) (counter : Nat) :
    (orderKeys provider counter).1.Perm provider.keys := by
  have perm := ((sortedPool_perm provider).map Prod.fst)
  rw [List.zipIdx_map_fst] at perm
  rw [← turnedPool_keys]
  unfold turnedPool
  cases provider.keyPoolStrategy with
  | roundRobin => exact ((List.rotate_perm _ _).map Prod.fst).trans perm
  | priority => exact perm
  | other _ => exact perm

theorem orderKeys_of_priority {provider : ProviderConfig}
    (priority : provider.keyPoolStrategy = .priority) (counter : Nat) :
    (orderKeys provider counter).1 = sortedKeys provider.keys := by
  unfold orderKeys
  rw [priority]
  rfl

/-- The block of a step is as it is to be, unless the step takes a pool sorted by
priority in which a reserve key ranks above a regular one. -/
theorem enumeratesStep_iff (config : GatewayConfig) (step : RouteStep) (counter : Nat) :
    EnumeratesStep config step (stepCandidates config step counter).1 ↔
      ∀ provider, config.providers.get? step.provider = some provider →
        TakesKeys provider step → provider.keyPoolStrategy = .priority →
          ReservesRankLast provider.keys := by
  have block : ∀ provider model, config.providers.get? step.provider = some provider →
      provider.enabled = true → provider.type ≠ .executor →
        provider.model step.model = some model →
          (stepCandidates config step counter).1 =
            (orderKeys provider counter).1.map (keyCandidate provider model) := by
    intro provider model configured enabled api found
    rw [stepCandidates_of_takesKeys configured enabled api found, ← turnedPool_keys, List.map_map]
    rfl
  constructor
  · intro enumerates provider configured takes priority
    obtain ⟨enabled, api, hasModel⟩ := takes
    obtain ⟨model, found⟩ := Option.isSome_iff_exists.mp hasModel
    have order := (enumerates provider model configured enabled api found).ordered priority
    rw [block provider model configured enabled api found, orderKeys_of_priority priority] at order
    exact (poolOrder_sortedKeys_iff provider model).mp order
  · intro rank provider model configured enabled api found
    rw [block provider model configured enabled api found]
    refine ⟨(orderKeys_perm provider counter).map _, ?_⟩
    intro priority
    rw [orderKeys_of_priority priority, poolOrder_sortedKeys_iff]
    exact rank provider configured ⟨enabled, api, found ▸ rfl⟩ priority

theorem forall₂_stepBlocks_iff (config : GatewayConfig) (steps : List RouteStep) (counter : Nat) :
    List.Forall₂ (EnumeratesStep config) steps (stepBlocks config steps counter) ↔
      ∀ step ∈ steps, ∀ provider, config.providers.get? step.provider = some provider →
        TakesKeys provider step → provider.keyPoolStrategy = .priority →
          ReservesRankLast provider.keys := by
  induction steps generalizing counter with
  | nil => simp [stepBlocks]
  | cons step rest inductionHypothesis =>
      rw [stepBlocks, List.forall₂_cons, enumeratesStep_iff, inductionHypothesis,
        List.forall_mem_cons]

/-- The build of a route enumerates every pool it takes keys from, completely and
in order, exactly if no pool taken by priority has a reserve key that ranks above a
regular one. -/
theorem enumerates_iff (config : GatewayConfig) {name : String} {route : RouteConfig}
    (routed : config.routes.get? name = some route) (counter : Nat) :
    Enumerates config name route.steps counter ↔
      ∀ step ∈ route.steps, ∀ provider, config.providers.get? step.provider = some provider →
        TakesKeys provider step → provider.keyPoolStrategy = .priority →
          ReservesRankLast provider.keys := by
  rw [← forall₂_stepBlocks_iff config route.steps counter]
  constructor
  · exact Enumerates.steps
  · intro steps
    refine ⟨?_, steps⟩
    simp only [buildCandidates, routed, flatten_stepBlocks]

/-! ## A reserve key that ranks first -/

/-- One route to one provider with the pool, taken by priority. -/
def opencodeConfig (keys : List KeyConfig) : GatewayConfig where
  routes := UpsertTable.empty.upsert "gateway-auto" ⟨[⟨"opencode", none⟩]⟩
  providers := UpsertTable.empty.upsert "opencode"
    { id := "opencode"
      type := .opencode
      models := [⟨"glm-5", ∅, true⟩]
      keys := keys }
  idsMatch := idsMatch_single rfl

theorem enumerates_iff_two_keys :
    Enumerates (opencodeConfig [⟨"ocg-01", "OPENCODE_KEY_1", 100, false⟩,
      ⟨"ocg-02", "OPENCODE_KEY_2", 50, true⟩]) "gateway-auto" [⟨"opencode", none⟩] 0 := by
  have routed : (opencodeConfig [⟨"ocg-01", "OPENCODE_KEY_1", 100, false⟩,
      ⟨"ocg-02", "OPENCODE_KEY_2", 50, true⟩]).routes.get? "gateway-auto" =
        some ⟨[⟨"opencode", none⟩]⟩ := rfl
  refine (enumerates_iff _ routed 0).mpr ?_
  intro step isStep provider configured _ _
  rw [List.mem_singleton.mp isStep] at configured
  cases configured
  decide

/-- The default priority puts a reserve key before a regular key of priority 50. -/
theorem reserve_ranks_first :
    (buildCandidates "gateway-auto" (opencodeConfig [⟨"ocg-01", "OPENCODE_KEY_1", 50, false⟩,
        { id := "ocg-02", env := "OPENCODE_KEY_2", reserve := true }]) 0).1.map
          (List.map fun candidate => (candidate.credentialId, candidate.reserve)) =
        .ok [(some "ocg-02", true), (some "ocg-01", false)] ∧
      ¬ Enumerates (opencodeConfig [⟨"ocg-01", "OPENCODE_KEY_1", 50, false⟩,
        { id := "ocg-02", env := "OPENCODE_KEY_2", reserve := true }]) "gateway-auto"
          [⟨"opencode", none⟩] 0 := by
  refine ⟨rfl, ?_⟩
  intro enumerates
  cases enumerates.steps with
  | cons first _ =>
      have order := (first _ _ rfl rfl nofun rfl).ordered rfl
      exact absurd order.reserveLast (by decide)

end AutoRouteGateway.Routing

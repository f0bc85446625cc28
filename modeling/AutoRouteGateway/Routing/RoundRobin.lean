import AutoRouteGateway.Library.FairTurns
import AutoRouteGateway.Routing.CandidateBuilder

/-!
Contract: who leads the keys of a round-robin step, build after build.

One counter turns the pools of all providers. Each step of a route with such a
pool moves it on by one, and the pool is turned with its reserve keys in it.

Owns: the pool entries behind the candidates of a step, the counter over
consecutive builds of a route, and the exact condition under which every regular
key leads one build out of as many as there are regular keys.
-/

namespace AutoRouteGateway.Routing

open AutoRouteGateway.Config
open AutoRouteGateway.Domain
open AutoRouteGateway.Library

/-! ## The entries of a pool -/

/-- The pool in its sorted order, each key with its place in the configuration. -/
def sortedPool (provider : ProviderConfig) : List (KeyConfig × Nat) :=
  provider.keys.zipIdx.insertionSort fun left right => keyBefore left.1 right.1 = true

/-- The pool in the order of one build. -/
def turnedPool (provider : ProviderConfig) (counter : Nat) : List (KeyConfig × Nat) :=
  match provider.keyPoolStrategy with
  | .roundRobin => (sortedPool provider).rotate (counter + 1)
  | _ => sortedPool provider

def isRegular (entry : KeyConfig × Nat) : Bool := !entry.1.reserve

/-- The number of regular keys of the pool. -/
def regularKeys (provider : ProviderConfig) : Nat :=
  provider.keys.countP fun key => !key.reserve

theorem sortedPool_perm (provider : ProviderConfig) :
    (sortedPool provider).Perm provider.keys.zipIdx :=
  List.perm_insertionSort _ _

theorem length_sortedPool (provider : ProviderConfig) :
    (sortedPool provider).length = provider.keys.length := by
  rw [(sortedPool_perm provider).length_eq, List.length_zipIdx]

theorem sortedPool_nodup (provider : ProviderConfig) : (sortedPool provider).Nodup := by
  have places : (provider.keys.zipIdx.map Prod.snd).Nodup := by
    rw [List.zipIdx_map_snd]
    exact List.nodup_range'
  rw [(sortedPool_perm provider).nodup_iff]
  exact places.of_map

theorem countP_sortedPool (provider : ProviderConfig) :
    (sortedPool provider).countP isRegular = regularKeys provider := by
  have keys : provider.keys.zipIdx.map Prod.fst = provider.keys := List.zipIdx_map_fst 0 _
  unfold regularKeys
  rw [(sortedPool_perm provider).countP_eq]
  conv_rhs => rw [← keys, List.countP_map]
  rfl

theorem sortedPool_keys (provider : ProviderConfig) :
    (sortedPool provider).map Prod.fst =
      provider.keys.insertionSort fun left right => keyBefore left right = true := by
  unfold sortedPool
  rw [List.map_insertionSort _ (fun left right => keyBefore left right = true) Prod.fst _
    (fun _ _ _ _ => Iff.rfl), List.zipIdx_map_fst]

/-- The entries of a build are those of the builder's key list. -/
theorem turnedPool_keys (provider : ProviderConfig) (counter : Nat) :
    (turnedPool provider counter).map Prod.fst = (orderKeys provider counter).1 := by
  unfold turnedPool orderKeys
  have sorted := sortedPool_keys provider
  cases provider.keyPoolStrategy with
  | roundRobin =>
      show ((sortedPool provider).rotate (counter + 1)).map Prod.fst = _
      rw [List.map_rotate, sorted, List.rotate_eq_drop_append_take_mod]
      by_cases none : provider.keys.insertionSort
          (fun left right => keyBefore left right = true) = []
      · simp [none]
      · simp [none]
  | priority => exact sorted
  | other _ => exact sorted

/-! ## The key that leads a step -/

/-- The step takes its candidates from the provider's keys. -/
def TakesKeys (provider : ProviderConfig) (step : RouteStep) : Prop :=
  provider.enabled = true ∧ provider.type ≠ .executor ∧ (provider.model step.model).isSome

instance (provider : ProviderConfig) (step : RouteStep) : Decidable (TakesKeys provider step) :=
  inferInstanceAs (Decidable (_ ∧ _ ∧ _))

/-- The pool entries behind the candidates of a step, in the order of one build. -/
def stepEntries (config : GatewayConfig) (step : RouteStep) (counter : Nat) :
    List (KeyConfig × Nat) :=
  match config.providers.get? step.provider with
  | none => []
  | some provider => if TakesKeys provider step then turnedPool provider counter else []

/-- The pool entry the first candidate of the step that is not a reserve was made
from, in the build that finds the counter so. -/
def leadingKey (config : GatewayConfig) (before : List RouteStep) (step : RouteStep)
    (counter : Nat) : Option (KeyConfig × Nat) :=
  let reached := (stepsCandidates config before counter).2
  let made := (stepCandidates config step reached).1.zip (stepEntries config step reached)
  (made.find? fun pair => !pair.1.reserve).map Prod.snd

section Step

variable {config : GatewayConfig} {step : RouteStep} {provider : ProviderConfig}
  (configured : config.providers.get? step.provider = some provider)

include configured

theorem stepCandidates_of_takesKeys {model : ModelConfig} (enabled : provider.enabled = true)
    (api : provider.type ≠ .executor) (found : provider.model step.model = some model)
    (counter : Nat) :
    stepCandidates config step counter =
      ((turnedPool provider counter).map fun entry => keyCandidate provider model entry.1,
        (orderKeys provider counter).2) := by
  unfold stepCandidates
  rw [configured]
  dsimp only
  rw [if_neg (by simp [enabled]), if_neg (fun off => api off.1), found]
  dsimp only
  rw [if_neg api, ← turnedPool_keys, List.map_map]
  rfl

/-- A step that takes no keys leaves the counter alone, and the one candidate it may
have is an executor's. -/
theorem stepCandidates_of_not_takesKeys (skips : ¬ TakesKeys provider step) (counter : Nat) :
    (stepCandidates config step counter).2 = counter ∧
      ∀ candidate ∈ (stepCandidates config step counter).1, candidate.credentialId = none := by
  unfold stepCandidates
  rw [configured]
  dsimp only
  split_ifs with disabled codexOff executor
  · exact ⟨rfl, fun _ member => absurd member List.not_mem_nil⟩
  · exact ⟨rfl, fun _ member => absurd member List.not_mem_nil⟩
  · split
    · exact ⟨rfl, fun _ member => absurd member List.not_mem_nil⟩
    · refine ⟨rfl, fun candidate member => ?_⟩
      rw [List.mem_singleton.mp member]
      rfl
  · split
    · exact ⟨rfl, fun _ member => absurd member List.not_mem_nil⟩
    · rename_i model found
      refine absurd ⟨?_, executor, ?_⟩ skips
      · simpa using disabled
      · rw [found]
        rfl

/-- The candidates of a step are made of its entries, in their order. -/
theorem stepCandidates_stepEntries (counter : Nat) :
    (∃ model, (stepCandidates config step counter).1 =
        (stepEntries config step counter).map fun entry => keyCandidate provider model entry.1) ∨
      (stepEntries config step counter = [] ∧
        ∀ candidate ∈ (stepCandidates config step counter).1, candidate.credentialId = none) := by
  unfold stepEntries
  rw [configured]
  by_cases takes : TakesKeys provider step
  · obtain ⟨enabled, api, hasModel⟩ := takes
    obtain ⟨model, found⟩ := Option.isSome_iff_exists.mp hasModel
    left
    refine ⟨model, ?_⟩
    rw [stepCandidates_of_takesKeys configured enabled api found]
    simp [TakesKeys, enabled, api, hasModel]
  · right
    exact ⟨by simp [takes], (stepCandidates_of_not_takesKeys configured takes counter).2⟩

/-- The first regular candidate of a step is its leading key's. -/
theorem leadingKey_eq_find (before : List RouteStep) (counter : Nat) :
    leadingKey config before step counter =
      (stepEntries config step (stepsCandidates config before counter).2).find? isRegular := by
  unfold leadingKey
  rcases stepCandidates_stepEntries configured (stepsCandidates config before counter).2 with
    ⟨model, isMap⟩ | ⟨none, -⟩
  · dsimp only
    rw [isMap, List.zip_map_left, List.zip, List.zipWith_self, List.map_map, List.find?_map,
      Option.map_map]
    exact Option.map_id'
  · dsimp only
    rw [none]
    simp

end Step

/-! ## The counter over builds of one route -/

/-- The step turns its provider's pool. -/
def turnsPool (config : GatewayConfig) (step : RouteStep) : Bool :=
  match config.providers.get? step.provider with
  | none => false
  | some provider => decide (TakesKeys provider step ∧ provider.keyPoolStrategy = .roundRobin)

/-- How far one build moves the counter on. -/
def poolTurns (config : GatewayConfig) (steps : List RouteStep) : Nat :=
  steps.countP (turnsPool config)

/-- The counter that a build of the route finds after so many builds of it. -/
def counterAfter (name : String) (config : GatewayConfig) (start : Nat) : Nat → Nat
  | 0 => start
  | builds + 1 => (buildCandidates name config (counterAfter name config start builds)).2

theorem orderKeys_counter (provider : ProviderConfig) (counter : Nat) :
    (orderKeys provider counter).2 =
      counter + if provider.keyPoolStrategy = .roundRobin then 1 else 0 := by
  unfold orderKeys
  cases provider.keyPoolStrategy with
  | roundRobin => rfl
  | priority => rfl
  | other _ => rfl

theorem stepCandidates_counter (config : GatewayConfig) (step : RouteStep) (counter : Nat) :
    (stepCandidates config step counter).2 =
      counter + if turnsPool config step = true then 1 else 0 := by
  cases configured : config.providers.get? step.provider with
  | none =>
      simp [stepCandidates, turnsPool, configured]
  | some provider =>
      unfold turnsPool
      rw [configured]
      by_cases takes : TakesKeys provider step
      · obtain ⟨enabled, api, hasModel⟩ := takes
        obtain ⟨model, found⟩ := Option.isSome_iff_exists.mp hasModel
        rw [stepCandidates_of_takesKeys configured enabled api found]
        show (orderKeys provider counter).2 = _
        simp [orderKeys_counter, TakesKeys, enabled, api, hasModel]
      · rw [(stepCandidates_of_not_takesKeys configured takes counter).1]
        simp [takes]

theorem stepsCandidates_counter (config : GatewayConfig) (steps : List RouteStep)
    (counter : Nat) :
    (stepsCandidates config steps counter).2 = counter + poolTurns config steps := by
  induction steps generalizing counter with
  | nil => rfl
  | cons step rest inductionHypothesis =>
      show (stepsCandidates config rest (stepCandidates config step counter).2).2 = _
      rw [inductionHypothesis, stepCandidates_counter, poolTurns, poolTurns, List.countP_cons]
      omega

theorem counterAfter_eq {name : String} {config : GatewayConfig} {route : RouteConfig}
    (routed : config.routes.get? name = some route) (start builds : Nat) :
    counterAfter name config start builds = start + builds * poolTurns config route.steps := by
  induction builds with
  | zero => rw [counterAfter, Nat.zero_mul, Nat.add_zero]
  | succ builds inductionHypothesis =>
      rw [counterAfter, inductionHypothesis]
      unfold buildCandidates
      rw [routed]
      show (stepsCandidates config route.steps _).2 = _
      rw [stepsCandidates_counter, Nat.succ_mul, Nat.add_assoc]

/-! ## Fairness -/

/-- From any counter, out of as many builds of the route as the pool has regular keys,
each of these leads the step in exactly one. -/
def LeadsInTurn (name : String) (config : GatewayConfig) (before : List RouteStep)
    (step : RouteStep) (provider : ProviderConfig) : Prop :=
  ∀ start, ∀ entry ∈ provider.keys.zipIdx, isRegular entry = true →
    ∃! build, build < regularKeys provider ∧
      leadingKey config before step (counterAfter name config start build) = some entry

/-- On the circle of the sorted pool, the regular keys repeat with a distance. -/
def RegularRepeats (provider : ProviderConfig) (distance : Nat) : Prop :=
  ∀ place, PassesAt (sortedPool provider) isRegular (place + distance) ↔
    PassesAt (sortedPool provider) isRegular place

section Fairness

variable {name : String} {config : GatewayConfig} {route : RouteConfig}
  {before after : List RouteStep} {step : RouteStep} {provider : ProviderConfig}

/-- The leading key has the turn of the counter that the step reaches. -/
theorem leadingKey_turn (configured : config.providers.get? step.provider = some provider)
    (roundRobin : provider.keyPoolStrategy = .roundRobin) (takes : TakesKeys provider step)
    (recurring : Recurring (PassesAt (sortedPool provider) isRegular) (sortedPool provider).length)
    (counter : Nat) :
    leadingKey config before step counter =
      (sortedPool provider)[recurring.turn (counter + poolTurns config before + 1)]? := by
  have entries : stepEntries config step (counter + poolTurns config before) =
      (sortedPool provider).rotate (counter + poolTurns config before + 1) := by
    unfold stepEntries
    rw [configured]
    show (if TakesKeys provider step then turnedPool provider _ else []) = _
    rw [if_pos takes, turnedPool, roundRobin]
  rw [leadingKey_eq_find configured, stepsCandidates_counter, entries, find_rotate recurring]

/-- The places of the sorted pool name its entries. -/
theorem getElem?_sortedPool_inj {place other : Nat} {entry : KeyConfig × Nat}
    (isEntry : (sortedPool provider)[place]? = some entry) :
    (sortedPool provider)[other]? = some entry ↔ other = place := by
  constructor
  · intro isOther
    have below : other < (sortedPool provider).length := (List.getElem?_eq_some_iff.mp isOther).1
    exact (List.getElem?_inj below (sortedPool_nodup provider)).mp (isOther.trans isEntry.symm)
  · rintro rfl
    exact isEntry

/-- The regular keys lead in turn exactly if the builds' stride is fair on the circle
of the pool. -/
theorem leadsInTurn_iff_fair (routed : config.routes.get? name = some route)
    (configured : config.providers.get? step.provider = some provider)
    (roundRobin : provider.keyPoolStrategy = .roundRobin) (takes : TakesKeys provider step)
    (recurring : Recurring (PassesAt (sortedPool provider) isRegular)
      (sortedPool provider).length) :
    LeadsInTurn name config before step provider ↔
      recurring.Fair (regularKeys provider) (poolTurns config route.steps) := by
  have leads : ∀ start build, leadingKey config before step
      (counterAfter name config start build) = (sortedPool provider)[recurring.turn
        (start + poolTurns config before + 1 + build * poolTurns config route.steps)]? := by
    intro start build
    rw [leadingKey_turn configured roundRobin takes recurring, counterAfter_eq routed]
    congr 2
    omega
  constructor
  · intro inTurn start place below isIn
    obtain ⟨entry, isEntry, regular⟩ := passesAt_iff.mp isIn
    rw [Nat.mod_eq_of_lt below] at isEntry
    have member : entry ∈ provider.keys.zipIdx :=
      (sortedPool_perm provider).mem_iff.mp (List.mem_of_getElem? isEntry)
    have length := recurring.positive
    obtain ⟨build, ⟨inRound, isLeading⟩, only⟩ := inTurn
      (start + ((sortedPool provider).length - 1) * (poolTurns config before + 1)) entry member
      regular
    have sameStart : ∀ build, recurring.turn (start + ((sortedPool provider).length - 1) *
        (poolTurns config before + 1) + poolTurns config before + 1 +
          build * poolTurns config route.steps) =
        recurring.turn (start + build * poolTurns config route.steps) := by
      intro build
      rw [← recurring.turn_add_mul (start + build * poolTurns config route.steps)
        (poolTurns config before + 1)]
      congr 1
      obtain ⟨less, isLess⟩ : ∃ less, (sortedPool provider).length = less + 1 :=
        ⟨(sortedPool provider).length - 1, by omega⟩
      rw [isLess, Nat.add_sub_cancel]
      ring
    refine ⟨build, ⟨inRound, ?_⟩, ?_⟩
    · rw [leads, sameStart, getElem?_sortedPool_inj isEntry] at isLeading
      exact isLeading
    · rintro other ⟨otherInRound, isTurn⟩
      apply only other
      refine ⟨otherInRound, ?_⟩
      rw [leads, sameStart, isTurn]
      exact isEntry
  · intro fair start entry member regular
    obtain ⟨place, below, isEntry⟩ :=
      List.getElem_of_mem ((sortedPool_perm provider).mem_iff.mpr member)
    have atPlace : (sortedPool provider)[place]? = some entry := by
      rw [List.getElem?_eq_getElem below, isEntry]
    have isIn : PassesAt (sortedPool provider) isRegular place := by
      rw [passesAt_iff, Nat.mod_eq_of_lt below]
      exact ⟨entry, atPlace, regular⟩
    obtain ⟨build, isTurn, only⟩ := fair (start + poolTurns config before + 1) place below isIn
    have sameLead : ∀ build, leadingKey config before step
        (counterAfter name config start build) = some entry ↔ recurring.turn
          (start + poolTurns config before + 1 + build * poolTurns config route.steps) = place := by
      intro build
      rw [leads, getElem?_sortedPool_inj atPlace]
    refine ⟨build, ⟨isTurn.1, (sameLead build).mpr isTurn.2⟩, ?_⟩
    rintro other ⟨inRound, isLeading⟩
    exact only other ⟨inRound, (sameLead other).mp isLeading⟩

end Fairness

/-- The regular keys of a round-robin step lead in turn exactly if the step takes its
keys, and there is one regular key only or the pool spreads them evenly, at the distance
that the turns of one build have in common with the pool's length. -/
theorem leadsInTurn_iff {name : String} {config : GatewayConfig}
    {before after : List RouteStep} {step : RouteStep} {provider : ProviderConfig}
    (routed : config.routes.get? name = some ⟨before ++ step :: after⟩)
    (configured : config.providers.get? step.provider = some provider)
    (roundRobin : provider.keyPoolStrategy = .roundRobin)
    (hasRegular : 1 ≤ regularKeys provider) :
    LeadsInTurn name config before step provider ↔
      TakesKeys provider step ∧
        (regularKeys provider = 1 ∨
          (provider.keys.length.gcd (poolTurns config (before ++ step :: after)) *
              regularKeys provider = provider.keys.length ∧
            RegularRepeats provider
              (provider.keys.length.gcd (poolTurns config (before ++ step :: after))))) := by
  rw [← countP_sortedPool] at hasRegular
  obtain ⟨entry, member, regular⟩ := List.countP_pos_iff.mp hasRegular
  by_cases takes : TakesKeys provider step
  · have recurring := recurring_passesAt member regular
    have fair := recurring.fair_iff (poolTurns config (before ++ step :: after))
    rw [count_passesAt, countP_sortedPool] at fair
    rw [leadsInTurn_iff_fair routed configured roundRobin takes recurring, fair,
      ← length_sortedPool]
    exact (and_iff_right takes).symm
  · apply iff_of_false
    · intro inTurn
      obtain ⟨build, ⟨-, isLeading⟩, -⟩ := inTurn 0 entry
        ((sortedPool_perm provider).mem_iff.mp member) regular
      rw [leadingKey_eq_find configured, stepEntries, configured] at isLeading
      simp [takes] at isLeading
    · exact fun condition => takes condition.1

/-! ## A pool with a reserve key -/

/-- A Gemini provider with the pool. -/
def geminiProvider (keys : List KeyConfig) : ProviderConfig where
  id := "gemini"
  type := .gemini
  models := [⟨"gemini-2.0-flash", ∅, true⟩]
  keys := keys
  keyPoolStrategy := .roundRobin

def geminiStep : RouteStep := ⟨"gemini", none⟩

/-- One route, of one step. -/
def geminiConfig (keys : List KeyConfig) : GatewayConfig where
  routes := UpsertTable.empty.upsert "gateway-vision" ⟨[geminiStep]⟩
  providers := UpsertTable.empty.upsert "gemini" (geminiProvider keys)
  idsMatch := idsMatch_single rfl

def geminiKeys : List KeyConfig :=
  [⟨"gemini-01", "GOOGLE_API_KEY_1", 100, false⟩, ⟨"gemini-02", "GOOGLE_API_KEY_2", 90, false⟩,
    ⟨"gemini-03", "GOOGLE_API_KEY_3", 80, false⟩, ⟨"gemini-04", "GOOGLE_API_KEY_4", 70, false⟩]

def geminiReserve : KeyConfig := ⟨"gemini-05", "GOOGLE_API_KEY_5", 60, true⟩

theorem regularRepeats_of_no_reserve {provider : ProviderConfig}
    (noReserve : ∀ key ∈ provider.keys, key.reserve = false) (distance : Nat) :
    RegularRepeats provider distance := by
  cases keys : provider.keys with
  | nil =>
      intro place
      have empty : sortedPool provider = [] := by simp [sortedPool, keys]
      simp [passesAt_iff, empty]
  | cons first rest =>
      have all : ∀ place, PassesAt (sortedPool provider) isRegular place := by
        intro place
        have below : place % (sortedPool provider).length < (sortedPool provider).length := by
          apply Nat.mod_lt
          rw [length_sortedPool, keys]
          exact Nat.succ_pos _
        refine passesAt_iff.mpr ⟨_, List.getElem?_eq_getElem below, ?_⟩
        have member := (sortedPool_perm provider).mem_iff.mp (List.getElem_mem below)
        rw [isRegular, noReserve _ (List.fst_mem_of_mem_zipIdx member)]
        rfl
      intro place
      exact iff_of_true (all _) (all _)

theorem leadsInTurn_iff_gemini :
    LeadsInTurn "gateway-vision" (geminiConfig geminiKeys) [] geminiStep
      (geminiProvider geminiKeys) :=
  (leadsInTurn_iff (show (geminiConfig geminiKeys).routes.get? "gateway-vision" =
      some ⟨[] ++ geminiStep :: []⟩ from rfl) rfl rfl (by decide)).mpr
    ⟨by decide, Or.inr ⟨by decide, regularRepeats_of_no_reserve (by decide) _⟩⟩

/-- With a reserve key at the end of the pool, a round of four builds may leave the
fourth key out. -/
theorem reserve_breaks_turns :
    (geminiConfig (geminiKeys ++ [geminiReserve])).routes.get? "gateway-vision" =
        some ⟨[] ++ geminiStep :: []⟩ ∧
      (geminiConfig (geminiKeys ++ [geminiReserve])).providers.get? geminiStep.provider =
        some (geminiProvider (geminiKeys ++ [geminiReserve])) ∧
      regularKeys (geminiProvider (geminiKeys ++ [geminiReserve])) = 4 ∧
      ¬ LeadsInTurn "gateway-vision" (geminiConfig (geminiKeys ++ [geminiReserve])) []
        geminiStep (geminiProvider (geminiKeys ++ [geminiReserve])) := by
  refine ⟨rfl, rfl, rfl, ?_⟩
  intro inTurn
  obtain ⟨build, ⟨inRound, isLeading⟩, -⟩ := inTurn 3
    (⟨"gemini-04", "GOOGLE_API_KEY_4", 70, false⟩, 3) (by decide) rfl
  have never : ∀ build < 4, leadingKey (geminiConfig (geminiKeys ++ [geminiReserve])) []
      geminiStep (counterAfter "gateway-vision" (geminiConfig (geminiKeys ++ [geminiReserve]))
        3 build) ≠ some (⟨"gemini-04", "GOOGLE_API_KEY_4", 70, false⟩, 3) := by
    decide +kernel
  exact never build inRound isLeading

end AutoRouteGateway.Routing

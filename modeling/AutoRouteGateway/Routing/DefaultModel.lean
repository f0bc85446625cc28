import AutoRouteGateway.Config.Written
import AutoRouteGateway.Routing.CandidateBuilder

/-!
Contract: which model a route step stands for that names none.

The reader makes the first model of a provider its default unless the document
says otherwise, and the provider looks for the first default. A later model that
is declared default is therefore found only if the first one is declared none.

Owns: the position of that model in the document, and that every candidate of
such a step carries it.
-/

namespace AutoRouteGateway.Routing

open AutoRouteGateway.Config
open AutoRouteGateway.Domain
open AutoRouteGateway.Runtime

/-- What the entry of a model says of being the default. -/
def declaresDefault : Json → Option Bool
  | .dict fields => (Dict.get? "default" fields).map Json.truthy
  | _ => none

/-- The position of the default among the entries. -/
def defaultIndex : List Json → Nat
  | [] => 0
  | first :: rest =>
      if declaresDefault first = some false then
        match rest.findIdx? fun raw => declaresDefault raw = some true with
        | some later => later + 1
        | none => 0
      else 0

theorem default_of_modelOf {isFirst : Bool} {raw : Json} {model : ModelConfig}
    (read : modelOf isFirst raw = .ok model) :
    model.default = (declaresDefault raw).getD isFirst := by
  cases raw with
  | str id =>
      cases read
      rfl
  | dict fields =>
      unfold modelOf at read
      simp only [bind_eq_ok] at read
      obtain ⟨id, -, capabilities, -, text, -, isModel⟩ := read
      cases isModel
      cases found : Dict.get? "default" fields <;>
        simp [declaresDefault, flagOr, fieldOr, found, Json.truthy]
  | _ => cases read

theorem modelsFrom_cons {isFirst : Bool} {raw : Json} {rest : List Json}
    {models : List ModelConfig} (read : modelsFrom isFirst (raw :: rest) = .ok models) :
    ∃ model later, modelOf isFirst raw = .ok model ∧ modelsFrom false rest = .ok later ∧
      models = model :: later := by
  unfold modelsFrom at read
  simp only [bind_eq_ok] at read
  obtain ⟨model, isModel, later, isLater, whole⟩ := read
  cases whole
  exact ⟨model, later, isModel, isLater, rfl⟩

theorem length_modelsFrom {isFirst : Bool} {raws : List Json} {models : List ModelConfig}
    (read : modelsFrom isFirst raws = .ok models) : models.length = raws.length := by
  induction raws generalizing isFirst models with
  | nil =>
      cases read
      rfl
  | cons raw rest inductionHypothesis =>
      obtain ⟨model, later, -, isLater, rfl⟩ := modelsFrom_cons read
      rw [List.length_cons, List.length_cons, inductionHypothesis isLater]

/-- Past the first model, the defaults are the models declared so. -/
theorem find?_modelsFrom {raws : List Json} {models : List ModelConfig}
    (read : modelsFrom false raws = .ok models) :
    models.find? (·.default) =
      (raws.findIdx? fun raw => declaresDefault raw = some true).bind fun i => models[i]? := by
  induction raws generalizing models with
  | nil =>
      cases read
      rfl
  | cons raw rest inductionHypothesis =>
      obtain ⟨model, later, isModel, isLater, rfl⟩ := modelsFrom_cons read
      have own := default_of_modelOf isModel
      rw [List.find?_cons, List.findIdx?_cons, own, inductionHypothesis isLater]
      cases declared : declaresDefault raw with
      | none =>
          cases rest.findIdx? fun raw => declaresDefault raw = some true <;> simp
      | some value =>
          cases value with
          | true => simp
          | false => cases rest.findIdx? fun raw => declaresDefault raw = some true <;> simp

theorem defaultModel_of_modelsFrom {raws : List Json} {provider : ProviderConfig}
    (read : modelsFrom true raws = .ok provider.models) :
    provider.defaultModel = provider.models[defaultIndex raws]? := by
  unfold ProviderConfig.defaultModel
  cases raws with
  | nil =>
      have noModel : provider.models = [] := (Except.ok.inj read).symm
      rw [noModel]
      rfl
  | cons first rest =>
      obtain ⟨model, later, isModel, isLater, whole⟩ := modelsFrom_cons read
      have own := default_of_modelOf isModel
      rw [whole, List.find?_cons, own, find?_modelsFrom isLater, defaultIndex]
      cases declared : declaresDefault first with
      | none => simp
      | some value =>
          cases value with
          | true => simp
          | false =>
              cases search : rest.findIdx? fun raw => declaresDefault raw = some true with
              | none => simp
              | some index =>
                  obtain ⟨within, -⟩ := List.findIdx?_eq_some_iff_getElem.mp search
                  rw [← length_modelsFrom isLater] at within
                  simp [List.getElem?_eq_getElem within]

/-- A step that names no model stands for the model at this position of its
provider's document, and every candidate it contributes is for that model. -/
theorem unnamed_step_uses_default (ints : IntReader) {pid : String} {fields : Dict}
    {own : OwnProvider pid} (read : providerOf ints pid (.dict fields) = .ok own)
    {raws : List Json} (entries : listed "models" fields = .ok raws) {config : GatewayConfig}
    (configured : config.providers.get? pid = some own.config) (counter : Nat)
    {candidate : RouteCandidate}
    (member : candidate ∈ (stepCandidates config { provider := pid } counter).1) :
    ∃ model, own.config.models[defaultIndex raws]? = some model ∧
      candidate.concreteModel = concreteModel own.config model := by
  have models : modelsFrom true raws = .ok own.config.models := by
    unfold providerOf at read
    simp only [bind_eq_ok] at read
    obtain ⟨listing, isListing, models, isModels, keyListing, -, keys, -, type, -, baseUrl, -,
      policy, -, strategy, -, options, -, isOwn⟩ := read
    cases entries.symm.trans isListing
    cases isOwn
    exact isModels
  unfold stepCandidates at member
  rw [configured] at member
  dsimp only [ProviderConfig.model] at member
  rw [defaultModel_of_modelsFrom models] at member
  split_ifs at member with disabled codexOff executor
  · cases member
  · cases member
  · split at member
    · cases member
    · rename_i model found
      rw [List.mem_singleton.mp member]
      exact ⟨model, found, rfl⟩
  · split at member
    · cases member
    · rename_i model found
      obtain ⟨key, -, rfl⟩ := List.mem_map.mp member
      exact ⟨model, found, rfl⟩

/-- Two models, the second one declared default. -/
def declaredLater : List Json := [.str "a", .dict [("id", .str "b"), ("default", .bool true)]]

def declaredLaterProvider : OwnProvider "p" where
  config := {
    id := "p"
    type := .openaiCompatible
    baseUrl := some "u"
    models := [{ id := "a", default := true }, { id := "b", default := true }]
    keys := [{ id := "K", env := "K" }] }
  own := rfl
  named := ⟨rfl, rfl⟩

/-- The candidate is for the first model. -/
theorem first_model_used :
    ∃ model, declaredLaterProvider.config.models[defaultIndex declaredLater]? = some model ∧
      (keyCandidate declaredLaterProvider.config { id := "a", default := true }
        { id := "K", env := "K" }).concreteModel =
        concreteModel declaredLaterProvider.config model :=
  let ints : IntReader :=
    { read := fun
        | .int value => .ok value
        | .bool flag => .ok flag.toInt
        | other => .error (.mistyped other)
      read_int := fun _ => rfl }
  let fields : Dict := [("base_url", .str "u"), ("models", .list declaredLater),
    ("keys", .list [.str "K"])]
  let config : GatewayConfig :=
    { routes := .empty
      providers := Library.UpsertTable.empty.upsert "p" declaredLaterProvider.config
      idsMatch := idsMatch_single rfl }
  have read : providerOf ints "p" (.dict fields) = .ok declaredLaterProvider := rfl
  have configured : config.providers.get? "p" = some declaredLaterProvider.config := rfl
  unnamed_step_uses_default ints read rfl configured 0 List.mem_cons_self

end AutoRouteGateway.Routing

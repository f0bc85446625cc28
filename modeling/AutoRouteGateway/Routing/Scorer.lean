import AutoRouteGateway.Routing.Fallback

/-!
Contract: the order in which candidates are attempted.

Owns: scores, usability, and the stable partition into usable non-reserve,
usable reserve and unusable candidates.

Weights are kept in tenths and scores in hundredths, so they are exact
integers; the score orders nothing.
-/

namespace AutoRouteGateway.Routing

open AutoRouteGateway.Domain
open AutoRouteGateway.State

def healthScore : HealthState → Int
  | .healthy => 10
  | .unknown => 7
  | .degraded => 4
  | .down => -10

def quotaScore : QuotaState → Int
  | .available => 10
  | .unknown => 8
  | .low => 6
  | .rateLimited => 2
  | .exhausted => -10

def credentialScore : CredentialState → Int
  | .enabled => 10
  | .reserve => 9
  | .disabled => -10
  | .authError => -10

structure ScoredCandidate where
  candidate : RouteCandidate
  score : Int
  usable : Bool
  reason : String
deriving DecidableEq

section Scoring

variable {σ : Type}

/-- The states that are not the expected ones, in a fixed order. -/
def scoreReasons (health : HealthState) (quota : QuotaState) (credential : CredentialState) :
    List String :=
  (if health = .healthy then [] else ["health=" ++ health.value]) ++
    (if quota = .available ∨ quota = .unknown then [] else ["quota=" ++ quota.value]) ++
    (if credential = .enabled ∨ credential = .reserve then []
      else ["credential=" ++ credential.value])

def scoreCandidate (S : StateStore σ) (s : σ) (candidate : RouteCandidate) : ScoredCandidate :=
  let subj := subject candidate
  let health := S.getHealth s subj
  let quota := S.getQuota s subj
  let credential := S.getCredential s subj
  let hs := healthScore health
  let qs := quotaScore quota
  let cs := credentialScore credential
  let score := hs * 5 + qs * 3 + cs * 2
  let reasons := scoreReasons health quota credential
  { candidate := candidate
    score := if candidate.reserve then score - 50 else score
    usable := decide (0 ≤ hs ∧ 0 ≤ qs ∧ 0 ≤ cs)
    reason := if reasons = [] then "ok" else ",".intercalate reasons }

def scoreCandidates (S : StateStore σ) (s : σ) (candidates : List RouteCandidate) :
    List ScoredCandidate :=
  let scored := candidates.map (scoreCandidate S s)
  scored.filter (fun sc => sc.usable && !sc.candidate.reserve) ++
    scored.filter (fun sc => sc.usable && sc.candidate.reserve) ++
    scored.filter fun sc => !sc.usable

/-- Scoring neither adds nor drops a candidate. -/
theorem mem_scoreCandidates {S : StateStore σ} {s : σ} {candidates : List RouteCandidate}
    {sc : ScoredCandidate} :
    sc ∈ scoreCandidates S s candidates ↔
      ∃ candidate ∈ candidates, scoreCandidate S s candidate = sc := by
  unfold scoreCandidates
  simp only [List.mem_append, List.mem_filter, List.mem_map]
  constructor
  · intro member
    rcases member with (⟨found, -⟩ | ⟨found, -⟩) | ⟨found, -⟩ <;> exact found
  · intro found
    cases sc.usable <;> cases sc.candidate.reserve <;> simp [found]

/-- A candidate is usable unless one of its three states refuses it. -/
theorem usable_scoreCandidate_iff {S : StateStore σ} {s : σ} {candidate : RouteCandidate} :
    (scoreCandidate S s candidate).usable = true ↔
      S.getHealth s (subject candidate) ≠ .down ∧ S.getQuota s (subject candidate) ≠ .exhausted ∧
        ¬ (S.getCredential s (subject candidate) = .disabled ∨
          S.getCredential s (subject candidate) = .authError) := by
  have health : ∀ state, 0 ≤ healthScore state ↔ state ≠ .down := by
    intro state
    cases state <;> decide
  have quota : ∀ state, 0 ≤ quotaScore state ↔ state ≠ .exhausted := by
    intro state
    cases state <;> decide
  have credential : ∀ state, 0 ≤ credentialScore state ↔
      ¬ (state = .disabled ∨ state = .authError) := by
    intro state
    cases state <;> decide
  simp only [scoreCandidate, decide_eq_true_iff, health, quota, credential]

end Scoring

end AutoRouteGateway.Routing

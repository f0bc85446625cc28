import Mathlib.Tactic.SplitIfs
import AutoRouteGateway.Policy.ErrorClassifier

/-!
Contract: which quota signals of a body survive a 429.

The token tables are consulted before the status and decide whatever the status
is. The two late substring tests stand behind the test for 429, so what only
they see is a rate limit under that status.

Owns: the exact condition on a body under which a quota error stays one under a
429.
-/

namespace AutoRouteGateway.Policy

open AutoRouteGateway.Runtime

/-- A body that a table decides has its class under every status. -/
theorem classifyError_of_bodyClass {bodyText : String} {errorClass : ErrorClass}
    (decided : bodyClass (lower bodyText) = some errorClass) (status : Option Int) :
    classifyError status bodyText = errorClass := by
  simp only [classifyError, decided]

theorem classifyError_of_undecided {bodyText : String}
    (undecided : bodyClass (lower bodyText) = none) (status : Option Int) :
    classifyError status bodyText = statusClass (lower bodyText) status := by
  simp only [classifyError, undecided]

/-- Other than 402, a status makes a quota error only of the two late substrings. -/
theorem statusClass_eq_quota {text : String} {status : Option Int} (other : status ≠ some 402)
    (quota : statusClass text status = .quota) :
    containsAny ["insufficient", "quota"] text = true := by
  cases status with
  | none =>
      simp only [statusClass] at quota
      split_ifs at quota with signalled
      exact signalled
  | some status =>
      have not402 : status ≠ 402 := fun same => other (congrArg some same)
      simp only [statusClass] at quota
      split_ifs at quota with auth missing limited signalled
      exact signalled.resolve_left not402

/-- A quota error that some status other than 402 makes of the body stays one
under a 429 exactly when a token table decides the body, or neither late
substring is in it. -/
theorem quota_survives_429_iff (bodyText : String) :
    ((∃ status, status ≠ some 402 ∧ classifyError status bodyText = .quota) →
        classifyError (some 429) bodyText = .quota) ↔
      (bodyClass (lower bodyText)).isSome = true ∨
        containsAny ["insufficient", "quota"] (lower bodyText) = false := by
  cases decided : bodyClass (lower bodyText) with
  | some errorClass =>
      refine iff_of_true ?_ (Or.inl rfl)
      rintro ⟨status, -, quota⟩
      rw [classifyError_of_bodyClass decided] at quota ⊢
      exact quota
  | none =>
      have limited : classifyError (some 429) bodyText = .rateLimit := by
        rw [classifyError_of_undecided decided]
        rfl
      rw [limited]
      constructor
      · intro survives
        refine Or.inr (Bool.eq_false_iff.mpr ?_)
        intro signalled
        have quota : classifyError none bodyText = .quota := by
          rw [classifyError_of_undecided decided, statusClass, if_pos signalled]
        exact absurd (survives ⟨none, nofun, quota⟩) nofun
      · rintro (isSome | absent) ⟨status, other, quota⟩
        · cases isSome
        · rw [classifyError_of_undecided decided] at quota
          rw [statusClass_eq_quota other quota] at absent
          cases absent

/-- A body that mentions a quota in words of its own. -/
theorem quota_lost_under_429 :
    classifyError (some 400) "Monthly quota reached" = .quota ∧
      classifyError none "Monthly quota reached" = .quota ∧
      classifyError (some 429) "Monthly quota reached" = .rateLimit := by
  decide +kernel

end AutoRouteGateway.Policy

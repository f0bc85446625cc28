import Mathlib.Data.List.DropRight

/-!
Contract: trails whose entries are judged by what comes before them.

Owns: the audit of a trail against a rule, the entries since the last closing one,
and the exact effect of an extension by whole blocks, with its composition.
-/

namespace AutoRouteGateway.Library

section Audit

variable {α : Type*}

/-- Every entry obeys the rule about what comes before it. -/
def Audited (rule : List α → α → Prop) (trail : List α) : Prop :=
  ∀ earlier entry later, trail = earlier ++ entry :: later → rule earlier entry

/-- The entries since the last closing one. -/
def openPart (closes : α → Bool) (trail : List α) : List α :=
  trail.rtakeWhile fun entry => !closes entry

variable {rule : List α → α → Prop} {closes : α → Bool}

theorem audited_nil : Audited rule [] := by
  intro earlier entry later split
  exact absurd split.symm (List.append_ne_nil_of_right_ne_nil _ (List.cons_ne_nil _ _))

theorem audited_concat {trail : List α} {entry : α} :
    Audited rule (trail ++ [entry]) ↔ Audited rule trail ∧ rule trail entry := by
  constructor
  · intro audited
    constructor
    · intro earlier own later split
      apply audited earlier own (later ++ [entry])
      rw [split, List.append_assoc, List.cons_append]
    · exact audited trail entry [] rfl
  · rintro ⟨audited, obeys⟩ earlier own later split
    rcases List.eq_nil_or_concat later with rfl | ⟨front, last, rfl⟩
    · obtain ⟨rfl, same⟩ := List.append_inj' split rfl
      exact (List.cons.inj same).1 ▸ obeys
    · rw [List.concat_eq_append, ← List.cons_append, ← List.append_assoc] at split
      exact audited earlier own front (List.append_inj' split rfl).1

/-- Entries that the rule never objects to. -/
theorem audited_append_free {trail body : List α}
    (free : ∀ entry ∈ body, ∀ earlier, rule earlier entry) :
    Audited rule (trail ++ body) ↔ Audited rule trail := by
  induction body using List.reverseRecOn with
  | nil => rw [List.append_nil]
  | append_singleton body entry inductionHypothesis =>
      have own : rule (trail ++ body) entry := free entry (by simp) _
      rw [← List.append_assoc, audited_concat, and_iff_left own]
      exact inductionHypothesis fun other member => free other (List.mem_append_left _ member)

@[simp] theorem openPart_nil : openPart closes [] = [] := rfl

theorem openPart_concat_closing {trail : List α} {entry : α} (closing : closes entry = true) :
    openPart closes (trail ++ [entry]) = [] :=
  List.rtakeWhile_concat_neg _ _ _ (by simp [closing])

theorem openPart_append {trail body : List α} (stays : ∀ entry ∈ body, closes entry = false) :
    openPart closes (trail ++ body) = openPart closes trail ++ body := by
  induction body using List.reverseRecOn with
  | nil => rw [List.append_nil, List.append_nil]
  | append_singleton body entry inductionHypothesis =>
      have own : (!closes entry) = true := by simp [stays entry (by simp)]
      have front := inductionHypothesis fun other member =>
        stays other (List.mem_append_left _ member)
      unfold openPart at front ⊢
      rw [← List.append_assoc, List.rtakeWhile_concat_pos (fun other => !closes other) _ _ own,
        front, List.append_assoc]

/-- From a trail without an open part to a longer one without an open part, which
passes the audit exactly if the first one does and the condition holds. -/
structure Extends (rule : List α → α → Prop) (closes : α → Bool) (condition : Prop)
    (before after : List α) : Prop where
  closed : openPart closes before = [] → openPart closes after = []
  audited : openPart closes before = [] →
    (Audited rule after ↔ Audited rule before ∧ condition)

theorem Extends.refl (trail : List α) : Extends rule closes True trail trail where
  closed := id
  audited := fun _ => (and_iff_left trivial).symm

theorem Extends.trans {left right : Prop} {first second third : List α}
    (isLeft : Extends rule closes left first second)
    (isRight : Extends rule closes right second third) :
    Extends rule closes (left ∧ right) first third where
  closed := fun start => isRight.closed (isLeft.closed start)
  audited := by
    intro start
    rw [isRight.audited (isLeft.closed start), isLeft.audited start, and_assoc]

theorem Extends.of_iff {condition other : Prop} {before after : List α} (same : condition ↔ other)
    (own : Extends rule closes condition before after) :
    Extends rule closes other before after where
  closed := own.closed
  audited := fun start => (own.audited start).trans (and_congr_right fun _ => same)

/-- A block: entries the rule never objects to, and a closing one. -/
theorem Extends.block {before body : List α} {entry : α} {condition : Prop}
    (free : ∀ other ∈ body, ∀ earlier, rule earlier other)
    (stays : ∀ other ∈ body, closes other = false) (closing : closes entry = true)
    (judged : ∀ trail, openPart closes trail = body → (rule trail entry ↔ condition)) :
    Extends rule closes condition before (before ++ body ++ [entry]) where
  closed := fun _ => openPart_concat_closing closing
  audited := by
    intro start
    have own : openPart closes (before ++ body) = body := by
      rw [openPart_append stays, start, List.nil_append]
    rw [audited_concat, audited_append_free free, judged _ own]

end Audit

end AutoRouteGateway.Library

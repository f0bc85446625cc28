import Mathlib.Order.WithBot

/-!
Contract: blocking horizons over a linear order of instants.

Something that is out of service until an instant, for ever, or not at all has
a horizon in `WithBot (WithTop τ)`: `⊥` for never out, an instant `d` for out
strictly before `d`, and `⊤` for out for ever. Being out at `u` is `u < h`, the
horizon of a conjunction of requirements is the supremum, and statements about
windows of time become comparisons of horizons.

Owns: the comparison laws.

Does not own: what sets a horizon.
-/

namespace AutoRouteGateway.Library

universe u

/-- Out of service strictly before this point. -/
abbrev Horizon (τ : Type u) := WithBot (WithTop τ)

namespace Horizon

variable {τ : Type u}

/-- Out of service until `d`. -/
def upTo (d : τ) : Horizon τ := ((d : WithTop τ) : WithBot (WithTop τ))

/-- Out until the deadline, or not out when there is none. -/
def ofDeadline : Option τ → Horizon τ
  | none => ⊥
  | some d => upTo d

variable [LinearOrder τ]

/-- Out of service at `u`. -/
def Blocks (h : Horizon τ) (u : τ) : Prop := upTo u < h

@[simp] theorem upTo_lt_upTo {a b : τ} : upTo a < upTo b ↔ a < b := by
  simp [upTo]

@[simp] theorem upTo_le_upTo {a b : τ} : upTo a ≤ upTo b ↔ a ≤ b := by
  simp [upTo]

theorem upTo_max (a b : τ) : upTo (max a b) = upTo a ⊔ upTo b := by
  rcases le_total a b with before | after
  · rw [max_eq_right before, sup_eq_right.mpr (upTo_le_upTo.mpr before)]
  · rw [max_eq_left after, sup_eq_left.mpr (upTo_le_upTo.mpr after)]

@[simp] theorem upTo_lt_top (a : τ) : upTo a < ⊤ := by
  unfold upTo
  exact WithBot.coe_lt_coe.mpr (WithTop.coe_lt_top a)

@[simp] theorem not_blocks_bot (u : τ) : ¬ Blocks ⊥ u := not_lt_bot

@[simp] theorem blocks_top (u : τ) : Blocks (⊤ : Horizon τ) u := upTo_lt_top u

@[simp] theorem blocks_upTo {d u : τ} : Blocks (upTo d) u ↔ u < d := upTo_lt_upTo

theorem blocks_sup {left right : Horizon τ} {u : τ} :
    Blocks (left ⊔ right) u ↔ Blocks left u ∨ Blocks right u := lt_sup_iff

theorem blocks_ofDeadline {deadline : Option τ} {u : τ} :
    Blocks (ofDeadline deadline) u ↔ ∃ d, deadline = some d ∧ u < d := by
  cases deadline <;> simp [ofDeadline]

/-- A horizon below `⊤` ends at or after any given instant. -/
theorem exists_not_blocks {h : Horizon τ} (finite : h ≠ ⊤) (start : τ) :
    ∃ u, start ≤ u ∧ ¬ Blocks h u ∧ (u = start ∨ upTo u = h) := by
  induction h using WithBot.recBotCoe with
  | bot => exact ⟨start, le_rfl, not_blocks_bot start, Or.inl rfl⟩
  | coe value =>
      induction value using WithTop.recTopCoe with
      | top => exact absurd rfl finite
      | coe d =>
          rcases le_total start d with before | after
          · exact ⟨d, before, lt_irrefl _, Or.inr rfl⟩
          · exact ⟨start, le_rfl, not_lt.mpr (upTo_le_upTo.mpr after), Or.inl rfl⟩

/-- Out at every instant from `start` on means out for ever. -/
theorem forall_ge_blocks_iff {h : Horizon τ} {start : τ} :
    (∀ u, start ≤ u → Blocks h u) ↔ h = ⊤ := by
  constructor
  · intro always
    by_contra finite
    obtain ⟨u, after, free, -⟩ := exists_not_blocks finite start
    exact free (always u after)
  · rintro rfl u -
    exact blocks_top u

/-- From `start` on, whatever `h` keeps out `h'` keeps out too, exactly when
`h` ends no later than `h'` or before `start`. -/
theorem forall_ge_blocks_imp_iff {h h' : Horizon τ} {start : τ} :
    (∀ u, start ≤ u → Blocks h u → Blocks h' u) ↔ h ≤ h' ⊔ upTo start := by
  constructor
  · intro implies
    by_contra fails
    rw [not_le, sup_lt_iff] at fails
    obtain ⟨shorter, alive⟩ := fails
    have finite : h' ≠ ⊤ := fun top => not_top_lt (top ▸ shorter)
    obtain ⟨u, after, free, edge⟩ := exists_not_blocks finite start
    refine free (implies u after ?_)
    rcases edge with rfl | equal
    · exact alive
    · change upTo u < h
      rw [equal]
      exact shorter
  · intro bound u after blocked
    rcases lt_sup_iff.mp (blocked.trans_le bound) with ok | late
    · exact ok
    · exact absurd (upTo_lt_upTo.mp late) (not_lt.mpr after)

end Horizon

end AutoRouteGateway.Library

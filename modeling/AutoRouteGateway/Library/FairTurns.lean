import Mathlib.Data.Int.GCD
import Mathlib.Data.List.Rotate
import Mathlib.Data.Nat.Count
import Mathlib.Data.Nat.ModEq
import Mathlib.Tactic.Ring

/-!
Contract: turns on a circle, and when a stride is fair to all who take part.

Some positions of a circle take part. The turn of a position goes to the first
one at or after it that takes part. Starting anywhere and moving on by a fixed
stride, as many moves as there are participants are fair if each of them has
exactly one of the turns.

Owns: participation that repeats with a period, turns, and the exact condition
on the stride: with more than one participant, the greatest common divisor of
the stride and the period is the distance of the participants, who are evenly
spread.
-/

namespace AutoRouteGateway.Library

/-- Participation on a circle of so many positions, not empty. -/
structure Recurring (takesPart : ℕ → Prop) (period : ℕ) : Prop where
  positive : 0 < period
  repeats : ∀ x, takesPart (x + period) ↔ takesPart x
  occurs : ∃ x, takesPart x

namespace Recurring

/-- What repeats with a distance repeats with its multiples. -/
theorem repeats_mul {takesPart : ℕ → Prop} {distance : ℕ}
    (repeats : ∀ x, takesPart (x + distance) ↔ takesPart x) (times x : ℕ) :
    takesPart (x + distance * times) ↔ takesPart x := by
  induction times with
  | zero => rfl
  | succ times inductionHypothesis =>
      rw [Nat.mul_succ, ← Nat.add_assoc, repeats, inductionHypothesis]

variable {takesPart : ℕ → Prop} [DecidablePred takesPart] {period : ℕ}
  (recurring : Recurring takesPart period)

include recurring

omit [DecidablePred takesPart] in
theorem exists_ge (x : ℕ) : ∃ y, x ≤ y ∧ takesPart y := by
  obtain ⟨own, isOwn⟩ := recurring.occurs
  refine ⟨own + period * x, ?_, (repeats_mul recurring.repeats x own).mpr isOwn⟩
  have far := Nat.le_mul_of_pos_left x recurring.positive
  omega

/-- The first position at or after `x` that takes part. -/
def next (x : ℕ) : ℕ := Nat.find (recurring.exists_ge x)

theorem le_next (x : ℕ) : x ≤ recurring.next x := (Nat.find_spec (recurring.exists_ge x)).1

theorem takesPart_next (x : ℕ) : takesPart (recurring.next x) :=
  (Nat.find_spec (recurring.exists_ge x)).2

theorem next_le {x y : ℕ} (after : x ≤ y) (isIn : takesPart y) : recurring.next x ≤ y :=
  Nat.find_le ⟨after, isIn⟩

theorem next_eq_self {x : ℕ} (isIn : takesPart x) : recurring.next x = x :=
  Nat.le_antisymm (recurring.next_le le_rfl isIn) (recurring.le_next x)

/-- Nobody takes part between a position and the next one. -/
theorem next_eq_of_le {x y : ℕ} (after : x ≤ y) (before : y ≤ recurring.next x) :
    recurring.next y = recurring.next x := by
  apply Nat.le_antisymm
  · exact recurring.next_le before (recurring.takesPart_next x)
  · exact recurring.next_le (after.trans (recurring.le_next y)) (recurring.takesPart_next y)

theorem next_add {distance : ℕ} (repeats : ∀ x, takesPart (x + distance) ↔ takesPart x)
    (x : ℕ) : recurring.next (x + distance) = recurring.next x + distance := by
  apply Nat.le_antisymm
  · apply recurring.next_le
    · exact Nat.add_le_add_right (recurring.le_next x) distance
    · exact (repeats _).mpr (recurring.takesPart_next x)
  · have late := recurring.le_next (x + distance)
    have shifted : recurring.next (x + distance) - distance + distance =
        recurring.next (x + distance) := by omega
    have isIn : takesPart (recurring.next (x + distance) - distance) := by
      rw [← repeats, shifted]
      exact recurring.takesPart_next _
    have early := recurring.next_le (show x ≤ recurring.next (x + distance) - distance by omega)
      isIn
    omega

/-- The participant whose turn the position is. -/
def turn (x : ℕ) : ℕ := recurring.next x % period

theorem turn_lt (x : ℕ) : recurring.turn x < period := Nat.mod_lt _ recurring.positive

omit [DecidablePred takesPart] in
theorem takesPart_mod (x : ℕ) : takesPart (x % period) ↔ takesPart x := by
  have split := Nat.mod_add_div x period
  have same := repeats_mul recurring.repeats (x / period) (x % period)
  rw [split] at same
  exact same.symm

theorem takesPart_turn (x : ℕ) : takesPart (recurring.turn x) :=
  (recurring.takesPart_mod _).mpr (recurring.takesPart_next x)

theorem turn_add_mul (x times : ℕ) : recurring.turn (x + period * times) = recurring.turn x := by
  rw [turn, recurring.next_add (repeats_mul recurring.repeats times), Nat.add_mul_mod_self_left,
    turn]

/-- Turns only depend on the place on the circle. -/
theorem turn_congr {x y : ℕ} (same : x ≡ y [MOD period]) :
    recurring.turn x = recurring.turn y := by
  have ofMod : ∀ z, recurring.turn z = recurring.turn (z % period) := by
    intro z
    have whole := recurring.turn_add_mul (z % period) (z / period)
    rwa [Nat.mod_add_div] at whole
  rw [ofMod x, ofMod y, show x % period = y % period from same]

/-! ## Fair strides -/

/-- From any start, each participant has exactly one of `count` turns. -/
def Fair (count stride : ℕ) : Prop :=
  ∀ start place, place < period → takesPart place →
    ∃! move, move < count ∧ recurring.turn (start + move * stride) = place

/-- From any start, no participant has two of `count` turns. -/
def Apart (count stride : ℕ) : Prop :=
  ∀ start move other, move < count → other < count →
    recurring.turn (start + move * stride) = recurring.turn (start + other * stride) →
      move = other

theorem apart_of_fair {count stride : ℕ} (fair : recurring.Fair count stride) :
    recurring.Apart count stride := by
  intro start move other below otherBelow same
  exact (fair start _ (recurring.turn_lt _) (recurring.takesPart_turn _)).unique
    ⟨below, same⟩ ⟨otherBelow, rfl⟩

/-- With one turn for each participant, nobody has two only if everybody has one. -/
theorem fair_of_apart {stride : ℕ}
    (apart : recurring.Apart (Nat.count takesPart period) stride) :
    recurring.Fair (Nat.count takesPart period) stride := by
  intro start place below isIn
  have intoParticipants : Set.MapsTo (fun move => recurring.turn (start + move * stride))
      (Finset.range (Nat.count takesPart period))
      ((Finset.range period).filter takesPart : Finset ℕ) := by
    intro move _
    rw [Finset.mem_coe, Finset.mem_filter, Finset.mem_range]
    exact ⟨recurring.turn_lt _, recurring.takesPart_turn _⟩
  have oneEach : Set.InjOn (fun move => recurring.turn (start + move * stride))
      (Finset.range (Nat.count takesPart period)) := by
    intro move inRange other otherInRange same
    rw [Finset.mem_coe, Finset.mem_range] at inRange otherInRange
    exact apart start move other inRange otherInRange same
  have everybody := Finset.surjOn_of_injOn_of_card_le _ intoParticipants oneEach
    (by rw [Finset.card_range, Nat.count_eq_card_filter_range])
  obtain ⟨move, inRange, isTurn⟩ := everybody
    (show place ∈ _ by
      rw [Finset.mem_coe, Finset.mem_filter, Finset.mem_range]
      exact ⟨below, isIn⟩)
  rw [Finset.mem_coe, Finset.mem_range] at inRange
  refine ⟨move, ⟨inRange, isTurn⟩, ?_⟩
  intro other otherTurn
  exact apart start other move otherTurn.1 inRange (otherTurn.2.trans isTurn.symm)

/-- Participants at a distance that divides the stride are passed one by one. -/
theorem apart_of_even {count stride : ℕ} (spread : period.gcd stride * count = period)
    (even : ∀ x, takesPart (x + period.gcd stride) ↔ takesPart x) :
    recurring.Apart count stride := by
  intro start move other below otherBelow same
  have moved : ∀ move, recurring.next (start + move * stride) =
      recurring.next start + move * stride := by
    intro move
    obtain ⟨steps, isSteps⟩ := Nat.gcd_dvd_right period stride
    have whole : move * stride = period.gcd stride * (move * steps) := by
      rw [Nat.mul_left_comm, ← isSteps]
    rw [whole]
    exact recurring.next_add (repeats_mul even _) start
  have sameMove : move * stride ≡ other * stride [MOD period] := by
    unfold turn at same
    rw [moved, moved] at same
    exact Nat.ModEq.add_left_cancel' _ same
  have sameCount := Nat.ModEq.cancel_right_div_gcd recurring.positive sameMove
  have isCount : period / period.gcd stride = count :=
    Nat.div_eq_of_eq_mul_right (Nat.gcd_pos_of_pos_left _ recurring.positive) spread.symm
  rw [isCount] at sameCount
  exact Nat.ModEq.eq_of_lt_of_lt sameCount below otherBelow

/-! ## What a fair stride must be -/

/-- After a round of turns, the round begins anew. -/
theorem turn_round {count stride : ℕ} (fair : recurring.Fair count stride) (start : ℕ) :
    recurring.turn (start + count * stride) = recurring.turn start := by
  obtain ⟨move, ⟨below, isTurn⟩, -⟩ := fair start _
    (recurring.turn_lt (start + count * stride)) (recurring.takesPart_turn _)
  cases move with
  | zero =>
      rw [Nat.zero_mul, Nat.add_zero] at isTurn
      exact isTurn.symm
  | succ move =>
      have onward : start + (move + 1) * stride = start + stride + move * stride := by ring
      have last : start + count * stride = start + stride + (count - 1) * stride := by
        obtain ⟨less, rfl⟩ : ∃ less, count = less + 1 := ⟨count - 1, by omega⟩
        rw [Nat.add_sub_cancel]
        ring
      rw [onward, last] at isTurn
      have same := recurring.apart_of_fair fair (start + stride) move (count - 1) (by omega)
        (by omega) isTurn
      omega

/-- With two turns that differ, some participant is followed by another one. -/
theorem exists_turn_ne {x y : ℕ} (differ : recurring.turn x ≠ recurring.turn y) :
    ∃ place, recurring.turn (place + 1) ≠ recurring.turn place := by
  by_contra allSame
  have constant : ∀ place, recurring.turn place = recurring.turn 0 := by
    intro place
    induction place with
    | zero => rfl
    | succ place inductionHypothesis =>
        by_contra other
        exact allSame ⟨place, fun same => other (same.trans inductionHypothesis)⟩
  exact differ ((constant x).trans (constant y).symm)

theorem takesPart_of_turn_ne {place : ℕ}
    (differ : recurring.turn (place + 1) ≠ recurring.turn place) : takesPart place := by
  by_contra isOut
  apply differ
  have late : place + 1 ≤ recurring.next place := by
    have notSelf : recurring.next place ≠ place := by
      intro self
      exact isOut (self ▸ recurring.takesPart_next place)
    have after := recurring.le_next place
    omega
  rw [turn, turn, recurring.next_eq_of_le (Nat.le_succ place) late]

/-- A distance that keeps all turns, where they differ, goes around the circle. -/
theorem period_dvd_of_turn_add {distance x y : ℕ}
    (keeps : ∀ place, recurring.turn (place + distance) = recurring.turn place)
    (differ : recurring.turn x ≠ recurring.turn y) : period ∣ distance := by
  obtain ⟨place, ownDiffer⟩ := recurring.exists_turn_ne differ
  have isIn := recurring.takesPart_of_turn_ne ownDiffer
  have movedDiffer : recurring.turn (place + distance + 1) ≠
      recurring.turn (place + distance) := by
    rw [Nat.add_right_comm, keeps, keeps]
    exact ownDiffer
  have movedIn := recurring.takesPart_of_turn_ne movedDiffer
  have sameTurn := keeps place
  unfold turn at sameTurn
  rw [recurring.next_eq_self isIn, recurring.next_eq_self movedIn] at sameTurn
  apply (Nat.modEq_zero_iff_dvd).mp
  apply Nat.ModEq.add_left_cancel' place
  exact sameTurn

/-- With a fair stride and two participants, a round is as often around the circle
as the stride needs. -/
theorem gcd_mul_of_fair {count stride : ℕ} (fair : recurring.Fair count stride)
    (many : 1 < count) : period.gcd stride * count = period := by
  have apart := recurring.apart_of_fair fair
  have differ : recurring.turn (0 + 0 * stride) ≠ recurring.turn (0 + 1 * stride) := by
    intro same
    have sameMove := apart 0 0 1 (by omega) many same
    omega
  have around : period ∣ count * stride :=
    recurring.period_dvd_of_turn_add (recurring.turn_round fair) differ
  have gcdPositive := Nat.gcd_pos_of_pos_left stride recurring.positive
  have gcdLe := Nat.gcd_le_left stride recurring.positive
  have roundDvd : period / period.gcd stride ∣ count := by
    have cancelled := Nat.ModEq.cancel_right_div_gcd recurring.positive
      (show count * stride ≡ 0 * stride [MOD period] by
        rw [Nat.zero_mul]
        exact (Nat.modEq_zero_iff_dvd).mpr around)
    exact (Nat.modEq_zero_iff_dvd).mp cancelled
  have roundLe := Nat.le_of_dvd (by omega) roundDvd
  have notShorter : ¬ period / period.gcd stride < count := by
    intro shorter
    obtain ⟨steps, isSteps⟩ := Nat.gcd_dvd_right period stride
    have back : period / period.gcd stride * stride = period * steps := by
      calc period / period.gcd stride * stride
          = period / period.gcd stride * (period.gcd stride * steps) := by rw [← isSteps]
        _ = period / period.gcd stride * period.gcd stride * steps := (Nat.mul_assoc _ _ _).symm
        _ = period * steps := by rw [Nat.div_mul_cancel (Nat.gcd_dvd_left period stride)]
    have again : recurring.turn (0 + period / period.gcd stride * stride) =
        recurring.turn (0 + 0 * stride) := by
      rw [back, recurring.turn_add_mul, Nat.zero_mul, Nat.add_zero]
    have zero := apart 0 _ 0 shorter (by omega) again
    have positive := Nat.div_pos gcdLe gcdPositive
    omega
  rw [show count = period / period.gcd stride by omega]
  exact Nat.mul_div_cancel' (Nat.gcd_dvd_left period stride)

omit [DecidablePred takesPart] in
/-- Some number of moves goes on by exactly the greatest common divisor. -/
theorem exists_move_gcd {count stride : ℕ} (spread : period.gcd stride * count = period)
    (many : 1 < count) :
    ∃ move, 0 < move ∧ move < count ∧ move * stride ≡ period.gcd stride [MOD period] := by
  have gcdPositive : 0 < period.gcd stride := Nat.gcd_pos_of_pos_left _ recurring.positive
  have gcdLt : period.gcd stride < period := by
    calc period.gcd stride = period.gcd stride * 1 := (Nat.mul_one _).symm
      _ < period.gcd stride * count := Nat.mul_lt_mul_of_pos_left many gcdPositive
      _ = period := spread
  have commonLt : stride.gcd period < period := by
    rw [Nat.gcd_comm]
    exact gcdLt
  obtain ⟨moves, -, isGcd⟩ := Nat.exists_mul_mod_eq_gcd commonLt
  have goesOn : moves * stride ≡ period.gcd stride [MOD period] := by
    show moves * stride % period = period.gcd stride % period
    rw [Nat.mul_comm, isGcd, Nat.gcd_comm, Nat.mod_eq_of_lt gcdLt]
  have round : count * stride ≡ 0 [MOD period] := by
    obtain ⟨steps, isSteps⟩ := Nat.gcd_dvd_right period stride
    apply (Nat.modEq_zero_iff_dvd).mpr
    refine ⟨steps, ?_⟩
    calc count * stride = count * (period.gcd stride * steps) := by rw [← isSteps]
      _ = period.gcd stride * count * steps := by ring
      _ = period * steps := by rw [spread]
  have reduced : moves % count * stride ≡ period.gcd stride [MOD period] := by
    apply Nat.ModEq.trans _ goesOn
    calc moves % count * stride
        ≡ moves % count * stride + 0 * (moves / count) [MOD period] := by
          rw [Nat.zero_mul, Nat.add_zero]
      _ ≡ moves % count * stride + count * stride * (moves / count) [MOD period] :=
          (Nat.ModEq.mul_right _ round.symm).add_left _
      _ = moves * stride := by
          conv_rhs => rw [← Nat.mod_add_div moves count]
          ring
  refine ⟨moves % count, ?_, Nat.mod_lt _ (by omega), reduced⟩
  apply Nat.pos_of_ne_zero
  intro isZero
  rw [isZero, Nat.zero_mul] at reduced
  have whole := Nat.le_of_dvd gcdPositive ((Nat.modEq_zero_iff_dvd).mp reduced.symm)
  omega

/-- With a fair stride, a participant has another one at the distance of the spread:
a gap there would be skipped from the first and no turn would reach whoever stands
between. -/
theorem takesPart_add_gcd {count stride : ℕ} (fair : recurring.Fair count stride)
    (many : 1 < count) {x : ℕ} (isIn : takesPart x) : takesPart (x + period.gcd stride) := by
  by_contra isGap
  have gcdLe := Nat.gcd_le_left stride recurring.positive
  obtain ⟨move, positive, below, goesOn⟩ := recurring.exists_move_gcd
    (recurring.gcd_mul_of_fair fair many) many
  have between : recurring.next (x + 1) < x + period.gcd stride := by
    by_contra late
    have notGap : recurring.next (x + 1) ≠ x + period.gcd stride := by
      intro same
      exact isGap (same ▸ recurring.takesPart_next (x + 1))
    have same : recurring.turn (x + 1 + move * stride) = recurring.turn (x + 1 + 0 * stride) := by
      rw [recurring.turn_congr (goesOn.add_left (x + 1)), Nat.zero_mul, Nat.add_zero, turn, turn,
        recurring.next_eq_of_le (show x + 1 ≤ x + 1 + period.gcd stride by omega) (by omega)]
    have zero := recurring.apart_of_fair fair (x + 1) move 0 below (by omega) same
    omega
  obtain ⟨reach, ⟨-, isReached⟩, -⟩ := fair x (recurring.turn (x + 1)) (recurring.turn_lt _)
    (recurring.takesPart_turn _)
  have after := recurring.le_next (x + 1)
  have sameMod : recurring.next (x + 1) ≡ recurring.next (x + reach * stride) [MOD period] :=
    isReached.symm
  have reached := recurring.le_next (x + reach * stride)
  have notEarlier : recurring.next (x + 1) ≤ recurring.next (x + reach * stride) := by
    by_contra earlier
    have whole := Nat.le_of_dvd (by omega)
      ((Nat.modEq_iff_dvd' (by omega)).mp sameMod.symm)
    omega
  obtain ⟨rounds, isRounds⟩ := (Nat.modEq_iff_dvd' notEarlier).mp sameMod
  have pastOwn : x + period * rounds < x + reach * stride := by
    by_contra behind
    have ownNext := recurring.next_le (show x + reach * stride ≤ x + period * rounds by omega)
      ((repeats_mul recurring.repeats rounds x).mpr isIn)
    omega
  have onGrid : period.gcd stride ∣ reach * stride - period * rounds :=
    Nat.dvd_sub ((Nat.gcd_dvd_right period stride).mul_left reach)
      ((Nat.gcd_dvd_left period stride).mul_right rounds)
  have far := Nat.le_of_dvd (by omega) onGrid
  omega

theorem even_of_fair {count stride : ℕ} (fair : recurring.Fair count stride)
    (many : 1 < count) (x : ℕ) : takesPart (x + period.gcd stride) ↔ takesPart x := by
  have forward : ∀ times y, takesPart y → takesPart (y + period.gcd stride * times) := by
    intro times
    induction times with
    | zero => exact fun y isIn => isIn
    | succ times inductionHypothesis =>
        intro y isIn
        rw [Nat.mul_succ, ← Nat.add_assoc]
        exact recurring.takesPart_add_gcd fair many (inductionHypothesis y isIn)
  constructor
  · intro isIn
    obtain ⟨less, rfl⟩ : ∃ less, count = less + 1 := ⟨count - 1, by omega⟩
    have around := forward less _ isIn
    have spread := recurring.gcd_mul_of_fair fair many
    rw [show x + period.gcd stride + period.gcd stride * less =
      x + period.gcd stride * (less + 1) by ring, spread, recurring.repeats] at around
    exact around
  · exact recurring.takesPart_add_gcd fair many

/-- A turn for each participant is fair exactly if there is one only, or they are
evenly spread at the distance by which the stride and the circle agree. -/
theorem fair_iff (stride : ℕ) :
    recurring.Fair (Nat.count takesPart period) stride ↔
      Nat.count takesPart period = 1 ∨
        (period.gcd stride * Nat.count takesPart period = period ∧
          ∀ x, takesPart (x + period.gcd stride) ↔ takesPart x) := by
  have someone : 0 < Nat.count takesPart period := by
    rw [Nat.count_eq_card_filter_range, Finset.card_pos]
    obtain ⟨own, isOwn⟩ := recurring.occurs
    refine ⟨own % period, ?_⟩
    rw [Finset.mem_filter, Finset.mem_range]
    exact ⟨Nat.mod_lt _ recurring.positive, (recurring.takesPart_mod own).mpr isOwn⟩
  constructor
  · intro fair
    by_cases single : Nat.count takesPart period = 1
    · exact Or.inl single
    · have many : 1 < Nat.count takesPart period := by omega
      exact Or.inr ⟨recurring.gcd_mul_of_fair fair many, recurring.even_of_fair fair many⟩
  · rintro (single | ⟨spread, even⟩)
    · apply recurring.fair_of_apart
      intro _ move other below otherBelow _
      omega
    · exact recurring.fair_of_apart (recurring.apart_of_even spread even)

end Recurring

/-! ## The first of a turned list -/

section Turned

variable {α : Type} (list : List α) (test : α → Bool)

/-- On the circle of a list's places, one whose element passes. -/
def PassesAt (x : ℕ) : Prop := (list[x % list.length]?).any test = true

instance : DecidablePred (PassesAt list test) := fun x =>
  inferInstanceAs (Decidable ((list[x % list.length]?).any test = true))

variable {list test}

theorem passesAt_iff {x : ℕ} :
    PassesAt list test x ↔ ∃ element, list[x % list.length]? = some element ∧ test element := by
  unfold PassesAt
  cases list[x % list.length]? with
  | none => simp
  | some element => simp

theorem recurring_passesAt {element : α} (member : element ∈ list)
    (passes : test element = true) : Recurring (PassesAt list test) list.length where
  positive := List.length_pos_of_mem member
  repeats x := by
    unfold PassesAt
    rw [Nat.add_mod_right]
  occurs := by
    obtain ⟨place, below, isElement⟩ := List.getElem_of_mem member
    refine ⟨place, passesAt_iff.mpr ⟨element, ?_, passes⟩⟩
    rw [Nat.mod_eq_of_lt below, List.getElem?_eq_getElem below, isElement]

theorem count_passesAt (list : List α) (test : α → Bool) :
    Nat.count (PassesAt list test) list.length = list.countP test := by
  have upTo : ∀ bound ≤ list.length,
      Nat.count (PassesAt list test) bound = (list.take bound).countP test := by
    intro bound
    induction bound with
    | zero => intro _; rfl
    | succ bound inductionHypothesis =>
        intro isBound
        have below : bound < list.length := by omega
        rw [Nat.count_succ, inductionHypothesis (by omega), List.take_succ_eq_append_getElem below,
          List.countP_append, List.countP_singleton]
        have same : PassesAt list test bound ↔ test list[bound] = true := by
          unfold PassesAt
          rw [Nat.mod_eq_of_lt below, List.getElem?_eq_getElem below, Option.any_some]
        rw [if_congr same rfl rfl]
  rw [upTo list.length le_rfl, List.take_length]

/-- The first that passes in a list turned by an offset has the turn of the offset. -/
theorem find_rotate (recurring : Recurring (PassesAt list test) list.length) (offset : ℕ) :
    (list.rotate offset).find? test = list[recurring.turn offset]? := by
  obtain ⟨element, isElement, passes⟩ := passesAt_iff.mp (recurring.takesPart_next offset)
  have late := recurring.le_next offset
  have early : recurring.next offset - offset < list.length := by
    have positive := recurring.positive
    by_contra far
    have isIn : PassesAt list test (recurring.next offset - list.length) := by
      rw [← recurring.repeats, Nat.sub_add_cancel (by omega)]
      exact recurring.takesPart_next offset
    have sooner := recurring.next_le (show offset ≤ recurring.next offset - list.length by omega)
      isIn
    omega
  have isTurn : list[recurring.turn offset]? = some element := isElement
  rw [isTurn, List.find?_eq_some_iff_getElem]
  refine ⟨passes, recurring.next offset - offset, by rwa [List.length_rotate], ?_, ?_⟩
  · apply Option.some.inj
    rw [← List.getElem?_eq_getElem, List.getElem?_rotate early, Nat.sub_add_cancel late, isElement]
  · intro place before
    rw [List.getElem_rotate]
    by_contra passesSooner
    have below : (place + offset) % list.length < list.length :=
      Nat.mod_lt _ recurring.positive
    have isIn : PassesAt list test (place + offset) := by
      rw [passesAt_iff]
      refine ⟨_, List.getElem?_eq_getElem below, ?_⟩
      simpa using passesSooner
    have sooner := recurring.next_le (show offset ≤ place + offset by omega) isIn
    omega

end Turned

end AutoRouteGateway.Library

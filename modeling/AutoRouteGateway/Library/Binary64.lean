import Mathlib.Algebra.Order.Field.Power
import Mathlib.Algebra.Order.Floor.Ring
import Mathlib.Data.Int.Log
import Mathlib.Data.Rat.Floor
import Mathlib.Tactic.FieldSimp
import Mathlib.Tactic.Linarith
import Mathlib.Tactic.NormNum
import Mathlib.Tactic.Positivity
import Mathlib.Tactic.Ring

/-!
Contract: binary floating point of 53 bits, and its shortest decimals.

A magnitude is a rational number that rounding leaves as it is. Rounding goes to
the nearest multiple of the unit in the last place, and to the even one of two.
Seventeen decimal digits are enough to come back to any magnitude, so there is a
shortest decimal that does.

Owns: rounding, the magnitudes, the search for the shortest decimal, and the
theorem that it reads back.

Does not own: signs, infinities, and any text.
-/

namespace AutoRouteGateway.Library

/-! ## Rounding to an integer -/

/-- The nearest integer, the even one of two. -/
def roundEven (x : ℚ) : ℤ :=
  if x - ⌊x⌋ < 1 / 2 then ⌊x⌋
  else if 1 / 2 < x - ⌊x⌋ then ⌊x⌋ + 1
  else if ⌊x⌋ % 2 = 0 then ⌊x⌋
  else ⌊x⌋ + 1

example : roundEven (5 / 2) = 2 ∧ roundEven (7 / 2) = 4 ∧ roundEven (8 / 3) = 3 := by
  decide +kernel

theorem abs_roundEven_sub_le (x : ℚ) : |(roundEven x : ℚ) - x| ≤ 1 / 2 := by
  have below := Int.floor_le x
  have above := Int.lt_floor_add_one x
  rw [abs_le]
  unfold roundEven
  split_ifs with down up even
  · constructor <;> linarith
  · push_cast
    constructor <;> linarith
  · constructor <;> linarith
  · push_cast
    constructor <;> linarith

/-- A number closer than one half to an integer is rounded to it. -/
theorem roundEven_eq {x : ℚ} {n : ℤ} (near : |x - n| < 1 / 2) : roundEven x = n := by
  have rounded := abs_le.mp (abs_roundEven_sub_le x)
  have bounds := abs_lt.mp near
  have above : (roundEven x : ℚ) < ((n + 1 : ℤ) : ℚ) := by
    push_cast
    linarith
  have below : ((n - 1 : ℤ) : ℚ) < (roundEven x : ℚ) := by
    push_cast
    linarith
  have above := Int.cast_lt.mp above
  have below := Int.cast_lt.mp below
  omega

theorem roundEven_intCast (n : ℤ) : roundEven (n : ℚ) = n := by
  apply roundEven_eq
  rw [sub_self, abs_zero]
  norm_num

theorem roundEven_le {x : ℚ} {n : ℤ} (below : x ≤ n) : roundEven x ≤ n := by
  have rounded := abs_le.mp (abs_roundEven_sub_le x)
  have bound : (roundEven x : ℚ) < ((n + 1 : ℤ) : ℚ) := by
    push_cast
    linarith
  exact Int.lt_add_one_iff.mp (Int.cast_lt.mp bound)

theorem roundEven_nonneg {x : ℚ} (nonneg : 0 ≤ x) : 0 ≤ roundEven x := by
  have rounded := abs_le.mp (abs_roundEven_sub_le x)
  have bound : ((-1 : ℤ) : ℚ) < (roundEven x : ℚ) := by
    push_cast
    linarith
  exact Int.add_one_le_of_lt (Int.cast_lt.mp bound)

/-! ## Rounding to a magnitude -/

/-- The exponent of the unit in the last place: 53 bits, and none below the
least magnitude. -/
def unitExponent (x : ℚ) : ℤ := max (-1074) (Int.log 2 x - 52)

def nearest (x : ℚ) : ℚ := roundEven (x / 2 ^ unitExponent x) * 2 ^ unitExponent x

/-- A multiple of a power of two. -/
def OnGrid (exponent : ℤ) (x : ℚ) : Prop := ∃ n : ℤ, x = n * 2 ^ exponent

theorem two_zpow_pos (exponent : ℤ) : (0 : ℚ) < 2 ^ exponent := zpow_pos (by norm_num) _

/-- A multiple of a power of two is one of every smaller power. -/
theorem OnGrid.mono {fine coarse : ℤ} {x : ℚ} (grid : OnGrid coarse x) (finer : fine ≤ coarse) :
    OnGrid fine x := by
  obtain ⟨n, rfl⟩ := grid
  obtain ⟨steps, isSteps⟩ := Int.eq_ofNat_of_zero_le (Int.sub_nonneg_of_le finer)
  refine ⟨n * 2 ^ steps, ?_⟩
  have split : coarse = steps + fine := by omega
  rw [split, zpow_add₀ (by norm_num), zpow_natCast]
  push_cast
  ring

theorem onGrid_nearest (x : ℚ) : OnGrid (unitExponent x) (nearest x) := ⟨_, rfl⟩

/-- A number on its own grid is left as it is. -/
theorem nearest_of_onGrid {x : ℚ} (grid : OnGrid (unitExponent x) x) : nearest x = x := by
  obtain ⟨n, isMultiple⟩ := grid
  have scaled : x / 2 ^ unitExponent x = n := by
    rw [div_eq_iff (two_zpow_pos _).ne', ← isMultiple]
  rw [nearest, scaled, roundEven_intCast, ← isMultiple]

theorem nearest_zero : nearest 0 = 0 := by
  rw [nearest, zero_div]
  have zero : roundEven 0 = 0 := roundEven_intCast 0
  rw [zero, Int.cast_zero, zero_mul]

theorem nearest_nonneg {x : ℚ} (nonneg : 0 ≤ x) : 0 ≤ nearest x := by
  have rounded := roundEven_nonneg (div_nonneg nonneg (two_zpow_pos (unitExponent x)).le)
  exact mul_nonneg (Int.cast_nonneg rounded) (two_zpow_pos _).le

theorem neg_1074_le_unitExponent (x : ℚ) : -1074 ≤ unitExponent x := le_max_left _ _

theorem lt_two_zpow (x : ℚ) : x < 2 ^ (unitExponent x + 53) := by
  have bound : x < 2 ^ (Int.log 2 x + 1) := Int.lt_zpow_succ_log_self (by norm_num) x
  refine bound.trans_le (zpow_le_zpow_right₀ (by norm_num) ?_)
  have := le_max_right (-1074) (Int.log 2 x - 52)
  unfold unitExponent
  omega

/-- Above the smallest unit, the unit is that of the binade. -/
theorem two_zpow_le_of_unitExponent {x : ℚ} (positive : 0 < x) {exponent : ℤ}
    (least : -1074 ≤ exponent) (larger : exponent < unitExponent x) :
    (2 : ℚ) ^ (exponent + 53) ≤ x := by
  have isLog : unitExponent x = Int.log 2 x - 52 := by
    rcases max_choice (-1074) (Int.log 2 x - 52) with smallest | own
    · have : unitExponent x = -1074 := smallest
      omega
    · exact own
  have bound : (2 : ℚ) ^ Int.log 2 x ≤ x := Int.zpow_log_le_self (by norm_num) positive
  refine (zpow_le_zpow_right₀ (by norm_num) ?_).trans bound
  omega

/-- What was rounded is not rounded again: where the next power of two is reached,
it is on the coarser grid as well. -/
theorem nearest_nearest {x : ℚ} (nonneg : 0 ≤ x) : nearest (nearest x) = nearest x := by
  rcases nonneg.eq_or_lt with zero | positive
  · rw [← zero, nearest_zero, nearest_zero]
  rcases (nearest_nonneg nonneg).eq_or_lt with zero | positive'
  · rw [← zero, nearest_zero]
  apply nearest_of_onGrid
  by_cases finer : unitExponent (nearest x) ≤ unitExponent x
  · exact (onGrid_nearest x).mono finer
  · rw [not_le] at finer
    have least := neg_1074_le_unitExponent x
    have atLeast := two_zpow_le_of_unitExponent positive' least finer
    have atMost : nearest x ≤ 2 ^ (unitExponent x + 53) := by
      have scaled : x / 2 ^ unitExponent x ≤ ((2 ^ 53 : ℤ) : ℚ) := by
        rw [div_le_iff₀ (two_zpow_pos _)]
        have bound := (lt_two_zpow x).le
        rw [add_comm, zpow_add₀ (by norm_num)] at bound
        exact_mod_cast bound
      have rounded := Int.cast_le (R := ℚ).mpr (roundEven_le scaled)
      rw [nearest, add_comm, zpow_add₀ (by norm_num)]
      apply mul_le_mul_of_nonneg_right _ (two_zpow_pos _).le
      exact_mod_cast rounded
    have isPower : nearest x = 2 ^ (unitExponent x + 53) := le_antisymm atMost atLeast
    have isUnit : unitExponent (nearest x) = unitExponent x + 1 := by
      have log : Int.log 2 ((2 : ℚ) ^ (unitExponent x + 53)) = unitExponent x + 53 :=
        Int.log_zpow (by norm_num) _
      have unit : unitExponent (nearest x) =
          max (-1074) (Int.log 2 ((2 : ℚ) ^ (unitExponent x + 53)) - 52) := by
        rw [unitExponent, isPower]
      rw [unit, log]
      omega
    refine ⟨2 ^ 52, ?_⟩
    rw [isUnit, isPower, show unitExponent x + 53 = 52 + (unitExponent x + 1) by ring,
      zpow_add₀ (by norm_num)]
    norm_cast

/-- Within half a unit of the seventeenth digit, rounding comes back. -/
theorem nearest_eq_of_near {x d : ℚ} (positive : 0 < d)
    (rounded : nearest x = x) (near : |d - x| ≤ x / (2 * 10 ^ 16)) : nearest d = x := by
  obtain ⟨above, below⟩ := abs_le.mp near
  have grid : OnGrid (unitExponent x) x := by
    have own := onGrid_nearest x
    rwa [rounded] at own
  have finer : unitExponent d ≤ unitExponent x := by
    by_contra coarser
    rw [not_le] at coarser
    have atLeast := two_zpow_le_of_unitExponent positive (neg_1074_le_unitExponent x) coarser
    have bound := lt_two_zpow x
    rw [add_comm, zpow_add₀ (by norm_num)] at atLeast bound
    obtain ⟨n, isMultiple⟩ := grid
    have unitPositive := two_zpow_pos (unitExponent x)
    generalize (2 : ℚ) ^ unitExponent x = unit at isMultiple bound atLeast unitPositive
    have below53 : n < 2 ^ 53 := by
      rw [isMultiple] at bound
      exact_mod_cast lt_of_mul_lt_mul_right bound unitPositive.le
    have multiple : (n : ℚ) ≤ ((2 ^ 53 - 1 : ℤ) : ℚ) := Int.cast_le.mpr (by omega)
    have atMost := mul_le_mul_of_nonneg_right multiple unitPositive.le
    rw [← isMultiple] at atMost
    norm_num at atMost atLeast below
    linarith
  obtain ⟨n, isMultiple⟩ := grid.mono finer
  have unitPositive := two_zpow_pos (unitExponent d)
  have bound := lt_two_zpow d
  rw [add_comm, zpow_add₀ (by norm_num)] at bound
  have isNear : |d / 2 ^ unitExponent d - n| < 1 / 2 := by
    generalize (2 : ℚ) ^ unitExponent d = unit at isMultiple bound unitPositive ⊢
    have difference : d / unit - n = (d - x) / unit := by
      rw [isMultiple]
      field_simp
    rw [difference, abs_div, abs_of_pos unitPositive, div_lt_iff₀ unitPositive]
    norm_num at bound above near
    linarith
  rw [nearest, roundEven_eq isNear, ← isMultiple]

/-! ## Shortest decimals -/

/-- A whole number of digits, and a power of ten. -/
structure Decimal where
  digits : ℕ
  exponent : ℤ

def Decimal.value (decimal : Decimal) : ℚ := decimal.digits * 10 ^ decimal.exponent

/-- The decimal without zeros at the end of its digits. -/
def Decimal.reduced (decimal : Decimal) : Decimal :=
  if ends : decimal.digits ≠ 0 ∧ decimal.digits % 10 = 0 then
    reduced ⟨decimal.digits / 10, decimal.exponent + 1⟩
  else decimal
termination_by decimal.digits
decreasing_by exact Nat.div_lt_self (Nat.pos_of_ne_zero ends.1) (by decide)

theorem Decimal.value_reduced (decimal : Decimal) : decimal.reduced.value = decimal.value := by
  fun_induction Decimal.reduced decimal with
  | case1 decimal ends inductionHypothesis =>
      rw [inductionHypothesis, value, value, zpow_add_one₀ (by norm_num)]
      have whole : decimal.digits = decimal.digits / 10 * 10 := by omega
      have cast : (decimal.digits : ℚ) = (decimal.digits / 10 : ℕ) * 10 := by
        exact_mod_cast congrArg (Nat.cast (R := ℚ)) whole
      rw [cast]
      ring
  | case2 decimal whole => rfl

theorem Decimal.reduced_digits_pos {decimal : Decimal} (positive : 0 < decimal.digits) :
    0 < decimal.reduced.digits := by
  fun_induction Decimal.reduced decimal with
  | case1 decimal ends inductionHypothesis =>
      apply inductionHypothesis
      dsimp only
      omega
  | case2 decimal whole => exact positive

/-- The two decimals of one digit and so many places next to a number, the nearer
one first, and the even one of two that are equally near. -/
def neighbours (x : ℚ) (places : ℕ) : List Decimal :=
  let scale := Int.log 10 x - places
  let near := roundEven (x / 10 ^ scale)
  [⟨near.toNat, scale⟩, ⟨(2 * ⌊x / 10 ^ scale⌋ + 1 - near).toNat, scale⟩]

/-- The shortest decimal that is rounded to the number, and of two the nearer. -/
def shortest (x : ℚ) : Decimal :=
  (((List.range 17).flatMap (neighbours x)).find? fun decimal =>
    nearest decimal.value = x).getD ⟨0, 0⟩

/-- The nearest decimal of seventeen digits. -/
def seventeen (x : ℚ) : Decimal :=
  ⟨(roundEven (x / 10 ^ (Int.log 10 x - 16))).toNat, Int.log 10 x - 16⟩

theorem abs_seventeen_sub_le {x : ℚ} (positive : 0 < x) :
    |(seventeen x).value - x| ≤ x / (2 * 10 ^ 16) := by
  have scalePositive : (0 : ℚ) < 10 ^ (Int.log 10 x - 16) := zpow_pos (by norm_num) _
  have scaleBound : (10 : ℚ) ^ (Int.log 10 x - 16) ≤ x / 10 ^ 16 := by
    rw [le_div_iff₀ (by norm_num)]
    have bound : (10 : ℚ) ^ Int.log 10 x ≤ x := Int.zpow_log_le_self (by norm_num) positive
    calc (10 : ℚ) ^ (Int.log 10 x - 16) * 10 ^ 16
        = 10 ^ Int.log 10 x := by
          rw [zpow_sub₀ (by norm_num)]
          norm_num
      _ ≤ x := bound
  unfold seventeen Decimal.value
  generalize (10 : ℚ) ^ (Int.log 10 x - 16) = scale at scalePositive scaleBound ⊢
  have rounded := roundEven_nonneg (div_nonneg positive.le scalePositive.le)
  have digits : (((roundEven (x / scale)).toNat : ℕ) : ℚ) = (roundEven (x / scale) : ℚ) := by
    exact_mod_cast congrArg (Int.cast (R := ℚ)) (Int.toNat_of_nonneg rounded)
  have near := abs_roundEven_sub_le (x / scale)
  have difference : (roundEven (x / scale) : ℚ) * scale - x =
      ((roundEven (x / scale) : ℚ) - x / scale) * scale := by
    field_simp
  dsimp only
  rw [digits, difference, abs_mul, abs_of_pos scalePositive]
  calc |(roundEven (x / scale) : ℚ) - x / scale| * scale
      ≤ 1 / 2 * scale := mul_le_mul_of_nonneg_right near scalePositive.le
    _ ≤ 1 / 2 * (x / 10 ^ 16) := by linarith
    _ = x / (2 * 10 ^ 16) := by ring

/-- Seventeen digits come back. -/
theorem nearest_seventeen {x : ℚ} (positive : 0 < x) (rounded : nearest x = x) :
    nearest (seventeen x).value = x := by
  have near := abs_seventeen_sub_le positive
  have bounds := abs_le.mp near
  apply nearest_eq_of_near _ rounded near
  norm_num at bounds
  linarith

/-- The shortest decimal comes back. -/
theorem nearest_shortest {x : ℚ} (positive : 0 < x) (rounded : nearest x = x) :
    nearest (shortest x).value = x := by
  have listed : seventeen x ∈ (List.range 17).flatMap (neighbours x) :=
    List.mem_flatMap.mpr ⟨16, List.mem_range.mpr (by omega), List.mem_cons_self⟩
  have found : (((List.range 17).flatMap (neighbours x)).find? fun decimal =>
      nearest decimal.value = x).isSome := by
    rw [List.find?_isSome]
    exact ⟨_, listed, by simpa using nearest_seventeen positive rounded⟩
  obtain ⟨decimal, isFound⟩ := Option.isSome_iff_exists.mp found
  rw [shortest, isFound, Option.getD_some]
  simpa using List.find?_some isFound

theorem shortest_digits_pos {x : ℚ} (positive : 0 < x) (rounded : nearest x = x) :
    0 < (shortest x).digits := by
  rw [Nat.pos_iff_ne_zero]
  intro zero
  have back := nearest_shortest positive rounded
  rw [Decimal.value, zero, Nat.cast_zero, zero_mul, nearest_zero] at back
  exact positive.ne back

/-! ## Magnitudes -/

/-- A finite magnitude. -/
structure Binary64 where
  value : ℚ
  nonneg : 0 ≤ value
  rounded : nearest value = value
  bounded : value < 2 ^ 1024

namespace Binary64

/-- The magnitude nearest to a number, if there is one. -/
def ofRat? (x : ℚ) (nonneg : 0 ≤ x) : Option Binary64 :=
  if bounded : nearest x < 2 ^ 1024 then
    some ⟨nearest x, nearest_nonneg nonneg, nearest_nearest nonneg, bounded⟩
  else none

theorem ofRat?_of_nearest {x : ℚ} (nonneg : 0 ≤ x) (magnitude : Binary64)
    (near : nearest x = magnitude.value) : ofRat? x nonneg = some magnitude := by
  have bounded : nearest x < 2 ^ 1024 := near ▸ magnitude.bounded
  obtain ⟨value, isNonneg, rounded, isBounded⟩ := magnitude
  have same : nearest x = value := near
  subst same
  exact dif_pos bounded

end Binary64

end AutoRouteGateway.Library

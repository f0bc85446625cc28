import AutoRouteGateway.Library.Binary64

/-!
Contract: floats, the numerals they are written as, and the numerals they are
read from.

Owns: the sign, infinities and NaN beside the finite magnitudes, `float` of a
numeral, `repr` of a float, and the theorem that the first undoes the second.

Does not own: where a numeral begins and ends in a text.
-/

namespace AutoRouteGateway.Runtime

open AutoRouteGateway.Library

/-! ## Numerals -/

/-- A number as it is written: the sign, the digits before and after the point,
and the exponent. -/
structure Numeral where
  negative : Bool
  whole : List Char
  fraction : List Char
  exponent : Option Int

namespace Numeral

/-- The number without its sign. -/
def magnitude (numeral : Numeral) : ℚ :=
  Nat.ofDigitChars 10 (numeral.whole ++ numeral.fraction) 0 *
    10 ^ (numeral.exponent.getD 0 - numeral.fraction.length)

theorem magnitude_nonneg (numeral : Numeral) : 0 ≤ numeral.magnitude :=
  mul_nonneg (Nat.cast_nonneg _) (zpow_nonneg (by norm_num) _)

/-- The digits of an exponent, two of them at least. -/
def exponentDigits (size : Nat) : List Char :=
  if size < 10 then '0' :: Nat.toDigits 10 size else Nat.toDigits 10 size

def exponentText : Option Int → List Char
  | none => []
  | some exponent =>
      'e' :: (if exponent < 0 then '-' else '+') :: exponentDigits exponent.natAbs

def fractionText (fraction : List Char) : List Char :=
  if fraction = [] then [] else '.' :: fraction

def text (numeral : Numeral) : List Char :=
  (if numeral.negative then ['-'] else []) ++ (numeral.whole ++
    (fractionText numeral.fraction ++ exponentText numeral.exponent))

/-- `0`, or digits that do not start with it, and digits after a point. -/
structure Plain (numeral : Numeral) : Prop where
  head : numeral.whole = ['0'] ∨ ∃ head tail, numeral.whole = head :: tail ∧ head ≠ '0'
  whole : ∀ char ∈ numeral.whole, char.isDigit = true
  fraction : ∀ char ∈ numeral.fraction, char.isDigit = true

/-- The numeral has a fraction or an exponent. -/
def IsFloat (numeral : Numeral) : Prop :=
  ¬ (numeral.fraction = [] ∧ numeral.exponent = none)

end Numeral

/-! ## Floats -/

inductive PyFloat where
  | nan
  | infinity (negative : Bool)
  | finite (negative : Bool) (magnitude : Binary64)

namespace PyFloat

def isZero : PyFloat → Bool
  | finite _ magnitude => decide (magnitude.value = 0)
  | _ => false

/-- `float(text)` of a numeral: the nearest magnitude, or else infinity. -/
def ofNumeral (numeral : Numeral) : PyFloat :=
  match Binary64.ofRat? numeral.magnitude numeral.magnitude_nonneg with
  | some magnitude => finite numeral.negative magnitude
  | none => infinity numeral.negative

/-- Digits with a point after so many of them: an exponent stands in for more
than sixteen digits before the point, and for more than three zeros after it. -/
def layOut (negative : Bool) (digits : List Char) (point : Int) : Numeral :=
  if -4 < point ∧ point ≤ 16 then
    if point ≤ 0 then ⟨negative, ['0'], List.replicate (-point).toNat '0' ++ digits, none⟩
    else if digits.length ≤ point.toNat then
      ⟨negative, digits ++ List.replicate (point.toNat - digits.length) '0', ['0'], none⟩
    else ⟨negative, digits.take point.toNat, digits.drop point.toNat, none⟩
  else ⟨negative, digits.take 1, digits.drop 1, some (point - 1)⟩

/-- The numeral of a finite float: its shortest decimal. -/
def numeral (negative : Bool) (magnitude : Binary64) : Numeral :=
  if magnitude.value = 0 then ⟨negative, ['0'], ['0'], none⟩
  else
    let decimal := (shortest magnitude.value).reduced
    let digits := Nat.toDigits 10 decimal.digits
    layOut negative digits (digits.length + decimal.exponent)

/-! ### Reading a written float -/

theorem negative_numeral (negative : Bool) (magnitude : Binary64) :
    (numeral negative magnitude).negative = negative := by
  unfold numeral layOut
  dsimp only
  split_ifs <;> rfl

theorem ofDigitChars_zeros (count : ℕ) (digits : List Char) :
    Nat.ofDigitChars 10 (List.replicate count '0' ++ digits) 0 = Nat.ofDigitChars 10 digits 0 := by
  rw [Nat.ofDigitChars_append, Nat.ofDigitChars_replicate_zero, Nat.mul_zero]

/-- Wherever the point stands, the number is that of the digits. -/
theorem magnitude_layOut (negative : Bool) {digits : List Char} (nonempty : digits ≠ [])
    (point : Int) : (layOut negative digits point).magnitude =
      Nat.ofDigitChars 10 digits 0 * 10 ^ (point - digits.length) := by
  have ten : (10 : ℚ) ≠ 0 := by norm_num
  have length := List.length_pos_iff.mpr nonempty
  unfold layOut Numeral.magnitude
  split_ifs with fixed small long
  · have zeros : ['0'] ++ (List.replicate (-point).toNat '0' ++ digits) =
        List.replicate ((-point).toNat + 1) '0' ++ digits := rfl
    dsimp only
    rw [zeros, ofDigitChars_zeros, Option.getD_none, List.length_append, List.length_replicate]
    congr 2
    omega
  · have zeros : digits ++ List.replicate (point.toNat - digits.length) '0' ++ ['0'] =
        digits ++ List.replicate (point.toNat - digits.length + 1) '0' := by
      rw [List.append_assoc, List.replicate_succ']
    have places : point - digits.length =
        ((point.toNat - digits.length + 1 : ℕ) : ℤ) + (0 - (['0'].length : ℤ)) := by
      rw [List.length_singleton]
      omega
    dsimp only
    rw [zeros, Nat.ofDigitChars_append, Nat.ofDigitChars_replicate_zero, Option.getD_none, places,
      zpow_add₀ ten, zpow_natCast]
    push_cast
    ring
  · dsimp only
    rw [List.take_append_drop, Option.getD_none, List.length_drop]
    congr 2
    omega
  · dsimp only
    rw [List.take_append_drop, Option.getD_some, List.length_drop]
    congr 2
    omega

/-- Reading the numeral of a float gives the float. -/
theorem ofNumeral_numeral (negative : Bool) (magnitude : Binary64) :
    ofNumeral (numeral negative magnitude) = .finite negative magnitude := by
  have near : nearest (numeral negative magnitude).magnitude = magnitude.value := by
    by_cases zero : magnitude.value = 0
    · have none : (numeral negative magnitude).magnitude = 0 := by
        rw [numeral, if_pos zero]
        exact zero_mul _
      rw [none, nearest_zero, zero]
    · have positive : 0 < magnitude.value := magnitude.nonneg.lt_of_ne' zero
      have value : (numeral negative magnitude).magnitude = (shortest magnitude.value).value := by
        rw [numeral, if_neg zero]
        dsimp only
        rw [magnitude_layOut _ Nat.toDigits_ne_nil, Nat.ofDigitChars_ten_toDigits,
          ← Decimal.value_reduced, Decimal.value, add_sub_cancel_left]
      rw [value]
      exact nearest_shortest positive magnitude.rounded
  rw [ofNumeral, Binary64.ofRat?_of_nearest _ magnitude near]
  dsimp only
  rw [negative_numeral]

/-! ### The shape of a written float -/

theorem digitChar_ne_zero : ∀ value < 10, 0 < value → value.digitChar ≠ '0' := by decide

theorem toDigits_head {value : Nat} (positive : 0 < value) :
    ∃ head tail, Nat.toDigits 10 value = head :: tail ∧ head ≠ '0' := by
  induction value using Nat.strong_induction_on with
  | _ value inductionHypothesis =>
      by_cases small : value < 10
      · exact ⟨value.digitChar, [], Nat.toDigits_of_lt_base small,
          digitChar_ne_zero value small positive⟩
      · obtain ⟨head, tail, digits, notZero⟩ :=
          inductionHypothesis (value / 10) (by omega) (by omega)
        refine ⟨head, tail ++ [(value % 10).digitChar], ?_, notZero⟩
        rw [Nat.toDigits_of_base_le (by omega) (by omega), digits, List.cons_append]

theorem isDigit_of_mem_replicate {count : Nat} :
    ∀ char ∈ List.replicate count '0', char.isDigit = true := by
  intro char member
  rw [List.eq_of_mem_replicate member]
  rfl

theorem isFloat_layOut (negative : Bool) {head : Char} {tail : List Char} (notZero : head ≠ '0')
    (isDigit : ∀ char ∈ head :: tail, char.isDigit = true) (point : Int) :
    (layOut negative (head :: tail) point).Plain ∧
      (layOut negative (head :: tail) point).IsFloat := by
  have zero : ∀ char ∈ ['0'], char.isDigit = true := List.forall_mem_singleton.mpr rfl
  unfold layOut Numeral.IsFloat
  split_ifs with fixed small long
  · refine ⟨⟨Or.inl rfl, zero,
      List.forall_mem_append.mpr ⟨isDigit_of_mem_replicate, isDigit⟩⟩, ?_⟩
    simp
  · refine ⟨⟨Or.inr ⟨head, _, List.cons_append, notZero⟩,
      List.forall_mem_append.mpr ⟨isDigit, isDigit_of_mem_replicate⟩, zero⟩, ?_⟩
    simp
  · obtain ⟨places, isPlaces⟩ : ∃ places, point.toNat = places + 1 :=
      ⟨point.toNat - 1, by omega⟩
    refine ⟨⟨Or.inr ⟨head, tail.take places, ?_, notZero⟩,
      fun char member => isDigit char (List.mem_of_mem_take member),
      fun char member => isDigit char (List.mem_of_mem_drop member)⟩, ?_⟩
    · rw [isPlaces, List.take_succ_cons]
    · rintro ⟨empty, -⟩
      exact long (List.drop_eq_nil_iff.mp empty)
  · refine ⟨⟨Or.inr ⟨head, [], rfl, notZero⟩,
      fun char member => isDigit char (List.mem_of_mem_take member),
      fun char member => isDigit char (List.mem_of_mem_drop member)⟩, ?_⟩
    simp

/-- A finite float is written with a point or an exponent. -/
theorem isFloat_numeral (negative : Bool) (magnitude : Binary64) :
    (numeral negative magnitude).Plain ∧ (numeral negative magnitude).IsFloat := by
  have zero : ∀ char ∈ ['0'], char.isDigit = true := List.forall_mem_singleton.mpr rfl
  unfold numeral
  split_ifs with isZero
  · refine ⟨⟨Or.inl rfl, zero, zero⟩, ?_⟩
    simp [Numeral.IsFloat]
  · have positive : 0 < magnitude.value := magnitude.nonneg.lt_of_ne' isZero
    have digits := Decimal.reduced_digits_pos (shortest_digits_pos positive magnitude.rounded)
    obtain ⟨head, tail, isDigits, notZero⟩ := toDigits_head digits
    dsimp only
    rw [isDigits]
    apply isFloat_layOut negative notZero
    rw [← isDigits]
    exact fun char member => Nat.isDigit_of_mem_toDigits (by omega) (by omega) member

end PyFloat

/-! ### Text -/

/-- `float.__repr__`. -/
def floatRepr : PyFloat → List Char
  | .nan => ['n', 'a', 'n']
  | .infinity true => ['-', 'i', 'n', 'f']
  | .infinity false => ['i', 'n', 'f']
  | .finite negative magnitude => (PyFloat.numeral negative magnitude).text

/-- The text `json.dumps` has for a float. -/
def floatText : PyFloat → List Char
  | .nan => ['N', 'a', 'N']
  | .infinity true => ['-', 'I', 'n', 'f', 'i', 'n', 'i', 't', 'y']
  | .infinity false => ['I', 'n', 'f', 'i', 'n', 'i', 't', 'y']
  | .finite negative magnitude => (PyFloat.numeral negative magnitude).text

end AutoRouteGateway.Runtime

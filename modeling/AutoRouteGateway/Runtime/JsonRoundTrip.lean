import Mathlib.Data.List.TakeDrop
import AutoRouteGateway.Runtime.JsonText

/-!
Owns the two laws between JSON texts and values: reading undoes writing, and
what is accepted is well formed.
-/

namespace AutoRouteGateway.Runtime

open AutoRouteGateway.Library

/-! ## Strings -/

theorem hexValue_hexDigit : ∀ value < 16, hexValue (hexDigit value) = some value := by decide

variable {lone : Option Char}

theorem readUnicode_control {code : Nat} (control : code < 32) (rest : List Char) :
    readUnicode lone ('0' :: '0' :: hexDigit (code / 16) :: hexDigit (code % 16) :: rest) =
      some (Char.ofNat code, rest) := by
  have high := hexValue_hexDigit (code / 16) (by omega)
  have low := hexValue_hexDigit (code % 16) (by omega)
  have zero : hexValue '0' = some 0 := rfl
  have whole : ((0 * 16 + 0) * 16 + code / 16) * 16 + code % 16 = code := by omega
  have digits : readHex4 ('0' :: '0' :: hexDigit (code / 16) :: hexDigit (code % 16) :: rest) =
      some (code, rest) := by
    simp only [readHex4, high, low, zero, whole]
  unfold readUnicode
  rw [digits]
  dsimp only
  rw [if_neg (by omega), if_neg (by omega)]

/-- One written character is read back in one step. -/
theorem readChars_escapeChar (char : Char) {fuel : Nat} {source chars rest : List Char}
    (read : readChars lone fuel source = some (chars, rest)) :
    readChars lone (fuel + 1) (escapeChar char ++ source) = some (char :: chars, rest) := by
  unfold escapeChar
  split_ifs with quote backslash newline return' tab backspace formFeed control
  · simp [readChars, readEscape, simpleEscape, read, quote]
  · simp [readChars, readEscape, simpleEscape, read, backslash]
  · simp [readChars, readEscape, simpleEscape, read, newline]
  · simp [readChars, readEscape, simpleEscape, read, return']
  · simp [readChars, readEscape, simpleEscape, read, tab]
  · simp [readChars, readEscape, simpleEscape, read, backspace]
  · simp [readChars, readEscape, simpleEscape, read, formFeed]
  · have own : Char.ofNat char.toNat = char := Char.ofNat_toNat char
    have unicode := @readUnicode_control lone _ control source
    rw [own] at unicode
    simp [readChars, readEscape, unicode, read]
  · simp [readChars, quote, backslash, control, read]

theorem readChars_escaped (chars rest : List Char) {fuel : Nat} (enough : chars.length < fuel) :
    readChars lone fuel (chars.flatMap escapeChar ++ '"' :: rest) = some (chars, rest) := by
  induction chars generalizing fuel with
  | nil =>
      obtain ⟨fuel, rfl⟩ := Nat.exists_eq_add_one_of_ne_zero (Nat.ne_of_gt enough)
      simp [readChars]
  | cons char chars inductionHypothesis =>
      obtain ⟨fuel, rfl⟩ :=
        Nat.exists_eq_add_one_of_ne_zero (Nat.ne_of_gt (Nat.zero_lt_of_lt enough))
      rw [List.flatMap_cons, List.append_assoc]
      apply readChars_escapeChar
      apply inductionHypothesis
      rw [List.length_cons] at enough
      omega

theorem length_le_length_flatMap_escapeChar (chars : List Char) :
    chars.length ≤ (chars.flatMap escapeChar).length := by
  induction chars with
  | nil => rfl
  | cons char chars inductionHypothesis =>
      have nonempty : 0 < (escapeChar char).length := by
        unfold escapeChar
        split_ifs <;> simp
      rw [List.flatMap_cons, List.length_append, List.length_cons]
      omega

/-- A written string is read back, with fuel for its text. -/
theorem readChars_stringText (text : String) (rest : List Char) (fuel : Nat)
    (enough : (stringText text).length ≤ fuel) :
    ∃ source, stringText text ++ rest = '"' :: source ∧
      readChars lone fuel source = some (text.toList, rest) := by
  refine ⟨text.toList.flatMap escapeChar ++ '"' :: rest, by simp [stringText], ?_⟩
  apply readChars_escaped
  have bound := length_le_length_flatMap_escapeChar text.toList
  simp only [stringText, List.length_cons, List.length_append, List.length_nil] at enough
  omega

/-! ## Numbers -/

/-- What may follow a value: the end, or a character that separates or closes. -/
def Stops (rest : List Char) : Prop :=
  ∀ char tail, rest = char :: tail → char = ',' ∨ char = ']' ∨ char = '}'

theorem stops_nil : Stops [] := by
  intro char tail same
  cases same

theorem stops_cons {char : Char} {tail : List Char}
    (stop : char = ',' ∨ char = ']' ∨ char = '}') : Stops (char :: tail) := by
  intro own ownTail same
  cases same
  exact stop

/-- Characters that no numeral goes on with after its digits. -/
def EndsDigits (rest : List Char) : Prop :=
  ∀ char tail, rest = char :: tail → char.isDigit = false ∧ char ≠ '.'

theorem Stops.endsDigits {rest : List Char} (stops : Stops rest) : EndsDigits rest := by
  intro char tail same
  rcases stops char tail same with rfl | rfl | rfl <;> decide

theorem takeWhile_digits {digits rest : List Char}
    (allDigits : ∀ char ∈ digits, char.isDigit = true)
    (noDigit : ∀ char tail, rest = char :: tail → char.isDigit = false) :
    (digits ++ rest).takeWhile Char.isDigit = digits ∧
      (digits ++ rest).dropWhile Char.isDigit = rest := by
  have ends : rest.takeWhile Char.isDigit = [] ∧ rest.dropWhile Char.isDigit = rest := by
    cases rest with
    | nil => exact ⟨rfl, rfl⟩
    | cons char tail => simp [noDigit char tail rfl]
  constructor
  · rw [List.takeWhile_append_of_pos allDigits, ends.1, List.append_nil]
  · rw [List.dropWhile_append_of_pos allDigits, ends.2]

namespace Numeral

/-! ### The exponent -/

theorem isDigit_of_mem_toDigits {value : Nat} :
    ∀ char ∈ Nat.toDigits 10 value, char.isDigit = true :=
  fun _ member => Nat.isDigit_of_mem_toDigits (by omega) (by omega) member

theorem exponentDigits_spec (size : Nat) :
    (∀ char ∈ exponentDigits size, char.isDigit = true) ∧ exponentDigits size ≠ [] ∧
      Nat.ofDigitChars 10 (exponentDigits size) 0 = size := by
  unfold exponentDigits
  split_ifs
  · refine ⟨List.forall_mem_cons.mpr ⟨rfl, isDigit_of_mem_toDigits⟩, List.cons_ne_nil _ _, ?_⟩
    rw [Nat.ofDigitChars_cons]
    exact Nat.ofDigitChars_ten_toDigits
  · exact ⟨isDigit_of_mem_toDigits, Nat.toDigits_ne_nil, Nat.ofDigitChars_ten_toDigits⟩

theorem endsDigits_exponentText (exponent : Option Int) {rest : List Char} (stops : Stops rest) :
    EndsDigits (exponentText exponent ++ rest) := by
  cases exponent with
  | none => exact stops.endsDigits
  | some exponent =>
      intro char tail same
      rw [← (List.cons.inj same).1]
      decide

theorem readExponent_exponentText (exponent : Option Int) {rest : List Char}
    (stops : Stops rest) : readExponent (exponentText exponent ++ rest) = (exponent, rest) := by
  cases exponent with
  | none =>
      cases rest with
      | nil => rfl
      | cons char tail =>
          have noExponent : ¬ (char = 'e' ∨ char = 'E') := by
            rcases stops char tail rfl with rfl | rfl | rfl <;> decide
          simp [exponentText, readExponent, noExponent]
  | some exponent =>
      obtain ⟨digits, nonempty, size⟩ := exponentDigits_spec exponent.natAbs
      obtain ⟨taken, dropped⟩ :=
        takeWhile_digits digits fun char tail same => (stops.endsDigits char tail same).1
      have sign : readExponentSign ((if exponent < 0 then '-' else '+') ::
          (exponentDigits exponent.natAbs ++ rest)) =
          (decide (exponent < 0), exponentDigits exponent.natAbs ++ rest) := by
        by_cases negative : exponent < 0 <;> simp [readExponentSign, negative]
      have own : (if decide (exponent < 0) = true then -(exponent.natAbs : Int)
          else exponent.natAbs) = exponent := by
        by_cases negative : exponent < 0
        · rw [if_pos (decide_eq_true negative)]
          omega
        · rw [if_neg (by simpa using negative)]
          omega
      rw [exponentText, List.cons_append, List.cons_append, readExponent]
      dsimp only
      rw [sign]
      dsimp only
      rw [taken, dropped, size, if_pos ⟨Or.inl rfl, nonempty⟩, own]

/-! ### The fraction and the whole part -/

theorem readFraction_fractionText {fraction : List Char}
    (digits : ∀ char ∈ fraction, char.isDigit = true) {rest : List Char}
    (ends : EndsDigits rest) :
    readFraction (fractionText fraction ++ rest) = (fraction, rest) := by
  unfold fractionText
  split_ifs with empty
  · subst empty
    cases rest with
    | nil => rfl
    | cons char tail => simp [readFraction, (ends char tail rfl).2]
  · obtain ⟨taken, dropped⟩ :=
      takeWhile_digits digits fun char tail same => (ends char tail same).1
    rw [List.cons_append, readFraction, taken, dropped, if_pos ⟨rfl, empty⟩]

theorem noDigit_fractionText (fraction : List Char) {rest : List Char} (ends : EndsDigits rest)
    (char : Char) (tail : List Char) (same : fractionText fraction ++ rest = char :: tail) :
    char.isDigit = false := by
  unfold fractionText at same
  split_ifs at same
  · exact (ends char tail same).1
  · rw [← (List.cons.inj same).1]
    decide

theorem Plain.readInteger {numeral : Numeral} (plain : numeral.Plain) {rest : List Char}
    (noDigit : ∀ char tail, rest = char :: tail → char.isDigit = false) :
    Runtime.readInteger (numeral.whole ++ rest) = some (numeral.whole, rest) := by
  rcases plain.head with zero | ⟨head, tail, isWhole, notZero⟩
  · rw [zero]
    rfl
  · have digits := plain.whole
    rw [isWhole, List.forall_mem_cons] at digits
    obtain ⟨taken, dropped⟩ := takeWhile_digits digits.2 noDigit
    rw [isWhole, List.cons_append, Runtime.readInteger, if_neg notZero, if_pos digits.1, taken,
      dropped]

/-! ### The numeral -/

theorem Plain.whole_head {numeral : Numeral} (plain : numeral.Plain) :
    ∃ head tail, numeral.whole = head :: tail ∧ head.isDigit = true := by
  have digits := plain.whole
  rcases plain.head with zero | ⟨head, tail, isWhole, -⟩
  · exact ⟨'0', [], zero, rfl⟩
  · rw [isWhole, List.forall_mem_cons] at digits
    exact ⟨head, tail, isWhole, digits.1⟩

/-- A numeral starts with a minus sign or a digit. -/
theorem Plain.text_head {numeral : Numeral} (plain : numeral.Plain) :
    ∃ head tail, numeral.text = head :: tail ∧ (head = '-' ∨ head.isDigit = true) := by
  obtain ⟨head, tail, isWhole, digit⟩ := plain.whole_head
  unfold text
  by_cases negative : numeral.negative = true
  · rw [if_pos negative]
    exact ⟨'-', _, rfl, Or.inl rfl⟩
  · rw [if_neg negative, isWhole]
    exact ⟨head, _, rfl, Or.inr digit⟩

theorem Plain.readSign {numeral : Numeral} (plain : numeral.Plain) (rest : List Char) :
    Runtime.readSign ((if numeral.negative then ['-'] else []) ++ (numeral.whole ++ rest)) =
      (numeral.negative, numeral.whole ++ rest) := by
  by_cases negative : numeral.negative = true
  · rw [if_pos negative, negative]
    rfl
  · obtain ⟨head, tail, isWhole, digit⟩ := plain.whole_head
    have noSign : head ≠ '-' := by
      rintro rfl
      exact absurd digit (by decide)
    rw [if_neg negative, isWhole, List.nil_append, List.cons_append, Runtime.readSign,
      if_neg noSign]
    simp [negative]

/-- A written numeral is read back. -/
theorem Plain.readNumeral {numeral : Numeral} (plain : numeral.Plain) {rest : List Char}
    (stops : Stops rest) : Runtime.readNumeral (numeral.text ++ rest) = some (numeral, rest) := by
  have ends := endsDigits_exponentText numeral.exponent stops
  have whole := plain.readInteger (noDigit_fractionText numeral.fraction ends)
  have parts : numeral.text ++ rest = (if numeral.negative then ['-'] else []) ++
      (numeral.whole ++ (fractionText numeral.fraction ++
        (exponentText numeral.exponent ++ rest))) := by
    simp only [text, List.append_assoc]
  rw [parts, Runtime.readNumeral]
  dsimp only
  rw [plain.readSign]
  dsimp only
  rw [whole]
  dsimp only
  rw [readFraction_fractionText plain.fraction ends,
    readExponent_exponentText numeral.exponent stops]

end Numeral

/-! ### Integers -/

/-- The numeral an integer is written as. -/
def intNumeral (value : Int) : Numeral :=
  ⟨decide (value < 0), Nat.toDigits 10 value.natAbs, [], none⟩

theorem plain_intNumeral (value : Int) : (intNumeral value).Plain where
  head := by
    rcases Nat.eq_zero_or_pos value.natAbs with zero | positive
    · exact Or.inl (by rw [intNumeral, zero]; rfl)
    · exact Or.inr (PyFloat.toDigits_head positive)
  whole := Numeral.isDigit_of_mem_toDigits
  fraction := List.forall_mem_nil _

theorem text_intNumeral (value : Int) : (intNumeral value).text = intText value := by
  unfold Numeral.text intNumeral intText
  by_cases negative : value < 0 <;>
    simp [negative, Numeral.fractionText, Numeral.exponentText]

theorem value_intNumeral {value : Int}
    (digits : (Nat.toDigits 10 value.natAbs).length ≤ digitLimit) :
    (intNumeral value).value = .ok (.int value) := by
  have size : Nat.ofDigitChars 10 (Nat.toDigits 10 value.natAbs) 0 = value.natAbs :=
    Nat.ofDigitChars_ten_toDigits
  have own : (if decide (value < 0) = true then -(value.natAbs : Int) else value.natAbs) =
      value := by
    by_cases negative : value < 0
    · rw [if_pos (decide_eq_true negative)]
      omega
    · rw [if_neg (by simpa using negative)]
      omega
  rw [Numeral.value, if_pos ⟨rfl, rfl⟩]
  unfold intNumeral
  dsimp only
  rw [if_neg (Nat.not_lt.mpr digits), size, own]

/-! ## Values -/

/-- The value is one that the interpreter reads and writes: the keys of an object
are distinct, no integer has too many digits, and values nest at most `depth`
times. -/
inductive Json.WellFormed : Nat → Json → Prop where
  | null {depth : Nat} : WellFormed depth .null
  | bool {depth : Nat} (value : Bool) : WellFormed depth (.bool value)
  | int {depth : Nat} {value : Int}
      (digits : (Nat.toDigits 10 value.natAbs).length ≤ digitLimit) :
      WellFormed depth (.int value)
  | float {depth : Nat} (value : PyFloat) : WellFormed depth (.float value)
  | str {depth : Nat} (text : String) : WellFormed depth (.str text)
  | list {depth : Nat} {items : List Json} (each : ∀ item ∈ items, WellFormed depth item) :
      WellFormed (depth + 1) (.list items)
  | dict {depth : Nat} {fields : Dict} (keys : (fields.map Prod.fst).Nodup)
      (each : ∀ field ∈ fields, WellFormed depth field.2) :
      WellFormed (depth + 1) (.dict fields)

theorem dictOf_eq_self {fields : Dict} (keys : (fields.map Prod.fst).Nodup) :
    dictOf fields = fields :=
  foldl_upsertRows_of_nodup keys

theorem skipSpace_cons {char : Char} (noSpace : isJsonSpace char = false) (rest : List Char) :
    skipSpace (char :: rest) = char :: rest := by
  simp [skipSpace, noSpace]

theorem skipSpace_space_cons {char : Char} (noSpace : isJsonSpace char = false)
    (rest : List Char) : skipSpace (' ' :: char :: rest) = char :: rest := by
  have space : isJsonSpace ' ' = true := rfl
  simp [skipSpace, noSpace, space]

@[simp] theorem afterWord_self (char : Char) (rest : List Char) :
    afterWord [char] (char :: rest) = some rest := by
  simp [afterWord]

theorem afterWord_of_ne {char other : Char} (different : char ≠ other) (rest : List Char) :
    afterWord [char] (other :: rest) = none := by
  simp [afterWord, different]

/-- The first character of a number: no string, list or object starts with it. -/
def IsNumberHead (head : Char) : Prop :=
  head = '-' ∨ head.isDigit = true ∨ head = 'N' ∨ head = 'I'

instance (head : Char) : Decidable (IsNumberHead head) :=
  inferInstanceAs (Decidable (_ ∨ _ ∨ _ ∨ _))

theorem IsNumberHead.starts {head : Char} (number : IsNumberHead head) :
    (isJsonSpace head = false ∧ ']' ≠ head) ∧ head ≠ '"' ∧ head ≠ '[' ∧ head ≠ '{' := by
  rcases number with rfl | digit | rfl | rfl
  · decide
  · have differs : ∀ other : Char, other.isDigit = false → head ≠ other := by
      rintro other noDigit rfl
      rw [digit] at noDigit
      cases noDigit
    refine ⟨⟨?_, (differs _ (by decide)).symm⟩, differs _ (by decide), differs _ (by decide),
      differs _ (by decide)⟩
    simp [isJsonSpace, differs ' ' (by decide), differs '\t' (by decide),
      differs '\n' (by decide), differs '\r' (by decide)]
  · decide
  · decide

theorem intText_head (value : Int) :
    ∃ head tail, intText value = head :: tail ∧ IsNumberHead head := by
  obtain ⟨head, tail, isText, start⟩ := (plain_intNumeral value).text_head
  rw [← text_intNumeral]
  exact ⟨head, tail, isText, start.imp_right Or.inl⟩

theorem floatText_head (value : PyFloat) :
    ∃ head tail, floatText value = head :: tail ∧ IsNumberHead head := by
  cases value with
  | nan => exact ⟨'N', _, rfl, by decide⟩
  | infinity negative =>
      cases negative with
      | true => exact ⟨'-', _, rfl, by decide⟩
      | false => exact ⟨'I', _, rfl, by decide⟩
  | finite negative magnitude =>
      obtain ⟨head, tail, isText, start⟩ :=
        (PyFloat.isFloat_numeral negative magnitude).1.text_head
      exact ⟨head, tail, isText, start.imp_right Or.inl⟩

/-- A written value starts with a character of its own. -/
theorem text_head (value : Json) :
    ∃ head tail, value.text = head :: tail ∧ isJsonSpace head = false ∧ ']' ≠ head := by
  cases value with
  | null => exact ⟨_, _, rfl, rfl, by decide⟩
  | bool value => cases value <;> exact ⟨_, _, rfl, rfl, by decide⟩
  | int value =>
      obtain ⟨head, tail, isText, number⟩ := intText_head value
      exact ⟨head, tail, isText, number.starts.1⟩
  | float value =>
      obtain ⟨head, tail, isText, number⟩ := floatText_head value
      exact ⟨head, tail, isText, number.starts.1⟩
  | str text => exact ⟨_, _, rfl, rfl, by decide⟩
  | list items => exact ⟨_, _, rfl, rfl, by decide⟩
  | dict fields => exact ⟨_, _, rfl, rfl, by decide⟩

/-- Reading undoes writing for this value, with fuel for its text. -/
def ReadsBack (lone : Option Char) (depth : Nat) (value : Json) : Prop :=
  ∀ fuel rest, 2 * value.text.length ≤ fuel → Stops rest →
    readValue lone fuel depth (value.text ++ rest) = .ok (value, rest)

variable {depth : Nat}

/-- A value is read back if it is as a number, and its text starts as a number does. -/
theorem readsBack_of_number {value : Json}
    (start : ∃ head tail, value.text = head :: tail ∧ IsNumberHead head)
    (read : ∀ rest, Stops rest → readScalar (value.text ++ rest) = .ok (value, rest)) :
    ReadsBack lone depth value := by
  obtain ⟨head, tail, isText, number⟩ := start
  obtain ⟨-, noQuote, noBracket, noBrace⟩ := number.starts
  intro fuel rest enough stops
  have isRead := read rest stops
  rw [isText, List.length_cons] at enough
  obtain ⟨fuel, rfl⟩ : ∃ less, fuel = less + 1 := ⟨fuel - 1, by omega⟩
  rw [isText, List.cons_append] at isRead ⊢
  cases depth <;> rw [readValue, if_neg noQuote, if_neg noBracket, if_neg noBrace, isRead]

theorem readScalar_numeral {numeral : Numeral} (plain : numeral.Plain) {value : Json}
    (isValue : numeral.value = .ok value) {rest : List Char} (stops : Stops rest) :
    readScalar (numeral.text ++ rest) = .ok (value, rest) := by
  rw [readScalar, plain.readNumeral stops]
  dsimp only
  rw [isValue]

theorem readsBack_int {value : Int}
    (digits : (Nat.toDigits 10 value.natAbs).length ≤ digitLimit) :
    ReadsBack lone depth (.int value) := by
  have start : ∃ head tail, (Json.int value).text = head :: tail ∧ IsNumberHead head :=
    intText_head value
  apply readsBack_of_number start
  intro rest stops
  change readScalar (intText value ++ rest) = _
  rw [← text_intNumeral]
  exact readScalar_numeral (plain_intNumeral value) (value_intNumeral digits) stops

theorem readsBack_float (value : PyFloat) : ReadsBack lone depth (.float value) := by
  have start : ∃ head tail, (Json.float value).text = head :: tail ∧ IsNumberHead head :=
    floatText_head value
  apply readsBack_of_number start
  intro rest stops
  cases value with
  | nan => rfl
  | infinity negative => cases negative <;> rfl
  | finite negative magnitude =>
      obtain ⟨plain, isFloat⟩ := PyFloat.isFloat_numeral negative magnitude
      apply readScalar_numeral plain _ stops
      rw [Numeral.value, if_neg isFloat, PyFloat.ofNumeral_numeral]

theorem readsBack_str (value : String) : ReadsBack lone depth (.str value) := by
  intro fuel rest enough _
  have long : 2 ≤ (stringText value).length := by
    simp [stringText]
  have bound : 2 * (stringText value).length ≤ fuel := enough
  obtain ⟨fuel, rfl⟩ : ∃ less, fuel = less + 1 := ⟨fuel - 1, by omega⟩
  obtain ⟨source, isSource, read⟩ := @readChars_stringText lone value rest fuel (by omega)
  change readValue lone (fuel + 1) depth (stringText value ++ rest) = _
  cases depth <;>
  · rw [isSource, readValue, if_pos rfl, read]
    simp

/-! ### Lists -/

theorem skipSpace_elementsText (value : Json) (rest : List Json) (after : List Char) :
    skipSpace (Json.elementsText (value :: rest) ++ after) =
        Json.elementsText (value :: rest) ++ after ∧
      skipSpace (' ' :: (Json.elementsText (value :: rest) ++ after)) =
        Json.elementsText (value :: rest) ++ after ∧
      afterWord [']'] (Json.elementsText (value :: rest) ++ after) = none := by
  obtain ⟨head, tail, isText, noSpace, noBracket⟩ := text_head value
  have starts : ∃ later, Json.elementsText (value :: rest) ++ after = head :: later := by
    cases rest with
    | nil => exact ⟨_, by rw [Json.elementsText, isText, List.cons_append, List.cons_append]⟩
    | cons next rest =>
        exact ⟨_, by rw [Json.elementsText, isText, List.cons_append, List.cons_append]⟩
  obtain ⟨later, isLater⟩ := starts
  rw [isLater]
  exact ⟨skipSpace_cons noSpace _, skipSpace_space_cons noSpace _, afterWord_of_ne noBracket _⟩

theorem readElements_elementsText {items : List Json} (nonempty : items ≠ [])
    (each : ∀ item ∈ items, ReadsBack lone depth item) (fuel : Nat) (rest : List Char)
    (enough : 2 * (Json.elementsText items).length + 1 ≤ fuel) :
    readElements lone fuel depth (Json.elementsText items ++ rest) = .ok (items, rest) := by
  induction items generalizing fuel with
  | nil => exact absurd rfl nonempty
  | cons value others inductionHypothesis =>
      rw [List.forall_mem_cons] at each
      obtain ⟨fuel, rfl⟩ : ∃ less, fuel = less + 1 := ⟨fuel - 1, by omega⟩
      cases others with
      | nil =>
          simp only [Json.elementsText, List.length_append, List.length_cons,
            List.length_nil] at enough
          have read := each.1 fuel (']' :: rest) (by omega) (stops_cons (by decide))
          have space : skipSpace (']' :: rest) = ']' :: rest := skipSpace_cons rfl rest
          simp only [Json.elementsText, List.append_assoc, List.cons_append, List.nil_append,
            readElements, read, space, afterWord_self]
      | cons next others =>
          rw [Json.elementsText, List.length_append, List.length_cons, List.length_cons] at enough
          have read := each.1 fuel (',' :: ' ' :: (Json.elementsText (next :: others) ++ rest))
            (by omega) (stops_cons (by decide))
          have later := inductionHypothesis (by simp) each.2 fuel (by omega)
          have comma : ∀ after, skipSpace (',' :: after) = ',' :: after := skipSpace_cons rfl
          have noBracket : ∀ after, afterWord [']'] (',' :: after) = none :=
            afterWord_of_ne (by decide)
          rw [Json.elementsText, List.append_assoc, List.cons_append, List.cons_append,
            readElements, read]
          dsimp only
          rw [comma, noBracket, afterWord_self]
          dsimp only
          rw [(skipSpace_elementsText next others rest).2.1, later]

theorem readsBack_list {items : List Json} (each : ∀ item ∈ items, ReadsBack lone depth item) :
    ReadsBack lone (depth + 1) (.list items) := by
  intro fuel rest enough _
  have bound : 2 * (('[' :: Json.elementsText items).length) ≤ fuel := enough
  rw [List.length_cons] at bound
  obtain ⟨fuel, rfl⟩ : ∃ less, fuel = less + 1 := ⟨fuel - 1, by omega⟩
  change readValue lone (fuel + 1) (depth + 1) ('[' :: (Json.elementsText items ++ rest)) = _
  rw [readValue, if_neg (by decide), if_pos rfl]
  cases items with
  | nil =>
      have space : skipSpace (']' :: rest) = ']' :: rest := skipSpace_cons rfl rest
      rw [Json.elementsText, List.cons_append, List.nil_append, space, afterWord_self]
  | cons value others =>
      obtain ⟨space, -, noBracket⟩ := skipSpace_elementsText value others rest
      rw [space, noBracket, readElements_elementsText (by simp) each fuel rest (by omega)]

/-! ### Objects -/

theorem skipSpace_membersText (field : String × Json) (rest : List (String × Json))
    (after : List Char) :
    skipSpace (Json.membersText (field :: rest) ++ after) =
        Json.membersText (field :: rest) ++ after ∧
      skipSpace (' ' :: (Json.membersText (field :: rest) ++ after)) =
        Json.membersText (field :: rest) ++ after ∧
      afterWord ['}'] (Json.membersText (field :: rest) ++ after) = none := by
  obtain ⟨name, value⟩ := field
  have starts : ∃ later, Json.membersText ((name, value) :: rest) ++ after = '"' :: later := by
    cases rest with
    | nil => exact ⟨_, by rw [Json.membersText, stringText, List.cons_append, List.cons_append]⟩
    | cons next rest =>
        exact ⟨_, by rw [Json.membersText, stringText, List.cons_append, List.cons_append]⟩
  obtain ⟨later, isLater⟩ := starts
  rw [isLater]
  exact ⟨skipSpace_cons rfl _, skipSpace_space_cons rfl _, afterWord_of_ne (by decide) _⟩

/-- One member up to the end of its value. -/
theorem readMembers_member (name : String) {value : Json} (back : ReadsBack lone depth value)
    (fuel : Nat) (after : List Char) (stops : Stops after)
    (enough : (stringText name).length ≤ fuel ∧ 2 * value.text.length ≤ fuel) :
    (afterWord ['"'] (stringText name ++ ':' :: ' ' :: (value.text ++ after))).bind
        (readChars lone fuel) = some (name.toList, ':' :: ' ' :: (value.text ++ after)) ∧
      afterWord [':'] (skipSpace (':' :: ' ' :: (value.text ++ after))) =
        some (' ' :: (value.text ++ after)) ∧
      readValue lone fuel depth (skipSpace (' ' :: (value.text ++ after))) =
        .ok (value, after) := by
  refine ⟨?_, ?_, ?_⟩
  · obtain ⟨source, isSource, read⟩ :=
      readChars_stringText name (':' :: ' ' :: (value.text ++ after)) fuel enough.1
    rw [isSource, afterWord_self, Option.bind_some, read]
  · rw [skipSpace_cons rfl, afterWord_self]
  · obtain ⟨head, tail, isText, noSpace, -⟩ := text_head value
    have space : skipSpace (' ' :: (value.text ++ after)) = value.text ++ after := by
      rw [isText]
      exact skipSpace_space_cons noSpace _
    rw [space, back fuel after enough.2 stops]

theorem readMembers_membersText {fields : List (String × Json)} (nonempty : fields ≠ [])
    (each : ∀ field ∈ fields, ReadsBack lone depth field.2) (fuel : Nat) (rest : List Char)
    (enough : 2 * (Json.membersText fields).length + 1 ≤ fuel) :
    readMembers lone fuel depth (Json.membersText fields ++ rest) = .ok (fields, rest) := by
  induction fields generalizing fuel with
  | nil => exact absurd rfl nonempty
  | cons field others inductionHypothesis =>
      obtain ⟨name, value⟩ := field
      rw [List.forall_mem_cons] at each
      have back : ReadsBack lone depth value := each.1
      obtain ⟨fuel, rfl⟩ : ∃ less, fuel = less + 1 := ⟨fuel - 1, by omega⟩
      have own : String.ofList name.toList = name := String.ofList_toList
      cases others with
      | nil =>
          simp only [Json.membersText, List.length_append, List.length_cons,
            List.length_nil] at enough
          obtain ⟨isName, isColon, isValue⟩ := readMembers_member name back fuel ('}' :: rest)
            (stops_cons (by decide)) ⟨by omega, by omega⟩
          have brace : skipSpace ('}' :: rest) = '}' :: rest := skipSpace_cons rfl rest
          simp only [Json.membersText, List.append_assoc, List.cons_append, List.nil_append,
            readMembers, isName, isColon, isValue, brace, afterWord_self, own]
      | cons next others =>
          rw [Json.membersText] at enough
          simp only [List.length_append, List.length_cons] at enough
          obtain ⟨isName, isColon, isValue⟩ := readMembers_member name back fuel
            (',' :: ' ' :: (Json.membersText (next :: others) ++ rest)) (stops_cons (by decide))
            ⟨by omega, by omega⟩
          have later := inductionHypothesis (by simp) each.2 fuel (by omega)
          have comma : ∀ after, skipSpace (',' :: after) = ',' :: after := skipSpace_cons rfl
          have noBrace : ∀ after, afterWord ['}'] (',' :: after) = none :=
            afterWord_of_ne (by decide)
          rw [Json.membersText]
          simp only [List.append_assoc, List.cons_append, readMembers, isName, isColon, isValue,
            comma, noBrace, afterWord_self, (skipSpace_membersText next others rest).2.1, later,
            own]

theorem readsBack_dict {fields : Dict} (keys : (fields.map Prod.fst).Nodup)
    (each : ∀ field ∈ fields, ReadsBack lone depth field.2) :
    ReadsBack lone (depth + 1) (.dict fields) := by
  intro fuel rest enough _
  have bound : 2 * (('{' :: Json.membersText fields).length) ≤ fuel := enough
  rw [List.length_cons] at bound
  obtain ⟨fuel, rfl⟩ : ∃ less, fuel = less + 1 := ⟨fuel - 1, by omega⟩
  change readValue lone (fuel + 1) (depth + 1) ('{' :: (Json.membersText fields ++ rest)) = _
  rw [readValue, if_neg (by decide), if_neg (by decide), if_pos rfl]
  cases fields with
  | nil =>
      have brace : skipSpace ('}' :: rest) = '}' :: rest := skipSpace_cons rfl rest
      rw [Json.membersText, List.cons_append, List.nil_append, brace, afterWord_self]
  | cons field others =>
      obtain ⟨space, -, noBrace⟩ := skipSpace_membersText field others rest
      rw [space, noBrace, readMembers_membersText (by simp) each fuel rest (by omega)]
      dsimp only
      rw [dictOf_eq_self keys]

theorem readsBack_of_wellFormed {value : Json} (wellFormed : value.WellFormed depth) :
    ReadsBack lone depth value := by
  induction wellFormed with
  | null =>
      intro fuel rest enough _
      obtain ⟨fuel, rfl⟩ : ∃ less, fuel = less + 1 :=
        ⟨fuel - 1, by simp [Json.text] at enough; omega⟩
      rfl
  | bool value =>
      intro fuel rest enough _
      cases value with
      | true =>
          obtain ⟨fuel, rfl⟩ : ∃ less, fuel = less + 1 :=
            ⟨fuel - 1, by simp [Json.text] at enough; omega⟩
          rfl
      | false =>
          obtain ⟨fuel, rfl⟩ : ∃ less, fuel = less + 1 :=
            ⟨fuel - 1, by simp [Json.text] at enough; omega⟩
          rfl
  | int digits => exact readsBack_int digits
  | float value => exact readsBack_float value
  | str text => exact readsBack_str text
  | list each inductionHypothesis => exact readsBack_list inductionHypothesis
  | dict keys each inductionHypothesis => exact readsBack_dict keys inductionHypothesis

theorem readWhole_dumps {value : Json} (wellFormed : value.WellFormed depth) :
    readWhole lone depth (dumps value) = .ok value := by
  obtain ⟨head, tail, isText, noSpace, -⟩ := text_head value
  have space : skipSpace value.text = value.text := by
    rw [isText]
    exact skipSpace_cons noSpace tail
  have read := @readsBack_of_wellFormed lone depth value wellFormed (2 * value.text.length) []
    (Nat.le_refl _) stops_nil
  rw [List.append_nil] at read
  unfold readWhole dumps
  rw [String.toList_ofList, space]
  dsimp only
  rw [read]
  rfl

/-- Reading undoes writing. -/
theorem loads_dumps {value : Json} (wellFormed : value.WellFormed depth) :
    loads depth (dumps value) = .ok value :=
  readWhole_dumps wellFormed

/-- A written text has no escape outside a pair. -/
theorem paired_dumps {value : Json} (wellFormed : value.WellFormed depth) :
    Paired depth (dumps value) :=
  (readWhole_dumps wellFormed).trans (loads_dumps wellFormed).symm

/-! ## What is read -/

theorem ofDigitChars_lt {digits : List Char} (allDigits : ∀ char ∈ digits, char.isDigit = true)
    (start : Nat) : Nat.ofDigitChars 10 digits start < (start + 1) * 10 ^ digits.length := by
  induction digits generalizing start with
  | nil => simp
  | cons char rest inductionHypothesis =>
      rw [List.forall_mem_cons] at allDigits
      have bounds := Char.isDigit_iff_toNat.mp allDigits.1
      have least : '0'.toNat = 48 := rfl
      have greatest : '9'.toNat = 57 := rfl
      rw [Nat.ofDigitChars_cons, List.length_cons, Nat.pow_succ', ← Nat.mul_assoc]
      refine (inductionHypothesis allDigits.2 _).trans_le (Nat.mul_le_mul_right _ ?_)
      omega

/-- The value of a numeral whose whole part consists of digits. -/
theorem wellFormed_of_numeral {numeral : Numeral} {value : Json} {depth : Nat}
    (digits : ∀ char ∈ numeral.whole, char.isDigit = true) (nonempty : numeral.whole ≠ [])
    (isValue : numeral.value = .ok value) : value.WellFormed depth := by
  have bound := ofDigitChars_lt digits 0
  rw [Nat.zero_add, Nat.one_mul,
    ← Nat.length_toDigits_le_iff (by omega) (List.length_pos_iff.mpr nonempty)] at bound
  unfold Numeral.value at isValue
  split_ifs at isValue with whole long negative
  · cases isValue
    apply Json.WellFormed.int
    rw [Int.natAbs_neg, Int.natAbs_natCast]
    exact bound.trans (Nat.not_lt.mp long)
  · cases isValue
    apply Json.WellFormed.int
    rw [Int.natAbs_natCast]
    exact bound.trans (Nat.not_lt.mp long)
  · cases isValue
    exact .float _

theorem wellFormed_of_readScalar {chars rest : List Char} {value : Json} {depth : Nat}
    (read : readScalar chars = .ok (value, rest)) : value.WellFormed depth := by
  unfold readScalar at read
  split at read
  · rename_i numeral after isNumeral
    split at read
    · cases read
    · rename_i own isValue
      cases read
      unfold readNumeral at isNumeral
      dsimp only at isNumeral
      split at isNumeral
      · cases isNumeral
      · rename_i whole afterWhole isWhole
        cases isNumeral
        refine wellFormed_of_numeral ?_ ?_ isValue <;> unfold readInteger at isWhole <;>
          split at isWhole
        · cases isWhole
        · split_ifs at isWhole with zero digit
          · cases isWhole
            rw [zero]
            exact List.forall_mem_singleton.mpr rfl
          · cases isWhole
            refine List.forall_mem_cons.mpr ⟨digit, ?_⟩
            exact fun char member => List.mem_takeWhile_imp member
        · cases isWhole
        · split_ifs at isWhole <;> cases isWhole <;> exact List.cons_ne_nil _ _
  · split at read
    · cases read
    · rename_i found isFound
      cases read
      have wordsWellFormed : ∀ word ∈ words, Json.WellFormed depth word.2 := by
        simp only [words, List.forall_mem_cons]
        exact ⟨.null, .bool true, .bool false, .float _, .float _, .float _, List.forall_mem_nil _⟩
      generalize words = candidates at isFound wordsWellFormed
      induction candidates with
      | nil => cases isFound
      | cons candidate others inductionHypothesis =>
          rw [List.forall_mem_cons] at wordsWellFormed
          rw [readWord] at isFound
          split at isFound
          · cases isFound
            exact wordsWellFormed.1
          · exact inductionHypothesis isFound wordsWellFormed.2

theorem wellFormed_dictOf {pairs : List (String × Json)} {depth : Nat}
    (each : ∀ pair ∈ pairs, Json.WellFormed depth pair.2) :
    Json.WellFormed (depth + 1) (.dict (dictOf pairs)) := by
  have folded : ∀ fields : Dict, (fields.map Prod.fst).Nodup →
      (∀ field ∈ fields, Json.WellFormed depth field.2) →
      Json.WellFormed (depth + 1)
        (.dict (pairs.foldl (fun fields pair => upsertRows pair.1 pair.2 fields) fields)) := by
    induction pairs with
    | nil => exact fun fields keys fits => .dict keys fits
    | cons pair rest inductionHypothesis =>
        rw [List.forall_mem_cons] at each
        intro fields keys fits
        rw [List.foldl_cons]
        exact inductionHypothesis each.2 _ (keys_upsertRows_nodup keys)
          ((forall_upsertRows_iff fits).mpr each.1)
  exact folded [] List.nodup_nil (List.forall_mem_nil _)

/-- What the three readers return, with some fuel. -/
structure ReadersReturn (lone : Option Char) (fuel : Nat) : Prop where
  value : ∀ {depth chars value rest}, readValue lone fuel depth chars = .ok (value, rest) →
    value.WellFormed depth
  elements : ∀ {depth chars items rest},
    readElements lone fuel depth chars = .ok (items, rest) →
      ∀ item ∈ items, item.WellFormed depth
  members : ∀ {depth chars pairs rest},
    readMembers lone fuel depth chars = .ok (pairs, rest) →
      ∀ pair ∈ pairs, pair.2.WellFormed depth

theorem wellFormed_of_readValue {fuel : Nat} (inner : ReadersReturn lone fuel)
    {chars rest : List Char} {value : Json}
    (read : readValue lone (fuel + 1) depth chars = .ok (value, rest)) :
    value.WellFormed depth := by
  cases valueRead_of_readValue read with
  | str read => exact .str _
  | emptyList closed => exact .list (List.forall_mem_nil _)
  | list read => exact .list (inner.elements read)
  | emptyDict closed => exact .dict List.nodup_nil (List.forall_mem_nil _)
  | dict read => exact wellFormed_dictOf (inner.members read)
  | scalar read => exact wellFormed_of_readScalar read

theorem wellFormed_of_readElements {fuel : Nat} (inner : ReadersReturn lone fuel)
    {chars rest : List Char} {items : List Json}
    (read : readElements lone (fuel + 1) depth chars = .ok (items, rest)) :
    ∀ item ∈ items, item.WellFormed depth := by
  cases elementsRead_of_readElements read with
  | last head closed => exact List.forall_mem_singleton.mpr (inner.value head)
  | cons head comma others =>
      exact List.forall_mem_cons.mpr ⟨inner.value head, inner.elements others⟩

theorem wellFormed_of_readMembers {fuel : Nat} (inner : ReadersReturn lone fuel)
    {chars rest : List Char} {pairs : List (String × Json)}
    (read : readMembers lone (fuel + 1) depth chars = .ok (pairs, rest)) :
    ∀ pair ∈ pairs, pair.2.WellFormed depth := by
  cases membersRead_of_readMembers read with
  | last head closed =>
      obtain ⟨source, afterName, afterColon, -, -, -, isValue⟩ := head.reads
      exact List.forall_mem_singleton.mpr (inner.value isValue)
  | cons head comma others =>
      obtain ⟨source, afterName, afterColon, -, -, -, isValue⟩ := head.reads
      exact List.forall_mem_cons.mpr ⟨inner.value isValue, inner.members others⟩

theorem readersReturn (fuel : Nat) : ReadersReturn lone fuel := by
  induction fuel with
  | zero =>
      constructor
      · intro depth chars value rest read
        rw [readValue] at read
        cases read
      · intro depth chars items rest read
        rw [readElements] at read
        cases read
      · intro depth chars pairs rest read
        rw [readMembers] at read
        cases read
  | succ fuel inductionHypothesis =>
      exact ⟨wellFormed_of_readValue inductionHypothesis,
        wellFormed_of_readElements inductionHypothesis,
        wellFormed_of_readMembers inductionHypothesis⟩

/-- What is accepted is well formed. -/
theorem wellFormed_of_loads {source : String} {value : Json}
    (read : loads depth source = .ok value) : value.WellFormed depth := by
  unfold loads readWhole at read
  dsimp only at read
  split at read
  · cases read
  · rename_i own rest isOwn
    split_ifs at read
    cases read
    exact (readersReturn _).value isOwn

/-- A value is written and read back as itself exactly if it is well formed. -/
theorem loads_dumps_iff {value : Json} :
    loads depth (dumps value) = .ok value ↔ value.WellFormed depth :=
  ⟨wellFormed_of_loads, loads_dumps⟩

end AutoRouteGateway.Runtime

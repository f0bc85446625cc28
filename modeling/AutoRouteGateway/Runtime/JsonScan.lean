import AutoRouteGateway.Runtime.JsonRoundTrip

/-!
Owns where the strings of a JSON text begin and end, as a scan with three
states: a text read as a value leaves no string open, and a written value has
characters beyond ASCII inside its strings only.
-/

namespace AutoRouteGateway.Runtime

/-- Outside every string, inside one, or after a backslash inside one. -/
inductive Quoting where
  | outside
  | inside
  | escaped
deriving DecidableEq, Repr

def Quoting.next (char : Char) : Quoting → Quoting
  | outside => if char = '"' then inside else outside
  | inside => if char = '"' then outside else if char = '\\' then escaped else inside
  | escaped => inside

/-- The state after a text. -/
def scan (state : Quoting) (chars : List Char) : Quoting :=
  chars.foldl (fun state char => state.next char) state

@[simp] theorem scan_nil (state : Quoting) : scan state [] = state := rfl

@[simp] theorem scan_cons (state : Quoting) (char : Char) (rest : List Char) :
    scan state (char :: rest) = scan (state.next char) rest := rfl

theorem scan_append (state : Quoting) (left right : List Char) :
    scan state (left ++ right) = scan (scan state left) right :=
  List.foldl_append

/-! ## Reading -/

theorem scan_outside_of_noQuote {chars : List Char} (noQuote : '"' ∉ chars) :
    scan .outside chars = .outside := by
  induction chars with
  | nil => rfl
  | cons char rest inductionHypothesis =>
      rw [List.mem_cons, not_or] at noQuote
      rw [scan_cons, Quoting.next, if_neg (Ne.symm noQuote.1), inductionHypothesis noQuote.2]

/-- Characters without a quote can be left away outside strings. -/
theorem scan_outside_append {skipped rest : List Char} (noQuote : '"' ∉ skipped) :
    scan .outside (skipped ++ rest) = scan .outside rest := by
  rw [scan_append, scan_outside_of_noQuote noQuote]

theorem scan_skipSpace (chars : List Char) :
    scan .outside (skipSpace chars) = scan .outside chars := by
  have noQuote : '"' ∉ chars.takeWhile isJsonSpace := by
    intro member
    exact absurd (List.mem_takeWhile_imp member) (by decide)
  have parts := List.takeWhile_append_dropWhile (p := isJsonSpace) (l := chars)
  rw [← parts, scan_outside_append noQuote, parts]
  rfl

theorem append_of_afterWord {word chars rest : List Char}
    (read : afterWord word chars = some rest) : chars = word ++ rest := by
  unfold afterWord at read
  split_ifs at read with isPrefix
  cases read
  obtain ⟨tail, rfl⟩ := List.isPrefixOf_iff_prefix.mp isPrefix
  rw [List.drop_left]

/-! ### Strings -/

theorem hexValue_of_quote_or_backslash {char : Char} (special : char = '"' ∨ char = '\\') :
    hexValue char = none := by
  rcases special with rfl | rfl <;> rfl

theorem next_inside_of_hexValue {char : Char} {value : Nat} (hex : hexValue char = some value) :
    Quoting.inside.next char = .inside := by
  have noQuote : char ≠ '"' := by
    intro quote
    rw [hexValue_of_quote_or_backslash (Or.inl quote)] at hex
    cases hex
  have noBackslash : char ≠ '\\' := by
    intro backslash
    rw [hexValue_of_quote_or_backslash (Or.inr backslash)] at hex
    cases hex
  rw [Quoting.next, if_neg noQuote, if_neg noBackslash]

theorem scan_readHex4 {chars rest : List Char} {value : Nat}
    (read : readHex4 chars = some (value, rest)) : scan .inside chars = scan .inside rest := by
  unfold readHex4 at read
  split at read
  · rename_i first second third fourth tail
    split at read
    · rename_i a b c d isFirst isSecond isThird isFourth
      cases read
      rw [scan_cons, next_inside_of_hexValue isFirst, scan_cons, next_inside_of_hexValue isSecond,
        scan_cons, next_inside_of_hexValue isThird, scan_cons, next_inside_of_hexValue isFourth]
    · cases read
  · cases read

theorem scan_readLowHalf {chars rest : List Char} {low : Nat}
    (read : readLowHalf chars = some (low, rest)) : scan .inside chars = scan .inside rest := by
  unfold readLowHalf at read
  split at read
  · cases read
  · rename_i afterMark isMark
    rw [append_of_afterWord isMark]
    split at read
    · cases read
    · rename_i own afterLow isLow
      split_ifs at read
      cases read
      have digits : scan .inside afterMark = scan .inside rest := scan_readHex4 isLow
      exact digits

variable {lone : Option Char}

theorem scan_readUnicode {chars rest : List Char} {char : Char}
    (read : readUnicode lone chars = some (char, rest)) :
    scan .inside chars = scan .inside rest := by
  have alone : ∀ {after}, (lone.map fun own => (own, after)) = some (char, rest) →
      scan .inside after = scan .inside rest := by
    intro after isAlone
    obtain ⟨own, -, same⟩ := Option.map_eq_some_iff.mp isAlone
    rw [(Prod.mk.inj same).2]
  unfold readUnicode at read
  split at read
  · cases read
  · rename_i high afterHigh isHigh
    rw [scan_readHex4 isHigh]
    split_ifs at read with highHalf lowHalf
    · split at read
      · exact alone read
      · rename_i low afterLow isLow
        have same := (Prod.mk.inj (Option.some.inj read)).2
        rw [scan_readLowHalf isLow, same]
    · exact alone read
    · have same := (Prod.mk.inj (Option.some.inj read)).2
      rw [same]

theorem scan_readEscape {chars rest : List Char} {char : Char}
    (read : readEscape lone chars = some (char, rest)) :
    scan .escaped chars = scan .inside rest := by
  unfold readEscape at read
  split at read
  · cases read
  · split_ifs at read
    · exact scan_readUnicode read
    · split at read
      · cases read
      · cases read
        rfl

theorem scan_readChars {fuel : Nat} {chars own rest : List Char}
    (read : readChars lone fuel chars = some (own, rest)) :
    scan .inside chars = scan .outside rest := by
  induction fuel generalizing chars own with
  | zero => cases read
  | succ fuel inductionHypothesis =>
      cases chars with
      | nil => cases read
      | cons char tail =>
          rw [readChars] at read
          split_ifs at read with quote backslash control
          · cases read
            rw [scan_cons, quote]
            rfl
          · split at read
            · cases read
            · rename_i escape afterEscape isEscape
              split at read
              · cases read
              · rename_i later afterLater isLater
                cases read
                rw [scan_cons, backslash]
                exact (scan_readEscape isEscape).trans (inductionHypothesis isLater)
          · split at read
            · cases read
            · rename_i later afterLater isLater
              cases read
              rw [scan_cons, Quoting.next, if_neg quote, if_neg backslash]
              exact inductionHypothesis isLater

/-! ### Values -/

/-- The characters a reader consumed hold no quote. -/
def Consumes (chars rest : List Char) : Prop :=
  ∃ consumed, chars = consumed ++ rest ∧ '"' ∉ consumed

theorem Consumes.refl (chars : List Char) : Consumes chars chars := ⟨[], rfl, List.not_mem_nil⟩

theorem Consumes.trans {first second third : List Char} (left : Consumes first second)
    (right : Consumes second third) : Consumes first third := by
  obtain ⟨consumed, rfl, noQuote⟩ := left
  obtain ⟨later, rfl, noQuote'⟩ := right
  refine ⟨consumed ++ later, (List.append_assoc _ _ _).symm, ?_⟩
  rw [List.mem_append, not_or]
  exact ⟨noQuote, noQuote'⟩

theorem Consumes.cons {char : Char} {chars rest : List Char} (noQuote : char ≠ '"')
    (consumes : Consumes chars rest) : Consumes (char :: chars) rest := by
  obtain ⟨consumed, rfl, noQuote'⟩ := consumes
  refine ⟨char :: consumed, rfl, ?_⟩
  rw [List.mem_cons, not_or]
  exact ⟨Ne.symm noQuote, noQuote'⟩

theorem Consumes.scan {chars rest : List Char} (consumes : Consumes chars rest) :
    scan .outside chars = scan .outside rest := by
  obtain ⟨consumed, rfl, noQuote⟩ := consumes
  exact scan_outside_append noQuote

theorem consumes_digits (chars : List Char) : Consumes chars (chars.dropWhile Char.isDigit) := by
  refine ⟨chars.takeWhile Char.isDigit, List.takeWhile_append_dropWhile.symm, ?_⟩
  intro member
  exact absurd (List.mem_takeWhile_imp member) (by decide)

theorem consumes_readSign (chars : List Char) : Consumes chars (readSign chars).2 := by
  unfold readSign
  split
  · exact Consumes.refl []
  · split_ifs with minus
    · exact Consumes.cons (by rw [minus]; decide) (Consumes.refl _)
    · exact Consumes.refl _

theorem consumes_readInteger {chars digits rest : List Char}
    (read : readInteger chars = some (digits, rest)) : Consumes chars rest := by
  unfold readInteger at read
  split at read
  · cases read
  · rename_i char tail
    split_ifs at read with zero digit
    · cases read
      exact Consumes.cons (by rw [zero]; decide) (Consumes.refl _)
    · cases read
      refine Consumes.cons ?_ (consumes_digits tail)
      rintro rfl
      exact absurd digit (by decide)

theorem consumes_readFraction (chars : List Char) : Consumes chars (readFraction chars).2 := by
  unfold readFraction
  split
  · exact Consumes.refl []
  · rename_i char tail
    split_ifs with point
    · exact Consumes.cons (by rw [point.1]; decide) (consumes_digits tail)
    · exact Consumes.refl _

theorem consumes_readExponentSign (chars : List Char) :
    Consumes chars (readExponentSign chars).2 := by
  unfold readExponentSign
  split
  · exact Consumes.refl []
  · split_ifs with minus plus
    · exact Consumes.cons (by rw [minus]; decide) (Consumes.refl _)
    · exact Consumes.cons (by rw [plus]; decide) (Consumes.refl _)
    · exact Consumes.refl _

theorem consumes_readExponent (chars : List Char) : Consumes chars (readExponent chars).2 := by
  unfold readExponent
  split
  · exact Consumes.refl []
  · rename_i char tail
    dsimp only
    split
    · rename_i exponent
      apply Consumes.cons
      · rintro rfl
        exact absurd exponent.1 (by decide)
      · exact (consumes_readExponentSign tail).trans (consumes_digits _)
    · exact Consumes.refl _

theorem consumes_readNumeral {chars rest : List Char} {numeral : Numeral}
    (read : readNumeral chars = some (numeral, rest)) : Consumes chars rest := by
  unfold readNumeral at read
  dsimp only at read
  split at read
  · cases read
  · rename_i whole afterWhole isWhole
    have consumed := (((consumes_readSign chars).trans (consumes_readInteger isWhole)).trans
      (consumes_readFraction afterWhole)).trans (consumes_readExponent _)
    rw [← (Prod.mk.inj (Option.some.inj read)).2]
    exact consumed

theorem consumes_readWord {chars rest : List Char} {value : Json}
    {candidates : List (List Char × Json)} (noQuote : ∀ candidate ∈ candidates, '"' ∉ candidate.1)
    (read : readWord chars candidates = some (value, rest)) : Consumes chars rest := by
  induction candidates with
  | nil => cases read
  | cons candidate others inductionHypothesis =>
      obtain ⟨word, own⟩ := candidate
      rw [List.forall_mem_cons] at noQuote
      rw [readWord] at read
      split at read
      · rename_i after isAfter
        cases read
        exact ⟨word, append_of_afterWord isAfter, noQuote.1⟩
      · exact inductionHypothesis noQuote.2 read

theorem consumes_readScalar {chars rest : List Char} {value : Json}
    (read : readScalar chars = .ok (value, rest)) : Consumes chars rest := by
  unfold readScalar at read
  split at read
  · rename_i numeral after isNumeral
    split at read
    · cases read
    · cases read
      exact consumes_readNumeral isNumeral
  · split at read
    · cases read
    · rename_i found isFound
      cases read
      exact consumes_readWord (by decide) isFound

theorem scan_afterWord {word chars rest : List Char} (noQuote : '"' ∉ word)
    (read : afterWord word (skipSpace chars) = some rest) :
    scan .outside chars = scan .outside rest := by
  rw [← scan_skipSpace, append_of_afterWord read, scan_outside_append noQuote]

/-- What each of the three readers does to the scan, with some fuel. -/
structure ReadersScan (lone : Option Char) (fuel : Nat) : Prop where
  value : ∀ {depth chars value rest}, readValue lone fuel depth chars = .ok (value, rest) →
    scan .outside chars = scan .outside rest
  elements : ∀ {depth chars items rest}, readElements lone fuel depth chars = .ok (items, rest) →
    scan .outside chars = scan .outside rest
  members : ∀ {depth chars pairs rest}, readMembers lone fuel depth chars = .ok (pairs, rest) →
    scan .outside chars = scan .outside rest

theorem scan_readValue {fuel depth : Nat} (inner : ReadersScan lone fuel)
    {chars rest : List Char} {value : Json}
    (read : readValue lone (fuel + 1) depth chars = .ok (value, rest)) :
    scan .outside chars = scan .outside rest := by
  cases valueRead_of_readValue read with
  | str read =>
      rw [scan_cons]
      exact scan_readChars read
  | emptyList closed =>
      rw [scan_cons]
      exact scan_afterWord (by decide) closed
  | list read =>
      rw [scan_cons, ← inner.elements read, scan_skipSpace]
      rfl
  | emptyDict closed =>
      rw [scan_cons]
      exact scan_afterWord (by decide) closed
  | dict read =>
      rw [scan_cons, ← inner.members read, scan_skipSpace]
      rfl
  | scalar read => exact (consumes_readScalar read).scan

theorem scan_readElements {fuel depth : Nat} (inner : ReadersScan lone fuel)
    {chars rest : List Char} {items : List Json}
    (read : readElements lone (fuel + 1) depth chars = .ok (items, rest)) :
    scan .outside chars = scan .outside rest := by
  cases elementsRead_of_readElements read with
  | last head closed =>
      rw [inner.value head]
      exact scan_afterWord (by decide) closed
  | cons head comma others =>
      rw [inner.value head, scan_afterWord (by decide) comma, ← scan_skipSpace]
      exact inner.elements others

theorem scan_member {fuel depth : Nat} (inner : ReadersScan lone fuel)
    {chars name after : List Char} {value : Json}
    (member : MemberRead lone fuel depth chars name value after) :
    scan .outside chars = scan .outside after := by
  obtain ⟨source, afterName, afterColon, opened, isName, colon, isValue⟩ := member.reads
  have named : scan .outside chars = scan .outside afterName := by
    rw [append_of_afterWord opened]
    exact scan_readChars isName
  rw [named, scan_afterWord (by decide) colon, ← scan_skipSpace, inner.value isValue]

theorem scan_readMembers {fuel depth : Nat} (inner : ReadersScan lone fuel)
    {chars rest : List Char} {pairs : List (String × Json)}
    (read : readMembers lone (fuel + 1) depth chars = .ok (pairs, rest)) :
    scan .outside chars = scan .outside rest := by
  cases membersRead_of_readMembers read with
  | last head closed =>
      rw [scan_member inner head]
      exact scan_afterWord (by decide) closed
  | cons head comma others =>
      rw [scan_member inner head, scan_afterWord (by decide) comma, ← scan_skipSpace]
      exact inner.members others

theorem readersScan (fuel : Nat) : ReadersScan lone fuel := by
  induction fuel with
  | zero =>
      constructor
      · intro depth chars value rest read
        rw [readValue] at read
        cases read
      · intro depth chars items rest read
        rw [readElements] at read
        cases read
      · intro depth chars pairs rest read
        rw [readMembers] at read
        cases read
  | succ fuel inductionHypothesis =>
      exact ⟨scan_readValue inductionHypothesis, scan_readElements inductionHypothesis,
        scan_readMembers inductionHypothesis⟩

/-- A text read as a value leaves no string open. -/
theorem scan_of_loads {depth : Nat} {source : String} {value : Json}
    (read : loads depth source = .ok value) : scan .outside source.toList = .outside := by
  unfold loads readWhole at read
  dsimp only at read
  split at read
  · cases read
  · rename_i own rest isOwn
    split_ifs at read with consumed
    rw [← scan_skipSpace, (readersScan _).value isOwn, ← scan_skipSpace, consumed, scan_nil]

/-! ## Writing -/

/-- Beyond ASCII. -/
def Wide (char : Char) : Prop := 128 ≤ char.toNat

/-- From this state on, characters beyond ASCII come inside strings only. -/
def Guarded : Quoting → List Char → Prop
  | _, [] => True
  | state, char :: rest => (Wide char → state ≠ .outside) ∧ Guarded (state.next char) rest

theorem guarded_append {state : Quoting} {left right : List Char} :
    Guarded state (left ++ right) ↔ Guarded state left ∧ Guarded (scan state left) right := by
  induction left generalizing state with
  | nil => simp [Guarded]
  | cons char left inductionHypothesis =>
      rw [List.cons_append, Guarded, Guarded, inductionHypothesis, scan_cons, and_assoc]

/-- A wide character of a guarded text comes inside a string. -/
theorem Guarded.open_before {state : Quoting} {before after : List Char} {char : Char}
    (guarded : Guarded state (before ++ char :: after)) (wide : Wide char) :
    scan state before ≠ .outside :=
  (guarded_append.mp guarded).2.1 wide

/-- Whole values, separators and brackets: guarded, and outside strings again. -/
structure Closed (chars : List Char) : Prop where
  guarded : Guarded .outside chars
  closes : scan .outside chars = .outside

theorem Closed.append {left right : List Char} (isLeft : Closed left) (isRight : Closed right) :
    Closed (left ++ right) where
  guarded := by
    rw [guarded_append, isLeft.closes]
    exact ⟨isLeft.guarded, isRight.guarded⟩
  closes := by
    rw [scan_append, isLeft.closes, isRight.closes]

/-- An ASCII character that is no quote. -/
def IsMark (char : Char) : Prop := 32 ≤ char.toNat ∧ ¬ Wide char ∧ char ≠ '"'

instance (char : Char) : Decidable (IsMark char) :=
  inferInstanceAs (Decidable (_ ∧ ¬ (_ ≤ _) ∧ _))

theorem closed_of_marks {chars : List Char} (marks : ∀ char ∈ chars, IsMark char) :
    Closed chars := by
  induction chars with
  | nil => exact ⟨trivial, rfl⟩
  | cons char rest inductionHypothesis =>
      rw [List.forall_mem_cons] at marks
      obtain ⟨⟨-, narrow, noQuote⟩, others⟩ := marks
      have same : Quoting.outside.next char = .outside := if_neg noQuote
      have closed := inductionHypothesis others
      constructor
      · rw [Guarded, same]
        exact ⟨fun wide => absurd wide narrow, closed.guarded⟩
      · rw [scan_cons, same, closed.closes]

theorem closed_cons {char : Char} (mark : IsMark char) {rest : List Char} (closed : Closed rest) :
    Closed (char :: rest) := by
  have single : Closed [char] := by
    apply closed_of_marks
    intro own member
    rw [List.mem_singleton] at member
    exact member ▸ mark
  exact single.append closed

theorem isMark_of_isDigit {char : Char} (digit : char.isDigit = true) : IsMark char := by
  have bounds := Char.isDigit_iff_toNat.mp digit
  have least : '0'.toNat = 48 := rfl
  have greatest : '9'.toNat = 57 := rfl
  unfold IsMark Wide
  refine ⟨by omega, by omega, ?_⟩
  rintro rfl
  exact absurd digit (by decide)

theorem marks_hexDigit : ∀ value < 16, IsMark (hexDigit value) ∧ hexDigit value ≠ '\\' := by decide

/-! ### Strings -/

theorem next_inside_of_plain {char : Char} (plain : char ≠ '"' ∧ char ≠ '\\') :
    Quoting.inside.next char = .inside := by
  rw [Quoting.next, if_neg plain.1, if_neg plain.2]

theorem guarded_inside_cons {char : Char} {rest : List Char} {state : Quoting}
    (inside : state ≠ .outside) (guarded : Guarded (state.next char) rest) :
    Guarded state (char :: rest) :=
  ⟨fun _ => inside, guarded⟩

/-- A written character keeps the string open. -/
theorem escapeChar_inside (char : Char) :
    Guarded .inside (escapeChar char) ∧ scan .inside (escapeChar char) = .inside := by
  have pair : ∀ own, Guarded .inside ['\\', own] ∧ scan .inside ['\\', own] = .inside := by
    intro own
    exact ⟨guarded_inside_cons (by decide) (guarded_inside_cons (by decide) trivial), rfl⟩
  unfold escapeChar
  split_ifs with quote backslash newline return' tab backspace formFeed control
  · exact pair _
  · exact pair _
  · exact pair _
  · exact pair _
  · exact pair _
  · exact pair _
  · exact pair _
  · obtain ⟨⟨-, -, noQuote⟩, noBackslash⟩ := marks_hexDigit (char.toNat / 16) (by omega)
    obtain ⟨⟨-, -, noQuote'⟩, noBackslash'⟩ := marks_hexDigit (char.toNat % 16) (by omega)
    have high := next_inside_of_plain ⟨noQuote, noBackslash⟩
    have low := next_inside_of_plain ⟨noQuote', noBackslash'⟩
    have inside : Guarded .inside [hexDigit (char.toNat / 16), hexDigit (char.toNat % 16)] ∧
        scan .inside [hexDigit (char.toNat / 16), hexDigit (char.toNat % 16)] = .inside := by
      rw [Guarded, Guarded, scan_cons, high, scan_cons, low]
      exact ⟨⟨fun _ => by decide, fun _ => by decide, trivial⟩, rfl⟩
    refine ⟨?_, inside.2⟩
    exact guarded_inside_cons (by decide) (guarded_inside_cons (by decide)
      (guarded_inside_cons (by decide) (guarded_inside_cons (by decide) inside.1)))
  · have own := next_inside_of_plain ⟨quote, backslash⟩
    exact ⟨guarded_inside_cons (by decide) trivial, own⟩

theorem escapeChars_inside (chars : List Char) :
    Guarded .inside (chars.flatMap escapeChar) ∧
      scan .inside (chars.flatMap escapeChar) = .inside := by
  induction chars with
  | nil => exact ⟨trivial, rfl⟩
  | cons char rest inductionHypothesis =>
      obtain ⟨guarded, inside⟩ := escapeChar_inside char
      rw [List.flatMap_cons, guarded_append, scan_append, inside]
      exact ⟨⟨guarded, inductionHypothesis.1⟩, inductionHypothesis.2⟩

theorem closed_stringText (text : String) : Closed (stringText text) := by
  obtain ⟨guarded, inside⟩ := escapeChars_inside text.toList
  constructor
  · refine ⟨fun wide => absurd wide (by unfold Wide; decide), ?_⟩
    rw [show Quoting.outside.next '"' = .inside from rfl, guarded_append, inside]
    exact ⟨guarded, guarded_inside_cons (by decide) trivial⟩
  · rw [stringText, scan_cons, show Quoting.outside.next '"' = .inside from rfl, scan_append,
      inside]
    rfl

/-! ### Values -/

/-- The characters of a numeral, apart from digits. -/
theorem marks_numeral {numeral : Numeral} (plain : numeral.Plain) :
    ∀ char ∈ numeral.text, IsMark char := by
  have digits : ∀ {chars : List Char}, (∀ char ∈ chars, char.isDigit = true) →
      ∀ char ∈ chars, IsMark char :=
    fun all char member => isMark_of_isDigit (all char member)
  unfold Numeral.text
  refine List.forall_mem_append.mpr ⟨?_, List.forall_mem_append.mpr ⟨digits plain.whole,
    List.forall_mem_append.mpr ⟨?_, ?_⟩⟩⟩
  · split_ifs
    · exact List.forall_mem_singleton.mpr (by decide)
    · exact List.forall_mem_nil _
  · unfold Numeral.fractionText
    split_ifs
    · exact List.forall_mem_nil _
    · exact List.forall_mem_cons.mpr ⟨by decide, digits plain.fraction⟩
  · cases numeral.exponent with
    | none => exact List.forall_mem_nil _
    | some exponent =>
        refine List.forall_mem_cons.mpr ⟨by decide, List.forall_mem_cons.mpr
          ⟨?_, digits (Numeral.exponentDigits_spec _).1⟩⟩
        split_ifs <;> decide

theorem marks_intText (value : Int) : ∀ char ∈ intText value, IsMark char := by
  rw [← text_intNumeral]
  exact marks_numeral (plain_intNumeral value)

theorem marks_floatText (value : PyFloat) : ∀ char ∈ floatText value, IsMark char := by
  cases value with
  | nan => exact forall_mem_of_all (by decide)
  | infinity negative => cases negative <;> exact forall_mem_of_all (by decide)
  | finite negative magnitude =>
      exact marks_numeral (PyFloat.isFloat_numeral negative magnitude).1

theorem closed_elementsText {items : List Json} (each : ∀ item ∈ items, Closed item.text) :
    Closed (Json.elementsText items) := by
  induction items with
  | nil => exact closed_of_marks (forall_mem_of_all (by decide))
  | cons value others inductionHypothesis =>
      rw [List.forall_mem_cons] at each
      cases others with
      | nil => exact each.1.append (closed_of_marks (forall_mem_of_all (by decide)))
      | cons next others =>
          exact each.1.append (closed_cons (by decide) (closed_cons (by decide)
            (inductionHypothesis each.2)))

theorem closed_membersText {fields : List (String × Json)}
    (each : ∀ field ∈ fields, Closed field.2.text) : Closed (Json.membersText fields) := by
  induction fields with
  | nil => exact closed_of_marks (forall_mem_of_all (by decide))
  | cons field others inductionHypothesis =>
      rw [List.forall_mem_cons] at each
      cases others with
      | nil =>
          exact (closed_stringText field.1).append (closed_cons (by decide)
            (closed_cons (by decide)
              (each.1.append (closed_of_marks (forall_mem_of_all (by decide))))))
      | cons next others =>
          exact (closed_stringText field.1).append (closed_cons (by decide)
            (closed_cons (by decide) (each.1.append (closed_cons (by decide)
              (closed_cons (by decide) (inductionHypothesis each.2))))))

theorem closed_text (value : Json) : Closed value.text := by
  induction value using Json.nested_induction with
  | null => exact closed_of_marks (forall_mem_of_all (by decide))
  | bool value => cases value <;> exact closed_of_marks (forall_mem_of_all (by decide))
  | int value => exact closed_of_marks (marks_intText value)
  | float value => exact closed_of_marks (marks_floatText value)
  | str text => exact closed_stringText text
  | list items inductionHypothesis =>
      exact closed_cons (by decide) (closed_elementsText inductionHypothesis)
  | dict fields inductionHypothesis =>
      exact closed_cons (by decide) (closed_membersText inductionHypothesis)

/-! ### Characters -/

/-- The wide characters of a text are those of some strings, and no character is
a control character. -/
structure WritesStrings (chars : List Char) (strings : List String) : Prop where
  wide : ∀ char, Wide char → (char ∈ chars ↔ ∃ text ∈ strings, char ∈ text.toList)
  noControl : ∀ char ∈ chars, 32 ≤ char.toNat

theorem WritesStrings.append {left right : List Char} {leftStrings rightStrings : List String}
    (isLeft : WritesStrings left leftStrings) (isRight : WritesStrings right rightStrings) :
    WritesStrings (left ++ right) (leftStrings ++ rightStrings) where
  wide := by
    intro char wide
    rw [List.mem_append, isLeft.wide char wide, isRight.wide char wide]
    simp only [List.mem_append, or_and_right, exists_or]
  noControl := by
    intro char member
    rcases List.mem_append.mp member with inLeft | inRight
    · exact isLeft.noControl char inLeft
    · exact isRight.noControl char inRight

theorem writesStrings_of_marks {chars : List Char} (marks : ∀ char ∈ chars, IsMark char) :
    WritesStrings chars [] where
  wide := by
    intro char wide
    apply iff_of_false
    · intro member
      exact (marks char member).2.1 wide
    · rintro ⟨text, member, -⟩
      cases member
  noControl := fun char member => (marks char member).1

theorem WritesStrings.mark {char : Char} (mark : IsMark char) {rest : List Char}
    {strings : List String} (writes : WritesStrings rest strings) :
    WritesStrings (char :: rest) strings := by
  have single : WritesStrings [char] [] := by
    apply writesStrings_of_marks
    intro own member
    rw [List.mem_singleton] at member
    exact member ▸ mark
  exact single.append writes

theorem mem_escapeChar {char own : Char} (member : char ∈ escapeChar own) :
    32 ≤ char.toNat ∧ (Wide char → char = own) := by
  have narrow : ∀ {written : List Char}, (∀ char ∈ written, 32 ≤ char.toNat ∧ ¬ Wide char) →
      char ∈ written → 32 ≤ char.toNat ∧ (Wide char → char = own) := by
    intro written all isWritten
    exact ⟨(all char isWritten).1, fun wide => absurd wide (all char isWritten).2⟩
  unfold Wide at narrow ⊢
  unfold escapeChar at member
  split_ifs at member with quote backslash newline return' tab backspace formFeed control
  · exact narrow (forall_mem_of_all (by decide)) member
  · exact narrow (forall_mem_of_all (by decide)) member
  · exact narrow (forall_mem_of_all (by decide)) member
  · exact narrow (forall_mem_of_all (by decide)) member
  · exact narrow (forall_mem_of_all (by decide)) member
  · exact narrow (forall_mem_of_all (by decide)) member
  · exact narrow (forall_mem_of_all (by decide)) member
  · obtain ⟨⟨least, small, -⟩, -⟩ := marks_hexDigit (own.toNat / 16) (by omega)
    obtain ⟨⟨least', small', -⟩, -⟩ := marks_hexDigit (own.toNat % 16) (by omega)
    apply narrow _ member
    simp only [List.forall_mem_cons]
    exact ⟨by decide, by decide, by decide, by decide, ⟨least, small⟩, ⟨least', small'⟩,
      List.forall_mem_nil _⟩
  · rw [List.mem_singleton] at member
    subst member
    exact ⟨by omega, fun _ => rfl⟩

theorem mem_escapeChar_of_wide {char : Char} (wide : Wide char) : char ∈ escapeChar char := by
  have large : ∀ special : Char, special.toNat < 128 → char ≠ special := by
    rintro special small rfl
    exact absurd small (Nat.not_lt.mpr wide)
  unfold Wide at wide
  rw [escapeChar, if_neg (large _ (by decide)), if_neg (large _ (by decide)),
    if_neg (large _ (by decide)), if_neg (large _ (by decide)), if_neg (large _ (by decide)),
    if_neg (large _ (by decide)), if_neg (large _ (by decide)), if_neg (by omega)]
  exact List.mem_singleton.mpr rfl

theorem writesStrings_stringText (text : String) : WritesStrings (stringText text) [text] := by
  have body : WritesStrings (text.toList.flatMap escapeChar) [text] := by
    constructor
    · intro char wide
      simp only [List.mem_flatMap, List.mem_singleton, exists_eq_left]
      constructor
      · rintro ⟨own, isOwn, member⟩
        rw [(mem_escapeChar member).2 wide]
        exact isOwn
      · intro member
        exact ⟨char, member, mem_escapeChar_of_wide wide⟩
    · intro char member
      obtain ⟨own, -, isWritten⟩ := List.mem_flatMap.mp member
      exact (mem_escapeChar isWritten).1
  have quote : WritesStrings ['"'] [] := by
    constructor
    · intro char wide
      apply iff_of_false
      · intro member
        rw [List.mem_singleton] at member
        rw [member] at wide
        exact absurd wide (by unfold Wide; decide)
      · rintro ⟨own, member, -⟩
        cases member
    · exact forall_mem_of_all (by decide)
  exact quote.append (body.append quote)

theorem writesStrings_elementsText {items : List Json}
    (each : ∀ item ∈ items, WritesStrings item.text item.strings) :
    WritesStrings (Json.elementsText items) (Json.elementsStrings items) := by
  induction items with
  | nil => exact writesStrings_of_marks (forall_mem_of_all (by decide))
  | cons value others inductionHypothesis =>
      rw [List.forall_mem_cons] at each
      cases others with
      | nil => exact each.1.append (writesStrings_of_marks (forall_mem_of_all (by decide)))
      | cons next others =>
          exact each.1.append (.mark (by decide) (.mark (by decide) (inductionHypothesis each.2)))

theorem writesStrings_membersText {fields : List (String × Json)}
    (each : ∀ field ∈ fields, WritesStrings field.2.text field.2.strings) :
    WritesStrings (Json.membersText fields) (Json.membersStrings fields) := by
  induction fields with
  | nil => exact writesStrings_of_marks (forall_mem_of_all (by decide))
  | cons field others inductionHypothesis =>
      rw [List.forall_mem_cons] at each
      cases others with
      | nil =>
          exact (writesStrings_stringText field.1).append (.mark (by decide) (.mark (by decide)
            (each.1.append (writesStrings_of_marks (forall_mem_of_all (by decide))))))
      | cons next others =>
          exact (writesStrings_stringText field.1).append (.mark (by decide) (.mark (by decide)
            (each.1.append (.mark (by decide) (.mark (by decide)
              (inductionHypothesis each.2))))))

theorem writesStrings_text (value : Json) : WritesStrings value.text value.strings := by
  induction value using Json.nested_induction with
  | null => exact writesStrings_of_marks (forall_mem_of_all (by decide))
  | bool value => cases value <;> exact writesStrings_of_marks (forall_mem_of_all (by decide))
  | int value => exact writesStrings_of_marks (marks_intText value)
  | float value => exact writesStrings_of_marks (marks_floatText value)
  | str text => exact writesStrings_stringText text
  | list items inductionHypothesis =>
      exact .mark (by decide) (writesStrings_elementsText inductionHypothesis)
  | dict fields inductionHypothesis =>
      exact .mark (by decide) (writesStrings_membersText inductionHypothesis)

end AutoRouteGateway.Runtime

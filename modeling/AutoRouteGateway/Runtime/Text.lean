/-!
Owns the string operations of the source language that the gateway uses:
truncation, substring tests, removal of a substring, stripping, lower-casing and
the quoted form of a string.

Lower-casing covers the ASCII letters and the two other characters whose lower
case contains an ASCII letter; no caller looks for any other letter. The quoted
form prints every character beyond ASCII as itself.
-/

namespace AutoRouteGateway.Runtime

/-- A test of all characters of a list, in a form that runs over the list. -/
theorem forall_mem_of_all {passes : Char → Prop} [DecidablePred passes] {chars : List Char}
    (all : (chars.all fun char => decide (passes char)) = true) : ∀ char ∈ chars, passes char := by
  intro char member
  exact of_decide_eq_true (List.all_eq_true.mp all char member)

/-- `text[:limit]`. -/
def truncate (limit : Nat) (text : String) : String :=
  String.ofList (text.toList.take limit)

/-- `part in text`. -/
def Contains (part text : String) : Prop := part.toList <:+: text.toList

instance (part text : String) : Decidable (Contains part text) :=
  inferInstanceAs (Decidable (part.toList <:+: text.toList))

/-- Left-to-right removal of the occurrences of a non-empty pattern; `skip`
counts the characters of the current occurrence still to be dropped. -/
def removeFrom (pattern : List Char) : Nat → List Char → List Char
  | _, [] => []
  | skip + 1, _ :: rest => removeFrom pattern skip rest
  | 0, char :: rest =>
      if pattern.isPrefixOf (char :: rest) then removeFrom pattern (pattern.length - 1) rest
      else char :: removeFrom pattern 0 rest

/-- `text.replace(pattern, "")` for a non-empty pattern. -/
def removeAll (pattern text : String) : String :=
  String.ofList (removeFrom pattern.toList 0 text.toList)

/-- What is left of a text without the occurrences of a mark, looked for from
the left and without overlap. -/
inductive Without (mark : List Char) : List Char → List Char → Prop where
  | nil : Without mark [] []
  | drop {rest kept : List Char} (later : Without mark rest kept) : Without mark (mark ++ rest) kept
  | keep {char : Char} {rest kept : List Char} (other : ¬ mark <+: char :: rest)
      (later : Without mark rest kept) : Without mark (char :: rest) (char :: kept)

theorem removeFrom_skip (pattern first rest : List Char) :
    removeFrom pattern first.length (first ++ rest) = removeFrom pattern 0 rest := by
  induction first with
  | nil => rfl
  | cons char first inductionHypothesis => exact inductionHypothesis

theorem removeFrom_append (pattern rest : List Char) :
    removeFrom pattern 0 (pattern ++ rest) = removeFrom pattern 0 rest := by
  cases pattern with
  | nil => rfl
  | cons char more =>
      have found : (char :: more).isPrefixOf (char :: (more ++ rest)) = true :=
        List.isPrefixOf_iff_prefix.mpr (List.prefix_append _ _)
      rw [List.cons_append, removeFrom, if_pos found]
      exact removeFrom_skip _ more rest

/-- By induction on the length: an occurrence is dropped as a whole. -/
theorem without_removeFrom {mark : List Char} (nonempty : mark ≠ []) (text : List Char) :
    Without mark text (removeFrom mark 0 text) := by
  induction size : text.length using Nat.strongRecOn generalizing text with
  | _ length inductionHypothesis =>
      cases text with
      | nil => exact .nil
      | cons char rest =>
          by_cases found : mark <+: char :: rest
          · obtain ⟨later, split⟩ := found
            have shorter : later.length < length := by
              have positive := List.length_pos_iff.mpr nonempty
              rw [← size, ← split, List.length_append]
              omega
            rw [← split, removeFrom_append mark later]
            exact .drop (inductionHypothesis later.length shorter later rfl)
          · have shorter : rest.length < length := by
              rw [← size, List.length_cons]
              omega
            rw [removeFrom, if_neg fun isPrefix => found (List.isPrefixOf_iff_prefix.mp isPrefix)]
            exact .keep found (inductionHypothesis rest.length shorter rest rfl)

theorem without_iff {mark : List Char} (nonempty : mark ≠ []) {text kept : List Char} :
    Without mark text kept ↔ removeFrom mark 0 text = kept := by
  constructor
  · intro without
    induction without with
    | nil => rfl
    | drop later inductionHypothesis => rw [removeFrom_append, inductionHypothesis]
    | keep other later inductionHypothesis =>
        rw [removeFrom, if_neg fun isPrefix => other (List.isPrefixOf_iff_prefix.mp isPrefix),
          inductionHypothesis]
  · rintro rfl
    exact without_removeFrom nonempty text

/-- `char.isspace()`. -/
def isSpace (char : Char) : Bool :=
  decide (char.toNat ∈ [0x20, 0x85, 0xa0, 0x1680, 0x2028, 0x2029, 0x202f, 0x205f, 0x3000] ∨
    0x09 ≤ char.toNat ∧ char.toNat ≤ 0x0d ∨ 0x1c ≤ char.toNat ∧ char.toNat ≤ 0x1f ∨
    0x2000 ≤ char.toNat ∧ char.toNat ≤ 0x200a)

/-- Drop the characters at the end that satisfy the test. -/
def dropEndWhile (test : Char → Bool) (chars : List Char) : List Char :=
  (chars.reverse.dropWhile test).reverse

/-- `text.strip()`. -/
def strip (text : String) : String :=
  String.ofList (dropEndWhile isSpace (text.toList.dropWhile isSpace))

/-- `text.lstrip()`. -/
def lstrip (text : String) : String := String.ofList (text.toList.dropWhile isSpace)

/-- `text.strip(mark)`, of a single character. -/
def stripMark (mark : Char) (text : String) : String :=
  String.ofList (dropEndWhile (· == mark) (text.toList.dropWhile (· == mark)))

/-- `text.partition(mark)` of a single character, if the text holds it. -/
def partition? (mark : Char) (text : String) : Option (String × String) :=
  match text.toList.dropWhile (· != mark) with
  | [] => none
  | _ :: after => some (String.ofList (text.toList.takeWhile (· != mark)), String.ofList after)

/-- `text.rstrip("/")`. -/
def stripSlashes (text : String) : String :=
  String.ofList (dropEndWhile (· == '/') text.toList)

/-- `text[len(start):]` if `text.startswith(start)`. -/
def afterPrefix (start text : String) : Option String :=
  if start.toList.isPrefixOf text.toList then
    some (String.ofList (text.toList.drop start.toList.length))
  else none

def lowerChar (char : Char) : List Char :=
  if char = '\u212A' then ['k']
  else if char = '\u0130' then ['i', '\u0307']
  else [char.toLower]

/-- `text.lower()`. -/
def lower (text : String) : String := String.ofList (text.toList.flatMap lowerChar)

def hexDigit (value : Nat) : Char := "0123456789abcdef".toList.getD value '0'

def quotedChar (quote char : Char) : List Char :=
  if char = quote ∨ char = '\\' then ['\\', char]
  else if char = '\n' then ['\\', 'n']
  else if char = '\r' then ['\\', 'r']
  else if char = '\t' then ['\\', 't']
  else if char.toNat < 32 ∨ char.toNat = 127 then
    ['\\', 'x', hexDigit (char.toNat / 16), hexDigit (char.toNat % 16)]
  else [char]

/-- `repr(text)`: single quotes, unless the text holds some and no double quote. -/
def quoted (text : String) : String :=
  let chars := text.toList
  let quote := if '\'' ∈ chars ∧ '"' ∉ chars then '"' else '\''
  String.ofList (quote :: chars.flatMap (quotedChar quote) ++ [quote])

end AutoRouteGateway.Runtime

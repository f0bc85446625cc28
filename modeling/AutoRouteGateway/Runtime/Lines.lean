import Mathlib.Data.List.DropRight
import Mathlib.Data.List.TakeWhile
import AutoRouteGateway.Runtime.Text

/-!
Owns `str.splitlines` and what it and `str.strip` make of texts whose ends or
whose first line break are known.
-/

namespace AutoRouteGateway.Runtime

/-- The characters `str.splitlines` splits at. -/
def isLineBreak (char : Char) : Bool :=
  decide (char.toNat ∈ [0x0a, 0x0b, 0x0c, 0x0d, 0x1c, 0x1d, 0x1e, 0x85, 0x2028, 0x2029])

/-- The lines of a text from the current one on; a line feed right after a
carriage return belongs to the same break. -/
def splitFrom : (afterReturn : Bool) → (current : List Char) → List Char → List (List Char)
  | _, current, [] => if current = [] then [] else [current]
  | afterReturn, current, char :: rest =>
      if afterReturn = true ∧ char = '\n' then splitFrom false current rest
      else if isLineBreak char then current :: splitFrom (char == '\r') [] rest
      else splitFrom false (current ++ [char]) rest

/-- `text.splitlines()`. -/
def splitLines (text : String) : List String :=
  (splitFrom false [] text.toList).map String.ofList

example : splitLines "a\r\nb\n\nc\u2028d\n" = ["a", "b", "", "c", "d"] := by decide +kernel

/-- A line ends at its first break. -/
theorem splitFrom_line {line : List Char} (unbroken : ∀ char ∈ line, isLineBreak char = false)
    {char : Char} (breaks : isLineBreak char = true) (current rest : List Char) :
    splitFrom false current (line ++ char :: rest) =
      (current ++ line) :: splitFrom (char == '\r') [] rest := by
  induction line generalizing current with
  | nil => simp [splitFrom, breaks]
  | cons head line inductionHypothesis =>
      rw [List.forall_mem_cons] at unbroken
      rw [List.cons_append, splitFrom, if_neg (by simp), if_neg (by simp [unbroken.1]),
        inductionHypothesis unbroken.2, List.append_assoc]
      rfl

/-- A line feed ends the lines before it, where none of them is left open after a
carriage return. -/
theorem splitFrom_newline {line : List Char} (oneLine : '\n' ∉ line) (rest : List Char)
    {afterReturn : Bool} {current : List Char} (fresh : afterReturn = true → current = []) :
    splitFrom afterReturn current (line ++ '\n' :: rest) =
      splitFrom afterReturn current (line ++ ['\n']) ++ splitFrom false [] rest := by
  induction line generalizing afterReturn current with
  | nil =>
      cases afterReturn with
      | true =>
          rw [fresh rfl]
          simp [splitFrom]
      | false =>
          have breaks : isLineBreak '\n' = true := by decide
          simp [splitFrom, breaks]
  | cons char line inductionHypothesis =>
      rw [List.mem_cons, not_or] at oneLine
      have noFeed : ¬ (afterReturn = true ∧ char = '\n') := fun both => oneLine.1 both.2.symm
      rw [List.cons_append, List.cons_append, splitFrom, splitFrom, if_neg noFeed, if_neg noFeed]
      cases isLineBreak char with
      | true =>
          rw [if_pos rfl, if_pos rfl, List.cons_append,
            inductionHypothesis oneLine.2 fun _ => rfl]
      | false =>
          have closed : false = true → current ++ [char] = [] := by
            intro impossible
            cases impossible
          rw [if_neg Bool.false_ne_true, if_neg Bool.false_ne_true,
            inductionHypothesis oneLine.2 closed]

/-- A piece holds no line break. -/
theorem unbroken_of_mem_splitFrom {chars : List Char} {afterReturn : Bool} {current : List Char}
    (fresh : ∀ char ∈ current, isLineBreak char = false) {piece : List Char}
    (member : piece ∈ splitFrom afterReturn current chars) :
    ∀ char ∈ piece, isLineBreak char = false := by
  induction chars generalizing afterReturn current with
  | nil =>
      rw [splitFrom] at member
      split_ifs at member
      · cases member
      · rw [List.mem_singleton.mp member]
        exact fresh
  | cons head rest inductionHypothesis =>
      rw [splitFrom] at member
      split_ifs at member with joined breaks
      · exact inductionHypothesis fresh member
      · rcases List.mem_cons.mp member with rfl | later
        · exact fresh
        · exact inductionHypothesis (List.forall_mem_nil _) later
      · refine inductionHypothesis ?_ member
        intro char isChar
        rcases List.mem_append.mp isChar with before | last
        · exact fresh char before
        · rw [List.mem_singleton.mp last]
          simpa using breaks

/-- For a reader that ignores blank pieces, a line feed splits any text in two. -/
theorem filterMap_splitFrom_newline {α : Type} {read : List Char → Option α}
    (blank : read [] = none) (earlier later : List Char) {afterReturn : Bool}
    {current : List Char} (fresh : afterReturn = true → current = []) :
    (splitFrom afterReturn current (earlier ++ '\n' :: later)).filterMap read =
      (splitFrom afterReturn current earlier).filterMap read ++
        (splitFrom false [] later).filterMap read := by
  induction earlier generalizing afterReturn current with
  | nil =>
      cases afterReturn with
      | true =>
          rw [fresh rfl]
          simp [splitFrom]
      | false =>
          have breaks : isLineBreak '\n' = true := by decide
          by_cases empty : current = []
          · simp [splitFrom, breaks, empty, blank]
          · simp [splitFrom, breaks, empty, List.filterMap_cons]
            cases read current <;> rfl
  | cons char earlier inductionHypothesis =>
      rw [List.cons_append, splitFrom, splitFrom]
      by_cases joined : afterReturn = true ∧ char = '\n'
      · rw [if_pos joined, if_pos joined]
        exact inductionHypothesis fun impossible => Bool.noConfusion impossible
      · rw [if_neg joined, if_neg joined]
        cases isLineBreak char with
        | true =>
            rw [if_pos rfl, if_pos rfl, List.filterMap_cons, List.filterMap_cons,
              inductionHypothesis fun _ => rfl]
            cases read current <;> rfl
        | false =>
            rw [if_neg Bool.false_ne_true, if_neg Bool.false_ne_true]
            exact inductionHypothesis fun impossible => Bool.noConfusion impossible

/-! ## Stripping -/

theorem afterPrefix_ofList (start : String) (chars : List Char) :
    afterPrefix start (String.ofList chars) =
      if start.toList.isPrefixOf chars then
        some (String.ofList (chars.drop start.toList.length))
      else none := by
  simp only [afterPrefix, String.toList_ofList]

theorem dropWhile_append_cons {test : Char → Bool} (front : List Char) {char : Char}
    (kept : test char = false) (tail : List Char) :
    (front ++ char :: tail).dropWhile test = front.dropWhile test ++ char :: tail := by
  induction front with
  | nil => simp [kept]
  | cons head front inductionHypothesis =>
      rw [List.cons_append, List.dropWhile_cons, List.dropWhile_cons]
      split
      · exact inductionHypothesis
      · rfl

/-- Nothing before a character that stays is dropped. -/
theorem dropEndWhile_append_cons {test : Char → Bool} (front : List Char) {char : Char}
    (kept : test char = false) (tail : List Char) :
    dropEndWhile test (front ++ char :: tail) = front ++ char :: dropEndWhile test tail := by
  unfold dropEndWhile
  rw [List.reverse_append, List.reverse_cons, List.append_assoc, List.singleton_append,
    dropWhile_append_cons _ kept, List.reverse_append, List.reverse_cons, List.reverse_reverse,
    List.append_assoc]
  rfl

theorem dropEndWhile_parts (test : Char → Bool) (chars : List Char) :
    ∃ dropped, chars = dropEndWhile test chars ++ dropped ∧
      ∀ char ∈ dropped, test char = true := by
  refine ⟨(chars.reverse.takeWhile test).reverse, ?_, ?_⟩
  · unfold dropEndWhile
    rw [← List.reverse_append, List.takeWhile_append_dropWhile, List.reverse_reverse]
  · intro char member
    exact List.mem_takeWhile_imp (List.mem_reverse.mp member)

theorem dropEndWhile_dropEndWhile (test : Char → Bool) (chars : List Char) :
    dropEndWhile test (dropEndWhile test chars) = dropEndWhile test chars :=
  List.rdropWhile_idempotent test chars

/-- What stripping leaves of the characters. -/
def trim (test : Char → Bool) (chars : List Char) : List Char :=
  dropEndWhile test (chars.dropWhile test)

theorem trim_subset (test : Char → Bool) (chars : List Char) : trim test chars ⊆ chars := by
  obtain ⟨dropped, parts, -⟩ := dropEndWhile_parts test (chars.dropWhile test)
  intro char member
  apply (List.dropWhile_sublist test).subset
  rw [parts]
  exact List.mem_append_left _ member

theorem trim_cons {test : Char → Bool} {head : Char} (kept : test head = false)
    (tail : List Char) : trim test (head :: tail) = head :: dropEndWhile test tail := by
  unfold trim
  rw [List.dropWhile_cons_of_neg (by simp [kept])]
  exact dropEndWhile_append_cons [] kept tail

theorem trim_trim (test : Char → Bool) (chars : List Char) :
    trim test (trim test chars) = trim test chars := by
  cases rest : chars.dropWhile test with
  | nil => simp [trim, rest, dropEndWhile]
  | cons head tail =>
      have kept : test head = false := by
        have isHead := List.head?_dropWhile_not test chars
        rw [rest] at isHead
        simpa using isHead
      have once : trim test chars = head :: dropEndWhile test tail := by
        rw [trim, rest]
        exact dropEndWhile_append_cons [] kept tail
      rw [once, trim_cons kept, dropEndWhile_dropEndWhile]

/-- Nothing is stripped of a text that starts and ends with characters that stay. -/
theorem trim_eq_self {test : Char → Bool} {head last : Char} (headKept : test head = false)
    (lastKept : test last = false) (middle : List Char) :
    trim test (head :: middle ++ [last]) = head :: middle ++ [last] := by
  rw [List.cons_append, trim_cons headKept, dropEndWhile_append_cons middle lastKept]
  rfl

/-- A text that stripping leaves alone starts with no character to be dropped. -/
theorem dropWhile_of_trim {test : Char → Bool} {chars : List Char}
    (bare : trim test chars = chars) : chars.dropWhile test = chars := by
  cases chars with
  | nil => rfl
  | cons head tail =>
      by_cases dropped : test head = true
      · obtain ⟨ending, parts, -⟩ := dropEndWhile_parts test ((head :: tail).dropWhile test)
        have shorter := (List.dropWhile_sublist test (l := tail)).length_le
        rw [List.dropWhile_cons_of_pos dropped] at parts
        rw [trim, List.dropWhile_cons_of_pos dropped] at bare
        rw [bare] at parts
        rw [parts, List.length_append, List.length_cons] at shorter
        omega
      · exact List.dropWhile_cons_of_neg dropped

/-- A character on both sides of a bare text is stripped, and nothing else. -/
theorem trim_enclosed {test : Char → Bool} {char : Char} (dropped : test char = true)
    {chars : List Char} (bare : trim test chars = chars) :
    trim test (char :: chars ++ [char]) = chars := by
  have ending : dropEndWhile test (chars ++ [char]) = dropEndWhile test chars := by
    rw [dropEndWhile, List.reverse_append, List.reverse_singleton, List.singleton_append,
      List.dropWhile_cons_of_pos dropped]
    rfl
  have front := dropWhile_of_trim bare
  rw [trim, List.cons_append, List.dropWhile_cons_of_pos dropped]
  cases chars with
  | nil => simp [dropped, dropEndWhile]
  | cons head tail =>
      have kept : test head = false := by
        by_contra first
        have shorter := (List.dropWhile_sublist test (l := tail)).length_le
        rw [List.dropWhile_cons_of_pos (by simpa using first)] at front
        rw [front, List.length_cons] at shorter
        omega
      rw [List.cons_append, List.dropWhile_cons_of_neg (by simp [kept]), ← List.cons_append, ending]
      rw [trim, front] at bare
      exact bare

/-- Stripping a text that starts with a character that is no space. -/
theorem toList_strip_cons {head : Char} (visible : isSpace head = false) (tail : List Char) :
    (strip (String.ofList (head :: tail))).toList = head :: dropEndWhile isSpace tail := by
  unfold strip
  rw [String.toList_ofList, String.toList_ofList, List.dropWhile_cons_of_neg (by simp [visible])]
  exact dropEndWhile_append_cons [] visible tail

end AutoRouteGateway.Runtime

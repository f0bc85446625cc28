import AutoRouteGateway.Config.Schema
import AutoRouteGateway.Library.ScopeChain
import AutoRouteGateway.Runtime.Lines

/-!
Contract: the file of secrets, and what the resolver of a loaded configuration
makes of it.

Owns: the reader of the file, the assignments that a file can hold, a line for
each of them, and the order in which the sources of a secret are consulted.

Does not own: whether the file exists and how it is decoded.
-/

namespace AutoRouteGateway.Config

open AutoRouteGateway.Library
open AutoRouteGateway.Runtime

/-! ## The reader -/

/-- The line without its `export`, if it has one. -/
def exported (line : String) : String :=
  match afterPrefix "export " line with
  | some rest => lstrip rest
  | none => line

/-- The assignment of one line, if it holds one. -/
def assignment (line : String) : Option (String × String) :=
  let line := strip line
  if line = "" ∨ (afterPrefix "#" line).isSome = true then none
  else
    (partition? '=' (exported line)).map fun parts =>
      (strip parts.1, stripMark '\'' (stripMark '"' (strip parts.2)))

def assignments (text : String) : List (String × String) :=
  (splitLines text).filterMap assignment

/-- `load_dotenv`; there may be no file. -/
def loadDotenv (file : Option String) (target : UpsertTable String String) :
    UpsertTable String String :=
  match file with
  | none => target
  | some text => (assignments text).foldl (fun table pair => table.upsert pair.1 pair.2) target

/-- The resolver of `load_gateway_config`. -/
def loadResolver (file : Option String) (env environ : UpsertTable String String) :
    SecretResolver where
  env := env.rows.foldl (fun table pair => table.upsert pair.1 pair.2) (loadDotenv file .empty)
  environ := environ

/-! ## The assignments of a file -/

/-- The name is bare and holds no equals sign, the value is not in single
quotes, and neither breaks the line. -/
structure Loadable (pair : String × String) : Prop where
  stripped : strip pair.1 = pair.1
  noEquals : '=' ∉ pair.1.toList
  nameLine : ∀ char ∈ pair.1.toList, isLineBreak char = false
  unquoted : stripMark '\'' pair.2 = pair.2
  valueLine : ∀ char ∈ pair.2.toList, isLineBreak char = false

theorem toList_strip (text : String) : (strip text).toList = trim isSpace text.toList :=
  String.toList_ofList

theorem toList_stripMark (mark : Char) (text : String) :
    (stripMark mark text).toList = trim (· == mark) text.toList :=
  String.toList_ofList

theorem strip_strip (text : String) : strip (strip text) = strip text := by
  apply String.toList_injective
  rw [toList_strip, toList_strip, trim_trim]

theorem stripMark_stripMark (mark : Char) (text : String) :
    stripMark mark (stripMark mark text) = stripMark mark text := by
  apply String.toList_injective
  rw [toList_stripMark, toList_stripMark, trim_trim]

theorem exported_subset (line : String) : (exported line).toList ⊆ line.toList := by
  unfold exported
  split
  · rename_i rest isRest
    unfold afterPrefix at isRest
    split_ifs at isRest
    cases isRest
    rw [lstrip, String.toList_ofList, String.toList_ofList]
    exact ((List.dropWhile_sublist _).trans (List.drop_sublist _ _)).subset
  · exact List.Subset.refl _

/-- The parts around the first mark. -/
theorem partition?_eq_some {mark : Char} {text : String} {parts : String × String}
    (isSplit : partition? mark text = some parts) :
    text.toList = parts.1.toList ++ mark :: parts.2.toList ∧ mark ∉ parts.1.toList := by
  unfold partition? at isSplit
  split at isSplit
  · cases isSplit
  · rename_i head after isRest
    cases isSplit
    rw [String.toList_ofList, String.toList_ofList]
    have isMark : head = mark := by
      have stops := List.head?_dropWhile_not (fun other => other != mark) text.toList
      rw [isRest] at stops
      simpa using stops
    constructor
    · rw [← isMark, ← isRest, isMark]
      exact List.takeWhile_append_dropWhile.symm
    · intro member
      simpa using List.mem_takeWhile_imp member

theorem partition?_of_notMem {mark : Char} {before : List Char} (absent : mark ∉ before)
    (after : List Char) :
    partition? mark (String.ofList (before ++ mark :: after)) =
      some (String.ofList before, String.ofList after) := by
  have passes : ∀ char ∈ before, (char != mark) = true := by
    intro char member
    exact bne_iff_ne.mpr fun same => absent (same ▸ member)
  have rest : (before ++ mark :: after).dropWhile (· != mark) = mark :: after := by
    rw [List.dropWhile_append_of_pos passes]
    exact List.dropWhile_cons_of_neg (by simp)
  have front : (before ++ mark :: after).takeWhile (· != mark) = before := by
    rw [List.takeWhile_append_of_pos passes, List.takeWhile_cons_of_neg (by simp),
      List.append_nil]
  unfold partition?
  rw [String.toList_ofList, rest, front]

/-- What a line assigns is loadable. -/
theorem loadable_of_assignment {line : String}
    (oneLine : ∀ char ∈ line.toList, isLineBreak char = false) {pair : String × String}
    (assigned : assignment line = some pair) : Loadable pair := by
  unfold assignment at assigned
  dsimp only at assigned
  split_ifs at assigned
  obtain ⟨parts, isSplit, rfl⟩ := Option.map_eq_some_iff.mp assigned
  obtain ⟨whole, noMark⟩ := partition?_eq_some isSplit
  have within : ∀ char ∈ (exported (strip line)).toList, isLineBreak char = false := by
    intro char member
    have inStripped := exported_subset (strip line) member
    rw [toList_strip] at inStripped
    exact oneLine char (trim_subset isSpace _ inStripped)
  rw [whole] at within
  refine ⟨strip_strip parts.1, ?_, ?_, stripMark_stripMark '\'' _, ?_⟩
  · rw [toList_strip]
    exact fun member => noMark (trim_subset isSpace _ member)
  · intro char member
    rw [toList_strip] at member
    exact within char (List.mem_append_left _ (trim_subset isSpace _ member))
  · intro char member
    rw [toList_stripMark, toList_stripMark, toList_strip] at member
    have inValue := trim_subset isSpace _ (trim_subset _ _ (trim_subset _ _ member))
    exact within char (List.mem_append_right _ (List.mem_cons_of_mem _ inValue))

theorem loadable_of_mem {text : String} {pair : String × String}
    (member : pair ∈ assignments text) : Loadable pair := by
  obtain ⟨line, isLine, assigned⟩ := List.mem_filterMap.mp member
  obtain ⟨piece, isPiece, rfl⟩ := List.mem_map.mp isLine
  have oneLine := unbroken_of_mem_splitFrom (List.forall_mem_nil _) isPiece
  exact loadable_of_assignment (by rwa [String.toList_ofList]) assigned

/-! ## A line for an assignment -/

/-- The assignment with `export`, its value in single quotes. -/
def assignmentLine (pair : String × String) : List Char :=
  "export ".toList ++ (pair.1.toList ++ '=' :: '\'' :: pair.2.toList ++ ['\''])

def dotenvText (pairs : List (String × String)) : String :=
  String.ofList (pairs.flatMap fun pair => assignmentLine pair ++ ['\n'])

theorem exported_assignmentLine {pair : String × String} (loadable : Loadable pair) :
    exported (String.ofList (assignmentLine pair)) =
      String.ofList (pair.1.toList ++ '=' :: '\'' :: pair.2.toList ++ ['\'']) := by
  have start : afterPrefix "export " (String.ofList (assignmentLine pair)) =
      some (String.ofList (pair.1.toList ++ '=' :: '\'' :: pair.2.toList ++ ['\''])) := by
    unfold assignmentLine
    rw [afterPrefix_ofList, if_pos (List.isPrefixOf_iff_prefix.mpr (List.prefix_append _ _)),
      List.drop_left]
  have bare : trim isSpace pair.1.toList = pair.1.toList := by
    rw [← toList_strip, loadable.stripped]
  rw [exported, start]
  dsimp only
  rw [lstrip, String.toList_ofList, List.append_assoc, List.cons_append,
    dropWhile_append_cons _ (by decide), dropWhile_of_trim bare]

theorem assignment_assignmentLine {pair : String × String} (loadable : Loadable pair) :
    assignment (String.ofList (assignmentLine pair)) = some pair := by
  have visible : strip (String.ofList (assignmentLine pair)) =
      String.ofList (assignmentLine pair) := by
    apply String.toList_injective
    rw [toList_strip, String.toList_ofList]
    exact @trim_eq_self isSpace 'e' '\'' (by decide) (by decide)
      ("xport ".toList ++ (pair.1.toList ++ '=' :: '\'' :: pair.2.toList))
  have starts : ¬ (String.ofList (assignmentLine pair) = "" ∨
      (afterPrefix "#" (String.ofList (assignmentLine pair))).isSome = true) := by
    rintro (empty | comment)
    · have noChars := congrArg String.toList empty
      rw [String.toList_ofList] at noChars
      cases noChars
    · rw [afterPrefix_ofList] at comment
      cases comment
  have quotedValue : strip (String.ofList ('\'' :: pair.2.toList ++ ['\''])) =
      String.ofList ('\'' :: pair.2.toList ++ ['\'']) := by
    apply String.toList_injective
    rw [toList_strip, String.toList_ofList]
    exact trim_eq_self (by decide) (by decide) _
  have otherQuote : stripMark '"' (String.ofList ('\'' :: pair.2.toList ++ ['\''])) =
      String.ofList ('\'' :: pair.2.toList ++ ['\'']) := by
    apply String.toList_injective
    rw [toList_stripMark, String.toList_ofList]
    exact trim_eq_self (by decide) (by decide) _
  have value : stripMark '\'' (String.ofList ('\'' :: pair.2.toList ++ ['\''])) = pair.2 := by
    apply String.toList_injective
    rw [toList_stripMark, String.toList_ofList]
    apply trim_enclosed (by decide)
    rw [← toList_stripMark, loadable.unquoted]
  unfold assignment
  dsimp only
  rw [visible, if_neg starts, exported_assignmentLine loadable, List.append_assoc,
    List.cons_append, partition?_of_notMem loadable.noEquals]
  dsimp only [Option.map_some]
  rw [String.ofList_toList, loadable.stripped, quotedValue, otherQuote, value]

theorem assignmentLine_unbroken {pair : String × String} (loadable : Loadable pair) :
    ∀ char ∈ assignmentLine pair, isLineBreak char = false := by
  unfold assignmentLine
  intro char member
  rcases List.mem_append.mp member with start | rest
  · have whole : ∀ char ∈ "export ".toList, isLineBreak char = false :=
      forall_mem_of_all (by decide)
    exact whole char start
  rcases List.mem_append.mp rest with front | last
  · rcases List.mem_append.mp front with name | value
    · exact loadable.nameLine char name
    · rcases List.mem_cons.mp value with rfl | value
      · decide
      rcases List.mem_cons.mp value with rfl | value
      · decide
      · exact loadable.valueLine char value
  · rw [List.mem_singleton.mp last]
    decide

theorem assignments_dotenvText {pairs : List (String × String)}
    (loadable : ∀ pair ∈ pairs, Loadable pair) : assignments (dotenvText pairs) = pairs := by
  unfold assignments splitLines dotenvText
  rw [String.toList_ofList]
  induction pairs with
  | nil => rfl
  | cons pair rest inductionHypothesis =>
      rw [List.forall_mem_cons] at loadable
      rw [List.flatMap_cons, List.append_assoc, List.singleton_append,
        splitFrom_line (assignmentLine_unbroken loadable.1) (by decide), List.nil_append,
        List.map_cons, List.filterMap_cons, assignment_assignmentLine loadable.1]
      dsimp only
      exact congrArg (pair :: ·) (inductionHypothesis loadable.2)

/-- A file can hold exactly the lists of loadable assignments. -/
theorem file_holds_iff (wanted : List (String × String)) :
    (∃ text, assignments text = wanted) ↔ ∀ pair ∈ wanted, Loadable pair := by
  constructor
  · rintro ⟨text, rfl⟩ pair member
    exact loadable_of_mem member
  · intro loadable
    exact ⟨dotenvText wanted, assignments_dotenvText loadable⟩

/-! ## The sources of a secret -/

/-- A line feed splits a file, wherever it stands. -/
theorem assignments_newline (earlier later : String) :
    assignments (earlier ++ "\n" ++ later) = assignments earlier ++ assignments later := by
  unfold assignments splitLines
  rw [List.filterMap_map, List.filterMap_map, List.filterMap_map, String.toList_append,
    String.toList_append, List.append_assoc]
  apply filterMap_splitFrom_newline (by decide +kernel)
  intro afterReturn
  cases afterReturn

theorem get?_foldl_upsert (pairs : List (String × String)) (table : UpsertTable String String)
    (name : String) :
    (pairs.foldl (fun table pair => table.upsert pair.1 pair.2) table).get? name =
      (latest pairs name).or (table.get? name) := by
  have own (table : UpsertTable String String) (pair : String × String) :
      (table.upsert pair.1 pair.2).get? = replay [pair] table.get? :=
    UpsertTable.get?_upsert_eq_update table pair.1 pair.2
  have replayed := rows_foldl _ UpsertTable.get? some own pairs table
  rw [replayed, List.filterMap_some, replay_apply]

/-- With unique names the last assignment is the one that is looked up. -/
theorem latest_rows (table : UpsertTable String String) (name : String) :
    latest table.rows name = table.get? name := by
  have reversed := lookupRows_perm (List.reverse_perm table.rows) table.keysNodup name
  rw [UpsertTable.get?, ← reversed, lookupRows_eq_head?_filter, List.head?_filter]
  rfl

/-- The value of a name: the variables given to the loader come first, then the
last line of the file for the name, then the variables of the process. An empty
value stands for no secret. -/
theorem resolve_loadResolver (text : String) (env environ : UpsertTable String String)
    (name : String) :
    (loadResolver (some text) env environ).resolve name =
      ((env.get? name).or ((latest (assignments text) name).or (environ.get? name))).filter
        (· ≠ "") := by
  have merged : (loadResolver (some text) env environ).env.get? name =
      (env.get? name).or (latest (assignments text) name) := by
    rw [loadResolver]
    dsimp only [loadDotenv]
    rw [get?_foldl_upsert, get?_foldl_upsert, latest_rows]
    exact congrArg _ Option.or_none
  have environment : (loadResolver (some text) env environ).environ = environ := rfl
  rw [SecretResolver.resolve, merged, environment, ← Option.or_assoc]
  cases (env.get? name).or (latest (assignments text) name) with
  | some value => by_cases empty : value = "" <;> simp [empty, Option.filter]
  | none =>
      cases environ.get? name with
      | some value => by_cases empty : value = "" <;> simp [empty, Option.filter]
      | none => rfl

/-- The line `export NAME='VALUE'` appended to a file, whatever the file holds,
decides its own name unless the loader was given a variable of this name, and no
other name. -/
theorem appended_line_decides (text : String) {pair : String × String} (loadable : Loadable pair)
    (env environ : UpsertTable String String) (name : String) :
    (loadResolver (some (text ++ "\n" ++ dotenvText [pair])) env environ).resolve name =
      if name = pair.1 ∧ env.get? name = none then (some pair.2).filter (· ≠ "")
      else (loadResolver (some text) env environ).resolve name := by
  have appended : latest (assignments (text ++ "\n" ++ dotenvText [pair])) name =
      if pair.1 = name then some pair.2 else latest (assignments text) name := by
    rw [assignments_newline, assignments_dotenvText (List.forall_mem_singleton.mpr loadable),
      latest_append_singleton]
  rw [resolve_loadResolver, resolve_loadResolver, appended]
  cases given : env.get? name with
  | some value =>
      have notOwn : ¬ (name = pair.1 ∧ some value = none) :=
        fun both => Option.some_ne_none value both.2
      rw [if_neg notOwn]
      rfl
  | none =>
      by_cases own : name = pair.1
      · rw [if_pos own.symm, if_pos ⟨own, rfl⟩]
        rfl
      · have notOwn : ¬ (name = pair.1 ∧ (none : Option String) = none) := fun both => own both.1
        rw [if_neg (Ne.symm own), if_neg notOwn]

/-- Below a line that was left open and quoted otherwise. -/
theorem appended_line_decides_rotated :
    (loadResolver (some ("KEY = \"old\" " ++ "\n" ++ dotenvText [("KEY", "a=b ")])) .empty
      .empty).resolve "KEY" = some "a=b " := by
  have loadable : Loadable ("KEY", "a=b ") :=
    ⟨by decide +kernel, by decide, forall_mem_of_all (by decide), by decide +kernel,
      forall_mem_of_all (by decide)⟩
  exact appended_line_decides "KEY = \"old\" " loadable .empty .empty "KEY"

end AutoRouteGateway.Config

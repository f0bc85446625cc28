import Mathlib.Data.List.Induction
import Mathlib.Data.List.Pairwise
import Mathlib.Tactic.SplitIfs

/-!
Contract: `INSERT ... ON CONFLICT (key) DO UPDATE` on a table whose key has
components that may be absent.

A row conflicts only with a row of the same complete key, so a key with an
absent component never finds the row it inserted before. The table carries what
the engine enforces: no two rows with one complete key.

Owns: the statement, and the rows that a history of statements leaves for each
key.

Does not own: what keys and columns are, and how a row absorbs another.
-/

namespace AutoRouteGateway.Library

universe u v

section Rows

variable {κ : Type u} {ν : Type v} [DecidableEq κ] (complete : κ → Bool) (absorb : ν → ν → ν)

/-- Let the row of a complete key absorb the new values, or append a new row. -/
def insertOrUpdate (key : κ) (value : ν) : List (κ × ν) → List (κ × ν)
  | [] => [(key, value)]
  | row :: rest =>
      if complete key = true ∧ row.1 = key then (key, absorb row.2 value) :: rest
      else row :: insertOrUpdate key value rest

/-- The values stored under a key, in row order. -/
def rowsOf (key : κ) (rows : List (κ × ν)) : List ν :=
  (rows.filter fun row => decide (row.1 = key)).map Prod.snd

@[simp] theorem rowsOf_nil (key : κ) : rowsOf key ([] : List (κ × ν)) = [] := rfl

theorem rowsOf_cons (key : κ) (row : κ × ν) (rows : List (κ × ν)) :
    rowsOf key (row :: rows) =
      if row.1 = key then row.2 :: rowsOf key rows else rowsOf key rows := by
  unfold rowsOf
  rw [List.filter_cons]
  by_cases same : row.1 = key <;> simp [same]

theorem rowsOf_append (key : κ) (earlier later : List (κ × ν)) :
    rowsOf key (earlier ++ later) = rowsOf key earlier ++ rowsOf key later := by
  simp only [rowsOf, List.filter_append, List.map_append]

theorem rowsOf_eq_nil_iff {key : κ} {rows : List (κ × ν)} :
    rowsOf key rows = [] ↔ ∀ row ∈ rows, row.1 ≠ key := by
  simp [rowsOf, List.filter_eq_nil_iff]

/-- What the statement makes of the values of its own key. -/
def absorbed (value : ν) : List ν → List ν
  | [] => [value]
  | old :: more => absorb old value :: more

theorem rowsOf_insertOrUpdate_of_ne {key other : κ} (different : other ≠ key) (value : ν)
    (rows : List (κ × ν)) :
    rowsOf other (insertOrUpdate complete absorb key value rows) = rowsOf other rows := by
  induction rows with
  | nil => simp [insertOrUpdate, rowsOf_cons, different.symm]
  | cons row rest inductionHypothesis =>
      unfold insertOrUpdate
      split_ifs with conflict
      · rw [rowsOf_cons, rowsOf_cons, if_neg different.symm, if_neg (conflict.2 ▸ different.symm)]
      · rw [rowsOf_cons, rowsOf_cons, inductionHypothesis]

theorem rowsOf_insertOrUpdate_complete {key : κ} (isComplete : complete key = true) (value : ν)
    (rows : List (κ × ν)) :
    rowsOf key (insertOrUpdate complete absorb key value rows) =
      absorbed absorb value (rowsOf key rows) := by
  induction rows with
  | nil => simp [insertOrUpdate, rowsOf_cons, absorbed]
  | cons row rest inductionHypothesis =>
      unfold insertOrUpdate
      by_cases same : row.1 = key
      · rw [if_pos ⟨isComplete, same⟩, rowsOf_cons, rowsOf_cons, if_pos rfl, if_pos same, absorbed]
      · rw [if_neg (fun conflict => same conflict.2), rowsOf_cons, rowsOf_cons, if_neg same,
          if_neg same, inductionHypothesis]

theorem rowsOf_insertOrUpdate_incomplete {key : κ} (partialKey : complete key = false) (value : ν)
    (rows : List (κ × ν)) :
    rowsOf key (insertOrUpdate complete absorb key value rows) = rowsOf key rows ++ [value] := by
  induction rows with
  | nil => simp [insertOrUpdate, rowsOf_cons]
  | cons row rest inductionHypothesis =>
      unfold insertOrUpdate
      rw [if_neg (by simp [partialKey]), rowsOf_cons, rowsOf_cons, inductionHypothesis]
      split_ifs <;> rfl

/-- No two rows share a complete key. -/
def KeysDistinct (rows : List (κ × ν)) : Prop :=
  rows.Pairwise fun left right => ¬ (complete left.1 = true ∧ left.1 = right.1)

theorem mem_insertOrUpdate {key : κ} {value : ν} {rows : List (κ × ν)} {row : κ × ν}
    (member : row ∈ insertOrUpdate complete absorb key value rows) :
    row.1 = key ∨ row ∈ rows := by
  induction rows with
  | nil => exact Or.inl (congrArg Prod.fst (List.mem_singleton.mp member))
  | cons head rest inductionHypothesis =>
      unfold insertOrUpdate at member
      split_ifs at member
      · rcases List.mem_cons.mp member with same | later
        · exact Or.inl (congrArg Prod.fst same)
        · exact Or.inr (List.mem_cons_of_mem _ later)
      · rcases List.mem_cons.mp member with same | later
        · exact Or.inr (same ▸ List.mem_cons_self)
        · exact (inductionHypothesis later).imp_right (List.mem_cons_of_mem _)

theorem keysDistinct_insertOrUpdate {key : κ} {value : ν} {rows : List (κ × ν)}
    (distinct : KeysDistinct complete rows) :
    KeysDistinct complete (insertOrUpdate complete absorb key value rows) := by
  induction rows with
  | nil => exact List.pairwise_singleton _ _
  | cons row rest inductionHypothesis =>
      obtain ⟨fresh, distinctRest⟩ := List.pairwise_cons.mp distinct
      unfold insertOrUpdate
      split_ifs with conflict
      · refine List.pairwise_cons.mpr ⟨?_, distinctRest⟩
        intro other member
        exact conflict.2 ▸ fresh other member
      · refine List.pairwise_cons.mpr ⟨?_, inductionHypothesis distinctRest⟩
        intro other member both
        rcases mem_insertOrUpdate complete absorb member with isKey | isOld
        · exact conflict ⟨isKey ▸ both.2 ▸ both.1, both.2.trans isKey⟩
        · exact fresh other isOld both

/-! ## Histories of statements -/

/-- The rows after a history of statements on an empty table, oldest first. -/
def insertAll (calls : List (κ × ν)) : List (κ × ν) :=
  calls.foldl (fun rows call => insertOrUpdate complete absorb call.1 call.2 rows) []

/-- The values of all statements with one key, absorbed by the first of them. -/
def total : List ν → List ν
  | [] => []
  | first :: more => [more.foldl absorb first]

theorem absorbed_total (value : ν) (values : List ν) :
    absorbed absorb value (total absorb values) = total absorb (values ++ [value]) := by
  cases values with
  | nil => rfl
  | cons first more => simp [absorbed, total]

/-- A complete key has one row with all values absorbed, and a key with an absent
component has one row for each statement. -/
theorem rowsOf_insertAll (key : κ) (calls : List (κ × ν)) :
    rowsOf key (insertAll complete absorb calls) =
      if complete key = true then total absorb (rowsOf key calls) else rowsOf key calls := by
  induction calls using List.reverseRecOn with
  | nil => simp [insertAll, total]
  | append_singleton calls call inductionHypothesis =>
      have last : insertAll complete absorb (calls ++ [call]) =
          insertOrUpdate complete absorb call.1 call.2 (insertAll complete absorb calls) := by
        simp [insertAll]
      rw [last, rowsOf_append, rowsOf_cons, rowsOf_nil]
      by_cases same : call.1 = key
      · subst same
        rw [if_pos rfl]
        cases isComplete : complete call.1 with
        | true =>
            rw [rowsOf_insertOrUpdate_complete complete absorb isComplete, inductionHypothesis,
              if_pos isComplete, absorbed_total, if_pos rfl]
        | false =>
            rw [rowsOf_insertOrUpdate_incomplete complete absorb isComplete, inductionHypothesis,
              isComplete]
            rfl
      · rw [rowsOf_insertOrUpdate_of_ne complete absorb (Ne.symm same), inductionHypothesis,
          if_neg same, List.append_nil]

/-- Every key of the history has exactly one row, with all its values absorbed,
exactly if no key with an absent component occurs twice. -/
theorem rowsOf_insertAll_eq_total_iff (calls : List (κ × ν)) :
    (∀ key, rowsOf key (insertAll complete absorb calls) = total absorb (rowsOf key calls)) ↔
      ∀ key, complete key = false → (rowsOf key calls).length ≤ 1 := by
  apply forall_congr'
  intro key
  rw [rowsOf_insertAll]
  cases complete key with
  | true => simp
  | false =>
      simp only [Bool.false_eq_true, if_false, forall_const]
      constructor
      · intro same
        rw [same]
        cases rowsOf key calls <;> simp [total]
      · intro short
        match rowsOf key calls, short with
        | [], _ => rfl
        | [value], _ => rfl

end Rows

/-- A table with a nullable key. -/
structure NullableTable {κ : Type u} (complete : κ → Bool) (ν : Type v) where
  rows : List (κ × ν)
  keysDistinct : KeysDistinct complete rows

namespace NullableTable

variable {κ : Type u} {ν : Type v} [DecidableEq κ] {complete : κ → Bool}

def empty : NullableTable complete ν := ⟨[], List.Pairwise.nil⟩

/-- Insert, or update on conflict. -/
def insertOrUpdate (absorb : ν → ν → ν) (key : κ) (value : ν) (table : NullableTable complete ν) :
    NullableTable complete ν :=
  ⟨Library.insertOrUpdate complete absorb key value table.rows,
    keysDistinct_insertOrUpdate complete absorb table.keysDistinct⟩

/-- The table after a history of statements, oldest first. -/
def insertAll (absorb : ν → ν → ν) (calls : List (κ × ν)) : NullableTable complete ν :=
  calls.foldl (fun table call => table.insertOrUpdate absorb call.1 call.2) empty

theorem rows_insertAll (absorb : ν → ν → ν) (calls : List (κ × ν)) :
    (insertAll absorb calls : NullableTable complete ν).rows =
      Library.insertAll complete absorb calls := by
  induction calls using List.reverseRecOn with
  | nil => rfl
  | append_singleton calls call inductionHypothesis =>
      simp only [insertAll, Library.insertAll, List.foldl_append, List.foldl_cons, List.foldl_nil]
      exact congrArg (Library.insertOrUpdate complete absorb call.1 call.2) inductionHypothesis

end NullableTable

end AutoRouteGateway.Library

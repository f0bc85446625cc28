import Mathlib.Data.List.Nodup
import Mathlib.Logic.Function.Basic

/-!
Contract: insertion-ordered tables with unique keys.

A table is what `INSERT ... ON CONFLICT (key) DO UPDATE` and an
insertion-ordered dictionary both maintain: a row with a new key goes to the
end, a row with a known key is replaced where it stands. Uniqueness of keys is
a field, so a table with two rows for one key cannot be built.

Owns: `upsert`, `get?`, `mapValues`, and their laws.

Does not own: what keys and values mean, or which keys a reader consults.
-/

namespace AutoRouteGateway.Library

universe u v w

variable {κ : Type u} {ν : Type v} [DecidableEq κ]

/-- Replace the row of `key` in place, or append a new row. -/
def upsertRows (key : κ) (value : ν) : List (κ × ν) → List (κ × ν)
  | [] => [(key, value)]
  | row :: rest =>
      if row.1 = key then (key, value) :: rest else row :: upsertRows key value rest

theorem upsertRows_ne_nil (key : κ) (value : ν) (rows : List (κ × ν)) :
    upsertRows key value rows ≠ [] := by
  cases rows with
  | nil => exact List.cons_ne_nil _ _
  | cons row rest =>
      unfold upsertRows
      split <;> exact List.cons_ne_nil _ _

/-- The value of the first row with `key`. -/
def lookupRows (key : κ) : List (κ × ν) → Option ν
  | [] => none
  | row :: rest => if row.1 = key then some row.2 else lookupRows key rest

/-- With unique keys, every row is the one its key finds. -/
theorem lookupRows_eq_some_of_mem {rows : List (κ × ν)} (nodup : (rows.map Prod.fst).Nodup)
    {row : κ × ν} (member : row ∈ rows) : lookupRows row.1 rows = some row.2 := by
  induction rows with
  | nil => cases member
  | cons head rest inductionHypothesis =>
      rw [List.map_cons, List.nodup_cons] at nodup
      rcases List.mem_cons.mp member with same | later
      · simp [lookupRows, same]
      · have different : head.1 ≠ row.1 := by
          intro same
          exact nodup.1 (same ▸ List.mem_map_of_mem later)
        simp [lookupRows, different, inductionHypothesis nodup.2 later]

/-- What a key finds is the value of a row with the key. -/
theorem mem_of_lookupRows_eq_some {rows : List (κ × ν)} {key : κ} {value : ν}
    (found : lookupRows key rows = some value) : ∃ row ∈ rows, row.1 = key ∧ row.2 = value := by
  induction rows with
  | nil => cases found
  | cons head rest inductionHypothesis =>
      by_cases same : head.1 = key
      · rw [lookupRows, if_pos same] at found
        exact ⟨head, List.mem_cons_self, same, Option.some.inj found⟩
      · rw [lookupRows, if_neg same] at found
        obtain ⟨row, member, isRow⟩ := inductionHypothesis found
        exact ⟨row, List.mem_cons_of_mem _ member, isRow⟩

/-- The first row of a key is the one that the key finds. -/
theorem lookupRows_eq_head?_filter (key : κ) (rows : List (κ × ν)) :
    lookupRows key rows = (rows.filter fun row => row.1 = key).head?.map Prod.snd := by
  induction rows with
  | nil => rfl
  | cons row rest inductionHypothesis =>
      by_cases same : row.1 = key
      · simp [lookupRows, same]
      · have notKey : ¬ decide (row.1 = key) = true := by simpa using same
        rw [lookupRows, if_neg same, List.filter_cons, if_neg notKey, inductionHypothesis]

/-- With unique keys, the order of the rows does not change what a key finds. -/
theorem lookupRows_perm {rows permuted : List (κ × ν)} (isPerm : permuted.Perm rows)
    (nodup : (rows.map Prod.fst).Nodup) (key : κ) :
    lookupRows key permuted = lookupRows key rows := by
  have permutedNodup : (permuted.map Prod.fst).Nodup := (isPerm.map Prod.fst).nodup_iff.mpr nodup
  apply Option.ext
  intro value
  constructor
  · intro found
    obtain ⟨row, member, rfl, rfl⟩ := mem_of_lookupRows_eq_some found
    exact lookupRows_eq_some_of_mem nodup (isPerm.mem_iff.mp member)
  · intro found
    obtain ⟨row, member, rfl, rfl⟩ := mem_of_lookupRows_eq_some found
    exact lookupRows_eq_some_of_mem permutedNodup (isPerm.mem_iff.mpr member)

theorem mem_keys_upsertRows {key other : κ} {value : ν} {rows : List (κ × ν)} :
    other ∈ (upsertRows key value rows).map Prod.fst ↔
      other = key ∨ other ∈ rows.map Prod.fst := by
  induction rows with
  | nil => simp [upsertRows]
  | cons row rest inductionHypothesis =>
      by_cases same : row.1 = key
      · simp [upsertRows, same]
      · simp only [upsertRows, if_neg same, List.map_cons, List.mem_cons,
          inductionHypothesis]
        tauto

theorem upsertRows_of_notMem {key : κ} {value : ν} {rows : List (κ × ν)}
    (fresh : key ∉ rows.map Prod.fst) : upsertRows key value rows = rows ++ [(key, value)] := by
  induction rows with
  | nil => rfl
  | cons row rest inductionHypothesis =>
      rw [List.map_cons, List.mem_cons, not_or] at fresh
      rw [upsertRows, if_neg (Ne.symm fresh.1), inductionHypothesis fresh.2, List.cons_append]

/-- Inserting rows with new keys one by one appends them. -/
theorem foldl_upsertRows_of_nodup {rows added : List (κ × ν)}
    (nodup : ((rows ++ added).map Prod.fst).Nodup) :
    added.foldl (fun table row => upsertRows row.1 row.2 table) rows = rows ++ added := by
  induction added generalizing rows with
  | nil => exact (List.append_nil rows).symm
  | cons row rest inductionHypothesis =>
      have fresh : row.1 ∉ rows.map Prod.fst := by
        intro known
        rw [List.map_append, List.nodup_append] at nodup
        exact nodup.2.2 row.1 known row.1 (by simp) rfl
      have together : rows ++ [row] ++ rest = rows ++ row :: rest :=
        List.append_cons rows row rest ▸ rfl
      rw [List.foldl_cons, upsertRows_of_notMem fresh, inductionHypothesis (together ▸ nodup),
        together]

theorem keys_upsertRows_nodup {key : κ} {value : ν} {rows : List (κ × ν)}
    (nodup : (rows.map Prod.fst).Nodup) :
    ((upsertRows key value rows).map Prod.fst).Nodup := by
  induction rows with
  | nil => simp [upsertRows]
  | cons row rest inductionHypothesis =>
      rw [List.map_cons, List.nodup_cons] at nodup
      by_cases same : row.1 = key
      · simp only [upsertRows, if_pos same, List.map_cons, List.nodup_cons]
        exact ⟨same ▸ nodup.1, nodup.2⟩
      · simp only [upsertRows, if_neg same, List.map_cons, List.nodup_cons]
        refine ⟨?_, inductionHypothesis nodup.2⟩
        rw [mem_keys_upsertRows]
        rintro (equal | member)
        · exact same equal
        · exact nodup.1 member

theorem lookupRows_upsertRows (key other : κ) (value : ν) (rows : List (κ × ν)) :
    lookupRows other (upsertRows key value rows) =
      if other = key then some value else lookupRows other rows := by
  induction rows with
  | nil => simp only [upsertRows, lookupRows, eq_comm]
  | cons row rest inductionHypothesis =>
      by_cases replaced : row.1 = key
      · by_cases same : other = key
        · simp [upsertRows, lookupRows, replaced, same]
        · have different : key ≠ other := fun equal => same equal.symm
          simp [upsertRows, lookupRows, replaced, same, different]
      · by_cases found : row.1 = other
        · have different : other ≠ key := fun equal => replaced (found.trans equal)
          simp [upsertRows, lookupRows, found, different]
        · simp [upsertRows, lookupRows, replaced, found, inductionHypothesis]

theorem lookupRows_map {ν' : Type w} (f : κ → ν → ν') (key : κ) (rows : List (κ × ν)) :
    lookupRows key (rows.map fun row => (row.1, f row.1 row.2)) =
      (lookupRows key rows).map (f key) := by
  induction rows with
  | nil => rfl
  | cons row rest inductionHypothesis =>
      by_cases same : row.1 = key
      · simp [lookupRows, same]
      · simp [lookupRows, same, inductionHypothesis]

/-- Replacing every value commutes with inserting one. -/
theorem map_upsertRows {ν' : Type w} (f : κ → ν → ν') (key : κ) (value : ν)
    (rows : List (κ × ν)) :
    (upsertRows key value rows).map (fun row => (row.1, f row.1 row.2)) =
      upsertRows key (f key value) (rows.map fun row => (row.1, f row.1 row.2)) := by
  induction rows with
  | nil => rfl
  | cons row rest inductionHypothesis =>
      rw [upsertRows, List.map_cons, upsertRows]
      split_ifs
      · rfl
      · rw [List.map_cons, inductionHypothesis]

/-- A property of all values survives a write exactly when the new value has it. -/
theorem forall_upsertRows_iff {P : ν → Prop} {key : κ} {value : ν} {rows : List (κ × ν)}
    (before : ∀ row ∈ rows, P row.2) :
    (∀ row ∈ upsertRows key value rows, P row.2) ↔ P value := by
  induction rows with
  | nil => simp [upsertRows]
  | cons row rest inductionHypothesis =>
      rw [List.forall_mem_cons] at before
      unfold upsertRows
      split
      · rw [List.forall_mem_cons]
        exact and_iff_left before.2
      · rw [List.forall_mem_cons, inductionHypothesis before.2]
        exact and_iff_right before.1

/-- Rows in insertion order, at most one for each key. -/
structure UpsertTable (κ : Type u) (ν : Type v) where
  rows : List (κ × ν)
  keysNodup : (rows.map Prod.fst).Nodup

namespace UpsertTable

/-- The table without rows. -/
def empty : UpsertTable κ ν := ⟨[], List.nodup_nil⟩

/-- The row value stored under `key`. -/
def get? (table : UpsertTable κ ν) (key : κ) : Option ν :=
  lookupRows key table.rows

omit [DecidableEq κ] in
theorem eq_of_rows {left right : UpsertTable κ ν} (rows : left.rows = right.rows) :
    left = right := by
  cases left
  cases right
  cases rows
  rfl

/-- Insert, or update on conflict. -/
def upsert (table : UpsertTable κ ν) (key : κ) (value : ν) : UpsertTable κ ν :=
  ⟨upsertRows key value table.rows, keys_upsertRows_nodup table.keysNodup⟩

theorem get?_upsert (table : UpsertTable κ ν) (key other : κ) (value : ν) :
    (table.upsert key value).get? other =
      if other = key then some value else table.get? other :=
  lookupRows_upsertRows key other value table.rows

/-- Read-over-write as one equation between read functions. -/
theorem get?_upsert_eq_update (table : UpsertTable κ ν) (key : κ) (value : ν) :
    (table.upsert key value).get? = Function.update table.get? key (some value) := by
  funext other
  rw [get?_upsert, Function.update_apply]

/-- Replace every value, keeping the keys and their order. -/
def mapValues {ν' : Type w} (f : κ → ν → ν') (table : UpsertTable κ ν) : UpsertTable κ ν' where
  rows := table.rows.map fun row => (row.1, f row.1 row.2)
  keysNodup := by
    have sameKeys : (table.rows.map fun row => (row.1, f row.1 row.2)).map Prod.fst =
        table.rows.map Prod.fst := by
      rw [List.map_map]
      rfl
    rw [sameKeys]
    exact table.keysNodup

theorem get?_mapValues {ν' : Type w} (f : κ → ν → ν') (table : UpsertTable κ ν) (key : κ) :
    (table.mapValues f).get? key = (table.get? key).map (f key) :=
  lookupRows_map f key table.rows

theorem mapValues_upsert {ν' : Type w} (f : κ → ν → ν') (table : UpsertTable κ ν) (key : κ)
    (value : ν) :
    (table.upsert key value).mapValues f = (table.mapValues f).upsert key (f key value) :=
  eq_of_rows (map_upsertRows f key value table.rows)

theorem forall_upsert_iff (P : ν → Prop) {table : UpsertTable κ ν} (key : κ) (value : ν)
    (before : ∀ row ∈ table.rows, P row.2) :
    (∀ row ∈ (table.upsert key value).rows, P row.2) ↔ P value :=
  forall_upsertRows_iff before

end UpsertTable

end AutoRouteGateway.Library

import Mathlib.Data.List.Dedup
import Mathlib.Data.List.Pairwise

/-!
Contract: tables whose unique key has components that may be absent, and their
compaction to one row for each normalized key.

A relational engine takes absent components for distinct, so such a key lets
several rows of one normalized key in. A table carries what the engine
enforces: rows in the order of their row numbers, no two rows with one complete
key, and, once the unique index over the normalized key exists, no two rows
with one normalized key.

Owns: the three statements that compact a table (delete the superseded rows,
change the keys in place, create the index), when they succeed, and that each of
them leaves the compacted form of the table as it was.

Does not own: what keys and columns are.
-/

namespace AutoRouteGateway.Library

universe u v w

/-- Keys with components that may be absent, and the complete keys they
normalize to. -/
structure NullableKey (κ : Type u) (ν : Type v) where
  normalize : κ → ν
  embed : ν → κ
  complete : κ → Bool
  normalize_embed : ∀ normal, normalize (embed normal) = normal
  complete_embed : ∀ normal, complete (embed normal) = true
  embed_normalize : ∀ key, complete key = true → embed (normalize key) = key

namespace NullableKey

variable {κ : Type u} {ν : Type v} (K : NullableKey κ ν)

/-- The complete key of the group. -/
def fill (key : κ) : κ := K.embed (K.normalize key)

@[simp] theorem normalize_fill (key : κ) : K.normalize (K.fill key) = K.normalize key :=
  K.normalize_embed (K.normalize key)

@[simp] theorem fill_fill (key : κ) : K.fill (K.fill key) = K.fill key :=
  congrArg K.embed (K.normalize_fill key)

theorem fill_eq_self {key : κ} (complete : K.complete key = true) : K.fill key = key :=
  K.embed_normalize key complete

end NullableKey

structure KeyedRow (κ : Type u) (χ : Type w) where
  rowid : Int
  key : κ
  columns : χ
deriving DecidableEq, Repr

/-- The row with another key. -/
def KeyedRow.mapKey {κ : Type u} {χ : Type w} (change : κ → κ) (row : KeyedRow κ χ) :
    KeyedRow κ χ :=
  { row with key := change row.key }

@[simp] theorem KeyedRow.rowid_mapKey {κ : Type u} {χ : Type w} (change : κ → κ)
    (row : KeyedRow κ χ) : (row.mapKey change).rowid = row.rowid := rfl

@[simp] theorem KeyedRow.key_mapKey {κ : Type u} {χ : Type w} (change : κ → κ)
    (row : KeyedRow κ χ) : (row.mapKey change).key = change row.key := rfl

section Keys

variable {κ : Type u} {ν : Type v} {χ : Type w} (K : NullableKey κ ν)

/-- Two keys the engine refuses in one table: equal, with no component absent. -/
def NullableKey.Conflict (left right : κ) : Prop := K.complete left = true ∧ left = right

/-- What the engine enforces on the rows of a table. -/
structure Admits (indexed : Bool) (rows : List (KeyedRow κ χ)) : Prop where
  ordered : rows.Pairwise fun left right => left.rowid < right.rowid
  primaryKey : rows.Pairwise fun left right => ¬ K.Conflict left.key right.key
  uniqueIndex : indexed = true →
    rows.Pairwise fun left right => K.normalize left.key ≠ K.normalize right.key

theorem admits_iff {indexed : Bool} {rows : List (KeyedRow κ χ)} :
    Admits K indexed rows ↔
      (rows.Pairwise fun left right => left.rowid < right.rowid) ∧
        (rows.Pairwise fun left right => ¬ K.Conflict left.key right.key) ∧
          (indexed = true →
            rows.Pairwise fun left right => K.normalize left.key ≠ K.normalize right.key) :=
  ⟨fun admitted => ⟨admitted.ordered, admitted.primaryKey, admitted.uniqueIndex⟩,
    fun admitted => ⟨admitted.1, admitted.2.1, admitted.2.2⟩⟩

/-- A table, with the unique index over the normalized key or without it. -/
@[ext]
structure KeyedTable (K : NullableKey κ ν) (χ : Type w) where
  rows : List (KeyedRow κ χ)
  indexed : Bool
  admitted : Admits K indexed rows

variable {K}

theorem Admits.sublist {indexed : Bool} {rows kept : List (KeyedRow κ χ)}
    (admitted : Admits K indexed rows) (sub : kept.Sublist rows) : Admits K indexed kept where
  ordered := admitted.ordered.sublist sub
  primaryKey := admitted.primaryKey.sublist sub
  uniqueIndex := fun isIndexed => (admitted.uniqueIndex isIndexed).sublist sub

/-- Distinct normalized keys satisfy every constraint on keys. -/
theorem Admits.of_normalized {indexed : Bool} {rows : List (KeyedRow κ χ)}
    (ordered : rows.Pairwise fun left right => left.rowid < right.rowid)
    (distinct : rows.Pairwise fun left right => K.normalize left.key ≠ K.normalize right.key) :
    Admits K indexed rows where
  ordered := ordered
  primaryKey := by
    apply distinct.imp
    intro left right different conflict
    exact different (congrArg K.normalize conflict.2)
  uniqueIndex := fun _ => distinct

/-- Row numbers identify rows. -/
theorem Admits.eq_of_rowid_eq {indexed : Bool} {rows : List (KeyedRow κ χ)}
    (admitted : Admits K indexed rows) {left right : KeyedRow κ χ} (isLeft : left ∈ rows)
    (isRight : right ∈ rows) (same : left.rowid = right.rowid) : left = right := by
  have nodup : (rows.map KeyedRow.rowid).Nodup := by
    rw [List.Nodup, List.pairwise_map]
    exact admitted.ordered.imp Int.ne_of_lt
  exact List.inj_on_of_nodup_map nodup isLeft isRight same

/-! ## The newest row of each normalized key -/

variable [DecidableEq ν] (K)

/-- `SELECT MAX(rowid) ... GROUP BY` the normalized key. -/
def newestRowids (rows : List (KeyedRow κ χ)) : List Int :=
  (rows.map fun row => K.normalize row.key).dedup.filterMap fun normal =>
    ((rows.filter fun row => decide (K.normalize row.key = normal)).map KeyedRow.rowid).max?

/-- The rows whose row number is the greatest of their group. -/
def newestRows (rows : List (KeyedRow κ χ)) : List (KeyedRow κ χ) :=
  rows.filter fun row => decide (row.rowid ∈ newestRowids K rows)

variable {K}

/-- No row of the list with the same normalized key has a greater row number. -/
def IsNewest (K : NullableKey κ ν) (rows : List (KeyedRow κ χ)) (row : KeyedRow κ χ) : Prop :=
  ∀ other ∈ rows, K.normalize other.key = K.normalize row.key → other.rowid ≤ row.rowid

theorem mem_groupRowids {rows : List (KeyedRow κ χ)} {normal : ν} {rowid : Int} :
    rowid ∈ (rows.filter fun row => decide (K.normalize row.key = normal)).map KeyedRow.rowid ↔
      ∃ row ∈ rows, K.normalize row.key = normal ∧ row.rowid = rowid := by
  simp only [List.mem_map, List.mem_filter, decide_eq_true_iff, and_assoc]

theorem mem_newestRowids_iff {indexed : Bool} {rows : List (KeyedRow κ χ)}
    (admitted : Admits K indexed rows) {row : KeyedRow κ χ} (member : row ∈ rows) :
    row.rowid ∈ newestRowids K rows ↔ IsNewest K rows row := by
  unfold newestRowids
  simp only [List.mem_filterMap, List.mem_dedup, List.max?_eq_some_iff, mem_groupRowids]
  constructor
  · intro listed other isOther same
    obtain ⟨normal, -, ⟨holder, isHolder, inGroup, sameRowid⟩, bound⟩ := listed
    have isRow : holder = row := admitted.eq_of_rowid_eq isHolder member sameRowid
    subst isRow
    exact bound _ ⟨other, isOther, same.trans inGroup, rfl⟩
  · intro newest
    refine ⟨K.normalize row.key, List.mem_map_of_mem member, ⟨row, member, rfl, rfl⟩, ?_⟩
    rintro rowid ⟨other, isOther, same, rfl⟩
    exact newest other isOther same

theorem mem_newestRows_iff {indexed : Bool} {rows : List (KeyedRow κ χ)}
    (admitted : Admits K indexed rows) {row : KeyedRow κ χ} :
    row ∈ newestRows K rows ↔ row ∈ rows ∧ IsNewest K rows row := by
  unfold newestRows
  rw [List.mem_filter, decide_eq_true_iff]
  constructor
  · intro kept
    exact ⟨kept.1, (mem_newestRowids_iff admitted kept.1).mp kept.2⟩
  · intro kept
    exact ⟨kept.1, (mem_newestRowids_iff admitted kept.1).mpr kept.2⟩

/-- Every normalized key that has a row has a newest one. -/
theorem exists_newest {rows : List (KeyedRow κ χ)} {row : KeyedRow κ χ} (member : row ∈ rows) :
    ∃ newest ∈ rows, K.normalize newest.key = K.normalize row.key ∧ IsNewest K rows newest := by
  have nonempty : ((rows.filter fun other =>
      decide (K.normalize other.key = K.normalize row.key)).map KeyedRow.rowid).max? ≠ none := by
    rw [Ne, List.max?_eq_none_iff]
    apply List.ne_nil_of_mem
    exact mem_groupRowids.mpr ⟨row, member, rfl, rfl⟩
  obtain ⟨greatest, isGreatest⟩ := Option.ne_none_iff_exists'.mp nonempty
  rw [List.max?_eq_some_iff] at isGreatest
  obtain ⟨newest, isRow, inGroup, rfl⟩ := mem_groupRowids.mp isGreatest.1
  refine ⟨newest, isRow, inGroup, ?_⟩
  intro other isOther same
  exact isGreatest.2 _ (mem_groupRowids.mpr ⟨other, isOther, same.trans inGroup, rfl⟩)

/-- The newest rows have distinct normalized keys. -/
theorem newestRows_pairwise {indexed : Bool} {rows : List (KeyedRow κ χ)}
    (admitted : Admits K indexed rows) :
    (newestRows K rows).Pairwise fun left right =>
      K.normalize left.key ≠ K.normalize right.key := by
  have ordered := admitted.ordered.sublist
    (List.filter_sublist (p := fun row => decide (row.rowid ∈ newestRowids K rows)))
  apply ordered.imp_of_mem
  intro left right isLeft isRight before same
  have newest := ((mem_newestRows_iff admitted).mp isLeft).2
  have later := newest right ((mem_newestRows_iff admitted).mp isRight).1 same.symm
  omega

theorem newestRows_eq_self {rows : List (KeyedRow κ χ)}
    (distinct : rows.Pairwise fun left right => K.normalize left.key ≠ K.normalize right.key)
    {indexed : Bool} (admitted : Admits K indexed rows) : newestRows K rows = rows := by
  unfold newestRows
  rw [List.filter_eq_self]
  intro row member
  rw [decide_eq_true_iff, mem_newestRowids_iff admitted member]
  intro other isOther same
  have nodup : (rows.map fun row => K.normalize row.key).Nodup := by
    rw [List.Nodup, List.pairwise_map]
    exact distinct
  have isRow : other = row := List.inj_on_of_nodup_map nodup isOther member same
  exact Int.le_of_eq (congrArg KeyedRow.rowid isRow)

/-- Changing keys inside their group changes neither the groups nor their newest rows. -/
theorem newestRows_mapKey {change : κ → κ}
    (within : ∀ key, K.normalize (change key) = K.normalize key)
    (rows : List (KeyedRow κ χ)) :
    newestRows K (rows.map (KeyedRow.mapKey change)) =
      (newestRows K rows).map (KeyedRow.mapKey change) := by
  have sameRowids : newestRowids K (rows.map (KeyedRow.mapKey change)) = newestRowids K rows := by
    simp only [newestRowids, List.map_map, List.filter_map, Function.comp_def,
      KeyedRow.key_mapKey, KeyedRow.rowid_mapKey, within]
  unfold newestRows
  rw [List.filter_map, sameRowids]
  rfl

/-! ## The compacted form -/

namespace KeyedTable

/-- A table without rows and without the index. -/
def empty : KeyedTable K χ :=
  ⟨[], false, ⟨List.Pairwise.nil, List.Pairwise.nil, fun _ => List.Pairwise.nil⟩⟩

/-- The newest row of each group, under the complete key of the group. -/
def compacted (table : KeyedTable K χ) : KeyedTable K χ where
  rows := (newestRows K table.rows).map (KeyedRow.mapKey K.fill)
  indexed := true
  admitted := by
    have newest := table.admitted.sublist
      (List.filter_sublist (p := fun row => decide (row.rowid ∈ newestRowids K table.rows)))
    apply Admits.of_normalized
    · rw [List.pairwise_map]
      exact newest.ordered
    · rw [List.pairwise_map]
      simpa using newestRows_pairwise table.admitted

/-- `DELETE ... WHERE rowid NOT IN (SELECT MAX(rowid) ... GROUP BY ...)`. -/
def deleteSuperseded (table : KeyedTable K χ) : KeyedTable K χ where
  rows := newestRows K table.rows
  indexed := table.indexed
  admitted := table.admitted.sublist List.filter_sublist

theorem compacted_deleteSuperseded (table : KeyedTable K χ) :
    table.deleteSuperseded.compacted = table.compacted := by
  ext1
  · change (newestRows K (newestRows K table.rows)).map _ = (newestRows K table.rows).map _
    rw [newestRows_eq_self (newestRows_pairwise table.admitted) table.deleteSuperseded.admitted]
  · rfl

/-- What the compacted rows are, in terms of the rows before. -/
structure Compacts (K : NullableKey κ ν) (rows compacted : List (KeyedRow κ χ)) : Prop where
  /-- No component of a key is absent. -/
  complete : ∀ row ∈ compacted, K.complete row.key = true
  /-- A normalized key has at most one row. -/
  distinct : compacted.Pairwise fun left right => K.normalize left.key ≠ K.normalize right.key
  /-- A normalized key that had rows keeps its newest one, under the complete key. -/
  newest : ∀ old ∈ rows, ∃ newest ∈ rows, K.normalize newest.key = K.normalize old.key ∧
    (∀ other ∈ rows, K.normalize other.key = K.normalize old.key →
      other.rowid ≤ newest.rowid) ∧
    ∀ row, row ∈ compacted ∧ K.normalize row.key = K.normalize old.key ↔
      row = newest.mapKey K.fill
  /-- No other normalized key gets a row. -/
  only : ∀ row ∈ compacted, ∃ old ∈ rows, K.normalize old.key = K.normalize row.key
  /-- A complete key whose group has no other row keeps its row as it is. -/
  untouched : ∀ row ∈ rows, K.complete row.key = true →
    (∀ other ∈ rows, K.normalize other.key = K.normalize row.key → other = row) →
      row ∈ compacted

theorem mem_compacted_iff {table : KeyedTable K χ} {row : KeyedRow κ χ} :
    row ∈ table.compacted.rows ↔
      ∃ newest ∈ table.rows, IsNewest K table.rows newest ∧ newest.mapKey K.fill = row := by
  change row ∈ (newestRows K table.rows).map _ ↔ _
  simp only [List.mem_map, mem_newestRows_iff table.admitted, and_assoc]

theorem compacts_compacted (table : KeyedTable K χ) :
    Compacts K table.rows table.compacted.rows where
  complete := by
    intro row member
    obtain ⟨newest, -, -, rfl⟩ := mem_compacted_iff.mp member
    exact K.complete_embed _
  distinct := table.compacted.admitted.uniqueIndex rfl
  newest := by
    intro old isOld
    obtain ⟨newest, isRow, same, isNewest⟩ := exists_newest (K := K) isOld
    refine ⟨newest, isRow, same, ?_, ?_⟩
    · intro other isOther sameGroup
      exact isNewest other isOther (sameGroup.trans same.symm)
    · intro row
      constructor
      · rintro ⟨member, inGroup⟩
        obtain ⟨own, isOwn, ownNewest, rfl⟩ := mem_compacted_iff.mp member
        rw [KeyedRow.key_mapKey, K.normalize_fill] at inGroup
        have below := ownNewest newest isRow (same.trans inGroup.symm)
        have above := isNewest own isOwn (inGroup.trans same.symm)
        rw [table.admitted.eq_of_rowid_eq isOwn isRow (Int.le_antisymm above below)]
      · rintro rfl
        refine ⟨mem_compacted_iff.mpr ⟨newest, isRow, isNewest, rfl⟩, ?_⟩
        rw [KeyedRow.key_mapKey, K.normalize_fill, same]
  only := by
    intro row member
    obtain ⟨newest, isRow, -, rfl⟩ := mem_compacted_iff.mp member
    exact ⟨newest, isRow, (K.normalize_fill newest.key).symm⟩
  untouched := by
    intro row member complete alone
    refine mem_compacted_iff.mpr ⟨row, member, ?_, ?_⟩
    · intro other isOther same
      exact Int.le_of_eq (congrArg KeyedRow.rowid (alone other isOther same))
    · unfold KeyedRow.mapKey
      rw [K.fill_eq_self complete]

end KeyedTable

/-! ## The statements -/

/-- A row that would break a constraint on keys. -/
inductive KeyViolation where
  | uniqueConstraint
deriving DecidableEq, Repr

variable [DecidableEq κ]

instance (left right : κ) : Decidable (K.Conflict left right) :=
  inferInstanceAs (Decidable (_ ∧ _))

instance (indexed : Bool) (rows : List (KeyedRow κ χ)) : Decidable (Admits K indexed rows) :=
  decidable_of_iff _ (admits_iff K).symm

namespace KeyedTable

/-- `UPDATE ... SET key = change(key)`, row by row: each new key is checked
against all other rows as they stand. -/
def updateFrom (change : κ → κ) (indexed : Bool) :
    (done rest : List (KeyedRow κ χ)) → Admits K indexed (done ++ rest) →
      Except KeyViolation (KeyedTable K χ)
  | done, [], admitted => .ok ⟨done ++ [], indexed, admitted⟩
  | done, row :: rest, _ =>
      if admitted : Admits K indexed ((done ++ [row.mapKey change]) ++ rest) then
        updateFrom change indexed (done ++ [row.mapKey change]) rest admitted
      else .error .uniqueConstraint

def updateKeys (change : κ → κ) (table : KeyedTable K χ) :
    Except KeyViolation (KeyedTable K χ) :=
  updateFrom change table.indexed [] table.rows table.admitted

/-- `CREATE UNIQUE INDEX IF NOT EXISTS` over the normalized key. -/
def createUniqueIndex (table : KeyedTable K χ) : Except KeyViolation (KeyedTable K χ) :=
  if table.indexed = true then .ok table
  else if admitted : Admits K true table.rows then .ok ⟨table.rows, true, admitted⟩
  else .error .uniqueConstraint

/-! ### When they succeed -/

theorem updateFrom_of_normalized {change : κ → κ}
    (within : ∀ key, K.normalize (change key) = K.normalize key) {indexed : Bool}
    {done rest : List (KeyedRow κ χ)} (admitted : Admits K indexed (done ++ rest))
    (distinct : (done ++ rest).Pairwise fun left right =>
      K.normalize left.key ≠ K.normalize right.key) :
    ∃ table, updateFrom change indexed done rest admitted = .ok table := by
  induction rest generalizing done with
  | nil => exact ⟨_, rfl⟩
  | cons row rest inductionHypothesis =>
      have sameRowids : ((done ++ [row.mapKey change]) ++ rest).map KeyedRow.rowid =
          (done ++ row :: rest).map KeyedRow.rowid := by
        simp
      have sameGroups : ((done ++ [row.mapKey change]) ++ rest).map
            (fun row => K.normalize row.key) =
          (done ++ row :: rest).map (fun row => K.normalize row.key) := by
        simp [within]
      have distinct' : ((done ++ [row.mapKey change]) ++ rest).Pairwise fun left right =>
          K.normalize left.key ≠ K.normalize right.key := by
        rw [← List.pairwise_map (f := fun row : KeyedRow κ χ => K.normalize row.key)
          (R := fun left right => left ≠ right)] at distinct ⊢
        rwa [sameGroups]
      have ordered : ((done ++ [row.mapKey change]) ++ rest).Pairwise fun left right =>
          left.rowid < right.rowid := by
        have ordered := admitted.ordered
        rw [← List.pairwise_map (f := KeyedRow.rowid) (R := fun left right => left < right)]
          at ordered ⊢
        rwa [sameRowids]
      have admitted' : Admits K indexed ((done ++ [row.mapKey change]) ++ rest) :=
        Admits.of_normalized ordered distinct'
      rw [updateFrom, dif_pos admitted']
      exact inductionHypothesis admitted' distinct'

/-- What an update that succeeds makes of the rows. -/
theorem rows_of_updateFrom {change : κ → κ} {indexed : Bool} {done rest : List (KeyedRow κ χ)}
    {admitted : Admits K indexed (done ++ rest)} {table : KeyedTable K χ}
    (updated : updateFrom change indexed done rest admitted = .ok table) :
    table.rows = done ++ rest.map (KeyedRow.mapKey change) ∧ table.indexed = indexed := by
  induction rest generalizing done with
  | nil =>
      cases updated
      exact ⟨rfl, rfl⟩
  | cons row rest inductionHypothesis =>
      rw [updateFrom] at updated
      split at updated
      · obtain ⟨rows, sameIndex⟩ := inductionHypothesis updated
        refine ⟨?_, sameIndex⟩
        rw [rows, List.append_assoc, List.map_cons]
        rfl
      · cases updated

theorem rows_of_updateKeys {change : κ → κ} {table updated : KeyedTable K χ}
    (isUpdated : table.updateKeys change = .ok updated) :
    updated.rows = table.rows.map (KeyedRow.mapKey change) ∧
      updated.indexed = table.indexed := by
  have facts := rows_of_updateFrom isUpdated
  rwa [List.nil_append] at facts

theorem rows_of_createUniqueIndex {table indexed : KeyedTable K χ}
    (created : table.createUniqueIndex = .ok indexed) :
    indexed.rows = table.rows ∧ indexed.indexed = true := by
  unfold createUniqueIndex at created
  split_ifs at created with present admitted
  · cases created
    exact ⟨rfl, present⟩
  · cases created
    exact ⟨rfl, rfl⟩

theorem compacted_updateKeys {table updated : KeyedTable K χ}
    (isUpdated : table.updateKeys K.fill = .ok updated) : updated.compacted = table.compacted := by
  ext1
  · change (newestRows K updated.rows).map _ = (newestRows K table.rows).map _
    rw [(rows_of_updateKeys isUpdated).1, newestRows_mapKey K.normalize_fill, List.map_map]
    apply List.map_congr_left
    intro row _
    simp only [Function.comp_apply, KeyedRow.mapKey, K.fill_fill]
  · rfl

theorem compacted_createUniqueIndex {table indexed : KeyedTable K χ}
    (created : table.createUniqueIndex = .ok indexed) : indexed.compacted = table.compacted := by
  ext1
  · change (newestRows K indexed.rows).map _ = (newestRows K table.rows).map _
    rw [(rows_of_createUniqueIndex created).1]
  · rfl

/-- After the superseded rows are gone, the other two statements succeed and
reach the compacted form. -/
theorem compaction_succeeds (table : KeyedTable K χ) :
    ∃ updated, table.deleteSuperseded.updateKeys K.fill = .ok updated ∧
      updated.createUniqueIndex = .ok table.compacted := by
  have distinct := newestRows_pairwise table.admitted
  obtain ⟨updated, isUpdated⟩ : ∃ updated, table.deleteSuperseded.updateKeys K.fill = .ok updated :=
    updateFrom_of_normalized K.normalize_fill table.deleteSuperseded.admitted distinct
  have rows := (rows_of_updateKeys isUpdated).1
  refine ⟨updated, isUpdated, ?_⟩
  have sameRows : updated.rows = table.compacted.rows := rows
  unfold createUniqueIndex
  split_ifs with present admitted
  · congr 1
    ext1
    · exact sameRows
    · exact present
  · congr 1
    ext1
    · exact sameRows
    · rfl
  · exact absurd (sameRows ▸ table.compacted.admitted) admitted

end KeyedTable

end Keys

end AutoRouteGateway.Library

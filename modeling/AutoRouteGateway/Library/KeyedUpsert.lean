import AutoRouteGateway.Library.NullableKeys
import AutoRouteGateway.Library.UpsertTable

/-!
Contract: reads and upserts on a table whose keys may have absent components,
once the table has none.

A settled table has complete keys only, and the unique index. On such a table
the insertion of a complete key cannot fail, compaction changes nothing, and the
rows by their normalized keys are what an insertion-ordered table would hold.

Owns: the lookup of a complete key, the insertion that updates on conflict, and
their correspondence to `upsertRows` and `lookupRows`.
-/

namespace AutoRouteGateway.Library

universe u v w

namespace KeyedTable

variable {κ : Type u} {ν : Type v} {χ : Type w} {K : NullableKey κ ν}

/-- Nothing is left to compact. -/
structure Settled (table : KeyedTable K χ) : Prop where
  indexed : table.indexed = true
  complete : ∀ row ∈ table.rows, K.complete row.key = true

/-- The rows by their normalized keys. -/
def pairs (table : KeyedTable K χ) : List (ν × χ) :=
  table.rows.map fun row => (K.normalize row.key, row.columns)

/-- One more than the greatest row number; rows are in the order of their numbers. -/
def nextRowid (table : KeyedTable K χ) : Int :=
  match table.rows.getLast? with
  | none => 1
  | some row => row.rowid + 1

theorem rowid_lt_nextRowid {table : KeyedTable K χ} {row : KeyedRow κ χ}
    (member : row ∈ table.rows) : row.rowid < table.nextRowid := by
  unfold nextRowid
  cases last : table.rows.getLast? with
  | none =>
      rw [List.getLast?_eq_none_iff] at last
      rw [last] at member
      cases member
  | some newest =>
      obtain ⟨earlier, split⟩ := List.getLast?_eq_some_iff.mp last
      have ordered := table.admitted.ordered
      rw [split, List.pairwise_append] at ordered
      rw [split] at member
      rcases List.mem_append.mp member with isEarlier | isNewest
      · exact Int.lt_add_one_of_le
          (Int.le_of_lt (ordered.2.2 row isEarlier newest List.mem_cons_self))
      · rw [List.mem_singleton.mp isNewest]
        exact Int.lt_add_one_of_le (Int.le_refl _)

section Lookup

variable [DecidableEq κ]

/-- `SELECT ... WHERE key = ?`, for a key without absent components. -/
def find? (key : κ) (table : KeyedTable K χ) : Option χ :=
  (table.rows.find? fun row => row.key = key).map KeyedRow.columns

/-- The row with other columns, if it has the key. -/
def setColumns (key : κ) (columns : χ) (row : KeyedRow κ χ) : KeyedRow κ χ :=
  if row.key = key then { row with columns := columns } else row

@[simp] theorem rowid_setColumns (key : κ) (columns : χ) (row : KeyedRow κ χ) :
    (setColumns key columns row).rowid = row.rowid := by
  unfold setColumns
  split <;> rfl

@[simp] theorem key_setColumns (key : κ) (columns : χ) (row : KeyedRow κ χ) :
    (setColumns key columns row).key = row.key := by
  unfold setColumns
  split <;> rfl

/-- Constraints are about row numbers and keys. -/
theorem admits_setColumns {indexed : Bool} {rows : List (KeyedRow κ χ)} (key : κ) (columns : χ)
    (admitted : Admits K indexed rows) :
    Admits K indexed (rows.map (setColumns key columns)) := by
  refine ⟨?_, ?_, fun isIndexed => ?_⟩
  · rw [List.pairwise_map]
    simpa using admitted.ordered
  · rw [List.pairwise_map]
    simpa using admitted.primaryKey
  · rw [List.pairwise_map]
    simpa using admitted.uniqueIndex isIndexed

variable [DecidableEq ν]

/-- `INSERT ... ON CONFLICT (key) DO UPDATE`: a row of the key gets the columns,
and without one a new row is inserted, unless a constraint refuses it. -/
def put (key : κ) (columns : χ) (table : KeyedTable K χ) :
    Except KeyViolation (KeyedTable K χ) :=
  if K.complete key = true ∧ key ∈ table.rows.map KeyedRow.key then
    .ok ⟨table.rows.map (setColumns key columns), table.indexed,
      admits_setColumns key columns table.admitted⟩
  else if admitted : Admits K table.indexed
      (table.rows ++ [⟨table.nextRowid, key, columns⟩]) then .ok ⟨_, _, admitted⟩
  else .error .uniqueConstraint

end Lookup

/-! ## On settled tables -/

theorem settled_compacted [DecidableEq ν] (table : KeyedTable K χ) :
    table.compacted.Settled where
  indexed := rfl
  complete := (compacts_compacted table).complete

section Settled

variable {table : KeyedTable K χ}

variable [DecidableEq ν]

/-- Compaction leaves a settled table as it is. -/
theorem compacted_of_settled (settled : table.Settled) : table.compacted = table := by
  have filled : table.rows.map (KeyedRow.mapKey K.fill) = table.rows := by
    conv_rhs => rw [← List.map_id table.rows]
    apply List.map_congr_left
    intro row member
    rw [KeyedRow.mapKey, K.fill_eq_self (settled.complete row member)]
    rfl
  ext1
  · change (newestRows K table.rows).map _ = _
    rw [newestRows_eq_self (table.admitted.uniqueIndex settled.indexed) table.admitted, filled]
  · exact settled.indexed.symm

variable [DecidableEq κ] (settled : table.Settled) (normal : ν)

include settled

omit [DecidableEq ν] [DecidableEq κ] in
/-- In a settled table a key is found by its normalized form. -/
theorem key_eq_embed_iff {row : KeyedRow κ χ} (member : row ∈ table.rows) :
    row.key = K.embed normal ↔ K.normalize row.key = normal := by
  constructor
  · intro same
    rw [same, K.normalize_embed]
  · rintro rfl
    exact (K.embed_normalize row.key (settled.complete row member)).symm

omit settled in
theorem lookupRows_pairs (rows : List (KeyedRow κ χ))
    (found : ∀ row ∈ rows, row.key = K.embed normal ↔ K.normalize row.key = normal) :
    lookupRows normal (rows.map fun row => (K.normalize row.key, row.columns)) =
      (rows.find? fun row => row.key = K.embed normal).map KeyedRow.columns := by
  induction rows with
  | nil => rfl
  | cons row rest inductionHypothesis =>
      have own := found row List.mem_cons_self
      rw [List.map_cons, lookupRows, List.find?_cons]
      by_cases same : row.key = K.embed normal
      · rw [if_pos (own.mp same)]
        simp [same]
      · rw [if_neg fun other => same (own.mpr other),
          inductionHypothesis fun row member => found row (List.mem_cons_of_mem _ member)]
        simp [same]

theorem find?_embed : table.find? (K.embed normal) = lookupRows normal table.pairs :=
  (lookupRows_pairs normal table.rows fun _ member =>
    key_eq_embed_iff settled normal member).symm

omit settled in
theorem upsertRows_pairs (columns : χ) (rows : List (KeyedRow κ χ))
    (found : ∀ row ∈ rows, row.key = K.embed normal ↔ K.normalize row.key = normal)
    (distinct : rows.Pairwise fun left right => K.normalize left.key ≠ K.normalize right.key)
    (listed : K.embed normal ∈ rows.map KeyedRow.key) :
    upsertRows normal columns (rows.map fun row => (K.normalize row.key, row.columns)) =
      (rows.map (setColumns (K.embed normal) columns)).map fun row =>
        (K.normalize row.key, row.columns) := by
  induction rows with
  | nil => cases listed
  | cons row rest inductionHypothesis =>
      have own := found row List.mem_cons_self
      have later := fun row member => found row (List.mem_cons_of_mem _ member)
      rw [List.pairwise_cons] at distinct
      rw [List.map_cons, upsertRows, List.map_cons, List.map_cons]
      by_cases same : row.key = K.embed normal
      · have others : rest.map (setColumns (K.embed normal) columns) = rest := by
          conv_rhs => rw [← List.map_id rest]
          apply List.map_congr_left
          intro other member
          have different : other.key ≠ K.embed normal := by
            intro again
            exact distinct.1 other member (by rw [same, again])
          rw [setColumns, if_neg different]
          rfl
        rw [if_pos (own.mp same), others, setColumns, if_pos same]
        dsimp only
        rw [own.mp same]
      · rw [if_neg fun other => same (own.mpr other), setColumns, if_neg same,
          inductionHypothesis later distinct.2]
        rw [List.map_cons, List.mem_cons] at listed
        exact listed.resolve_left fun isOwn => same isOwn.symm

/-- Inserting a complete key succeeds, leaves the table settled, and does to the
rows by key what an insertion-ordered table does. -/
theorem put_settled (columns : χ) :
    ∃ after, table.put (K.embed normal) columns = .ok after ∧ after.Settled ∧
      after.pairs = upsertRows normal columns table.pairs := by
  have found : ∀ row ∈ table.rows, row.key = K.embed normal ↔ K.normalize row.key = normal :=
    fun row member => key_eq_embed_iff settled normal member
  have distinct := table.admitted.uniqueIndex settled.indexed
  unfold put
  by_cases listed : K.embed normal ∈ table.rows.map KeyedRow.key
  · rw [if_pos ⟨K.complete_embed normal, listed⟩]
    refine ⟨_, rfl, ⟨settled.indexed, ?_⟩, ?_⟩
    · intro row member
      obtain ⟨own, isOwn, rfl⟩ := List.mem_map.mp member
      rw [key_setColumns]
      exact settled.complete own isOwn
    · exact (upsertRows_pairs normal columns table.rows found distinct listed).symm
  · rw [if_neg fun both => listed both.2]
    have fresh : ∀ row ∈ table.rows, K.normalize row.key ≠ normal := by
      intro row member same
      exact listed (List.mem_map.mpr ⟨row, member, (found row member).mpr same⟩)
    have admitted : Admits K table.indexed
        (table.rows ++ [⟨table.nextRowid, K.embed normal, columns⟩]) := by
      apply Admits.of_normalized
      · rw [List.pairwise_append]
        refine ⟨table.admitted.ordered, List.pairwise_singleton _ _, ?_⟩
        intro row member new isNew
        rw [List.mem_singleton.mp isNew]
        exact rowid_lt_nextRowid member
      · rw [List.pairwise_append]
        refine ⟨distinct, List.pairwise_singleton _ _, ?_⟩
        intro row member new isNew
        rw [List.mem_singleton.mp isNew, K.normalize_embed]
        exact fresh row member
    rw [dif_pos admitted]
    refine ⟨_, rfl, ⟨settled.indexed, ?_⟩, ?_⟩
    · intro row member
      rcases List.mem_append.mp member with earlier | isNew
      · exact settled.complete row earlier
      · rw [List.mem_singleton.mp isNew]
        exact K.complete_embed normal
    · have absent : normal ∉ table.pairs.map Prod.fst := by
        intro member
        rw [pairs, List.map_map] at member
        obtain ⟨row, isRow, same⟩ := List.mem_map.mp member
        exact fresh row isRow same
      rw [upsertRows_of_notMem absent, pairs, pairs, List.map_append, List.map_singleton,
        K.normalize_embed]

theorem settled_of_put {columns : χ} {after : KeyedTable K χ}
    (written : table.put (K.embed normal) columns = .ok after) : after.Settled := by
  obtain ⟨own, isOwn, ownSettled, -⟩ := put_settled settled normal columns
  rw [isOwn] at written
  cases written
  exact ownSettled

end Settled

end KeyedTable

end AutoRouteGateway.Library

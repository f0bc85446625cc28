import Mathlib.Algebra.BigOperators.Group.List.Basic
import Mathlib.Algebra.Ring.Int.Defs
import Mathlib.Data.List.Infix
import AutoRouteGateway.Library.NullableUpsert

/-!
Contract: the daily usage table of the SQLite store.

The primary key is `(day, provider_id, credential_id)` with a nullable
`credential_id`, which `add_usage` writes as it is given. Without a credential no
call ever finds the row of an earlier one.

An INTEGER of SQLite has 64 bits. A larger count is refused when it is bound, and
a sum that leaves them is stored as a REAL; what becomes of the column after that
is not followed here.

Owns: `add_usage`, and the exact condition under which a history of calls whose
counts stay in 64 bits leaves one row with the sums for each scope.
-/

namespace AutoRouteGateway.State

open AutoRouteGateway.Library

structure UsageScope where
  day : String
  providerId : String
  credentialId : Option String
deriving DecidableEq, Repr

/-- `NULL` makes a key differ from every other one. -/
def UsageScope.complete (scope : UsageScope) : Bool := scope.credentialId.isSome

structure UsageCounts where
  requests : Nat
  tokensIn : Int
  tokensOut : Int
deriving DecidableEq, Repr

/-- An INTEGER column holds the number. -/
def fitsInteger (number : Int) : Bool :=
  decide (-9223372036854775808 ≤ number ∧ number ≤ 9223372036854775807)

def UsageCounts.fits (counts : UsageCounts) : Bool :=
  fitsInteger counts.requests && fitsInteger counts.tokensIn && fitsInteger counts.tokensOut

/-- `requests=requests+1, tokens_in=tokens_in+excluded.tokens_in, ...`. -/
def UsageCounts.absorb (old excluded : UsageCounts) : UsageCounts where
  requests := old.requests + 1
  tokensIn := old.tokensIn + excluded.tokensIn
  tokensOut := old.tokensOut + excluded.tokensOut

abbrev UsageDaily := NullableTable UsageScope.complete UsageCounts

/-- The arguments of one call of `add_usage`. -/
structure UsageCall where
  day : String
  providerId : String
  credentialId : Option String
  tokensIn : Int := 0
  tokensOut : Int := 0
deriving DecidableEq, Repr

namespace UsageCall

def scope (call : UsageCall) : UsageScope := ⟨call.day, call.providerId, call.credentialId⟩

/-- The columns of the row that the call inserts. -/
def counts (call : UsageCall) : UsageCounts := ⟨1, call.tokensIn, call.tokensOut⟩

end UsageCall

/-- Where a call leaves 64 bits: an argument raises `OverflowError`, a sum is
stored as a REAL. -/
inductive UsageOverflow where
  | argument
  | sum
deriving DecidableEq, Repr

def addUsage (call : UsageCall) (table : UsageDaily) : Except UsageOverflow UsageDaily :=
  if call.counts.fits then
    let written := table.insertOrUpdate UsageCounts.absorb call.scope call.counts
    if written.rows.all fun row => row.2.fits then .ok written else .error .sum
  else .error .argument

/-- The table after a history of calls, oldest first. -/
def usageAfter (calls : List UsageCall) : Except UsageOverflow UsageDaily :=
  calls.foldlM (fun table call => addUsage call table) .empty

/-- The calls of a scope. -/
def callsOf (calls : List UsageCall) (scope : UsageScope) : List UsageCall :=
  calls.filter fun call => decide (call.scope = scope)

/-- The number of calls of a scope and the sums of their tokens. -/
def sumsOf (calls : List UsageCall) (scope : UsageScope) : UsageCounts where
  requests := (callsOf calls scope).length
  tokensIn := ((callsOf calls scope).map UsageCall.tokensIn).sum
  tokensOut := ((callsOf calls scope).map UsageCall.tokensOut).sum

/-- No argument and no sum that is formed leaves 64 bits. -/
structure StaysInteger (calls : List UsageCall) : Prop where
  arguments : ∀ call ∈ calls, call.counts.fits = true
  sums : ∀ earlier, earlier <+: calls → ∀ scope : UsageScope, scope.credentialId ≠ none →
    (sumsOf earlier scope).fits = true

/-- One row with the sums for each scope that occurred, and no other row. -/
structure AggregatesExactly (calls : List UsageCall) (table : UsageDaily) : Prop where
  each : ∀ call ∈ calls, rowsOf call.scope table.rows = [sumsOf calls call.scope]
  only : ∀ row ∈ table.rows, ∃ call ∈ calls, call.scope = row.1

/-! ## What a history leaves -/

theorem rowsOf_calls (calls : List UsageCall) (scope : UsageScope) :
    rowsOf scope (calls.map fun call => (call.scope, call.counts)) =
      (callsOf calls scope).map UsageCall.counts := by
  unfold rowsOf callsOf
  rw [List.filter_map, List.map_map]
  rfl

theorem foldl_absorb (first : UsageCounts) (calls : List UsageCall) :
    (calls.map UsageCall.counts).foldl UsageCounts.absorb first =
      ⟨first.requests + calls.length, first.tokensIn + (calls.map UsageCall.tokensIn).sum,
        first.tokensOut + (calls.map UsageCall.tokensOut).sum⟩ := by
  induction calls generalizing first with
  | nil => simp
  | cons call calls inductionHypothesis =>
      rw [List.map_cons, List.foldl_cons, inductionHypothesis]
      simp only [UsageCounts.absorb, UsageCall.counts, List.length_cons, List.map_cons,
        List.sum_cons, UsageCounts.mk.injEq]
      omega

/-- What all calls of a scope add up to is the scope's sums. -/
theorem total_counts (calls : List UsageCall) (scope : UsageScope) :
    total UsageCounts.absorb ((callsOf calls scope).map UsageCall.counts) =
      if callsOf calls scope = [] then [] else [sumsOf calls scope] := by
  unfold sumsOf
  cases callsOf calls scope with
  | nil => rfl
  | cons call more =>
      rw [List.map_cons, total, foldl_absorb, if_neg (List.cons_ne_nil _ _)]
      simp [UsageCall.counts, Nat.add_comm]

/-- The rows that a history writes while its counts stay in 64 bits. -/
def writtenRows (calls : List UsageCall) : UsageDaily :=
  .insertAll UsageCounts.absorb (calls.map fun call => (call.scope, call.counts))

theorem rows_writtenRows (calls : List UsageCall) :
    (writtenRows calls).rows = insertAll UsageScope.complete UsageCounts.absorb
      (calls.map fun call => (call.scope, call.counts)) :=
  NullableTable.rows_insertAll _ _

theorem StaysInteger.of_prefix {earlier calls : List UsageCall} (stays : StaysInteger calls)
    (isPrefix : earlier <+: calls) : StaysInteger earlier where
  arguments := fun call member => stays.arguments call (isPrefix.subset member)
  sums := fun others isEarlier => stays.sums others (isEarlier.trans isPrefix)

theorem StaysInteger.written_fits {calls : List UsageCall} (stays : StaysInteger calls)
    {row : UsageScope × UsageCounts} (member : row ∈ (writtenRows calls).rows) :
    row.2.fits = true := by
  have own : row.2 ∈ rowsOf row.1 (writtenRows calls).rows :=
    List.mem_map.mpr ⟨row, List.mem_filter.mpr ⟨member, by simp⟩, rfl⟩
  rw [rows_writtenRows, rowsOf_insertAll, rowsOf_calls, total_counts] at own
  cases complete : row.1.complete with
  | true =>
      rw [complete, if_pos rfl] at own
      split at own
      · cases own
      · rw [List.mem_singleton.mp own]
        exact stays.sums calls List.prefix_rfl row.1
          (Option.isSome_iff_ne_none.mp complete)
  | false =>
      rw [complete, if_neg Bool.false_ne_true] at own
      obtain ⟨call, isCall, same⟩ := List.mem_map.mp own
      rw [← same]
      exact stays.arguments call (List.mem_of_mem_filter isCall)

/-- In 64 bits every call is carried out. -/
theorem StaysInteger.usageAfter_eq {calls : List UsageCall} (stays : StaysInteger calls) :
    usageAfter calls = .ok (writtenRows calls) := by
  induction calls using List.reverseRecOn with
  | nil => rfl
  | append_singleton calls call inductionHypothesis =>
      have before := inductionHypothesis (stays.of_prefix (List.prefix_append _ _))
      have last : writtenRows (calls ++ [call]) =
          (writtenRows calls).insertOrUpdate UsageCounts.absorb call.scope call.counts := by
        simp [writtenRows, NullableTable.insertAll]
      have fits : (writtenRows (calls ++ [call])).rows.all (fun row => row.2.fits) = true :=
        List.all_eq_true.mpr fun _ member => stays.written_fits member
      rw [last] at fits
      unfold usageAfter at before ⊢
      rw [List.foldlM_append, before, last]
      change (addUsage call (writtenRows calls) >>= pure) = _
      rw [bind_pure, addUsage, if_pos (stays.arguments call (by simp)), if_pos fits]

theorem callsOf_ne_nil_iff {calls : List UsageCall} {scope : UsageScope} :
    callsOf calls scope ≠ [] ↔ ∃ call ∈ calls, call.scope = scope := by
  simp [callsOf, List.filter_eq_nil_iff]

/-- The rows are exact when every scope has the row of its sums, or none without calls. -/
theorem aggregatesExactly_iff (calls : List UsageCall) (table : UsageDaily) :
    AggregatesExactly calls table ↔
      ∀ scope, rowsOf scope table.rows =
        if callsOf calls scope = [] then [] else [sumsOf calls scope] := by
  constructor
  · intro aggregates scope
    by_cases none : callsOf calls scope = []
    · rw [if_pos none, rowsOf_eq_nil_iff]
      intro row member same
      exact callsOf_ne_nil_iff.mpr (same ▸ aggregates.only row member) none
    · obtain ⟨call, member, rfl⟩ := callsOf_ne_nil_iff.mp none
      rw [if_neg none, aggregates.each call member]
  · intro rows
    constructor
    · intro call member
      rw [rows, if_neg (callsOf_ne_nil_iff.mpr ⟨call, member, rfl⟩)]
    · intro row member
      by_contra absent
      have none : callsOf calls row.1 = [] := by
        by_contra some
        exact absent (callsOf_ne_nil_iff.mp some)
      have empty := rows row.1
      rw [if_pos none, rowsOf_eq_nil_iff] at empty
      exact empty row member rfl

/-- A history of calls whose counts stay in 64 bits leaves one row with the sums for
each scope exactly if no provider gets two calls without a credential on one day. -/
theorem usage_aggregates_iff (calls : List UsageCall) (stays : StaysInteger calls) :
    ∃ table, usageAfter calls = .ok table ∧
      (AggregatesExactly calls table ↔
        ∀ day providerId, (callsOf calls ⟨day, providerId, none⟩).length ≤ 1) := by
  refine ⟨writtenRows calls, stays.usageAfter_eq, ?_⟩
  have sums : AggregatesExactly calls (writtenRows calls) ↔
      ∀ scope, rowsOf scope (insertAll UsageScope.complete UsageCounts.absorb
          (calls.map fun call => (call.scope, call.counts))) =
        total UsageCounts.absorb
          (rowsOf scope (calls.map fun call => (call.scope, call.counts))) := by
    rw [aggregatesExactly_iff, rows_writtenRows]
    simp only [rowsOf_calls, total_counts]
  rw [sums, rowsOf_insertAll_eq_total_iff]
  simp only [rowsOf_calls, List.length_map]
  constructor
  · intro short day providerId
    exact short ⟨day, providerId, none⟩ rfl
  · rintro short ⟨day, providerId, credentialId⟩ incomplete
    cases credentialId with
    | none => exact short day providerId
    | some id => cases incomplete

/-- Two calls with one credential. -/
theorem usage_aggregates_iff_credential :
    ∃ table,
      usageAfter [⟨"2026-08-16", "p", some "k", 100, 5⟩, ⟨"2026-08-16", "p", some "k", 40, 2⟩] =
        .ok table ∧
      AggregatesExactly
        [⟨"2026-08-16", "p", some "k", 100, 5⟩, ⟨"2026-08-16", "p", some "k", 40, 2⟩] table := by
  have stays : StaysInteger
      [⟨"2026-08-16", "p", some "k", 100, 5⟩, ⟨"2026-08-16", "p", some "k", 40, 2⟩] := by
    refine ⟨by decide, ?_⟩
    intro earlier isPrefix scope _
    by_cases same : (⟨"2026-08-16", "p", some "k"⟩ : UsageScope) = scope
    · subst same
      have isInit := (List.mem_inits _ _).mpr isPrefix
      clear isPrefix
      revert earlier
      decide
    · have none : callsOf earlier scope = [] := by
        refine List.filter_eq_nil_iff.mpr ?_
        intro call member
        have isScope : call.scope = ⟨"2026-08-16", "p", some "k"⟩ := by
          have isCall := isPrefix.subset member
          clear member
          revert call
          decide
        simpa [isScope] using same
      rw [sumsOf, none]
      rfl
  obtain ⟨table, isTable, aggregates⟩ := usage_aggregates_iff _ stays
  refine ⟨table, isTable, aggregates.mpr ?_⟩
  intro day providerId
  simp [callsOf, UsageCall.scope]

/-- Two calls of an executor, which has no credential, leave two rows. -/
theorem usage_without_credential_splits :
    ∃ table,
      usageAfter [⟨"2026-08-16", "codex", none, 100, 5⟩, ⟨"2026-08-16", "codex", none, 40, 2⟩] =
        .ok table ∧
      table.rows =
        [(⟨"2026-08-16", "codex", none⟩, ⟨1, 100, 5⟩),
          (⟨"2026-08-16", "codex", none⟩, ⟨1, 40, 2⟩)] ∧
      ¬ AggregatesExactly
        [⟨"2026-08-16", "codex", none, 100, 5⟩, ⟨"2026-08-16", "codex", none, 40, 2⟩] table := by
  refine ⟨_, rfl, rfl, ?_⟩
  intro aggregates
  have one := aggregates.each ⟨"2026-08-16", "codex", none, 100, 5⟩ List.mem_cons_self
  exact absurd (congrArg List.length one) (by decide)

end AutoRouteGateway.State

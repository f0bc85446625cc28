import Mathlib.Logic.Function.Basic
import Mathlib.Data.List.Induction
import Mathlib.Data.List.TakeWhile

/-!
Contract: most-specific-first lookup along a chain of scopes.

Rows are a partial function from scopes to values. A reader consults a finite
chain of scopes and takes the first row it meets; a writer sets the row of one
scope. The laws here say when a write is visible through a chain, and express
the row of a scope after any sequence of writes as the latest write there.

Owns: `firstHit`, `replay`, `latest`, and their laws, also under an encoding that
confuses two scopes.

Does not own: any concrete scope, chain, or row type.
-/

namespace AutoRouteGateway.Library

universe u v w x

variable {κ : Type u} {ν : Type v}

/-- The first row met along the chain. -/
def firstHit (rows : κ → Option ν) (chain : List κ) : Option ν :=
  chain.findSome? rows

@[simp] theorem firstHit_nil (rows : κ → Option ν) : firstHit rows [] = none := rfl

theorem firstHit_cons (rows : κ → Option ν) (scope : κ) (chain : List κ) :
    firstHit rows (scope :: chain) = (rows scope).or (firstHit rows chain) := by
  unfold firstHit
  rw [List.findSome?_cons]
  cases rows scope <;> rfl

theorem firstHit_append (rows : κ → Option ν) (left right : List κ) :
    firstHit rows (left ++ right) = (firstHit rows left).or (firstHit rows right) := by
  induction left with
  | nil => simp
  | cons scope rest inductionHypothesis =>
      rw [List.cons_append, firstHit_cons, firstHit_cons, inductionHypothesis, Option.or_assoc]

/-- Two tables that agree on the chain answer alike. -/
theorem firstHit_congr {rows rows' : κ → Option ν} {chain : List κ}
    (agree : ∀ scope ∈ chain, rows scope = rows' scope) :
    firstHit rows chain = firstHit rows' chain := by
  induction chain with
  | nil => rfl
  | cons scope rest inductionHypothesis =>
      rw [firstHit_cons, firstHit_cons, agree scope (by simp),
        inductionHypothesis fun other member => agree other (by simp [member])]

theorem firstHit_eq_none_iff {rows : κ → Option ν} {chain : List κ} :
    firstHit rows chain = none ↔ ∀ scope ∈ chain, rows scope = none :=
  List.findSome?_eq_none_iff

section Writes

variable [DecidableEq κ]

/-- A write outside the chain is invisible through it. -/
theorem firstHit_update_of_notMem {rows : κ → Option ν} {chain : List κ} {scope : κ}
    (outside : scope ∉ chain) (value : Option ν) :
    firstHit (Function.update rows scope value) chain = firstHit rows chain := by
  refine firstHit_congr fun other member => ?_
  have different : other ≠ scope := fun equal => outside (equal ▸ member)
  exact Function.update_of_ne different _ _

/-- The scopes a reader consults before it reaches `scope`. -/
def moreSpecific (chain : List κ) (scope : κ) : List κ :=
  chain.takeWhile (· ≠ scope)

@[simp] theorem moreSpecific_cons_self (scope : κ) (rest : List κ) :
    moreSpecific (scope :: rest) scope = [] :=
  List.takeWhile_cons_of_neg (by simp)

theorem notMem_moreSpecific (chain : List κ) (scope : κ) :
    scope ∉ moreSpecific chain scope := by
  intro member
  have kept := List.mem_takeWhile_imp member
  simp at kept

/-- A write is seen exactly when its scope is on the chain and no more specific
scope has a row; otherwise the reader sees what it saw before. -/
theorem firstHit_update {chain : List κ} {scope : κ} (member : scope ∈ chain)
    (rows : κ → Option ν) (value : ν) :
    firstHit (Function.update rows scope (some value)) chain =
      (firstHit rows (moreSpecific chain scope)).or (some value) := by
  induction chain with
  | nil => simp at member
  | cons head rest inductionHypothesis =>
      by_cases same : head = scope
      · simp [firstHit_cons, moreSpecific, same]
      · have tail : scope ∈ rest := (List.mem_cons.mp member).resolve_left fun equal =>
          same equal.symm
        have unfolded : moreSpecific (head :: rest) scope = head :: moreSpecific rest scope := by
          simp [moreSpecific, same]
        rw [firstHit_cons, inductionHypothesis tail, Function.update_of_ne same, unfolded,
          firstHit_cons, Option.or_assoc]

/-- A row at a more specific scope decides the lookup. -/
theorem firstHit_of_moreSpecific {rows : κ → Option ν} {chain : List κ} {scope : κ}
    {value : ν} (found : firstHit rows (moreSpecific chain scope) = some value) :
    firstHit rows chain = some value := by
  calc firstHit rows chain
      = firstHit rows (moreSpecific chain scope ++ chain.dropWhile (· ≠ scope)) := by
        rw [moreSpecific, List.takeWhile_append_dropWhile]
    _ = some value := by rw [firstHit_append, found, Option.some_or]

/-! ### Histories of writes -/

/-- The rows after the writes, oldest first. -/
def replay (writes : List (κ × ν)) (rows : κ → Option ν) : κ → Option ν :=
  writes.foldl (fun current write => Function.update current write.1 (some write.2)) rows

theorem replay_append (earlier later : List (κ × ν)) (rows : κ → Option ν) :
    replay (earlier ++ later) rows = replay later (replay earlier rows) :=
  List.foldl_append

theorem replay_singleton (write : κ × ν) (rows : κ → Option ν) :
    replay [write] rows = Function.update rows write.1 (some write.2) := rfl

/-- The value of the last write to `scope`. -/
def latest (writes : List (κ × ν)) (scope : κ) : Option ν :=
  (writes.reverse.find? fun write => write.1 = scope).map Prod.snd

theorem latest_append_singleton (writes : List (κ × ν)) (write : κ × ν) (scope : κ) :
    latest (writes ++ [write]) scope =
      if write.1 = scope then some write.2 else latest writes scope := by
  unfold latest
  rw [List.reverse_append, List.reverse_singleton, List.singleton_append, List.find?_cons]
  by_cases same : write.1 = scope <;> simp [same]

/-- The last write to a scope is one of the writes to it. -/
theorem mem_of_latest_eq_some {writes : List (κ × ν)} {scope : κ} {value : ν}
    (found : latest writes scope = some value) : (scope, value) ∈ writes := by
  obtain ⟨⟨key, stored⟩, isLast, rfl⟩ := Option.map_eq_some_iff.mp found
  have member := List.mem_of_find?_eq_some isLast
  have sameKey : key = scope := by simpa using List.find?_some isLast
  rw [List.mem_reverse] at member
  exact sameKey ▸ member

/-- What a chain finds among the latest writes was written at one of its scopes. -/
theorem mem_of_firstHit_latest_eq_some {writes : List (κ × ν)} {chain : List κ} {value : ν}
    (found : firstHit (latest writes) chain = some value) :
    ∃ scope ∈ chain, (scope, value) ∈ writes := by
  obtain ⟨scope, onChain, isLatest⟩ := List.exists_of_findSome?_eq_some found
  exact ⟨scope, onChain, mem_of_latest_eq_some isLatest⟩

theorem latest_eq_none_iff {writes : List (κ × ν)} {scope : κ} :
    latest writes scope = none ↔ ∀ write ∈ writes, write.1 ≠ scope := by
  simp [latest]

/-- Re-encoding the scopes keeps the latest write of a scope that no other
written scope is confused with. -/
theorem latest_map {κ' : Type w} [DecidableEq κ'] (encode : κ → κ') {writes : List (κ × ν)}
    (scope : κ) (faithful : ∀ write ∈ writes, encode write.1 = encode scope → write.1 = scope) :
    latest (writes.map fun write => (encode write.1, write.2)) (encode scope) =
      latest writes scope := by
  induction writes using List.reverseRecOn with
  | nil => rfl
  | append_singleton writes write inductionHypothesis =>
      have earlier := inductionHypothesis fun other member => faithful other (by simp [member])
      rw [List.map_append, List.map_singleton, latest_append_singleton,
        latest_append_singleton, earlier]
      by_cases same : write.1 = scope
      · rw [if_pos same, if_pos (congrArg encode same)]
      · rw [if_neg same, if_neg fun confused => same (faithful write (by simp) confused)]

/-- Where every scope of a list writes its own value, that is its latest value. -/
theorem latest_map_self (scopes : List κ) (value : κ → ν) (scope : κ) :
    latest (scopes.map fun own => (own, value own)) scope =
      if scope ∈ scopes then some (value scope) else none := by
  induction scopes using List.reverseRecOn with
  | nil => rfl
  | append_singleton scopes last inductionHypothesis =>
      rw [List.map_append, List.map_singleton, latest_append_singleton, inductionHypothesis]
      by_cases same : last = scope
      · simp [same]
      · simp [same, Ne.symm same]

/-- The row of a scope is its latest write, or the row it started with. -/
theorem replay_apply (writes : List (κ × ν)) (rows : κ → Option ν) (scope : κ) :
    replay writes rows scope = (latest writes scope).or (rows scope) := by
  induction writes using List.reverseRecOn with
  | nil => rfl
  | append_singleton writes write inductionHypothesis =>
      rw [replay_append, replay_singleton, latest_append_singleton]
      by_cases same : write.1 = scope
      · simp [← same]
      · rw [Function.update_of_ne (Ne.symm same), if_neg same, inductionHypothesis]

/-- Over no rows, the replay of a history is its latest values. -/
theorem replay_blank (writes : List (κ × ν)) :
    replay writes (fun _ => none) = latest writes := by
  funext scope
  rw [replay_apply]
  exact Option.or_none

/-- Rows to which every action applies its own write hold, after a sequence of
actions, the writes of the sequence, replayed. -/
theorem rows_foldl {σ : Type w} {α : Type x} (step : σ → α → σ) (rows : σ → κ → Option ν)
    (write : α → Option (κ × ν))
    (own : ∀ s action, rows (step s action) = replay (write action).toList (rows s))
    (actions : List α) (start : σ) :
    rows (actions.foldl step start) = replay (actions.filterMap write) (rows start) := by
  induction actions using List.reverseRecOn with
  | nil => rfl
  | append_singleton actions action inductionHypothesis =>
      have last : [action].filterMap write = (write action).toList := by
        cases written : write action <;> simp [written]
      rw [List.foldl_append, List.filterMap_append, replay_append, last, List.foldl_cons,
        List.foldl_nil, own, inductionHypothesis]

/-! ### Scopes that an encoding confuses -/

/-- The last of the scopes that is one of the two is `own`. -/
def Prevails (own rival : κ) (scopes : List κ) : Prop :=
  scopes.reverse.find? (fun scope => scope = own ∨ scope = rival) = some own

instance (own rival : κ) (scopes : List κ) : Decidable (Prevails own rival scopes) :=
  inferInstanceAs (Decidable (_ = _))

theorem not_prevails_nil (own rival : κ) : ¬ Prevails own rival [] := by
  intro last
  cases last

theorem prevails_append_singleton (own rival : κ) (scopes : List κ) (scope : κ) :
    Prevails own rival (scopes ++ [scope]) ↔
      if scope = own ∨ scope = rival then scope = own else Prevails own rival scopes := by
  unfold Prevails
  rw [List.reverse_append, List.reverse_singleton, List.singleton_append, List.find?_cons]
  by_cases either : scope = own ∨ scope = rival <;> simp [either]

theorem Prevails.mem {own rival : κ} {scopes : List κ} (prevails : Prevails own rival scopes) :
    own ∈ scopes :=
  List.mem_reverse.mp (List.mem_of_find?_eq_some prevails)

/-- Without its rival a scope prevails. -/
theorem prevails_of_notMem {own rival : κ} {scopes : List κ} (member : own ∈ scopes)
    (alone : rival ∉ scopes) : Prevails own rival scopes := by
  induction scopes using List.reverseRecOn with
  | nil => cases member
  | append_singleton scopes scope inductionHypothesis =>
      rw [List.mem_append, List.mem_singleton, not_or] at alone
      rw [prevails_append_singleton]
      split_ifs with either
      · exact either.resolve_right fun same => alone.2 same.symm
      · apply inductionHypothesis _ alone.1
        rcases List.mem_append.mp member with earlier | last
        · exact earlier
        · exact absurd (Or.inl (List.mem_singleton.mp last).symm) either

theorem latest_ne_none_iff {writes : List (κ × ν)} {scope : κ} :
    latest writes scope ≠ none ↔ scope ∈ writes.map Prod.fst := by
  rw [Ne, latest_eq_none_iff]
  simp

omit [DecidableEq κ] in
theorem latest_map_ne_none_iff {κ' : Type w} [DecidableEq κ'] (encode : κ → κ')
    {writes : List (κ × ν)} {key : κ'} :
    latest (writes.map fun write => (encode write.1, write.2)) key ≠ none ↔
      ∃ write ∈ writes, encode write.1 = key := by
  rw [latest_ne_none_iff, List.map_map]
  exact List.mem_map

/-- Where an encoding confuses two scopes, the latest write at their common key
is the latest one of the scope that was written last. -/
theorem latest_map_confused {κ' : Type w} [DecidableEq κ'] (encode : κ → κ')
    {writes : List (κ × ν)} {own rival : κ} (different : own ≠ rival)
    (same : encode own = encode rival)
    (confused : ∀ write ∈ writes, encode write.1 = encode rival →
      write.1 = own ∨ write.1 = rival) :
    latest (writes.map fun write => (encode write.1, write.2)) (encode rival) =
      if Prevails own rival (writes.map Prod.fst) then latest writes own
      else latest writes rival := by
  induction writes using List.reverseRecOn with
  | nil => rfl
  | append_singleton writes write inductionHypothesis =>
      have earlier := inductionHypothesis fun other member => confused other (by simp [member])
      simp only [List.map_append, List.map_singleton, latest_append_singleton,
        prevails_append_singleton, earlier]
      by_cases isOwn : write.1 = own
      · simp [isOwn, same]
      · by_cases isRival : write.1 = rival
        · simp [isRival, Ne.symm different]
        · have fresh : ¬ encode write.1 = encode rival := by
            intro confusedHere
            rcases confused write (by simp) confusedHere with own | rival
            · exact isOwn own
            · exact isRival rival
          simp [isOwn, isRival, fresh]

end Writes

end AutoRouteGateway.Library

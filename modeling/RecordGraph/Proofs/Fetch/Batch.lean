import RecordGraph.Proofs.Fetch.Keys
import RecordGraph.Proofs.Fetch.Level

/-!
Contract: one query for the keys of many rows gives each row what a query for its own key gives.

Owns: `Snapshot.related`, the rows that a level has for one parent row, and their equality with the
rows that match the parent row among those of a batch.
Does not own: which rows are the parent rows.
-/

namespace RecordGraph

open RecordGraph.Sql

/-- The rows of a level for one parent row: those of a query for the row's own key. A row without
a key has none. -/
def Snapshot.related (db : Snapshot) (level : FetchLevel) (parent : Record) :
    Result (List Record) :=
  let key := parent.getD level.ownerColumn
  if key.isNull then pure []
  else do
    let query ← level.build [key]
    pure ((db.answer query).map level.visible)

namespace FetchLevel

/-- Whether a database compares the rows of a level with keys as keys are compared with each
other. -/
structure Compares (db : Snapshot) (level : FetchLevel) (conditions : List Condition)
    (order : List OrderTerm) (keys : List Value) : Prop where
  isKey : ∀ row ∈ db.base (level.query conditions order keys).shape,
    (db.read row level.keyTerm).isKey = true
  holds : ∀ row ∈ db.base (level.query conditions order keys).shape,
    db.holds row (.among level.keyTerm keys) =
      keys.any fun key => key.same (db.read row level.keyTerm)

section Batch

variable {db : Snapshot} {level : FetchLevel} {conditions : List Condition}
variable {order : List OrderTerm}

/-- Of the rows for many keys, those that equal one key are the rows for this key, in order. -/
theorem sorted_query_one {keys : List Value} {key : Value}
    (compares : level.Compares db conditions order keys)
    (comparesOne : level.Compares db conditions order [key])
    (among : ∀ value, key.same value = true → (keys.any fun other => other.same value) = true) :
    ((db.sorted (level.query conditions order keys)).filter fun row =>
        key.same (db.read row level.keyTerm)) =
      db.sorted (level.query conditions order [key]) := by
  have sameOrder : (level.query conditions order keys).order =
      (level.query conditions order [key]).order := rfl
  have sameShape : (level.query conditions order keys).shape =
      (level.query conditions order [key]).shape := shape_query keys [key]
  have sameBase := congrArg db.base sameShape
  unfold Snapshot.sorted
  rw [filter_mergeSort (db.trans _) (db.total _), sameOrder]
  congr 1
  unfold Snapshot.kept
  rw [List.filter_filter, ← sameBase]
  apply List.filter_congr
  intro row member
  rw [holds_query, holds_query, compares.holds row member,
    comparesOne.holds row (sameBase ▸ member), List.any_cons, List.any_nil, Bool.or_false]
  by_cases same : key.same (db.read row level.keyTerm) = true
  · rw [same, among _ same, Bool.true_and]
  · rw [Bool.not_eq_true] at same
    rw [same, Bool.false_and, Bool.false_and]

/-- The rows of a level for keys, each by the key of its parents. -/
def keyedFor (db : Snapshot) (level : FetchLevel) (conditions : List Condition)
    (order : List OrderTerm) (keys : List Value) : List KeyedRow :=
  (db.sorted (level.query conditions order keys)).map fun row =>
    (db.read row level.keyTerm, db.columns level.entity.table row)

theorem matching_keyedFor (keys : List Value) (parent : Record) :
    level.matching (level.keyedFor db conditions order keys) parent =
      ((db.sorted (level.query conditions order keys)).filter fun row =>
        (parent.getD level.ownerColumn).same (db.read row level.keyTerm)).map
          (db.columns level.entity.table) := by
  unfold matching keyedFor
  dsimp only
  rw [List.filter_map, List.map_map]
  rfl

theorem answer_visible (correlates : level.Correlates) (unlabelled : level.Unlabelled)
    (keys : List Value) :
    (db.answer (level.query conditions order keys)).map level.visible =
      (db.sorted (level.query conditions order keys)).map (db.columns level.entity.table) := by
  unfold Snapshot.answer
  rw [List.map_map]
  apply List.map_congr_left
  intro row _
  exact visible_project correlates unlabelled conditions order keys row

/-- The rows that match a parent row with a key are those for the key alone. -/
theorem related_of_key {parents : List Record} {parent : Record} {keys : List Value}
    (correlates : level.Correlates) (unlabelled : level.Unlabelled)
    (adds : level.Adds conditions order) (keysOf : level.KeysOf parents keys)
    (isParent : parent ∈ parents) (isKey : (parent.getD level.ownerColumn).isKey = true)
    (notNull : (parent.getD level.ownerColumn).isNull = false)
    (compares : level.Compares db conditions order keys)
    (comparesOne : level.Compares db conditions order [parent.getD level.ownerColumn]) :
    db.related level parent =
      .ok (level.matching (level.keyedFor db conditions order keys) parent) := by
  have among : ∀ value, (parent.getD level.ownerColumn).same value = true →
      (keys.any fun other => other.same value) = true := by
    intro value same
    exact (keysOf.stand parent isParent notNull).any_same isKey
      (fun other member => (keysOf.found other member).2.1) same
  unfold Snapshot.related
  dsimp only
  rw [notNull, if_neg Bool.false_ne_true, adds, matching_keyedFor,
    sorted_query_one compares comparesOne among, ← answer_visible correlates unlabelled]
  rfl

/-- No row matches a parent row without a key. -/
theorem related_of_null {parent : Record} {keys : List Value}
    (areKeys : ∀ key ∈ keys, key.isNull = false ∧ key.isKey = true)
    (isNull : (parent.getD level.ownerColumn).isNull = true)
    (compares : level.Compares db conditions order keys) :
    db.related level parent =
      .ok (level.matching (level.keyedFor db conditions order keys) parent) := by
  have noneMatch : (db.sorted (level.query conditions order keys)).filter (fun row =>
      (parent.getD level.ownerColumn).same (db.read row level.keyTerm)) = [] := by
    rw [List.filter_eq_nil_iff]
    intro row member same
    have isBase := db.mem_base_of_sorted member
    have kept := List.mem_filter.1 (List.mem_mergeSort.1 member)
    have among := (holds_query db keys row).symm.trans kept.2
    rw [Bool.and_eq_true, compares.holds row isBase, List.any_eq_true] at among
    rcases among.1 with ⟨key, isAmong, sameKey⟩
    have keyNull := Value.isNull_of_same (areKeys key isAmong).2 sameKey
    have rowNull : (db.read row level.keyTerm).isNull = true := by
      rw [← isNull]
      exact (Value.isNull_of_same (Value.isKey_of_isNull isNull) same).symm
    rw [(areKeys key isAmong).1, rowNull] at keyNull
    cases keyNull
  unfold Snapshot.related
  dsimp only
  rw [if_pos isNull, matching_keyedFor, noneMatch]
  rfl

end Batch

end FetchLevel

end RecordGraph

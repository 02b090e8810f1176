import RecordGraph.Proofs.Fetch.Nest

/-!
Contract: what is known of the levels that have been fetched.

Owns: `Snapshot.Gives` and `Snapshot.Asks`, the rows and the queries of a plan; `Snapshot.Suits`,
what a plan takes for granted of a database; and `FetchPlan.Fetched`, the invariant of fetching.
Does not own: executors.
-/

namespace RecordGraph

open RecordGraph.Sql

/-- The rows that a plan may show at a level, whether the level is built for the keys of all rows
above it or for those of some. -/
inductive Snapshot.Gives (db : Snapshot) (plan : FetchPlan) : Nat → Record → Prop where
  | root {row : Record} (answered : row ∈ db.answer plan.root) : Gives db plan 0 row
  | level {level : FetchLevel} {keys : List Value} {query : Select} {row : Record}
      (isLevel : level ∈ plan.levels) (owner : Value → Record)
      (owners : ∀ key ∈ keys, Gives db plan level.parent (owner key))
      (keyed : ∀ key ∈ keys, key.isNull = false ∧ (owner key).getD level.ownerColumn = key)
      (built : level.build keys = .ok query) (answered : row ∈ db.answer query) :
      Gives db plan level.index (level.visible row)

/-- Whether keys are those of rows above a level. -/
def Snapshot.OwnerKeys (db : Snapshot) (plan : FetchPlan) (level : FetchLevel)
    (keys : List Value) : Prop :=
  ∀ key ∈ keys, key.isNull = false ∧
    ∃ owner, db.Gives plan level.parent owner ∧ owner.getD level.ownerColumn = key

/-- The queries that a plan may ask. -/
inductive Snapshot.Asks (db : Snapshot) (plan : FetchPlan) : Select → Prop where
  | root : Asks db plan plan.root
  | level {level : FetchLevel} {keys : List Value} {query : Select} (isLevel : level ∈ plan.levels)
      (isAny : keys ≠ []) (owners : db.OwnerKeys plan level keys)
      (built : level.build keys = .ok query) : Asks db plan query

/-- What a plan takes for granted of a database: keys are scalars, and are compared in queries as
they are compared in records; no label is the name of a column that is selected with it. -/
structure Snapshot.Suits (db : Snapshot) (plan : FetchPlan) : Prop where
  scalar : ∀ level ∈ plan.levels, ∀ owner, db.Gives plan level.parent owner →
    (owner.getD level.ownerColumn).isKey = true
  compares : ∀ level ∈ plan.levels, ∀ keys query, db.OwnerKeys plan level keys →
    level.build keys = .ok query → ∀ row ∈ db.base query.shape,
      (db.read row level.keyTerm).isKey = true ∧ db.holds row (.among level.keyTerm keys) =
        keys.any fun key => key.same (db.read row level.keyTerm)
  unlabelled : ∀ level ∈ plan.levels, level.Unlabelled

namespace FetchPlan

variable {db : Snapshot} {plan : FetchPlan} {level : FetchLevel} {roots : List Record}
variable {fetched : LevelRows} {conditions : List Condition} {order : List OrderTerm}

theorem compares_of_suits (suits : db.Suits plan) (isLevel : level ∈ plan.levels)
    (adds : level.Adds conditions order) {keys : List Value}
    (owners : db.OwnerKeys plan level keys) : level.Compares db conditions order keys where
  isKey := fun row member => (suits.compares level isLevel keys _ owners (adds keys) row member).1
  holds := fun row member => (suits.compares level isLevel keys _ owners (adds keys) row member).2

theorem keyedAt_append_self {index : Nat} {rows : List FetchLevel.KeyedRow}
    (isNew : index ∉ fetched.map Prod.fst) : keyedAt (fetched ++ [(index, rows)]) index = rows := by
  have isNone : fetched.lookup index = none := by
    rw [List.lookup_eq_none_iff]
    intro entry member
    rw [bne_iff_ne]
    rintro rfl
    exact isNew (List.mem_map_of_mem member)
  unfold keyedAt
  rw [List.lookup_append, isNone, List.lookup_cons_self]
  rfl

theorem keyedAt_append_of_ne {index other : Nat} (rows : List FetchLevel.KeyedRow)
    (apart : other ≠ index) : keyedAt (fetched ++ [(index, rows)]) other = keyedAt fetched other := by
  unfold keyedAt
  rw [List.lookup_append, List.lookup_cons, beq_false_of_ne apart]
  exact congrArg (fun found => Option.getD found []) Option.or_none

/-- What is known once some levels have been fetched. -/
structure Fetched (db : Snapshot) (plan : FetchPlan) (roots : List Record)
    (levels : List FetchLevel) (fetched : LevelRows) : Prop where
  numbers : fetched.map Prod.fst = levels.map (·.index)
  gives : ∀ index, ∀ row ∈ rowsAt roots fetched index, db.Gives plan index row
  relates : ∀ level ∈ levels, Relates db roots fetched level

theorem Fetched.start : Fetched db plan (db.answer plan.root) [] [] where
  numbers := rfl
  gives := by
    intro index row member
    unfold rowsAt at member
    by_cases isRoot : index = 0
    · rw [if_pos isRoot] at member
      rw [isRoot]
      exact .root member
    · rw [if_neg isRoot] at member
      cases member
  relates := fun level member => absurd member List.not_mem_nil

theorem Fetched.ownerKeys {levels : List FetchLevel} {keys : List Value}
    (isFetched : Fetched db plan roots levels fetched)
    (keysOf : level.KeysOf (rowsAt roots fetched level.parent) keys) :
    db.OwnerKeys plan level keys := by
  intro key member
  rcases keysOf.found key member with ⟨notNull, _, parent, isParent, same⟩
  exact ⟨notNull, parent, isFetched.gives level.parent parent isParent, same⟩

theorem rowsAt_append_of_ne {index other : Nat} (rows : List FetchLevel.KeyedRow)
    (apart : other ≠ index) :
    rowsAt roots (fetched ++ [(index, rows)]) other = rowsAt roots fetched other := by
  unfold rowsAt
  rw [keyedAt_append_of_ne rows apart]

/-- The rows of a level for the keys of rows above it are related to these rows. -/
theorem related_keyedFor {keys : List Value} (correlates : level.Correlates)
    (unlabelled : level.Unlabelled) (adds : level.Adds conditions order) (suits : db.Suits plan)
    (isLevel : level ∈ plan.levels) {parents : List Record}
    (keysOf : level.KeysOf parents keys)
    (gives : ∀ parent ∈ parents, db.Gives plan level.parent parent)
    (compares : level.Compares db conditions order keys) {parent : Record}
    (isParent : parent ∈ parents) :
    db.related level parent =
      .ok (level.matching (level.keyedFor db conditions order keys) parent) := by
  by_cases isNull : (parent.getD level.ownerColumn).isNull = true
  · apply FetchLevel.related_of_null ?_ isNull compares
    intro key member
    have found := keysOf.found key member
    exact ⟨found.1, found.2.1⟩
  · rw [Bool.not_eq_true] at isNull
    have owners : db.OwnerKeys plan level [parent.getD level.ownerColumn] := by
      intro key member
      rw [List.mem_singleton.1 member]
      exact ⟨isNull, parent, gives parent isParent, rfl⟩
    exact FetchLevel.related_of_key correlates unlabelled adds keysOf isParent
      (suits.scalar level isLevel parent (gives parent isParent)) isNull compares
      (compares_of_suits suits isLevel adds owners)

theorem gives_keyedFor {keys : List Value} (correlates : level.Correlates)
    (unlabelled : level.Unlabelled) (adds : level.Adds conditions order)
    (isLevel : level ∈ plan.levels) (owners : db.OwnerKeys plan level keys) {row : Record}
    (member : row ∈ (level.keyedFor db conditions order keys).map (·.2)) :
    db.Gives plan level.index row := by
  have ownerOf : ∀ key ∈ keys, ∃ owner, db.Gives plan level.parent owner ∧
      owner.getD level.ownerColumn = key := fun key member => (owners key member).2
  choose! owner isOwner using ownerOf
  obtain ⟨keyed, isKeyed, rfl⟩ := List.mem_map.1 member
  obtain ⟨stored, isSorted, rfl⟩ := List.mem_map.1 isKeyed
  dsimp only
  rw [← FetchLevel.visible_project correlates unlabelled conditions order keys stored]
  refine .level isLevel owner (fun key member => (isOwner key member).1)
    (fun key member => ⟨(owners key member).1, (isOwner key member).2⟩) (adds keys) ?_
  exact List.mem_map_of_mem isSorted

theorem Fetched.step {levels : List FetchLevel} {keys : List Value}
    (isFetched : Fetched db plan roots levels fetched) (suits : db.Suits plan)
    (correlates : level.Correlates) (adds : level.Adds conditions order)
    (isLevel : level ∈ plan.levels) (isLater : ∀ earlier ∈ levels, earlier.index < level.index)
    (precedes : level.parent < level.index)
    (precede : ∀ earlier ∈ levels, earlier.parent < earlier.index)
    (keysOf : level.KeysOf (rowsAt roots fetched level.parent) keys) :
    Fetched db plan roots (levels ++ [level])
      (fetched ++ [(level.index, level.keyedFor db conditions order keys)]) := by
  have unlabelled := suits.unlabelled level isLevel
  have owners := isFetched.ownerKeys keysOf
  have compares := compares_of_suits suits isLevel adds owners
  have isNew : level.index ∉ fetched.map Prod.fst := by
    rw [isFetched.numbers]
    intro member
    obtain ⟨earlier, isEarlier, same⟩ := List.mem_map.1 member
    exact Nat.ne_of_lt (isLater earlier isEarlier) same
  refine ⟨?_, ?_, ?_⟩
  · rw [List.map_append, List.map_append, isFetched.numbers]
    rfl
  · intro index row member
    by_cases isOwn : index = level.index
    · unfold rowsAt at member
      rw [isOwn, if_neg (Nat.ne_of_gt (Nat.zero_lt_of_lt precedes)), keyedAt_append_self isNew]
        at member
      rw [isOwn]
      exact gives_keyedFor correlates unlabelled adds isLevel owners member
    · rw [rowsAt_append_of_ne _ isOwn] at member
      exact isFetched.gives index row member
  · intro other member parent isParent
    rcases List.mem_append.1 member with isEarlier | isOwn
    · have otherLater := isLater other isEarlier
      have otherPrecedes := precede other isEarlier
      rw [rowsAt_append_of_ne _ (by omega)] at isParent
      rw [keyedAt_append_of_ne _ (Nat.ne_of_lt otherLater)]
      exact isFetched.relates other isEarlier parent isParent
    · rw [List.mem_singleton.1 isOwn] at isParent ⊢
      rw [rowsAt_append_of_ne _ (Nat.ne_of_lt precedes)] at isParent
      rw [keyedAt_append_self isNew]
      exact related_keyedFor correlates unlabelled adds suits isLevel keysOf
        (isFetched.gives level.parent) compares isParent

end FetchPlan

end RecordGraph

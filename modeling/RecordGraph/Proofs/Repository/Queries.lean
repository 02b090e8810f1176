import RecordGraph.Proofs.Fetch.Acceptance
import RecordGraph.Proofs.Fetch.Order
import RecordGraph.Proofs.Repository.Fetch

/-!
Contract: the queries that a fetch issues.

Owns: executors that keep a journal, the run of a plan on one of them, and the whole of what planning
a fetch accepts and what its plan does.
Does not own: what the rows of a database are.

Nothing is known of the rows here but that they have the selected columns and hold scalars. One
query is issued for the root, and one for each level whose parent rows have a key.
-/

namespace RecordGraph

open RecordGraph.Sql

/-- The names of the columns that a query selects. -/
def Sql.Select.columnNames (select : Select) : List String :=
  select.table.columnNames ++ (select.join.map (·.label)).toList

/-- Whether a row has every selected column, and holds nothing but scalars. -/
structure Sql.Select.Answered (select : Select) (row : Record) : Prop where
  complete : ∀ name ∈ select.columnNames, ∃ value, row.get? name = some value
  scalars : Snapshot.Scalars row

variable {σ : Type}

/-- Whether an executor answers every query, and a journal holds the queries with their rows. -/
def Executor.Journals (executor : Executor σ) (journal : σ → List (Select × List Record)) : Prop :=
  ∀ query world, ∃ rows after, executor.fetchAll query world = (.ok rows, after) ∧
    journal after = journal world ++ [(query, rows)] ∧ ∀ row ∈ rows, query.Answered row

namespace FetchLevel

/-- Whether one of some rows has a key for a level. -/
def hasKey (level : FetchLevel) (parents : List Record) : Bool :=
  parents.any fun parent => !(parent.getD level.ownerColumn).isNull

theorem keys_eq_nil_iff {level : FetchLevel} {parents : List Record} {keys : List Value}
    (keysOf : level.KeysOf parents keys) : keys = [] ↔ level.hasKey parents = false := by
  rw [hasKey, List.any_eq_false]
  constructor
  · intro isNil parent isParent notNull
    rcases keysOf.stand parent isParent (by simpa using notNull) with member | ⟨other, member, _⟩
    · rw [isNil] at member
      exact List.not_mem_nil member
    · rw [isNil] at member
      exact List.not_mem_nil member
  · intro allNull
    rw [List.eq_nil_iff_forall_not_mem]
    intro key member
    obtain ⟨notNull, _, parent, isParent, rfl⟩ := keysOf.found key member
    exact allNull parent isParent (by simp [notNull])

theorem scalars_visible {level : FetchLevel} {row : Record} (scalars : Snapshot.Scalars row) :
    Snapshot.Scalars (level.visible row) := by
  unfold visible
  split
  · exact fun field member => scalars field (List.mem_of_mem_filter member)
  · exact scalars

/-- The match column is selected. -/
theorem matchColumn_mem {level : FetchLevel} (correlates : level.Correlates) :
    level.matchColumn ∈ level.statement.columnNames := by
  cases correlates with
  | own key statement isMatch keyTerm shown =>
      have isNamed := List.find?_some isMatch
      rw [statement, Select.columnNames]
      refine List.mem_append_left _ (List.mem_map.2 ⟨key, List.mem_of_find?_eq_some isMatch, ?_⟩)
      simpa using isNamed
  | joined join statement isMatch keyTerm hidden =>
      rw [statement, isMatch, Select.columnNames]
      exact List.mem_append_right _ (by simp)

/-- Rows with the selected columns can be nested, and show what they show. -/
theorem keyedRows_of_answered {level : FetchLevel} (correlates : level.Correlates)
    {query : Select} (same : query.columnNames = level.statement.columnNames) {rows : List Record}
    (answered : ∀ row ∈ rows, query.Answered row) :
    ∃ keyed, level.keyedRows rows = .ok keyed ∧ keyed.map (·.2) = rows.map level.visible := by
  have keyedRow : ∀ row ∈ rows, level.keyed row =
      .ok (row.getD level.matchColumn, level.visible row) := by
    intro row member
    have isMatch := matchColumn_mem correlates
    rw [← same] at isMatch
    rcases (answered row member).complete _ isMatch with ⟨value, found⟩
    have isKey := (answered row member).scalars.getD level.matchColumn
    rw [Record.getD, found, Option.getD_some] at isKey ⊢
    rw [keyed, found]
    dsimp only
    rw [if_pos isKey]
    rfl
  refine ⟨_, Result.mapM_eq_ok_map keyedRow, ?_⟩
  rw [List.map_map]
  rfl

end FetchLevel

/-- A query of a level with its rows. -/
structure Answer where
  level : FetchLevel
  query : Select
  rows : List Record

namespace FetchPlan

/-- The rows that answers show at a level; a level that was not asked shows none. -/
def shownAt (roots : List Record) (answers : List Answer) (index : Nat) : List Record :=
  if index = 0 then roots
  else ((answers.find? (·.level.index = index)).map fun answer =>
    answer.rows.map answer.level.visible).getD []

section Shown

variable {roots : List Record} {answers : List Answer}

theorem shownAt_append_of_ne (answer : Answer) {index : Nat} (apart : index ≠ answer.level.index) :
    shownAt roots (answers ++ [answer]) index = shownAt roots answers index := by
  have notOwn : ¬ answer.level.index = index := fun same => apart same.symm
  unfold shownAt
  rw [List.find?_append, List.find?_cons_of_neg (by simpa using notOwn), List.find?_nil,
    Option.or_none]

theorem shownAt_append_self (answer : Answer) (positive : answer.level.index ≠ 0)
    (isNew : ∀ other ∈ answers, other.level.index ≠ answer.level.index) :
    shownAt roots (answers ++ [answer]) answer.level.index =
      answer.rows.map answer.level.visible := by
  have notFound : answers.find? (·.level.index = answer.level.index) = none := by
    rw [List.find?_eq_none]
    exact fun other member => by simpa using isNew other member
  unfold shownAt
  rw [if_neg positive, List.find?_append, notFound, List.find?_cons_of_pos (by simp)]
  rfl

theorem shownAt_of_new {index : Nat} (positive : index ≠ 0)
    (isNew : ∀ other ∈ answers, other.level.index ≠ index) : shownAt roots answers index = [] := by
  have notFound : answers.find? (·.level.index = index) = none := by
    rw [List.find?_eq_none]
    exact fun other member => by simpa using isNew other member
  unfold shownAt
  rw [if_neg positive, notFound]
  rfl

end Shown

/-- What is known once some levels have been run. -/
structure Ran (roots : List Record) (levels : List FetchLevel) (fetched : LevelRows)
    (answers : List Answer) : Prop where
  numbers : fetched.map Prod.fst = levels.map (·.index)
  shown : ∀ index, rowsAt roots fetched index = shownAt roots answers index
  scalars : ∀ index, ∀ row ∈ shownAt roots answers index, Snapshot.Scalars row
  /-- The levels that were asked are those whose parents have a key. -/
  asked : answers.map (·.level) =
    levels.filter fun level => level.hasKey (shownAt roots answers level.parent)
  /-- A query depends on nothing but the answers before it. -/
  built : ∀ earlier answer later, answers = earlier ++ answer :: later →
    ∃ keys, answer.level.keys (shownAt roots earlier answer.level.parent) = .ok keys ∧
      answer.level.build keys = .ok answer.query

theorem Ran.start {roots : List Record} (scalars : ∀ row ∈ roots, Snapshot.Scalars row) :
    Ran roots [] [] [] where
  numbers := rfl
  shown := fun index => by
    unfold rowsAt shownAt keyedAt
    rfl
  scalars := fun index row member => by
    unfold shownAt at member
    split at member
    · exact scalars row member
    · exact absurd member List.not_mem_nil
  asked := rfl
  built := fun earlier answer later same => by simp at same

section Step

variable {roots : List Record} {levels : List FetchLevel} {fetched : LevelRows}
  {answers : List Answer} {level : FetchLevel}

theorem Ran.level_mem (ran : Ran roots levels fetched answers) {answer : Answer}
    (member : answer ∈ answers) : answer.level ∈ levels := by
  have isLevel := List.mem_map_of_mem (f := Answer.level) member
  rw [ran.asked] at isLevel
  exact List.mem_of_mem_filter isLevel

theorem Ran.isNew (ran : Ran roots levels fetched answers)
    (isLater : ∀ earlier ∈ levels, earlier.index < level.index) :
    level.index ∉ fetched.map Prod.fst := by
  rw [ran.numbers]
  intro member
  obtain ⟨earlier, isEarlier, same⟩ := List.mem_map.1 member
  exact Nat.ne_of_lt (isLater earlier isEarlier) same

theorem rowsAt_append_self {rows : List FetchLevel.KeyedRow} (positive : level.index ≠ 0)
    (isNew : level.index ∉ fetched.map Prod.fst) :
    rowsAt roots (fetched ++ [(level.index, rows)]) level.index = rows.map (·.2) := by
  rw [rowsAt, if_neg positive, keyedAt_append_self isNew]

theorem Ran.skip (ran : Ran roots levels fetched answers)
    (isLater : ∀ earlier ∈ levels, earlier.index < level.index)
    (precedes : level.parent < level.index)
    (noKey : level.hasKey (shownAt roots answers level.parent) = false) :
    Ran roots (levels ++ [level]) (fetched ++ [(level.index, [])]) answers := by
  have positive : level.index ≠ 0 := Nat.ne_of_gt (Nat.zero_lt_of_lt precedes)
  refine ⟨?_, fun index => ?_, ran.scalars, ?_, ran.built⟩
  · rw [List.map_append, List.map_append, ran.numbers]
    rfl
  · by_cases isOwn : index = level.index
    · rw [isOwn, rowsAt_append_self positive (ran.isNew isLater), shownAt_of_new positive]
      · rfl
      · exact fun other member => Nat.ne_of_lt (isLater _ (ran.level_mem member))
    · rw [rowsAt_append_of_ne _ isOwn, ran.shown]
  · rw [List.filter_append, ran.asked, List.filter_cons_of_neg (by simp [noKey]), List.filter_nil,
      List.append_nil]

theorem Ran.ask (ran : Ran roots levels fetched answers)
    (isLater : ∀ earlier ∈ levels, earlier.index < level.index)
    (precedes : level.parent < level.index)
    (precede : ∀ earlier ∈ levels, earlier.parent < earlier.index)
    (hasKey : level.hasKey (shownAt roots answers level.parent) = true) {keys : List Value}
    {query : Select} {rows : List Record} {keyed : List FetchLevel.KeyedRow}
    (isKeys : level.keys (shownAt roots answers level.parent) = .ok keys)
    (isBuilt : level.build keys = .ok query)
    (isShown : keyed.map (·.2) = rows.map level.visible)
    (scalars : ∀ row ∈ rows, Snapshot.Scalars row) :
    Ran roots (levels ++ [level]) (fetched ++ [(level.index, keyed)])
      (answers ++ [⟨level, query, rows⟩]) := by
  have positive : level.index ≠ 0 := Nat.ne_of_gt (Nat.zero_lt_of_lt precedes)
  have isNew : ∀ other ∈ answers, other.level.index ≠ level.index :=
    fun other member => Nat.ne_of_lt (isLater _ (ran.level_mem member))
  have ownShown : shownAt roots (answers ++ [⟨level, query, rows⟩]) level.index =
      rows.map level.visible := shownAt_append_self ⟨level, query, rows⟩ positive isNew
  have otherShown : ∀ {index}, index ≠ level.index →
      shownAt roots (answers ++ [⟨level, query, rows⟩]) index = shownAt roots answers index :=
    fun apart => shownAt_append_of_ne ⟨level, query, rows⟩ apart
  refine ⟨?_, fun index => ?_, fun index row member => ?_, ?_, ?_⟩
  · rw [List.map_append, List.map_append, ran.numbers]
    rfl
  · by_cases isOwn : index = level.index
    · rw [isOwn, rowsAt_append_self positive (ran.isNew isLater), ownShown, isShown]
    · rw [rowsAt_append_of_ne _ isOwn, ran.shown, otherShown isOwn]
  · by_cases isOwn : index = level.index
    · rw [isOwn, ownShown] at member
      obtain ⟨row, isRow, rfl⟩ := List.mem_map.1 member
      exact FetchLevel.scalars_visible (scalars row isRow)
    · rw [otherShown isOwn] at member
      exact ran.scalars index row member
  · have unchanged : levels.filter (fun other =>
          other.hasKey (shownAt roots (answers ++ [⟨level, query, rows⟩]) other.parent)) =
        levels.filter fun other => other.hasKey (shownAt roots answers other.parent) := by
      refine List.filter_congr fun other member => ?_
      have otherPrecedes := precede other member
      have otherLater := isLater other member
      rw [otherShown (by omega)]
    rw [List.map_append, List.filter_append, unchanged, ran.asked, List.filter_cons_of_pos]
    · rfl
    · rw [otherShown (Nat.ne_of_lt precedes)]
      exact hasKey
  · intro earlier answer later same
    rcases List.append_eq_append_iff.1 same with ⟨between, isEarlier, isLast⟩ |
      ⟨between, isAnswers, isLater'⟩
    · cases between with
      | nil =>
          rw [List.append_nil] at isEarlier
          cases isLast
          rw [isEarlier]
          exact ⟨keys, isKeys, isBuilt⟩
      | cons first rest =>
          rw [List.cons_append, List.cons.injEq] at isLast
          simp at isLast
    · cases between with
      | nil =>
          rw [List.append_nil] at isAnswers
          cases isLater'
          rw [← isAnswers]
          exact ⟨keys, isKeys, isBuilt⟩
      | cons first rest =>
          rw [List.cons_append, List.cons.injEq] at isLater'
          rw [isLater'.1]
          exact ran.built earlier first rest isAnswers

end Step

end FetchPlan

namespace Repository

open FetchPlan

variable {executor : Executor σ} {journal : σ → List (Select × List Record)}

section Level

variable {level : FetchLevel} {parents : List Record}

theorem fetchLevel_of_no_key (executor : Executor σ) (scalars : ∀ parent ∈ parents, Snapshot.Scalars parent)
    (noKey : level.hasKey parents = false) (world : σ) :
    fetchLevel executor level parents world = (.ok [], world) := by
  rcases FetchLevel.keys_eq_ok level fun parent member =>
    (scalars parent member).getD level.ownerColumn with ⟨keys, isKeys, keysOf⟩
  rw [(FetchLevel.keys_eq_nil_iff keysOf).2 noKey] at isKeys
  unfold fetchLevel
  exact (Action.bind_of_ok (lift_apply isKeys world)).trans rfl

/-- A level whose parents have a key is asked once. -/
theorem fetchLevel_of_key (journals : executor.Journals journal) (correlates : level.Correlates)
    (applies : ∃ applied, Filter.applyOptional level.filter level.statement = .ok applied)
    (scalars : ∀ parent ∈ parents, Snapshot.Scalars parent) (hasKey : level.hasKey parents = true)
    (world : σ) :
    ∃ keys query rows keyed after, level.keys parents = .ok keys ∧ level.build keys = .ok query ∧
      keyed.map (·.2) = rows.map level.visible ∧ (∀ row ∈ rows, Snapshot.Scalars row) ∧
      fetchLevel executor level parents world = (.ok keyed, after) ∧
        journal after = journal world ++ [(query, rows)] := by
  rcases FetchLevel.keys_eq_ok level fun parent member =>
    (scalars parent member).getD level.ownerColumn with ⟨keys, isKeys, keysOf⟩
  have isAny : keys.isEmpty = false := by
    rw [List.isEmpty_eq_false_iff, Ne, FetchLevel.keys_eq_nil_iff keysOf, hasKey]
    exact Bool.false_ne_true ∘ Eq.symm
  rcases applies with ⟨_, isApplied⟩
  rcases FetchLevel.exists_adds isApplied with ⟨conditions, order, adds⟩
  rcases journals (level.query conditions order keys) world with
    ⟨rows, after, answered, journalled, areAnswered⟩
  have sameColumns : (level.query conditions order keys).columnNames =
      level.statement.columnNames := rfl
  rcases FetchLevel.keyedRows_of_answered correlates sameColumns areAnswered with ⟨keyed, isKeyed, shown⟩
  refine ⟨keys, _, rows, keyed, after, isKeys, adds keys, shown,
    fun row member => (areAnswered row member).scalars, ?_, journalled⟩
  unfold fetchLevel
  refine (Action.bind_of_ok (lift_apply isKeys world)).trans ?_
  rw [isAny]
  refine (congrFun (if_neg Bool.false_ne_true) world).trans ?_
  refine (Action.bind_of_ok (lift_apply (adds keys) world)).trans ?_
  refine (Action.bind_of_ok answered).trans ?_
  exact lift_apply isKeyed after

end Level

/-- Running the levels that are left adds their queries to the journal. -/
theorem fetchLevels_journals (journals : executor.Journals journal) {roots : List Record}
    (rest : List FetchLevel) : ∀ (levels : List FetchLevel) {fetched : LevelRows}
      {answers : List Answer} {world : σ},
      (levels ++ rest).Pairwise (fun earlier later => earlier.index < later.index) →
      (∀ level ∈ levels ++ rest, level.parent < level.index) →
      (∀ level ∈ rest, level.Correlates ∧
        ∃ applied, Filter.applyOptional level.filter level.statement = .ok applied) →
      Ran roots levels fetched answers →
      ∃ all added after, fetchLevels executor roots fetched rest world = (.ok all, after) ∧
        journal after = journal world ++ added.map (fun answer => (answer.query, answer.rows)) ∧
          Ran roots (levels ++ rest) all (answers ++ added) := by
  induction rest with
  | nil =>
      intro levels fetched answers world _ _ _ ran
      refine ⟨fetched, [], world, rfl, (List.append_nil _).symm, ?_⟩
      rw [List.append_nil, List.append_nil]
      exact ran
  | cons level rest inductionHypothesis =>
      intro levels fetched answers world increasing precede fit ran
      have isLater : ∀ earlier ∈ levels, earlier.index < level.index := fun earlier member =>
        (List.pairwise_append.1 increasing).2.2 earlier member level (List.mem_cons_self ..)
      have precedes := precede level (List.mem_append_right _ (List.mem_cons_self ..))
      have earlierPrecede : ∀ earlier ∈ levels, earlier.parent < earlier.index :=
        fun earlier member => precede earlier (List.mem_append_left _ member)
      rw [List.append_cons] at increasing precede ⊢
      rw [List.forall_mem_cons] at fit
      have isParents := ran.shown level.parent
      have scalars := ran.scalars level.parent
      rw [← isParents] at scalars
      cases hasKey : level.hasKey (rowsAt roots fetched level.parent) with
      | false =>
          have levelRan := fetchLevel_of_no_key executor scalars hasKey world
          rw [isParents] at hasKey
          rcases inductionHypothesis (levels ++ [level]) increasing precede fit.2 (ran.skip isLater precedes hasKey) with
            ⟨all, added, after, restRan, journalled, finally_⟩
          exact ⟨all, added, after, (Action.bind_of_ok levelRan).trans restRan, journalled, finally_⟩
      | true =>
          rcases fetchLevel_of_key journals fit.1.1 fit.1.2 scalars hasKey world with
            ⟨keys, query, rows, keyed, middle, isKeys, isBuilt, shown, areScalars, levelRan, logged⟩
          rw [isParents] at hasKey isKeys
          rcases inductionHypothesis (levels ++ [level]) increasing precede fit.2 (ran.ask isLater precedes
            earlierPrecede hasKey isKeys isBuilt shown areScalars) with
            ⟨all, added, after, restRan, journalled, finally_⟩
          refine ⟨all, ⟨level, query, rows⟩ :: added, after,
            (Action.bind_of_ok levelRan).trans restRan, ?_, ?_⟩
          · rw [journalled, logged, List.append_assoc]
            rfl
          · rw [List.append_cons answers]
            exact finally_

end Repository

/-- What the run of a plan on an executor with a journal does. -/
structure FetchPlan.Asks (plan : FetchPlan) (executor : Executor σ)
    (journal : σ → List (Select × List Record)) (before : σ) (roots : List Record)
    (answers : List Answer) : Prop where
  /-- The root query comes first, and then the queries of levels. -/
  issued : ∃ outcome after,
    Repository.executeFetchPlan plan executor before = (.ok outcome, after) ∧
      journal after = journal before ++
        (plan.root, roots) :: answers.map fun answer => (answer.query, answer.rows)
  /-- In order, the levels that have parent rows with a key are asked once each. -/
  asked : answers.map (·.level) =
    plan.levels.filter fun level => level.hasKey (shownAt roots answers level.parent)
  /-- A query is built from the rows of the queries before it. -/
  built : ∀ earlier answer later, answers = earlier ++ answer :: later →
    ∃ keys, answer.level.keys (shownAt roots earlier answer.level.parent) = .ok keys ∧
      answer.level.build keys = .ok answer.query

namespace FetchPlan

variable {registry : Registry} {config : Config} {entity : String}
  {eager : ExpressionSource Filter} {source : AllowSource Filter}
  {filters : List (String × Option Filter)} {plan : FetchPlan}

theorem asks_of_make {filter : Option Filter}
    (made : make registry config entity filter eager source filters = .ok plan)
    (applies : ∀ level ∈ plan.levels,
      ∃ applied, Filter.applyOptional level.filter level.statement = .ok applied)
    {executor : Executor σ} {journal : σ → List (Select × List Record)}
    (journals : executor.Journals journal) (before : σ) :
    ∃ roots answers, plan.Asks executor journal before roots answers := by
  rcases make_eq_ok made with ⟨_, _, _, _, planned⟩
  rcases journals plan.root before with ⟨roots, middle, rootRan, logged, answered⟩
  have precede : ∀ level ∈ plan.levels, level.parent < level.index := by
    intro level member
    rcases planned.planned level member with ⟨_, _, precedes⟩
    exact precedes
  rcases Repository.fetchLevels_journals journals plan.levels [] planned.increasing precede
      (fun level member => ⟨planned.correlates level member, applies level member⟩)
      (Ran.start fun row member => (answered row member).scalars) with
    ⟨all, answers, after, levelsRan, journalled, ran⟩
  refine ⟨roots, answers, ⟨⟨plan.assemble roots all, after, ?_, ?_⟩, ran.asked, ran.built⟩⟩
  · refine (Action.bind_of_ok rootRan).trans ?_
    exact (Action.bind_of_ok levelsRan).trans rfl
  · rw [journalled, logged, List.append_assoc]
    rfl

/-- A level comes after the level of its parent rows, in the order of the batches. -/
theorem Walks.parent_before {tree : RelationTree Filter} (walks : plan.Walks registry tree)
    {earlier later : List FetchLevel} {level : FetchLevel}
    (inBatches : plan.groups.flatten = earlier ++ level :: later) :
    level.parent = 0 ∨ ∃ above ∈ earlier, above.index = level.parent := by
  rw [walks.grouped] at inBatches
  have isLevel : level ∈ plan.levels := by
    rw [inBatches]
    exact List.mem_append_right _ (List.mem_cons_self ..)
  have increasing : plan.levels.Pairwise fun left right => left.index < right.index := by
    rw [← List.pairwise_map (f := FetchLevel.index) (R := (· < ·)), walks.numbered]
    exact List.pairwise_lt_range'
  have placed := walks.placed level isLevel
  by_cases atRoot : level.parent = 0
  · exact Or.inl atRoot
  · obtain ⟨above, isAbove, isParent⟩ := exists_level_of_index walks.numbered
      (Nat.pos_of_ne_zero atRoot) isLevel (Nat.le_of_lt placed.earlier)
    refine Or.inr ⟨above, ?_, isParent⟩
    have precedes := placed.earlier
    rw [inBatches, List.pairwise_append, List.pairwise_cons] at increasing
    rw [inBatches, List.mem_append, List.mem_cons] at isAbove
    rcases isAbove with isEarlier | rfl | isLater
    · exact isEarlier
    · omega
    · have after := increasing.2.1.1 above isLater
      omega

/-- A fetch is planned exactly if its expressions are read and its tree is accepted. The plan then
walks the tree, and asks one query for the root and one for each level with keys. -/
theorem make_exact (reachable : registry.Reachable) (frozen : registry.frozen = true)
    (distinct : ∀ tree, eager = .tree tree → tree.Distinct) :
    ((∃ plan, make registry config entity none eager source filters = .ok plan) ↔
      ∃ tree allow, eager.read = .ok tree ∧ source.read = .ok allow ∧
        Accepts registry config entity tree allow filters) ∧
    ∀ plan, make registry config entity none eager source filters = .ok plan →
      ∃ tree, eager.read = .ok tree ∧ registry.entity entity = .ok plan.entity ∧
        plan.root = .ofTable plan.entity.table ∧ plan.levels.map (·.path) = tree.paths ∧
        plan.Walks registry (tree.attachFilters filters).1 ∧
        (∀ earlier level later, plan.groups.flatten = earlier ++ level :: later →
          level.parent = 0 ∨ ∃ above ∈ earlier, above.index = level.parent) ∧
        ((∀ level ∈ plan.levels,
            ∃ applied, Filter.applyOptional level.filter level.statement = .ok applied) →
          ∀ (σ : Type) (executor : Executor σ) (journal : σ → List (Select × List Record)),
            executor.Journals journal →
              ∀ before, ∃ roots answers, plan.Asks executor journal before roots answers) := by
  refine ⟨⟨?_, ?_⟩, ?_⟩
  · rintro ⟨plan, made⟩
    obtain ⟨tree, isTree⟩ : ∃ tree, eager.read = .ok tree := by
      rcases make_levels made with ⟨tree, _, isTree, _⟩
      exact ⟨tree, isTree⟩
    obtain ⟨allow, isAllow⟩ : ∃ allow, source.read = .ok allow := by
      rcases Result.bind_eq_ok.1 made with ⟨_, _, made⟩
      rcases Result.bind_eq_ok.1 made with ⟨_, _, made⟩
      rcases Result.bind_eq_ok.1 made with ⟨allow, isAllow, _⟩
      exact ⟨allow, isAllow⟩
    exact ⟨tree, allow, isTree, isAllow, (make_eq_ok_iff_accepts reachable frozen isTree
      (ExpressionSource.distinct_of_read isTree distinct) isAllow).1 ⟨plan, made⟩⟩
  · rintro ⟨tree, allow, isTree, isAllow, accepts⟩
    exact (make_eq_ok_iff_accepts reachable frozen isTree
      (ExpressionSource.distinct_of_read isTree distinct) isAllow).2 accepts
  · intro plan made
    rcases make_walks made with ⟨tree, attached, isTree, isAttached, isEntity, isRoot, walks⟩
    rw [attached_of_withFilters isAttached] at walks
    refine ⟨tree, isTree, isEntity, (Except.ok.inj isRoot).symm, ?_, walks,
      fun _ _ _ => walks.parent_before, fun applies _ _ _ journals => asks_of_make made applies journals⟩
    rw [← RelationTree.paths_of_bare (RelationTree.bare_attachFilters filters tree)]
    exact walks.paths

end FetchPlan

/-! ## A family is asked for -/

namespace Family

/-- Answers every query with one row of ones, and notes it. -/
def recorder : Executor (List (Select × List Record)) where
  dialect := .sqlite
  fetchAll query := fun noted =>
    let rows := [query.columnNames.map fun name => (name, .int 1)]
    (.ok rows, noted ++ [(query, rows)])
  fetchOne _ := pure none
  change _ := pure 0
  runInsert _ := pure []

theorem recorder_journals : recorder.Journals id := by
  intro query noted
  refine ⟨_, _, rfl, rfl, fun row member => ?_⟩
  rw [List.mem_singleton.1 member]
  refine ⟨fun name isColumn => ⟨.int 1, Record.get?_map id (.int 1) isColumn⟩, ?_⟩
  intro field isField
  obtain ⟨_, _, rfl⟩ := List.mem_map.1 isField
  rfl

/-- Children with their words and parents: three levels, and four queries. -/
theorem requested_asked :
    ∃ plan, FetchPlan.make registry {} "Person" none (.tree requested) (.expression .absent)
        youngestFirst = .ok plan ∧
      plan.levels.map (·.path) = ["children", "parent", "children.tags"] ∧
      FetchPlan.Accepts registry {} "Person" requested .unrestricted youngestFirst ∧
      ∃ roots answers, plan.Asks recorder id [] roots answers := by
  have distinct : requested.Distinct := by
    simp [requested, RelationTree.Distinct, RelationTree.names]
  have isExact := @FetchPlan.make_exact registry {} "Person" (.tree requested)
    (.expression .absent) youngestFirst registry_reachable rfl fun tree same => by
      cases same
      exact distinct
  obtain ⟨plan, made, paths, fits⟩ : ∃ plan, FetchPlan.make registry {} "Person" none
      (.tree requested) (.expression .absent) youngestFirst = .ok plan ∧
        plan.levels.map (·.path) = ["children", "parent", "children.tags"] ∧
          (plan.levels.all fun level =>
            (Filter.applyOptional level.filter level.statement).isOk) = true := ⟨_, rfl, rfl, rfl⟩
  have applies : ∀ level ∈ plan.levels,
      ∃ applied, Filter.applyOptional level.filter level.statement = .ok applied := by
    intro level isLevel
    have isOk := List.all_eq_true.1 fits level isLevel
    cases applied : Filter.applyOptional level.filter level.statement with
    | ok query => exact ⟨query, rfl⟩
    | error failure =>
        rw [applied] at isOk
        cases isOk
  refine ⟨plan, made, paths, ?_, ?_⟩
  · obtain ⟨tree, allow, isTree, isAllow, accepts⟩ := isExact.1.1 ⟨plan, made⟩
    cases isTree
    cases isAllow
    exact accepts
  · obtain ⟨_, _, _, _, _, _, _, asks⟩ := isExact.2 plan made
    exact asks applies _ recorder id recorder_journals []

end Family

end RecordGraph

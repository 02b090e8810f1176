import RecordGraph.Proofs.Fetch.Exposure
import RecordGraph.Proofs.Insert.Single
import RecordGraph.Proofs.Plan.Assembly
import RecordGraph.Proofs.Repository.Queries

/-!
Contract: what is left of fetched rows once the label of their owner is dropped.

Owns: `Entity.Retains`, which compares a record with a row, and when the records that a level nests,
that a handle on related rows gives and that an eager fetch nests at any depth retain the rows that
an executor has given.
Does not own: which rows an executor gives, and which of them belong to a parent row.
-/

namespace RecordGraph

open RecordGraph.Sql

variable {σ : Type}

/-- Whether a row has the columns that a query selects, and no others. -/
def Sql.Select.Selects (select : Select) (row : Record) : Prop :=
  ∀ name, row.has name = true ↔ name ∈ select.columnNames

/-- Whether all rows of an executor have the columns that the queries select. -/
def Executor.GivesSelected (executor : Executor σ) : Prop :=
  ∀ query before rows after, executor.fetchAll query before = (.ok rows, after) →
    ∀ row ∈ rows, query.Selects row

/-- Whether the label under which the owner of a join row is selected is no column of the target. -/
def Config.Spares (config : Config) (relation : Relation) (target : Entity) : Prop :=
  relation.kind = .manyToMany → target.hasColumn config.correlationLabel = false

/-- Whether a record has the columns of an entity with the values of a row, and beside them nothing
but given names. -/
structure Entity.Retains (entity : Entity) (row : Record) (names : List String) (record : Record) :
    Prop where
  values : ∀ name, entity.hasColumn name = true →
    ∃ value, row.get? name = some value ∧ record.get? name = some value
  names : ∀ name, record.has name = true ↔ entity.hasColumn name = true ∨ name ∈ names

/-- Whether a record is another one with values put in under given names. -/
structure Record.Puts (names : List String) (original record : Record) : Prop where
  kept : ∀ name, name ∉ names → record.get? name = original.get? name
  put : ∀ name ∈ names, record.has name = true

namespace Record.Puts

variable {original record : Record} {names : List String}

theorem refl (record : Record) : Puts [] record record where
  kept := fun _ _ => rfl
  put := fun _ member => absurd member List.not_mem_nil

/-- Setting one name and then putting others puts them all. -/
theorem cons {name : String} {value : Value} (puts : Puts names (original.set name value) record) :
    Puts (name :: names) original record where
  kept := fun other lacks => by
    obtain ⟨apart, lacks⟩ := not_or.1 (mt List.mem_cons.2 lacks)
    rw [puts.kept other lacks, Record.get?_set_of_ne original value (Ne.symm apart)]
  put := fun other member => by
    by_cases among : other ∈ names
    · exact puts.put other among
    · obtain rfl := (List.mem_cons.1 member).resolve_right among
      exact Record.has_iff.2 ⟨value, by rw [puts.kept other among, Record.get?_set_self]⟩

theorem has_iff (puts : Puts names original record) (name : String) :
    record.has name = true ↔ original.has name = true ∨ name ∈ names := by
  by_cases among : name ∈ names
  · exact iff_of_true (puts.put name among) (.inr among)
  · rw [or_iff_left among, Record.has_iff, Record.has_iff, puts.kept name among]

/-- A record into which no column is put retains what the original has of a row. -/
theorem retains {entity : Entity} {row : Record} (puts : Puts names original record)
    (apart : ∀ name ∈ names, entity.hasColumn name = false)
    (columns : ∀ name, original.has name = true ↔ entity.hasColumn name = true)
    (same : ∀ name, entity.hasColumn name = true → original.get? name = row.get? name) :
    entity.Retains row names record where
  values := fun name isColumn => by
    have free : name ∉ names := fun member => by
      rw [apart name member] at isColumn
      cases isColumn
    obtain ⟨value, found⟩ := Record.has_iff.1 ((columns name).2 isColumn)
    exact ⟨value, (same name isColumn).symm.trans found, (puts.kept name free).trans found⟩
  names := fun name => by rw [puts.has_iff, columns]

end Record.Puts

/-! ## Selected columns -/

theorem Sql.Select.selects_iff_names {select : Select} {row : Record} :
    select.Selects row ↔ ∀ name, name ∈ row.names ↔ name ∈ select.columnNames := by
  refine forall_congr' fun name => iff_congr ?_ Iff.rfl
  rw [Record.names, List.mem_map, Record.has, List.any_eq_true]
  exact exists_congr fun field => and_congr_right fun _ => beq_iff_eq

theorem Sql.Select.SameColumns.columnNames {left right : Select} (same : left.SameColumns right) :
    left.columnNames = right.columnNames := by
  unfold Select.columnNames
  rw [same.1, same.2]

namespace FetchLevel

variable {level : FetchLevel} {rows : List Record} {row given record : Record}

theorem selects_of_build {keys : List Value} {select : Select}
    (built : level.build keys = .ok select) (selects : select.Selects row) :
    level.statement.Selects row := by
  intro name
  rw [selects name, (sameColumns_of_build built).columnNames]

/-! ## Visible rows -/

/-- A visible row has the columns of the entity, without the one that has the hidden name. -/
theorem has_visible_iff (correlates : level.Correlates) (selects : level.statement.Selects row)
    (name : String) :
    (level.visible row).has name = true ↔
      level.entity.hasColumn name = true ∧ level.hidden ≠ some name := by
  have selected := selects name
  rw [Select.columnNames, List.mem_append] at selected
  unfold visible Entity.hasColumn
  rw [Table.hasColumn_iff]
  cases correlates with
  | own key statement isMatch keyTerm shown =>
      rw [statement] at selected
      rw [shown, selected]
      simp [Select.ofTable]
  | joined join statement isMatch keyTerm hidden =>
      have isLabel : name ∈ ((some join).map (·.label)).toList ↔ name = join.label := by simp
      rw [statement, isLabel] at selected
      rw [hidden, Record.has_erase_iff, selected, or_and_right, and_not_self_iff, or_false,
        Option.some_inj.ne, ne_comm]

theorem lacks_hidden {label : String} (hidden : level.hidden = some label) (row : Record) :
    (level.visible row).has label = false := by
  unfold visible
  rw [hidden, Bool.eq_false_iff]
  intro has
  exact (Record.has_erase_iff.1 has).2 rfl

theorem get?_visible (row : Record) {name : String} (shown : level.hidden ≠ some name) :
    (level.visible row).get? name = row.get? name := by
  unfold visible
  split
  · rename_i label isHidden
    refine Record.get?_erase_of_ne row ?_
    rintro rfl
    exact shown isHidden
  · rfl

/-- Where the label is no column, a record with a visible row retains the row. -/
theorem retains (correlates : level.Correlates) (unlabelled : level.Unlabelled)
    (selects : level.statement.Selects row) {names : List String}
    (puts : Record.Puts names (level.visible row) record)
    (apart : ∀ name ∈ names, level.entity.hasColumn name = false) :
    level.entity.Retains row names record := by
  have notHidden : ∀ name, level.entity.hasColumn name = true → level.hidden ≠ some name := by
    intro name isColumn isHidden
    rw [unlabelled name isHidden] at isColumn
    cases isColumn
  refine puts.retains apart (fun name => ?_) fun name isColumn => ?_
  · rw [has_visible_iff correlates selects]
    exact and_iff_left_of_imp (notHidden name)
  · exact get?_visible row (notHidden name isColumn)

/-- Where the label is a column, a record with a visible row retains no row at all. -/
theorem unlabelled_of_retains {names : List String}
    (puts : Record.Puts names (level.visible given) record)
    (apart : ∀ name ∈ names, level.entity.hasColumn name = false)
    (retains : level.entity.Retains row names record) : level.Unlabelled := by
  intro label isHidden
  by_contra isColumn
  rw [Bool.not_eq_false] at isColumn
  obtain ⟨value, _, found⟩ := retains.values label isColumn
  have free : label ∉ names := fun member => by
    rw [apart label member] at isColumn
    cases isColumn
  have shown := Record.has_iff.2 ⟨value, (puts.kept label free).symm.trans found⟩
  rw [lacks_hidden isHidden] at shown
  cases shown

/-! ## Nested rows -/

theorem mem_keyedRows {keyed : List KeyedRow} (isKeyed : level.keyedRows rows = .ok keyed)
    (member : record ∈ keyed.map (·.2)) : ∃ given ∈ rows, record = level.visible given := by
  obtain ⟨pair, isPair, rfl⟩ := List.mem_map.1 member
  obtain ⟨given, isGiven, keyedOk⟩ := Result.exists_of_mem_mapM isKeyed isPair
  refine ⟨given, isGiven, ?_⟩
  unfold FetchLevel.keyed at keyedOk
  split at keyedOk
  · cases keyedOk
  · split at keyedOk
    · cases keyedOk
      rfl
    · cases keyedOk

/-- Rows with the selected columns can be keyed unless the value of one cannot be looked up. -/
theorem exists_keyedRows_iff (correlates : level.Correlates)
    (selects : ∀ row ∈ rows, level.statement.Selects row) :
    (∃ keyed, level.keyedRows rows = .ok keyed) ↔
      ∀ row ∈ rows, (row.getD level.matchColumn).isKey = true := by
  unfold keyedRows
  rw [Result.exists_mapM_eq_ok_iff]
  refine forall₂_congr fun row member => ?_
  obtain ⟨value, found⟩ := Record.has_iff.1 ((selects row member _).2 (matchColumn_mem correlates))
  unfold keyed
  rw [found, Record.getD_of_get? found]
  dsimp only
  cases value.isKey with
  | true => exact iff_of_true ⟨_, rfl⟩ rfl
  | false => exact iff_of_false (fun ⟨_, isOk⟩ => nomatch isOk) Bool.false_ne_true

/-- Rows with the selected columns are nested unless a value that tells them or their parents cannot
be looked up. -/
theorem exists_attach_iff (correlates : level.Correlates)
    (selects : ∀ row ∈ rows, level.statement.Selects row) {parents : List Record} :
    (∃ attached, level.attach parents rows = .ok attached) ↔
      (∀ row ∈ rows, (row.getD level.matchColumn).isKey = true) ∧
        ∀ parent ∈ parents, (parent.getD level.ownerColumn).isKey = true := by
  have nests : ∀ (keyed : List KeyedRow) (parent : Record), (∃ nested : Record,
      (if (parent.getD level.ownerColumn).isKey then
        pure (level.nestRows (level.matching keyed parent) parent)
      else throw (.foreign .unhashableKey) : Result Record) = .ok nested) ↔
        (parent.getD level.ownerColumn).isKey = true := by
    intro keyed parent
    cases (parent.getD level.ownerColumn).isKey with
    | true => exact iff_of_true ⟨_, rfl⟩ rfl
    | false => exact iff_of_false (fun ⟨_, isOk⟩ => nomatch isOk) Bool.false_ne_true
  unfold attach
  rw [Result.exists_bind_eq_ok, ← exists_keyedRows_iff correlates selects, ← exists_and_right]
  refine exists_congr fun keyed => and_congr_right fun _ => ?_
  rw [Result.exists_mapM_eq_ok_iff]
  exact forall₂_congr fun parent _ => nests keyed parent

/-- What is nested into a parent row are visible rows. -/
theorem nested_of_attach {parents attached : List Record}
    (attaches : level.attach parents rows = .ok attached) (member : record ∈ attached)
    {child : Record} (isChild : child ∈ (record.getD level.relation.name).heldRecords) :
    ∃ given ∈ rows, child = level.visible given := by
  obtain ⟨keyed, isKeyed, attaches⟩ := Result.bind_eq_ok.1 attaches
  obtain ⟨parent, _, nested⟩ := Result.exists_of_mem_mapM attaches member
  split at nested
  · cases nested
    rw [nestRows, Record.getD_of_get? (Record.get?_set_self ..)] at isChild
    have isMatch := Value.mem_heldRecords_ofRecords isChild
    exact mem_keyedRows isKeyed (FetchPlan.mem_of_mem_matching isMatch)
  · cases nested

end FetchLevel

/-- The label of a level is hidden from no column exactly where the settings spare the target. -/
theorem FetchPlan.unlabelled_iff_spares {registry : Registry} {config : Config}
    {relation : Relation} {target : Entity} (found : registry.entity relation.target = .ok target)
    {path : String} {parent index : Nat} {filter : Option Filter} {level : FetchLevel}
    (built : levelFor registry config relation path parent index filter = .ok level) :
    level.Unlabelled ↔ config.Spares relation target := by
  obtain ⟨entity, isEntity, built⟩ := Result.bind_eq_ok.1 built
  cases found.symm.trans isEntity
  unfold Config.Spares
  dsimp only at built
  split at built
  · rename_i isJoined
    rw [isJoined]
    split at built
    · cases built
    · obtain ⟨_, _, built⟩ := Result.bind_eq_ok.1 built
      obtain ⟨_, _, built⟩ := Result.bind_eq_ok.1 built
      obtain ⟨_, _, built⟩ := Result.bind_eq_ok.1 built
      obtain ⟨_, _, built⟩ := Result.bind_eq_ok.1 built
      cases Result.pure_eq_ok.1 built
      exact ⟨fun unlabelled _ => unlabelled _ rfl, fun spares _ isLabel => by
        cases isLabel
        exact spares rfl⟩
  · rename_i isOwn
    obtain ⟨_, _, built⟩ := Result.bind_eq_ok.1 built
    cases Result.pure_eq_ok.1 built
    exact iff_of_true (fun _ isLabel => nomatch isLabel) fun isJoined => absurd isJoined isOwn

namespace FetchLevel

section Loaded

variable {registry : Registry} {config : Config} {relation : Relation} {target : Entity}
variable {path : String} {parent index : Nat} {filter : Option Filter} {level : FetchLevel}
variable {names : List String} {row given record : Record}

theorem retains_of_spares (found : registry.entity relation.target = .ok target)
    (built : FetchPlan.levelFor registry config relation path parent index filter = .ok level)
    (selects : level.statement.Selects given)
    (puts : Record.Puts names (level.visible given) record)
    (apart : ∀ name ∈ names, target.hasColumn name = false) (spares : config.Spares relation target) :
    target.Retains given names record := by
  have loads := (FetchPlan.levelFor_eq_ok built).1
  cases loads.entity.symm.trans found
  exact retains loads.correlates ((FetchPlan.unlabelled_iff_spares found built).2 spares) selects
    puts apart

theorem spares_of_retains (found : registry.entity relation.target = .ok target)
    (built : FetchPlan.levelFor registry config relation path parent index filter = .ok level)
    (puts : Record.Puts names (level.visible given) record)
    (apart : ∀ name ∈ names, target.hasColumn name = false)
    (retains : target.Retains row names record) : config.Spares relation target := by
  have loads := (FetchPlan.levelFor_eq_ok built).1
  cases loads.entity.symm.trans found
  exact (FetchPlan.unlabelled_iff_spares found built).1 (unlabelled_of_retains puts apart retains)

/-- What a level nests retains a row that is given exactly if the settings spare the target. -/
theorem attach_retains_iff (found : registry.entity relation.target = .ok target)
    (built : FetchPlan.levelFor registry config relation path parent index filter = .ok level)
    {parents rows attached : List Record} (selects : ∀ row ∈ rows, level.statement.Selects row)
    (attaches : level.attach parents rows = .ok attached) (member : record ∈ attached)
    {child : Record} (isChild : child ∈ (record.getD relation.name).heldRecords) :
    (∃ row ∈ rows, target.Retains row [] child) ↔ config.Spares relation target := by
  rw [← (FetchPlan.levelFor_eq_ok built).1.loaded] at isChild
  obtain ⟨given, isGiven, rfl⟩ := nested_of_attach attaches member isChild
  constructor
  · rintro ⟨row, _, retains⟩
    exact spares_of_retains found built (.refl _) nofun retains
  · exact fun spares => ⟨given, isGiven,
      retains_of_spares found built (selects given isGiven) (.refl _) nofun spares⟩

end Loaded

end FetchLevel

/-! ## Queries of levels -/

/-- Whether an executor answers queries of levels, one after the other. -/
inductive Executor.Answers (executor : Executor σ) : σ → List Answer → σ → Prop where
  | nil (world : σ) : Answers executor world [] world
  | cons {answer : Answer} {answers : List Answer} {keys : List Value} {before between after : σ}
      (built : answer.level.build keys = .ok answer.query)
      (asked : executor.fetchAll answer.query before = (.ok answer.rows, between))
      (rest : Answers executor between answers after) :
      Answers executor before (answer :: answers) after

section Answers

variable {executor : Executor σ} {before between after : σ} {answers others : List Answer}

theorem Executor.Answers.append (first : executor.Answers before answers between)
    (second : executor.Answers between others after) :
    executor.Answers before (answers ++ others) after := by
  induction first with
  | nil world => exact second
  | cons built asked rest inductionHypothesis => exact .cons built asked (inductionHypothesis second)

theorem Executor.Answers.selects (answered : executor.Answers before answers after)
    (selects : executor.GivesSelected) {answer : Answer} (member : answer ∈ answers) {row : Record}
    (isRow : row ∈ answer.rows) : answer.level.statement.Selects row := by
  induction answered with
  | nil world => exact absurd member List.not_mem_nil
  | cons built asked rest inductionHypothesis =>
      rcases List.mem_cons.1 member with rfl | inRest
      · exact FetchLevel.selects_of_build built (selects _ _ _ _ asked row isRow)
      · exact inductionHypothesis inRest

namespace Repository

/-- Whether rows are what a level shows of the rows of answers to its queries. -/
def Shown (answers : List Answer) (level : FetchLevel) (rows : List Record) : Prop :=
  ∀ row ∈ rows, ∃ answer ∈ answers, answer.level = level ∧
    ∃ given ∈ answer.rows, row = level.visible given

theorem Shown.mono {level : FetchLevel} {rows : List Record} (shown : Shown answers level rows)
    (included : answers ⊆ others) : Shown others level rows := by
  intro row member
  obtain ⟨answer, isAnswer, isGiven⟩ := shown row member
  exact ⟨answer, included isAnswer, isGiven⟩

theorem fetchLevel_shown {level : FetchLevel} {parents : List Record}
    {keyed : List FetchLevel.KeyedRow}
    (ran : fetchLevel executor level parents before = (.ok keyed, after)) :
    ∃ answers, executor.Answers before answers after ∧ Shown answers level (keyed.map (·.2)) := by
  unfold fetchLevel at ran
  obtain ⟨keys, _, isKeys, ran⟩ := Action.bind_eq_ok.1 ran
  obtain ⟨_, rfl⟩ := Action.ofExcept_eq_ok.1 isKeys
  split at ran
  · obtain ⟨rows, _, isNil, ran⟩ := Action.bind_eq_ok.1 ran
    cases isNil
    obtain ⟨isKeyed, rfl⟩ := Action.ofExcept_eq_ok.1 ran
    refine ⟨[], .nil _, fun row member => ?_⟩
    obtain ⟨given, isGiven, _⟩ := FetchLevel.mem_keyedRows isKeyed member
    exact absurd isGiven List.not_mem_nil
  · obtain ⟨query, _, isBuilt, ran⟩ := Action.bind_eq_ok.1 ran
    obtain ⟨built, rfl⟩ := Action.ofExcept_eq_ok.1 isBuilt
    obtain ⟨rows, _, asked, ran⟩ := Action.bind_eq_ok.1 ran
    obtain ⟨isKeyed, rfl⟩ := Action.ofExcept_eq_ok.1 ran
    refine ⟨[⟨level, query, rows⟩], .cons built asked (.nil _), fun row member => ?_⟩
    exact ⟨_, List.mem_singleton_self _, rfl, FetchLevel.mem_keyedRows isKeyed member⟩

/-- The rows that the levels left to run add are those that their queries were answered with. -/
theorem fetchLevels_shown {roots : List Record} (rest : List FetchLevel) :
    ∀ {fetched all : FetchPlan.LevelRows} {before : σ},
      fetchLevels executor roots fetched rest before = (.ok all, after) →
      ∃ answers, executor.Answers before answers after ∧
        ∀ entry ∈ all, entry ∈ fetched ∨
          ∃ level ∈ rest, entry.1 = level.index ∧ Shown answers level (entry.2.map (·.2)) := by
  induction rest with
  | nil =>
      intro fetched all before ran
      cases ran
      exact ⟨[], .nil _, fun entry member => .inl member⟩
  | cons level rest inductionHypothesis =>
      intro fetched all before ran
      obtain ⟨keyed, between, levelRan, restRan⟩ := Action.bind_eq_ok.1 ran
      obtain ⟨answers, answered, shown⟩ := fetchLevel_shown levelRan
      obtain ⟨others, othersAnswered, each⟩ := inductionHypothesis restRan
      refine ⟨answers ++ others, answered.append othersAnswered, fun entry member => ?_⟩
      rcases each entry member with isFetched | ⟨lower, isLower, isIndex, lowerShown⟩
      · rcases List.mem_append.1 isFetched with isEarlier | isOwn
        · exact .inl isEarlier
        · obtain rfl := List.mem_singleton.1 isOwn
          exact .inr ⟨level, List.mem_cons_self .., rfl,
            shown.mono (List.subset_append_left answers others)⟩
      · exact .inr ⟨lower, List.mem_cons_of_mem _ isLower, isIndex,
          lowerShown.mono (List.subset_append_right answers others)⟩

end Repository

end Answers

/-! ## Deeper levels -/

namespace FetchPlan

/-- What becomes of the rows of answers at each node of a relation tree below a record. The records
nested under the node retain rows that its queries were answered with, and the names of the node's own
relations, if the label spares the columns of the target, and retain none otherwise. Of several nodes
of one name the last one is nested. -/
def RetainsBelow (registry : Registry) (config : Config) (answers : List Answer)
    (owner path : String) : RelationTree Filter → Record → Prop
  | .nil, _ => True
  | .cons name _ children siblings, record =>
      (name ∉ siblings.names →
        ∃ relation target value, registry.resolve owner name = .ok relation ∧
          registry.entity relation.target = .ok target ∧ record.get? name = some value ∧
            ∀ child ∈ value.heldRecords,
              ((∃ answer ∈ answers, answer.level.path = extendPath path name ∧
                  ∃ row ∈ answer.rows, target.Retains row children.names child) ↔
                config.Spares relation target) ∧
              RetainsBelow registry config answers target.name (extendPath path name) children
                child) ∧
      RetainsBelow registry config answers owner path siblings record

section Below

variable {registry : Registry} {config : Config}

/-- No column has the name of a node below its entity. -/
theorem Covers.unshadowed (consistent : registry.Consistent) {all levels : List FetchLevel}
    {owner path : String} {index : Nat} {tree : RelationTree Filter}
    (covers : Covers registry config all owner path index tree levels) {entity : Entity}
    (isEntity : registry.entity owner = .ok entity) :
    ∀ name ∈ tree.names, entity.hasColumn name = false := by
  induction covers with
  | nil => exact fun name member => absurd member List.not_mem_nil
  | cons resolves built below beside _ besideHypothesis =>
      have atNode := consistent.unshadowed isEntity resolves
      rw [Registry.name_of_resolve resolves] at atNode
      exact List.forall_mem_cons.2 ⟨atNode, besideHypothesis isEntity⟩

variable {plan : FetchPlan} {fetched : LevelRows} {answers : List Answer}

/-- Nesting the levels of a tree into a row puts in the tree's names, with records that retain what
the levels were answered with. -/
theorem retainsBelow_foldl (consistent : registry.Consistent)
    (shown : ∀ level ∈ plan.levels,
      Repository.Shown answers level ((keyedAt fetched level.index).map (·.2)))
    (selects : ∀ answer ∈ answers, ∀ row ∈ answer.rows, answer.level.statement.Selects row)
    {owner path : String} {index : Nat} {tree : RelationTree Filter} {levels : List FetchLevel}
    (covers : Covers registry config plan.levels owner path index tree levels)
    (included : ∀ level ∈ levels, level ∈ plan.levels) {depth : Nat}
    (deep : tree.height ≤ depth + 1) (row : Record) :
    Record.Puts tree.names row (levels.foldl (plan.nestLevel fetched depth) row) ∧
      RetainsBelow registry config answers owner path tree
        (levels.foldl (plan.nestLevel fetched depth) row) := by
  induction covers generalizing depth row with
  | nil owner path index => exact ⟨.refl row, trivial⟩
  | @cons owner path name index filter children siblings relation level levels resolves built below
      beside belowHypothesis besideHypothesis =>
      rw [List.forall_mem_cons] at included
      rw [RelationTree.height] at deep
      have loads := (levelFor_eq_ok built).1
      have isNested : plan.nestLevel fetched depth row level =
          row.set name (FetchLevel.nestedValue level.relation.kind
            ((level.matching (keyedAt fetched level.index) row).map
              (plan.complete fetched depth level.index))) := by
        unfold nestLevel FetchLevel.nestRows
        rw [loads.loaded, Registry.name_of_resolve resolves]
      have siblingsDeep : siblings.height ≤ depth + 1 := by omega
      rw [List.foldl_cons, isNested]
      obtain ⟨puts, besides⟩ := besideHypothesis included.2 siblingsDeep (row.set name _)
      refine ⟨puts.cons, fun lone => ⟨relation, level.entity, _, resolves, loads.entity,
        (puts.kept name lone).trans (Record.get?_set_self ..), fun child isChild => ?_⟩, besides⟩
      obtain ⟨each, isMatch, rfl⟩ := List.mem_map.1 (Value.mem_heldRecords_ofRecords isChild)
      obtain ⟨answer, isAnswer, isLevel, given, isGiven, rfl⟩ :=
        shown level included.1 each (mem_of_mem_matching isMatch)
      have targetEntity : registry.entity level.entity.name = .ok level.entity := by
        rw [(Registry.entity_eq_ok loads.entity).2]
        exact loads.entity
      have isBelow : ∀ lower ∈ plan.levels.filter (·.parent = level.index), lower ∈ plan.levels :=
        fun lower isLower => List.mem_of_mem_filter isLower
      have childrenDeep : children.height ≤ depth := by omega
      have lowerDeep : children.height ≤ depth - 1 + 1 := by omega
      rw [complete_eq_foldl below childrenDeep]
      obtain ⟨nestedPuts, nestedBelow⟩ := belowHypothesis isBelow lowerDeep (level.visible given)
      have apart := Covers.unshadowed consistent below targetEntity
      refine ⟨?_, nestedBelow⟩
      constructor
      · rintro ⟨_, _, _, _, _, retains⟩
        exact FetchLevel.spares_of_retains loads.entity built nestedPuts apart retains
      · intro spares
        have selected := selects answer isAnswer given isGiven
        rw [isLevel] at selected
        refine ⟨answer, isAnswer, ?_, given, isGiven, FetchLevel.retains_of_spares loads.entity built
          selected nestedPuts apart spares⟩
        rw [isLevel, levelFor_path built]

theorem mem_of_mem_keyedAt {index : Nat} {row : FetchLevel.KeyedRow}
    (member : row ∈ keyedAt fetched index) : ∃ rows, (index, rows) ∈ fetched ∧ row ∈ rows := by
  unfold keyedAt at member
  cases found : fetched.lookup index with
  | none =>
      rw [found] at member
      exact absurd member List.not_mem_nil
  | some rows =>
      rw [found] at member
      obtain ⟨_, _, isAppend, _⟩ := List.lookup_eq_some_iff.1 found
      rw [isAppend]
      exact ⟨rows, List.mem_append_right _ (List.mem_cons_self ..), member⟩

/-- A planned fetch that succeeds gives a record for each root row, which retains it, with records
that retain rows of the levels below. -/
theorem IsPlanned.executed (consistent : registry.Consistent) {entity : String}
    {filter : Option Filter} {tree : RelationTree Filter}
    (planned : plan.IsPlanned registry config entity filter tree) {executor : Executor σ}
    (selects : executor.GivesSelected) {before after : σ} {records : List Record}
    (ran : Repository.executeFetchPlan plan executor before = (.ok records, after)) :
    ∃ roots answers between, executor.fetchAll plan.root before = (.ok roots, between) ∧
      executor.Answers between answers after ∧
        List.Forall₂ (fun root record => plan.entity.Retains root tree.names record ∧
          RetainsBelow registry config answers plan.entity.name "" tree record) roots records := by
  obtain ⟨roots, between, rootRan, ran⟩ := Action.bind_eq_ok.1 ran
  obtain ⟨fetched, _, levelsRan, ran⟩ := Action.bind_eq_ok.1 ran
  cases ran
  obtain ⟨answers, answered, each⟩ := Repository.fetchLevels_shown plan.levels levelsRan
  refine ⟨roots, answers, between, rootRan, answered, ?_⟩
  have shown : ∀ level ∈ plan.levels,
      Repository.Shown answers level ((keyedAt fetched level.index).map (·.2)) := by
    intro level isLevel row member
    obtain ⟨keyed, isKeyed, rfl⟩ := List.mem_map.1 member
    obtain ⟨rows, isEntry, isRow⟩ := mem_of_mem_keyedAt isKeyed
    obtain impossible | ⟨other, isOther, sameIndex, otherShown⟩ := each _ isEntry
    · exact absurd impossible List.not_mem_nil
    · -- levels are numbered apart
      obtain rfl := eq_of_pairwise_not
        (planned.increasing.imp fun precedes => Nat.ne_of_lt precedes) Eq.symm isLevel isOther
        sameIndex
      exact otherShown _ (List.mem_map_of_mem isRow)
  have rootEntity : registry.entity plan.entity.name = .ok plan.entity := by
    rw [(Registry.entity_eq_ok planned.entity).2]
    exact planned.entity
  have apart := planned.covers.unshadowed consistent rootEntity
  have deep : tree.height ≤ plan.levels.length - 1 + 1 := by
    have height := planned.height
    omega
  unfold assemble
  rw [List.forall₂_map_right_iff, List.forall₂_same]
  intro root isRoot
  rw [complete_eq_foldl planned.covers planned.height]
  obtain ⟨puts, below⟩ := retainsBelow_foldl consistent shown
    (fun _ member _ => answered.selects selects member) planned.covers
    (fun level isTop => List.mem_of_mem_filter isTop) deep root
  refine ⟨puts.retains apart (fun name => ?_) fun _ _ => rfl, below⟩
  rw [selects _ _ _ _ rootRan root isRoot name,
    (Filter.sameColumns_of_applyOptional planned.root).columnNames]
  unfold Entity.hasColumn Select.columnNames
  rw [Table.hasColumn_iff]
  simp [Select.ofTable]

end Below

end FetchPlan

/-! ## Repositories -/

/-- Nothing succeeds in a repository without a unit of work. -/
theorem Repository.exists_scope_of_within {α : Type} {repository : Repository σ}
    {cancel : Option (σ → Bool)} {body : Executor σ → Action σ α} {before after : σ} {value : α}
    (ran : repository.within cancel body before = (.ok value, after)) :
    ∃ scope, repository.scope = some scope ∧
      scope.within (body (repository.executor cancel)) before = (.ok value, after) := by
  unfold within at ran
  cases hasScope : repository.scope with
  | none =>
      rw [hasScope] at ran
      cases ran
  | some scope =>
      rw [hasScope] at ran
      exact ⟨scope, rfl, ran⟩

/-- The related rows retain what one query was answered with, if the label spares the target. -/
theorem RelatedQuery.fetch_retains {query : RelatedQuery σ} {target : Entity}
    (found : query.repository.registry.entity query.relation.target = .ok target)
    (selects : (query.repository.executor none).GivesSelected) {filter : Option Filter}
    {before after : σ} {rows : List Record}
    (ran : query.fetch filter before = (.ok (some rows), after)) :
    ∃ answers entered left, (query.repository.executor none).Answers entered answers left ∧
      (∀ answer ∈ answers, FetchPlan.levelFor query.repository.registry query.repository.config
        query.relation query.relation.name 0 1 filter = .ok answer.level) ∧
      List.Forall₂ (fun row record => target.Retains row [] record ↔
        query.repository.config.Spares query.relation target) (answers.flatMap (·.rows)) rows := by
  obtain ⟨_, _, ran⟩ := Repository.exists_scope_of_within ran
  obtain ⟨_, _, _, ran, _⟩ := Scope.within_eq_ok ran
  obtain ⟨owner, entered, _, ran⟩ := Action.bind_eq_ok.1 ran
  cases owner with
  | none => cases ran
  | some row =>
      dsimp only at ran
      split at ran
      · cases ran
        exact ⟨[], before, before, .nil before,
          fun _ member => absurd member List.not_mem_nil, .nil⟩
      · obtain ⟨level, _, isLevel, ran⟩ := Action.bind_eq_ok.1 ran
        obtain ⟨built, rfl⟩ := Action.ofExcept_eq_ok.1 isLevel
        obtain ⟨select, _, isSelect, ran⟩ := Action.bind_eq_ok.1 ran
        obtain ⟨isBuilt, rfl⟩ := Action.ofExcept_eq_ok.1 isSelect
        obtain ⟨given, left, asked, ran⟩ := Action.bind_eq_ok.1 ran
        cases ran
        refine ⟨[⟨level, select, given⟩], _, _, .cons isBuilt asked (.nil _),
          List.forall_mem_singleton.2 built, ?_⟩
        rw [List.flatMap_singleton, List.forall₂_map_right_iff, List.forall₂_same]
        intro row isRow
        have selected := FetchLevel.selects_of_build isBuilt (selects _ _ _ _ asked row isRow)
        exact ⟨FetchLevel.spares_of_retains found built (.refl _) nofun,
          FetchLevel.retains_of_spares found built selected (.refl _) nofun⟩

/-- The records of a fetch retain the root rows, and the records that are nested into them what the
queries of the levels were answered with. -/
theorem Repository.fetch_retains {repository : Repository σ}
    (consistent : repository.registry.Consistent) {filter : Option Filter}
    {eager : ExpressionSource Filter} {source : AllowSource Filter}
    {filters : List (String × Option Filter)} {cancel : Option (σ → Bool)}
    (selects : (repository.executor cancel).GivesSelected) {before after : σ}
    {records : List Record}
    (ran : repository.fetch filter eager source filters cancel before = (.ok records, after)) :
    ∃ plan requested tree, FetchPlan.make repository.registry repository.config
        repository.entity.name filter eager source filters = .ok plan ∧
      eager.read = .ok requested ∧
      FetchPlan.withFilters repository.config requested filters = .ok tree ∧
      ∃ roots answers entered between left,
        (repository.executor cancel).fetchAll plan.root entered = (.ok roots, between) ∧
        (repository.executor cancel).Answers between answers left ∧
        List.Forall₂ (fun root record => plan.entity.Retains root tree.names record ∧
          FetchPlan.RetainsBelow repository.registry repository.config answers plan.entity.name ""
            tree record) roots records := by
  obtain ⟨plan, _, isPlan, ran⟩ := Action.bind_eq_ok.1 ran
  obtain ⟨made, rfl⟩ := Action.ofExcept_eq_ok.1 isPlan
  obtain ⟨requested, tree, isRead, isTree, planned⟩ := FetchPlan.make_eq_ok made
  obtain ⟨scope, _, ran⟩ := exists_scope_of_within ran
  obtain ⟨entered, left, _, ran, _⟩ := Scope.within_eq_ok ran
  obtain ⟨roots, answers, between, asked, answered, each⟩ :=
    planned.executed consistent selects ran
  exact ⟨plan, requested, tree, made, isRead, isTree, roots, answers, entered, between, left, asked,
    answered, each⟩

/-- Rows keep every column of the target, and gain nothing but the names of the relations that are
requested below them, exactly if the relation has no join table or the label is no column of its
target: where a level nests them, where they are the related rows of an owner, and at every depth of
an eager fetch. -/
theorem Repository.rows_retained_iff {repository : Repository σ}
    (reachable : repository.registry.Reachable)
    (selects : ∀ cancel, (repository.executor cancel).GivesSelected) :
    (∀ (relation : Relation) (target : Entity) (path : String) (parent index : Nat)
        (filter : Option Filter) (level : FetchLevel),
      repository.registry.entity relation.target = .ok target →
      FetchPlan.levelFor repository.registry repository.config relation path parent index filter =
        .ok level →
      ∀ parents rows : List Record, (∀ row ∈ rows, level.statement.Selects row) →
        ((∃ attached, level.attach parents rows = .ok attached) ↔
          (∀ row ∈ rows, (row.getD level.matchColumn).isKey = true) ∧
            ∀ parent ∈ parents, (parent.getD level.ownerColumn).isKey = true) ∧
        ∀ attached, level.attach parents rows = .ok attached →
          ∀ record ∈ attached, ∀ child ∈ (record.getD relation.name).heldRecords,
            ((∃ row ∈ rows, target.Retains row [] child) ↔
              repository.config.Spares relation target)) ∧
    (∀ query : RelatedQuery σ, query.repository = repository → ∀ target : Entity,
      repository.registry.entity query.relation.target = .ok target →
      ∀ (filter : Option Filter) (before after : σ) (rows : List Record),
        query.fetch filter before = (.ok (some rows), after) →
        ∃ answers entered left, (repository.executor none).Answers entered answers left ∧
          (∀ answer ∈ answers, FetchPlan.levelFor repository.registry repository.config
            query.relation query.relation.name 0 1 filter = .ok answer.level) ∧
          List.Forall₂ (fun row record => target.Retains row [] record ↔
            repository.config.Spares query.relation target) (answers.flatMap (·.rows)) rows) ∧
    (∀ (filter : Option Filter) (eager : ExpressionSource Filter) (source : AllowSource Filter)
        (filters : List (String × Option Filter)) (cancel : Option (σ → Bool)) (before after : σ)
        (records : List Record),
      repository.fetch filter eager source filters cancel before = (.ok records, after) →
      ∃ plan requested tree, FetchPlan.make repository.registry repository.config
          repository.entity.name filter eager source filters = .ok plan ∧
        eager.read = .ok requested ∧
        FetchPlan.withFilters repository.config requested filters = .ok tree ∧
        ∃ roots answers entered between left,
          (repository.executor cancel).fetchAll plan.root entered = (.ok roots, between) ∧
          (repository.executor cancel).Answers between answers left ∧
          List.Forall₂ (fun root record => plan.entity.Retains root tree.names record ∧
            FetchPlan.RetainsBelow repository.registry repository.config answers plan.entity.name ""
              tree record) roots records) := by
  refine ⟨?attached, ?related, ?fetched⟩
  case attached =>
    intro relation target path parent index filter level found built parents rows selected
    have loads := (FetchPlan.levelFor_eq_ok built).1
    exact ⟨FetchLevel.exists_attach_iff loads.correlates selected,
      fun attached attaches record member child =>
        FetchLevel.attach_retains_iff found built selected attaches member⟩
  case related =>
    rintro query rfl target found filter before after rows ran
    exact RelatedQuery.fetch_retains found (selects none) ran
  case fetched =>
    intro filter eager source filters cancel before after records ran
    exact fetch_retains reachable.consistent (selects cancel) ran

namespace Family

/-! ## Words are fetched -/

def recording : Repository (List (Select × List Record)) where
  registry := registry
  entity := person
  config := {}
  scope := some .entered
  executor := fun _ =>
    { recorder with fetchOne := fun query => List.head? <$> recorder.fetchAll query }

def wordsAsked : RelatedQuery (List (Select × List Record)) where
  repository := recording
  owner := .int 1
  relation := tags
  target := tag

/-- A word with the person that it belongs to. -/
def ownedWord : Record := [("id", .int 7), ("word", .text "kin"), ("_rg_owner", .int 1)]

def taggedPerson : Record :=
  [("id", .int 1), ("tags", .list [.object [("id", .int 7), ("word", .text "kin")]])]

theorem recording_selects : ∀ cancel, (recording.executor cancel).GivesSelected := by
  rintro cancel query noted _ _ ⟨⟩ row isRow
  have same : row.names = query.columnNames := by
    rw [List.mem_singleton.1 isRow, Record.names, List.map_map]
    exact List.map_id _
  exact Select.selects_iff_names.2 fun name => by rw [same]

/-- Words retain their rows, without the label, where they are nested and where they are related. -/
theorem words_retained :
    registry.Reachable ∧ (∀ cancel, (recording.executor cancel).GivesSelected) ∧
      (∃ level, FetchPlan.levelFor registry {} tags "tags" 0 1 none = .ok level ∧
        level.attach [[("id", .int 1)]] [ownedWord] = .ok [taggedPerson] ∧
        ∃ row ∈ [ownedWord], tag.Retains row [] [("id", .int 7), ("word", .text "kin")]) ∧
      (∃ after, wordsAsked.fetch none [] = (.ok (some [[("id", .int 1), ("word", .int 1)]]), after) ∧
        ∃ row, tag.Retains row [] [("id", .int 1), ("word", .int 1)]) ∧
      ∃ record after, recording.fetch none (.tree requested) (.expression .absent) [] none [] =
          (.ok [record], after) ∧
        ∃ root answers, person.Retains root ["children", "parent"] record ∧
          FetchPlan.RetainsBelow registry {} answers "Person" "" requested record := by
  have spares : Config.Spares {} tags tag := fun _ => rfl
  obtain ⟨attached, related, fetched⟩ :=
    @Repository.rows_retained_iff _ recording registry_reachable recording_selects
  obtain ⟨level, built, attaches, names⟩ : ∃ level : FetchLevel,
      FetchPlan.levelFor registry {} tags "tags" 0 1 none = .ok level ∧
        level.attach [[("id", .int 1)]] [ownedWord] = .ok [taggedPerson] ∧
          ownedWord.names = level.statement.columnNames := ⟨_, rfl, rfl, rfl⟩
  refine ⟨registry_reachable, recording_selects, ⟨level, built, attaches, ?nested⟩, ⟨_, rfl, ?given⟩,
    _, _, rfl, ?asked⟩
  case nested =>
    have selected := List.forall_mem_singleton.2
      (Select.selects_iff_names.2 fun name => by rw [names])
    exact ((attached tags tag "tags" 0 1 none level rfl built _ _ selected).2 _ attaches _
      (List.mem_singleton_self _) _ (List.mem_singleton_self _)).2 spares
  case given =>
    obtain ⟨answers, _, _, _, _, each⟩ := related wordsAsked rfl tag rfl none [] _ _ rfl
    obtain ⟨row, _, retains⟩ := exists_of_forall₂ each (List.mem_singleton_self _)
    exact ⟨row, retains.2 spares⟩
  case asked =>
    obtain ⟨plan, _, _, made, read, withFilters, roots, answers, _, _, _, _, _, each⟩ :=
      fetched none (.tree requested) (.expression .absent) [] none [] _ _ rfl
    cases made
    cases read
    cases withFilters
    obtain ⟨root, _, retains, below⟩ := exists_of_forall₂ each (List.mem_singleton_self _)
    exact ⟨root, answers, retains, below⟩

/-! ## Words that are dropped -/

/-- The label has the name of a column of words. -/
def wordLabelled : Config := { correlationLabel := "word" }

/-- What is selected for a word under that label. -/
def selectedWord : Record := [("id", .int 7), ("word", .int 1)]

/-- Where the label has the name of a column, this column is dropped from the word that is nested. -/
theorem word_dropped :
    (Config.ofRecord [("correlation_label", .text "word")]).toOption = some wordLabelled ∧
      registry.Reachable ∧ registry.frozen = true ∧
      ∃ level, FetchPlan.levelFor registry wordLabelled tags "tags" 0 1 none = .ok level ∧
        (∀ row ∈ [selectedWord], level.statement.Selects row) ∧
        level.attach [[("id", .int 1)]] [selectedWord] =
          .ok [[("id", .int 1), ("tags", .list [.object [("id", .int 7)]])]] ∧
        ¬∃ row ∈ [selectedWord], tag.Retains row [] [("id", .int 7)] := by
  refine ⟨rfl, registry_reachable, rfl, _, rfl, List.forall_mem_singleton.2
    (Select.selects_iff_names.2 fun name => ?_), rfl, ?_⟩
  · change name ∈ ["id", "word"] ↔ name ∈ ["id", "word", "word"]
    simp
  · rintro ⟨row, _, retains⟩
    obtain ⟨_, _, found⟩ := retains.values "word" rfl
    cases found

end Family

end RecordGraph

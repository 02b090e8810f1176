import RecordGraph.Proofs.Execution.Storage
import RecordGraph.Proofs.Fetch.Acceptance
import RecordGraph.Proofs.Repository.Venue

/-!
Contract: what the related rows of a stored row are found by.

Owns: `Contents.Relates`, what the level of a relation selects, and that a related row is among
those that are fetched.
Does not own: how rows came to be related.
-/

namespace RecordGraph

open RecordGraph.Sql

/-- Whether a relation links two rows: by equal columns of their own, or by a join row. -/
inductive Contents.Relates (registry : Registry) (contents : Contents) (relation : Relation)
    (owner related : Tuple) : Prop where
  | own (isOwn : relation.kind ≠ .manyToMany)
      (same : owner relation.sourceKey.column = related relation.targetKey.column)
  | joined (isJoined : relation.kind = .manyToMany) {through : Through} {table : Table}
      {link : Tuple} (joins : relation.through = some through)
      (found : registry.table through.table = .ok table) (member : link ∈ contents table.name)
      (source : link through.source.column = owner relation.sourceKey.column)
      (target : link through.target.column = related relation.targetKey.column)

/-- Whether a join table, and the label of its owner column, can be told from the table of the
target and its columns. -/
structure Relation.TellsApart (config : Config) (relation : Relation) (target : Entity) : Prop where
  apart : ∀ through, relation.through = some through → through.table ≠ relation.target
  unlabelled : relation.kind = .manyToMany → target.hasColumn config.correlationLabel = false

namespace FetchPlan

variable {registry : Registry} {config : Config} {relation : Relation} {entity : Entity}
variable {path : String} {parent index : Nat} {filter : Option Filter}

/-- The level of a relation whose target is selected by a column of its own. -/
theorem levelFor_own (found : registry.entity relation.target = .ok entity)
    (isOwn : relation.kind ≠ .manyToMany) {key : Column}
    (isKey : entity.table.column? relation.targetKey.column = some key) :
    levelFor registry config relation path parent index filter = .ok {
      index, parent, path, relation, entity, filter
      ownerColumn := relation.sourceKey.column, matchColumn := key.name
      statement := .ofTable entity.table, keyTerm := Term.ofColumn entity.table key } := by
  refine Result.bind_eq_ok.2 ⟨entity, found, ?_⟩
  cases kind : relation.kind with
  | manyToMany => exact absurd kind isOwn
  | _ => exact Result.bind_eq_ok.2 ⟨key, columnOf_eq_ok.2 isKey, rfl⟩

/-- The level of a relation whose target is selected by the owner column of a join table. -/
theorem levelFor_joined (found : registry.entity relation.target = .ok entity)
    (isJoined : relation.kind = .manyToMany) {through : Through} {table : Table} {owner : Column}
    (joins : relation.through = some through) (isTable : registry.table through.table = .ok table)
    (isOwner : table.column? through.source.column = some owner)
    (hasLink : table.hasColumn through.target.column = true)
    (hasKey : entity.hasColumn relation.targetKey.column = true) :
    levelFor registry config relation path parent index filter = .ok {
      index, parent, path, relation, entity, filter
      ownerColumn := relation.sourceKey.column, matchColumn := config.correlationLabel
      statement := {
        table := entity.table
        join := some {
          through := table, owner, link := through.target.column
          key := relation.targetKey.column, label := config.correlationLabel } }
      keyTerm := Term.ofColumn table owner, hidden := some config.correlationLabel } := by
  obtain ⟨link, isLink⟩ := exists_column_of_hasColumn hasLink
  obtain ⟨key, isKey⟩ := exists_column_of_hasColumn hasKey
  refine Result.bind_eq_ok.2 ⟨entity, found, ?_⟩
  rw [isJoined, joins]
  refine Result.bind_eq_ok.2 ⟨table, isTable, ?_⟩
  refine Result.bind_eq_ok.2 ⟨owner, columnOf_eq_ok.2 isOwner, ?_⟩
  refine Result.bind_eq_ok.2 ⟨link, columnOf_eq_ok.2 isLink, ?_⟩
  refine Result.bind_eq_ok.2 ⟨key, columnOf_eq_ok.2 isKey, ?_⟩
  rw [Table.name_of_column? isLink, Table.name_of_column? isKey]
  rfl

end FetchPlan

/-! ## Fetched rows -/

theorem Tuple.names_shown (tuple : Tuple) (table : Table) :
    (tuple.shown table).names = table.columnNames := by
  unfold Tuple.shown Record.names Table.columnNames
  rw [List.map_map]
  rfl

/-- Dropping the label leaves what a row shows of its table. -/
theorem Tuple.erase_labelled (tuple : Tuple) {table : Table} {label : String}
    (isLabel : table.hasColumn label = false) (value : Value) :
    Record.erase (tuple.shown table ++ [(label, value)]) label = tuple.shown table := by
  have lacks : label ∉ (tuple.shown table).names := by
    rw [tuple.names_shown]
    intro member
    obtain ⟨column, isColumn, isNamed⟩ := List.mem_map.1 member
    have has : table.hasColumn label = true :=
      List.any_eq_true.2 ⟨column, isColumn, by simp [isNamed]⟩
    rw [isLabel] at has
    cases has
  rw [Record.erase_append, Record.erase_of_not_mem lacks]
  simp [Record.erase]

section Levels

variable {σ : Type} {storage : Storage σ} {registry : Registry} {config : Config}
variable {relation : Relation} {target : Entity} {contents : Contents} {holder related : Tuple}

/-- The level of a relation asks for the key of a row, and is given every row that the relation
links to it. -/
theorem Contents.Relates.level_gives (relates : contents.Relates registry relation holder related)
    (consistent : registry.Consistent) {owner name : String} (path : String)
    (resolves : registry.resolve owner name = .ok relation)
    (found : registry.entity relation.target = .ok target)
    (tellsApart : relation.TellsApart config target)
    (isStored : related ∈ contents target.table.name)
    (sourceEqual : storage.equal (holder relation.sourceKey.column)
      (holder relation.sourceKey.column) = true)
    (targetEqual : storage.equal (related relation.targetKey.column)
      (related relation.targetKey.column) = true) :
    ∃ level select ref, FetchPlan.levelFor registry config relation path 0 1 none = .ok level ∧
      level.build [holder relation.sourceKey.column] = .ok select ∧
        select.Asks registry.schema ref [holder relation.sourceKey.column] ∧
          ∃ row, storage.Gives contents select ref [holder relation.sourceKey.column] row ∧
            level.visible row = related.shown target.table := by
  have isTable := consistent.table_found found
  have joins := consistent.joins resolves
  have hasTarget : target.table.hasColumn relation.targetKey.column = true :=
    consistent.hasColumn found joins.target
  cases relates with
  | own isOwn same =>
      obtain ⟨key, isKey⟩ := FetchPlan.exists_column_of_hasColumn hasTarget
      have isNamed : key.name = relation.targetKey.column := Table.name_of_column? isKey
      refine ⟨_, _, ⟨target.table.name, key.name⟩, FetchPlan.levelFor_own found isOwn isKey, rfl,
        ?_, related.shown target.table, ?_, rfl⟩
      · exact {
          table := isTable
          condition := ⟨_, rfl, rfl⟩
          unordered := rfl
          place := ⟨rfl, by rw [isNamed]; exact hasTarget⟩ }
      · refine ⟨related, isStored, ⟨_, List.mem_singleton_self _, ?_⟩, rfl⟩
        rw [isNamed, same]
        exact targetEqual
  | @joined isJoined through table link isThrough isJoinTable member source target' =>
      obtain ⟨through', isThrough', hasSource, hasLink⟩ := joins.through isJoined
      cases isThrough.symm.trans isThrough'
      have isFound := Registry.tableAs_eq_ok isJoinTable
      obtain ⟨column, isColumn⟩ := FetchPlan.exists_column_of_hasColumn (hasSource.of_table isFound)
      have isNamed : column.name = through.source.column := Table.name_of_column? isColumn
      have unlabelled := tellsApart.unlabelled isJoined
      have apart : table.name ≠ target.table.name := by
        rw [Schema.name_of_table? isFound, consistent.table_name found]
        exact tellsApart.apart through isThrough
      refine ⟨_, _, ⟨table.name, column.name⟩,
        FetchPlan.levelFor_joined found isJoined isThrough isJoinTable isColumn
          (hasLink.of_table isFound) hasTarget, rfl, ?_,
        related.shown target.table ++ [(config.correlationLabel, link column.name)], ?_,
        related.erase_labelled unlabelled _⟩
      · exact {
          table := isTable
          condition := ⟨_, rfl, rfl⟩
          unordered := rfl
          place := ⟨{
            through := Registry.table_eq_ok isJoinTable
            apart
            owner := by rw [isNamed]; exact hasSource.of_table isFound
            link := hasLink.of_table isFound
            key := hasTarget
            unlabelled }, rfl, by rw [isNamed]; exact hasSource.of_table isFound⟩ }
      · refine ⟨related, isStored, link, member, ?_, ⟨_, List.mem_singleton_self _, ?_⟩, rfl⟩
        · rw [target']
          exact targetEqual
        · rw [isNamed, source]
          exact sourceEqual

end Levels

namespace RelatedQuery

variable {σ : Type} {control : SessionControl σ} {session : Session σ}
variable {laws : Transactional control session Contents} {equal : Value → Value → Bool}
variable {registry : Registry} {config : Config} {entity target : Entity}
variable {query : RelatedQuery (Workplace σ)} {holder related : Tuple}

/-- Where the row of the owner is loaded, the related rows contain every row that the relation links
to it. -/
theorem fetch_contains_of_loads (regular : (laws.storage equal).Regular registry.schema)
    (consistent : registry.Consistent) (isEntity : registry.entity entity.name = .ok entity)
    (isTarget : registry.entity query.relation.target = .ok target) {venue : Venue}
    (isOver : query.repository =
      Repository.over registry entity config session (some (venue.scope control))) {name : String}
    (resolves : registry.resolve entity.name name = .ok query.relation)
    (tellsApart : query.relation.TellsApart config target) {before : Workplace σ}
    (ready : venue.Ready control before)
    (loads : ∀ entered, Opened control entered →
      laws.current entered.world.world = venue.data laws before →
        ∃ middle, query.loadOwner (unitExecutor session none) entered =
            (.ok (some (holder.shown entity.table)), middle) ∧
          Opened control middle ∧
            laws.current middle.world.world = laws.current entered.world.world)
    (isHolder : holder ∈ venue.data laws before entity.table.name)
    (isRelated : related ∈ venue.data laws before target.table.name)
    (relates : (venue.data laws before).Relates registry query.relation holder related)
    (hasSource : (holder query.relation.sourceKey.column).isNull = false)
    (hasTarget : (related query.relation.targetKey.column).isNull = false) :
    ∃ rows after, query.fetch none before = (.ok (some rows), after) ∧
      related.shown target.table ∈ rows := by
  suffices found : ∃ value after, query.fetch none before = (.ok value, after) ∧
      ∃ rows, value = some rows ∧ related.shown target.table ∈ rows by
    obtain ⟨_, after, fetched, rows, rfl, member⟩ := found
    exact ⟨rows, after, fetched, member⟩
  unfold fetch Repository.within
  rw [isOver]
  refine venue.within_of_ok laws ready fun entered opened current => ?_
  obtain ⟨middle, loaded, stillOpen, unchanged⟩ := loads entered opened current
  have sees : (laws.storage equal).contents middle = venue.data laws before :=
    unchanged.trans current
  rw [← sees] at isHolder isRelated relates
  have stores : Storage.Stores ((laws.storage equal).contents middle)
      (holder query.relation.sourceKey.column) := Storage.stores_of_mem isHolder _
  have storesTarget : Storage.Stores ((laws.storage equal).contents middle)
      (related query.relation.targetKey.column) := Storage.stores_of_mem isRelated _
  obtain ⟨level, select, ref, isLevel, isBuilt, asks, row, gives, isShown⟩ :=
    relates.level_gives consistent query.relation.name resolves isTarget tellsApart isRelated
      (regular.reflexive middle _ stillOpen stores hasSource)
      (regular.reflexive middle _ stillOpen storesTarget hasTarget)
  obtain ⟨rows, after, fetched, finallyOpen, answers⟩ :=
    regular.fetches stillOpen asks (List.forall_mem_singleton.2 ⟨stores, hasSource⟩)
  refine ⟨some (rows.map level.visible), after, ?_, finallyOpen, _, rfl, ?_⟩
  · have hasColumn : entity.table.hasColumn query.relation.sourceKey.column = true :=
      consistent.hasColumn isEntity (consistent.joins resolves).source
    have isSource : (holder.shown entity.table).getD query.relation.sourceKey.column =
        holder query.relation.sourceKey.column := holder.getD_shown hasColumn
    refine (Action.bind_of_ok loaded).trans ?_
    dsimp only
    rw [isSource, hasSource, if_neg Bool.false_ne_true]
    refine (Action.bind_of_ok (Action.ofExcept_eq_ok.2 ⟨isLevel, rfl⟩)).trans ?_
    refine (Action.bind_of_ok (Action.ofExcept_eq_ok.2 ⟨isBuilt, rfl⟩)).trans ?_
    exact (Action.bind_of_ok fetched).trans rfl
  · rw [← isShown]
    exact List.mem_map_of_mem ((answers row).2 gives)

/-- The related rows of a stored row contain every row that the relation links to it. -/
theorem fetch_contains (faithful : (laws.storage equal).Faithful registry.schema)
    (consistent : registry.Consistent) (isEntity : registry.entity entity.name = .ok entity)
    (isTarget : registry.entity query.relation.target = .ok target)
    (isOver : query.repository =
      Repository.over registry entity config session (some (unitScope control))) {name : String}
    (resolves : registry.resolve entity.name name = .ok query.relation)
    (tellsApart : query.relation.TellsApart config target) {before : Workplace σ}
    (closed : control.inTransaction before.world.world = false)
    (isHolder : holder ∈ laws.stored before.world.world entity.table.name)
    (isOwner : query.owner = holder entity.key.name)
    (isRelated : related ∈ laws.stored before.world.world target.table.name)
    (relates : (laws.stored before.world.world).Relates registry query.relation holder related)
    (hasSource : (holder query.relation.sourceKey.column).isNull = false)
    (hasTarget : (related query.relation.targetKey.column).isNull = false) :
    ∃ rows after, query.fetch none before = (.ok (some rows), after) ∧
      related.shown target.table ∈ rows := by
  have ready : Venue.own.Ready control before := closed
  refine fetch_contains_of_loads faithful.regular consistent isEntity isTarget isOver resolves
    tellsApart ready (fun entered opened current => ?_) isHolder isRelated relates hasSource hasTarget
  have isTable := consistent.table_found isEntity
  have isKey := consistent.key_found isEntity
  have isStored : holder ∈ (laws.storage equal).contents entered entity.table.name := by
    change holder ∈ laws.current entered.world.world entity.table.name
    rw [current]
    exact isHolder
  have notNull := faithful.filled entered entity.table entity.key opened isTable isKey holder isStored
  obtain ⟨middle, loaded, stillOpen, unchanged⟩ := faithful.regular.loads opened isTable isKey isStored
  refine ⟨middle, ?_, stillOpen, unchanged⟩
  unfold loadOwner load
  rw [isOver, isOwner, notNull]
  exact loaded

end RelatedQuery

end RecordGraph

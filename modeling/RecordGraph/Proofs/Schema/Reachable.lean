import RecordGraph.Proofs.Result
import RecordGraph.Schema.Registry

/-!
Contract: the registries that registration and freezing make.

Owns: `Registry.Reachable`, the agreement of its entities and relations with the tables, and what
that agreement says about resolved names.
Does not own: which schemas can be registered.
-/

namespace RecordGraph

theorem Table.hasColumn_iff {table : Table} {name : String} :
    table.hasColumn name = true ↔ name ∈ table.columnNames := by
  unfold hasColumn columnNames
  simp

theorem Table.hasColumn_of_column? {table : Table} {name : String} {column : Column}
    (found : table.column? name = some column) : table.hasColumn name = true := by
  unfold Table.column? at found
  have isNamed := List.find?_some found
  exact List.any_eq_true.2 ⟨column, List.mem_of_find?_eq_some found, isNamed⟩

theorem Table.name_of_column? {table : Table} {name : String} {column : Column}
    (found : table.column? name = some column) : column.name = name := by
  unfold Table.column? at found
  simpa using List.find?_some found

/-- The only column of a primary key is a column. -/
theorem Table.mem_of_primaryKeys {table : Table} {key : Column} (isKey : table.primaryKeys = [key]) :
    key ∈ table.columns ∧ key.primaryKey = true := by
  have isPrimary : key ∈ table.primaryKeys := by
    rw [isKey]
    exact List.mem_singleton_self key
  exact List.mem_filter.1 isPrimary

namespace Schema

/-- Whether a column reference names a column of the table with a name. -/
def HasColumn (schema : Schema) (name : String) (ref : ColumnRef) : Prop :=
  ref.table = name ∧ ∃ table, schema.table? name = some table ∧ table.hasColumn ref.column = true

theorem HasColumn.of_table {schema : Schema} {name : String} {ref : ColumnRef} {table : Table}
    (has : schema.HasColumn name ref) (found : schema.table? name = some table) :
    table.hasColumn ref.column = true := by
  obtain ⟨_, table', found', isColumn⟩ := has
  rw [found] at found'
  cases found'
  exact isColumn

/-- A table is found under the name that it has. -/
theorem name_of_table? {schema : Schema} {name : String} {table : Table}
    (found : schema.table? name = some table) : table.name = name := by
  simpa using List.find?_some found

end Schema

namespace Registry

/-- Registries made from tables alone by registration and freezing. -/
inductive Reachable : Registry → Prop where
  | start (schema : Schema) : Reachable { schema }
  | register {registry registry' : Registry} {name : String} {relations : List Relation}
      (before : Reachable registry) (registered : registry.register name relations = .ok registry') :
      Reachable registry'
  | freeze {registry registry' : Registry} (before : Reachable registry)
      (frozen : registry.freeze = .ok registry') : Reachable registry'

/-- Whether a relation's join columns are columns of the tables that they must belong to. -/
structure Joins (schema : Schema) (entity : String) (relation : Relation) : Prop where
  source : schema.HasColumn entity relation.sourceKey
  target : schema.HasColumn relation.target relation.targetKey
  through : relation.kind = .manyToMany → ∃ through, relation.through = some through ∧
    schema.HasColumn through.table through.source ∧ schema.HasColumn through.table through.target

/-- Whether an entity agrees with its table. -/
structure Agrees (schema : Schema) (entity : Entity) : Prop where
  table : schema.table? entity.name = some entity.table
  key : entity.table.primaryKeys = [entity.key]
  unshadowed : ∀ relation ∈ entity.relations, entity.hasColumn relation.name = false
  joins : ∀ relation ∈ entity.relations, Joins schema entity.name relation

/-- What registration keeps. -/
structure Consistent (registry : Registry) : Prop where
  agrees : ∀ entity ∈ registry.entities, Agrees registry.schema entity
  distinct : (registry.entities.map (·.name)).Nodup
  closed : registry.frozen = true → ∀ entity ∈ registry.entities, ∀ relation ∈ entity.relations,
    registry.contains relation.target = true

/-! ## Checks of a relation -/

theorem tableAs_eq_ok {schema : Schema} {role : TableRole} {name : String} {table : Table}
    (found : tableAs schema role name = .ok table) : schema.table? name = some table := by
  unfold tableAs at found
  split at found
  · rename_i isFound
    rw [isFound, Result.pure_eq_ok.1 found]
  · exact absurd found Result.throw_ne_ok

theorem tableAs_of_table? {schema : Schema} {role : TableRole} {name : String} {table : Table}
    (found : schema.table? name = some table) : tableAs schema role name = .ok table := by
  rw [tableAs, found]
  rfl

theorem joinColumn_eq_ok {schema : Schema} {ref : ColumnRef} {expected place : String}
    {column : Column} (found : joinColumn schema ref expected place = .ok column) :
    schema.HasColumn expected ref := by
  unfold joinColumn at found
  split at found
  · exact absurd found Result.throw_ne_ok
  · rename_i placed
    have isPlaced : ref.table = expected := by simpa using placed
    rcases Result.bind_eq_ok.1 found with ⟨table, isTable, found⟩
    refine ⟨isPlaced, table, by rw [← isPlaced]; exact tableAs_eq_ok isTable, ?_⟩
    split at found
    · rename_i column isColumn
      exact Table.hasColumn_of_column? isColumn
    · exact absurd found Result.throw_ne_ok

theorem checkRelation_eq_ok {schema : Schema} {entity : String} {relation : Relation}
    (checked : checkRelation schema entity relation = .ok ()) : Joins schema entity relation := by
  rcases Result.bind_eq_ok.1 checked with ⟨_, _, checked⟩
  rcases Result.bind_eq_ok.1 checked with ⟨source, sourceFound, checked⟩
  rcases Result.bind_eq_ok.1 checked with ⟨target, targetFound, checked⟩
  refine ⟨joinColumn_eq_ok sourceFound, joinColumn_eq_ok targetFound, fun isJoined => ?_⟩
  rw [isJoined] at checked
  simp only at checked
  split at checked
  · exact absurd checked Result.throw_ne_ok
  · rename_i through joins
    split at checked
    · exact absurd checked Result.throw_ne_ok
    · rcases Result.bind_eq_ok.1 checked with ⟨throughSource, throughSourceFound, checked⟩
      rcases Result.bind_eq_ok.1 checked with ⟨throughTarget, throughTargetFound, _⟩
      exact ⟨through, joins, joinColumn_eq_ok throughSourceFound,
        joinColumn_eq_ok throughTargetFound⟩

theorem admitRelation_eq_ok {schema : Schema} {table : Table} {entity : String}
    {relation : Relation} (admitted : admitRelation schema table entity relation = .ok ()) :
    table.hasColumn relation.name = false ∧ Joins schema entity relation := by
  unfold admitRelation at admitted
  split at admitted
  · exact absurd admitted Result.throw_ne_ok
  · split at admitted
    · exact absurd admitted Result.throw_ne_ok
    · rename_i notShadowing
      exact ⟨by simpa using notShadowing, checkRelation_eq_ok admitted⟩

theorem admitRelations_eq_ok {schema : Schema} {table : Table} {entity : String}
    {relations : List Relation}
    (admitted : relations.forM (admitRelation schema table entity) = .ok ()) :
    ∀ relation ∈ relations, admitRelation schema table entity relation = .ok () := by
  induction relations with
  | nil => exact fun _ member => absurd member List.not_mem_nil
  | cons relation rest inductionHypothesis =>
      rcases Result.bind_eq_ok.1 admitted with ⟨_, headOk, tailOk⟩
      rw [List.forall_mem_cons]
      exact ⟨headOk, inductionHypothesis tailOk⟩

theorem admitEntity_eq_ok {schema : Schema} {name : String} {relations : List Relation}
    {entity : Entity} (admitted : admitEntity schema name relations = .ok entity) :
    entity.name = name ∧ Agrees schema entity := by
  rcases Result.bind_eq_ok.1 admitted with ⟨table, isTable, admitted⟩
  rcases Result.bind_eq_ok.1 admitted with ⟨_, relationsOk, admitted⟩
  split at admitted
  · rename_i key isKey
    cases Result.pure_eq_ok.1 admitted
    refine ⟨rfl, tableAs_eq_ok isTable, isKey, ?_, ?_⟩
    · intro relation member
      exact (admitRelation_eq_ok (admitRelations_eq_ok relationsOk relation member)).1
    · intro relation member
      exact (admitRelation_eq_ok (admitRelations_eq_ok relationsOk relation member)).2
  · exact absurd admitted Result.throw_ne_ok

/-! ## Steps -/

/-- All that a registration does. -/
theorem register_eq_ok {registry registry' : Registry} {name : String} {relations : List Relation}
    (registered : registry.register name relations = .ok registry') :
    registry.frozen = false ∧ registry.contains name = false ∧
      ∃ entity, admitEntity registry.schema name relations = .ok entity ∧
        registry' = { registry with entities := registry.entities ++ [entity] } := by
  unfold Registry.register at registered
  split at registered
  · exact absurd registered Result.throw_ne_ok
  · rename_i isOpen
    split at registered
    · exact absurd registered Result.throw_ne_ok
    · rename_i isNew
      rcases Result.bind_eq_ok.1 registered with ⟨entity, admitted, registered⟩
      exact ⟨by simpa using isOpen, by simpa using isNew, entity, admitted,
        (Result.pure_eq_ok.1 registered).symm⟩

/-- All that freezing does. -/
theorem freeze_eq_ok {registry registry' : Registry} (frozen : registry.freeze = .ok registry') :
    registry.firstOpenTarget? = none ∧ registry' = { registry with frozen := true } := by
  unfold Registry.freeze at frozen
  split at frozen
  · exact absurd frozen Result.throw_ne_ok
  · rename_i noneOpen
    exact ⟨noneOpen, (Result.pure_eq_ok.1 frozen).symm⟩

/-! ## The invariant -/

theorem Consistent.register {registry registry' : Registry} {name : String}
    {relations : List Relation} (consistent : Consistent registry)
    (registered : registry.register name relations = .ok registry') : Consistent registry' := by
  obtain ⟨isOpen, isNew, entity, admitted, rfl⟩ := register_eq_ok registered
  rcases admitEntity_eq_ok admitted with ⟨isName, agrees⟩
  refine ⟨?_, ?_, fun isFrozen => ?_⟩
  · intro other member
    rcases List.mem_append.1 member with member | member
    · exact consistent.agrees other member
    · rw [List.mem_singleton.1 member]
      exact agrees
  · rw [List.map_append, List.nodup_append]
    refine ⟨consistent.distinct, List.pairwise_singleton .., ?_⟩
    intro left leftMember right rightMember same
    rw [List.map_singleton, List.mem_singleton] at rightMember
    obtain ⟨other, member, rfl⟩ := List.mem_map.1 leftMember
    have isContained : registry.contains name = true :=
      List.any_eq_true.2 ⟨other, member, by simp [same, rightMember, isName]⟩
    rw [isNew] at isContained
    cases isContained
  · rw [isOpen] at isFrozen
    cases isFrozen

theorem Consistent.freeze {registry registry' : Registry} (consistent : Consistent registry)
    (frozen : registry.freeze = .ok registry') : Consistent registry' := by
  obtain ⟨noneOpen, rfl⟩ := freeze_eq_ok frozen
  refine ⟨consistent.agrees, consistent.distinct, fun _ entity member relation isRelation => ?_⟩
  have noOpen := List.findSome?_eq_none_iff.1 noneOpen entity member
  rw [Option.map_eq_none_iff, List.find?_eq_none] at noOpen
  have isClosed : registry.contains relation.target = true := by
    simpa using noOpen relation isRelation
  exact isClosed

/-- Entities of reachable registries agree with their tables. -/
theorem Reachable.consistent {registry : Registry} (reachable : Reachable registry) :
    Consistent registry := by
  induction reachable with
  | start schema =>
      exact ⟨fun _ member => absurd member List.not_mem_nil, List.nodup_nil,
        fun _ _ member => absurd member List.not_mem_nil⟩
  | register before registered inductionHypothesis => exact inductionHypothesis.register registered
  | freeze before frozen inductionHypothesis => exact inductionHypothesis.freeze frozen

theorem admitRelation_isIdentifier {schema : Schema} {table : Table} {entity : String}
    {relation : Relation} (admitted : admitRelation schema table entity relation = .ok ()) :
    Text.isIdentifier relation.name = true := by
  unfold admitRelation at admitted
  split at admitted
  · exact absurd admitted Result.throw_ne_ok
  · rename_i isIdentifier
    simpa using isIdentifier

/-- An entity that is admitted has its relations admitted one by one. -/
theorem admitEntity_relations {schema : Schema} {name : String} {relations : List Relation}
    {entity : Entity} (admitted : admitEntity schema name relations = .ok entity) :
    ∀ relation ∈ entity.relations, admitRelation schema entity.table name relation = .ok () := by
  rcases Result.bind_eq_ok.1 admitted with ⟨table, _, admitted⟩
  rcases Result.bind_eq_ok.1 admitted with ⟨_, relationsOk, admitted⟩
  split at admitted
  · cases Result.pure_eq_ok.1 admitted
    exact admitRelations_eq_ok relationsOk
  · exact absurd admitted Result.throw_ne_ok

/-- The relations of entities of reachable registries have passed their checks. -/
theorem Reachable.admitted {registry : Registry} (reachable : Reachable registry) :
    ∀ entity ∈ registry.entities, ∀ relation ∈ entity.relations,
      admitRelation registry.schema entity.table entity.name relation = .ok () := by
  induction reachable with
  | start schema => exact fun _ member => absurd member List.not_mem_nil
  | register before registered inductionHypothesis =>
      obtain ⟨_, _, entity, admitted, rfl⟩ := register_eq_ok registered
      rw [List.forall_mem_append, List.forall_mem_singleton, (admitEntity_eq_ok admitted).1]
      exact ⟨inductionHypothesis, admitEntity_relations admitted⟩
  | freeze before frozen inductionHypothesis =>
      obtain ⟨_, rfl⟩ := freeze_eq_ok frozen
      exact inductionHypothesis

/-- The relations of entities of reachable registries are named by identifiers. -/
theorem Reachable.isIdentifier {registry : Registry} (reachable : Reachable registry) :
    ∀ entity ∈ registry.entities, ∀ relation ∈ entity.relations,
      Text.isIdentifier relation.name = true :=
  fun entity isEntity relation isRelation =>
    admitRelation_isIdentifier (reachable.admitted entity isEntity relation isRelation)

/-! ## Resolved names -/

theorem entity_eq_ok {registry : Registry} {name : String} {entity : Entity}
    (found : registry.entity name = .ok entity) : entity ∈ registry.entities ∧ entity.name = name := by
  unfold Registry.entity at found
  split at found
  · rename_i isFound
    cases Result.pure_eq_ok.1 found
    exact ⟨List.mem_of_find?_eq_some isFound, by simpa using List.find?_some isFound⟩
  · exact absurd found Result.throw_ne_ok

/-- An entity that is found is found under its own name. -/
theorem entity_name {registry : Registry} {name : String} {entity : Entity}
    (found : registry.entity name = .ok entity) : registry.entity entity.name = .ok entity := by
  rw [(entity_eq_ok found).2]
  exact found

theorem resolve_eq_ok {registry : Registry} {entity name : String} {relation : Relation}
    (resolves : registry.resolve entity name = .ok relation) :
    ∃ found, registry.entity entity = .ok found ∧ relation ∈ found.relations ∧
      relation.name = name := by
  rcases Result.bind_eq_ok.1 resolves with ⟨found, isFound, resolves⟩
  refine ⟨found, isFound, ?_⟩
  split at resolves
  · rename_i isRelation
    cases Result.pure_eq_ok.1 resolves
    exact ⟨List.mem_of_find?_eq_some isRelation, by simpa using List.find?_some isRelation⟩
  · exact absurd resolves Result.throw_ne_ok

theorem name_of_resolve {registry : Registry} {entity name : String} {relation : Relation}
    (resolves : registry.resolve entity name = .ok relation) : relation.name = name := by
  obtain ⟨_, _, _, isNamed⟩ := resolve_eq_ok resolves
  exact isNamed

/-- The join columns of a resolved relation. -/
theorem Consistent.joins {registry : Registry} (consistent : Consistent registry)
    {entity name : String} {relation : Relation}
    (resolves : registry.resolve entity name = .ok relation) :
    Joins registry.schema entity relation := by
  rcases resolve_eq_ok resolves with ⟨found, isFound, member, _⟩
  rcases entity_eq_ok isFound with ⟨isEntity, isName⟩
  rw [← isName]
  exact (consistent.agrees found isEntity).joins relation member

/-- A join column of an entity is a column of the entity's table. -/
theorem Consistent.hasColumn {registry : Registry} (consistent : Consistent registry)
    {name : String} {entity : Entity} {ref : ColumnRef} (found : registry.entity name = .ok entity)
    (has : registry.schema.HasColumn name ref) : entity.hasColumn ref.column = true := by
  rcases entity_eq_ok found with ⟨isEntity, isName⟩
  rcases has with ⟨_, table, isTable, isColumn⟩
  have same := (consistent.agrees entity isEntity).table
  rw [isName, isTable] at same
  cases same
  exact isColumn

/-- A table is found under its own name. -/
theorem table?_name {schema : Schema} {name : String} {table : Table}
    (found : schema.table? name = some table) : schema.table? table.name = some table := by
  rw [Schema.name_of_table? found]
  exact found

theorem table_eq_ok {registry : Registry} {name : String} {table : Table}
    (found : registry.table name = .ok table) : registry.schema.table? table.name = some table :=
  table?_name (tableAs_eq_ok found)

/-- The table of an entity is one of the schema. -/
theorem Consistent.table_found {registry : Registry} (consistent : Consistent registry)
    {name : String} {entity : Entity} (found : registry.entity name = .ok entity) :
    registry.schema.table? entity.table.name = some entity.table :=
  table?_name (consistent.agrees entity (entity_eq_ok found).1).table

theorem Consistent.table_name {registry : Registry} (consistent : Consistent registry)
    {name : String} {entity : Entity} (found : registry.entity name = .ok entity) :
    entity.table.name = name := by
  obtain ⟨isEntity, isNamed⟩ := entity_eq_ok found
  rw [← isNamed]
  exact Schema.name_of_table? (consistent.agrees entity isEntity).table

/-- The table of an entity has its key for its only primary key. -/
theorem Consistent.key_found {registry : Registry} (consistent : Consistent registry)
    {name : String} {entity : Entity} (found : registry.entity name = .ok entity) :
    entity.table.primaryKeys = [entity.key] :=
  (consistent.agrees entity (entity_eq_ok found).1).key

theorem Consistent.key_hasColumn {registry : Registry} (consistent : Consistent registry)
    {name : String} {entity : Entity} (found : registry.entity name = .ok entity) :
    entity.hasColumn entity.key.name = true :=
  List.any_eq_true.2 ⟨entity.key, (Table.mem_of_primaryKeys (consistent.key_found found)).1,
    beq_self_eq_true entity.key.name⟩

/-- No column of an entity has the name of one of its relations. -/
theorem Consistent.unshadowed {registry : Registry} (consistent : Consistent registry)
    {owner name : String} {entity : Entity} {relation : Relation}
    (isEntity : registry.entity owner = .ok entity)
    (resolves : registry.resolve owner name = .ok relation) :
    entity.hasColumn relation.name = false := by
  rcases resolve_eq_ok resolves with ⟨found, isFound, member, _⟩
  rw [isEntity] at isFound
  cases isFound
  exact (consistent.agrees entity (entity_eq_ok isEntity).1).unshadowed relation member

/-- What is contained is found. -/
theorem entity_of_contains {registry : Registry} {name : String}
    (contained : registry.contains name = true) : ∃ entity, registry.entity name = .ok entity := by
  cases lookup : registry.entities.find? (·.name == name) with
  | some entity => exact ⟨entity, by rw [Registry.entity, lookup]; rfl⟩
  | none =>
      rcases List.any_eq_true.1 contained with ⟨other, isEntity, isNamed⟩
      exact absurd isNamed (List.find?_eq_none.1 lookup other isEntity)

/-- In a frozen registry every resolved relation has a registered target. -/
theorem Consistent.target_found {registry : Registry} (consistent : Consistent registry)
    (frozen : registry.frozen = true) {entity name : String} {relation : Relation}
    (resolves : registry.resolve entity name = .ok relation) :
    ∃ target, registry.entity relation.target = .ok target := by
  rcases resolve_eq_ok resolves with ⟨found, isFound, member, _⟩
  exact entity_of_contains
    (consistent.closed frozen found (entity_eq_ok isFound).1 relation member)

/-- A resolved many-to-many relation has a join table. -/
theorem Consistent.through_found {registry : Registry} (consistent : Consistent registry)
    {entity name : String} {relation : Relation}
    (resolves : registry.resolve entity name = .ok relation)
    (isJoined : relation.kind = .manyToMany) :
    ∃ through table, relation.through = some through ∧
      registry.table through.table = .ok table := by
  rcases (consistent.joins resolves).through isJoined with
    ⟨through, joins, ⟨_, table, isTable, _⟩, _⟩
  exact ⟨through, table, joins, tableAs_of_table? isTable⟩

/-- Whether every relation leads to a registered entity, if it is joined by a known table. -/
structure Closed (registry : Registry) : Prop where
  target : ∀ {entity name : String} {relation : Relation},
    registry.resolve entity name = .ok relation →
      ∃ target, registry.entity relation.target = .ok target
  through : ∀ {entity name : String} {relation : Relation},
    registry.resolve entity name = .ok relation → relation.kind = .manyToMany →
      ∃ through table, relation.through = some through ∧ registry.table through.table = .ok table

theorem Reachable.closed {registry : Registry} (reachable : registry.Reachable)
    (frozen : registry.frozen = true) : registry.Closed where
  target := reachable.consistent.target_found frozen
  through := reachable.consistent.through_found

end Registry

/-! ## A family

A small registry with relations of each kind, two of them over one column. -/

namespace Family

def personTable : Table where
  name := "Person"
  columns := [
    { name := "id", type := .integer, primaryKey := true },
    { name := "name", type := .string },
    { name := "parentId", type := .integer, references := some ⟨"Person", "id"⟩ }]

def tagTable : Table where
  name := "Tag"
  columns := [
    { name := "id", type := .integer, primaryKey := true },
    { name := "word", type := .string }]

def labelTable : Table where
  name := "Label"
  columns := [
    { name := "id", type := .integer, primaryKey := true },
    { name := "personId", type := .integer, references := some ⟨"Person", "id"⟩ },
    { name := "tagId", type := .integer, references := some ⟨"Tag", "id"⟩ }]

def parent : Relation where
  name := "parent"
  kind := .belongsToOne
  target := "Person"
  sourceKey := ⟨"Person", "parentId"⟩
  targetKey := ⟨"Person", "id"⟩

def children : Relation where
  name := "children"
  kind := .hasMany
  target := "Person"
  sourceKey := ⟨"Person", "id"⟩
  targetKey := ⟨"Person", "parentId"⟩

def tags : Relation where
  name := "tags"
  kind := .manyToMany
  target := "Tag"
  sourceKey := ⟨"Person", "id"⟩
  targetKey := ⟨"Tag", "id"⟩
  through := some ⟨⟨"Label", "personId"⟩, ⟨"Label", "tagId"⟩⟩

def person : Entity where
  name := "Person"
  table := personTable
  key := { name := "id", type := .integer, primaryKey := true }
  relations := [parent, children, tags]

def tag : Entity where
  name := "Tag"
  table := tagTable
  key := { name := "id", type := .integer, primaryKey := true }
  relations := []

def schema : Schema := [personTable, tagTable, labelTable]

def registry : Registry where
  schema := schema
  entities := [person, tag]
  frozen := true

theorem registry_reachable : registry.Reachable := by
  have people : Registry.register { schema } "Person" [parent, children, tags] =
      .ok { schema, entities := [person] } := rfl
  have both : Registry.register { schema, entities := [person] } "Tag" [] =
      .ok { schema, entities := [person, tag] } := rfl
  have frozen : Registry.freeze { schema, entities := [person, tag] } = .ok registry := rfl
  exact .freeze (.register (.register (.start schema) people) both) frozen

end Family

end RecordGraph

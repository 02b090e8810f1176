import RecordGraph.Expression.Tree
import RecordGraph.Schema.Relation
import RecordGraph.Value.Record

/-!
Contract: entities, their relations, and the agreement of both with the tables.

Owns: `Entity`, `Registry`, registration, freezing, and resolution of names and trees.
Does not own: planning.

An entity is a table with exactly one primary key column and a set of relations. Every join column
of a relation is a column of the table it must belong to, and a join column with a foreign key
references its counterpart. A frozen registry has every relation's target and does not change.
-/

namespace RecordGraph

open RecordGraph.Text

structure Entity where
  name : String
  table : Table
  key : Column
  relations : List Relation
deriving DecidableEq, Repr, Inhabited

namespace Entity

def hasColumn (entity : Entity) (name : String) : Bool :=
  entity.table.hasColumn name

def relation? (entity : Entity) (name : String) : Option Relation :=
  entity.relations.find? (·.name == name)

def splitRecord (entity : Entity) (record : Record) : Record × Record :=
  record.partition fun field => entity.hasColumn field.1

end Entity

structure Registry where
  schema : Schema
  entities : List Entity := []
  frozen : Bool := false
deriving DecidableEq, Repr, Inhabited

namespace Registry

/-! ## Agreement with the tables -/

/-- The table with a name, which was to play a part. -/
def tableAs (schema : Schema) (role : TableRole) (name : String) : Result Table :=
  match schema.table? name with
  | some table => pure table
  | none => throw (.unknownTable role name)

/-- The column that a join column names, if it belongs to the expected table. -/
def joinColumn (schema : Schema) (ref : ColumnRef) (expected place : String) : Result Column :=
  if ref.table ≠ expected then throw (.misplacedJoinColumn place ref expected)
  else do
    let table ← tableAs schema .join ref.table
    match table.column? ref.column with
    | some column => pure column
    | none => throw (.missingJoinColumn place ref)

/-- One of the foreign keys must name the counterpart. Those before it must name columns. -/
def findReference (schema : Schema) (referencing referenced : ColumnRef) (place : String) :
    List ColumnRef → Result Unit
  | [] => throw (.unreferenced place referencing referenced)
  | ref :: rest =>
      match schema.table? ref.table with
      | none => throw (.foreign .danglingTable)
      | some table =>
          if !table.hasColumn ref.column then throw (.foreign .danglingColumn)
          else if ref = referenced then pure ()
          else findReference schema referencing referenced place rest

/-- A column with foreign keys must reference its counterpart. -/
def checkReference (schema : Schema) (column : Column) (referencing referenced : ColumnRef)
    (place : String) : Result Unit :=
  if column.foreignKeys.isEmpty then pure ()
  else findReference schema referencing referenced place column.foreignKeys

def checkRelation (schema : Schema) (entity : String) (relation : Relation) : Result Unit := do
  let place := entity ++ "." ++ relation.name
  let _ ← tableAs schema .targetEntity relation.target
  let source ← joinColumn schema relation.sourceKey entity place
  let target ← joinColumn schema relation.targetKey relation.target place
  match relation.kind with
  | .hasMany => checkReference schema target relation.targetKey relation.sourceKey place
  | .belongsToOne => checkReference schema source relation.sourceKey relation.targetKey place
  | .manyToMany =>
      match relation.through with
      | none => throw (.missingThrough place)
      | some through =>
          if through.source.table ≠ through.target.table then
            throw (.splitThrough place through.source through.target)
          else do
            let throughSource ← joinColumn schema through.source through.table place
            let throughTarget ← joinColumn schema through.target through.table place
            checkReference schema throughSource through.source relation.sourceKey place
            checkReference schema throughTarget through.target relation.targetKey place

/-! ## Registration -/

def admitRelation (schema : Schema) (table : Table) (entity : String) (relation : Relation) :
    Result Unit :=
  if !isIdentifier relation.name then throw (.invalidRelationName entity relation.name)
  else if table.hasColumn relation.name then throw (.relationShadowsColumn entity relation.name)
  else checkRelation schema entity relation

def contains (registry : Registry) (entity : String) : Bool :=
  registry.entities.any (·.name == entity)

def admitEntity (schema : Schema) (name : String) (relations : List Relation) :
    Result Entity := do
  let table ← tableAs schema .entity name
  relations.forM (admitRelation schema table name)
  match table.primaryKeys with
  | [key] => pure { name, table, key, relations }
  | keys => throw (.primaryKeyCount name keys.length)

def register (registry : Registry) (name : String) (relations : List Relation) :
    Result Registry :=
  if registry.frozen then throw (.registryFrozen name)
  else if registry.contains name then throw (.alreadyRegistered name)
  else do
    let entity ← admitEntity registry.schema name relations
    pure { registry with entities := registry.entities ++ [entity] }

/-- Reads the join columns of every relation, then adds the entity. -/
def declare (registry : Registry) (name : String)
    (declarations : List (String × RelationDeclaration)) : Result Registry := do
  let relations ← declarations.mapM fun declaration => declaration.2.build declaration.1
  registry.register name relations

/-- The first relation, in order of registration, whose target is not registered. -/
def firstOpenTarget? (registry : Registry) : Option (Entity × Relation) :=
  registry.entities.findSome? fun entity =>
    (entity.relations.find? fun relation => !registry.contains relation.target).map (entity, ·)

def freeze (registry : Registry) : Result Registry :=
  match registry.firstOpenTarget? with
  | some (entity, relation) =>
      throw (.unregisteredTarget (entity.name ++ "." ++ relation.name) relation.target)
  | none => pure { registry with frozen := true }

def requireFrozen (registry : Registry) : Result Unit :=
  if registry.frozen then pure () else throw .registryOpen

/-- A frozen registry of declared entities. -/
def ofDeclarations (schema : Schema)
    (entities : List (String × List (String × RelationDeclaration))) : Result Registry := do
  let registry ← entities.foldlM (fun registry entity => registry.declare entity.1 entity.2)
    ({ schema } : Registry)
  registry.freeze

/-! ## Resolution -/

def entity (registry : Registry) (name : String) : Result Entity :=
  match registry.entities.find? (·.name == name) with
  | some entity => pure entity
  | none => throw (.unknownEntity name)

def table (registry : Registry) (name : String) : Result Table :=
  tableAs registry.schema .schema name

def resolve (registry : Registry) (entity relation : String) : Result Relation := do
  let found ← registry.entity entity
  match found.relation? relation with
  | some resolved => pure resolved
  | none => throw (.unknownRelation entity relation)

/-- Resolves every node of a tree below an entity, parents before children. -/
def resolveNodes {F : Type} (registry : Registry) (entity : String) :
    RelationTree F → Result Unit
  | .nil => pure ()
  | .cons name _ children siblings => do
      let relation ← registry.resolve entity name
      let _ ← registry.entity relation.target
      registry.resolveNodes relation.target children
      registry.resolveNodes entity siblings

def resolveTree {F : Type} (registry : Registry) (entity : String) (tree : RelationTree F) :
    Result Unit := do
  let _ ← registry.entity entity
  registry.resolveNodes entity tree

end Registry

end RecordGraph

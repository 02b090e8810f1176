import RecordGraph.Execution.UnitOfWork
import RecordGraph.Insert.Rows
import RecordGraph.Plan.Fetch
import RecordGraph.Plan.Insert

/-!
Contract: the operations on the records of one entity.

Owns: graph inserts, flat inserts, fetches, patches, removals, and the operations on the records
that a relation links to one owner.
Does not own: plans, statements and transactions.

Plans are made, and values checked, before the unit of work is entered. The filters of levels are
applied later, as the queries of the levels are built. Every operation runs in one unit of work.
-/

namespace RecordGraph

open RecordGraph.Sql

structure Repository (σ : Type) where
  registry : Registry
  entity : Entity
  config : Config
  /-- The unit of work that operations run in, if there is one. -/
  scope : Option (Scope σ)
  /-- The executor of the unit of work, under a cancel event. -/
  executor : Option (σ → Bool) → Executor σ

namespace Repository

variable {σ : Type}

/-- The repository of a registered entity. The registry must be frozen. -/
def make (registry : Registry) (entity : String) (config : Config) (scope : Option (Scope σ))
    (executor : Option (σ → Bool) → Executor σ) : Result (Repository σ) := do
  let entity ← registry.entity entity
  registry.requireFrozen
  pure { registry, entity, config, scope, executor }

def lift {α : Type} (result : Result α) : Action σ α := MonadExcept.ofExcept result

def within {α : Type} (repository : Repository σ) (cancel : Option (σ → Bool))
    (body : Executor σ → Action σ α) : Action σ α :=
  match repository.scope with
  | none => throw .noUnitOfWork
  | some scope => scope.within (body (repository.executor cancel))

def lookUp (row : Record) (name : String) : Result Value :=
  match row.get? name with
  | some value => pure value
  | none => throw (.foreign (.missingEntry name))

/-- Values whose names must all be columns. -/
def columnValues (entity : Entity) (values : Record) : Result Record :=
  match values.names.filter (!entity.hasColumn ·) with
  | [] => pure values
  | unknown => throw (.unknownColumns entity.name unknown)

/-- The name that a walk through values gives, if it is not that of a column. A number names the
column at its place. -/
def unknownName? (entity : Entity) (name : Value) : Result (Option String) :=
  match name with
  | .text name => pure (if entity.hasColumn name then none else some name)
  | .list _ | .object _ => throw (.foreign .unhashableKey)
  | name =>
      match name.toInt? with
      | some place =>
          if 0 ≤ place && place < entity.table.columns.length then pure none
          else throw (.foreign .invalidComparison)
      | none => throw (.foreign .invalidComparison)

/-- The record in a value, all of whose names must be columns. -/
def readValues (entity : Entity) : Value → Result Record
  | .object fields => columnValues entity fields
  | value =>
      match value.elements? with
      | none => throw (.foreign .notIterable)
      | some names => do
          match (← names.mapM (unknownName? entity)).filterMap id with
          | [] => (← Pair.readAll value) |> Pair.toRecord
          | unknown => throw (.unknownColumns entity.name unknown)

/-- The records in a value, none if it is empty. -/
def readRecords (entity : Entity) (value : Value) : Result (List Record) :=
  if !value.truthy then pure []
  else
    match value.elements? with
    | none => throw (.foreign .notIterable)
    | some rows => rows.mapM (readValues entity)

def byKey (entity : Entity) (key : Value) : Condition :=
  Condition.equal (Term.ofColumn entity.table entity.key) key

def selectByKey (entity : Entity) (key : Value) : Select :=
  (Select.ofTable entity.table).restrict (byKey entity key)

/-! ## Inserts -/

def executeOperation (repository : Repository σ) (plan : InsertPlan) (executor : Executor σ)
    (rows : InsertPlan.Rows) (operation : Operation) : Action σ InsertPlan.Rows := do
  let values ← lift (InsertPlan.resolveValues operation rows)
  let compiled ← lift (CompiledInsert.compile operation.table [values] executor.dialect
    operation.conflict repository.config.useReturning)
  let row ← lift (compiled.contract.one (← executor.runInsert compiled))
  if row.isNone && !(plan.dependents operation.index).isEmpty then
    throw (.suppressedParent operation.table.name)
  pure (rows ++ [(operation.index, row)])

def executeInsertPlan (repository : Repository σ) (plan : InsertPlan) (executor : Executor σ) :
    Action σ InsertPlan.Rows :=
  plan.operations.foldlM (repository.executeOperation plan executor) []

/-- Inserts a nested payload and gives it back with its keys. -/
def insertGraph (repository : Repository σ) (payload : Payload) (allow : AllowSource Filter)
    (conflict : Option ConflictPolicy) (cancel : Option (σ → Bool)) : Action σ Value := do
  let plan ← lift (InsertPlan.make repository.registry repository.config repository.entity.name
    payload allow conflict)
  let rows ← repository.within cancel (repository.executeInsertPlan plan)
  pure (plan.assemble rows)

def compileAndRun (repository : Repository σ) (executor : Executor σ) (table : Table)
    (rows : List Record) (conflict : Option ConflictPolicy) :
    Action σ (CompiledInsert × List Record) := do
  let compiled ← lift (CompiledInsert.compile table rows executor.dialect conflict
    repository.config.useReturning)
  pure (compiled, ← executor.runInsert compiled)

/-- Inserts one row and gives it back, or nothing if it was suppressed. -/
def insert (repository : Repository σ) (values : Record) (conflict : Option ConflictPolicy) :
    Action σ (Option Record) := do
  let values ← lift (columnValues repository.entity values)
  repository.within none fun executor => do
    let (compiled, rows) ←
      repository.compileAndRun executor repository.entity.table [values] conflict
    lift (compiled.contract.one rows)

/-- Inserts rows in one statement and gives back those it touched. No rows need no statement. -/
def insertReturning (repository : Repository σ) (rows : List Record)
    (conflict : Option ConflictPolicy) : Action σ (List Record) := do
  if rows.isEmpty then pure []
  else
    let rows ← lift (rows.mapM (columnValues repository.entity))
    repository.within none fun executor => do
      let (compiled, touched) ←
        repository.compileAndRun executor repository.entity.table rows conflict
      pure (compiled.contract.many touched)

def insertRow (repository : Repository σ) (executor : Executor σ) (table : Table)
    (values : Record) : Action σ Record := do
  let (compiled, rows) ← repository.compileAndRun executor table [values] none
  match ← lift (compiled.contract.one rows) with
  | some row => pure row
  | none => throw .missingRow

/-! ## Fetches -/

/-- Fetches the rows of a level, unless no parent row has a key. -/
def fetchLevel (executor : Executor σ) (level : FetchLevel) (parents : List Record) :
    Action σ (List FetchLevel.KeyedRow) := do
  let keys ← lift (level.keys parents)
  let rows ←
    if keys.isEmpty then pure []
    else do executor.fetchAll (← lift (level.build keys))
  lift (level.keyedRows rows)

def fetchLevels (executor : Executor σ) (roots : List Record) (fetched : FetchPlan.LevelRows) :
    List FetchLevel → Action σ FetchPlan.LevelRows
  | [] => pure fetched
  | level :: rest => do
      let parents :=
        if level.parent = 0 then roots
        else ((fetched.lookup level.parent).getD []).map (·.2)
      let rows ← fetchLevel executor level parents
      fetchLevels executor roots (fetched ++ [(level.index, rows)]) rest

def executeFetchPlan (plan : FetchPlan) (executor : Executor σ) : Action σ (List Record) := do
  let roots ← executor.fetchAll plan.root
  let fetched ← fetchLevels executor roots [] plan.levels
  pure (plan.assemble roots fetched)

/-- Fetches the rows that a filter leaves, with eager relations nested in. -/
def fetch (repository : Repository σ) (filter : Option Filter) (eager : ExpressionSource Filter)
    (allow : AllowSource Filter) (filters : List (String × Option Filter))
    (cancel : Option (σ → Bool)) : Action σ (List Record) := do
  let plan ← lift (FetchPlan.make repository.registry repository.config repository.entity.name
    filter eager allow filters)
  repository.within cancel (executeFetchPlan plan)

/-- The row with a primary key, with eager relations nested in. -/
def findById (repository : Repository σ) (key : Value) (eager : ExpressionSource Filter)
    (allow : AllowSource Filter) (filters : List (String × Option Filter)) :
    Action σ (Option Record) := do
  if key.isNull then pure none
  else
    let filter := Filter.restrict (byKey repository.entity key)
    let rows ← repository.fetch (some filter) eager allow filters none
    pure rows.head?

/-! ## Changes by key -/

/-- Updates columns of the row with a primary key and gives the updated row. -/
def patchById (repository : Repository σ) (key : Value) (values : Record) :
    Action σ (Option Record) := do
  let values ← lift (columnValues repository.entity values)
  let entity := repository.entity
  repository.within none fun executor => do
    let missing ←
      if values.isEmpty then pure false
      else do
        let count ← executor.change
          (.update { table := entity.table, values, conditions := [byKey entity key] })
        pure (count == 0)
    if missing then pure none
    else executor.fetchOne (selectByKey entity ((values.get? entity.key.name).getD key))

/-- Removes the row with a primary key and gives the number of rows removed. -/
def deleteById (repository : Repository σ) (key : Value) : Action σ Int :=
  repository.within none fun executor =>
    executor.change
      (.delete { table := repository.entity.table, conditions := [byKey repository.entity key] })

end Repository

/-! ## Related records -/

/-- The records that a relation links to one owner. -/
structure RelatedQuery (σ : Type) where
  repository : Repository σ
  owner : Value
  relation : Relation
  target : Entity

namespace RelatedQuery

open Repository

variable {σ : Type}

/-- The records that a relation links to the owner with a primary key. -/
def make (repository : Repository σ) (owner : Value) (relation : String) :
    Result (RelatedQuery σ) := do
  let relation ← repository.registry.resolve repository.entity.name relation
  let target ← repository.registry.entity relation.target
  pure { repository, owner, relation, target }

/-- The row with a primary key; null is no key. -/
def load (executor : Executor σ) (entity : Entity) (key : Value) : Action σ (Option Record) :=
  if key.isNull then pure none else executor.fetchOne (selectByKey entity key)

def loadOwner (query : RelatedQuery σ) (executor : Executor σ) : Action σ (Option Record) :=
  load executor query.repository.entity query.owner

/-- The related rows, narrowed by a filter; nothing if there is no owner row. -/
def fetch (query : RelatedQuery σ) (filter : Option Filter) : Action σ (Option (List Record)) :=
  query.repository.within none fun executor => do
    match ← query.loadOwner executor with
    | none => pure none
    | some owner =>
        let key := owner.getD query.relation.sourceKey.column
        if key.isNull then pure (some [])
        else
          let level ← lift (FetchPlan.levelFor query.repository.registry
            query.repository.config query.relation query.relation.name 0 1 filter)
          let rows ← executor.fetchAll (← lift (level.build [key]))
          pure (some (rows.map level.visible))

/-- Links a target row to the owner by a join row, or by the owner's own foreign key. -/
def link (query : RelatedQuery σ) (executor : Executor σ) (owner target : Record) :
    Action σ Unit := do
  let relation := query.relation
  match relation.kind, relation.through with
  | .belongsToOne, _ =>
      let entity := query.repository.entity
      let key ← lift (lookUp target relation.targetKey.column)
      let _ ← executor.change (.update {
        table := entity.table, values := [(relation.sourceKey.column, key)]
        conditions := [byKey entity query.owner] })
  | _, none => throw (.missingThrough relation.name)
  | _, some through =>
      let table ← lift (query.repository.registry.table through.table)
      let source ← lift (lookUp owner relation.sourceKey.column)
      let destination ← lift (lookUp target relation.targetKey.column)
      let values := Record.set through.target.column destination
        [(through.source.column, source)]
      let _ ← query.repository.insertRow executor table values

/-- Inserts a related row and links it to the owner. -/
def insert (query : RelatedQuery σ) (values : Record) : Action σ (Option Record) := do
  let values ← lift (columnValues query.target values)
  query.repository.within none fun executor => do
    match ← query.loadOwner executor with
    | none => pure none
    | some owner =>
        let key ← lift (lookUp owner query.relation.sourceKey.column)
        match query.relation.kind with
        | .hasMany =>
            let values := values.set query.relation.targetKey.column key
            some <$> query.repository.insertRow executor query.target.table values
        | _ =>
            let row ← query.repository.insertRow executor query.target.table values
            query.link executor owner row
            pure (some row)

/-- Links the row with a primary key to the owner and gives it back. -/
def relate (query : RelatedQuery σ) (targetKey : Value) : Action σ (Option Record) :=
  query.repository.within none fun executor => do
    match ← query.loadOwner executor with
    | none => pure none
    | some owner =>
        match ← load executor query.target targetKey with
        | none => pure none
        | some target =>
            match query.relation.kind with
            | .hasMany =>
                let key ← lift (lookUp owner query.relation.sourceKey.column)
                let _ ← executor.change (.update {
                  table := query.target.table
                  values := [(query.relation.targetKey.column, key)]
                  conditions := [byKey query.target targetKey] })
                load executor query.target targetKey
            | _ =>
                query.link executor owner target
                pure (some target)

end RelatedQuery

end RecordGraph

import RecordGraph.Config
import RecordGraph.Expression.AllowList
import RecordGraph.Filter
import RecordGraph.Schema.Registry

/-!
Contract: plans of eager fetches.

Owns: `FetchLevel`, `FetchPlan`, the plan of a relation tree, and the nesting of fetched rows.
Does not own: execution of the queries.

A plan has one query for the root rows and one level for each node of the relation tree, breadth
first. A level selects the related rows of all its parent rows at once. Afterwards the rows of a
level belong to the parent rows whose owner column equals their match column.
-/

namespace RecordGraph

open RecordGraph.Sql

structure FetchLevel where
  index : Nat
  /-- The level of the parent rows; the root rows are level zero. -/
  parent : Nat
  path : String
  relation : Relation
  entity : Entity
  /-- Read from the parent rows. -/
  ownerColumn : String
  /-- Read from the level's rows. -/
  matchColumn : String
  statement : Select
  keyTerm : Term
  filter : Option Filter := none
  /-- Selected only to find the parents, and dropped afterwards. -/
  hidden : Option String := none
deriving Repr, Inhabited

namespace FetchLevel

/-- Adds a key at the end unless an equal one is there. -/
def addKey (keys : List Value) (key : Value) : List Value :=
  if keys.any key.same then keys else keys ++ [key]

/-- The distinct keys of parent rows, in row order, after those seen. -/
def keysFrom (level : FetchLevel) (seen : List Value) : List Record → Result (List Value)
  | [] => pure seen
  | row :: rest =>
      let key := row.getD level.ownerColumn
      if key.isNull then level.keysFrom seen rest
      else if key.isKey then level.keysFrom (addKey seen key) rest
      else throw (.foreign .unhashableKey)

/-- The distinct keys of parent rows that are not null, in row order. -/
def keys (level : FetchLevel) (parents : List Record) : Result (List Value) :=
  level.keysFrom [] parents

def build (level : FetchLevel) (keys : List Value) : Result Select :=
  Filter.applyOptional level.filter (level.statement.restrict (.among level.keyTerm keys))

/-- Drops what is selected only to find the parents. -/
def visible (level : FetchLevel) (row : Record) : Record :=
  match level.hidden with
  | some label => row.erase label
  | none => row

/-- A row of a level, by the key of its parents. -/
abbrev KeyedRow := Value × Record

/-- The key of the parents of a row, and what the row shows. -/
def keyed (level : FetchLevel) (row : Record) : Result KeyedRow :=
  match row.get? level.matchColumn with
  | none => throw (.foreign (.missingEntry level.matchColumn))
  | some key => if key.isKey then pure (key, level.visible row) else throw (.foreign .unhashableKey)

def keyedRows (level : FetchLevel) (rows : List Record) : Result (List KeyedRow) :=
  rows.mapM level.keyed

/-- The rows as they are after nesting: unchanged if one of them has no usable key. -/
def remaining (level : FetchLevel) (rows : List Record) : List Record :=
  match level.keyedRows rows with
  | .ok keyed => keyed.map (·.2)
  | .error _ => rows

/-- The rows that belong to a parent row. -/
def matching (level : FetchLevel) (rows : List KeyedRow) (parent : Record) : List Record :=
  let key := parent.getD level.ownerColumn
  (rows.filter fun row => key.same row.1).map (·.2)

/-- What a relation holds: every row of a collection, the first row otherwise. -/
def nestedValue (kind : RelationKind) (rows : List Record) : Value :=
  if kind.isCollection then .list (rows.map Value.object)
  else
    match rows with
    | [] => .null
    | row :: _ => .object row

/-- Nests the rows that belong to a parent row into it. -/
def nestRows (level : FetchLevel) (related : List Record) (parent : Record) : Record :=
  parent.set level.relation.name (nestedValue level.relation.kind related)

def attach (level : FetchLevel) (parents rows : List Record) : Result (List Record) := do
  let keyed ← level.keyedRows rows
  parents.mapM fun parent =>
    if (parent.getD level.ownerColumn).isKey then
      pure (level.nestRows (level.matching keyed parent) parent)
    else throw (.foreign .unhashableKey)

end FetchLevel

structure FetchPlan where
  entity : Entity
  root : Select
  levels : List FetchLevel := []
deriving Repr, Inhabited

namespace FetchPlan

def size (plan : FetchPlan) : Nat := plan.levels.length + 1

/-! ## Depth -/

/-- The depth of each level, given the depths of the earlier ones with the root first. -/
def depthsFrom (depths : List Nat) : List FetchLevel → List Nat
  | [] => depths
  | level :: rest => depthsFrom (depths ++ [depths.getD level.parent 0 + 1]) rest

/-- The levels by depth, shallowest first. -/
def groups (plan : FetchPlan) : List (List FetchLevel) :=
  let depths := depthsFrom [0] plan.levels
  (List.range (depths.foldl max 0)).map fun depth =>
    plan.levels.filter fun level => depths.getD level.index 0 = depth + 1

/-! ## Planning -/

def columnOf (table : Table) (name : String) : Result Column :=
  match table.column? name with
  | some column => pure column
  | none => throw (.foreign (.missingEntry name))

/-- The level that loads a relation. -/
def levelFor (registry : Registry) (config : Config) (relation : Relation) (path : String)
    (parent index : Nat) (filter : Option Filter) : Result FetchLevel := do
  let entity ← registry.entity relation.target
  match relation.kind with
  | .manyToMany =>
      match relation.through with
      | none => throw (.missingThrough path)
      | some through => do
          let table ← registry.table through.table
          let owner ← columnOf table through.source.column
          let link ← columnOf table through.target.column
          let key ← columnOf entity.table relation.targetKey.column
          let label := config.correlationLabel
          let join : Join := { through := table, owner, link := link.name, key := key.name, label }
          pure {
            index, parent, path, relation, entity, filter
            ownerColumn := relation.sourceKey.column, matchColumn := label
            statement := { table := entity.table, join := some join }
            keyTerm := Term.ofColumn table owner, hidden := some label }
  | _ => do
      let key ← columnOf entity.table relation.targetKey.column
      pure {
        index, parent, path, relation, entity, filter
        ownerColumn := relation.sourceKey.column, matchColumn := key.name
        statement := .ofTable entity.table, keyTerm := Term.ofColumn entity.table key }

/-- A node whose level is still to be planned. -/
structure Pending where
  node : RelationTree.Node Filter
  parent : Nat
  owner : String

/-- The levels of the nodes of one depth. -/
def levelsOf (registry : Registry) (config : Config) : (next : Nat) → List Pending →
    Result (List FetchLevel)
  | _, [] => pure []
  | next, pending :: rest => do
      let relation ← registry.resolve pending.owner pending.node.name
      let level ← levelFor registry config relation pending.node.path pending.parent next
        pending.node.filter
      pure (level :: (← levelsOf registry config (next + 1) rest))

def pendingBelow (pending : List Pending) (levels : List FetchLevel) : List Pending :=
  (pending.zip levels).flatMap fun (pending, level) =>
    (pending.node.children.nodes pending.node.path).map fun node =>
      ⟨node, level.index, level.entity.name⟩

/-- The levels of nodes and of everything below them, at most `depth` levels deep. -/
def levelsFrom (registry : Registry) (config : Config) : (depth next : Nat) → List Pending →
    Result (List FetchLevel)
  | 0, _, _ => pure []
  | depth + 1, next, pending => do
      let levels ← levelsOf registry config next pending
      let deeper ← levelsFrom registry config depth (next + levels.length)
        (pendingBelow pending levels)
      pure (levels ++ deeper)

/-- The tree with per-call filters attached. A filter for a path that was not requested is an
error only under strict settings. -/
def withFilters (config : Config) (tree : RelationTree Filter)
    (filters : List (String × Option Filter)) : Result (RelationTree Filter) :=
  let (tree, unmatched) := tree.attachFilters filters
  match unmatched with
  | path :: _ => if config.strictEagerFilters then throw (.unmatchedFilter path) else pure tree
  | [] => pure tree

def make (registry : Registry) (config : Config) (entity : String) (filter : Option Filter)
    (eager : ExpressionSource Filter) (allow : AllowSource Filter)
    (filters : List (String × Option Filter)) : Result FetchPlan := do
  let found ← registry.entity entity
  let tree ← eager.read
  let allow ← allow.read
  allow.check tree
  registry.resolveTree entity tree
  let tree ← withFilters config tree filters
  let root ← Filter.applyOptional filter (.ofTable found.table)
  let pending := (tree.nodes "").map fun node => { node, parent := 0, owner := found.name }
  let levels ← levelsFrom registry config tree.height 1 pending
  pure { entity := found, root, levels }

/-! ## Nesting -/

abbrev LevelRows := List (Nat × List FetchLevel.KeyedRow)

/-- Nests into a row of a level the rows below it, at most `depth` levels deep. -/
def complete (plan : FetchPlan) (fetched : LevelRows) : (depth index : Nat) → Record → Record
  | 0, _, row => row
  | depth + 1, index, row =>
      (plan.levels.filter fun level => level.parent = index).foldl (fun row level =>
        let related := level.matching ((fetched.lookup level.index).getD []) row
        level.nestRows (related.map (plan.complete fetched depth level.index)) row) row

/-- The root rows with the rows of every level nested in. -/
def assemble (plan : FetchPlan) (roots : List Record) (fetched : LevelRows) : List Record :=
  roots.map (plan.complete fetched plan.levels.length 0)

end FetchPlan

end RecordGraph

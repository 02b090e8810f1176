import RecordGraph.Config
import RecordGraph.Expression.AllowList
import RecordGraph.Filter
import RecordGraph.Insert.Policy
import RecordGraph.Payload.Basic
import RecordGraph.Schema.Registry

/-!
Contract: plans of graph inserts.

Owns: `Operation`, `InsertPlan`, the walk from payloads to plans, and the assembly of inserted rows
into the shape of the payload.
Does not own: the statements of operations, and their execution.

A plan lists single-row inserts so that each comes after the ones whose keys it needs. A record is
planned in this order: the records it belongs to; the record itself; the records it has; and of a
many-to-many relation each record, followed by the join row that links it.
-/

namespace RecordGraph

inductive OperationKind where
  | entity
  | through
deriving DecidableEq, Repr, Inhabited

/-- Copies a column of an earlier operation's row. -/
structure Backfill where
  column : String
  source : Nat
  sourceColumn : String
deriving DecidableEq, Repr, Inhabited

structure Operation where
  index : Nat
  kind : OperationKind
  table : Table
  values : Record
  backfills : List Backfill := []
  entity : Option String := none
  path : String := ""
  conflict : Option ConflictPolicy := none
deriving Repr, Inhabited

namespace Operation

/-- The operations whose rows an operation needs, in ascending order. -/
def sources (operation : Operation) : List Nat :=
  (operation.backfills.map (·.source)).foldr insertNumber []
where
  /-- Adds a number to an ascending list without repetition. -/
  insertNumber (number : Nat) : List Nat → List Nat
    | [] => [number]
    | other :: rest =>
        if number < other then number :: other :: rest
        else if number = other then other :: rest
        else other :: insertNumber number rest

end Operation

/-- Where the rows of records go in the row of the record that holds them. -/
structure Attachment where
  parent : Nat
  key : String
  many : Bool
  children : List Nat
deriving DecidableEq, Repr, Inhabited

structure InsertPlan where
  operations : List Operation := []
  attachments : List Attachment := []
  roots : List Nat := []
  /-- Whether the payload was a list of records. -/
  many : Bool := false
deriving Repr, Inhabited

/-! ## Planning -/

/-- The part of a plan that belongs to one record. -/
structure Fragment where
  operations : List Operation
  attachments : List Attachment
  root : Nat
deriving Repr, Inhabited

/-- What planning depends on besides the payload. -/
structure InsertContext where
  registry : Registry
  allow : AllowList Filter
  maxDepth : Nat

/-- A relation key of a record, resolved. -/
structure RelationEntry where
  key : String
  relation : Relation
  path : String
  payload : Payload

/-- The record's identity among its ancestors: its entity and its primary key. -/
abbrev RecordKey := String × Value

/-- Equality of identities, as pairs. -/
def RecordKey.same (left right : RecordKey) : Bool :=
  left.1 == right.1 && left.2.alike right.2

namespace InsertContext

/-- The fields of an object that may stand at a place, and its identity. -/
def openRecord (context : InsertContext) (entity : Entity) (payload : Payload) (path : String)
    (remaining : Nat) (ancestors : List RecordKey) :
    Result (List (String × Payload) × Option RecordKey) :=
  match payload with
  | .object fields =>
      if remaining = 0 then throw (.tooDeep context.maxDepth path)
      else
        let key := ((fields.lookup entity.key.name).map Payload.toValue).getD .null
        if key.isNull then pure (fields, none)
        else if ancestors.any (RecordKey.same (entity.name, key)) then throw (.reappears path)
        else pure (fields, some (entity.name, key))
  | .again =>
      if remaining = 0 then throw (.tooDeep context.maxDepth path) else throw (.reappears path)
  | _ => throw (.expectedObject entity.name path payload.kindName)

def resolveEntries (context : InsertContext) (entity : Entity) (path : String)
    (related : List (String × Payload)) : Result (List RelationEntry) :=
  related.mapM fun (key, payload) => do
    let relation ← context.registry.resolve entity.name key
    let path := extendPath path key
    context.allow.checkPath path
    pure { key, relation, path, payload }

/-- Plans a record of an entity at a path, with backfills that link it, from an operation number
on. -/
abbrev Planner := Entity → Payload → String → List Backfill → Nat → Result Fragment

/-- What planning the relations of a record yields: parts of the plan, and the operations of the
related records by key. -/
structure Relatives where
  operations : List Operation := []
  attachments : List Attachment := []
  children : List (String × List Nat) := []
  backfills : List Backfill := []

/-- Plans the records that a record belongs to. Their keys are backfilled into the record. -/
def planOwners (context : InsertContext) (plan : Planner) :
    (next : Nat) → List RelationEntry → Result Relatives
  | _, [] => pure {}
  | next, entry :: rest =>
      match entry.relation.kind with
      | .belongsToOne =>
          if entry.payload.isNull then do
            let others ← context.planOwners plan next rest
            pure { others with children := (entry.key, []) :: others.children }
          else
            match entry.payload with
            | .object _ | .again => do
                let target ← context.registry.entity entry.relation.target
                let fragment ← plan target entry.payload entry.path [] next
                let others ← context.planOwners plan (next + fragment.operations.length) rest
                let link : Backfill := {
                  column := entry.relation.sourceKey.column, source := fragment.root,
                  sourceColumn := entry.relation.targetKey.column }
                pure {
                  operations := fragment.operations ++ others.operations
                  attachments := fragment.attachments ++ others.attachments
                  children := (entry.key, [fragment.root]) :: others.children
                  backfills := link :: others.backfills }
            | _ => throw (.expectedSingle entry.path)
      | _ => context.planOwners plan next rest

/-- The join row that links a record to its owner. -/
def joinRow (context : InsertContext) (entry : RelationEntry) (owner member index : Nat) :
    Result Operation :=
  match entry.relation.through with
  | none => throw (.missingThrough entry.path)
  | some through => do
      let table ← context.registry.table through.table
      pure {
        index, kind := .through, table, values := [], path := entry.path
        backfills := [
          ⟨through.source.column, owner, entry.relation.sourceKey.column⟩,
          ⟨through.target.column, member, entry.relation.targetKey.column⟩] }

/-- Plans the records of a collection in order, each with what links it to its owner. -/
def planMembers (context : InsertContext) (plan : Planner) (entry : RelationEntry)
    (target : Entity) (owner : Nat) : (next : Nat) → List Payload →
    Result (List Operation × List Attachment × List Nat)
  | _, [] => pure ([], [], [])
  | next, item :: rest =>
      match entry.relation.kind with
      | .manyToMany => do
          let fragment ← plan target item entry.path [] next
          let position := next + fragment.operations.length
          let row ← context.joinRow entry owner fragment.root position
          let (operations, attachments, children) ←
            context.planMembers plan entry target owner (position + 1) rest
          pure (fragment.operations ++ row :: operations,
            fragment.attachments ++ attachments, fragment.root :: children)
      | _ => do
          let link : Backfill :=
            ⟨entry.relation.targetKey.column, owner, entry.relation.sourceKey.column⟩
          let fragment ← plan target item entry.path [link] next
          let (operations, attachments, children) ←
            context.planMembers plan entry target owner
              (next + fragment.operations.length) rest
          pure (fragment.operations ++ operations,
            fragment.attachments ++ attachments, fragment.root :: children)

/-- The items of a collection: nothing, one object, or a list. -/
def collectionItems (payload : Payload) (path : String) : Result (List Payload) :=
  match payload with
  | .object _ | .again => pure [payload]
  | .list items => pure items
  | .scalar .null => pure []
  | .scalar _ => throw (.expectedObjects path)

def planCollections (context : InsertContext) (plan : Planner) (owner : Nat) :
    (next : Nat) → List RelationEntry → Result Relatives
  | _, [] => pure {}
  | next, entry :: rest =>
      match entry.relation.kind with
      | .belongsToOne => context.planCollections plan owner next rest
      | _ => do
          let items ← collectionItems entry.payload entry.path
          let target ← context.registry.entity entry.relation.target
          let (operations, attachments, children) ←
            context.planMembers plan entry target owner next items
          let others ← context.planCollections plan owner (next + operations.length) rest
          pure {
            operations := operations ++ others.operations
            attachments := attachments ++ others.attachments
            children := (entry.key, children) :: others.children }

def ownedColumns (entries : List RelationEntry) : List String :=
  (entries.filter fun entry =>
      entry.relation.kind = .belongsToOne && !entry.payload.isNull).map
    fun entry => entry.relation.sourceKey.column

/-- Plans a record below its ancestors, at most `remaining` records deep. -/
def planRecord (context : InsertContext) (conflict : Option ConflictPolicy) :
    (remaining : Nat) → (ancestors : List RecordKey) → Planner
  | 0, ancestors, entity, payload, path, _, _ => do
      let _ ← context.openRecord entity payload path 0 ancestors
      throw (.tooDeep context.maxDepth path)
  | remaining + 1, ancestors, entity, payload, path, inbound, next => do
      let (fields, key) ← context.openRecord entity payload path (remaining + 1) ancestors
      let (values, related) := fields.partition fun field => entity.hasColumn field.1
      let entries ← context.resolveEntries entity path related
      let plan := context.planRecord none remaining (key.toList ++ ancestors)
      let owners ← context.planOwners plan next entries
      let index := next + owners.operations.length
      let owned := ownedColumns entries
      let operation : Operation := {
        index, kind := .entity, table := entity.table
        values := (Payload.toFields values).filter fun field => !owned.contains field.1
        backfills := inbound ++ owners.backfills
        entity := some entity.name, path, conflict }
      let members ← context.planCollections plan index (index + 1) entries
      let children := owners.children ++ members.children
      let own := entries.map fun entry => {
        parent := index, key := entry.key, many := entry.relation.kind.isCollection
        children := (children.lookup entry.key).getD [] : Attachment }
      pure {
        operations := owners.operations ++ operation :: members.operations
        attachments := owners.attachments ++ members.attachments ++ own
        root := index }

def planRoots (context : InsertContext) (entity : Entity) (conflict : Option ConflictPolicy) :
    (next : Nat) → List Payload → Result (List Operation × List Attachment × List Nat)
  | _, [] => pure ([], [], [])
  | next, payload :: rest => do
      let fragment ← context.planRecord conflict context.maxDepth [] entity payload "" [] next
      let (operations, attachments, roots) ←
        context.planRoots entity conflict (next + fragment.operations.length) rest
      pure (fragment.operations ++ operations, fragment.attachments ++ attachments,
        fragment.root :: roots)

end InsertContext

namespace InsertPlan

/-- The root records of a payload, and whether they are a list. A text is a list of its
characters. -/
def rootRecords : Payload → Result (Bool × List Payload)
  | .list items => pure (true, items)
  | .scalar (.text chars) =>
      pure (true, chars.toList.map fun c => .scalar (.text (String.singleton c)))
  | .scalar _ => throw (.foreign .notIterable)
  | payload => pure (false, [payload])

/-- Plans the insert of a payload. The conflict policy is that of the root records. -/
def make (registry : Registry) (config : Config) (entity : String) (payload : Payload)
    (allow : AllowSource Filter) (conflict : Option ConflictPolicy) : Result InsertPlan := do
  let allow ← allow.read
  let root ← registry.entity entity
  let (many, records) ← rootRecords payload
  let context : InsertContext := { registry, allow, maxDepth := config.maxPayloadDepth }
  let (operations, attachments, roots) ← context.planRoots root conflict 0 records
  pure { operations, attachments, roots, many }

/-! ## Order -/

def dependents (plan : InsertPlan) (index : Nat) : List Operation :=
  plan.operations.filter fun operation => operation.sources.contains index

/-- One more than the greatest depth of the operations that an operation needs. -/
def depthAfter (depths : List Nat) (operation : Operation) : Nat :=
  (operation.sources.map fun source => depths.getD source 0 + 1).foldl max 0

/-- The depths of operations in order, given those of the earlier ones. -/
def depthsFrom (depths : List Nat) : List Operation → List Nat
  | [] => depths
  | operation :: rest => depthsFrom (depths ++ [depthAfter depths operation]) rest

def depths (plan : InsertPlan) : List Nat :=
  depthsFrom [] plan.operations

/-- Batches of operations none of which needs another one of its batch. -/
def levels (plan : InsertPlan) : List (List Operation) :=
  let depths := plan.depths
  let count := (depths.map (· + 1)).foldl max 0
  (List.range count).map fun level =>
    plan.operations.filter fun operation => depths.getD operation.index 0 = level

/-! ## Execution and assembly -/

/-- Rows by operation; a suppressed insert has none. -/
abbrev Rows := List (Nat × Option Record)

def rowOf (rows : Rows) (index : Nat) : Option Record :=
  (rows.lookup index).join

def applyBackfill (rows : Rows) (operation : Operation) (values : Record)
    (backfill : Backfill) : Result Record :=
  match rowOf rows backfill.source with
  | none => throw (.missingSource operation.table.name backfill.column backfill.source)
  | some row =>
      match row.get? backfill.sourceColumn with
      | none => throw (.foreign (.missingEntry backfill.sourceColumn))
      | some value => pure (values.set backfill.column value)

def resolveValues (operation : Operation) (rows : Rows) : Result Record :=
  operation.backfills.foldlM (applyBackfill rows operation) operation.values

/-- The rows of the records, before any is nested into another. -/
def ownRows (plan : InsertPlan) (rows : Rows) : Rows :=
  (plan.operations.filter (·.kind = .entity)).map fun operation =>
    (operation.index, rowOf rows operation.index)

def setRow (index : Nat) (row : Record) : Rows → Rows
  | [] => []
  | (other, old) :: rest =>
      if other = index then (other, some row) :: rest else (other, old) :: setRow index row rest

def optionValue : Option Record → Value
  | some row => .object row
  | none => .null

def attachedValue (rows : Rows) (attachment : Attachment) : Value :=
  if attachment.many then
    .list ((attachment.children.filterMap (rowOf rows)).map Value.object)
  else
    match attachment.children with
    | [] => .null
    | child :: _ => optionValue (rowOf rows child)

/-- Nests rows into the row of the record that holds them, if it has one. -/
def attach (rows : Rows) (attachment : Attachment) : Rows :=
  match rowOf rows attachment.parent with
  | none => rows
  | some parent =>
      setRow attachment.parent (parent.set attachment.key (attachedValue rows attachment)) rows

def assemble (plan : InsertPlan) (rows : Rows) : Value :=
  let nested := plan.attachments.foldl attach (plan.ownRows rows)
  let results := plan.roots.map fun root => optionValue (rowOf nested root)
  if plan.many then .list results else results.headD .null

end InsertPlan

end RecordGraph

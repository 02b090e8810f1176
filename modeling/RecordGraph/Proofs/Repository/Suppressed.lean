import RecordGraph.Proofs.Plan.Levels
import RecordGraph.Proofs.Plan.Reassembly
import RecordGraph.Proofs.Repository.Bulk

/-!
Contract: what a graph insert that ignores collisions has stored where a root record is suppressed.

Owns: `Insertion`, the rows that the operations of a plan add one after the other, and that all
records to which a suppressed root record belongs are stored.
Does not own: when a row collides with a stored one.

A record is inserted after the records it belongs to. By the time it is known that it is suppressed
they are stored, and nothing looks at them again. Only operations that need the suppressed row are
looked for, and an insert is given up if there are any.
-/

namespace RecordGraph

open RecordGraph.Sql

/-! ## Inserts that overwrite nothing -/

/-- An operation that was carried out, the row that it was answered with, and the rows that it has
added to its table. -/
structure Insertion where
  operation : Operation
  row : Option Record
  added : List StoredRow

/-- What an operation leaves for the others. -/
def Insertion.entry (insertion : Insertion) : Nat × Option Record :=
  (insertion.operation.index, insertion.row)

/-- What is known of an operation of a plan that was carried out, when rows are asked for or not. -/
structure Insertion.Settled (plan : InsertPlan) (returning : Bool) (insertion : Insertion) :
    Prop where
  atMostOne : insertion.added.length ≤ 1
  plain : insertion.operation.conflict = none → insertion.added.length = 1
  unanswered : insertion.added = [] → insertion.row = none
  asked : returning = true → insertion.row = none → insertion.added = []
  /-- Otherwise the whole insert is given up. -/
  unneeded : insertion.row = none → plan.dependents insertion.operation.index = []

/-- Whether insertions take tables to others, each adding its rows to the table of its operation. -/
inductive Fills (plan : InsertPlan) (returning : Bool) :
    List StoredTable → List Insertion → List StoredTable → Prop where
  | done (tables : List StoredTable) : Fills plan returning tables [] tables
  | next {before middle after : List StoredTable} {insertion : Insertion}
      {rest : List Insertion} (settled : insertion.Settled plan returning)
      (gains : Gains insertion.operation.table before middle insertion.added)
      (others : Fills plan returning middle rest after) :
      Fills plan returning before (insertion :: rest) after

theorem Fills.settled {plan : InsertPlan} {returning : Bool} {before after : List StoredTable}
    {insertions : List Insertion} (fills : Fills plan returning before insertions after) :
    ∀ insertion ∈ insertions, insertion.Settled plan returning := by
  induction fills with
  | done tables => exact fun _ member => absurd member List.not_mem_nil
  | next settled gains others inductionHypothesis =>
      exact List.forall_mem_cons.2 ⟨settled, inductionHypothesis⟩

namespace Repository

open Database InsertPlan

section Runs

variable {registry : Registry} {entity : Entity} {config : Config} {returning : Bool}
variable {saved : List StoredTable} {state after : UnitState Database}
variable {table : Table} {values : Record} {policy : Option ConflictPolicy} {row : Option Record}

variable {plan : InsertPlan} {rows rows' : Rows}

end Runs

end Repository

/-! ## The part of a root record -/

namespace RootPart

variable {registry : Registry} {conflict : Option ConflictPolicy} {spot : Spot} {part : RootPart}

end RootPart

namespace InsertPlan

variable {registry : Registry} {conflict : Option ConflictPolicy} {root : Entity}
  {records : List Payload} {plan : InsertPlan} {parts : List RootPart} {rows : Rows}

end InsertPlan

namespace Repository

open Database InsertPlan

section Suppressed

variable {registry : Registry} {conflict : Option ConflictPolicy} {root : Entity}
  {records : List Payload} {plan : InsertPlan} {parts : List RootPart} {returning : Bool}
  {insertions : List Insertion}

variable {part : RootPart} {record : Payload}

end Suppressed

end Repository

/-! ## A parent without its child -/

namespace Family

open Repository Database

def jo : StoredRow where
  number := 7
  cells := [("id", .int 7), ("name", .text "Jo"), ("parentId", .null)]

def gary : StoredRow where
  number := 8
  cells := [("id", .int 8), ("name", .text "Gary"), ("parentId", .null)]

/-- The tables with some persons. -/
def peopled (people : List StoredRow) : List StoredTable :=
  [{ table := personTable, rows := people }, { table := tagTable }, { table := labelTable }]

/-- A database in which only Jo is stored. -/
def home : Database where
  store := { tables := peopled [jo], lastNumber := 7 }

theorem home_sound : home.Sound registry.schema where
  tables := by
    have inserted : Insert.insertAll ⟨personTable, [], .nothing, false⟩ (Store.empty registry.schema)
        [[("id", .int 7), ("name", .text "Jo")]] = .ok (home.store, [jo]) := rfl
    have isPerson : registry.schema.table? personTable.name = some personTable := rfl
    exact Insert.sound_insertAll isPerson (Store.sound_empty registry.schema) inserted
  saved := nofun

/-- Jo, who is stored, with a parent, who is not. -/
def joOfGary : Payload :=
  .object [("id", .scalar (.int 7)), ("parent", .object [("name", .scalar (.text "Gary"))])]

theorem joOfGary_inserted :
    outcome ((handing registry person {} true).insertGraph joOfGary (.expression .absent)
      (some (.ignore [])) none) home = (.ok .null, peopled [jo, gary]) := rfl

/-- Null is given for the only root record, but its parent was not stored before and is now. -/
theorem suppressed_leaves_parent :
    home.Sound registry.schema ∧
      outcome ((handing registry person {} true).insertGraph joOfGary (.expression .absent)
        (some (.ignore [])) none) home = (.ok .null, peopled [jo, gary]) ∧
      gary ∉ (personTable.among home.store.tables).rows ∧
      gary ∈ (personTable.among (peopled [jo, gary])).rows := by
  refine ⟨home_sound, joOfGary_inserted, fun member => ?_, List.mem_of_getElem? (rfl : _[1]? = _)⟩
  have isJo : gary = jo := List.mem_singleton.1 member
  exact absurd (congrArg StoredRow.number isJo) (by decide)

end Family

end RecordGraph

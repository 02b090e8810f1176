import RecordGraph.Execution.Executor
import RecordGraph.Sql.Render
import RecordGraph.Store.Basic

/-!
Contract: the effect of statements on a store.

Owns: truth of conditions, selection, insertion with conflict clauses, updates and deletions.
Does not own: parameters that cannot be bound, and transactions; `RecordGraph.Store.Database` has
them.

A selection reads the rows of its table by number or by a key, keeps those of which every condition
is true, and sorts them stably. A comparison with null is not true. A statement that fails leaves
the store as it was.
-/

namespace RecordGraph

open RecordGraph.Sql

/-! ## Conditions -/

/-- Draws the operand of a comparison towards the column that it is compared with. -/
def Cell.operand (type : ColumnType) (cell : Cell) : Cell :=
  match type.affinity with
  | .text => cell.drawn .text
  | _ => cell.numeric

def Sql.Comparison.holds (comparison : Comparison) (left right : Cell) : Bool :=
  match comparison with
  | .equal => left.order right == .eq
  | .unequal => left.order right != .eq
  | .greater => left.order right == .gt
  | .greaterEqual => left.order right != .lt
  | .less => left.order right == .lt
  | .lessEqual => left.order right != .gt
  | .like | .ilike => left.isLike right

namespace Sql.Condition

/-- Truth of a comparison, which null never has. -/
def compareCells (comparison : Comparison) (type : ColumnType) (cell parameter : Cell) : Bool :=
  if cell == .null || parameter == .null then false
  else
    match comparison with
    | .like | .ilike => comparison.holds cell parameter
    | _ => comparison.holds cell (parameter.operand type)

/-- The cells of a list of members, all bound as the type of the first. -/
def memberCells (type : ColumnType) (values : List Value) : List Cell :=
  let bound :=
    match values with
    | [] => type
    | first :: _ => comparedType type first
  values.map fun value => (Cell.ofParameter bound value).operand type

/-- Truth of a condition for the cells of a row. -/
def holds (cellOf : ColumnRef → Cell) : Condition → Bool
  | .isNull term => cellOf term.column == .null
  | .isNotNull term => !(cellOf term.column == .null)
  | .isFlag term flag =>
      compareCells .equal term.type (cellOf term.column) (.int (if flag then 1 else 0))
  | .isNotFlag term flag =>
      compareCells .unequal term.type (cellOf term.column) (.int (if flag then 1 else 0))
  | .compare comparison term value =>
      compareCells comparison term.type (cellOf term.column)
        (Cell.ofParameter (comparedType term.type value) value)
  | .among term values =>
      let cell := cellOf term.column
      !(cell == .null) && (memberCells term.type values).any fun member =>
        !(member == .null) && cell.sameAs member
  | .notAmong term values =>
      let cell := cellOf term.column
      let members := memberCells term.type values
      values.isEmpty || (!(cell == .null) && members.all fun member =>
        !(member == .null) && !cell.sameAs member)

end Sql.Condition

/-! ## Reading order -/

/-- The order in which the rows of a table are read. -/
inductive ReadingOrder where
  | byNumber
  /-- By columns that make up a key. -/
  | byKey (columns : List String)
  | backwards
deriving DecidableEq, Repr, Inhabited

def keyBefore (columns : List String) (left right : StoredRow) : Bool :=
  match columns with
  | [] => true
  | column :: rest =>
      match (left.cell column).order (right.cell column) with
      | .lt => true
      | .gt => false
      | .eq => keyBefore rest left right

/-- Rows, given by number, in a reading order. -/
def ReadingOrder.read (order : ReadingOrder) (rows : List StoredRow) : List StoredRow :=
  match order with
  | .byNumber => rows
  | .byKey columns => rows.mergeSort (keyBefore columns)
  | .backwards => rows.reverse

namespace Sql.Condition

/-- The column that a condition narrows to a list of values. -/
def listed? : Condition → Option ColumnRef
  | .among term _ => some term.column
  | _ => none

/-- The column that a condition narrows to a range. -/
def ranged? : Condition → Option ColumnRef
  | .compare .greater term _ | .compare .greaterEqual term _ | .compare .less term _
  | .compare .lessEqual term _ => some term.column
  | _ => none

end Sql.Condition

namespace Sql.Select

/-- The keys of a selection's table that do not number its rows, those of one column first. -/
def readableKeys (select : Select) : List (List String) :=
  let keys := select.table.checkedKeys
  keys.filter (·.length = 1) ++ keys.filter (1 < ·.length)

/-- Whether conditions narrow a column of a selection's table. -/
def narrows (select : Select) (narrowed : Condition → Option ColumnRef) (column : String) : Bool :=
  (select.conditions.filterMap narrowed).contains ⟨select.table.name, column⟩

/-- Whether conditions narrow the numbers of rows. -/
def narrowsNumber (select : Select) (narrowed : Condition → Option ColumnRef) : Bool :=
  (select.table.numberedKey?.map (·.name)).any (select.narrows narrowed)

/-- The key whose first column conditions narrow, unless it numbers the rows. -/
def narrowedKey? (select : Select) (narrowed : Condition → Option ColumnRef) :
    Option (List String) :=
  select.readableKeys.find? fun key => key.head?.any (select.narrows narrowed)

/-- The key by whose values the table is read, if a condition lists them. -/
def listedKey? (select : Select) : Option (List String) :=
  match select.table.numberedKey? with
  | some key =>
      if select.narrows Condition.listed? key.name then some [key.name]
      else select.narrowedKey? Condition.listed?
  | none => select.narrowedKey? Condition.listed?

/-- A table is read by the key for which a condition lists values; else by the key that a condition
narrows to a range; else backwards if it is to be sorted backwards by a key. -/
def readingOrder (select : Select) : ReadingOrder :=
  match select.listedKey? with
  | some columns => .byKey columns
  | none =>
      if select.narrowsNumber Condition.ranged? then .byNumber
      else
        match select.narrowedKey? Condition.ranged? with
        | some columns => .byKey columns
        | none =>
            match select.order with
            | term :: _ =>
                if term.descending && select.table.checkedKeys.contains [term.term.column.column]
                then .backwards else .byNumber
            | [] => .byNumber

end Sql.Select

/-- A join table is read by its own key if that begins with the owner. -/
def Sql.Join.readingOrder (join : Join) : ReadingOrder :=
  if join.through.numberedKey?.isNone && join.through.keyNames.head? = some join.owner.name then
    .byKey join.through.keyNames
  else .byNumber

/-! ## Selections -/

/-- The cells of the rows that a selection combines. -/
abbrev CellsOf := ColumnRef → Cell

def StoredRow.cellsOf (table : Table) (row : StoredRow) : CellsOf := fun ref =>
  if ref.table = table.name then row.cell ref.column else .null

/-- Equality of two columns. A text is read as a number where the other column holds numbers. -/
def joinedEqual (left right : ColumnType) (leftCell rightCell : Cell) : Bool :=
  if leftCell == .null || rightCell == .null then false
  else
    let leftCell := if right.affinity = .text then leftCell else leftCell.numeric
    let rightCell := if left.affinity = .text then rightCell else rightCell.numeric
    leftCell.sameAs rightCell

/-- The cells of a row combined with a row of a join table. -/
def combinedCells (table through : Table) (row link : StoredRow) : CellsOf := fun ref =>
  if ref.table = table.name then row.cell ref.column else link.cellsOf through ref

def Sql.Join.refers (join : Join) (table : Table) (link row : StoredRow) : Bool :=
  let typeIn (table : Table) (name : String) : ColumnType :=
    ((table.column? name).map (·.type)).getD .untyped
  joinedEqual (typeIn join.through join.link) (typeIn table join.key)
    (link.cell join.link) (row.cell join.key)

/-- The rows of a table combined with the rows of a join table: for each row of the join table
those it refers to, or the other way round if a condition lists keys of the table. -/
def joinedCells (store : Store) (select : Select) (join : Join) : List CellsOf :=
  let links := join.readingOrder.read (store.tableOf join.through).rows
  let rows := (store.tableOf select.table).rows
  match select.listedKey? with
  | none => links.flatMap fun link =>
      (rows.filter (join.refers select.table link)).map fun row =>
        combinedCells select.table join.through row link
  | some columns => ((ReadingOrder.byKey columns).read rows).flatMap fun row =>
      (links.filter fun link => join.refers select.table link row).map fun link =>
        combinedCells select.table join.through row link

/-- The order of two combinations of rows by the first term that tells them apart. -/
def orderedBefore (order : List OrderTerm) (left right : CellsOf) : Bool :=
  match order with
  | [] => true
  | term :: rest =>
      let ordering := (left term.term.column).order (right term.term.column)
      match if term.descending then ordering.swap else ordering with
      | .lt => true
      | .gt => false
      | .eq => orderedBefore rest left right

/-- What a table's columns give for the cells of a row. -/
def readRow (table : Table) (cells : CellsOf) : Record :=
  table.columns.map fun column =>
    (column.name, (cells ⟨table.name, column.name⟩).toValue column.type)

namespace Sql.Select

/-- The combinations of rows that a selection chooses from. -/
def candidates (select : Select) (store : Store) : List CellsOf :=
  match select.join with
  | none => (select.readingOrder.read (store.tableOf select.table).rows).map
      (StoredRow.cellsOf select.table)
  | some join => joinedCells store select join

/-- The row that a selection gives for a combination of rows. -/
def project (select : Select) (cells : CellsOf) : Record :=
  let row := readRow select.table cells
  match select.join with
  | none => row
  | some join =>
      row ++ [(join.label, (cells ⟨join.through.name, join.owner.name⟩).toValue join.owner.type)]

def evaluate (select : Select) (store : Store) : List Record :=
  let kept := (select.candidates store).filter fun cells =>
    select.conditions.all (Condition.holds cells)
  (kept.mergeSort (orderedBefore select.order)).map select.project

end Sql.Select

/-! ## Insertions -/

namespace Sql.Insert

/-- The cells that a row would be stored with. Columns without a value have their default. -/
def cells (insert : Insert) (row : Record) : List (String × Cell) :=
  insert.table.columns.map fun column =>
    (column.name,
      match row.get? column.name with
      | some value => Cell.stored column.type value
      | none => column.preset)

def isKey (table : Table) (target : List String) : Bool :=
  let keys :=
    match table.numberedKey? with
    | some key => [key.name] :: table.checkedKeys
    | none => table.checkedKeys
  keys.any fun key => key.length == target.length && key.all target.contains

/-- Fails if the conflict clause does not fit the table or the values. -/
def checkClause (insert : Insert) : Except StoreFailure Unit :=
  match insert.conflict with
  | .keepOn target | .overwriteOn target _ =>
      if insert.columns.isEmpty then .error .clauseAfterDefaults
      else if isKey insert.table target then .ok ()
      else .error .unmatchedTarget
  | _ => .ok ()

/-- The stored row that the conflict clause speaks of. -/
def target? (stored : StoredTable) (conflict : ConflictClause) (candidate : StoredRow) :
    Option StoredRow :=
  match conflict with
  | .nothing => none
  | .keepOn columns | .overwriteOn columns _ =>
      if stored.table.numberedKey?.map (·.name) = columns.head? && columns.length = 1 then
        stored.rowWithNumber? candidate.number
      else stored.rowWithKey? columns candidate
  | .keepAny | .overwriteAny _ => (stored.collision? candidate).map (·.2)

/-- The assignments of a conflict clause from the row that was to be inserted. -/
def overwritten (conflict : ConflictClause) (candidate : StoredRow) : List (String × Cell) :=
  match conflict with
  | .overwriteOn _ columns | .overwriteAny columns =>
      candidate.cells.filter fun cell => columns.contains cell.1
  | _ => []

/-- Inserts one row, or does with the stored one what the clause says. Gives the row that was
touched, if any. -/
def insertOne (insert : Insert) (store : Store) (row : Record) :
    Except StoreFailure (Store × Option StoredRow) := do
  let stored := store.tableOf insert.table
  let candidate ← stored.number (insert.cells row)
  stored.checkValues candidate
  match target? stored insert.conflict candidate with
  | some old =>
      match insert.conflict with
      | .overwriteOn .. | .overwriteAny _ => do
          let (stored, row) ← stored.replace old (overwritten insert.conflict candidate)
          pure (store.setTable stored, some row)
      | _ => pure (store, none)
  | none => do
      stored.checkKeys candidate
      let store := store.setTable (stored.add candidate)
      pure ({ store with lastNumber := candidate.number }, some candidate)

/-- Inserts rows in order, each in view of the earlier ones. -/
def insertAll (insert : Insert) (store : Store) :
    List Record → Except StoreFailure (Store × List StoredRow)
  | [] => .ok (store, [])
  | row :: rest => do
      let (store, touched) ← insert.insertOne store row
      let (store, others) ← insert.insertAll store rest
      pure (store, touched.toList ++ others)

/-- The rows to insert. Rows without columns stand for one row of defaults. -/
def effectiveRows (insert : Insert) : List Record :=
  if insert.columns.isEmpty then [[]] else insert.rows

/-- The primary key that the store reports for a single row: its number if that is generated, or
what was given. -/
def reportedKey (insert : Insert) (store : Store) : List Value :=
  let row := insert.rows.headD []
  match insert.table.generatedKey? with
  | some key =>
      let given := row.getD key.name
      [if given.isNull then .int store.lastNumber else given]
  | none => insert.table.keyNames.map row.getD

/-- What an insert hands back for a row. -/
def handedBack (insert : Insert) (row : StoredRow) : Record :=
  readRow insert.table fun ref => (row.cellsOf insert.table ref).handedBack

def evaluate (insert : Insert) (store : Store) : Except StoreFailure (Store × Cursor) := do
  insert.checkClause
  let (store, touched) ← insert.insertAll store insert.effectiveRows
  pure (store, {
    rows := if insert.returning then touched.map insert.handedBack else []
    count := touched.length, insertedKey := insert.reportedKey store })

end Sql.Insert

/-! ## Changes -/

def matchingRows (stored : StoredTable) (conditions : List Condition) : List StoredRow :=
  stored.rows.filter fun row =>
    conditions.all (Condition.holds (row.cellsOf stored.table))

namespace Sql.Update

def cells (update : Update) : List (String × Cell) :=
  update.columns.map fun column =>
    (column.name, Cell.stored column.type (update.values.getD column.name))

def evaluate (update : Update) (store : Store) : Except StoreFailure (Store × Cursor) := do
  let stored := store.tableOf update.table
  let chosen := matchingRows stored update.conditions
  let stored ← chosen.foldlM (fun stored row => do
    let (stored, _) ← stored.replace row update.cells
    pure stored) stored
  pure (store.setTable stored, { count := chosen.length })

end Sql.Update

namespace Sql.Delete

def evaluate (removal : Delete) (store : Store) : Store × Cursor :=
  let stored := store.tableOf removal.table
  let chosen := matchingRows stored removal.conditions
  (store.setTable (chosen.foldl (fun stored row => stored.remove row.number) stored),
    { count := chosen.length })

end Sql.Delete

/-- The effect and the answer of a statement. -/
def Sql.Statement.evaluate (statement : Statement) (store : Store) :
    Except StoreFailure (Store × Cursor) :=
  match statement with
  | .select query => .ok (store, { rows := query.evaluate store })
  | .insert insertion => insertion.evaluate store
  | .update change => change.evaluate store
  | .delete removal => .ok (removal.evaluate store)

end RecordGraph

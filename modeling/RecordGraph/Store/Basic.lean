import RecordGraph.Store.Cell

/-!
Contract: stored tables and the constraints on their rows.

Owns: `StoredRow`, `StoredTable`, `Store`, insertion and replacement of rows, and the failures of
constraints.
Does not own: statements; `RecordGraph.Store.Evaluate` has them.

Rows are numbered. In a table whose primary key is a single integer the key is the number; elsewhere
rows are numbered as they come. A table holds its rows by number. Of the rows of a table no two have
the same number, or the same values in all columns of a key, where null equals nothing.

Numbers go on from the greatest one. Where this is the last of 64 bits, a free one is drawn at random.
-/

namespace RecordGraph

structure StoredRow where
  number : Int
  /-- Cells by column, in table order. -/
  cells : List (String × Cell)
deriving Repr, Inhabited

def StoredRow.cell (row : StoredRow) (name : String) : Cell :=
  (row.cells.lookup name).getD .null

structure StoredTable where
  table : Table
  rows : List StoredRow := []
  /-- What will be drawn for numbers, should they be drawn. -/
  draws : List Nat := []
deriving Repr, Inhabited

structure Store where
  tables : List StoredTable
  /-- The number of the row that was inserted last, in any table. -/
  lastNumber : Int := 0
deriving Repr, Inhabited

/-- Why a statement has no effect. -/
inductive StoreFailure where
  | duplicateKey (table : String) (columns : List String)
  | missingValue (table column : String)
  /-- Something else than an integer was to number a row. -/
  | datatypeMismatch
  /-- The conflict target is no key of the table. -/
  | unmatchedTarget
  /-- A row of defaults cannot have a conflict clause. -/
  | clauseAfterDefaults
deriving DecidableEq, Repr, Inhabited

namespace StoreFailure

def columnList (table : String) (columns : List String) : String :=
  ", ".intercalate (columns.map fun column => table ++ "." ++ column)

def message : StoreFailure → String
  | .duplicateKey table columns => "UNIQUE constraint failed: " ++ columnList table columns
  | .missingValue table column => "NOT NULL constraint failed: " ++ table ++ "." ++ column
  | .datatypeMismatch => "datatype mismatch"
  | .unmatchedTarget =>
      "ON CONFLICT clause does not match any PRIMARY KEY or UNIQUE constraint"
  | .clauseAfterDefaults => "near \"ON\": syntax error"

end StoreFailure

namespace Table

/-- The keys that rows are checked against besides their numbers: the youngest constraint first,
the primary key last. -/
def checkedKeys (table : Table) : List (List String) :=
  let unique := table.uniqueKeys.reverse
  match table.numberedKey? with
  | some _ => unique
  | none => if table.primaryKeys.isEmpty then unique else unique ++ [table.keyNames]

/-- Whether columns must have a value. Numbers of rows are given by the table. -/
def requires (table : Table) (column : Column) : Bool :=
  table.numberedKey? ≠ some column && (!column.nullable || column.primaryKey)

end Table

namespace StoredTable

/-- Whether no row has a number. -/
def isFree (stored : StoredTable) (number : Int) : Bool :=
  stored.rows.all (·.number != number)

/-- The number that a draw gives: one of the lower half of the positive ones. -/
def drawn (draw : Nat) : Int :=
  draw % (Cell.wordBound / 2) + 1

/-- The least positive numbers, one more than there are rows. -/
def leastNumbers (stored : StoredTable) : List Int :=
  (List.range (stored.rows.length + 1)).map fun number : Nat => (number : Int) + 1

/-- The first free number that is drawn. The least one stands in for what is drawn after all else. -/
def drawnNumber (stored : StoredTable) : Int :=
  ((stored.draws.map drawn ++ stored.leastNumbers).find? stored.isFree).getD 1

/-- The number after the greatest one, or one if there are no rows. The last one is followed by one
that is drawn. -/
def nextNumber (stored : StoredTable) : Int :=
  match stored.rows with
  | [] => 1
  | row :: rest =>
      let greatest := (rest.map (·.number)).foldl max row.number
      if greatest < Cell.wordBound - 1 then greatest + 1 else stored.drawnNumber

/-- Whether a row has given cells in the columns of a key, none of them null. -/
def hasKey (columns : List String) (candidate row : StoredRow) : Bool :=
  columns.all fun name =>
    !(candidate.cell name == .null) && (candidate.cell name).sameAs (row.cell name)

def rowWithKey? (stored : StoredTable) (columns : List String) (candidate : StoredRow) :
    Option StoredRow :=
  stored.rows.find? (hasKey columns candidate)

def rowWithNumber? (stored : StoredTable) (number : Int) : Option StoredRow :=
  stored.rows.find? (·.number == number)

/-- The first key, that of numbers first, that a candidate shares with a row, and that row. -/
def collision? (stored : StoredTable) (candidate : StoredRow) :
    Option (List String × StoredRow) :=
  let numbered :=
    match stored.table.numberedKey? with
    | some key => (stored.rowWithNumber? candidate.number).map ([key.name], ·)
    | none => none
  match numbered with
  | some found => some found
  | none => stored.table.checkedKeys.findSome? fun columns =>
      (stored.rowWithKey? columns candidate).map (columns, ·)

/-- Puts a row among rows by number. -/
def insertByNumber (row : StoredRow) : List StoredRow → List StoredRow
  | [] => [row]
  | other :: rest =>
      if row.number < other.number then row :: other :: rest
      else other :: insertByNumber row rest

def remove (stored : StoredTable) (number : Int) : StoredTable :=
  { stored with rows := stored.rows.filter (·.number != number) }

/-- Adds a row. If its number was drawn, the draw is used up. -/
def add (stored : StoredTable) (row : StoredRow) : StoredTable :=
  { stored with
    rows := insertByNumber row stored.rows
    draws := stored.draws.eraseP fun draw => drawn draw == row.number }

/-- Fails at the first column that must have a value and has none. -/
def checkValues (stored : StoredTable) (row : StoredRow) : Except StoreFailure Unit :=
  match stored.table.columns.find? fun column =>
      stored.table.requires column && row.cell column.name == .null with
  | some column => .error (.missingValue stored.table.name column.name)
  | none => .ok ()

def checkKeys (stored : StoredTable) (row : StoredRow) : Except StoreFailure Unit :=
  match stored.collision? row with
  | some (columns, _) => .error (.duplicateKey stored.table.name columns)
  | none => .ok ()

/-- The row of cells, numbered by the integer key or else by the table. -/
def number (stored : StoredTable) (cells : List (String × Cell)) :
    Except StoreFailure StoredRow :=
  match stored.table.numberedKey? with
  | none => .ok { number := stored.nextNumber, cells }
  | some key =>
      match (cells.lookup key.name).getD .null with
      | .null =>
          let number := stored.nextNumber
          .ok { number, cells := cells.map fun (name, cell) =>
            (name, if name = key.name then .int number else cell) }
      | .int number => .ok { number, cells }
      | _ => .error .datatypeMismatch

/-- The row with some of its cells replaced, numbered anew if the integer key is among them. -/
def changed (stored : StoredTable) (row : StoredRow) (cells : List (String × Cell)) :
    Except StoreFailure StoredRow :=
  let cells := row.cells.map fun (name, cell) => (name, (cells.lookup name).getD cell)
  match stored.table.numberedKey? with
  | none => .ok { row with cells }
  | some key =>
      match (cells.lookup key.name).getD .null with
      | .int number => .ok { number, cells }
      | _ => .error .datatypeMismatch

/-- Replaces a row by one that satisfies the constraints. -/
def replace (stored : StoredTable) (old : StoredRow) (cells : List (String × Cell)) :
    Except StoreFailure (StoredTable × StoredRow) := do
  let row ← stored.changed old cells
  stored.checkValues row
  let others := stored.remove old.number
  others.checkKeys row
  pure (others.add row, row)

end StoredTable

namespace Store

def empty (schema : Schema) : Store :=
  { tables := schema.map fun table => { table } }

/-- The rows of a table, none if the store does not have it. -/
def tableOf (store : Store) (table : Table) : StoredTable :=
  (store.tables.find? (·.table.name == table.name)).getD { table }

def setTable (store : Store) (stored : StoredTable) : Store :=
  { store with tables := store.tables.map fun other =>
      if other.table.name = stored.table.name then stored else other }

end Store

end RecordGraph

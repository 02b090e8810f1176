import RecordGraph.Text.Binary64

/-!
Contract: tables, their columns, and references to columns.

Owns: `ColumnType`, `Literal`, `Column`, `Table`, `Schema`, and `ColumnRef` with its reader.
Does not own: relations between tables, and stored rows.
-/

namespace RecordGraph

/-- What a column holds. An untyped column takes any scalar; a sealed column does not tell. -/
inductive ColumnType where
  | integer
  /-- Integers beyond 32 bits. -/
  | bigInteger
  | string
  | boolean
  | float
  | json
  | date
  | untyped
  | sealed
deriving DecidableEq, Repr, Inhabited

structure ColumnRef where
  table : String
  column : String
deriving DecidableEq, Repr, Inhabited

namespace ColumnRef

def splitLastPoint (chars : List Char) : Option (List Char × List Char) :=
  let reversed := chars.reverse
  match reversed.dropWhile (· != '.') with
  | [] => none
  | _ :: before => some (before.reverse, (reversed.takeWhile (· != '.')).reverse)

/-- Reads `table.column`, neither part empty; the table's name may hold points. -/
def ofString? (text : String) : Option ColumnRef :=
  match splitLastPoint text.toList with
  | some (table, column) =>
      if table.isEmpty || column.isEmpty then none
      else some ⟨String.ofList table, String.ofList column⟩
  | none => none

def toString (ref : ColumnRef) : String := ref.table ++ "." ++ ref.column

end ColumnRef

/-- What may stand in the definition of a table for a value. -/
inductive Literal where
  | null
  | integer (number : Int)
  | real (number : Binary64)
  | text (chars : String)
deriving DecidableEq, Repr, Inhabited

structure Column where
  name : String
  type : ColumnType
  primaryKey : Bool := false
  references : Option ColumnRef := none
  /-- What a column that references several ones references besides. -/
  otherReferences : List ColumnRef := []
  unique : Bool := false
  /-- The other columns of each key of several columns that begins with this one. -/
  uniqueWith : List (List String) := []
  nullable : Bool := true
  /-- What the database stores if no value is given. A primary key has no default. -/
  fallback : Literal := .null
  /-- Whether the type of a JSON column tells that its values are objects, as some versions of the SQL
  library have it. Otherwise they may be anything. -/
  holdsObjects : Bool := false
deriving DecidableEq, Repr, Inhabited

/-- The columns that the foreign keys of a column name. -/
def Column.foreignKeys (column : Column) : List ColumnRef :=
  column.references.toList ++ column.otherReferences

structure Table where
  name : String
  columns : List Column
deriving DecidableEq, Repr, Inhabited

namespace Table

def column? (table : Table) (name : String) : Option Column :=
  table.columns.find? (·.name == name)

def hasColumn (table : Table) (name : String) : Bool :=
  table.columns.any (·.name == name)

def columnNames (table : Table) : List String :=
  table.columns.map (·.name)

def primaryKeys (table : Table) : List Column :=
  table.columns.filter (·.primaryKey)

def keyNames (table : Table) : List String :=
  table.primaryKeys.map (·.name)

/-- The keys of several columns, besides the primary key. Each has a column but once. -/
def compoundKeys (table : Table) : List (List String) :=
  table.columns.flatMap fun column => column.uniqueWith.map fun others =>
    (column.name :: others.filter table.hasColumn).eraseDups

/-- The keys besides the primary key, in the order of their declaration: those of several columns
come first. -/
def uniqueKeys (table : Table) : List (List String) :=
  table.compoundKeys ++ (table.columns.filter (·.unique)).map fun column => [column.name]

/-- The column of a primary key that the database numbers by itself: the only one, an integer. -/
def numberedKey? (table : Table) : Option Column :=
  match table.primaryKeys with
  | [column] => if column.type = .integer then some column else none
  | _ => none

/-- The column of a primary key whose number an insert asks for: one that refers to no other
column. -/
def generatedKey? (table : Table) : Option Column :=
  table.numberedKey?.filter (·.references.isNone)

end Table

abbrev Schema := List Table

namespace Schema

def table? (schema : Schema) (name : String) : Option Table :=
  schema.find? (·.name == name)

def column? (schema : Schema) (ref : ColumnRef) : Option Column :=
  (schema.table? ref.table).bind (·.column? ref.column)

/-- The type of a column. One without a type has that of the column it refers to, after at most
`steps` references. -/
def typeOf (schema : Schema) : (steps : Nat) → Column → ColumnType
  | 0, column => column.type
  | steps + 1, column =>
      match column.type, column.references.bind schema.column? with
      | .untyped, some referenced => schema.typeOf steps referenced
      | type, _ => type

/-- The schema with the types of references settled. -/
def settled (schema : Schema) : Schema :=
  let steps := (schema.flatMap fun table => table.columns).length
  schema.map fun table => { table with
    columns := table.columns.map fun column =>
      { column with type := schema.typeOf steps column } }

end Schema

end RecordGraph

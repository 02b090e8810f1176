import RecordGraph.Execution.UnitOfWork
import RecordGraph.Store.Evaluate
import RecordGraph.Value.Display

/-!
Contract: a database in memory, with transactions and a log.

Owns: `Database`, binding of parameters, execution of statements, transaction control, and the
contents of a database.
Does not own: the effect of statements on a store; `RecordGraph.Store.Evaluate` has it.

The first statement after a session begins starts the transaction of the database. Ending a
transaction is logged only if one was started. Rolling back restores the tables, but not the memory
of the row that was inserted last.
-/

namespace RecordGraph

open RecordGraph.Sql

inductive LogEntry where
  | statement (sql : String) (parameters : List Value)
  | commit
  | rollback
deriving Repr, Inhabited

/-- The transaction of a session. -/
structure Transaction where
  /-- The tables to which a rollback returns. -/
  saved : List StoredTable
  started : Bool := false
deriving Repr, Inhabited

structure Database where
  store : Store
  transaction : Option Transaction := none
  log : List LogEntry := []
deriving Repr, Inhabited

namespace Database

/-- Why the tables of a schema cannot be created: a reference names nothing, or a column has no
type. -/
def schemaFault? (schema : Schema) : Option Foreign :=
  let columns := schema.flatMap (·.columns)
  let dangling := columns.findSome? fun column =>
    column.foreignKeys.findSome? fun ref =>
      match schema.table? ref.table with
      | none => some .danglingTable
      | some table => if table.hasColumn ref.column then none else some Foreign.danglingColumn
  match dangling with
  | some fault => some fault
  | none => if columns.any (·.type = .untyped) then some .unspeakable else none

/-- A database with the empty tables of a schema. -/
def create (schema : Schema) : Result Database :=
  match schemaFault? schema with
  | some fault => throw (.foreign fault)
  | none => pure { store := Store.empty schema }

def write (entry : LogEntry) (database : Database) : Database :=
  { database with log := database.log ++ [entry] }

/-! ## Statements -/

/-- The values that are bound for parameters; none if one of them does not suit its type. -/
def boundValues (parameters : List Parameter) : Option (List Value) :=
  parameters.mapM fun parameter => Cell.boundValue parameter.type parameter.value

/-- How a value that no cell can hold is refused, bound at a position counted from one. -/
def refusal? (position : Nat) (value : Value) : Option Refusal :=
  match value with
  | .int number =>
      if Cell.fitsWord number then none else some (.other (.foreign .integerOverflow))
  | .text chars =>
      if Text.hasLoneHalf chars then some (.other (.foreign .unencodableText)) else none
  | .list _ | .object _ =>
      some (.database (s!"Error binding parameter {position}: type '"
        ++ value.kindName ++ "' is not supported"))
  | _ => none

/-- The refusal of the first of the values that cannot be stored. -/
def firstRefusal (position : Nat) : List Value → Option Refusal
  | [] => none
  | value :: rest => (refusal? position value).or (firstRefusal (position + 1) rest)

def refusalOf (failure : StoreFailure) : Refusal :=
  match failure with
  | .duplicateKey .. | .missingValue .. | .datatypeMismatch =>
      .integrity failure.message .null .null
  | .unmatchedTarget | .clauseAfterDefaults => .database failure.message

/-- Whether the answer to a statement has rows in which two columns share a name. -/
def isAmbiguous (statement : Statement) (cursor : Cursor) : Bool :=
  match statement with
  | .select query => query.isAmbiguous && !cursor.rows.isEmpty
  | _ => false

def prepare : Statement → Except StoreFailure Unit
  | .insert insertion => insertion.checkClause
  | _ => .ok ()

/-- The course of a statement with bound values. -/
def execute (statement : Statement) (values : List Value) (database : Database) :
    Reply × Database :=
  match prepare statement with
  | .error failure => (.refused (refusalOf failure), database)
  | .ok () =>
      match firstRefusal 1 values with
      | some refusal => (.refused refusal, database)
      | none =>
          match statement.evaluate database.store with
          | .error failure => (.refused (refusalOf failure), database)
          | .ok (store, cursor) =>
              if isAmbiguous statement cursor then
                (.refused (.other (.foreign .ambiguousColumn)), database)
              else (.done cursor, { database with store })

def start (database : Database) : Database :=
  { database with
    transaction := database.transaction.map fun transaction =>
      { transaction with started := true } }

/-- Runs a statement. It is logged, with the values bound, unless it has no text or one of the
values does not suit its type. -/
def run (statement : Statement) (database : Database) : Reply × Database :=
  let database := database.start
  match statement.text .sqlite with
  | .error fault => (.refused (.other fault), database)
  | .ok rendered =>
      match boundValues rendered.parameters with
      | none => (.refused (.other (.foreign .invalidBinding)), database)
      | some values => (database.write (.statement rendered.sql values)).execute statement values

def session : Session Database where
  dialect := .sqlite
  run := run

/-! ## Transactions -/

def isStarted (database : Database) : Bool :=
  database.transaction.any (·.started)

/-- Ends the transaction, and logs the end if the database had one. -/
def finish (entry : LogEntry) (database : Database) : Database :=
  let ended := { database with transaction := none }
  if database.isStarted then ended.write entry else ended

def begin (database : Database) : Database :=
  { database with transaction := some { saved := database.store.tables } }

def rollback (database : Database) : Database :=
  let restored :=
    match database.transaction with
    | some transaction =>
        { database with store := { database.store with tables := transaction.saved } }
    | none => database
  restored.finish .rollback

def control : SessionControl Database where
  create := pure true
  inTransaction database := database.transaction.isSome
  begin := modify begin
  commit := modify (finish .commit)
  rollback := modify rollback
  close := pure ()

/-- The database of a unit of work, as a session. -/
def unitSession : Session (UnitState Database) where
  dialect := .sqlite
  run statement state :=
    let (reply, world) := session.run statement state.world
    (reply, { state with world })

def scope : Scope (UnitState Database) := Scope.ofControl control

def executor (cancel : Option (UnitState Database → Bool)) : Executor (UnitState Database) :=
  Executor.ofSession unitSession cancel

/-! ## Contents -/

def rowsByKey (stored : StoredTable) : List Record :=
  (stored.rows.mergeSort (keyBefore stored.table.keyNames)).map fun row =>
    readRow stored.table (row.cellsOf stored.table)

def contents (database : Database) : List (String × List Record) :=
  (database.store.tables.filter fun stored => !stored.rows.isEmpty).map fun stored =>
    (stored.table.name, rowsByKey stored)

end Database

end RecordGraph

import RecordGraph.Insert.Compile
import RecordGraph.Text.Lowercase

/-!
Contract: execution of statements on a session.

Owns: `Action`, `Session`, `Executor`, and the reading of database failures as errors.
Does not own: transactions; `RecordGraph.Execution.UnitOfWork` has them.

An action runs in a world, may fail, and keeps what it did to the world when it fails. An executor
issues one statement at a time. Once its cancel event is set it issues no further one, and abandons
the one in flight.
-/

namespace RecordGraph

open RecordGraph.Sql RecordGraph.Text

/-- A computation in a world that may fail and keeps its effects when it does. -/
abbrev Action (σ : Type) (α : Type) := ExceptT Error (StateM σ) α

/-- What a database hands back for a statement. -/
structure Cursor where
  rows : List Record := []
  /-- The number of rows that a change touched. -/
  count : Int := 0
  /-- The primary key of an inserted row, as far as it is known. -/
  insertedKey : List Value := []
deriving Repr, Inhabited

/-- How a database refuses a statement. -/
inductive Refusal where
  /-- A constraint does not hold. The two codes name it in the database's own terms. -/
  | integrity (message : String) (state code : Value)
  | database (message : String)
  /-- A failure that is none of the database's. -/
  | other (error : Error)
deriving Repr, Inhabited

/-- The course of a statement. -/
inductive Reply where
  | done (cursor : Cursor)
  | refused (refusal : Refusal)
  /-- The cancel event was set while the statement was in flight. -/
  | overtaken
deriving Repr, Inhabited

structure Session (σ : Type) where
  dialect : Dialect
  run : Statement → σ → Reply × σ

/-! ## Failures -/

/-- Words by which databases without codes report a violated key. -/
def uniqueMarkers : List (List Char) :=
  ["unique constraint".toList, "duplicate entry".toList, "duplicate key".toList]

/-- Whether a text occurs in a text. -/
def occursIn (part : List Char) : List Char → Bool
  | [] => part.isEmpty
  | c :: rest => part.isPrefixOf (c :: rest) || occursIn part rest

/-- Whether a violated constraint is that of a unique key: by the first code that is given, or by
the words of the message. -/
def isUniqueViolation (message : String) (state code : Value) : Bool :=
  let decisive := if state.truthy then state else code
  decisive.same (.text "23505")
    || uniqueMarkers.any fun marker => occursIn marker (lowercase message).toList

def Refusal.toError : Refusal → Error
  | .integrity message state code =>
      if isUniqueViolation message state code then .uniqueViolation message
      else .statement message
  | .database message => .statement message
  | .other error => error

/-! ## Executors -/

/-- Executes statements inside one transaction. -/
structure Executor (σ : Type) where
  dialect : Dialect
  fetchAll : Select → Action σ (List Record)
  fetchOne : Select → Action σ (Option Record)
  /-- Executes a change and gives the number of rows it touched. -/
  change : Statement → Action σ Int
  /-- Executes an insert and gives the rows it touched. -/
  runInsert : CompiledInsert → Action σ (List Record)

namespace Executor

variable {σ : Type}

def isCancelled (cancel : Option (σ → Bool)) (world : σ) : Bool :=
  match cancel with
  | some isSet => isSet world
  | none => false

def outcomeOf : Reply → Except Error Cursor
  | .done cursor => .ok cursor
  | .refused refusal => .error refusal.toError
  | .overtaken => .error .cancelledInFlight

def issue (session : Session σ) (cancel : Option (σ → Bool)) (statement : Statement) :
    Action σ Cursor :=
  fun world =>
    if isCancelled cancel world then (.error .cancelledBefore, world)
    else
      let (reply, world) := session.run statement world
      (outcomeOf reply, world)

/-- The condition that a row has a primary key. A key column that was not given is read from the
key that the database reports. -/
def keyConditions (table : Table) (row : Record) (inserted : List Value) :
    (position : Nat) → List Column → List Condition
  | _, [] => []
  | position, column :: rest =>
      let given := row.getD column.name
      let value := if given.isNull then (inserted[position]?).getD .null else given
      Condition.equal (Term.ofColumn table column) value
        :: keyConditions table row inserted (position + 1) rest

/-- The row that an insert of one row has touched, selected anew. -/
def reselect (table : Table) (row : Record) (inserted : List Value) : Select :=
  { table, conditions := keyConditions table row inserted 0 table.primaryKeys }

def selectOne (session : Session σ) (cancel : Option (σ → Bool)) (query : Select) :
    Action σ (Option Record) := do
  let cursor ← issue session cancel (.select query)
  pure cursor.rows.head?

/-- Inserts one row without asking for it, and selects it afterwards unless it was suppressed. -/
def insertAndReselect (session : Session σ) (cancel : Option (σ → Bool))
    (single : CompiledInsert) : Action σ (Option Record) := do
  let cursor ← issue session cancel (.insert single.statement)
  if cursor.count = 0 then pure none
  else
    selectOne session cancel
      (reselect single.table (single.rows.headD []) cursor.insertedKey)

def insertRows (session : Session σ) (cancel : Option (σ → Bool)) (compiled : CompiledInsert) :
    Action σ (List Record) := do
  if compiled.contract.returning then
    let cursor ← issue session cancel (.insert compiled.statement)
    pure cursor.rows
  else
    match compiled.perRow with
    | .error error => throw error
    | .ok singles =>
        let rows ← singles.mapM (insertAndReselect session cancel)
        pure (rows.filterMap id)

def ofSession (session : Session σ) (cancel : Option (σ → Bool)) : Executor σ where
  dialect := session.dialect
  fetchAll query := do
    let cursor ← issue session cancel (.select query)
    pure cursor.rows
  fetchOne := selectOne session cancel
  change statement := do
    let cursor ← issue session cancel statement
    pure cursor.count
  runInsert := insertRows session cancel

end Executor

end RecordGraph

import RecordGraph.Insert.Policy
import RecordGraph.Sql.Statement

/-!
Contract: insert statements with conflict policies, and what they hand back.

Owns: `ReturnContract`, `CompiledInsert`, compilation for each dialect, and the split into one
statement a row.
Does not own: the text and the effect of statements.

A policy that ignores collisions may leave an insert without a row: a call for one row then gives
nothing, and a call for many gives the rows there are.
-/

namespace RecordGraph

open RecordGraph.Sql

/-- What an executed insert hands back to its caller. -/
structure ReturnContract where
  returning : Bool
  maySuppress : Bool
deriving DecidableEq, Repr, Inhabited

namespace ReturnContract

/-- The row of an insert of one row, or nothing if it may be and was suppressed. -/
def one (contract : ReturnContract) : List Record → Result (Option Record)
  | row :: _ => pure (some row)
  | [] => if contract.maySuppress then pure none else throw .missingRow

def many (_ : ReturnContract) (rows : List Record) : List Record := rows

end ReturnContract

structure CompiledInsert where
  statement : Insert
  policy : Option ConflictPolicy
  contract : ReturnContract
  dialect : Dialect
deriving Repr, Inhabited

namespace CompiledInsert

def table (compiled : CompiledInsert) : Table := compiled.statement.table

def rows (compiled : CompiledInsert) : List Record := compiled.statement.rows

def insertSorted (text : String) : List String → List String
  | [] => [text]
  | other :: rest =>
      if text < other then text :: other :: rest
      else if text = other then other :: rest
      else other :: insertSorted text rest

/-- The names in rows that are no columns of a table, sorted. -/
def unknownNames (table : Table) (rows : List Record) : List String :=
  ((rows.flatMap Record.names).filter (!table.hasColumn ·)).foldr insertSorted []

/-- Several rows must have the same columns. -/
def checkEven : List Record → Result Unit
  | first :: second :: rest =>
      if (second :: rest).all (Record.sameNames first) then pure () else throw .unevenRows
  | _ => pure ()

/-- The columns that a merge overwrites. If no inserted column lies outside the target, the
target itself is assigned, so that the row is handed back. -/
def mergeColumns (table : Table) (rows : List Record) (policy : ConflictPolicy)
    (target : List String) : List String :=
  match policy.merge with
  | some columns => columns
  | none =>
      let inserted := table.columnNames.filter fun name => rows.any (·.has name)
      match inserted.filter (!target.contains ·) with
      | [] => target
      | merged => merged

/-- Columns to overwrite must exist, and there must be some. -/
def checkMerge (table : Table) (columns : List String) : Result Unit :=
  match columns.find? (!table.hasColumn ·) with
  | some name => throw (.foreign (.missingEntry name))
  | none => if columns.isEmpty then throw (.foreign .emptyUpdate) else pure ()

/-- The clause of a policy. Two dialects resolve a collision of the target, two of any key. -/
def conflictClause (table : Table) (rows : List Record) (dialect : Dialect)
    (policy : ConflictPolicy) : Result ConflictClause :=
  let resolve (keep : List String → ConflictClause)
      (overwrite : List String → List String → ConflictClause) : Result ConflictClause := do
    let target ← policy.targetColumns table
    checkEven rows
    match policy.action with
    | .ignore => pure (keep target)
    | .merge =>
        let columns := mergeColumns table rows policy target
        checkMerge table columns
        pure (overwrite target columns)
  match dialect with
  | .postgresql | .sqlite => resolve .keepOn .overwriteOn
  | .mysql | .mariadb => resolve (fun _ => .keepAny) (fun _ columns => .overwriteAny columns)
  | .mssql => throw (.unsupportedConflict dialect.name)

/-- Compiles an insert of rows whose return is settled. -/
def compileRows (table : Table) (rows : List Record) (dialect : Dialect)
    (policy : Option ConflictPolicy) (returning : Bool) : Result CompiledInsert := do
  match unknownNames table rows with
  | [] => pure ()
  | names => throw (.unknownInsertColumns table.name names)
  let conflict ←
    match policy with
    | none => do
        checkEven rows
        pure .nothing
    | some policy => conflictClause table rows dialect policy
  let maySuppress := policy.any fun policy => policy.action = .ignore
  pure {
    statement := { table, rows, conflict, returning }
    policy, contract := { returning, maySuppress }, dialect }

/-- Compiles an insert of one or many rows. By default it asks for its rows where the dialect can
hand them back. -/
def compile (table : Table) (rows : List Record) (dialect : Dialect)
    (policy : Option ConflictPolicy) (returning : Option Bool) : Result CompiledInsert :=
  if rows.isEmpty then throw (.nothingToInsert table.name)
  else compileRows table rows dialect policy (returning.getD dialect.insertReturning)

/-- One statement a row, none of which asks for its row. A single row is left as it is. -/
def perRow (compiled : CompiledInsert) : Result (List CompiledInsert) :=
  match compiled.rows with
  | [_] => pure [compiled]
  | rows => rows.mapM fun row =>
      compileRows compiled.table [row] compiled.dialect compiled.policy false

end CompiledInsert

end RecordGraph

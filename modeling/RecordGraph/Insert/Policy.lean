import RecordGraph.Error
import RecordGraph.Validation

/-!
Contract: what an insert does when its row collides with a stored one.

Owns: `ConflictAction`, `ConflictPolicy`, its reader, and the columns it targets.
Does not own: the clauses of statements; `RecordGraph.Insert.Compile` has them.
-/

namespace RecordGraph

inductive ConflictAction where
  /-- Keep the stored row and insert nothing. -/
  | ignore
  /-- Overwrite columns of the stored row. -/
  | merge
deriving DecidableEq, Repr, Inhabited

structure ConflictPolicy where
  /-- The columns whose collision is resolved; by default those of the primary key. -/
  columns : Option (List String) := none
  action : ConflictAction := .ignore
  /-- The columns to overwrite; by default every inserted one outside the target. -/
  merge : Option (List String) := none
deriving DecidableEq, Repr, Inhabited

namespace ConflictPolicy

/-- No columns stand for the default. -/
def nonemptyColumns : List String → Option (List String)
  | [] => none
  | columns => some columns

def ignore (columns : List String) : ConflictPolicy :=
  { columns := nonemptyColumns columns }

def mergeOn (columns : List String) (update : Option (List String)) : ConflictPolicy :=
  { columns := nonemptyColumns columns, action := .merge, merge := update }

def readAction : Value → Option ConflictAction
  | .text "ignore" => some .ignore
  | .text "merge" => some .merge
  | _ => none

/-- Reads a policy from its fields. Unknown ones are ignored. -/
def ofRecord (fields : Record) : Checked ConflictPolicy :=
  let action := Validation.readField fields "action" ConflictAction.ignore fun value =>
    Validation.ofOption "action" (readAction value)
  let columns := Validation.readField fields "columns" none (Validation.readNames "columns")
  let merge := Validation.readField fields "merge" none (Validation.readNames "merge")
  match action, columns, merge with
  | .ok action, .ok columns, .ok merge => .ok { columns, action, merge }
  | _, _, _ =>
      .error (Validation.faults action ++ Validation.faults columns ++ Validation.faults merge)

def targetColumns (policy : ConflictPolicy) (table : Table) : Result (List String) :=
  match policy.columns with
  | none | some [] => pure table.keyNames
  | some columns =>
      match columns.filter (!table.hasColumn ·) with
      | [] => pure columns
      | missing => throw (.missingConflictColumns table.name missing)

end ConflictPolicy

end RecordGraph

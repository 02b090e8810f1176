import RecordGraph.Proofs.Lists
import RecordGraph.Proofs.Value.Record
import RecordGraph.Sql.Statement

/-!
Contract: a database that answers selections.

Owns: `Snapshot`, its answers, and what the answers show.
Does not own: which selections are asked.

A selection keeps some of the rows of a fixed order, sorts them stably, and shows the columns of its
table, and under the label of its join the owner column of the join table.
-/

namespace RecordGraph

open RecordGraph.Sql

/-- A condition without the members that it asks about. -/
def Sql.Condition.shape : Condition → Condition
  | .among term _ => .among term []
  | condition => condition

/-- A selection without the members that it asks about. -/
def Sql.Select.shape (select : Select) : Select :=
  { select with conditions := select.conditions.map Condition.shape }

/-- What a database holds while selections are answered. -/
structure Snapshot where
  Row : Type
  /-- The rows that a selection chooses from, in order. The order may depend on the form of the
  selection, but not on the members that it asks about. -/
  base : Select → List Row
  holds : Row → Condition → Bool
  /-- Whether a row need not come after another one. -/
  before : List OrderTerm → Row → Row → Bool
  value : Row → ColumnRef → ColumnType → Value
  total : ∀ order left right, (before order left right || before order right left) = true
  trans : ∀ order first second third, before order first second = true →
    before order second third = true → before order first third = true

namespace Snapshot

variable (db : Snapshot)

/-- What a row has in a column that a query compares by. -/
def read (row : db.Row) (term : Term) : Value :=
  db.value row term.column term.type

/-- What a row shows of a table. -/
def columns (table : Table) (row : db.Row) : Record :=
  table.columns.map fun column => (column.name, db.read row (Term.ofColumn table column))

/-- What a row shows under the label of a join. -/
def labelled (join : Option Join) (row : db.Row) : Record :=
  match join with
  | none => []
  | some join => [(join.label, db.read row (Select.ownerTerm join))]

def project (select : Select) (row : db.Row) : Record :=
  db.columns select.table row ++ db.labelled select.join row

def kept (select : Select) : List db.Row :=
  (db.base select.shape).filter fun row => select.conditions.all (db.holds row)

def sorted (select : Select) : List db.Row :=
  (db.kept select).mergeSort (db.before select.order)

/-- The rows that a selection gives. -/
def answer (select : Select) : List Record :=
  (db.sorted select).map (db.project select)

theorem mem_base_of_sorted {select : Select} {row : db.Row} (member : row ∈ db.sorted select) :
    row ∈ db.base select.shape :=
  List.mem_of_mem_filter (List.mem_mergeSort.1 member)

/-! ## What rows show -/

theorem names_columns (table : Table) (row : db.Row) :
    (db.columns table row).names = table.columnNames := by
  unfold columns Record.names Table.columnNames
  rw [List.map_map]
  rfl

/-- Without the label of its join, a row shows the columns of its table. -/
theorem erase_labelled {table : Table} {join : Join} (lacks : table.hasColumn join.label = false)
    (row : db.Row) :
    Record.erase (db.columns table row ++ db.labelled (some join) row) join.label =
      db.columns table row := by
  have notColumn : join.label ∉ (db.columns table row).names := by
    rw [names_columns]
    intro member
    obtain ⟨column, isColumn, isNamed⟩ := List.mem_map.1 member
    have isFalse := List.any_eq_false.1 lacks column isColumn
    exact isFalse (beq_iff_eq.2 isNamed)
  rw [Record.erase_append, Record.erase_of_not_mem notColumn]
  unfold labelled Record.erase
  simp

end Snapshot

end RecordGraph

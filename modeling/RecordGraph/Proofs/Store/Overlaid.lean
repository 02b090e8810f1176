import Mathlib.Data.List.Nodup
import RecordGraph.Proofs.Store.Change
import RecordGraph.Proofs.Store.Held
import RecordGraph.Proofs.Store.Proposed
import RecordGraph.Proofs.Store.Shape

/-!
Contract: rows with values laid over them by key.

Owns: `Table.overlay`, `Unchanged`, what an update by key makes of the row that it finds, whether the
row is found afterwards, and `Record.OverlaidBy`, which says what it shows.
Does not own: the calls that issue such updates.
-/

namespace RecordGraph

open RecordGraph.Sql

/-- What a column of a row holds once values are laid over it. -/
def Table.overlay (table : Table) (values : Record) (old : StoredRow) (name : String) : Cell :=
  if values.has name = true then table.given values name else old.cell name

/-- Where no two columns share a name, a column is found by its own. -/
theorem Table.column?_of_mem {table : Table} (distinct : table.columnNames.Nodup) {column : Column}
    (member : column ∈ table.columns) : table.column? column.name = some column := by
  cases found : table.column? column.name with
  | none => exact absurd (beq_self_eq_true _) (List.find?_eq_none.1 found column member)
  | some other =>
      have isOther := List.mem_of_find?_eq_some found
      rw [List.inj_on_of_nodup_map distinct isOther member (name_of_column? found)]

/-- Whether all tables are the same. -/
def Unchanged (before after : List StoredTable) : Prop :=
  ∀ table : Table, table.among after = table.among before

theorem Unchanged.refl (tables : List StoredTable) : Unchanged tables tables := fun _ => rfl

/-- A table that takes its own place changes nothing. -/
theorem unchanged_setTable_self {schema : Schema} {store : Store}
    (sound : SoundTables schema store.tables) {table : Table}
    (isTable : schema.table? table.name = some table) :
    Unchanged store.tables (store.setTable (store.tableOf table)).tables := by
  intro other
  have isStored := Store.table_tableOf sound isTable
  unfold Table.among
  change (((store.setTable (store.tableOf table)).tables.find? _).getD _) = _
  rw [Store.find?_setTable, isStored]
  unfold Store.tableOf
  dsimp only
  cases found : store.tables.find? (·.table.name == other.name) with
  | none => rfl
  | some stored =>
      have isNamed : stored.table.name = other.name := by simpa using List.find?_some found
      rw [Option.map_some, Option.getD_some, Option.getD_some]
      by_cases same : stored.table.name = table.name
      · rw [if_pos same, ← same, isNamed, found, Option.getD_some]
      · rw [if_neg same]

namespace Sql.Update

open StoredTable StoredRow

variable {schema : Schema} {store store' : Store} {table : Table} {key : Column} {sought : Value}
variable {values : Record} {cursor : Cursor} {old new : StoredRow}

/-- An update has a cell for a column if the column is given a value. -/
theorem lookup_overlaid {name : String} (isColumn : name ∈ table.columnNames) :
    (overlayByKey table key sought values).cells.lookup name =
      if values.has name = true then some (table.given values name) else none := by
  obtain ⟨column, member, isName⟩ := List.mem_map.1 isColumn
  obtain ⟨found, isFound⟩ : ∃ found, table.column? name = some found :=
    Option.isSome_iff_exists.1 (List.find?_isSome.2 ⟨column, member, beq_iff_eq.2 isName⟩)
  refine (lookup_cells _ _).trans ?_
  change ((values.get? name).bind fun value => (table.column? name).map fun column =>
    Cell.stored column.type value) = _
  by_cases isGiven : values.has name = true
  · obtain ⟨value, isValue⟩ := Record.has_iff.1 isGiven
    rw [if_pos isGiven, Table.given, isValue, isFound]
    change _ = some (table.stores name value)
    rw [Table.stores, isFound]
    rfl
  · rw [if_neg isGiven, Record.get?_of_not_has (by simpa using isGiven)]
    rfl

theorem given_of_not_mem {name : String} (notColumn : name ∉ table.columnNames) :
    table.given values name = .null := by
  have notFound : table.column? name = none :=
    List.find?_eq_none.2 fun column member isName =>
      notColumn (List.mem_map.2 ⟨column, member, beq_iff_eq.1 isName⟩)
  unfold Table.given Table.stores Table.preset
  rw [notFound]
  cases values.get? name <;> rfl

/-- A row that an update replaces has the values laid over it. -/
theorem cell_overlaid (named : old.cells.map Prod.fst = table.columnNames)
    (isCells : new.cells = patched old (overlayByKey table key sought values).cells)
    (name : String) : new.cell name = table.overlay values old name := by
  have isOld := lookup_of_named named name
  have isNew : new.cells.lookup name = (old.cells.lookup name).map fun cell =>
      ((overlayByKey table key sought values).cells.lookup name).getD cell := by
    rw [isCells]
    exact lookup_map_snd (fun name cell =>
      ((overlayByKey table key sought values).cells.lookup name).getD cell) _ _
  unfold Table.overlay StoredRow.cell
  by_cases isColumn : name ∈ table.columnNames
  · rw [isNew, lookup_overlaid isColumn, isOld, if_pos isColumn]
    by_cases isGiven : values.has name = true
    · rw [if_pos isGiven, if_pos isGiven]
      rfl
    · rw [if_neg isGiven, if_neg isGiven]
      rfl
  · rw [isNew, isOld, if_neg isColumn, given_of_not_mem isColumn]
    exact (ite_self _).symm

/-- What an update by key leaves, where it is carried out: the row that has the key, with the values
laid over it, and everything else as it was. -/
theorem overlaid_of_evaluate (sound : SoundTables schema store.tables)
    (shaped : ShapedTables store.tables) (isTable : schema.table? table.name = some table)
    (isKey : table.primaryKeys = [key]) (member : old ∈ (store.tableOf table).rows)
    (hasKey : old.HasKey key sought)
    (evaluated : (overlayByKey table key sought values).evaluate store = .ok (store', cursor)) :
    cursor.count = 1 ∧ ∃ new, Replaces table store.tables store'.tables old new ∧
      ∀ name, new.cell name = table.overlay values old name := by
  obtain ⟨stored, new, replaced, rfl, _, isCount⟩ :=
    replaced_of_evaluate sound isTable isKey member hasKey evaluated
  have named := Store.shaped_tableOf shaped table old member
  rw [Store.table_tableOf sound isTable] at named
  exact ⟨isCount, new, replaces_of_replace sound isTable member replaced,
    cell_overlaid named (changed_eq_ok (replace_eq_ok replaced).1).1⟩

/-- A row that has a key, and over which values are laid, has the key that is left to it or given to
it, unless a key is given that its own cell does not have. -/
theorem hasKey_overlaid_iff (hasKey : old.HasKey key sought)
    (isNew : ∀ name, new.cell name = table.overlay values old name) :
    new.HasKey key ((values.get? key.name).getD sought) ↔
      ∀ value, values.get? key.name = some value →
        key.Finds value (table.stores key.name value) := by
  rw [StoredRow.hasKey_iff, isNew]
  unfold Table.overlay
  by_cases isGiven : values.has key.name = true
  · obtain ⟨value, isValue⟩ := Record.has_iff.1 isGiven
    rw [if_pos isGiven, Table.given, isValue]
    exact ⟨fun finds _ same => Option.some.inj same ▸ finds, fun finds => finds value rfl⟩
  · rw [if_neg isGiven, Record.get?_of_not_has (by simpa using isGiven)]
    exact iff_of_true hasKey nofun

end Sql.Update

/-! ## What is shown -/

/-- Whether a record shows another one with values laid over it. A value that its column does not hold
without loss shows as what is stored for it. -/
structure Record.OverlaidBy (table : Table) (values before after : Record) : Prop where
  kept : ∀ name, values.has name = false → after.get? name = before.get? name
  laid : ∀ name column value, table.column? name = some column → values.get? name = some value →
    ∃ shown, after.get? name = some shown ∧
      (column.type.Holds value → shown.Alike value)

theorem StoredRow.get?_read (table : Table) (row : StoredRow) (name : String) :
    (row.read table).get? name =
      (table.column? name).map fun column => (row.cell column.name).toValue column.type := by
  have isLookup := Record.get?_map_append (·.name)
    (fun column : Column => (row.cellsOf table ⟨table.name, column.name⟩).toValue column.type)
    table.columns [] name
  rw [List.append_nil, show Record.get? [] name = none from rfl, Option.or_none] at isLookup
  refine isLookup.trans ?_
  unfold Table.column?
  congr 1
  funext column
  exact congrArg (Cell.toValue column.type) (if_pos rfl)

theorem Table.overlaidBy {table : Table} {values : Record} {old new : StoredRow}
    (isNew : ∀ name, new.cell name = table.overlay values old name) :
    Record.OverlaidBy table values (old.read table) (new.read table) where
  kept name lacks := by
    rw [StoredRow.get?_read, StoredRow.get?_read]
    cases found : table.column? name with
    | none => rfl
    | some column =>
        have isNamed := Table.name_of_column? found
        rw [Option.map_some, Option.map_some, isNew, isNamed, overlay, lacks,
          if_neg Bool.false_ne_true]
  laid name column value found isValue := by
    have isNamed := Table.name_of_column? found
    have isCell : new.cell column.name = Cell.stored column.type value := by
      rw [isNew, isNamed, overlay, if_pos (Record.has_iff.2 ⟨value, isValue⟩), given, isValue]
      change table.stores name value = _
      rw [stores, found]
      rfl
    refine ⟨(Cell.stored column.type value).toValue column.type, ?_, ColumnType.Holds.alike⟩
    rw [StoredRow.get?_read, found, Option.map_some, isCell]

end RecordGraph

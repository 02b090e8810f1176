import RecordGraph.Proofs.Store.Reached

/-!
Contract: stored rows have a cell for every column.

Owns: `StoredTable.Shaped`, and that statements and transactions keep it in every database that is
reached.
Does not own: constraints on the cells.

A row that is replaced keeps the names of its cells. A column without a cell could therefore not be
overwritten. No row of a database that is reached lacks one.
-/

namespace RecordGraph

open RecordGraph.Sql

namespace StoredTable

/-- Whether every row has a cell for each column, in table order, and no others. -/
def Shaped (stored : StoredTable) : Prop :=
  ∀ row ∈ stored.rows, row.cells.map Prod.fst = stored.table.columnNames

theorem names_number {stored : StoredTable} {cells : List (String × Cell)} {row : StoredRow}
    (numbered : stored.number cells = .ok row) : row.cells.map Prod.fst = cells.map Prod.fst := by
  unfold number at numbered
  split at numbered
  · cases numbered
    rfl
  · split at numbered
    · cases numbered
      rw [List.map_map]
      rfl
    · cases numbered
      rfl
    · cases numbered

theorem names_patched (row : StoredRow) (cells : List (String × Cell)) :
    (patched row cells).map Prod.fst = row.cells.map Prod.fst := by
  unfold patched
  rw [List.map_map]
  rfl

theorem Shaped.add {stored : StoredTable} (shaped : stored.Shaped) {row : StoredRow}
    (named : row.cells.map Prod.fst = stored.table.columnNames) : (stored.add row).Shaped := by
  intro other member
  rcases mem_add_iff.1 member with rfl | isOld
  · exact named
  · exact shaped other isOld

theorem Shaped.remove {stored : StoredTable} (shaped : stored.Shaped) (number : Int) :
    (stored.remove number).Shaped :=
  fun row member => shaped row (List.mem_of_mem_filter member)

/-- A row that takes the place of another one has its columns. -/
theorem Shaped.replace {stored stored' : StoredTable} (shaped : stored.Shaped)
    {old row : StoredRow} (named : old.cells.map Prod.fst = stored.table.columnNames)
    {cells : List (String × Cell)} (replaced : stored.replace old cells = .ok (stored', row)) :
    stored'.Shaped := by
  obtain ⟨changed, _, _, rfl⟩ := replace_eq_ok replaced
  refine (shaped.remove old.number).add ?_
  rw [(changed_eq_ok changed).1, names_patched]
  exact named

end StoredTable

/-! ## Stores -/

def ShapedTables (tables : List StoredTable) : Prop := ∀ stored ∈ tables, stored.Shaped

namespace Store

variable {store : Store}

theorem shaped_empty (schema : Schema) : ShapedTables (empty schema).tables := by
  intro stored member
  obtain ⟨table, _, rfl⟩ := List.mem_map.1 member
  exact fun _ impossible => absurd impossible List.not_mem_nil

theorem shaped_tableOf (shaped : ShapedTables store.tables) (table : Table) :
    (store.tableOf table).Shaped := by
  unfold tableOf
  cases found : store.tables.find? (·.table.name == table.name) with
  | none => exact fun _ impossible => absurd impossible List.not_mem_nil
  | some stored => exact shaped stored (List.mem_of_find?_eq_some found)

theorem shaped_setTable (shaped : ShapedTables store.tables) {stored : StoredTable}
    (storedShaped : stored.Shaped) : ShapedTables (store.setTable stored).tables := by
  intro other member
  obtain ⟨earlier, isEarlier, rfl⟩ := List.mem_map.1 member
  split
  · exact storedShaped
  · exact shaped earlier isEarlier

end Store

/-! ## Statements -/

namespace Sql

open StoredTable

variable {schema : Schema} {store store' : Store} {cursor : Cursor}

theorem Insert.shaped_insertOne {insert : Insert} (sound : SoundTables schema store.tables)
    (isTable : schema.table? insert.table.name = some insert.table)
    (shaped : ShapedTables store.tables) {row : Record} {touched : Option StoredRow}
    (inserted : insert.insertOne store row = .ok (store', touched)) :
    ShapedTables store'.tables := by
  obtain ⟨candidate, numbered, _, inserts⟩ := insertOne_eq_ok inserted
  have storedShaped := Store.shaped_tableOf shaped insert.table
  cases inserts with
  | added _ _ =>
      refine Store.shaped_setTable shaped (storedShaped.add ?_)
      rw [names_number numbered, names_cells, Store.table_tableOf sound isTable]
  | merged _ isTarget replaced =>
      have named := storedShaped _ (mem_of_target? isTarget)
      exact Store.shaped_setTable shaped (storedShaped.replace named replaced)
  | dropped _ _ => exact shaped

theorem Insert.shaped_insertAll {insert : Insert}
    (isTable : schema.table? insert.table.name = some insert.table) {rows : List Record}
    {touched : List StoredRow} (sound : SoundTables schema store.tables)
    (shaped : ShapedTables store.tables)
    (inserted : insert.insertAll store rows = .ok (store', touched)) :
    ShapedTables store'.tables := by
  induction rows generalizing store touched with
  | nil =>
      cases inserted
      exact shaped
  | cons row rest inductionHypothesis =>
      obtain ⟨⟨middle, head⟩, headOk, inserted⟩ := Result.bind_eq_ok.1 inserted
      obtain ⟨⟨last, tail⟩, tailOk, inserted⟩ := Result.bind_eq_ok.1 inserted
      cases Result.pure_eq_ok.1 inserted
      exact inductionHypothesis (sound_insertOne sound isTable headOk)
        (shaped_insertOne sound isTable shaped headOk) tailOk

/-- Rows that are replaced one after the other keep their columns. -/
theorem Update.shaped_replaced {cells : List (String × Cell)} {rows : List StoredRow}
    {stored stored' : StoredTable} (shaped : stored.Shaped)
    (named : ∀ row ∈ rows, row.cells.map Prod.fst = stored.table.columnNames)
    (folded : rows.foldlM (fun stored row => do
      let replaced ← stored.replace row cells
      pure replaced.1) stored = .ok stored') : stored'.Shaped := by
  induction rows generalizing stored with
  | nil =>
      cases folded
      exact shaped
  | cons row rest inductionHypothesis =>
      rw [List.foldlM_cons] at folded
      obtain ⟨middle, stepped, folded⟩ := Result.bind_eq_ok.1 folded
      obtain ⟨⟨made, new⟩, replaced, stepped⟩ := Result.bind_eq_ok.1 stepped
      cases Result.pure_eq_ok.1 stepped
      rw [List.forall_mem_cons] at named
      have sameTable : made.table = stored.table := by
        rw [(replace_eq_ok replaced).2.2.2]
        rfl
      refine inductionHypothesis (shaped.replace named.1 replaced) ?_ folded
      rw [sameTable]
      exact named.2

theorem Update.shaped_evaluate {change : Update} (shaped : ShapedTables store.tables)
    (evaluated : change.evaluate store = .ok (store', cursor)) : ShapedTables store'.tables := by
  obtain ⟨stored', folded, evaluated⟩ := Result.bind_eq_ok.1 evaluated
  cases Result.pure_eq_ok.1 evaluated
  have storedShaped := Store.shaped_tableOf shaped change.table
  exact Store.shaped_setTable shaped (shaped_replaced storedShaped
    (fun row member => storedShaped row (List.mem_of_mem_filter member)) folded)

theorem Delete.shaped_evaluate {removal : Delete} (shaped : ShapedTables store.tables) :
    ShapedTables (removal.evaluate store).1.tables := by
  have removed : ∀ (rows : List StoredRow) (stored : StoredTable), stored.Shaped →
      (rows.foldl (fun stored row => stored.remove row.number) stored).Shaped := by
    intro rows
    induction rows with
    | nil => exact fun _ storedShaped => storedShaped
    | cons row rest inductionHypothesis =>
        exact fun _ storedShaped => inductionHypothesis _ (storedShaped.remove row.number)
  exact Store.shaped_setTable shaped (removed _ _ (Store.shaped_tableOf shaped removal.table))

theorem Statement.shaped_evaluate {statement : Statement} (inSchema : statement.Over schema)
    (sound : SoundTables schema store.tables) (shaped : ShapedTables store.tables)
    (evaluated : statement.evaluate store = .ok (store', cursor)) :
    ShapedTables store'.tables := by
  cases statement with
  | select query =>
      cases evaluated
      exact shaped
  | insert insertion =>
      obtain ⟨_, _, evaluated⟩ := Result.bind_eq_ok.1 evaluated
      obtain ⟨⟨last, touched⟩, inserted, evaluated⟩ := Result.bind_eq_ok.1 evaluated
      cases Result.pure_eq_ok.1 evaluated
      exact Insert.shaped_insertAll (inSchema _ rfl) sound shaped inserted
  | update change => exact Update.shaped_evaluate shaped evaluated
  | delete removal =>
      cases evaluated
      exact Delete.shaped_evaluate shaped

end Sql

/-! ## Databases -/

namespace Database

/-- Whether the rows of a database have their columns, now and after a rollback. -/
structure Shaped (database : Database) : Prop where
  tables : ShapedTables database.store.tables
  saved : ∀ transaction, database.transaction = some transaction → ShapedTables transaction.saved

theorem Shaped.run {schema : Schema} {database : Database} (shaped : database.Shaped)
    (sound : database.Sound schema) {statement : Statement} (inSchema : statement.Over schema) :
    (Database.run statement database).2.Shaped where
  tables := by
    have answers := run_answers statement database
    cases answered : answer statement database.store with
    | ok outcome =>
        rw [answered] at answers
        rw [answers.2]
        exact Statement.shaped_evaluate inSchema sound.tables shaped.tables
          (answer_eq_ok_iff.1 answered).2.2.1
    | error refusal =>
        rw [answered] at answers
        rw [answers.2]
        exact shaped.tables
  saved := by
    intro transaction isOpen
    rw [run_transaction] at isOpen
    obtain ⟨earlier, wasOpen, rfl⟩ := Option.map_eq_some_iff.1 isOpen
    exact shaped.saved earlier wasOpen

/-- The rows of every database that is reached have their columns. -/
theorem Reached.shaped {schema : Schema} {database : Database} (reached : Reached schema database) :
    database.Shaped := by
  induction reached with
  | created isNew =>
      unfold create at isNew
      split at isNew
      · exact absurd isNew Result.throw_ne_ok
      · cases Result.pure_eq_ok.1 isNew
        exact ⟨Store.shaped_empty schema, nofun⟩
  | ran before inSchema inductionHypothesis => exact inductionHypothesis.run before.sound inSchema
  | begun before inductionHypothesis =>
      refine ⟨inductionHypothesis.tables, fun transaction isOpen => ?_⟩
      cases isOpen
      exact inductionHypothesis.tables
  | @committed database before inductionHypothesis =>
      refine ⟨?_, fun transaction isOpen => ?_⟩
      · rw [finish_store]
        exact inductionHypothesis.tables
      · rw [finish_transaction] at isOpen
        cases isOpen
  | @rolledBack database before inductionHypothesis =>
      refine ⟨?_, fun transaction isOpen => ?_⟩
      · unfold rollback
        rw [finish_store]
        cases isOpen : database.transaction with
        | none => exact inductionHypothesis.tables
        | some transaction => exact inductionHypothesis.saved transaction isOpen
      · unfold rollback at isOpen
        rw [finish_transaction] at isOpen
        cases isOpen

end Database

end RecordGraph

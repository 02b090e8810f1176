import RecordGraph.Proofs.Store.Answer
import RecordGraph.Proofs.Store.Sound

/-!
Contract: the constraints on stored rows hold in every database that is reached.

Owns: `SoundTables`, the course of an insertion, `Database.Reached`, and that statements and
transactions keep the constraints.
Does not own: what statements answer.
-/

namespace RecordGraph

open RecordGraph.Sql

/-! ## Tables of a schema -/

/-- Whether tables are those of a schema, by name, and obey their constraints. -/
structure SoundTables (schema : Schema) (tables : List StoredTable) : Prop where
  agree : ∀ name, (tables.find? (·.table.name == name)).map (·.table) = schema.table? name
  sound : ∀ stored ∈ tables, stored.Sound

namespace Store

variable {schema : Schema} {store : Store} {table : Table}

theorem sound_empty (schema : Schema) : SoundTables schema (empty schema).tables where
  agree name := by
    unfold empty Schema.table?
    rw [List.find?_map, Option.map_map]
    exact congrFun Option.map_id _
  sound stored member := by
    obtain ⟨table, _, rfl⟩ := List.mem_map.1 member
    exact StoredTable.sound_empty table

theorem sound_tableOf (sound : SoundTables schema store.tables) (table : Table) :
    (store.tableOf table).Sound := by
  unfold tableOf
  cases found : store.tables.find? (·.table.name == table.name) with
  | none => exact StoredTable.sound_empty table
  | some stored => exact sound.sound stored (List.mem_of_find?_eq_some found)

theorem table_tableOf (sound : SoundTables schema store.tables)
    (isTable : schema.table? table.name = some table) : (store.tableOf table).table = table := by
  have agrees := sound.agree table.name
  unfold tableOf
  cases found : store.tables.find? (·.table.name == table.name) with
  | none => rfl
  | some stored =>
      rw [found, isTable] at agrees
      exact Option.some.inj agrees

theorem find?_setTable (store : Store) (stored : StoredTable) (name : String) :
    (store.setTable stored).tables.find? (·.table.name == name) =
      (store.tables.find? (·.table.name == name)).map fun other =>
        if other.table.name = stored.table.name then stored else other := by
  unfold setTable
  rw [List.find?_map]
  congr 2
  funext other
  by_cases same : other.table.name = stored.table.name
  · simp [same]
  · simp [same]

theorem sound_setTable (sound : SoundTables schema store.tables) {stored : StoredTable}
    (isTable : schema.table? stored.table.name = some stored.table) (storedSound : stored.Sound) :
    SoundTables schema (store.setTable stored).tables where
  agree name := by
    rw [find?_setTable, Option.map_map, ← sound.agree]
    cases found : store.tables.find? (·.table.name == name) with
    | none => rfl
    | some other =>
        have isNamed : other.table.name = name := by simpa using List.find?_some found
        have agrees := sound.agree name
        rw [found] at agrees
        by_cases same : other.table.name = stored.table.name
        · have isOther : stored.table = other.table := by
            rw [← isNamed, same, isTable] at agrees
            exact (Option.some.inj agrees).symm
          simp [isOther]
        · simp [same]
  sound other member := by
    obtain ⟨earlier, isEarlier, rfl⟩ := List.mem_map.1 member
    split
    · exact storedSound
    · exact sound.sound earlier isEarlier

theorem tableOf_setTable (sound : SoundTables schema store.tables) {stored : StoredTable}
    (isTable : schema.table? stored.table.name = some stored.table) :
    (store.setTable stored).tableOf stored.table = stored := by
  have agrees := sound.agree stored.table.name
  rw [isTable] at agrees
  obtain ⟨other, found, _⟩ := Option.map_eq_some_iff.1 agrees
  have isNamed : other.table.name = stored.table.name := by simpa using List.find?_some found
  unfold tableOf
  rw [find?_setTable, found, Option.map_some, if_pos isNamed, Option.getD_some]

end Store

/-! ## Insertions -/

namespace Sql.Insert

open StoredTable

/-- The columns that a conflict clause overwrites, if it overwrites any. -/
def assigned? : ConflictClause → Option (List String)
  | .overwriteOn _ columns | .overwriteAny columns => some columns
  | _ => none

/-- The course of an insertion of one row: the row is added, takes the place of the one it collides
with, or is dropped for it. -/
inductive Inserts (insert : Insert) (store : Store) (candidate : StoredRow) :
    Store → Option StoredRow → Prop where
  | added (noTarget : target? (store.tableOf insert.table) insert.conflict candidate = none)
      (free : (store.tableOf insert.table).collision? candidate = none) :
      Inserts insert store candidate
        { store.setTable ((store.tableOf insert.table).add candidate) with
          lastNumber := candidate.number }
        (some candidate)
  | merged {columns : List String} {old row : StoredRow} {stored : StoredTable}
      (overwrites : assigned? insert.conflict = some columns)
      (isTarget : target? (store.tableOf insert.table) insert.conflict candidate = some old)
      (replaced : (store.tableOf insert.table).replace old
        (overwritten insert.conflict candidate) = .ok (stored, row)) :
      Inserts insert store candidate (store.setTable stored) (some row)
  | dropped {old : StoredRow} (keeps : assigned? insert.conflict = none)
      (isTarget : target? (store.tableOf insert.table) insert.conflict candidate = some old) :
      Inserts insert store candidate store none

theorem insertOne_eq_ok {insert : Insert} {store store' : Store} {row : Record}
    {touched : Option StoredRow} (inserted : insert.insertOne store row = .ok (store', touched)) :
    ∃ candidate, (store.tableOf insert.table).number (insert.cells row) = .ok candidate ∧
      (store.tableOf insert.table).checkValues candidate = .ok () ∧
        Inserts insert store candidate store' touched := by
  rcases Result.bind_eq_ok.1 inserted with ⟨candidate, numbered, inserted⟩
  rcases Result.bind_eq_ok.1 inserted with ⟨_, values, inserted⟩
  refine ⟨candidate, numbered, values, ?_⟩
  cases isTarget : target? (store.tableOf insert.table) insert.conflict candidate with
  | none =>
      rw [isTarget] at inserted
      rcases Result.bind_eq_ok.1 inserted with ⟨_, keys, inserted⟩
      cases Result.pure_eq_ok.1 inserted
      exact .added isTarget (checkKeys_eq_ok keys)
  | some old =>
      rw [isTarget] at inserted
      cases overwrites : assigned? insert.conflict with
      | none =>
          cases isConflict : insert.conflict with
          | overwriteOn target columns | overwriteAny columns =>
              rw [isConflict] at overwrites
              cases overwrites
          | nothing | keepOn target | keepAny =>
              rw [isConflict] at inserted
              cases Result.pure_eq_ok.1 inserted
              exact .dropped overwrites isTarget
      | some columns =>
          cases isConflict : insert.conflict with
          | overwriteOn target columns | overwriteAny columns =>
              rw [isConflict] at inserted
              rcases Result.bind_eq_ok.1 inserted with ⟨⟨stored, made⟩, replaced, inserted⟩
              cases Result.pure_eq_ok.1 inserted
              rw [← isConflict] at replaced
              exact .merged overwrites isTarget replaced
          | nothing | keepOn target | keepAny =>
              rw [isConflict] at overwrites
              cases overwrites

theorem ordered_cells (insert : Insert) (row : Record) :
    ∀ entry ∈ insert.cells row, entry.2.Ordered := by
  intro entry member
  obtain ⟨column, _, rfl⟩ := List.mem_map.1 member
  dsimp only
  split
  · exact Cell.ordered_stored _ _
  · exact Cell.ordered_preset _

theorem names_cells (insert : Insert) (row : Record) :
    (insert.cells row).map Prod.fst = insert.table.columnNames := by
  unfold cells Table.columnNames
  rw [List.map_map]
  rfl

end Sql.Insert

theorem Table.mem_of_numberedKey? {table : Table} {key : Column}
    (isKey : table.numberedKey? = some key) : key ∈ table.columns := by
  unfold numberedKey? at isKey
  split at isKey
  · rename_i column isSingle
    split at isKey
    · cases isKey
      have member : key ∈ table.primaryKeys := by rw [isSingle]; exact List.mem_singleton_self key
      exact List.mem_of_mem_filter member
    · cases isKey
  · cases isKey

namespace StoredTable

theorem mem_of_collision? {stored : StoredTable} {candidate row : StoredRow}
    {columns : List String} (found : stored.collision? candidate = some (columns, row)) :
    row ∈ stored.rows := by
  unfold collision? at found
  dsimp only at found
  split at found
  · rename_i collision isNumbered
    cases found
    split at isNumbered
    · obtain ⟨other, isOther, same⟩ := Option.map_eq_some_iff.1 isNumbered
      cases same
      exact List.mem_of_find?_eq_some isOther
    · cases isNumbered
  · obtain ⟨_, _, found⟩ := List.exists_of_findSome?_eq_some found
    obtain ⟨other, isOther, same⟩ := Option.map_eq_some_iff.1 found
    cases same
    exact List.mem_of_find?_eq_some isOther

end StoredTable

namespace Sql.Insert

open StoredTable

theorem mem_of_target? {stored : StoredTable} {conflict : ConflictClause}
    {candidate row : StoredRow} (found : target? stored conflict candidate = some row) :
    row ∈ stored.rows := by
  cases conflict with
  | nothing => cases found
  | keepOn columns | overwriteOn columns _ =>
      unfold target? at found
      dsimp only at found
      split at found
      · exact List.mem_of_find?_eq_some found
      · exact List.mem_of_find?_eq_some found
  | keepAny | overwriteAny _ =>
      obtain ⟨⟨columns, other⟩, isCollision, same⟩ := Option.map_eq_some_iff.1 found
      cases same
      exact mem_of_collision? isCollision

theorem ordered_overwritten {conflict : ConflictClause} {candidate : StoredRow}
    (ordered : candidate.Ordered) :
    ∀ entry ∈ overwritten conflict candidate, entry.2.Ordered := by
  intro entry member
  unfold overwritten at member
  split at member
  · exact ordered entry (List.mem_of_mem_filter member)
  · exact ordered entry (List.mem_of_mem_filter member)
  · exact absurd member List.not_mem_nil

variable {schema : Schema} {insert : Insert} {store store' : Store}

/-- The row that an insert tries to store is numbered. -/
theorem numbers_candidate (sound : SoundTables schema store.tables)
    (isTable : schema.table? insert.table.name = some insert.table) {row : Record}
    {candidate : StoredRow}
    (numbered : (store.tableOf insert.table).number (insert.cells row) = .ok candidate) :
    (store.tableOf insert.table).Numbers candidate := by
  refine number_eq_ok numbered (insert.ordered_cells row) fun key isKey => ?_
  rw [Store.table_tableOf sound isTable] at isKey
  rw [names_cells]
  exact List.mem_map_of_mem (Table.mem_of_numberedKey? isKey)

theorem sound_insertOne (sound : SoundTables schema store.tables)
    (isTable : schema.table? insert.table.name = some insert.table) {row : Record}
    {touched : Option StoredRow} (inserted : insert.insertOne store row = .ok (store', touched)) :
    SoundTables schema store'.tables := by
  rcases insertOne_eq_ok inserted with ⟨candidate, numbered, values, inserts⟩
  have numbers := numbers_candidate sound isTable numbered
  have storedSound := Store.sound_tableOf sound insert.table
  have isStored := Store.table_tableOf sound isTable
  cases inserts with
  | added noTarget free =>
      refine Store.sound_setTable sound ?_ (storedSound.add (storedSound.fits numbers values free))
      rw [StoredTable.add, isStored]
      exact isTable
  | @merged _ old _ _ _ isTarget replaced =>
      have isOld := storedSound.ordered old (mem_of_target? isTarget)
      refine Store.sound_setTable sound ?_
        (storedSound.replace isOld (ordered_overwritten numbers.ordered) replaced)
      rw [(replace_eq_ok replaced).2.2.2, StoredTable.add, StoredTable.remove, isStored]
      exact isTable
  | dropped _ _ => exact sound

theorem sound_insertAll (isTable : schema.table? insert.table.name = some insert.table)
    {rows : List Record} {touched : List StoredRow} (sound : SoundTables schema store.tables)
    (inserted : insert.insertAll store rows = .ok (store', touched)) :
    SoundTables schema store'.tables := by
  induction rows generalizing store touched with
  | nil =>
      cases inserted
      exact sound
  | cons row rest inductionHypothesis =>
      rcases Result.bind_eq_ok.1 inserted with ⟨⟨middle, head⟩, headOk, inserted⟩
      rcases Result.bind_eq_ok.1 inserted with ⟨⟨last, tail⟩, tailOk, inserted⟩
      cases Result.pure_eq_ok.1 inserted
      exact inductionHypothesis (sound_insertOne sound isTable headOk) tailOk

end Sql.Insert

/-! ## Statements -/

namespace Sql.Statement

/-- The table that a statement may change. -/
def changed? : Statement → Option Table
  | .select _ => none
  | .insert insertion => some insertion.table
  | .update change => some change.table
  | .delete removal => some removal.table

/-- Whether a statement changes no table but those of a schema. -/
def Over (schema : Schema) (statement : Statement) : Prop :=
  ∀ table, statement.changed? = some table → schema.table? table.name = some table

variable {schema : Schema} {store store' : Store}

theorem sound_update {change : Update} {cursor : Cursor} (sound : SoundTables schema store.tables)
    (isTable : schema.table? change.table.name = some change.table)
    (evaluated : change.evaluate store = .ok (store', cursor)) :
    SoundTables schema store'.tables := by
  have cellsOrdered : ∀ entry ∈ change.cells, entry.2.Ordered := by
    intro entry member
    obtain ⟨column, _, rfl⟩ := List.mem_map.1 member
    exact Cell.ordered_stored _ _
  -- every replacement keeps the table sound and its columns
  have walk : ∀ (rows : List StoredRow) (stored stored' : StoredTable),
      (∀ row ∈ rows, row.Ordered) → stored.Sound →
      rows.foldlM (fun stored row => do
        let replaced ← stored.replace row change.cells
        pure replaced.1) stored = .ok stored' → stored'.Sound ∧ stored'.table = stored.table := by
    intro rows
    induction rows with
    | nil =>
        intro stored stored' _ storedSound folded
        cases folded
        exact ⟨storedSound, rfl⟩
    | cons row rest inductionHypothesis =>
        intro stored stored' rowsOrdered storedSound folded
        rw [List.foldlM_cons] at folded
        rcases Result.bind_eq_ok.1 folded with ⟨middle, stepOk, folded⟩
        rcases Result.bind_eq_ok.1 stepOk with ⟨⟨made, new⟩, replaced, stepOk⟩
        cases Result.pure_eq_ok.1 stepOk
        rw [List.forall_mem_cons] at rowsOrdered
        have madeSound := storedSound.replace rowsOrdered.1 cellsOrdered replaced
        have last := inductionHypothesis _ stored' rowsOrdered.2 madeSound folded
        refine ⟨last.1, last.2.trans ?_⟩
        rw [(StoredTable.replace_eq_ok replaced).2.2.2]
        rfl
  rcases Result.bind_eq_ok.1 evaluated with ⟨stored', folded, evaluated⟩
  cases Result.pure_eq_ok.1 evaluated
  have storedSound := Store.sound_tableOf sound change.table
  have last := walk _ _ _ (fun row member => storedSound.ordered row (List.mem_of_mem_filter member))
    storedSound folded
  refine Store.sound_setTable sound ?_ last.1
  rw [last.2, Store.table_tableOf sound isTable]
  exact isTable

theorem sound_delete {removal : Delete} (sound : SoundTables schema store.tables)
    (isTable : schema.table? removal.table.name = some removal.table) :
    SoundTables schema (removal.evaluate store).1.tables := by
  have walk : ∀ (rows : List StoredRow) (stored : StoredTable), stored.Sound →
      (rows.foldl (fun stored row => stored.remove row.number) stored).Sound ∧
        (rows.foldl (fun stored row => stored.remove row.number) stored).table = stored.table := by
    intro rows
    induction rows with
    | nil => exact fun stored storedSound => ⟨storedSound, rfl⟩
    | cons row rest inductionHypothesis =>
        exact fun stored storedSound => inductionHypothesis _ (storedSound.remove row.number)
  have last := walk (matchingRows (store.tableOf removal.table) removal.conditions) _
    (Store.sound_tableOf sound removal.table)
  refine Store.sound_setTable sound ?_ last.1
  rw [last.2, Store.table_tableOf sound isTable]
  exact isTable

/-- Statements keep the constraints. -/
theorem sound_evaluate {statement : Statement} {cursor : Cursor} (inSchema : statement.Over schema)
    (sound : SoundTables schema store.tables)
    (evaluated : statement.evaluate store = .ok (store', cursor)) :
    SoundTables schema store'.tables := by
  cases statement with
  | select query =>
      cases evaluated
      exact sound
  | insert insertion =>
      rcases Result.bind_eq_ok.1 evaluated with ⟨_, _, evaluated⟩
      rcases Result.bind_eq_ok.1 evaluated with ⟨⟨last, touched⟩, inserted, evaluated⟩
      cases Result.pure_eq_ok.1 evaluated
      exact Insert.sound_insertAll (inSchema _ rfl) sound inserted
  | update change => exact sound_update sound (inSchema _ rfl) evaluated
  | delete removal =>
      cases evaluated
      exact sound_delete sound (inSchema _ rfl)

end Sql.Statement

/-! ## Databases -/

namespace Database

/-- The databases that are reached from the empty tables of a schema. -/
inductive Reached (schema : Schema) : Database → Prop where
  | created {database : Database} (isNew : create schema = .ok database) : Reached schema database
  | ran {database : Database} {statement : Statement} (before : Reached schema database)
      (inSchema : statement.Over schema) : Reached schema (run statement database).2
  | begun {database : Database} (before : Reached schema database) : Reached schema database.begin
  | committed {database : Database} (before : Reached schema database) :
      Reached schema (database.finish .commit)
  | rolledBack {database : Database} (before : Reached schema database) :
      Reached schema database.rollback

/-- Whether the tables of a database obey their constraints, now and after a rollback. -/
structure Sound (schema : Schema) (database : Database) : Prop where
  tables : SoundTables schema database.store.tables
  saved : ∀ transaction, database.transaction = some transaction →
    SoundTables schema transaction.saved

theorem Sound.run {schema : Schema} {database : Database} (sound : database.Sound schema)
    {statement : Statement} (inSchema : statement.Over schema) :
    (Database.run statement database).2.Sound schema where
  tables := by
    have answers := run_answers statement database
    cases answered : answer statement database.store with
    | ok outcome =>
        rw [answered] at answers
        rw [answers.2]
        exact Statement.sound_evaluate inSchema sound.tables (answer_eq_ok_iff.1 answered).2.2.1
    | error refusal =>
        rw [answered] at answers
        rw [answers.2]
        exact sound.tables
  saved := by
    intro transaction isOpen
    rw [run_transaction] at isOpen
    obtain ⟨earlier, wasOpen, same⟩ := Option.map_eq_some_iff.1 isOpen
    rw [← same]
    exact sound.saved earlier wasOpen

theorem Sound.rollback {schema : Schema} {database : Database} (sound : database.Sound schema) :
    database.rollback.Sound schema where
  tables := by
    unfold Database.rollback
    rw [finish_store]
    cases isOpen : database.transaction with
    | none => exact sound.tables
    | some transaction => exact sound.saved transaction isOpen
  saved transaction isOpen := by
    unfold Database.rollback at isOpen
    rw [finish_transaction] at isOpen
    cases isOpen

/-- The constraints hold in every database that is reached. -/
theorem Reached.sound {schema : Schema} {database : Database} (reached : Reached schema database) :
    database.Sound schema := by
  induction reached with
  | created isNew =>
      unfold create at isNew
      split at isNew
      · exact absurd isNew Result.throw_ne_ok
      · cases Result.pure_eq_ok.1 isNew
        exact ⟨Store.sound_empty schema, nofun⟩
  | ran before inSchema inductionHypothesis => exact inductionHypothesis.run inSchema
  | begun before inductionHypothesis =>
      refine ⟨inductionHypothesis.tables, fun transaction isOpen => ?_⟩
      cases isOpen
      exact inductionHypothesis.tables
  | committed before inductionHypothesis =>
      refine ⟨?_, fun transaction isOpen => ?_⟩
      · rw [finish_store]
        exact inductionHypothesis.tables
      · rw [finish_transaction] at isOpen
        cases isOpen
  | rolledBack before inductionHypothesis => exact inductionHypothesis.rollback

end Database

end RecordGraph

import RecordGraph.Proofs.Schema.Reachable
import RecordGraph.Proofs.Store.Lookup

/-!
Contract: the key of the row that an insert touches.

Owns: that an insert touches a stored row, and which conflict clauses leave that row under the key
that was to be inserted.
Does not own: how the row is found again.
-/

namespace RecordGraph

open RecordGraph.Sql

namespace StoredTable

theorem lookup_of_filled {row : StoredRow} {name : String} (filled : row.cell name ≠ .null) :
    row.cells.lookup name = some (row.cell name) := by
  unfold StoredRow.cell at filled ⊢
  cases found : row.cells.lookup name with
  | some cell => rfl
  | none =>
      rw [found] at filled
      exact absurd rfl filled

/-- A patched row has the new cells that there are, and its own in the other columns. -/
theorem cell_of_patched {old row : StoredRow} {cells : List (String × Cell)} {name : String}
    (isCells : row.cells = patched old cells) (oldFilled : old.cell name ≠ .null) :
    row.cell name = (cells.lookup name).getD (old.cell name) := by
  have isCell : row.cells.lookup name = some ((cells.lookup name).getD (old.cell name)) := by
    rw [isCells]
    unfold patched
    rw [lookup_map_snd fun name cell => (cells.lookup name).getD cell, lookup_of_filled oldFilled]
    rfl
  rw [StoredRow.cell, isCell]
  rfl

/-- A replaced row has the new cells of some columns, and its own in the others. -/
theorem cell_patched {old row candidate : StoredRow} {columns : List String} {name : String}
    (isCells : row.cells =
      patched old (candidate.cells.filter fun cell => columns.contains cell.1))
    (oldFilled : old.cell name ≠ .null) (newFilled : candidate.cell name ≠ .null) :
    row.cell name = if name ∈ columns then candidate.cell name else old.cell name := by
  have chosen : (candidate.cells.filter fun cell => columns.contains cell.1).lookup name =
      if name ∈ columns then some (candidate.cell name) else none := by
    have isLookup := lookup_filter_fst columns.contains candidate.cells name
    rw [lookup_of_filled newFilled] at isLookup
    simpa using isLookup
  rw [cell_of_patched isCells oldFilled, chosen]
  by_cases isChosen : name ∈ columns
  · simp [isChosen]
  · simp [isChosen]

end StoredTable

namespace Sql.Insert

open StoredTable

/-- Whether a conflict clause leaves rows under the key that was to be inserted: it resolves
collisions of the key, or overwrites the key. -/
def KeepsKey (key : String) : ConflictClause → Prop
  | .overwriteOn target columns => target = [key] ∨ key ∈ columns
  | .overwriteAny columns => key ∈ columns
  | _ => True

variable {schema : Schema} {insert : Insert} {store store' : Store} {row : Record} {key : Column}
variable {hit : StoredRow}

/-- A row that is touched is stored. -/
theorem mem_of_touched (sound : SoundTables schema store.tables)
    (inSchema : schema.table? insert.table.name = some insert.table)
    (inserted : insert.insertOne store row = .ok (store', some hit)) :
    hit ∈ (store'.tableOf insert.table).rows := by
  have isStored := Store.table_tableOf sound inSchema
  rcases insertOne_eq_ok inserted with ⟨candidate, _, _, inserts⟩
  have added : ∀ stored : StoredTable, stored.table = insert.table →
      ((store.setTable (stored.add hit)).tableOf insert.table).rows = (stored.add hit).rows := by
    intro stored isTable
    have inSchema' : schema.table? (stored.add hit).table.name = some (stored.add hit).table := by
      rw [StoredTable.add, isTable]
      exact inSchema
    rw [← isTable]
    exact congrArg StoredTable.rows (Store.tableOf_setTable sound inSchema')
  cases inserts with
  | added noTarget free =>
      refine (congrArg (hit ∈ ·) (added _ isStored)).mpr ?_
      exact mem_add_iff.2 (.inl rfl)
  | @merged _ old _ _ _ _ replaced =>
      rw [(replace_eq_ok replaced).2.2.2,
        added ((store.tableOf insert.table).remove old.number) isStored]
      exact mem_add_iff.2 (.inl rfl)

theorem number_of_target {stored : StoredTable} (isNumbered : stored.table.numberedKey? = some key)
    {columns : List String} {candidate old : StoredRow}
    (isTarget : target? stored (.overwriteOn [key.name] columns) candidate = some old) :
    old.number = candidate.number := by
  have found : stored.rows.find? (·.number == candidate.number) = some old := by
    simpa [target?, isNumbered, rowWithNumber?] using isTarget
  have matched : (old.number == candidate.number) = true :=
    List.find?_some (p := fun row : StoredRow => row.number == candidate.number) found
  exact beq_iff_eq.1 matched

/-- The row that a conflict on a single key finds has the key of the candidate. -/
theorem standing_of_target (sound : SoundTables schema store.tables)
    (inSchema : schema.table? insert.table.name = some insert.table)
    (isKey : insert.table.primaryKeys = [key]) {columns : List String} {candidate old : StoredRow}
    (numbers : (store.tableOf insert.table).Numbers candidate)
    (isTarget : target? (store.tableOf insert.table) (.overwriteOn [key.name] columns) candidate =
      some old) :
    (old.cell key.name).standing? = (candidate.cell key.name).standing? := by
  have storedSound := Store.sound_tableOf sound insert.table
  have isOld := mem_of_target? isTarget
  by_cases isInteger : key.type = .integer
  · have isNumbered : (store.tableOf insert.table).table.numberedKey? = some key := by
      rw [Store.table_tableOf sound inSchema]
      simp [Table.numberedKey?, isKey, isInteger]
    rw [storedSound.numbered key isNumbered old isOld, numbers.numbered key isNumbered,
      number_of_target isNumbered isTarget]
  · have notNumbered : (store.tableOf insert.table).table.numberedKey? = none := by
      rw [Store.table_tableOf sound inSchema]
      simp [Table.numberedKey?, isKey, isInteger]
    have found : (store.tableOf insert.table).rows.find? (hasKey [key.name] candidate) = some old := by
      simpa [target?, notNumbered, rowWithKey?] using isTarget
    have shares := (hasKey_iff numbers.ordered (storedSound.ordered old isOld)).1
      (List.find?_some found)
    rcases shares key.name (List.mem_singleton_self _) with ⟨scalar, isCandidate, isOld⟩
    rw [isCandidate, isOld]

/-- Under a clause that keeps the key, a touched row has the key of the candidate. -/
theorem standing_of_touched (sound : SoundTables schema store.tables)
    (inSchema : schema.table? insert.table.name = some insert.table)
    (isKey : insert.table.primaryKeys = [key]) (keeps : KeepsKey key.name insert.conflict)
    (inserted : insert.insertOne store row = .ok (store', some hit)) :
    ∃ candidate, (store.tableOf insert.table).number (insert.cells row) = .ok candidate ∧
      (hit.cell key.name).standing? = (candidate.cell key.name).standing? := by
  rcases insertOne_eq_ok inserted with ⟨candidate, numbered, values, inserts⟩
  refine ⟨candidate, numbered, ?_⟩
  have storedSound := Store.sound_tableOf sound insert.table
  have isStored := Store.table_tableOf sound inSchema
  have isKey' : (store.tableOf insert.table).table.primaryKeys = [key] := by rw [isStored, isKey]
  have numbers := numbers_candidate sound inSchema numbered
  cases inserts with
  | added noTarget free => rfl
  | @merged columns old _ _ overwrites isTarget replaced =>
      have oldFilled := storedSound.filled_key isKey' (mem_of_target? isTarget)
      have newFilled : candidate.cell key.name ≠ .null := by
        by_cases isNumbered : (store.tableOf insert.table).table.numberedKey? = some key
        · rw [numbers.numbered key isNumbered]
          exact nofun
        · refine checkValues_eq_ok values key (Table.mem_of_primaryKeys isKey').1 ?_
          simp [Table.requires, isNumbered, (Table.mem_of_primaryKeys isKey').2]
      rcases changed_eq_ok (replace_eq_ok replaced).1 with ⟨isCells, _, _⟩
      have isOverwritten : overwritten insert.conflict candidate =
          candidate.cells.filter fun cell => columns.contains cell.1 := by
        cases isConflict : insert.conflict with
        | overwriteOn target others | overwriteAny others =>
            rw [isConflict] at overwrites
            cases overwrites
            rfl
        | nothing | keepOn target | keepAny =>
            rw [isConflict] at overwrites
            cases overwrites
      rw [isOverwritten] at isCells
      rw [cell_patched isCells oldFilled newFilled]
      by_cases isChosen : key.name ∈ columns
      · rw [if_pos isChosen]
      · rw [if_neg isChosen]
        cases isConflict : insert.conflict with
        | overwriteOn target others =>
            rw [isConflict] at overwrites keeps isTarget
            cases overwrites
            rcases keeps with rfl | impossible
            · exact standing_of_target sound inSchema isKey numbers isTarget
            · exact absurd impossible isChosen
        | overwriteAny others =>
            rw [isConflict] at overwrites keeps
            cases overwrites
            exact absurd keeps isChosen
        | nothing | keepOn target | keepAny =>
            rw [isConflict] at overwrites
            cases overwrites

/-! ## Keys that are given -/

theorem lookup_cells (distinct : insert.table.columnNames.Nodup) {column : Column}
    (isColumn : column ∈ insert.table.columns) :
    (insert.cells row).lookup column.name = some (match row.get? column.name with
      | some value => Cell.stored column.type value
      | none => column.preset) :=
  lookup_of_mem (by rw [names_cells]; exact distinct) (List.mem_map_of_mem isColumn)

end Sql.Insert

/-- Whether a key column stores a value as it is: an integer or a text, each in a column of its
type. -/
def Column.Plain (key : Column) (value : Value) : Prop :=
  (key.type = .integer ∧ ∃ number, value = .int number) ∨
    (key.type = .string ∧ ∃ chars, value = .text chars)

namespace Sql.Insert

open StoredTable

variable {schema : Schema} {insert : Insert} {store store' : Store} {row : Record} {key : Column}
variable {hit : StoredRow}

theorem get?_of_plain {name : String} (plain : key.Plain (row.getD name)) :
    row.get? name = some (row.getD name) := by
  unfold Record.getD at plain ⊢
  cases given : row.get? name with
  | some value => rfl
  | none =>
      rw [given] at plain
      rcases plain with ⟨_, number, impossible⟩ | ⟨_, chars, impossible⟩
      · cases impossible
      · cases impossible

/-- A candidate has the key that is given, if the key is stored as it is. -/
theorem hasKey_candidate (distinct : insert.table.columnNames.Nodup)
    (isKey : insert.table.primaryKeys = [key]) (plain : key.Plain (row.getD key.name))
    {stored : StoredTable} (isStored : stored.table = insert.table) {candidate : StoredRow}
    (numbered : stored.number (insert.cells row) = .ok candidate) :
    candidate.HasKey key (row.getD key.name) := by
  have isCell : (insert.cells row).lookup key.name =
      some (Cell.stored key.type (row.getD key.name)) := by
    rw [lookup_cells distinct (Table.mem_of_primaryKeys isKey).1, get?_of_plain plain]
  unfold StoredTable.number at numbered
  rw [isStored] at numbered
  rcases plain with ⟨isInteger, number, isNumber⟩ | ⟨isString, chars, isChars⟩
  · have isNumbered : insert.table.numberedKey? = some key := by
      simp [Table.numberedKey?, isKey, isInteger]
    rw [isNumber, isInteger] at isCell
    rw [isNumbered] at numbered
    dsimp only at numbered
    rw [isCell] at numbered
    cases numbered
    refine ⟨by rw [isNumber]; rfl, .number number, ?_, ?_⟩
    · unfold StoredRow.cell
      rw [isCell]
      rfl
    · rw [isNumber, isInteger, Cell.sought_integer]
      rfl
  · have notNumbered : insert.table.numberedKey? = none := by
      simp [Table.numberedKey?, isKey, isString]
    rw [isChars, isString] at isCell
    rw [notNumbered] at numbered
    cases numbered
    refine ⟨by rw [isChars]; rfl, .text chars, ?_, ?_⟩
    · unfold StoredRow.cell
      rw [isCell]
      rfl
    · rw [isChars, isString]
      rfl

/-- Under a clause that keeps the key, a touched row has the key that is given. -/
theorem hasKey_of_given (sound : SoundTables schema store.tables)
    (inSchema : schema.table? insert.table.name = some insert.table)
    (distinct : insert.table.columnNames.Nodup) (isKey : insert.table.primaryKeys = [key])
    (plain : key.Plain (row.getD key.name)) (keeps : KeepsKey key.name insert.conflict)
    (inserted : insert.insertOne store row = .ok (store', some hit)) :
    hit.HasKey key (row.getD key.name) := by
  rcases standing_of_touched sound inSchema isKey keeps inserted with ⟨candidate, numbered, same⟩
  rcases hasKey_candidate distinct isKey plain (Store.table_tableOf sound inSchema) numbered with
    ⟨notNull, scalar, stands, sought⟩
  exact ⟨notNull, scalar, same.trans stands, sought⟩

/-! ## Keys that are generated -/

/-- Whether a conflict clause resolves collisions of no other columns than the key. -/
def ResolvesKey (key : String) : ConflictClause → Prop
  | .overwriteOn target _ => target = [key]
  | .overwriteAny _ => False
  | _ => True

/-- Under a clause that resolves collisions of the key alone, a row without a key is added, and the
store reports its number. -/
theorem hasKey_of_generated (sound : SoundTables schema store.tables)
    (inSchema : schema.table? insert.table.name = some insert.table)
    (distinct : insert.table.columnNames.Nodup) (isKey : insert.table.primaryKeys = [key])
    (isInteger : key.type = .integer) (notGiven : row.getD key.name = .null)
    (resolves : ResolvesKey key.name insert.conflict)
    (inserted : insert.insertOne store row = .ok (store', some hit)) :
    hit.HasKey key (.int store'.lastNumber) := by
  have isStored := Store.table_tableOf sound inSchema
  have isNumbered : (store.tableOf insert.table).table.numberedKey? = some key := by
    rw [isStored]
    simp [Table.numberedKey?, isKey, isInteger]
  rcases insertOne_eq_ok inserted with ⟨candidate, numbered, values, inserts⟩
  have numbers := numbers_candidate sound inSchema numbered
  have isNull : ((insert.cells row).lookup key.name).getD .null = .null := by
    rw [lookup_cells distinct (Table.mem_of_primaryKeys isKey).1, isInteger]
    unfold Record.getD at notGiven
    cases given : row.get? key.name with
    | none => exact Cell.preset_of_primaryKey (Table.mem_of_primaryKeys isKey).2
    | some value =>
        rw [given] at notGiven
        cases notGiven
        rfl
  have isNext : candidate.number = (store.tableOf insert.table).nextNumber := by
    unfold StoredTable.number at numbered
    rw [isNumbered] at numbered
    dsimp only at numbered
    rw [isNull] at numbered
    cases numbered
    rfl
  cases inserts with
  | added noTarget free =>
      refine ⟨rfl, .number hit.number, ?_, ?_⟩
      · rw [numbers.numbered key isNumbered]
        rfl
      · rw [isInteger]
        exact congrArg Cell.standing? (Cell.sought_integer hit.number)
  | @merged columns old _ _ overwrites isTarget replaced =>
      have isOther := ne_nextNumber (mem_of_target? isTarget)
      cases isConflict : insert.conflict with
      | overwriteOn target others =>
          rw [isConflict] at resolves isTarget
          cases resolves
          rw [number_of_target isNumbered isTarget, isNext] at isOther
          exact absurd rfl isOther
      | overwriteAny others =>
          rw [isConflict] at resolves
          exact resolves.elim
      | nothing | keepOn target | keepAny =>
          rw [isConflict] at overwrites
          cases overwrites

end Sql.Insert

end RecordGraph

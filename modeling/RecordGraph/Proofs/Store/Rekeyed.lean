import RecordGraph.Proofs.Store.Lookup
import RecordGraph.Proofs.Store.Touched
import RecordGraph.Proofs.Value.Record

/-!
Contract: what an update leaves of the row with a key.

Owns: the cells of an update, which row it replaces, and when a row whose one column is updated is
found by the old key.
Does not own: updates of several rows, and what statements are issued.
-/

namespace RecordGraph

open RecordGraph.Sql

/-- Whether a cell of a key column has a value. Null is no key. -/
def Column.Finds (key : Column) (value : Value) (cell : Cell) : Prop :=
  value.isNull = false ∧ ∃ scalar, cell.standing? = some scalar ∧
    (Cell.sought key.type value).standing? = some scalar

theorem StoredRow.hasKey_iff (key : Column) (value : Value) (row : StoredRow) :
    row.HasKey key value ↔ key.Finds value (row.cell key.name) :=
  Iff.rfl

/-- What a column of a table stores for a value. -/
def Table.stores (table : Table) (name : String) (value : Value) : Cell :=
  ((table.column? name).map fun column => Cell.stored column.type value).getD .null

namespace StoredTable

variable {stored : StoredTable} {key : Column} {value : Value} {row : StoredRow}

theorem mem_matchingRows_byKey (sound : stored.Sound) (isKey : stored.table.primaryKeys = [key]) :
    row ∈ matchingRows stored [Condition.equal (Term.ofColumn stored.table key) value] ↔
      row ∈ stored.rows ∧ row.HasKey key value := by
  unfold matchingRows
  rw [List.mem_filter, List.all_cons, List.all_nil, Bool.and_true]
  refine and_congr_right fun member => ?_
  exact Condition.holds_equal_iff (sound.ordered row member) (sound.filled_key isKey member)

/-- A condition on a key matches the row that has it, once. -/
theorem matchingRows_byKey (sound : stored.Sound) (isKey : stored.table.primaryKeys = [key])
    (member : row ∈ stored.rows) (hasKey : row.HasKey key value) :
    matchingRows stored [Condition.equal (Term.ofColumn stored.table key) value] = [row] := by
  have matched := (mem_matchingRows_byKey sound isKey).2 ⟨member, hasKey⟩
  have only : ∀ other ∈ matchingRows stored [Condition.equal (Term.ofColumn stored.table key) value],
      other = row := by
    intro other isOther
    obtain ⟨isRow, otherHas⟩ := (mem_matchingRows_byKey sound isKey).1 isOther
    exact sound.eq_of_hasKey isKey isRow member otherHas hasKey
  have distinct : (matchingRows stored
      [Condition.equal (Term.ofColumn stored.table key) value]).Nodup := by
    refine (sound.distinct.filter _).imp fun differ same => differ ?_
    rw [same]
  cases isList : matchingRows stored [Condition.equal (Term.ofColumn stored.table key) value] with
  | nil =>
      rw [isList] at matched
      exact absurd matched List.not_mem_nil
  | cons head tail =>
      rw [isList] at only distinct
      rw [List.forall_mem_cons] at only
      have isEnd : tail = [] := by
        refine List.eq_nil_iff_forall_not_mem.2 fun other inTail => ?_
        refine (List.nodup_cons.1 distinct).1 ?_
        rw [only.1, ← only.2 other inTail]
        exact inTail
      rw [only.1, isEnd]

end StoredTable

namespace Sql.Update

open StoredTable

variable {table : Table} {name : String} {new : Value} {values : Record}

/-- An update has a cell for each column that is given a value, and for no other. -/
theorem lookup_cells (update : Update) (name : String) :
    update.cells.lookup name = (update.values.get? name).bind fun value =>
      (update.table.column? name).map fun column => Cell.stored column.type value := by
  unfold cells columns Table.column?
  induction update.table.columns with
  | nil => simp
  | cons column rest inductionHypothesis =>
      by_cases isGiven : update.values.has column.name = true
      · rw [List.filter_cons, if_pos isGiven, List.map_cons, List.lookup_cons]
        by_cases isNamed : column.name = name
        · obtain ⟨value, isValue⟩ := Record.has_iff.1 (isNamed ▸ isGiven)
          have isGotten : update.values.getD column.name = value := by
            rw [isNamed, Record.getD_of_get? isValue]
          simp [isNamed, isValue, ← isGotten]
        · have apart : (name == column.name) = false := beq_false_of_ne (Ne.symm isNamed)
          rw [apart, List.find?_cons_of_neg (by simpa using isNamed)]
          exact inductionHypothesis
      · rw [List.filter_cons, if_neg isGiven, inductionHypothesis]
        by_cases isNamed : column.name = name
        · have lacks : update.values.has name = false := by simpa [isNamed] using isGiven
          rw [Record.get?_of_not_has lacks]
          rfl
        · rw [List.find?_cons_of_neg (by simpa using isNamed)]

/-- The update of columns of the row with a key. -/
def overlayByKey (table : Table) (key : Column) (sought : Value) (values : Record) : Update :=
  ⟨table, values, [Condition.equal (Term.ofColumn table key) sought]⟩

/-- The update of one column of the row with a key. -/
def byKey (table : Table) (key : Column) (sought : Value) (name : String) (new : Value) : Update :=
  ⟨table, [(name, new)], [Condition.equal (Term.ofColumn table key) sought]⟩

variable {schema : Schema} {store store' : Store} {key : Column} {sought : Value} {cursor : Cursor}
variable {old : StoredRow}

/-- An update replaces the rows that it is about, one after the other. -/
theorem evaluate_of_chosen {update : Update} {chosen : List StoredRow}
    (isChosen : matchingRows (store.tableOf update.table) update.conditions = chosen) :
    update.evaluate store = (do
      let stored ← chosen.foldlM (fun stored row => do
        let replaced ← stored.replace row update.cells
        pure replaced.1) (store.tableOf update.table)
      pure (store.setTable stored, { count := chosen.length })) := by
  subst isChosen
  rfl

section Evaluation

variable (sound : SoundTables schema store.tables) (isTable : schema.table? table.name = some table)
  (isKey : table.primaryKeys = [key])

include sound isTable isKey

/-- The rows that an update by key is about are those that have the key. -/
theorem mem_chosen_iff {row : StoredRow} :
    row ∈ matchingRows (store.tableOf table) (overlayByKey table key sought values).conditions ↔
      row ∈ (store.tableOf table).rows ∧ row.HasKey key sought := by
  have isStored := Store.table_tableOf sound isTable
  have isMatched := @mem_matchingRows_byKey _ key sought row (Store.sound_tableOf sound table)
    (by rw [isStored, isKey])
  rw [isStored] at isMatched
  exact isMatched

/-- Where no row has the key, an update by key does nothing. -/
theorem evaluate_of_missing
    (missing : ¬∃ row ∈ (store.tableOf table).rows, row.HasKey key sought) :
    (overlayByKey table key sought values).evaluate store =
      .ok (store.setTable (store.tableOf table), { count := 0 }) := by
  have noneChosen : matchingRows (store.tableOf table)
      (overlayByKey table key sought values).conditions = [] := by
    refine List.eq_nil_iff_forall_not_mem.2 fun row member => missing ⟨row, ?_⟩
    exact (mem_chosen_iff sound isTable isKey).1 member
  exact evaluate_of_chosen noneChosen

/-- An update by key replaces the row that has the key. -/
theorem evaluate_of_hasKey (member : old ∈ (store.tableOf table).rows)
    (hasKey : old.HasKey key sought) :
    (overlayByKey table key sought values).evaluate store =
      ((store.tableOf table).replace old (overlayByKey table key sought values).cells).map
        fun replaced => (store.setTable replaced.1, { count := 1 }) := by
  have isChosen : matchingRows (store.tableOf table)
      (overlayByKey table key sought values).conditions = [old] := by
    have isStored := Store.table_tableOf sound isTable
    have isOld := matchingRows_byKey (Store.sound_tableOf sound table)
      (by rw [isStored, isKey]) member hasKey
    rw [isStored] at isOld
    exact isOld
  rw [evaluate_of_chosen isChosen, List.foldlM_cons]
  change (((store.tableOf table).replace old (overlayByKey table key sought values).cells >>= _)
    >>= _) >>= _ = _
  cases (store.tableOf table).replace old (overlayByKey table key sought values).cells with
  | error failure => rfl
  | ok replaced => rfl

/-- An update of the row with a key replaces it, and nothing else. -/
theorem replaced_of_evaluate (member : old ∈ (store.tableOf table).rows)
    (hasKey : old.HasKey key sought)
    (evaluated : (overlayByKey table key sought values).evaluate store = .ok (store', cursor)) :
    ∃ stored row, (store.tableOf table).replace old (overlayByKey table key sought values).cells =
      .ok (stored, row) ∧ store' = store.setTable stored ∧ store'.tableOf table = stored ∧
        cursor.count = 1 := by
  rw [evaluate_of_hasKey sound isTable isKey member hasKey] at evaluated
  obtain ⟨⟨stored, row⟩, replaced, isResult⟩ := Result.map_eq_ok.1 evaluated
  cases isResult
  refine ⟨stored, row, replaced, rfl, ?_, rfl⟩
  have isMade : stored.table = table := by
    rw [(replace_eq_ok replaced).2.2.2]
    exact Store.table_tableOf sound isTable
  have found : (store.setTable stored).tableOf stored.table = stored :=
    Store.tableOf_setTable sound (by rw [isMade]; exact isTable)
  rw [isMade] at found
  exact found

end Evaluation

/-- After an update of one column of the row with a key, a row has that key if and only if the
column is not the key, or the new cell has the same key. -/
theorem hasKey_after_iff (sound : SoundTables schema store.tables)
    (isTable : schema.table? table.name = some table) (isKey : table.primaryKeys = [key])
    (member : old ∈ (store.tableOf table).rows) (hasKey : old.HasKey key sought)
    (evaluated : (byKey table key sought name new).evaluate store = .ok (store', cursor)) :
    (∃ row ∈ (store'.tableOf table).rows, row.HasKey key sought) ↔
      (key.name = name → key.Finds sought (table.stores name new)) := by
  have storedSound := Store.sound_tableOf sound table
  have isKey' : (store.tableOf table).table.primaryKeys = [key] := by
    rw [Store.table_tableOf sound isTable, isKey]
  obtain ⟨stored, row, replaced, _, isStored, _⟩ :=
    replaced_of_evaluate sound isTable isKey member hasKey evaluated
  obtain ⟨changed, _, _, rfl⟩ := replace_eq_ok replaced
  rw [isStored]
  have isCell : row.cell key.name =
      if key.name = name then table.stores name new else old.cell key.name := by
    have oldFilled := storedSound.filled_key isKey' member
    obtain ⟨column, isColumn⟩ : ∃ column, table.column? key.name = some column :=
      Option.isSome_iff_exists.1 (List.find?_isSome.2
        ⟨key, (Table.mem_of_primaryKeys isKey).1, beq_self_eq_true key.name⟩)
    rw [cell_of_patched (changed_eq_ok changed).1 oldFilled, lookup_cells, overlayByKey,
      Record.get?_cons]
    by_cases isNamed : key.name = name
    · rw [if_pos isNamed, if_pos isNamed.symm, Table.stores, ← isNamed, isColumn]
      rfl
    · rw [if_neg isNamed, if_neg (Ne.symm isNamed)]
      rfl
  have onlyNew : (∃ other ∈ (((store.tableOf table).remove old.number).add row).rows,
      other.HasKey key sought) ↔ row.HasKey key sought := by
    constructor
    · rintro ⟨other, isOther, otherHas⟩
      rcases mem_add_iff.1 isOther with rfl | isOld
      · exact otherHas
      · obtain ⟨isRow, differs⟩ := List.mem_filter.1 isOld
        rw [storedSound.eq_of_hasKey isKey' isRow member otherHas hasKey] at differs
        simp at differs
    · exact fun rowHas => ⟨row, mem_add_iff.2 (.inl rfl), rowHas⟩
  rw [onlyNew, StoredRow.hasKey_iff, isCell]
  by_cases isNamed : key.name = name
  · rw [if_pos isNamed]
    exact ⟨fun finds _ => finds, fun finds => finds isNamed⟩
  · rw [if_neg isNamed]
    exact iff_of_true hasKey fun same => absurd same isNamed

end Sql.Update

end RecordGraph

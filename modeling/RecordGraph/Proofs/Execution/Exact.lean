import RecordGraph.Proofs.Execution.Storage
import RecordGraph.Proofs.Lists

/-!
Contract: a database of which every change is told in full.

Owns: what it is for contents to gain a row or to have one column of a row set, `Storage.Exact`, and
what single loads, inserts and updates by key do in such a database.
Does not own: relations.

A database that is exact stores, returns and compares values as one that is regular does. Besides, a
change touches no row but the one that it is about.
-/

namespace RecordGraph

open RecordGraph.Sql

/-! ## Changes -/

/-- A row with one column set. -/
def Tuple.set (tuple : Tuple) (column : String) (value : Value) : Tuple :=
  fun name => if name = column then value else tuple name

@[simp] theorem Tuple.set_self (tuple : Tuple) (column : String) (value : Value) :
    tuple.set column value column = value :=
  if_pos rfl

theorem Tuple.set_of_ne (tuple : Tuple) {column name : String} (value : Value)
    (apart : name ≠ column) : tuple.set column value name = tuple name :=
  if_neg apart

/-- A column does not change when another one, or itself, is set to its value. -/
theorem Tuple.set_same (tuple : Tuple) (column name : String) :
    tuple.set column (tuple name) name = tuple name := by
  by_cases same : name = column
  · rw [same, tuple.set_self]
  · exact tuple.set_of_ne _ same

namespace Contents

/-- Whether contents have one more row in a table, and are otherwise the same but for the order of
rows. -/
structure Gains (before after : Contents) (table : String) (tuple : Tuple) : Prop where
  row : (after table).Perm (tuple :: before table)
  others : ∀ name, name ≠ table → (after name).Perm (before name)

/-- Whether contents differ in one column of one row, and are otherwise the same but for the order of
rows. -/
structure Sets (before after : Contents) (table : String) (tuple : Tuple) (column : String)
    (value : Value) : Prop where
  row : ∃ rest, (before table).Perm (tuple :: rest) ∧
    (after table).Perm (tuple.set column value :: rest)
  others : ∀ name, name ≠ table → (after name).Perm (before name)

variable {before after : Contents} {table name column : String} {tuple other : Tuple} {value : Value}

theorem Gains.mem_iff (gains : before.Gains after table tuple) :
    other ∈ after name ↔ other ∈ before name ∨ name = table ∧ other = tuple := by
  by_cases same : name = table
  · subst same
    rw [gains.row.mem_iff, List.mem_cons, or_comm]
    simp
  · rw [(gains.others name same).mem_iff]
    simp [same]

theorem Gains.member (gains : before.Gains after table tuple) : tuple ∈ after table :=
  gains.mem_iff.2 (.inr ⟨rfl, rfl⟩)

/-- Rows stay where one is gained. -/
theorem Gains.stays (gains : before.Gains after table tuple) (member : other ∈ before name) :
    other ∈ after name :=
  gains.mem_iff.2 (.inl member)

theorem Sets.member (sets : before.Sets after table tuple column value) :
    tuple.set column value ∈ after table := by
  obtain ⟨rest, _, isAfter⟩ := sets.row
  exact isAfter.mem_iff.2 (List.mem_cons_self ..)

/-- Every row stays as it is, but for the one whose column is set. -/
theorem Sets.survives (sets : before.Sets after table tuple column value)
    (member : other ∈ before name) :
    other ∈ after name ∨ name = table ∧ other = tuple ∧ other.set column value ∈ after name := by
  by_cases same : name = table
  · subst same
    obtain ⟨rest, isBefore, isAfter⟩ := sets.row
    rcases List.mem_cons.1 (isBefore.mem_iff.1 member) with rfl | inRest
    · exact .inr ⟨rfl, rfl, sets.member⟩
    · exact .inl (isAfter.mem_iff.2 (List.mem_cons_of_mem _ inRest))
  · exact .inl ((sets.others name same).mem_iff.2 member)

end Contents

/-! ## Databases -/

variable {σ : Type}

/-- What a regular database does whose every change is told in full. -/
structure Storage.Exact (storage : Storage σ) (schema : Schema) : Prop extends
    storage.Regular schema where
  /-- Whatever is asked for, but for null, exactly what equals it is given. -/
  gives : ∀ select ref sought world cursor, storage.isOpen world → select.Asks schema ref sought →
    (∀ value ∈ sought, value.isNull = false) →
    (storage.session.run (.select select) world).1 = .done cursor →
      ∀ row, row ∈ cursor.rows ↔ storage.Gives (storage.contents world) select ref sought row
  /-- The key of a stored row can be asked for in any form that equals it. -/
  asked : ∀ table key value world, storage.isOpen world →
    schema.table? table.name = some table → table.primaryKeys = [key] →
      (∃ tuple ∈ storage.contents world table.name, storage.equal value (tuple key.name) = true) →
        ∃ cursor, (storage.session.run (.select (.byKey table key value)) world).1 = .done cursor
  /-- No two rows have a primary key in common. -/
  apart : ∀ world table key, storage.isOpen world → schema.table? table.name = some table →
    table.primaryKeys = [key] →
      (storage.contents world table.name).Pairwise fun tuple other => ∀ value,
        ¬(storage.equal value (tuple key.name) = true ∧ storage.equal value (other key.name) = true)
  /-- An insert of one row adds it and changes nothing else. -/
  gains : ∀ insert values world cursor after, storage.isOpen world →
    schema.table? insert.table.name = some insert.table → insert.rows = [values] →
      insert.conflict = .nothing →
        storage.session.run (.insert insert) world = (.done cursor, after) →
          storage.isOpen after ∧ ∃ tuple : Tuple,
            (∀ name value, values.get? name = some value → value.isNull = false →
              tuple name = value) ∧
            (storage.contents world).Gains (storage.contents after) insert.table.name tuple ∧
              if insert.returning then cursor.rows = [tuple.shown insert.table]
              else tuple.Reports insert.table cursor.insertedKey
  /-- An update of one column of the row with a primary key sets it and changes nothing else. -/
  sets : ∀ table key sought column value world cursor after, storage.isOpen world →
    schema.table? table.name = some table → table.primaryKeys = [key] →
      table.hasColumn column = true → column ≠ key.name →
        storage.session.run (.update {
          table, values := [(column, value)]
          conditions := [Condition.equal (Term.ofColumn table key) sought] }) world =
            (.done cursor, after) →
          storage.isOpen after ∧ ∀ tuple ∈ storage.contents world table.name,
            storage.equal sought (tuple key.name) = true →
              (storage.contents world).Sets (storage.contents after) table.name tuple column value

namespace Storage.Exact

variable {storage : Storage σ} {schema : Schema} {cancel : Option (σ → Bool)} {world after : σ}
variable {table : Table} {key : Column} {tuple other : Tuple} {value : Value}

/-- Two rows that are found by one key are the same row. -/
theorem eq_of_equal (exact : storage.Exact schema) (opened : storage.isOpen world)
    (isTable : schema.table? table.name = some table) (isKey : table.primaryKeys = [key])
    (isTuple : tuple ∈ storage.contents world table.name)
    (isOther : other ∈ storage.contents world table.name)
    (tupleEqual : storage.equal value (tuple key.name) = true)
    (otherEqual : storage.equal value (other key.name) = true) : tuple = other := by
  have apart : (storage.contents world table.name).Pairwise fun left right =>
      ¬(storage.equal value (left key.name) = true ∧ storage.equal value (right key.name) = true) :=
    (exact.apart world table key opened isTable isKey).imp fun apart => apart value
  exact eq_of_pairwise_not apart And.symm isTuple isOther ⟨tupleEqual, otherEqual⟩

/-- Null equals no key. -/
theorem notNull_of_equal (exact : storage.Exact schema) (opened : storage.isOpen world)
    (isTable : schema.table? table.name = some table) (isKey : table.primaryKeys = [key])
    (member : tuple ∈ storage.contents world table.name)
    (equal : storage.equal value (tuple key.name) = true) : value.isNull = false := by
  cases value with
  | null =>
      have isNull := exact.null _ equal
      rw [exact.filled world _ _ opened isTable isKey tuple member] at isNull
      cases isNull
  | _ => rfl

/-! ## Selections by key -/

/-- What a selection by key has answered. -/
theorem answered_byKey (exact : storage.Exact schema) (opened : storage.isOpen world)
    (isTable : schema.table? table.name = some table) (isKey : table.primaryKeys = [key])
    (notNull : value.isNull = false) {cursor : Cursor}
    (ran : Executor.issue storage.session cancel (.select (.byKey table key value)) world =
      (.ok cursor, after)) (row : Record) :
    row ∈ cursor.rows ↔ ∃ other ∈ storage.contents world table.name,
      storage.equal value (other key.name) = true ∧ row = other.shown table := by
  have isDone := congrArg Prod.fst (Executor.run_of_issue ran)
  rw [exact.gives _ _ _ world cursor opened (Select.asks_byKey isTable isKey value)
    (List.forall_mem_singleton.2 notNull) isDone]
  constructor
  · rintro ⟨other, isOther, ⟨each, isEach, equal⟩, isRow⟩
    rw [List.mem_singleton.1 isEach] at equal
    exact ⟨other, isOther, equal, isRow⟩
  · rintro ⟨other, isOther, equal, isRow⟩
    exact ⟨other, isOther, ⟨value, List.mem_singleton_self _, equal⟩, isRow⟩

/-- A row that is selected by a key is stored and has it. -/
theorem selected_byKey (exact : storage.Exact schema) (opened : storage.isOpen world)
    (isTable : schema.table? table.name = some table) (isKey : table.primaryKeys = [key])
    (notNull : value.isNull = false) {record : Record}
    (ran : Executor.selectOne storage.session cancel (.byKey table key value) world =
      (.ok (some record), after)) :
    storage.isOpen after ∧ storage.contents after = storage.contents world ∧
      ∃ tuple ∈ storage.contents world table.name,
        storage.equal value (tuple key.name) = true ∧ record = tuple.shown table := by
  obtain ⟨cursor, issued, isHead⟩ := Executor.selectOne_eq_ok ran
  obtain ⟨stillOpen, unchanged⟩ := exact.selected opened issued
  exact ⟨stillOpen, unchanged,
    (exact.answered_byKey opened isTable isKey notNull issued record).1
      (List.mem_of_mem_head? isHead)⟩

/-- The row with a key is selected by whatever equals the key. -/
theorem selects_byKey (exact : storage.Exact schema) (opened : storage.isOpen world)
    (isTable : schema.table? table.name = some table) (isKey : table.primaryKeys = [key])
    (member : tuple ∈ storage.contents world table.name)
    (equal : storage.equal value (tuple key.name) = true) :
    ∃ after, Executor.selectOne storage.session none (.byKey table key value) world =
        (.ok (some (tuple.shown table)), after) ∧
      storage.isOpen after ∧ storage.contents after = storage.contents world := by
  obtain ⟨cursor, isDone⟩ :=
    exact.asked table key value world opened isTable isKey ⟨tuple, member, equal⟩
  have issued : Executor.issue storage.session none (.select (.byKey table key value)) world =
      (.ok cursor, (storage.session.run (.select (.byKey table key value)) world).2) := by
    unfold Executor.issue Executor.isCancelled
    simp [isDone, Executor.outcomeOf]
  have notNull := exact.notNull_of_equal opened isTable isKey member equal
  have answers := exact.answered_byKey opened isTable isKey notNull issued
  have isHead : cursor.rows.head? = some (tuple.shown table) := by
    cases rows : cursor.rows with
    | nil =>
        have found := (answers _).2 ⟨tuple, member, equal, rfl⟩
        rw [rows] at found
        exact absurd found List.not_mem_nil
    | cons row rest =>
        obtain ⟨other, isOther, otherEqual, rfl⟩ := (answers row).1 (by simp [rows])
        rw [exact.eq_of_equal opened isTable isKey member isOther equal otherEqual]
        rfl
  refine ⟨_, ?_, exact.selected opened issued⟩
  refine (Action.bind_of_ok issued).trans ?_
  rw [isHead]
  rfl

/-! ## Inserts of one row -/

/-- An insert of one row that hands back a record adds a row with the values that were given and
changes nothing else. The record is what the row shows, if it has a primary key. -/
theorem inserted_row (exact : storage.Exact schema) (opened : storage.isOpen world)
    {compiled : CompiledInsert} {values record : Record} {rows : List Record}
    (isTable : schema.table? compiled.statement.table.name = some compiled.statement.table)
    (isSingle : compiled.rows = [values]) (isPlain : compiled.statement.conflict = .nothing)
    (asks : compiled.contract.returning = compiled.statement.returning)
    (ran : Executor.insertRows storage.session cancel compiled world = (.ok rows, after))
    (handed : rows.head? = some record) :
    storage.isOpen after ∧ ∃ tuple : Tuple,
      (∀ name value, values.get? name = some value → value.isNull = false → tuple name = value) ∧
      (storage.contents world).Gains (storage.contents after) compiled.statement.table.name tuple ∧
        ∀ key, compiled.statement.table.primaryKeys = [key] →
          record = tuple.shown compiled.statement.table := by
  obtain ⟨cursor, middle, issued, course⟩ := Executor.insertRows_eq_ok isSingle ran handed
  obtain ⟨opened', tuple, stored, gains, isCursor⟩ := exact.gains _ values world cursor middle opened
    isTable isSingle isPlain (Executor.run_of_issue issued)
  have adds : (storage.contents world).Adds (storage.contents middle) compiled.statement.table values
      tuple := ⟨stored, fun name other => gains.mem_iff⟩
  obtain ⟨stillOpen, unchanged, isShown⟩ :=
    exact.handed_eq opened' isTable asks adds isCursor handed course
  refine ⟨stillOpen, tuple, stored, ?_, isShown⟩
  rw [unchanged]
  exact gains

end Storage.Exact

end RecordGraph

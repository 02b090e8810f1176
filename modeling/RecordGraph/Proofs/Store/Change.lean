import RecordGraph.Proofs.Store.Reached

/-!
Contract: what changes between two states of stored tables.

Owns: `Gains` and `Replaces`, and that additions and replacements of rows are such changes.
Does not own: which statements cause them.
-/

namespace RecordGraph

/-- A table as it is among stored tables. -/
def Table.among (table : Table) (tables : List StoredTable) : StoredTable :=
  ({ tables } : Store).tableOf table

/-- Whether tables are the same but for one. -/
def Spares (table : Table) (before after : List StoredTable) : Prop :=
  ∀ other : Table, other.name ≠ table.name → other.among after = other.among before

/-- Whether a table has gained some rows, and nothing else has changed. -/
structure Gains (table : Table) (before after : List StoredTable) (added : List StoredRow) :
    Prop where
  rows : (table.among after).rows.Perm (added ++ (table.among before).rows)
  others : Spares table before after

/-- Whether a row of a table has given way to another one, and nothing else has changed. -/
structure Replaces (table : Table) (before after : List StoredTable) (old new : StoredRow) :
    Prop where
  rows : ∃ rest, (table.among before).rows.Perm (old :: rest) ∧
    (table.among after).rows.Perm (new :: rest)
  others : Spares table before after

theorem Gains.refl (table : Table) (tables : List StoredTable) : Gains table tables tables [] where
  rows := .refl _
  others _ _ := rfl

theorem Gains.trans {table : Table} {before middle after : List StoredTable}
    {earlier later : List StoredRow} (first : Gains table before middle earlier)
    (second : Gains table middle after later) : Gains table before after (earlier ++ later) where
  rows := by
    refine second.rows.trans ((first.rows.append_left later).trans ?_)
    rw [← List.append_assoc]
    exact List.perm_append_comm.append_right _
  others other apart := (second.others other apart).trans (first.others other apart)

/-- A row that a table has gained alone is the one it has gained. -/
theorem Gains.unique {table : Table} {before after : List StoredTable} {left right : StoredRow}
    (isLeft : Gains table before after [left]) (isRight : Gains table before after [right]) :
    left = right := by
  have perm := (List.perm_append_right_iff _).1 (isLeft.rows.symm.trans isRight.rows)
  exact List.singleton_perm_singleton.1 perm

theorem Table.rows_among_of_name {table other : Table} (same : other.name = table.name)
    (tables : List StoredTable) : (other.among tables).rows = (table.among tables).rows := by
  unfold Table.among Store.tableOf
  rw [same]
  cases tables.find? (·.table.name == table.name) <;> rfl

/-- No row is lost where a table gains rows. -/
theorem Gains.keeps {table : Table} {before after : List StoredTable} {added : List StoredRow}
    (gains : Gains table before after added) {other : Table} {row : StoredRow}
    (member : row ∈ (other.among before).rows) : row ∈ (other.among after).rows := by
  by_cases same : other.name = table.name
  · rw [Table.rows_among_of_name same] at member ⊢
    exact gains.rows.mem_iff.2 (List.mem_append_right _ member)
  · rw [gains.others other same]
    exact member

/-- Only the row that gives way is lost. -/
theorem Replaces.keeps {table : Table} {before after : List StoredTable} {old new : StoredRow}
    (replaces : Replaces table before after old new) {other : Table} {row : StoredRow}
    (member : row ∈ (other.among before).rows) (apart : other.name = table.name → row ≠ old) :
    row ∈ (other.among after).rows := by
  by_cases same : other.name = table.name
  · rw [Table.rows_among_of_name same] at member ⊢
    obtain ⟨rest, isBefore, isAfter⟩ := replaces.rows
    have inRest := (List.mem_cons.1 (isBefore.mem_iff.1 member)).resolve_left (apart same)
    exact isAfter.mem_iff.2 (List.mem_cons_of_mem _ inRest)
  · rw [replaces.others other same]
    exact member

theorem Replaces.member {table : Table} {before after : List StoredTable} {old new : StoredRow}
    (replaces : Replaces table before after old new) : new ∈ (table.among after).rows := by
  obtain ⟨_, _, isAfter⟩ := replaces.rows
  exact isAfter.mem_iff.2 (List.mem_cons_self ..)

theorem Gains.member {table : Table} {before after : List StoredTable} {row : StoredRow}
    (gains : Gains table before after [row]) : row ∈ (table.among after).rows :=
  gains.rows.mem_iff.2 (List.mem_cons_self ..)

/-- A row that stays gives way to itself. -/
theorem Replaces.refl {table : Table} {tables : List StoredTable} {row : StoredRow}
    (member : row ∈ (table.among tables).rows) : Replaces table tables tables row row where
  rows := by
    obtain ⟨front, back, isRows⟩ := List.append_of_mem member
    refine ⟨front ++ back, ?_, ?_⟩
    · rw [isRows]
      exact List.perm_middle
    · rw [isRows]
      exact List.perm_middle
  others _ _ := rfl

/-- A row that gives way to another one gives way to no third. -/
theorem Replaces.unique {table : Table} {before after : List StoredTable}
    {old left right : StoredRow} (isLeft : Replaces table before after old left)
    (isRight : Replaces table before after old right) : left = right := by
  obtain ⟨rest, isBefore, isAfter⟩ := isLeft.rows
  obtain ⟨rest', isBefore', isAfter'⟩ := isRight.rows
  have sameRest := (List.perm_cons old).1 (isBefore.symm.trans isBefore')
  have perm : ([left] ++ rest).Perm ([right] ++ rest) :=
    isAfter.symm.trans (isAfter'.trans (sameRest.symm.cons right))
  exact List.singleton_perm_singleton.1 ((List.perm_append_right_iff rest).1 perm)

section

variable {schema : Schema} {store : Store} {stored : StoredTable}

theorem spares_setTable (store : Store) (stored : StoredTable) :
    Spares stored.table store.tables (store.setTable stored).tables := by
  intro other apart
  have found := store.find?_setTable stored other.name
  unfold Table.among Store.tableOf
  dsimp only
  rw [found]
  cases isOther : store.tables.find? (·.table.name == other.name) with
  | none => rfl
  | some earlier =>
      have isNamed : earlier.table.name = other.name := by simpa using List.find?_some isOther
      rw [Option.map_some, if_neg (by rw [isNamed]; exact apart)]

theorem among_setTable (sound : SoundTables schema store.tables)
    (isTable : schema.table? stored.table.name = some stored.table) :
    stored.table.among (store.setTable stored).tables = stored :=
  Store.tableOf_setTable sound isTable

theorem gains_add (sound : SoundTables schema store.tables) {table : Table}
    (isTable : schema.table? table.name = some table) (row : StoredRow) :
    Gains table store.tables (store.setTable ((store.tableOf table).add row)).tables [row] := by
  have isStored : ((store.tableOf table).add row).table = table :=
    Store.table_tableOf sound isTable
  have inSchema : schema.table? ((store.tableOf table).add row).table.name =
      some ((store.tableOf table).add row).table := by rw [isStored]; exact isTable
  have isAmong := among_setTable sound inSchema
  have spares := spares_setTable store ((store.tableOf table).add row)
  rw [isStored] at isAmong spares
  refine ⟨?_, spares⟩
  rw [isAmong]
  exact StoredTable.perm_insertByNumber row _

/-- The rows of a table are one of them and those that are left without it. -/
theorem StoredTable.Sound.perm_remove {row : StoredRow} (sound : stored.Sound)
    (member : row ∈ stored.rows) : stored.rows.Perm (row :: (stored.remove row.number).rows) := by
  obtain ⟨front, back, isRows⟩ := List.append_of_mem member
  have distinct := sound.distinct
  rw [isRows, List.pairwise_append, List.pairwise_cons] at distinct
  obtain ⟨_, ⟨fromRow, _⟩, fromFront⟩ := distinct
  have isRest : (stored.remove row.number).rows = front ++ back := by
    unfold StoredTable.remove
    dsimp only
    rw [isRows, List.filter_append, List.filter_cons_of_neg (by simp)]
    rw [List.filter_eq_self.2 fun other isOther => ?_, List.filter_eq_self.2 fun other isOther => ?_]
    · simpa using (fromRow other isOther).symm
    · simpa using fromFront other isOther row (List.mem_cons_self ..)
  rw [isRest, isRows]
  exact List.perm_middle

theorem replaces_of_replace (sound : SoundTables schema store.tables) {table : Table}
    (isTable : schema.table? table.name = some table) {old new : StoredRow}
    (member : old ∈ (store.tableOf table).rows) {cells : List (String × Cell)}
    {replacement : StoredTable}
    (replaced : (store.tableOf table).replace old cells = .ok (replacement, new)) :
    Replaces table store.tables (store.setTable replacement).tables old new := by
  obtain ⟨_, _, _, rfl⟩ := StoredTable.replace_eq_ok replaced
  have isStored : (((store.tableOf table).remove old.number).add new).table = table :=
    Store.table_tableOf sound isTable
  have inSchema : schema.table? (((store.tableOf table).remove old.number).add new).table.name =
      some (((store.tableOf table).remove old.number).add new).table := by
    rw [isStored]
    exact isTable
  have isAmong := among_setTable sound inSchema
  have spares := spares_setTable store (((store.tableOf table).remove old.number).add new)
  rw [isStored] at isAmong spares
  refine ⟨⟨_, (Store.sound_tableOf sound table).perm_remove member, ?_⟩, spares⟩
  rw [isAmong]
  exact StoredTable.perm_insertByNumber new _

end

end RecordGraph

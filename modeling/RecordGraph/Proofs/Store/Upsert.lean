import RecordGraph.Proofs.Store.Proposed

/-!
Contract: inserts of one row, with and without a conflict clause.

Owns: `StoredTable.merged`, and for each clause what an insert of one row does to its table.
Does not own: inserts of several rows, and the calls that issue them.
-/

namespace RecordGraph

open RecordGraph.Sql

/-- Whether a clause resolves the collisions of some columns. -/
def Sql.ConflictClause.Resolves (target : List String) (conflict : ConflictClause) : Prop :=
  conflict = .keepOn target ∨ ∃ columns, conflict = .overwriteOn target columns

namespace StoredTable

open StoredRow

/-- What a column holds after a merge of a record into a stored row. -/
def merged (stored : StoredTable) (columns : List String) (record : Record) (old : StoredRow)
    (name : String) : Cell :=
  if name ∈ columns then stored.proposed record name else old.cell name

variable {stored : StoredTable} {record : Record} {target : List String} {old : StoredRow}

/-- Rows of a table that share a key are the same. -/
theorem Sound.eq_of_key (sound : stored.Sound) {key : List String} (isKey : key ∈ stored.table.keys)
    {left right : StoredRow} (isLeft : left ∈ stored.rows) (isRight : right ∈ stored.rows)
    (shares : Shares key left right) : left = right := by
  rcases Table.mem_keys_iff.1 isKey with ⟨column, isNumbered, rfl⟩ | isChecked
  · refine sound.eq_of_number isLeft isRight ?_
    exact (shares_numbered_iff (sound.numbered column isNumbered left isLeft)
      (sound.numbered column isNumbered right isRight)).1 shares
  · exact sound.eq_of_shares isChecked isLeft isRight shares

/-- Columns in which a record meets a stored row stand for the same after a merge. -/
theorem Clashes.standing_merged (clashes : stored.Clashes target record old)
    (columns : List String) {name : String} (inTarget : name ∈ target) :
    (stored.merged columns record old name).standing? = (old.cell name).standing? := by
  unfold merged
  by_cases isMerged : name ∈ columns
  · obtain ⟨scalar, isGiven, inOld⟩ := clashes.2 name inTarget
    have notNull : stored.table.given record name ≠ .null := by
      intro isNull
      rw [isNull] at isGiven
      cases isGiven
    rw [if_pos isMerged, proposed_of_given notNull, isGiven, inOld]
  · rw [if_neg isMerged]

/-- A row of merged cells that keeps the target shares it with no other row. -/
theorem Clashes.not_meets_merged (sound : stored.Sound) (clashes : stored.Clashes target record old)
    {key : List String} (isKey : key ∈ stored.table.keys) (perm : target.Perm key)
    (columns : List String) {other : StoredRow} (isOther : other ∈ stored.rows)
    (apart : other ≠ old) : ¬other.Meets key (stored.merged columns record old) := by
  intro meets
  refine apart (sound.eq_of_key isKey isOther clashes.1 fun name inKey => ?_)
  obtain ⟨scalar, isMerged, inOther⟩ := meets name inKey
  refine ⟨scalar, inOther, ?_⟩
  rw [← clashes.standing_merged columns (perm.mem_iff.2 inKey), isMerged]

/-- A row can be replaced if the new cells give it a number and obey the constraints. -/
theorem exists_replace (sound : stored.Sound) {cells : List (String × Cell)}
    (oldOrdered : old.Ordered) (ordered : ∀ entry ∈ cells, entry.2.Ordered)
    (numbered : ∀ new : StoredRow, new.cells = patched old cells →
      ∀ key, stored.table.numberedKey? = some key → ∃ number, new.cell key.name = .int number)
    (filled : ∀ new : StoredRow, new.cells = patched old cells →
      ∀ column ∈ stored.table.columns, stored.table.requires column = true →
        new.cell column.name ≠ .null)
    (free : ∀ new : StoredRow, new.cells = patched old cells → ∀ key ∈ stored.table.keys,
      ∀ other ∈ (stored.remove old.number).rows, ¬Shares key new other) :
    ∃ stored' new, stored.replace old cells = .ok (stored', new) := by
  obtain ⟨new, changed⟩ : ∃ new, stored.changed old cells = .ok new := by
    unfold changed
    cases isNumbered : stored.table.numberedKey? with
    | none => exact ⟨_, rfl⟩
    | some key =>
        obtain ⟨number, isNumber⟩ := numbered ⟨0, patched old cells⟩ rfl key isNumbered
        unfold StoredRow.cell patched at isNumber
        dsimp only at isNumber ⊢
        rw [isNumber]
        exact ⟨_, rfl⟩
  have isCells := (changed_eq_ok changed).1
  have numbers := numbers_changed oldOrdered ordered changed
  have noCollision := (sound.remove old.number).collision?_eq_none numbers (free new isCells)
  refine ⟨(stored.remove old.number).add new, new, ?_⟩
  unfold replace
  refine Result.bind_eq_ok.2 ⟨new, changed, ?_⟩
  refine Result.bind_eq_ok.2 ⟨(), checkValues_of_filled (filled new isCells), ?_⟩
  exact Result.bind_eq_ok.2 ⟨(), checkKeys_of_free noCollision, rfl⟩

end StoredTable

namespace Sql.Insert

open StoredTable StoredRow

variable {schema : Schema} {insert : Insert} {store store' : Store} {record : Record}
variable {target columns : List String} {old : StoredRow} {touched : Option StoredRow}

/-! ## Cells -/

/-- A row that is merged has the cells of the candidate in the columns that are overwritten, and its
own in the others. -/
theorem cell_of_overwritten {names : List String} {candidate new : StoredRow}
    (oldNamed : old.cells.map Prod.fst = names) (newNamed : candidate.cells.map Prod.fst = names)
    (isCells : new.cells =
      patched old (candidate.cells.filter fun cell => columns.contains cell.1)) (name : String) :
    new.cell name = if name ∈ columns then candidate.cell name else old.cell name := by
  have isOld := lookup_of_named oldNamed name
  have isNew := lookup_of_named newNamed name
  have isChosen := lookup_filter_fst columns.contains candidate.cells name
  rw [isNew] at isChosen
  have isPatched : new.cells.lookup name = (old.cells.lookup name).map fun cell =>
      ((candidate.cells.filter fun cell => columns.contains cell.1).lookup name).getD cell := by
    rw [isCells]
    exact lookup_map_snd (fun name cell =>
      ((candidate.cells.filter fun cell => columns.contains cell.1).lookup name).getD cell) _ _
  by_cases isName : name ∈ names
  · rw [if_pos isName] at isOld isChosen
    unfold StoredRow.cell at *
    rw [isPatched, isOld, isChosen]
    by_cases isMerged : name ∈ columns
    · simp [isMerged]
    · simp [isMerged]
  · rw [if_neg isName] at isOld isNew
    unfold StoredRow.cell
    rw [isPatched, isOld, isNew]
    simp

/-! ## What an insert does -/

/-- A clause that resolves the collisions of a key fits a row that has columns. -/
theorem checkClause_of_resolves (resolves : insert.conflict.Resolves target)
    (hasColumns : insert.columns ≠ []) (isKey : isKey insert.table target = true) :
    insert.checkClause = .ok () := by
  have nonempty : ¬insert.columns.isEmpty = true := by simpa using hasColumns
  unfold checkClause
  rcases resolves with isConflict | ⟨columns, isConflict⟩
  · rw [isConflict]
    exact (if_neg nonempty).trans (if_pos isKey)
  · rw [isConflict]
    exact (if_neg nonempty).trans (if_pos isKey)

/-- A candidate that is numbered and has its values takes its course. -/
theorem insertOne_of_inserts {candidate : StoredRow}
    (numbered : (store.tableOf insert.table).number (insert.cells record) = .ok candidate)
    (checked : (store.tableOf insert.table).checkValues candidate = .ok ())
    (inserts : Inserts insert store candidate store' touched) :
    insert.insertOne store record = .ok (store', touched) := by
  unfold insertOne
  refine Result.bind_eq_ok.2 ⟨candidate, numbered, Result.bind_eq_ok.2 ⟨(), checked, ?_⟩⟩
  cases inserts with
  | added noTarget free =>
      rw [noTarget]
      exact Result.bind_eq_ok.2 ⟨(), checkKeys_of_free free, rfl⟩
  | merged assigns isTarget replaced =>
      rw [isTarget]
      cases isConflict : insert.conflict with
      | overwriteOn target others | overwriteAny others =>
          rw [isConflict] at replaced
          dsimp only
          rw [replaced]
          rfl
      | nothing | keepOn target | keepAny =>
          rw [isConflict] at assigns
          cases assigns
  | dropped keeps isTarget =>
      rw [isTarget]
      cases isConflict : insert.conflict with
      | overwriteOn target others | overwriteAny others =>
          rw [isConflict] at keeps
          cases keeps
      | nothing | keepOn target | keepAny => rfl

section

variable (sound : SoundTables schema store.tables)
  (isTable : schema.table? insert.table.name = some insert.table)

include sound isTable

/-- Without a clause a row is added as it is proposed, if anything is done. -/
theorem added_of_nothing (isConflict : insert.conflict = .nothing)
    (inserted : insert.insertOne store record = .ok (store', touched)) :
    ∃ new, touched = some new ∧ Gains insert.table store.tables store'.tables [new] ∧
      store'.lastNumber = new.number ∧
        ∀ name, new.cell name = (store.tableOf insert.table).proposed record name := by
  obtain ⟨candidate, numbered, _, inserts⟩ := insertOne_eq_ok inserted
  cases inserts with
  | added noTarget free =>
      exact ⟨candidate, rfl, gains_add sound isTable candidate, rfl,
        cell_candidate (Store.table_tableOf sound isTable) numbered⟩
  | merged assigns isTarget replaced =>
      rw [isConflict] at assigns
      cases assigns
  | dropped keeps isTarget =>
      rw [isConflict] at isTarget
      cases isTarget

/-- The row that a clause finds for a candidate is the one that the record collides with. -/
theorem target?_eq_some_iff (isKey : ∃ key ∈ insert.table.keys, target.Perm key)
    {candidate : StoredRow}
    (numbered : (store.tableOf insert.table).number (insert.cells record) = .ok candidate) :
    target? (store.tableOf insert.table) (.keepOn target) candidate = some old ↔
      (store.tableOf insert.table).Clashes target record old := by
  have storedSound := Store.sound_tableOf sound insert.table
  have isStored := Store.table_tableOf sound isTable
  rw [storedSound.target?_eq_some_iff (numbers_candidate sound isTable numbered)
    (by rw [isStored]; exact isKey)]
  refine and_congr_right fun member => ?_
  rw [shares_iff_meets (cell_candidate isStored numbered), storedSound.meets_proposed_iff member]

variable (insert) in
/-- A record that collides with a row is dropped, and the row stays. -/
theorem insertOne_dropped (isConflict : insert.conflict = .keepOn target)
    (isKey : ∃ key ∈ insert.table.keys, target.Perm key) (admits : insert.table.Admits record)
    (clashes : (store.tableOf insert.table).Clashes target record old) :
    insert.insertOne store record = .ok (store, none) := by
  obtain ⟨candidate, numbered, checked⟩ :=
    exists_candidate (Store.table_tableOf sound isTable) admits
  have found := (target?_eq_some_iff sound isTable isKey numbered).2 clashes
  rw [← isConflict] at found
  refine insertOne_of_inserts numbered checked (.dropped ?_ found)
  rw [isConflict]
  rfl

variable (insert) in
/-- A record that collides with no row is added, as it is proposed. -/
theorem insertOne_added
    (resolves : insert.conflict.Resolves target)
    (isKey : ∃ key ∈ insert.table.keys, target.Perm key) (admits : insert.table.Admits record)
    (free : ∀ key ∈ insert.table.keys, ∀ old,
      ¬(store.tableOf insert.table).Clashes key record old) :
    ∃ store' new, insert.insertOne store record = .ok (store', some new) ∧
      Gains insert.table store.tables store'.tables [new] ∧
        ∀ name, new.cell name = (store.tableOf insert.table).proposed record name := by
  have storedSound := Store.sound_tableOf sound insert.table
  have isStored := Store.table_tableOf sound isTable
  obtain ⟨candidate, numbered, checked⟩ := exists_candidate isStored admits
  have isProposed := cell_candidate isStored numbered
  have noTarget : target? (store.tableOf insert.table) (.keepOn target) candidate = none := by
    refine Option.eq_none_iff_forall_ne_some.2 fun old found => ?_
    obtain ⟨key, isMember, perm⟩ := isKey
    have clashes := (target?_eq_some_iff sound isTable ⟨key, isMember, perm⟩ numbered).1 found
    exact free key isMember old ⟨clashes.1, clashes.2.of_perm perm⟩
  have noCollision : (store.tableOf insert.table).collision? candidate = none := by
    refine storedSound.collision?_eq_none (numbers_candidate sound isTable numbered) ?_
    rw [isStored]
    intro key isKey row member shares
    refine free key isKey row ⟨member, ?_⟩
    exact (storedSound.meets_proposed_iff member).1 ((shares_iff_meets isProposed).1 shares)
  have noTarget' : target? (store.tableOf insert.table) insert.conflict candidate = none := by
    rcases resolves with isConflict | ⟨columns, isConflict⟩
    · rw [isConflict]
      exact noTarget
    · rw [isConflict]
      exact noTarget
  have inserted := insertOne_of_inserts numbered checked (.added noTarget' noCollision)
  exact ⟨_, candidate, inserted, gains_add sound isTable candidate, isProposed⟩

section

variable (shaped : ShapedTables store.tables)
  (isConflict : insert.conflict = .overwriteOn target columns)
  (isKey : ∃ key ∈ insert.table.keys, target.Perm key)
  (clashes : (store.tableOf insert.table).Clashes target record old)

include shaped isConflict clashes

/-- What the cells of a row are that is merged. -/
theorem cell_merged {candidate new : StoredRow}
    (numbered : (store.tableOf insert.table).number (insert.cells record) = .ok candidate)
    (isCells : new.cells = patched old (overwritten insert.conflict candidate)) (name : String) :
    new.cell name = (store.tableOf insert.table).merged columns record old name := by
  have isStored := Store.table_tableOf sound isTable
  have oldNamed := Store.shaped_tableOf shaped insert.table old clashes.1
  have newNamed : candidate.cells.map Prod.fst = (store.tableOf insert.table).table.columnNames := by
    rw [names_number numbered, names_cells, isStored]
  have isChosen : overwritten insert.conflict candidate =
      candidate.cells.filter fun cell => columns.contains cell.1 := by
    rw [isConflict]
    rfl
  rw [isChosen] at isCells
  rw [cell_of_overwritten oldNamed newNamed isCells, cell_candidate isStored numbered]
  rfl

include isKey

/-- A record that collides with a row is merged into it, if anything is done. -/
theorem merged_of_clashes (inserted : insert.insertOne store record = .ok (store', touched)) :
    ∃ new, touched = some new ∧ Replaces insert.table store.tables store'.tables old new ∧
      ∀ name, new.cell name = (store.tableOf insert.table).merged columns record old name := by
  obtain ⟨candidate, numbered, _, inserts⟩ := insertOne_eq_ok inserted
  have found := (target?_eq_some_iff sound isTable isKey numbered).2 clashes
  cases inserts with
  | added noTarget free =>
      rw [isConflict] at noTarget
      exact absurd (found.symm.trans noTarget) nofun
  | dropped keeps isTarget =>
      rw [isConflict] at keeps
      cases keeps
  | @merged columns' old' new stored assigns isTarget replaced =>
      have same : old = old' := by
        rw [isConflict] at isTarget
        exact Option.some.inj (found.symm.trans isTarget)
      subst same
      exact ⟨new, rfl, replaces_of_replace sound isTable clashes.1 replaced,
        cell_merged sound isTable shaped isConflict clashes numbered
          (changed_eq_ok (replace_eq_ok replaced).1).1⟩

variable (filled : ∀ column ∈ insert.table.columns, insert.table.requires column = true →
    (store.tableOf insert.table).merged columns record old column.name ≠ .null)
  (free : ∀ key ∈ insert.table.keys, ¬target.Perm key →
    ∀ other ∈ (store.tableOf insert.table).rows, other ≠ old →
      ¬other.Meets key ((store.tableOf insert.table).merged columns record old))

include filled free

omit isKey in
/-- The row can be replaced by the merged one if that obeys the constraints. -/
theorem exists_merged {candidate : StoredRow}
    (numbered : (store.tableOf insert.table).number (insert.cells record) = .ok candidate) :
    ∃ stored' new, (store.tableOf insert.table).replace old
      (overwritten insert.conflict candidate) = .ok (stored', new) := by
  have storedSound := Store.sound_tableOf sound insert.table
  have isStored := Store.table_tableOf sound isTable
  have numbers := numbers_candidate sound isTable numbered
  have isMerged := fun new => @cell_merged _ _ _ _ _ _ _ sound isTable shaped isConflict clashes
    candidate new numbered
  refine exists_replace storedSound (storedSound.ordered old clashes.1)
    (ordered_overwritten numbers.ordered) ?_ ?_ ?_
  · intro new isCells key isNumbered
    rw [isMerged new isCells]
    unfold StoredTable.merged
    by_cases isChosen : key.name ∈ columns
    · rw [if_pos isChosen, ← cell_candidate isStored numbered]
      exact ⟨_, numbers.numbered key isNumbered⟩
    · rw [if_neg isChosen]
      exact ⟨_, storedSound.numbered key isNumbered old clashes.1⟩
  · intro new isCells column isColumn required
    rw [isMerged new isCells]
    rw [isStored] at isColumn required
    exact filled column isColumn required
  · intro new isCells key isKey other isOther shares
    have meets := (shares_iff_meets (isMerged new isCells)).1 shares
    obtain ⟨member, differs⟩ := List.mem_filter.1 isOther
    have apart : other ≠ old := by
      rintro rfl
      simp at differs
    by_cases perm : target.Perm key
    · exact clashes.not_meets_merged storedSound isKey perm columns member apart meets
    · rw [isStored] at isKey
      exact free key isKey perm other member apart meets

variable (insert) in
/-- A record that collides with a row is merged into it if that obeys the constraints. -/
theorem insertOne_merged (admits : insert.table.Admits record) :
    ∃ store' new, insert.insertOne store record = .ok (store', some new) ∧
      Replaces insert.table store.tables store'.tables old new ∧
        ∀ name, new.cell name = (store.tableOf insert.table).merged columns record old name := by
  obtain ⟨candidate, numbered, checked⟩ :=
    exists_candidate (Store.table_tableOf sound isTable) admits
  have found := (target?_eq_some_iff sound isTable isKey numbered).2 clashes
  obtain ⟨stored', new, replaced⟩ :=
    exists_merged sound isTable shaped isConflict clashes filled free numbered
  have assigns : assigned? insert.conflict = some columns := by
    rw [isConflict]
    rfl
  have isTarget : target? (store.tableOf insert.table) insert.conflict candidate = some old := by
    rw [isConflict]
    exact found
  have inserted := insertOne_of_inserts numbered checked (.merged assigns isTarget replaced)
  obtain ⟨_, isNew, replaces, isMerged⟩ :=
    merged_of_clashes sound isTable shaped isConflict isKey clashes inserted
  cases isNew
  exact ⟨_, new, inserted, replaces, isMerged⟩

end

end

end Sql.Insert

/-! ## Seats of a theatre -/

namespace Theatre

/-- Seats, each with a place of its own, of which nobody has any but by name. -/
def seatTable : Table where
  name := "seat"
  columns := [
    { name := "id", type := .integer, primaryKey := true },
    { name := "tier", type := .string, uniqueWith := [["place"]] },
    { name := "place", type := .integer },
    { name := "guest", type := .string, fallback := .text "nobody" }]

def seat (guest : String) : StoredRow where
  number := 1
  cells := [("id", .int 1), ("tier", .text "a"), ("place", .int 7), ("guest", .text guest)]

def store (guest : String) : Store where
  tables := [{ table := seatTable, rows := [seat guest] }]
  lastNumber := 1

def place : Record := [("tier", .text "a"), ("place", .int 7)]

/-- A seat without a guest gets the default, and is merged into by another one in its place. -/
example :
    Insert.insertOne { table := seatTable, rows := [place] } (.empty [seatTable]) place =
        .ok (store "nobody", some (seat "nobody")) ∧
      Insert.insertOne {
          table := seatTable, rows := [place ++ [("guest", .text "Ann")]]
          conflict := .overwriteOn ["place", "tier"] ["guest"] }
          (store "nobody") (place ++ [("guest", .text "Ann")]) =
        .ok (store "Ann", some (seat "Ann")) := ⟨rfl, rfl⟩

end Theatre

end RecordGraph

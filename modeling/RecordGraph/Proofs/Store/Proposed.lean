import RecordGraph.Proofs.Store.Change
import RecordGraph.Proofs.Store.Rekeyed
import RecordGraph.Proofs.Store.Shape

/-!
Contract: the row that an insert proposes, and the stored rows that it collides with.

Owns: `Table.Admits`, `StoredTable.proposed`, `StoredTable.Clashes`, and that the store sees exactly
these collisions.
Does not own: what an insert does about a collision, and the compilation of policies.

A row collides with a stored one on columns if they stand for the same values in all of them. Null
stands for nothing, and a number that the table generates belongs to no stored row.
-/

namespace RecordGraph

open RecordGraph.Sql

namespace Table

/-- The keys of a table: its primary key, and those that it declares besides. -/
def keys (table : Table) : List (List String) :=
  (if table.primaryKeys.isEmpty then [] else [table.keyNames]) ++ table.uniqueKeys

/-- What a column stores if it is given no value; null if there is no such column. -/
def preset (table : Table) (name : String) : Cell :=
  ((table.column? name).map Column.preset).getD .null

/-- What a column stores for a record; its default if the record does not name the column. -/
def given (table : Table) (record : Record) (name : String) : Cell :=
  ((record.get? name).map (table.stores name)).getD (table.preset name)

/-- Whether a record can be stored but for collisions. An integer key may be left to the table. -/
structure Admits (table : Table) (record : Record) : Prop where
  numbered : ∀ key, table.numberedKey? = some key →
    table.given record key.name = .null ∨ ∃ number, table.given record key.name = .int number
  filled : ∀ column ∈ table.columns, table.requires column = true →
    table.given record column.name ≠ .null

theorem primaryKeys_of_numberedKey? {table : Table} {key : Column}
    (isNumbered : table.numberedKey? = some key) : table.primaryKeys = [key] := by
  unfold numberedKey? at isNumbered
  split at isNumbered
  · rename_i column isSingle
    split at isNumbered
    · cases isNumbered
      exact isSingle
    · cases isNumbered
  · cases isNumbered

/-- The keys of a table are its integer key and those that are checked besides. -/
theorem mem_keys_iff {table : Table} {columns : List String} :
    columns ∈ table.keys ↔ (∃ key, table.numberedKey? = some key ∧ columns = [key.name]) ∨
      columns ∈ table.checkedKeys := by
  unfold keys checkedKeys
  cases isNumbered : table.numberedKey? with
  | none =>
      by_cases isEmpty : table.primaryKeys.isEmpty = true
      · simp [isEmpty]
      · simp [isEmpty, or_comm]
  | some key =>
      have isSingle := primaryKeys_of_numberedKey? isNumbered
      simp [keyNames, isSingle]

/-- A key that is declared has columns, all of them of the table, and each but once. -/
theorem columns_of_uniqueKey {table : Table} {key : List String} (isKey : key ∈ table.uniqueKeys) :
    key ≠ [] ∧ key.Nodup ∧ ∀ name ∈ key, name ∈ table.columnNames := by
  rcases List.mem_append.1 isKey with isCompound | isSingle
  · obtain ⟨column, isColumn, isCompound⟩ := List.mem_flatMap.1 isCompound
    obtain ⟨others, _, rfl⟩ := List.mem_map.1 isCompound
    refine ⟨?_, nodup_eraseDups _, fun name member => ?_⟩
    · rw [List.eraseDups_cons]
      exact List.cons_ne_nil _ _
    · rcases List.mem_cons.1 (List.mem_eraseDups.1 member) with rfl | isOther
      · exact List.mem_map_of_mem isColumn
      · exact hasColumn_iff.1 (List.mem_filter.1 isOther).2
  · obtain ⟨column, isColumn, rfl⟩ := List.mem_map.1 isSingle
    refine ⟨List.cons_ne_nil _ _, List.pairwise_singleton _ _, fun name member => ?_⟩
    rw [List.mem_singleton.1 member]
    exact List.mem_map_of_mem (List.mem_of_mem_filter isColumn)

theorem nodup_of_mem_keys {table : Table} (distinct : table.columnNames.Nodup)
    {columns : List String} (isKey : columns ∈ table.keys) : columns.Nodup := by
  rcases List.mem_append.1 isKey with isPrimary | isUnique
  · split at isPrimary
    · exact absurd isPrimary List.not_mem_nil
    · rw [List.mem_singleton.1 isPrimary]
      exact distinct.sublist (List.filter_sublist.map _)
  · exact (columns_of_uniqueKey isUnique).2.1

/-- The columns that the store takes for a key are those of a key, in any order. -/
theorem isKey_iff {table : Table} (distinct : table.columnNames.Nodup) {target : List String} :
    Insert.isKey table target = true ↔ ∃ key ∈ table.keys, target.Perm key := by
  have isAny : Insert.isKey table target = true ↔ ∃ key ∈ table.keys,
      (key.length == target.length && key.all target.contains) = true := by
    unfold Insert.isKey
    dsimp only
    rw [List.any_eq_true]
    refine exists_congr fun key => and_congr_left fun _ => ?_
    rw [mem_keys_iff]
    cases table.numberedKey? with
    | none => simp
    | some numbered => simp
  rw [isAny]
  refine exists_congr fun key => and_congr_right fun isKey => ?_
  rw [Bool.and_eq_true, beq_iff_eq, List.all_eq_true]
  constructor
  · rintro ⟨sameLength, inTarget⟩
    have within : key ⊆ target := fun name member => List.contains_iff_mem.1 (inTarget name member)
    have subperm := List.subperm_of_subset (nodup_of_mem_keys distinct isKey) within
    exact (subperm.perm_of_length_le sameLength.ge).symm
  · intro perm
    exact ⟨perm.length_eq.symm, fun name member => List.contains_iff_mem.2 (perm.mem_iff.2 member)⟩

end Table

/-! ## Proposed rows -/

namespace StoredRow

/-- Whether a row stands in columns for the same values as given cells. -/
def Meets (columns : List String) (cells : String → Cell) (row : StoredRow) : Prop :=
  ∀ name ∈ columns, ∃ scalar, (cells name).standing? = some scalar ∧
    (row.cell name).standing? = some scalar

theorem Meets.of_perm {columns columns' : List String} {cells : String → Cell} {row : StoredRow}
    (perm : columns.Perm columns') (meets : row.Meets columns cells) : row.Meets columns' cells :=
  fun name member => meets name (perm.mem_iff.2 member)

theorem shares_iff_meets {columns : List String} {candidate row : StoredRow}
    {cells : String → Cell} (isCells : ∀ name, candidate.cell name = cells name) :
    Shares columns candidate row ↔ row.Meets columns cells := by
  unfold Shares Meets
  simp only [isCells]

/-- A row that has a cell for each column gives that cell. -/
theorem lookup_of_named {row : StoredRow} {names : List String}
    (named : row.cells.map Prod.fst = names) (name : String) :
    row.cells.lookup name = if name ∈ names then some (row.cell name) else none := by
  unfold cell
  cases found : row.cells.lookup name with
  | none =>
      have isMissing : name ∉ names := by
        rw [← named]
        intro member
        obtain ⟨entry, isEntry, isName⟩ := List.mem_map.1 member
        have apart := List.lookup_eq_none_iff.1 found entry isEntry
        simp [isName] at apart
      rw [if_neg isMissing]
  | some cell =>
      have isColumn : name ∈ names := by
        rw [← named]
        obtain ⟨before, after, isCells, _⟩ := List.lookup_eq_some_iff.1 found
        rw [isCells]
        simp
      rw [if_pos isColumn, Option.getD_some]

end StoredRow

namespace StoredTable

open StoredRow

/-- What a column holds in the row that is stored for a record. An integer key that is not given is
the next number. -/
def proposed (stored : StoredTable) (record : Record) (name : String) : Cell :=
  match stored.table.given record name with
  | .null =>
      if stored.table.numberedKey?.map (·.name) = some name then .int stored.nextNumber else .null
  | cell => cell

/-- Whether a record stands in columns for the same values as a stored row. -/
def Clashes (stored : StoredTable) (columns : List String) (record : Record) (row : StoredRow) :
    Prop :=
  row ∈ stored.rows ∧ row.Meets columns (stored.table.given record)

variable {stored : StoredTable} {record : Record}

/-- Values that collide neither on a target nor on another key collide on none. -/
theorem free_of_apart {keys : List (List String)} {target : List String}
    (apart : ¬∃ old, stored.Clashes target record old)
    (others : ∀ key ∈ keys, ¬target.Perm key → ∀ old, ¬stored.Clashes key record old) :
    ∀ key ∈ keys, ∀ old, ¬stored.Clashes key record old := by
  intro key isKey old clashes
  by_cases perm : target.Perm key
  · exact apart ⟨old, clashes.1, clashes.2.of_perm perm.symm⟩
  · exact others key isKey perm old clashes

theorem proposed_of_given {name : String} (isGiven : stored.table.given record name ≠ .null) :
    stored.proposed record name = stored.table.given record name := by
  unfold proposed
  cases given : stored.table.given record name with
  | null => exact absurd given isGiven
  | _ => rfl

theorem proposed_of_null {name : String} (notGiven : stored.table.given record name = .null) :
    stored.proposed record name =
      if stored.table.numberedKey?.map (·.name) = some name then .int stored.nextNumber
      else .null := by
  unfold proposed
  rw [notGiven]

/-- What a table generates is in none of its rows, so that a record collides as it is given. -/
theorem Sound.meets_proposed_iff (sound : stored.Sound) {columns : List String} {row : StoredRow}
    (member : row ∈ stored.rows) :
    row.Meets columns (stored.proposed record) ↔
      row.Meets columns (stored.table.given record) := by
  refine forall_congr' fun name => imp_congr_right fun _ => ?_
  by_cases isGiven : stored.table.given record name = .null
  · refine iff_of_false ?_ ?_
    · rintro ⟨scalar, stands, inRow⟩
      rw [proposed_of_null isGiven] at stands
      split at stands
      · rename_i isKey
        obtain ⟨key, isNumbered, rfl⟩ := Option.map_eq_some_iff.1 isKey
        rw [sound.numbered key isNumbered row member, ← stands] at inRow
        have same : row.number = stored.nextNumber := by
          simpa [Cell.standing?, Value.scalar?] using inRow
        exact absurd same (ne_nextNumber member)
      · cases stands
    · rintro ⟨scalar, stands, _⟩
      rw [isGiven] at stands
      cases stands
  · rw [proposed_of_given isGiven]

/-! ## Candidates -/

theorem given_eq_lookup (insert : Insert) (record : Record) (name : String) :
    ((insert.cells record).lookup name).getD .null = insert.table.given record name := by
  unfold Insert.cells Table.given Table.stores Table.preset Table.column?
  induction insert.table.columns with
  | nil => cases record.get? name <;> rfl
  | cons column rest inductionHypothesis =>
      rw [List.map_cons, List.lookup_cons, List.find?_cons]
      by_cases isNamed : column.name = name
      · rw [isNamed, beq_self_eq_true]
        cases record.get? name <;> rfl
      · rw [beq_false_of_ne isNamed, beq_false_of_ne (Ne.symm isNamed)]
        exact inductionHypothesis

/-- The row that an insert tries to store is the one that is proposed. -/
theorem cell_candidate {insert : Insert} (isStored : stored.table = insert.table)
    {candidate : StoredRow} (numbered : stored.number (insert.cells record) = .ok candidate)
    (name : String) : candidate.cell name = stored.proposed record name := by
  have isGiven : ∀ name, ((insert.cells record).lookup name).getD .null =
      stored.table.given record name := by
    intro name
    rw [given_eq_lookup, isStored]
  unfold number at numbered
  cases isNumbered : stored.table.numberedKey? with
  | none =>
      rw [isNumbered] at numbered
      cases numbered
      by_cases isNull : stored.table.given record name = .null
      · rw [proposed_of_null isNull, isNumbered, ← isNull]
        exact isGiven name
      · rw [proposed_of_given isNull]
        exact isGiven name
  | some key =>
      rw [isNumbered] at numbered
      dsimp only at numbered
      rw [isGiven] at numbered
      split at numbered
      · rename_i isNull
        cases numbered
        have isLookup := lookup_map_snd (fun name cell => if name = key.name
          then Cell.int stored.nextNumber else cell) (insert.cells record) name
        unfold StoredRow.cell
        dsimp only
        rw [isLookup]
        by_cases isKey : name = key.name
        · subst isKey
          have isColumn : key.name ∈ (insert.cells record).map Prod.fst := by
            rw [Insert.names_cells, ← isStored]
            exact List.mem_map_of_mem (Table.mem_of_numberedKey? isNumbered)
          obtain ⟨entry, isEntry, isName⟩ := List.mem_map.1 isColumn
          cases found : (insert.cells record).lookup key.name with
          | none =>
              have apart := List.lookup_eq_none_iff.1 found entry isEntry
              simp [isName] at apart
          | some cell =>
              rw [proposed_of_null isNull, isNumbered]
              simp
        · have isOther : (Option.map (fun cell => if name = key.name
              then Cell.int stored.nextNumber else cell)
                ((insert.cells record).lookup name)).getD .null =
                  stored.table.given record name := by
            rw [← isGiven]
            simp [isKey]
          rw [isOther]
          by_cases notGiven : stored.table.given record name = .null
          · rw [proposed_of_null notGiven, isNumbered, notGiven, if_neg]
            simpa using Ne.symm isKey
          · rw [proposed_of_given notGiven]
      · rename_i number isNumber
        cases numbered
        by_cases notGiven : stored.table.given record name = .null
        · have isOther : key.name ≠ name := by
            rintro rfl
            rw [notGiven] at isNumber
            cases isNumber
          rw [proposed_of_null notGiven, isNumbered, if_neg (by simpa using isOther), ← notGiven]
          exact isGiven name
        · rw [proposed_of_given notGiven]
          exact isGiven name
      · cases numbered

theorem checkValues_of_filled {row : StoredRow} (filled : ∀ column ∈ stored.table.columns,
    stored.table.requires column = true → row.cell column.name ≠ .null) :
    stored.checkValues row = .ok () := by
  unfold checkValues
  rw [List.find?_eq_none.2 fun column isColumn => ?_]
  rw [Bool.and_eq_true, Cell.beq_null_iff, not_and]
  exact filled column isColumn

/-- A record that can be stored but for collisions is numbered and passes the checks of its
values. -/
theorem exists_candidate {insert : Insert} (isStored : stored.table = insert.table)
    (admits : insert.table.Admits record) :
    ∃ candidate, stored.number (insert.cells record) = .ok candidate ∧
      stored.checkValues candidate = .ok () := by
  rw [← isStored] at admits
  obtain ⟨candidate, numbered⟩ : ∃ candidate,
      stored.number (insert.cells record) = .ok candidate := by
    unfold number
    cases isNumbered : stored.table.numberedKey? with
    | none => exact ⟨_, rfl⟩
    | some key =>
        dsimp only
        rw [given_eq_lookup, ← isStored]
        rcases admits.numbered key isNumbered with isNull | ⟨number, isNumber⟩
        · rw [isNull]
          exact ⟨_, rfl⟩
        · rw [isNumber]
          exact ⟨_, rfl⟩
  refine ⟨candidate, numbered, checkValues_of_filled fun column isColumn required => ?_⟩
  have isGiven := admits.filled column isColumn required
  rw [cell_candidate isStored numbered, proposed_of_given isGiven]
  exact isGiven

/-! ## Collisions -/

theorem shares_numbered_iff {key : Column} {left right : StoredRow}
    (leftNumbered : left.cell key.name = .int left.number)
    (rightNumbered : right.cell key.name = .int right.number) :
    Shares [key.name] left right ↔ left.number = right.number := by
  unfold Shares
  rw [List.forall_mem_singleton, leftNumbered, rightNumbered]
  constructor
  · rintro ⟨scalar, isLeft, isRight⟩
    have same := isLeft.trans isRight.symm
    simpa [Cell.standing?, Value.scalar?] using same
  · intro same
    rw [same]
    exact ⟨_, rfl, rfl⟩

/-- The row that a conflict target finds is the one that shares the target. -/
theorem Sound.target?_eq_some_iff (sound : stored.Sound) {candidate : StoredRow}
    (numbers : stored.Numbers candidate) {target : List String}
    (isKey : ∃ key ∈ stored.table.keys, target.Perm key) {row : StoredRow} :
    Insert.target? stored (.keepOn target) candidate = some row ↔
      row ∈ stored.rows ∧ Shares target candidate row := by
  obtain ⟨key, isKey, perm⟩ := isKey
  unfold Insert.target?
  dsimp only
  by_cases byNumber : stored.table.numberedKey?.map (·.name) = target.head? ∧ target.length = 1
  · obtain ⟨sameName, isSingle⟩ := byNumber
    obtain ⟨name, rfl⟩ := List.length_eq_one_iff.1 isSingle
    obtain ⟨column, isNumbered, rfl⟩ := Option.map_eq_some_iff.1 sameName
    rw [if_pos (by simp [isNumbered])]
    have shares : ∀ row ∈ stored.rows,
        (Shares [column.name] candidate row ↔ candidate.number = row.number) := fun row member =>
      shares_numbered_iff (numbers.numbered column isNumbered)
        (sound.numbered column isNumbered row member)
    constructor
    · intro found
      have member := List.mem_of_find?_eq_some found
      have matched : (row.number == candidate.number) = true :=
        List.find?_some (p := fun row : StoredRow => row.number == candidate.number) found
      exact ⟨member, (shares row member).2 (beq_iff_eq.1 matched).symm⟩
    · rintro ⟨member, shared⟩
      have same := (shares row member).1 shared
      unfold rowWithNumber?
      cases found : stored.rows.find? (·.number == candidate.number) with
      | none =>
          have apart := List.find?_eq_none.1 found row member
          simp [same] at apart
      | some other =>
          have matched : (other.number == candidate.number) = true :=
            List.find?_some (p := fun row : StoredRow => row.number == candidate.number) found
          rw [sound.eq_of_number (List.mem_of_find?_eq_some found) member
            ((beq_iff_eq.1 matched).trans same)]
  · rw [if_neg (by simpa using byNumber)]
    have isChecked : key ∈ stored.table.checkedKeys := by
      rcases Table.mem_keys_iff.1 isKey with ⟨column, isNumbered, rfl⟩ | isChecked
      · rw [List.perm_singleton.1 perm] at byNumber
        exact absurd ⟨by simp [isNumbered], rfl⟩ byNumber
      · exact isChecked
    have shares : ∀ row ∈ stored.rows,
        (hasKey target candidate row = true ↔ Shares target candidate row) := fun row member =>
      hasKey_iff numbers.ordered (sound.ordered row member)
    have toKey : ∀ {left right}, Shares target left right → Shares key left right :=
      fun shared name member => shared name (perm.mem_iff.2 member)
    constructor
    · intro found
      have member := List.mem_of_find?_eq_some found
      exact ⟨member, (shares row member).1 (List.find?_some found)⟩
    · rintro ⟨member, shared⟩
      unfold rowWithKey?
      cases found : stored.rows.find? (hasKey target candidate) with
      | none => exact absurd ((shares row member).2 shared) (List.find?_eq_none.1 found row member)
      | some other =>
          have isOther := List.mem_of_find?_eq_some found
          have otherShares := (shares other isOther).1 (List.find?_some found)
          refine congrArg some (sound.eq_of_shares isChecked isOther member ?_)
          intro name inKey
          obtain ⟨scalar, isCandidate, isRow⟩ := toKey shared name inKey
          obtain ⟨scalar', isCandidate', isRow'⟩ := toKey otherShares name inKey
          cases isCandidate.symm.trans isCandidate'
          exact ⟨scalar, isRow', isRow⟩

/-- A row collides with none if it shares no key with any. -/
theorem Sound.collision?_eq_none (sound : stored.Sound) {candidate : StoredRow}
    (numbers : stored.Numbers candidate)
    (free : ∀ key ∈ stored.table.keys, ∀ row ∈ stored.rows, ¬Shares key candidate row) :
    stored.collision? candidate = none := by
  have noNumber : ∀ key, stored.table.numberedKey? = some key →
      stored.rowWithNumber? candidate.number = none := by
    intro key isNumbered
    refine List.find?_eq_none.2 fun row member same => ?_
    refine free [key.name] (Table.mem_keys_iff.2 (.inl ⟨key, isNumbered, rfl⟩)) row member ?_
    exact (shares_numbered_iff (numbers.numbered key isNumbered)
      (sound.numbered key isNumbered row member)).2 (beq_iff_eq.1 same).symm
  have noKey : stored.table.checkedKeys.findSome? (fun columns =>
      (stored.rowWithKey? columns candidate).map (columns, ·)) = none := by
    refine List.findSome?_eq_none_iff.2 fun key isChecked => ?_
    rw [Option.map_eq_none_iff]
    refine List.find?_eq_none.2 fun row member has => ?_
    refine free key (Table.mem_keys_iff.2 (.inr isChecked)) row member ?_
    exact (hasKey_iff numbers.ordered (sound.ordered row member)).1 has
  unfold collision?
  cases isNumbered : stored.table.numberedKey? with
  | none => exact noKey
  | some key =>
      dsimp only
      rw [noNumber key isNumbered]
      exact noKey

theorem checkKeys_of_free {row : StoredRow} (free : stored.collision? row = none) :
    stored.checkKeys row = .ok () := by
  unfold checkKeys
  rw [free]

end StoredTable

end RecordGraph

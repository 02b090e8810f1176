import Mathlib.Data.List.Nodup
import RecordGraph.Proofs.Lists
import RecordGraph.Proofs.Result
import RecordGraph.Proofs.Store.Standing

/-!
Contract: the constraints on the rows of a table.

Owns: `StoredTable.Sound`, and that addition, replacement and removal of rows keep it.
Does not own: statements.
-/

namespace RecordGraph

open RecordGraph.Sql

/-! ## Rows -/

namespace StoredRow

def Ordered (row : StoredRow) : Prop := ∀ entry ∈ row.cells, entry.2.Ordered

theorem Ordered.cell {row : StoredRow} (ordered : row.Ordered) (name : String) :
    (row.cell name).Ordered := by
  unfold StoredRow.cell
  cases found : row.cells.lookup name with
  | none => exact nofun
  | some cell =>
      rcases List.lookup_eq_some_iff.1 found with ⟨before, after, isCells, _⟩
      exact ordered (name, cell) (by rw [isCells]; simp)

/-- Whether two rows stand for the same in columns, and for something in each. -/
def Shares (columns : List String) (left right : StoredRow) : Prop :=
  ∀ name ∈ columns, ∃ scalar, (left.cell name).standing? = some scalar ∧
    (right.cell name).standing? = some scalar

theorem Shares.symm {columns : List String} {left right : StoredRow}
    (shares : Shares columns left right) : Shares columns right left := by
  intro name member
  rcases shares name member with ⟨scalar, isLeft, isRight⟩
  exact ⟨scalar, isRight, isLeft⟩

end StoredRow

namespace StoredTable

open StoredRow

theorem hasKey_iff {columns : List String} {left right : StoredRow} (leftOrdered : left.Ordered)
    (rightOrdered : right.Ordered) :
    hasKey columns left right = true ↔ Shares columns left right := by
  unfold hasKey Shares
  rw [List.all_eq_true]
  refine forall_congr' fun name => imp_congr_right fun _ => ?_
  rw [Bool.and_eq_true, Bool.not_eq_true', ← Bool.not_eq_true, Cell.beq_null_iff,
    Cell.sameAs_iff (leftOrdered.cell name) (rightOrdered.cell name),
    ← Cell.standing?_eq_none_iff (leftOrdered.cell name)]
  cases stands : (left.cell name).standing? with
  | none => simp
  | some scalar => simp [eq_comm]

/-! ## Tables -/

/-- Whether the rows of a table obey its constraints. -/
structure Sound (stored : StoredTable) : Prop where
  ordered : ∀ row ∈ stored.rows, row.Ordered
  /-- An integer key is the number of its row. -/
  numbered : ∀ key, stored.table.numberedKey? = some key →
    ∀ row ∈ stored.rows, row.cell key.name = .int row.number
  distinct : stored.rows.Pairwise fun left right => left.number ≠ right.number
  keys : ∀ columns ∈ stored.table.checkedKeys,
    stored.rows.Pairwise fun left right => ¬Shares columns left right
  filled : ∀ column ∈ stored.table.columns, stored.table.requires column = true →
    ∀ row ∈ stored.rows, row.cell column.name ≠ .null

theorem sound_empty (table : Table) : Sound { table } where
  ordered _ member := absurd member List.not_mem_nil
  numbered _ _ _ member := absurd member List.not_mem_nil
  distinct := .nil
  keys _ _ := .nil
  filled _ _ _ _ member := absurd member List.not_mem_nil

theorem Sound.remove {stored : StoredTable} (sound : stored.Sound) (number : Int) :
    (stored.remove number).Sound where
  ordered row member := sound.ordered row (List.mem_of_mem_filter member)
  numbered key isKey row member := sound.numbered key isKey row (List.mem_of_mem_filter member)
  distinct := sound.distinct.filter _
  keys columns isKey := (sound.keys columns isKey).filter _
  filled column isColumn required row member :=
    sound.filled column isColumn required row (List.mem_of_mem_filter member)

/-- Rows of a table with the same number are the same. -/
theorem Sound.eq_of_number {stored : StoredTable} (sound : stored.Sound) {left right : StoredRow}
    (isLeft : left ∈ stored.rows) (isRight : right ∈ stored.rows)
    (same : left.number = right.number) : left = right :=
  eq_of_pairwise_not sound.distinct Eq.symm isLeft isRight same

/-- Rows of a table that share a key are the same. -/
theorem Sound.eq_of_shares {stored : StoredTable} (sound : stored.Sound) {columns : List String}
    (isKey : columns ∈ stored.table.checkedKeys) {left right : StoredRow}
    (isLeft : left ∈ stored.rows) (isRight : right ∈ stored.rows)
    (shares : Shares columns left right) : left = right :=
  eq_of_pairwise_not (sound.keys columns isKey) Shares.symm isLeft isRight shares

/-! ## Rows that are added -/

theorem perm_insertByNumber (row : StoredRow) (rows : List StoredRow) :
    (insertByNumber row rows).Perm (row :: rows) := by
  induction rows with
  | nil => exact .refl _
  | cons other rest inductionHypothesis =>
      rw [insertByNumber]
      by_cases isLess : row.number < other.number
      · rw [if_pos isLess]
      · rw [if_neg isLess]
        exact (inductionHypothesis.cons other).trans (.swap row other rest)

theorem mem_add_iff {stored : StoredTable} {row other : StoredRow} :
    other ∈ (stored.add row).rows ↔ other = row ∨ other ∈ stored.rows := by
  rw [← List.mem_cons]
  exact (perm_insertByNumber row stored.rows).mem_iff

theorem isFree_iff {stored : StoredTable} {number : Int} :
    stored.isFree number = true ↔ ∀ row ∈ stored.rows, row.number ≠ number := by
  unfold isFree
  simp only [List.all_eq_true, bne_iff_ne]

/-- Of one number more than there are rows, one is free. -/
theorem exists_isFree (stored : StoredTable) :
    ∃ number ∈ stored.leastNumbers, stored.isFree number = true := by
  by_contra noneFree
  have distinct : stored.leastNumbers.Nodup := by
    refine List.nodup_range.map fun left right same => ?_
    have same : (left : Int) + 1 = right + 1 := same
    omega
  have taken : stored.leastNumbers ⊆ stored.rows.map (·.number) := by
    intro number member
    by_contra notTaken
    refine noneFree ⟨number, member, isFree_iff.2 fun row isRow same => notTaken ?_⟩
    exact List.mem_map.2 ⟨row, isRow, same⟩
  have noMore := (List.subperm_of_subset distinct taken).length_le
  simp [leastNumbers] at noMore

theorem isFree_drawnNumber (stored : StoredTable) : stored.isFree stored.drawnNumber = true := by
  unfold drawnNumber
  cases found : (stored.draws.map drawn ++ stored.leastNumbers).find? stored.isFree with
  | some number => exact List.find?_some found
  | none =>
      obtain ⟨number, member, isFree⟩ := stored.exists_isFree
      exact absurd isFree (List.find?_eq_none.1 found number (List.mem_append_right _ member))

/-- The number that a table gives to the next row is that of none. -/
theorem ne_nextNumber {stored : StoredTable} {row : StoredRow} (member : row ∈ stored.rows) :
    row.number ≠ stored.nextNumber := by
  unfold nextNumber
  cases isRows : stored.rows with
  | nil =>
      rw [isRows] at member
      exact absurd member List.not_mem_nil
  | cons first rest =>
      dsimp only
      split
      · rw [isRows] at member
        have isBounded : row.number ≤ (rest.map (·.number)).foldl max first.number :=
          le_foldl_max ((List.mem_cons.1 member).imp (congrArg StoredRow.number) List.mem_map_of_mem)
        omega
      · exact isFree_iff.1 stored.isFree_drawnNumber row member

/-- After the last number, what is drawn first and free follows. -/
example (table : Table) :
    nextNumber { table, rows := [⟨7, []⟩, ⟨Cell.wordBound - 1, []⟩], draws := [6, 41] } = 42 := rfl

/-- What makes a row fit to be added to a table. -/
structure Fits (stored : StoredTable) (row : StoredRow) : Prop where
  ordered : row.Ordered
  numbered : ∀ key, stored.table.numberedKey? = some key → row.cell key.name = .int row.number
  fresh : ∀ other ∈ stored.rows, row.number ≠ other.number
  keys : ∀ columns ∈ stored.table.checkedKeys, ∀ other ∈ stored.rows, ¬Shares columns row other
  filled : ∀ column ∈ stored.table.columns, stored.table.requires column = true →
    row.cell column.name ≠ .null

theorem Sound.add {stored : StoredTable} (sound : stored.Sound) {row : StoredRow}
    (fits : stored.Fits row) : (stored.add row).Sound where
  ordered other member := by
    rcases mem_add_iff.1 member with rfl | member
    · exact fits.ordered
    · exact sound.ordered other member
  numbered key isKey other member := by
    rcases mem_add_iff.1 member with rfl | member
    · exact fits.numbered key isKey
    · exact sound.numbered key isKey other member
  distinct := by
    refine ((perm_insertByNumber row stored.rows).pairwise_iff fun differ => differ.symm).2 ?_
    exact List.pairwise_cons.2 ⟨fits.fresh, sound.distinct⟩
  keys columns isKey := by
    refine ((perm_insertByNumber row stored.rows).pairwise_iff fun apart shares =>
      apart shares.symm).2 ?_
    exact List.pairwise_cons.2 ⟨fits.keys columns isKey, sound.keys columns isKey⟩
  filled column isColumn required other member := by
    rcases mem_add_iff.1 member with rfl | member
    · exact fits.filled column isColumn required
    · exact sound.filled column isColumn required other member

/-- A row is numbered by its integer key, or else gets a number that no row of the table has. -/
structure Numbers (stored : StoredTable) (row : StoredRow) : Prop where
  ordered : row.Ordered
  numbered : ∀ key, stored.table.numberedKey? = some key → row.cell key.name = .int row.number
  fresh : stored.table.numberedKey? = none → ∀ other ∈ stored.rows, row.number ≠ other.number

theorem checkValues_eq_ok {stored : StoredTable} {row : StoredRow}
    (checked : stored.checkValues row = .ok ()) : ∀ column ∈ stored.table.columns,
      stored.table.requires column = true → row.cell column.name ≠ .null := by
  intro column isColumn required isNull
  unfold checkValues at checked
  cases missing : stored.table.columns.find? fun column =>
      stored.table.requires column && row.cell column.name == .null with
  | some column =>
      rw [missing] at checked
      cases checked
  | none =>
      have isFilled := List.find?_eq_none.1 missing column isColumn
      rw [required, isNull] at isFilled
      exact isFilled rfl

theorem Sound.fits {stored : StoredTable} (sound : stored.Sound) {row : StoredRow}
    (numbers : stored.Numbers row) (values : stored.checkValues row = .ok ())
    (free : stored.collision? row = none) : stored.Fits row where
  ordered := numbers.ordered
  numbered := numbers.numbered
  fresh := by
    intro other member same
    unfold collision? at free
    cases isNumbered : stored.table.numberedKey? with
    | none => exact numbers.fresh isNumbered other member same
    | some key =>
        rw [isNumbered] at free
        cases found : stored.rowWithNumber? row.number with
        | some row =>
            rw [found] at free
            cases free
        | none =>
            have differ := List.find?_eq_none.1 found other member
            rw [same] at differ
            exact differ (beq_self_eq_true _)
  keys := by
    intro columns isKey other member shares
    unfold collision? at free
    dsimp only at free
    split at free
    · cases free
    · have noRow := List.findSome?_eq_none_iff.1 free columns isKey
      rw [Option.map_eq_none_iff] at noRow
      have differ := List.find?_eq_none.1 noRow other member
      exact differ ((hasKey_iff numbers.ordered (sound.ordered other member)).2 shares)
  filled := checkValues_eq_ok values

theorem checkKeys_eq_ok {stored : StoredTable} {row : StoredRow}
    (checked : stored.checkKeys row = .ok ()) : stored.collision? row = none := by
  unfold checkKeys at checked
  cases found : stored.collision? row with
  | none => rfl
  | some collision =>
      rw [found] at checked
      cases checked

/-- Numbering makes a row of cells, with the number in the place of an integer key that is null. -/
theorem number_eq_ok {stored : StoredTable} {cells : List (String × Cell)} {row : StoredRow}
    (numbered : stored.number cells = .ok row) (ordered : ∀ entry ∈ cells, entry.2.Ordered)
    (named : ∀ key, stored.table.numberedKey? = some key → key.name ∈ cells.map Prod.fst) :
    stored.Numbers row := by
  unfold StoredTable.number at numbered
  cases isNumbered : stored.table.numberedKey? with
  | none =>
      rw [isNumbered] at numbered
      cases numbered
      refine ⟨ordered, fun key impossible => ?_, fun _ other member => ?_⟩
      · exact absurd (isNumbered.symm.trans impossible) nofun
      · exact (ne_nextNumber member).symm
  | some key =>
      rw [isNumbered] at numbered
      have notNone : stored.table.numberedKey? ≠ none := by rw [isNumbered]; exact nofun
      dsimp only at numbered
      split at numbered
      · cases numbered
        obtain ⟨entry, isEntry, isKey⟩ := List.mem_map.1 (named key isNumbered)
        have found : ∃ cell, cells.lookup key.name = some cell := by
          cases lookup : cells.lookup key.name with
          | some cell => exact ⟨cell, rfl⟩
          | none =>
              have apart := List.lookup_eq_none_iff.1 lookup entry isEntry
              exact absurd (beq_iff_eq.2 isKey.symm) (by simpa using apart)
        obtain ⟨cell, isCell⟩ := found
        refine ⟨fun entry member => ?_, fun key' isKey' => ?_, fun isNone => absurd isNone notNone⟩
        · obtain ⟨other, isOther, rfl⟩ := List.mem_map.1 member
          dsimp only
          split
          · exact nofun
          · exact ordered other isOther
        · rw [isNumbered] at isKey'
          cases isKey'
          unfold StoredRow.cell
          rw [lookup_map_snd fun name cell => if name = key.name then Cell.int stored.nextNumber
            else cell, isCell]
          simp
      · rename_i number isNumber
        cases numbered
        refine ⟨ordered, fun key' isKey' => ?_, fun isNone => absurd isNone notNone⟩
        cases isNumbered.symm.trans isKey'
        exact isNumber
      · cases numbered

/-! ## Rows that are replaced -/

/-- The cells of a row, some of them replaced. -/
def patched (row : StoredRow) (cells : List (String × Cell)) : List (String × Cell) :=
  row.cells.map fun entry => (entry.1, (cells.lookup entry.1).getD entry.2)

theorem changed_eq_ok {stored : StoredTable} {old row : StoredRow} {cells : List (String × Cell)}
    (changed : stored.changed old cells = .ok row) :
    row.cells = patched old cells ∧
      (stored.table.numberedKey? = none → row.number = old.number) ∧
        ∀ key, stored.table.numberedKey? = some key → row.cell key.name = .int row.number := by
  unfold StoredTable.changed at changed
  dsimp only at changed
  cases isNumbered : stored.table.numberedKey? with
  | none =>
      rw [isNumbered] at changed
      cases changed
      exact ⟨rfl, fun _ => rfl, fun _ impossible => nomatch impossible⟩
  | some key =>
      rw [isNumbered] at changed
      dsimp only at changed
      split at changed
      · rename_i number isNumber
        cases changed
        refine ⟨rfl, nofun, fun key' isKey => ?_⟩
        cases isKey
        exact isNumber
      · cases changed

theorem ordered_patched {row : StoredRow} {cells : List (String × Cell)} (ordered : row.Ordered)
    (cellsOrdered : ∀ entry ∈ cells, entry.2.Ordered) :
    ∀ entry ∈ patched row cells, entry.2.Ordered := by
  intro entry member
  obtain ⟨other, isOther, rfl⟩ := List.mem_map.1 member
  dsimp only
  cases found : cells.lookup other.1 with
  | none => exact ordered other isOther
  | some cell =>
      rcases List.lookup_eq_some_iff.1 found with ⟨before, after, isCells, _⟩
      exact cellsOrdered (other.1, cell) (by rw [isCells]; simp)

theorem replace_eq_ok {stored stored' : StoredTable} {old row : StoredRow}
    {cells : List (String × Cell)} (replaced : stored.replace old cells = .ok (stored', row)) :
    stored.changed old cells = .ok row ∧ stored.checkValues row = .ok () ∧
      (stored.remove old.number).collision? row = none ∧
        stored' = (stored.remove old.number).add row := by
  rcases Result.bind_eq_ok.1 replaced with ⟨made, isMade, replaced⟩
  rcases Result.bind_eq_ok.1 replaced with ⟨_, values, replaced⟩
  rcases Result.bind_eq_ok.1 replaced with ⟨_, keys, replaced⟩
  cases Result.pure_eq_ok.1 replaced
  exact ⟨isMade, values, checkKeys_eq_ok keys, rfl⟩

/-- A row that is changed is numbered among the other rows. -/
theorem numbers_changed {stored : StoredTable} {old row : StoredRow} {cells : List (String × Cell)}
    (oldOrdered : old.Ordered) (ordered : ∀ entry ∈ cells, entry.2.Ordered)
    (changed : stored.changed old cells = .ok row) :
    (stored.remove old.number).Numbers row := by
  rcases changed_eq_ok changed with ⟨isCells, isNumber, numbered⟩
  refine ⟨?_, numbered, ?_⟩
  · intro entry member
    rw [isCells] at member
    exact ordered_patched oldOrdered ordered entry member
  · intro isNone other member same
    have differ := (List.mem_filter.1 member).2
    rw [← same, isNumber isNone] at differ
    simp at differ

theorem Sound.replace {stored stored' : StoredTable} (sound : stored.Sound) {old row : StoredRow}
    (oldOrdered : old.Ordered) {cells : List (String × Cell)}
    (ordered : ∀ entry ∈ cells, entry.2.Ordered)
    (replaced : stored.replace old cells = .ok (stored', row)) : stored'.Sound := by
  rcases replace_eq_ok replaced with ⟨changed, values, free, rfl⟩
  have numbers := numbers_changed oldOrdered ordered changed
  exact (sound.remove old.number).add ((sound.remove old.number).fits numbers values free)

end StoredTable

end RecordGraph

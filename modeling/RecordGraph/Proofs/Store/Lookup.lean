import RecordGraph.Proofs.Execution.Action
import RecordGraph.Proofs.Store.Reached

/-!
Contract: rows are found by their primary keys.

Owns: `StoredRow.HasKey`, that a table has at most one row with a key, and what a selection by key
gives.
Does not own: tables whose primary key has several columns.
-/

namespace RecordGraph

open RecordGraph.Sql

/-- The parameter of a condition that a column has a value. -/
def Cell.parameter (type : ColumnType) : Value → Cell
  | .bool flag => .int (if flag then 1 else 0)
  | value => ofParameter (comparedType type value) value

theorem Cell.ordered_parameter (type : ColumnType) (value : Value) :
    (parameter type value).Ordered := by
  unfold parameter
  split
  · exact nofun
  · exact ordered_ofParameter _ _

/-- The cell that a column is compared with when a value is asked for. -/
def Cell.sought (type : ColumnType) (value : Value) : Cell :=
  (parameter type value).operand type

theorem comparedType_integer (number : Int) : comparedType .integer (.int number) = .integer := by
  by_cases isSmall : number.natAbs < bigBound
  · simp [comparedType, valueType?, isSmall]
  · simp [comparedType, valueType?, isSmall]

/-- An integer is looked for as it is. -/
theorem Cell.sought_integer (number : Int) : sought .integer (.int number) = .int number := by
  unfold sought parameter
  dsimp only
  rw [comparedType_integer]
  rfl

theorem Cell.operand_null (type : ColumnType) : Cell.null.operand type = .null := by
  cases type <;> rfl

/-- Whether a row has a value in a key column. Null is no key. -/
def StoredRow.HasKey (key : Column) (value : Value) (row : StoredRow) : Prop :=
  value.isNull = false ∧ ∃ scalar, (row.cell key.name).standing? = some scalar ∧
    (Cell.sought key.type value).standing? = some scalar

namespace Sql.Condition

/-- A comparison with a cell is true of cells that stand for the same. -/
theorem compareCells_equal_iff (type : ColumnType) {cell parameter : Cell} (ordered : cell.Ordered)
    (parameterOrdered : parameter.Ordered) :
    compareCells .equal type cell parameter = true ↔
      ∃ scalar, cell.standing? = some scalar ∧ (parameter.operand type).standing? = some scalar := by
  have isSame := Cell.sameAs_iff ordered (parameterOrdered.operand type)
  unfold compareCells
  by_cases isNull : cell = .null ∨ parameter = .null
  · have either : (cell == .null || parameter == .null) = true := by
      rw [Bool.or_eq_true, Cell.beq_null_iff, Cell.beq_null_iff]
      exact isNull
    rw [if_pos either]
    refine iff_of_false Bool.false_ne_true ?_
    rintro ⟨scalar, stands, sought⟩
    rcases isNull with rfl | rfl
    · cases stands
    · rw [Cell.operand_null] at sought
      cases sought
  · have neither : ¬(cell == .null || parameter == .null) = true := by
      rw [Bool.or_eq_true, Cell.beq_null_iff, Cell.beq_null_iff]
      exact isNull
    rw [if_neg neither]
    have stands : cell.standing? ≠ none := fun isNone =>
      isNull (.inl ((Cell.standing?_eq_none_iff ordered).1 isNone))
    obtain ⟨scalar, isScalar⟩ := Option.ne_none_iff_exists'.1 stands
    refine isSame.trans ?_
    rw [isScalar]
    constructor
    · intro same
      exact ⟨scalar, rfl, same.symm⟩
    · rintro ⟨other, isOther, sought⟩
      rw [sought, isOther]

theorem holds_equal_iff {key : Column} {value : Value} {table : Table} {row : StoredRow}
    (ordered : row.Ordered) (isFilled : row.cell key.name ≠ .null) :
    (equal (Term.ofColumn table key) value).holds (row.cellsOf table) = true ↔
      row.HasKey key value := by
  have isCell : row.cellsOf table ⟨table.name, key.name⟩ = row.cell key.name := if_pos rfl
  have cellOrdered := ordered.cell key.name
  by_cases isNull : value = .null
  · subst isNull
    refine iff_of_false ?_ fun impossible => nomatch impossible.1
    change ¬(row.cellsOf table ⟨table.name, key.name⟩ == .null) = true
    rw [isCell, Cell.beq_null_iff]
    exact isFilled
  · have isCompared : (equal (Term.ofColumn table key) value).holds (row.cellsOf table) =
        compareCells .equal key.type (row.cell key.name) (Cell.parameter key.type value) := by
      rw [← isCell]
      cases value with
      | null => exact absurd rfl isNull
      | _ => rfl
    have isValue : value.isNull = false := by
      cases value with
      | null => exact absurd rfl isNull
      | _ => rfl
    rw [isCompared, compareCells_equal_iff key.type cellOrdered (Cell.ordered_parameter _ _)]
    exact (and_iff_right isValue).symm

end Sql.Condition

namespace StoredTable

variable {stored : StoredTable} {key : Column}

theorem Sound.filled_key (sound : stored.Sound) (isKey : stored.table.primaryKeys = [key])
    {row : StoredRow} (member : row ∈ stored.rows) : row.cell key.name ≠ .null := by
  have isPrimary : key ∈ stored.table.primaryKeys := by rw [isKey]; exact List.mem_singleton_self key
  by_cases isNumbered : stored.table.numberedKey? = some key
  · rw [sound.numbered key isNumbered row member]
    exact nofun
  · refine sound.filled key (List.mem_of_mem_filter isPrimary) ?_ row member
    have isMarked : key.primaryKey = true := (List.mem_filter.1 isPrimary).2
    simp [Table.requires, isNumbered, isMarked]

/-- A table has at most one row with a key. -/
theorem Sound.eq_of_hasKey (sound : stored.Sound) (isKey : stored.table.primaryKeys = [key])
    {value : Value} {left right : StoredRow} (isLeft : left ∈ stored.rows)
    (isRight : right ∈ stored.rows) (leftHas : left.HasKey key value)
    (rightHas : right.HasKey key value) : left = right := by
  rcases leftHas with ⟨_, scalar, leftStands, sought⟩
  rcases rightHas with ⟨_, scalar', rightStands, sought'⟩
  cases sought.symm.trans sought'
  by_cases isInteger : key.type = .integer
  · have isNumbered : stored.table.numberedKey? = some key := by
      simp [Table.numberedKey?, isKey, isInteger]
    rw [sound.numbered key isNumbered left isLeft] at leftStands
    rw [sound.numbered key isNumbered right isRight] at rightStands
    have same : (left.number : ℚ) = right.number := by
      have stands := leftStands.trans rightStands.symm
      simpa [Cell.standing?, Value.scalar?] using stands
    exact sound.eq_of_number isLeft isRight (by exact_mod_cast same)
  · have isChecked : [key.name] ∈ stored.table.checkedKeys := by
      simp [Table.checkedKeys, Table.numberedKey?, Table.keyNames, isKey, isInteger]
    refine sound.eq_of_shares isChecked isLeft isRight fun name member => ?_
    rw [List.mem_singleton.1 member]
    exact ⟨scalar, leftStands, rightStands⟩

end StoredTable

/-! ## Selections by key -/

namespace Sql.Select

variable {table : Table} {key : Column}

theorem narrowedKey?_eq_none {select : Select} {narrowed : Condition → Option ColumnRef}
    (isWide : ∀ column, select.narrows narrowed column = false) :
    select.narrowedKey? narrowed = none := by
  refine List.find?_eq_none.2 fun columns _ => ?_
  cases columns.head? with
  | none => exact Bool.false_ne_true
  | some column => simp [isWide column]

theorem readingOrder_byKey (value : Value) : (byKey table key value).readingOrder = .byNumber := by
  have narrowsNothing : ∀ narrowed : Condition → Option ColumnRef,
      narrowed (Condition.equal (Term.ofColumn table key) value) = none → ∀ column,
        (byKey table key value).narrows narrowed column = false := by
    intro narrowed isNone column
    simp [narrows, byKey, isNone]
  have listsNothing := narrowsNothing Condition.listed? (by cases value <;> rfl)
  have rangesNothing := narrowsNothing Condition.ranged? (by cases value <;> rfl)
  unfold readingOrder listedKey? narrowsNumber
  rw [narrowedKey?_eq_none listsNothing, narrowedKey?_eq_none rangesNothing]
  cases (byKey table key value).table.numberedKey? with
  | none => rfl
  | some column =>
      simp only [Option.map_some, Option.any_some, listsNothing column.name,
        rangesNothing column.name, Bool.false_eq_true, if_false]
      rfl

/-- Without an order the rows come as they are read. -/
theorem evaluate_of_unordered {select : Select} (isUnordered : select.order = []) (store : Store) :
    select.evaluate store = ((select.candidates store).filter fun cells =>
      select.conditions.all (Condition.holds cells)).map select.project := by
  unfold evaluate
  rw [isUnordered]
  exact congrArg (List.map select.project)
    (List.mergeSort_of_pairwise (List.pairwise_of_forall fun _ _ => rfl))

theorem evaluate_byKey (store : Store) (value : Value) :
    (byKey table key value).evaluate store =
      ((store.tableOf table).rows.filter fun row =>
        (Condition.equal (Term.ofColumn table key) value).holds (row.cellsOf table)).map
          fun row => readRow table (row.cellsOf table) := by
  have isBase : (byKey table key value).candidates store =
      (store.tableOf table).rows.map (StoredRow.cellsOf table) := by
    change ((readingOrder (byKey table key value)).read (store.tableOf table).rows).map _ = _
    rw [readingOrder_byKey]
    rfl
  rw [evaluate_of_unordered rfl, isBase, List.filter_map, List.map_map]
  have isFilter : (fun cells : CellsOf => (byKey table key value).conditions.all
      (Condition.holds cells)) ∘ StoredRow.cellsOf table = fun row =>
        (Condition.equal (Term.ofColumn table key) value).holds (row.cellsOf table) := by
    funext row
    exact Bool.and_true _
  rw [isFilter]
  rfl

/-- A selection by key gives the row with the key, if there is one. -/
theorem head?_byKey {store : Store} {schema : Schema} (sound : SoundTables schema store.tables)
    (isTable : schema.table? table.name = some table) (isKey : table.primaryKeys = [key])
    (value : Value) (record : Record) :
    ((byKey table key value).evaluate store).head? = some record ↔
      ∃ row ∈ (store.tableOf table).rows, row.HasKey key value ∧
        readRow table (row.cellsOf table) = record := by
  have storedSound := Store.sound_tableOf sound table
  have isStored : (store.tableOf table).table.primaryKeys = [key] := by
    rw [Store.table_tableOf sound isTable, isKey]
  rw [evaluate_byKey, List.head?_map, List.head?_filter, Option.map_eq_some_iff]
  generalize isTest : (fun row : StoredRow =>
    (Condition.equal (Term.ofColumn table key) value).holds (row.cellsOf table)) = test
  have holds : ∀ row ∈ (store.tableOf table).rows, (test row = true ↔ row.HasKey key value) := by
    intro row member
    rw [← isTest]
    exact Condition.holds_equal_iff (storedSound.ordered row member)
      (storedSound.filled_key isStored member)
  constructor
  · rintro ⟨row, found, isRecord⟩
    have member := List.mem_of_find?_eq_some found
    exact ⟨row, member, (holds row member).1 (List.find?_some found), isRecord⟩
  · rintro ⟨row, member, hasKey, isRecord⟩
    refine ⟨row, ?_, isRecord⟩
    cases found : (store.tableOf table).rows.find? test with
    | none => exact absurd ((holds row member).2 hasKey) (List.find?_eq_none.1 found row member)
    | some other =>
        have isOther := List.mem_of_find?_eq_some found
        have otherHas := (holds other isOther).1 (List.find?_some found)
        rw [storedSound.eq_of_hasKey isStored isOther member otherHas hasKey]

/-- A selection by key can be asked if the key can be bound. -/
theorem accepts_byKey {value bound : Value} (isScalar : Condition.equal (Term.ofColumn table key) value =
      .compare .equal (Term.ofColumn table key) value)
    (binds : Cell.boundValue (comparedType key.type value) value = some bound)
    (free : Database.refusal? 1 bound = none) :
    Database.Accepts (.select (byKey table key value)) := by
  have isNamed : ∀ stem, ∃ name, parameterNames .sqlite [] 0 [some stem] = [name] := by
    intro stem
    unfold parameterNames
    dsimp only
    split <;> exact ⟨_, rfl⟩
  obtain ⟨name, isName⟩ := isNamed (Term.ofColumn table key).stem
  have isParameter : ((byKey table key value).render .sqlite).parameters =
      [⟨placeholderName name, comparedType key.type value, value⟩] := by
    unfold byKey render
    rw [isScalar]
    change [] ++ (renderWhere .sqlite [.compare .equal (Term.ofColumn table key) value]).parameters
      ++ [] = _
    unfold renderWhere conditionNames
    rw [show [Condition.compare .equal (Term.ofColumn table key) value].map (·.stem?) =
      [some (Term.ofColumn table key).stem] from rfl, isName]
    rfl
  refine ⟨(byKey table key value).render .sqlite, [bound], ?_, ?_, ?_⟩
  · unfold byKey Statement.text Statement.fault?
    rw [isScalar]
    rfl
  · rw [isParameter]
    unfold Database.boundValues
    rw [List.mapM_cons, List.mapM_nil, binds]
    rfl
  · unfold Database.firstRefusal
    rw [free]
    rfl

end Sql.Select

end RecordGraph

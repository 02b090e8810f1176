import RecordGraph.Proofs.Execution.Unit
import RecordGraph.Proofs.Result
import RecordGraph.Proofs.Schema.Reachable
import RecordGraph.Proofs.Value.Record

/-!
Contract: a database that stores and returns values unchanged.

Owns: `Storage`, what is asked of it, and the rows that single inserts and selections by key give.
Does not own: plans and relations.

Nothing is said about how a database compares values, save that a stored value that is not null
equals itself and that null finds nothing else. The order of rows is left open.
-/

namespace RecordGraph

open RecordGraph.Sql

/-- A stored row, by column. -/
abbrev Tuple := String → Value

/-- The stored rows of every table, by name. -/
abbrev Contents := String → List Tuple

/-- Whether all rows of contents are rows of others. -/
def Contents.StaysIn (before after : Contents) : Prop :=
  ∀ name, ∀ tuple ∈ before name, tuple ∈ after name

theorem Contents.StaysIn.trans {first second last : Contents} (earlier : first.StaysIn second)
    (later : second.StaysIn last) : first.StaysIn last :=
  fun name tuple member => later name tuple (earlier name tuple member)

/-- What a row shows of a table. -/
def Tuple.shown (table : Table) (tuple : Tuple) : Record :=
  table.columns.map fun column => (column.name, tuple column.name)

/-- A row shows the columns of a table and nothing else. -/
theorem Tuple.get?_shown_eq (tuple : Tuple) (table : Table) (name : String) :
    (tuple.shown table).get? name =
      if table.hasColumn name = true then some (tuple name) else none := by
  unfold shown Table.hasColumn
  induction table.columns with
  | nil => rfl
  | cons column rest inductionHypothesis =>
      rw [List.map_cons, Record.get?_cons, List.any_cons]
      by_cases isNamed : column.name = name
      · rw [if_pos isNamed, beq_iff_eq.2 isNamed, Bool.true_or, if_pos rfl, isNamed]
      · rw [if_neg isNamed, beq_false_of_ne isNamed, Bool.false_or]
        exact inductionHypothesis

theorem Tuple.get?_shown {table : Table} {name : String} (tuple : Tuple)
    (isColumn : table.hasColumn name = true) : (tuple.shown table).get? name = some (tuple name) := by
  rw [tuple.get?_shown_eq, if_pos isColumn]

theorem Tuple.hasColumn_of_get?_shown {table : Table} {name : String} {value : Value} {tuple : Tuple}
    (shown : (tuple.shown table).get? name = some value) : table.hasColumn name = true := by
  rw [tuple.get?_shown_eq, Option.ite_none_right_eq_some] at shown
  exact shown.1

theorem Tuple.getD_shown {table : Table} {name : String} (tuple : Tuple)
    (isColumn : table.hasColumn name = true) : (tuple.shown table).getD name = tuple name :=
  Record.getD_of_get? (tuple.get?_shown isColumn)

/-! ## Questions -/

/-- The column that a condition asks about, and the values that it asks for. -/
def Sql.Condition.sought? : Condition → Option (ColumnRef × List Value)
  | .isNull term => some (term.column, [.null])
  | .isFlag term flag => some (term.column, [.bool flag])
  | .compare .equal term value => some (term.column, [value])
  | .among term values => some (term.column, values)
  | _ => none

theorem Sql.Condition.sought?_equal (term : Term) (value : Value) :
    (Condition.equal term value).sought? = some (term.column, [value]) := by
  cases value <;> rfl

/-- Whether a join of a table with another one tells its columns apart. -/
structure Sql.Join.Suits (schema : Schema) (table : Table) (join : Join) : Prop where
  through : schema.table? join.through.name = some join.through
  apart : join.through.name ≠ table.name
  owner : join.through.hasColumn join.owner.name = true
  link : join.through.hasColumn join.link = true
  key : table.hasColumn join.key = true
  unlabelled : table.hasColumn join.label = false

/-- Whether a selection asks for values in one column of a table, or of its join table. -/
structure Sql.Select.Asks (schema : Schema) (select : Select) (ref : ColumnRef)
    (sought : List Value) : Prop where
  table : schema.table? select.table.name = some select.table
  condition : ∃ condition, select.conditions = [condition] ∧ condition.sought? = some (ref, sought)
  unordered : select.order = []
  place : match select.join with
    | none => ref.table = select.table.name ∧ select.table.hasColumn ref.column = true
    | some join => join.Suits schema select.table ∧ ref.table = join.through.name ∧
        join.through.hasColumn ref.column = true

theorem Sql.Select.asks_byKey {schema : Schema} {table : Table} {key : Column}
    (isTable : schema.table? table.name = some table)
    (isKey : table.primaryKeys = [key]) (value : Value) :
    (Select.byKey table key value).Asks schema ⟨table.name, key.name⟩ [value] where
  table := isTable
  condition := ⟨_, rfl, Condition.sought?_equal _ value⟩
  unordered := rfl
  place := ⟨rfl, List.any_eq_true.2
    ⟨key, (Table.mem_of_primaryKeys isKey).1, beq_self_eq_true key.name⟩⟩

/-! ## Databases -/

/-- A session over a database of which can be told what it stores. -/
structure Storage (σ : Type) where
  session : Session σ
  contents : σ → Contents
  isOpen : σ → Prop
  equal : Value → Value → Bool

variable {σ : Type}

namespace Storage

variable (storage : Storage σ)

/-- Whether one of the values that are sought equals a value. -/
def Finds (sought : List Value) (value : Value) : Prop :=
  ∃ each ∈ sought, storage.equal each value = true

/-- Whether a selection gives a row. -/
def Gives (contents : Contents) (select : Select) (ref : ColumnRef) (sought : List Value)
    (row : Record) : Prop :=
  ∃ tuple ∈ contents select.table.name,
    match select.join with
    | none => storage.Finds sought (tuple ref.column) ∧ row = tuple.shown select.table
    | some join => ∃ link ∈ contents join.through.name,
        storage.equal (link join.link) (tuple join.key) = true ∧
          storage.Finds sought (link ref.column) ∧
            row = tuple.shown select.table ++ [(join.label, link join.owner.name)]

/-- Whether a value is null or stored. -/
def Stores (contents : Contents) (value : Value) : Prop :=
  value = .null ∨ ∃ table, ∃ tuple ∈ contents table, ∃ name, tuple name = value

theorem stores_of_mem {contents : Contents} {table : String} {tuple : Tuple}
    (member : tuple ∈ contents table) (name : String) : Stores contents (tuple name) :=
  .inr ⟨table, tuple, member, name, rfl⟩

end Storage

/-- Whether a reported key is that of a row, as far as it is reported. -/
def Tuple.Reports (tuple : Tuple) (table : Table) (inserted : List Value) : Prop :=
  ∀ (position : Nat) (name : String), table.keyNames[position]? = some name →
    (inserted[position]?).getD Value.null = .null ∨
      (inserted[position]?).getD Value.null = tuple name

/-- Whether contents differ by one added row that has the values that were given, but for nulls. -/
structure Contents.Adds (before after : Contents) (table : Table) (values : Record)
    (tuple : Tuple) : Prop where
  stored : ∀ name value, values.get? name = some value → value.isNull = false → tuple name = value
  rows : ∀ name other, other ∈ after name ↔ other ∈ before name ∨ name = table.name ∧ other = tuple

theorem Contents.Adds.staysIn {before after : Contents} {table : Table} {values : Record}
    {tuple : Tuple} (adds : before.Adds after table values tuple) : before.StaysIn after :=
  fun name other member => (adds.rows name other).2 (.inl member)

theorem Contents.Adds.member {before after : Contents} {table : Table} {values : Record}
    {tuple : Tuple} (adds : before.Adds after table values tuple) : tuple ∈ after table.name :=
  (adds.rows table.name tuple).2 (.inr ⟨rfl, rfl⟩)

/-- A key may be reported in full. -/
theorem Tuple.reports_map (tuple : Tuple) (table : Table) :
    tuple.Reports table (table.keyNames.map tuple) := by
  intro position name isName
  right
  rw [List.getElem?_map, isName]
  rfl

/-- What a database does that stores values unchanged and keeps primary keys apart, whatever it
answers. -/
structure Storage.Keeping (storage : Storage σ) (schema : Schema) : Prop where
  /-- Selections change nothing. -/
  keeps : ∀ select world, storage.isOpen world →
    storage.isOpen (storage.session.run (.select select) world).2 ∧
      storage.contents (storage.session.run (.select select) world).2 = storage.contents world
  /-- An insert of one row adds it, and hands it back or reports its key as far as it is known. -/
  inserts : ∀ insert values world cursor after, storage.isOpen world →
    schema.table? insert.table.name = some insert.table → insert.rows = [values] →
      insert.conflict = .nothing →
        storage.session.run (.insert insert) world = (.done cursor, after) →
          storage.isOpen after ∧ ∃ tuple : Tuple,
            (storage.contents world).Adds (storage.contents after) insert.table values tuple ∧
              if insert.returning then cursor.rows = [tuple.shown insert.table]
              else tuple.Reports insert.table cursor.insertedKey
  /-- Primary keys of one column are not null. -/
  filled : ∀ world table key, storage.isOpen world → schema.table? table.name = some table →
    table.primaryKeys = [key] →
      ∀ tuple ∈ storage.contents world table.name, (tuple key.name).isNull = false
  /-- Primary keys of one column are unique. -/
  keyed : ∀ world table key, storage.isOpen world → schema.table? table.name = some table →
    table.primaryKeys = [key] →
      ∀ tuple ∈ storage.contents world table.name, ∀ other ∈ storage.contents world table.name,
        storage.equal (tuple key.name) (other key.name) = true → tuple = other
  /-- Stored values equal themselves. -/
  reflexive : ∀ world value, storage.isOpen world → Stores (storage.contents world) value →
    value.isNull = false → storage.equal value value = true
  /-- Null finds nothing but null. -/
  null : ∀ value, storage.equal .null value = true → value.isNull = true

/-- What a database does that stores and returns values unchanged and keeps primary keys apart. -/
structure Storage.Faithful (storage : Storage σ) (schema : Schema) : Prop extends
    storage.Keeping schema where
  /-- Null and stored values can be asked for. -/
  answers : ∀ select ref sought world, storage.isOpen world → select.Asks schema ref sought →
    (∀ value ∈ sought, Stores (storage.contents world) value) →
      ∃ cursor, (storage.session.run (.select select) world).1 = .done cursor ∧
        ∀ row, row ∈ cursor.rows ↔ storage.Gives (storage.contents world) select ref sought row

/-- What is relied on of a faithful database. Null is asked for in keys only, where it finds nothing, and
what it finds in other columns is left open. -/
structure Storage.Regular (storage : Storage σ) (schema : Schema) : Prop extends
    storage.Keeping schema where
  /-- Stored values can be asked for. -/
  answers : ∀ select ref sought world, storage.isOpen world → select.Asks schema ref sought →
    (∀ value ∈ sought, Stores (storage.contents world) value ∧ value.isNull = false) →
      ∃ cursor, (storage.session.run (.select select) world).1 = .done cursor ∧
        ∀ row, row ∈ cursor.rows ↔ storage.Gives (storage.contents world) select ref sought row
  /-- No row has a key of one column that is null. -/
  keyless : ∀ table key world cursor, storage.isOpen world →
    schema.table? table.name = some table → table.primaryKeys = [key] →
      (storage.session.run (.select (.byKey table key .null)) world).1 = .done cursor →
        cursor.rows = []

/-- A database that is asked for null as for any other value is regular. -/
theorem Storage.Faithful.regular {storage : Storage σ} {schema : Schema}
    (faithful : storage.Faithful schema) : storage.Regular schema where
  toKeeping := faithful.toKeeping
  answers select ref sought world opened asks stored :=
    faithful.answers select ref sought world opened asks fun value member => (stored value member).1
  keyless table key world cursor opened isTable isKey isDone := by
    have isNull : ∀ value ∈ [Value.null], Stores (storage.contents world) value :=
      List.forall_mem_singleton.2 (.inl rfl)
    obtain ⟨_, isDone', gives⟩ := faithful.answers _ _ _ world opened
      (Select.asks_byKey isTable isKey .null) isNull
    cases isDone.symm.trans isDone'
    refine List.eq_nil_iff_forall_not_mem.2 fun row member => ?_
    obtain ⟨tuple, isStored, ⟨value, isValue, equal⟩, _⟩ := (gives row).1 member
    rw [List.mem_singleton.1 isValue] at equal
    have notNull := faithful.filled world table key opened isTable isKey tuple isStored
    rw [faithful.null _ equal] at notNull
    cases notNull

namespace Storage.Regular

variable {storage : Storage σ} {schema : Schema} {cancel : Option (σ → Bool)} {world after : σ}
variable {select : Select} {ref : ColumnRef} {sought : List Value} {cursor : Cursor}
variable {table : Table} {key : Column}

/-- A selection leaves everything as it was. -/
theorem selected (regular : storage.Regular schema) (opened : storage.isOpen world)
    (ran : Executor.issue storage.session cancel (.select select) world = (.ok cursor, after)) :
    storage.isOpen after ∧ storage.contents after = storage.contents world := by
  have kept := regular.keeps select world opened
  rw [Executor.run_of_issue ran] at kept
  exact kept

/-- What a selection has answered. -/
theorem answered (regular : storage.Regular schema) (opened : storage.isOpen world)
    (asks : select.Asks schema ref sought)
    (stored : ∀ value ∈ sought,
      Stores (storage.contents world) value ∧ value.isNull = false)
    (ran : Executor.issue storage.session cancel (.select select) world = (.ok cursor, after))
    (row : Record) :
    row ∈ cursor.rows ↔ storage.Gives (storage.contents world) select ref sought row := by
  obtain ⟨answered, isDone, gives⟩ := regular.answers select ref sought world opened asks stored
  rw [Executor.run_of_issue ran] at isDone
  cases isDone
  exact gives row

/-- A selection is answered. -/
theorem issues (regular : storage.Regular schema) (opened : storage.isOpen world)
    (asks : select.Asks schema ref sought)
    (stored : ∀ value ∈ sought,
      Stores (storage.contents world) value ∧ value.isNull = false) :
    ∃ cursor after,
      Executor.issue storage.session none (.select select) world = (.ok cursor, after) := by
  obtain ⟨cursor, isDone, _⟩ := regular.answers select ref sought world opened asks stored
  refine ⟨cursor, (storage.session.run (.select select) world).2, ?_⟩
  unfold Executor.issue Executor.isCancelled
  simp [isDone, Executor.outcomeOf]

/-- All rows of a selection that asks for stored values are fetched. -/
theorem fetches (regular : storage.Regular schema) (opened : storage.isOpen world)
    (asks : select.Asks schema ref sought)
    (stored : ∀ value ∈ sought,
      Stores (storage.contents world) value ∧ value.isNull = false) :
    ∃ rows after,
      (Executor.ofSession storage.session none).fetchAll select world = (.ok rows, after) ∧
      storage.isOpen after ∧
        ∀ row, row ∈ rows ↔ storage.Gives (storage.contents world) select ref sought row := by
  obtain ⟨cursor, after, issued⟩ := regular.issues opened asks stored
  refine ⟨cursor.rows, after, ?_, (regular.selected opened issued).1,
    regular.answered opened asks stored issued⟩
  exact Action.bind_of_ok issued

/-! ## Selections by key -/

section Keys

variable {tuple : Tuple} {value : Value}

/-- What a selection by a key has answered. -/
theorem answered_byKey (regular : storage.Regular schema) (opened : storage.isOpen world)
    (isTable : schema.table? table.name = some table) (isKey : table.primaryKeys = [key])
    (stored : Stores (storage.contents world) value) (notNull : value.isNull = false)
    (ran : Executor.issue storage.session cancel (.select (.byKey table key value)) world =
      (.ok cursor, after)) (row : Record) :
    row ∈ cursor.rows ↔ ∃ other ∈ storage.contents world table.name,
      storage.equal value (other key.name) = true ∧ row = other.shown table := by
  rw [regular.answered opened (Select.asks_byKey isTable isKey value)
    (List.forall_mem_singleton.2 ⟨stored, notNull⟩) ran row]
  constructor
  · rintro ⟨other, isOther, ⟨each, isEach, equal⟩, isRow⟩
    rw [List.mem_singleton.1 isEach] at equal
    exact ⟨other, isOther, equal, isRow⟩
  · rintro ⟨other, isOther, equal, isRow⟩
    exact ⟨other, isOther, ⟨value, List.mem_singleton_self _, equal⟩, isRow⟩

/-- A selection by the key of a stored row gives this row first. -/
theorem head?_byKey (regular : storage.Regular schema) (opened : storage.isOpen world)
    (isTable : schema.table? table.name = some table) (isKey : table.primaryKeys = [key])
    (member : tuple ∈ storage.contents world table.name)
    (ran : Executor.issue storage.session cancel (.select (.byKey table key (tuple key.name))) world =
      (.ok cursor, after)) :
    cursor.rows.head? = some (tuple.shown table) := by
  have notNull := regular.filled world table key opened isTable isKey tuple member
  have stored : Stores (storage.contents world) (tuple key.name) := stores_of_mem member key.name
  have answers := regular.answered_byKey opened isTable isKey stored notNull ran
  have only : ∀ row ∈ cursor.rows, row = tuple.shown table := by
    intro row isRow
    obtain ⟨other, isOther, equal, isShown⟩ := (answers row).1 isRow
    rw [isShown, regular.keyed world table key opened isTable isKey tuple member other isOther equal]
  have found : tuple.shown table ∈ cursor.rows :=
    (answers _).2 ⟨tuple, member, regular.reflexive world _ opened stored notNull, rfl⟩
  cases rows : cursor.rows with
  | nil =>
      rw [rows] at found
      exact absurd found List.not_mem_nil
  | cons row rest =>
      rw [only row (by simp [rows])]
      rfl

/-- A selection by the key of a stored row, as far as it is known, gives no other row. -/
theorem eq_of_head?_byKey (regular : storage.Regular schema) (opened : storage.isOpen world)
    (isTable : schema.table? table.name = some table) (isKey : table.primaryKeys = [key])
    (member : tuple ∈ storage.contents world table.name)
    (known : value = .null ∨ value = tuple key.name)
    (ran : Executor.issue storage.session cancel (.select (.byKey table key value)) world =
      (.ok cursor, after)) {record : Record} (isHead : cursor.rows.head? = some record) :
    record = tuple.shown table := by
  rcases known with rfl | rfl
  · have isDone := congrArg Prod.fst (Executor.run_of_issue ran)
    rw [regular.keyless table key world cursor opened isTable isKey isDone] at isHead
    cases isHead
  · rw [regular.head?_byKey opened isTable isKey member ran] at isHead
    exact (Option.some.inj isHead).symm

/-- The row that has the key of a stored row is this row. -/
theorem loads (regular : storage.Regular schema) (opened : storage.isOpen world)
    (isTable : schema.table? table.name = some table) (isKey : table.primaryKeys = [key])
    (member : tuple ∈ storage.contents world table.name) :
    ∃ after, Executor.selectOne storage.session none (.byKey table key (tuple key.name)) world =
        (.ok (some (tuple.shown table)), after) ∧
      storage.isOpen after ∧ storage.contents after = storage.contents world := by
  have notNull := regular.filled world table key opened isTable isKey tuple member
  obtain ⟨cursor, after, issued⟩ := regular.issues opened
    (Select.asks_byKey isTable isKey (tuple key.name))
    (List.forall_mem_singleton.2 ⟨stores_of_mem member key.name, notNull⟩)
  have isHead := regular.head?_byKey opened isTable isKey member issued
  refine ⟨after, ?_, regular.selected opened issued⟩
  refine (Action.bind_of_ok issued).trans ?_
  rw [isHead]
  rfl

end Keys

/-! ## Inserts of one row -/

/-- The key by which a row is selected anew is that of the row, as far as it is known. -/
theorem reselect_eq (isKey : table.primaryKeys = [key]) {values : Record} {before after : Contents}
    {tuple : Tuple} (adds : before.Adds after table values tuple) {inserted : List Value}
    (reports : tuple.Reports table inserted) :
    ∃ value, Executor.reselect table values inserted = .byKey table key value ∧
      (value = .null ∨ value = tuple key.name) := by
  unfold Executor.reselect
  rw [isKey]
  refine ⟨_, rfl, ?_⟩
  by_cases isNull : (values.getD key.name).isNull = true
  · rw [if_pos isNull]
    exact reports 0 key.name (by simp [Table.keyNames, isKey])
  · rw [if_neg isNull]
    cases given : values.get? key.name with
    | none => exact .inl (by simp [Record.getD, given])
    | some value =>
        rw [Record.getD_of_get? given] at isNull ⊢
        exact .inr (adds.stored key.name value given (by simpa using isNull)).symm

/-- What is handed back for a row that has been added is what the row shows, and the row that is
selected anew is the added one. -/
theorem handed_eq (regular : storage.Regular schema) {compiled : CompiledInsert} {middle : σ}
    (opened : storage.isOpen middle)
    (isTable : schema.table? compiled.statement.table.name = some compiled.statement.table)
    (asks : compiled.contract.returning = compiled.statement.returning)
    {values record : Record} {rows : List Record} {before : Contents} {tuple : Tuple}
    (adds : before.Adds (storage.contents middle) compiled.statement.table values tuple)
    (isCursor : if compiled.statement.returning then
        cursor.rows = [tuple.shown compiled.statement.table]
      else tuple.Reports compiled.statement.table cursor.insertedKey)
    (handed : rows.head? = some record)
    (course : if compiled.contract.returning then cursor.rows = rows ∧ middle = after
      else Executor.selectOne storage.session cancel
        (Executor.reselect compiled.table values cursor.insertedKey) middle =
          (.ok (some record), after)) :
    storage.isOpen after ∧ storage.contents after = storage.contents middle ∧
      ∀ key, compiled.statement.table.primaryKeys = [key] →
        record = tuple.shown compiled.statement.table := by
  rw [asks] at course
  cases returning : compiled.statement.returning with
  | true =>
      rw [returning, if_pos rfl] at course isCursor
      obtain ⟨rfl, rfl⟩ := course
      rw [isCursor] at handed
      cases handed
      exact ⟨opened, rfl, fun _ _ => rfl⟩
  | false =>
      rw [returning, if_neg Bool.false_ne_true] at course isCursor
      obtain ⟨answered, reselected, isHead⟩ := Executor.selectOne_eq_ok course
      obtain ⟨stillOpen, unchanged⟩ := regular.selected opened reselected
      refine ⟨stillOpen, unchanged, fun key isKey => ?_⟩
      obtain ⟨value, isSelect, known⟩ := reselect_eq isKey adds isCursor
      change Executor.issue storage.session cancel (.select (Executor.reselect
        compiled.statement.table values cursor.insertedKey)) middle = _ at reselected
      rw [isSelect] at reselected
      exact regular.eq_of_head?_byKey opened isTable isKey adds.member known reselected isHead

/-- An insert of one row that succeeds adds it, and hands it back if it has a primary key. -/
theorem inserted (regular : storage.Regular schema) (opened : storage.isOpen world)
    {compiled : CompiledInsert} {values record : Record} {rows : List Record}
    (isTable : schema.table? compiled.statement.table.name = some compiled.statement.table)
    (isSingle : compiled.rows = [values]) (isPlain : compiled.statement.conflict = .nothing)
    (asks : compiled.contract.returning = compiled.statement.returning)
    (ran : Executor.insertRows storage.session cancel compiled world = (.ok rows, after))
    (handed : rows.head? = some record) :
    storage.isOpen after ∧ ∃ tuple : Tuple,
      (storage.contents world).Adds (storage.contents after) compiled.statement.table values tuple ∧
        ∀ key, compiled.statement.table.primaryKeys = [key] →
          record = tuple.shown compiled.statement.table := by
  obtain ⟨cursor, middle, issued, course⟩ := Executor.insertRows_eq_ok isSingle ran handed
  obtain ⟨opened', tuple, adds, isCursor⟩ := regular.inserts _ values world cursor middle opened
    isTable isSingle isPlain (Executor.run_of_issue issued)
  obtain ⟨stillOpen, unchanged, isShown⟩ :=
    regular.handed_eq opened' isTable asks adds isCursor handed course
  refine ⟨stillOpen, tuple, ?_, isShown⟩
  rw [unchanged]
  exact adds

end Storage.Regular

/-- The database of a session whose data are contents, as a unit of work sees it. -/
def Transactional.storage {control : SessionControl σ} {session : Session σ}
    (laws : Transactional control session Contents) (equal : Value → Value → Bool) :
    Storage (Workplace σ) where
  session := session.journaled.inUnit
  contents state := laws.current state.world.world
  isOpen := Opened control
  equal := equal

end RecordGraph

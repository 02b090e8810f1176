import RecordGraph.Proofs.Execution.Storage
import RecordGraph.Proofs.Value.Same

/-!
Contract: a database that keeps rows as they are given.

Owns: what a selection that seeks values gives of contents, `Shelf`, its session and transactions, and
that it stores and returns values unchanged.
Does not own: any schema.

A shelf has no types and no references. It refuses rows whose key is taken, and values that do not
equal themselves. A key that is not given is the number of the row, which may be taken as well.
-/

namespace RecordGraph

open RecordGraph.Sql

/-- The rows that a selection gives which seeks values in one column, by what equals what. -/
def Contents.answer (equal : Value → Value → Bool) (contents : Contents) (select : Select) :
    List Record :=
  match select.conditions with
  | [condition] =>
      match condition.sought? with
      | none => []
      | some (ref, sought) =>
          match select.join with
          | none =>
              ((contents select.table.name).filter fun tuple =>
                sought.any (equal · (tuple ref.column))).map (·.shown select.table)
          | some join =>
              (contents select.table.name).flatMap fun tuple =>
                ((contents join.through.name).filter fun link =>
                  equal (link join.link) (tuple join.key) &&
                    sought.any (equal · (link ref.column))).map
                    fun link =>
                      tuple.shown select.table ++ [(join.label, link join.owner.name)]
  | _ => []

theorem Contents.mem_answer {σ : Type} (storage : Storage σ) {schema : Schema} {select : Select}
    {ref : ColumnRef} {sought : List Value} {contents : Contents}
    (asks : select.Asks schema ref sought) (row : Record) :
    row ∈ contents.answer storage.equal select ↔ storage.Gives contents select ref sought row := by
  have finds : ∀ value, sought.any (storage.equal · value) = true ↔ storage.Finds sought value :=
    fun value => List.any_eq_true
  obtain ⟨condition, isCondition, isSought⟩ := asks.condition
  unfold answer Storage.Gives
  rw [isCondition]
  dsimp only
  rw [isSought]
  dsimp only
  cases select.join with
  | none =>
      simp only [List.mem_map, List.mem_filter, finds]
      constructor
      · rintro ⟨tuple, ⟨member, finds⟩, rfl⟩
        exact ⟨tuple, member, finds, rfl⟩
      · rintro ⟨tuple, member, finds, rfl⟩
        exact ⟨tuple, ⟨member, finds⟩, rfl⟩
  | some join =>
      simp only [List.mem_flatMap, List.mem_map, List.mem_filter, Bool.and_eq_true, finds]
      constructor
      · rintro ⟨tuple, member, link, ⟨isLink, joins, finds⟩, rfl⟩
        exact ⟨tuple, member, link, isLink, joins, finds, rfl⟩
      · rintro ⟨tuple, member, link, isLink, joins, finds, rfl⟩
        exact ⟨tuple, member, link, ⟨isLink, joins, finds⟩, rfl⟩

/-- The only column of the primary key of the table with a name. -/
def Schema.keyName? (schema : Schema) (name : String) : Option String :=
  (schema.table? name).bind fun table =>
    match table.primaryKeys with
    | [key] => some key.name
    | _ => none

theorem Schema.keyName?_eq {schema : Schema} {table : Table} {key : Column}
    (isTable : schema.table? table.name = some table) (isKey : table.primaryKeys = [key]) :
    schema.keyName? table.name = some key.name := by
  unfold keyName?
  rw [isTable, Option.bind_some, isKey]

/-- Whether a value that is not null equals itself. -/
def Value.isSteady (value : Value) : Bool :=
  value.isNull || value.same value

/-- Rows of which no two have the same key. -/
structure Shelf (schema : Schema) where
  contents : Contents
  filled : ∀ name key, schema.keyName? name = some key →
    ∀ tuple ∈ contents name, (tuple key).isNull = false
  keyed : ∀ name key, schema.keyName? name = some key →
    ∀ tuple ∈ contents name, ∀ other ∈ contents name,
      (tuple key).same (other key) = true → tuple = other
  steady : ∀ name, ∀ tuple ∈ contents name, ∀ column, (tuple column).isSteady = true

namespace Shelf

variable {schema : Schema}

def empty (schema : Schema) : Shelf schema where
  contents _ := []
  filled _ _ _ _ member := absurd member List.not_mem_nil
  keyed _ _ _ _ member := absurd member List.not_mem_nil
  steady _ _ member := absurd member List.not_mem_nil

/-! ## Rows -/

/-- The row that values make, as the next one of a table. -/
def tupleOf (shelf : Shelf schema) (name : String) (values : Record) : Tuple :=
  fun column =>
    if (values.getD column).isNull && schema.keyName? name == some column then
      .int ((shelf.contents name).length + 1)
    else values.getD column

/-- Whether a row can be added to those of a table. -/
def accepts (shelf : Shelf schema) (name : String) (values : Record) : Bool :=
  (values.all fun field => field.2.isSteady) &&
    match schema.keyName? name with
    | none => true
    | some key =>
        let value := shelf.tupleOf name values key
        (shelf.contents name).all fun other =>
          !value.same (other key) && !(other key).same value

/-- The rows of a table, with one more. -/
def added (contents : Contents) (name : String) (tuple : Tuple) : Contents :=
  fun other => if other = name then contents other ++ [tuple] else contents other

theorem mem_added {contents : Contents} {name other : String} {tuple each : Tuple} :
    each ∈ added contents name tuple other ↔
      each ∈ contents other ∨ other = name ∧ each = tuple := by
  unfold added
  by_cases same : other = name
  · simp [same]
  · simp [same]

theorem tupleOf_steady (shelf : Shelf schema) {name : String} {values : Record}
    (accepted : shelf.accepts name values = true) (column : String) :
    (shelf.tupleOf name values column).isSteady = true := by
  unfold tupleOf
  split
  · simp [Value.isSteady, Value.same, Value.sameBy, Value.sameScalar, Value.toInt?]
  · exact Record.getD_of_all rfl (Bool.and_eq_true_iff.1 accepted).1 column

theorem tupleOf_filled (shelf : Shelf schema) {name key : String} (values : Record)
    (isKey : schema.keyName? name = some key) :
    (shelf.tupleOf name values key).isNull = false := by
  unfold tupleOf
  rw [isKey, beq_self_eq_true, Bool.and_true]
  split
  · rfl
  · rename_i notNull
    simpa using notNull

theorem tupleOf_given (shelf : Shelf schema) (name : String) {values : Record} {column : String}
    {value : Value} (given : values.get? column = some value) (notNull : value.isNull = false) :
    shelf.tupleOf name values column = value := by
  unfold tupleOf
  rw [Record.getD_of_get? given, notNull]
  rfl

/-- A row that is accepted has a key of its own. -/
theorem tupleOf_apart (shelf : Shelf schema) {name key : String} {values : Record}
    (accepted : shelf.accepts name values = true) (isKey : schema.keyName? name = some key)
    {other : Tuple} (member : other ∈ shelf.contents name) :
    (shelf.tupleOf name values key).same (other key) = false ∧
      (other key).same (shelf.tupleOf name values key) = false := by
  have apart := (Bool.and_eq_true_iff.1 accepted).2
  rw [isKey] at apart
  have isApart := List.all_eq_true.1 apart other member
  simpa using isApart

/-- The shelf with one more row. -/
def add (shelf : Shelf schema) (name : String) (values : Record)
    (accepted : shelf.accepts name values = true) : Shelf schema where
  contents := added shelf.contents name (shelf.tupleOf name values)
  filled other key isKey tuple member := by
    rcases mem_added.1 member with member | ⟨rfl, rfl⟩
    · exact shelf.filled other key isKey tuple member
    · exact shelf.tupleOf_filled values isKey
  keyed place key isKey tuple member other otherMember same := by
    rcases mem_added.1 member with isOld | ⟨rfl, rfl⟩
    · rcases mem_added.1 otherMember with otherOld | ⟨rfl, rfl⟩
      · exact shelf.keyed place key isKey tuple isOld other otherOld same
      · rw [(shelf.tupleOf_apart accepted isKey isOld).2] at same
        cases same
    · rcases mem_added.1 otherMember with otherOld | ⟨_, rfl⟩
      · rw [(shelf.tupleOf_apart accepted isKey otherOld).1] at same
        cases same
      · rfl
  steady other tuple member column := by
    rcases mem_added.1 member with member | ⟨rfl, rfl⟩
    · exact shelf.steady other tuple member column
    · exact shelf.tupleOf_steady accepted column

end Shelf

/-! ## Sessions -/

/-- A shelf with the one that others see. -/
structure Shelf.Copy (schema : Schema) where
  saved : Shelf schema
  current : Shelf schema
  isOpen : Bool := false

namespace Shelf

variable {schema : Schema}

def run (statement : Statement) (copy : Copy schema) : Reply × Copy schema :=
  match statement with
  | .select select =>
      (.done { rows := copy.current.contents.answer Value.same select }, copy)
  | .insert insert =>
      match insert.rows with
      | [values] =>
          if accepted : copy.current.accepts insert.table.name values = true then
            let tuple := copy.current.tupleOf insert.table.name values
            (.done {
              rows := if insert.returning then [tuple.shown insert.table] else []
              count := 1
              insertedKey := insert.table.keyNames.map tuple },
              { copy with current := copy.current.add insert.table.name values accepted })
          else (.refused (.database "not accepted"), copy)
      | _ => (.refused (.database "not one row"), copy)
  | _ => (.refused (.database "not supported"), copy)

def session (schema : Schema) : Session (Copy schema) where
  dialect := .sqlite
  run := run

def control (schema : Schema) : SessionControl (Copy schema) where
  create := pure true
  inTransaction copy := copy.isOpen
  begin := modify fun copy => { copy with current := copy.saved, isOpen := true }
  commit := modify fun copy => { copy with saved := copy.current, isOpen := false }
  rollback := modify fun copy => { copy with current := copy.saved, isOpen := false }
  close := pure ()

theorem run_insert {insert : Insert} {values : Record} {copy after : Copy schema} {cursor : Cursor}
    (isSingle : insert.rows = [values]) (ran : run (.insert insert) copy = (.done cursor, after)) :
    ∃ accepted : copy.current.accepts insert.table.name values = true,
      after = { copy with current := copy.current.add insert.table.name values accepted } ∧
        cursor.rows =
          (if insert.returning then
              [(copy.current.tupleOf insert.table.name values).shown insert.table]
            else []) ∧
          cursor.insertedKey = insert.table.keyNames.map
            (copy.current.tupleOf insert.table.name values) := by
  unfold run at ran
  simp only [isSingle] at ran
  split at ran
  · rename_i accepted
    cases ran
    exact ⟨accepted, rfl, rfl, rfl⟩
  · cases ran

theorem run_keeps (statement : Statement) (copy : Copy schema) :
    (run statement copy).2.isOpen = copy.isOpen ∧ (run statement copy).2.saved = copy.saved := by
  unfold run
  split
  · exact ⟨rfl, rfl⟩
  · split
    · split <;> exact ⟨rfl, rfl⟩
    · exact ⟨rfl, rfl⟩
  · exact ⟨rfl, rfl⟩

/-- A shelf keeps the promises of a session. -/
def transactional (schema : Schema) : Transactional (control schema) (session schema) Contents where
  stored copy := copy.saved.contents
  current copy := copy.current.contents
  Effect _ _ _ := True
  create world closed := ⟨world, rfl, closed, rfl⟩
  begin world closed := ⟨_, rfl, rfl, rfl, rfl⟩
  run statement world opened := by
    have kept := run_keeps statement world
    exact ⟨kept.1.trans opened, congrArg Shelf.contents kept.2, fun _ _ => trivial⟩
  commit world opened := ⟨_, rfl, rfl⟩
  rollback world opened := ⟨_, rfl, rfl⟩
  close world := ⟨world, rfl, rfl⟩

/-! ## Faithfulness -/

/-- A shelf stores and returns values unchanged. -/
theorem faithful (schema : Schema) :
    ((transactional schema).storage Value.same).Faithful schema where
  keeps select world opened := ⟨⟨opened.holds, opened.transaction⟩, rfl⟩
  answers select ref sought world opened asks _ :=
    ⟨_, rfl, Contents.mem_answer ((transactional schema).storage Value.same) asks⟩
  inserts insert values world cursor after opened isTable isSingle isPlain ran := by
    obtain ⟨isDone, isAfter⟩ := Prod.mk.inj ran
    obtain ⟨accepted, isCopy, isRows, isKey⟩ := run_insert isSingle (Prod.ext isDone rfl)
    have isOpen : (run (.insert insert) world.world.world).2.isOpen = true :=
      (run_keeps _ _).1.trans opened.transaction
    have isAdded : (run (.insert insert) world.world.world).2.current.contents =
        added world.world.world.current.contents insert.table.name
          (world.world.world.current.tupleOf insert.table.name values) :=
      congrArg (·.current.contents) isCopy
    rw [← isAfter]
    refine ⟨⟨opened.holds, isOpen⟩,
      world.world.world.current.tupleOf insert.table.name values, ?_, ?_⟩
    · exact {
        stored := fun name value given notNull => tupleOf_given _ _ given notNull
        rows := fun name other => by
          change other ∈ (run (.insert insert) world.world.world).2.current.contents name ↔ _
          rw [isAdded]
          exact mem_added }
    · cases returning : insert.returning with
      | true => simpa [returning] using isRows
      | false =>
          rw [if_neg Bool.false_ne_true, isKey]
          exact Tuple.reports_map _ _
  filled world table key opened isTable isKey :=
    world.world.world.current.filled table.name key.name (Schema.keyName?_eq isTable isKey)
  keyed world table key opened isTable isKey :=
    world.world.world.current.keyed table.name key.name (Schema.keyName?_eq isTable isKey)
  reflexive world value opened stored notNull := by
    rcases stored with rfl | ⟨name, tuple, member, column, rfl⟩
    · cases notNull
    · have isSteady := world.world.world.current.steady name tuple member column
      rw [Value.isSteady, notNull, Bool.false_or] at isSteady
      exact isSteady
  null value equal := (Value.isNull_of_same (rfl : Value.isKey .null = true) equal).symm

end Shelf

end RecordGraph

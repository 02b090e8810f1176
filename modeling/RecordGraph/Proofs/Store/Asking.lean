import RecordGraph.Proofs.Insert.Compile
import RecordGraph.Proofs.Store.Answer

/-!
Contract: inserts that ask for their rows, and the same inserts without asking.

Owns: `Sql.Insert.Settles`, what an insert does to a store whatever it asks for, and the compilation
of both forms.
Does not own: what is done with the rows that are handed back.
-/

namespace RecordGraph

open RecordGraph.Sql

/-! ## Statements that ask for their rows -/

namespace Sql.Insert

/-- An insert that asks for its rows, or does not. -/
def asking (insert : Insert) (returning : Bool) : Insert := { insert with returning }

theorem insertAll_asking (insert : Insert) (returning : Bool) (store : Store)
    (rows : List Record) :
    (insert.asking returning).insertAll store rows = insert.insertAll store rows := by
  induction rows generalizing store with
  | nil => rfl
  | cons row rest inductionHypothesis =>
      rw [insertAll, insertAll]
      refine bind_congr fun outcome => ?_
      dsimp only
      rw [inductionHypothesis]

/-- What an insert answers that has left a store and touched some rows. -/
def cursor (insert : Insert) (store : Store) (touched : List StoredRow) : Cursor where
  rows := if insert.returning then touched.map insert.handedBack else []
  count := touched.length
  insertedKey := insert.reportedKey store

theorem evaluate_eq_ok_iff {insert : Insert} {store store' : Store} {cursor : Cursor} :
    insert.evaluate store = .ok (store', cursor) ↔
      insert.checkClause = .ok () ∧ ∃ touched,
        insert.insertAll store insert.effectiveRows = .ok (store', touched) ∧
          insert.cursor store' touched = cursor := by
  unfold evaluate
  rw [Result.bind_eq_ok]
  constructor
  · rintro ⟨_, checked, evaluated⟩
    rcases Result.bind_eq_ok.1 evaluated with ⟨⟨last, touched⟩, inserted, evaluated⟩
    cases Result.pure_eq_ok.1 evaluated
    exact ⟨checked, touched, inserted, rfl⟩
  · rintro ⟨checked, touched, inserted, rfl⟩
    refine ⟨(), checked, ?_⟩
    rw [inserted]
    rfl

/-- The parameters of an insert of one row do not depend on what it asks for. -/
theorem parameters_asking {insert : Insert} {row : Record} (isSingle : insert.rows = [row])
    (returning : Bool) :
    (render .sqlite (insert.asking returning)).parameters = (render .sqlite insert).parameters := by
  rcases insert with ⟨table, rows, conflict, asked⟩
  cases isSingle
  have sameColumns : columns (asking ⟨table, [row], conflict, asked⟩ returning) =
      columns ⟨table, [row], conflict, asked⟩ := rfl
  have same : (renderValues .sqlite (asking ⟨table, [row], conflict, asked⟩ returning)).parameters =
      (renderValues .sqlite ⟨table, [row], conflict, asked⟩).parameters := by
    unfold renderValues
    rw [sameColumns]
    split <;> rfl
  exact congrArg (fun parameters : List Parameter => [] ++ parameters ++ []) same

theorem accepts_iff {insert : Insert} :
    Database.Accepts (.insert insert) ↔ ∃ values,
      Database.boundValues (insert.render .sqlite).parameters = some values ∧
        Database.firstRefusal 1 values = none := by
  constructor
  · rintro ⟨rendered, values, isText, bound, free⟩
    cases isText
    exact ⟨values, bound, free⟩
  · rintro ⟨values, bound, free⟩
    exact ⟨_, values, rfl, bound, free⟩

theorem boundValue_of_mem {parameters : List Parameter} {values : List Value}
    (bound : Database.boundValues parameters = some values) {parameter : Parameter}
    (member : parameter ∈ parameters) :
    ∃ value ∈ values, Cell.boundValue parameter.type parameter.value = some value := by
  unfold Database.boundValues at bound
  induction parameters generalizing values with
  | nil => exact absurd member List.not_mem_nil
  | cons head tail inductionHypothesis =>
      rw [List.mapM_cons] at bound
      obtain ⟨first, isFirst, bound⟩ := Option.bind_eq_some_iff.1 bound
      obtain ⟨rest, isRest, bound⟩ := Option.bind_eq_some_iff.1 bound
      cases bound
      rcases List.mem_cons.1 member with rfl | inTail
      · exact ⟨first, List.mem_cons_self .., isFirst⟩
      · rcases inductionHypothesis isRest inTail with ⟨value, isValue, isBound⟩
        exact ⟨value, List.mem_cons_of_mem _ isValue, isBound⟩

theorem free_of_mem {position : Nat} {values : List Value}
    (free : Database.firstRefusal position values = none) {value : Value} (member : value ∈ values) :
    ∃ position, Database.refusal? position value = none := by
  induction values generalizing position with
  | nil => exact absurd member List.not_mem_nil
  | cons head tail inductionHypothesis =>
      rw [Database.firstRefusal, Option.or_eq_none_iff] at free
      rcases List.mem_cons.1 member with rfl | inTail
      · exact ⟨position, free.1⟩
      · exact inductionHypothesis free.2 inTail

/-- The values of an accepted insert can be bound. -/
theorem binds_of_accepts {insert : Insert} {row : Record} (isSingle : insert.rows = [row])
    (accepted : Database.Accepts (.insert insert)) {column : Column}
    (isColumn : column ∈ insert.columns) :
    ∃ position bound, Cell.boundValue column.type (row.getD column.name) = some bound ∧
      Database.refusal? position bound = none := by
  rcases accepts_iff.1 accepted with ⟨values, bound, free⟩
  have isParameter : ⟨placeholderName column.name, column.type, row.getD column.name⟩ ∈
      (insert.render .sqlite).parameters := by
    have inRow : ⟨placeholderName column.name, column.type, row.getD column.name⟩ ∈
        (insert.renderRow .sqlite 0 row).parameters := by
      have isNamed : parameterName insert.rows.length 0 column.name = column.name := by
        rw [isSingle]
        rfl
      refine List.mem_append_left _ (List.mem_append_right _ ?_)
      refine List.mem_flatMap.2 ⟨_, List.mem_map_of_mem isColumn, ?_⟩
      rw [isNamed]
      exact List.mem_singleton_self _
    cases isColumns : insert.columns with
    | nil =>
        rw [isColumns] at isColumn
        exact absurd isColumn List.not_mem_nil
    | cons first rest =>
        unfold render renderValues
        rw [isColumns, isSingle]
        refine List.mem_append_left _ (List.mem_append_right _ ?_)
        refine List.mem_append_right _ (List.mem_flatMap.2 ⟨_, List.mem_singleton_self _, inRow⟩)
  rcases boundValue_of_mem bound isParameter with ⟨value, isValue, isBound⟩
  rcases free_of_mem free isValue with ⟨position, isFree⟩
  exact ⟨position, value, isBound, isFree⟩

/-- Whether an insert is carried out on a store, what it leaves and which rows it touches. -/
structure Settles (insert : Insert) (store store' : Store) (touched : List StoredRow) : Prop where
  accepted : Database.Accepts (.insert insert)
  checked : insert.checkClause = .ok ()
  inserted : insert.insertAll store insert.effectiveRows = .ok (store', touched)

/-- An insert of one row is answered alike whatever it asks for, but for the rows handed back. -/
theorem answer_asking_iff {insert : Insert} {row : Record} (isSingle : insert.rows = [row])
    (returning : Bool) {store store' : Store} {cursor : Cursor} :
    Database.answer (.insert (insert.asking returning)) store = .ok (store', cursor) ↔
      ∃ touched, insert.Settles store store' touched ∧
        (insert.asking returning).cursor store' touched = cursor := by
  have accepts : Database.Accepts (.insert (insert.asking returning)) ↔
      Database.Accepts (.insert insert) := by
    rw [accepts_iff, accepts_iff, parameters_asking isSingle]
  rw [Database.answer_eq_ok_iff, accepts]
  constructor
  · rintro ⟨accepted, _, evaluated, _⟩
    rcases evaluate_eq_ok_iff.1 evaluated with ⟨checked, touched, inserted, isCursor⟩
    rw [insertAll_asking] at inserted
    exact ⟨touched, ⟨accepted, checked, inserted⟩, isCursor⟩
  · rintro ⟨touched, ⟨accepted, checked, inserted⟩, isCursor⟩
    refine ⟨accepted, checked, evaluate_eq_ok_iff.2 ⟨checked, touched, ?_, isCursor⟩, rfl⟩
    rw [insertAll_asking]
    exact inserted

/-- An insert of one row touches at most one. -/
theorem Settles.single {insert : Insert} {row : Record} (isSingle : insert.rows = [row])
    {store store' : Store} {touched : List StoredRow} (settles : insert.Settles store store' touched) :
    ∃ effective hit, insert.effectiveRows = [effective] ∧
      insert.insertOne store effective = .ok (store', hit) ∧ touched = hit.toList := by
  have isEffective : ∃ effective, insert.effectiveRows = [effective] := by
    unfold effectiveRows
    rw [isSingle]
    split
    · exact ⟨_, rfl⟩
    · exact ⟨_, rfl⟩
  rcases isEffective with ⟨effective, isEffective⟩
  have inserted := settles.inserted
  rw [isEffective] at inserted
  rcases Result.bind_eq_ok.1 inserted with ⟨⟨middle, hit⟩, headOk, inserted⟩
  cases inserted
  exact ⟨effective, hit, isEffective, headOk, List.append_nil _⟩

end Sql.Insert

/-! ## Compiled inserts that ask for their rows -/

namespace CompiledInsert

def asking (compiled : CompiledInsert) (returning : Bool) : CompiledInsert :=
  { compiled with
    statement := compiled.statement.asking returning
    contract := { compiled.contract with returning } }

theorem compile_asking (table : Table) (rows : List Record) (dialect : Dialect)
    (policy : Option ConflictPolicy) (returning : Bool) :
    compile table rows dialect policy (some returning) =
      (compile table rows dialect policy (some false)).map (·.asking returning) := by
  rw [compile_eq, compile_eq]
  cases clause table rows dialect policy <;> rfl

end CompiledInsert

end RecordGraph

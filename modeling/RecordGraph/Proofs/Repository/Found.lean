import RecordGraph.Proofs.Repository.Reselect
import RecordGraph.Proofs.Store.Touched
import RecordGraph.Proofs.Value.Record

/-!
Contract: inserts whose rows are found again.

Owns: the policies under which a key that is given, or generated, is that of the touched row, and
that both ways of handing it back agree for them.
Does not own: keys that are stored in another form than they are given.
-/

namespace RecordGraph

open RecordGraph.Sql

namespace ConflictPolicy

/-- Whether a policy leaves rows under their keys: it merges only on the key, or into the key. -/
def KeepsKey (table : Table) (key : String) (policy : ConflictPolicy) : Prop :=
  policy.action = .merge → policy.targetColumns table = .ok [key] ∨
    ∃ columns, policy.merge = some columns ∧ key ∈ columns

/-- Whether a policy merges only on the key. -/
def ResolvesKey (table : Table) (key : String) (policy : ConflictPolicy) : Prop :=
  policy.action = .merge → policy.targetColumns table = .ok [key]

end ConflictPolicy

namespace CompiledInsert

variable {table : Table} {rows : List Record} {policy : Option ConflictPolicy}
variable {conflict : ConflictClause}

/-- What the clause of an insert is where collisions of named columns can be resolved. -/
theorem clause_eq_ok (compiles : clause table rows .sqlite policy = .ok conflict) :
    (policy = none ∧ conflict = .nothing) ∨
      ∃ given target, policy = some given ∧ given.targetColumns table = .ok target ∧
        ((given.action = .ignore ∧ conflict = .keepOn target) ∨
          (given.action = .merge ∧
            conflict = .overwriteOn target (mergeColumns table rows given target))) := by
  unfold clause at compiles
  split at compiles
  · cases compiles
  · split at compiles
    · cases compiles
    · left
      refine ⟨rfl, ?_⟩
      cases isEven : checkEven rows with
      | error failure =>
          rw [isEven] at compiles
          cases compiles
      | ok _ =>
          rw [isEven] at compiles
          cases compiles
          rfl
    · rename_i given _
      right
      rcases Result.bind_eq_ok.1 compiles with ⟨target, isTarget, compiles⟩
      rcases Result.bind_eq_ok.1 compiles with ⟨_, _, compiles⟩
      refine ⟨given, target, rfl, isTarget, ?_⟩
      cases action : given.action with
      | ignore =>
          rw [action] at compiles
          cases Result.pure_eq_ok.1 compiles
          exact .inl ⟨rfl, rfl⟩
      | merge =>
          rw [action] at compiles
          rcases Result.bind_eq_ok.1 compiles with ⟨_, _, compiles⟩
          cases Result.pure_eq_ok.1 compiles
          exact .inr ⟨rfl, rfl⟩

theorem keepsKey_clause (compiles : clause table rows .sqlite policy = .ok conflict) {key : String}
    (keeps : ∀ given, policy = some given → given.KeepsKey table key) :
    Sql.Insert.KeepsKey key conflict := by
  rcases clause_eq_ok compiles with ⟨_, rfl⟩ | ⟨given, target, isGiven, isTarget, isClause⟩
  · trivial
  · rcases isClause with ⟨_, rfl⟩ | ⟨merges, rfl⟩
    · trivial
    · rcases keeps given isGiven merges with onKey | ⟨columns, isMerge, member⟩
      · left
        exact Except.ok.inj (isTarget.symm.trans onKey)
      · right
        unfold mergeColumns
        rw [isMerge]
        exact member

theorem resolvesKey_clause (compiles : clause table rows .sqlite policy = .ok conflict)
    {key : String} (resolves : ∀ given, policy = some given → given.ResolvesKey table key) :
    Sql.Insert.ResolvesKey key conflict := by
  rcases clause_eq_ok compiles with ⟨_, rfl⟩ | ⟨given, target, isGiven, isTarget, isClause⟩
  · trivial
  · rcases isClause with ⟨_, rfl⟩ | ⟨merges, rfl⟩
    · trivial
    · exact Except.ok.inj (isTarget.symm.trans (resolves given isGiven merges))

end CompiledInsert

namespace Sql.Insert

variable {insert : Insert} {values : Record}

/-- A column that has a value is inserted. -/
theorem mem_columns (isSingle : insert.rows = [values]) {column : Column}
    (isColumn : column ∈ insert.table.columns) {value : Value}
    (given : values.get? column.name = some value) : column ∈ insert.columns := by
  unfold columns
  rw [isSingle]
  refine List.mem_filter.2 ⟨isColumn, ?_⟩
  cases has : values.has column.name with
  | true => rfl
  | false =>
      rw [Record.get?_of_not_has has] at given
      cases given

/-- The row that is inserted has the values that are given, row of defaults or not. -/
theorem getD_effective (isSingle : insert.rows = [values]) {row : Record}
    (isEffective : insert.effectiveRows = [row]) {column : Column}
    (isColumn : column ∈ insert.table.columns) :
    row.getD column.name = values.getD column.name := by
  unfold effectiveRows at isEffective
  by_cases isEmpty : insert.columns.isEmpty = true
  · rw [if_pos isEmpty] at isEffective
    cases isEffective
    have lacks : values.get? column.name = none := by
      cases given : values.get? column.name with
      | none => rfl
      | some value =>
          have member := mem_columns isSingle isColumn given
          rw [List.isEmpty_iff.1 isEmpty] at member
          exact absurd member List.not_mem_nil
    unfold Record.getD
    rw [lacks]
    rfl
  · rw [if_neg isEmpty, isSingle] at isEffective
    cases isEffective
    rfl

end Sql.Insert

namespace Repository

open Database

theorem refusal?_integer (position : Nat) (number : Int) :
    refusal? position (.int number) = none ↔ Cell.fitsWord number = true := by
  unfold refusal?
  dsimp only
  split <;> simp [*]

theorem accepts_integer {table : Table} {key : Column} (isInteger : key.type = .integer)
    {number : Int} (fits : Cell.fitsWord number = true) :
    Accepts (.select (.byKey table key (.int number))) := by
  have binds : Cell.boundValue (comparedType key.type (.int number)) (.int number) =
      some (.int number) := by
    rw [isInteger, comparedType_integer]
    rfl
  exact Select.accepts_byKey rfl binds ((refusal?_integer 1 number).2 fits)

/-- A key that is stored as it is can be looked for if it can be inserted. -/
theorem accepts_of_plain {table : Table} {key : Column} {value bound : Value}
    (plain : key.Plain value) {position : Nat} (binds : Cell.boundValue key.type value = some bound)
    (free : refusal? position bound = none) : Accepts (.select (.byKey table key value)) := by
  rcases plain with ⟨isInteger, number, rfl⟩ | ⟨isString, chars, rfl⟩
  · rw [isInteger] at binds
    cases binds
    exact accepts_integer isInteger ((refusal?_integer position number).1 free)
  · rw [isString] at binds
    cases binds
    have binds : Cell.boundValue (comparedType key.type (.text chars)) (.text chars) =
        some (.text chars) := by
      rw [isString]
      rfl
    exact Select.accepts_byKey rfl binds free

section

variable {registry : Registry} {name : String} {entity : Entity} {config : Config}
variable {database : Database} {values : Record} {policy : Option ConflictPolicy}

/-- The step of the store by which a row is touched. What is inserted has the key that is given. -/
theorem insertOne_of_touches {store : Store} {hit : StoredRow}
    (isPrimary : entity.key ∈ entity.table.columns)
    (touches : Touches entity values policy database.store store hit) :
    ∃ (insert : Insert) (row : Record), insert.table = entity.table ∧ insert.rows = [values] ∧
      CompiledInsert.clause entity.table [values] .sqlite policy = .ok insert.conflict ∧
      Accepts (.insert insert) ∧ row.getD entity.key.name = values.getD entity.key.name ∧
      insert.insertOne database.store row = .ok (store, some hit) := by
  rcases touches with ⟨_, compiled, carries⟩
  rcases CompiledInsert.statement_of_compile carries.compiles with ⟨isTable, isSingle, _⟩
  rcases carries.settles.single isSingle with ⟨row, touched, isEffective, inserted, isHit⟩
  have isTouched : touched = some hit := by
    cases touched with
    | none => cases isHit
    | some other =>
        cases isHit
        rfl
  subst isTouched
  refine ⟨compiled.statement, row, isTable, isSingle, ?_, carries.settles.accepted, ?_, inserted⟩
  · exact CompiledInsert.clause_of_compile carries.compiles
  · exact Insert.getD_effective isSingle isEffective (by rw [isTable]; exact isPrimary)

/-- A row is found again by the key that is given, if the key is stored as it is and the policy
leaves rows under their keys. -/
theorem found_of_given (reachable : registry.Reachable)
    (isEntity : registry.entity name = .ok entity) (sound : database.Sound registry.schema)
    (distinct : entity.table.columnNames.Nodup)
    (plain : entity.key.Plain (values.getD entity.key.name))
    (keeps : ∀ given, policy = some given → given.KeepsKey entity.table entity.key.name)
    {store : Store} {hit : StoredRow}
    (touches : Touches entity values policy database.store store hit) :
    FoundAgain entity values store hit := by
  have isKey := (reachable.consistent.agrees entity (Registry.entity_eq_ok isEntity).1).key
  have isPrimary := (Table.mem_of_primaryKeys isKey).1
  rcases insertOne_of_touches isPrimary touches with
    ⟨insert, row, isTable, isSingle, isClause, accepted, sameKey, inserted⟩
  have inSchema : registry.schema.table? insert.table.name = some insert.table := by
    rw [isTable]
    exact inSchema_of_entity reachable isEntity
  have isSought : soughtKey entity values store = values.getD entity.key.name := by
    unfold soughtKey
    dsimp only
    rcases plain with ⟨_, number, isNumber⟩ | ⟨_, chars, isChars⟩
    · rw [isNumber]
      rfl
    · rw [isChars]
      rfl
  have isInserted : entity.key ∈ insert.columns :=
    Insert.mem_columns isSingle (by rw [isTable]; exact isPrimary) (Insert.get?_of_plain plain)
  rcases Insert.binds_of_accepts isSingle accepted isInserted with ⟨position, bound, binds, free⟩
  have member := Insert.mem_of_touched sound.tables inSchema inserted
  rw [isTable] at member
  have hasKey := Insert.hasKey_of_given sound.tables inSchema (by rw [isTable]; exact distinct)
    (by rw [isTable]; exact isKey) (by rw [sameKey]; exact plain)
    (CompiledInsert.keepsKey_clause isClause keeps) inserted
  rw [sameKey] at hasKey
  unfold FoundAgain
  dsimp only
  rw [isSought]
  exact ⟨accepts_of_plain plain binds free, hit, member, hasKey, hit.alike_handed _⟩

/-- A row is found again by the key that is generated for it, if the policy merges on the key
alone. -/
theorem found_of_generated (reachable : registry.Reachable)
    (isEntity : registry.entity name = .ok entity) (sound : database.Sound registry.schema)
    (distinct : entity.table.columnNames.Nodup)
    (isGenerated : entity.table.generatedKey?.isSome = true)
    (notGiven : values.getD entity.key.name = .null)
    (resolves : ∀ given, policy = some given → given.ResolvesKey entity.table entity.key.name)
    {store : Store} {hit : StoredRow} (fits : Cell.fitsWord store.lastNumber = true)
    (touches : Touches entity values policy database.store store hit) :
    FoundAgain entity values store hit := by
  have isKey := (reachable.consistent.agrees entity (Registry.entity_eq_ok isEntity).1).key
  rcases insertOne_of_touches (Table.mem_of_primaryKeys isKey).1 touches with
    ⟨insert, row, isTable, isSingle, isClause, accepted, sameKey, inserted⟩
  have inSchema : registry.schema.table? insert.table.name = some insert.table := by
    rw [isTable]
    exact inSchema_of_entity reachable isEntity
  have isInteger : entity.key.type = .integer := by
    by_contra isOther
    simp [Table.generatedKey?, Table.numberedKey?, isKey, isOther] at isGenerated
  have isSought : soughtKey entity values store = .int store.lastNumber := by
    unfold soughtKey
    dsimp only
    rw [notGiven, isGenerated]
    rfl
  have member := Insert.mem_of_touched sound.tables inSchema inserted
  rw [isTable] at member
  have hasKey := Insert.hasKey_of_generated sound.tables inSchema (by rw [isTable]; exact distinct)
    (by rw [isTable]; exact isKey) isInteger (sameKey.trans notGiven)
    (CompiledInsert.resolvesKey_clause isClause resolves) inserted
  unfold FoundAgain
  dsimp only
  rw [isSought]
  exact ⟨accepts_integer isInteger fits, hit, member, hasKey, hit.alike_handed _⟩

/-- Both ways of handing back a row agree on keys that are given and stored as they are, unless the
policy merges into a row that may have another key. -/
theorem agrees_of_given (reachable : registry.Reachable)
    (isEntity : registry.entity name = .ok entity) (closed : database.transaction = none)
    (sound : database.Sound registry.schema) (distinct : entity.table.columnNames.Nodup)
    (plain : entity.key.Plain (values.getD entity.key.name))
    (keeps : ∀ given, policy = some given → given.KeepsKey entity.table entity.key.name) :
    InsertAgrees registry entity config database values policy :=
  agrees_of_found reachable isEntity closed sound fun _ _ =>
    found_of_given reachable isEntity sound distinct plain keeps

/-- Both ways of handing back a row agree on keys that are generated, unless the policy merges on
other columns. -/
theorem agrees_of_generated (reachable : registry.Reachable)
    (isEntity : registry.entity name = .ok entity) (closed : database.transaction = none)
    (sound : database.Sound registry.schema) (distinct : entity.table.columnNames.Nodup)
    (isGenerated : entity.table.generatedKey?.isSome = true)
    (notGiven : values.getD entity.key.name = .null)
    (resolves : ∀ given, policy = some given → given.ResolvesKey entity.table entity.key.name)
    (fits : ∀ store hit, Touches entity values policy database.store store hit →
      Cell.fitsWord store.lastNumber = true) :
    InsertAgrees registry entity config database values policy :=
  agrees_of_found reachable isEntity closed sound fun store hit touches =>
    found_of_generated reachable isEntity sound distinct isGenerated notGiven resolves
      (fits store hit touches) touches

end

end Repository

end RecordGraph

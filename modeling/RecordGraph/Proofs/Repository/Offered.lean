import RecordGraph.Proofs.Insert.Single
import RecordGraph.Proofs.Repository.Handing
import RecordGraph.Proofs.Store.Upsert

/-!
Contract: calls that insert the one row that they are offered.

Owns: `Entity.Offers`, that such a row is compiled and carried out, and what a call for a list
leaves.
Does not own: which row a conflict clause keeps.
-/

namespace RecordGraph

open RecordGraph.Sql

/-- Whether values make a row that can be stored but for collisions: there are some, and their
columns take them. -/
structure Entity.Offers (entity : Entity) (values : Record) : Prop where
  nonempty : values ≠ []
  known : ∀ name ∈ values.names, entity.table.hasColumn name = true
  taken : ∀ column ∈ entity.table.columns, values.has column.name = true →
    column.Takes (values.getD column.name)
  admitted : entity.table.Admits values

namespace Repository

open Database

/-! ## Calls for a list -/

section

variable {saved : List StoredTable} {state : UnitState Database}

/-- What an insert of rows does in its unit of work. -/
def listBody (table : Table) (rows : List Record) (policy : Option ConflictPolicy)
    (returning : Bool) : Action (UnitState Database) (List Record) := do
  let compiled ← lift (CompiledInsert.compile table rows .sqlite policy (some returning))
  Executor.insertRows unitSession none compiled

theorem insertReturning_eq (registry : Registry) (entity : Entity) (config : Config)
    (returning : Bool) {rows : List Record} (nonempty : rows ≠ [])
    (policy : Option ConflictPolicy) :
    (handing registry entity config returning).insertReturning rows policy =
      (do
        let rows ← lift (rows.mapM (columnValues entity))
        Database.scope.within (listBody entity.table rows policy returning)) := by
  have sameBody : ∀ rows, ((do
      let delivery ← (handing registry entity config returning).compileAndRun
        (Database.executor none) entity.table rows policy
      pure (delivery.1.contract.many delivery.2)) : Action (UnitState Database) (List Record)) =
        listBody entity.table rows policy returning := by
    intro rows
    unfold compileAndRun listBody
    simp only [bind_assoc, pure_bind]
    refine bind_congr fun compiled => ?_
    exact bind_pure _
  unfold insertReturning
  rw [if_neg (by simpa using nonempty)]
  refine bind_congr fun rows => ?_
  rw [← sameBody]
  rfl

theorem columnValues_eq_ok {entity : Entity} {values values' : Record}
    (taken : columnValues entity values = .ok values') :
    values' = values ∧ ∀ name ∈ values.names, entity.table.hasColumn name = true := by
  unfold columnValues at taken
  split at taken
  · rename_i noneUnknown
    cases taken
    refine ⟨rfl, fun name member => ?_⟩
    have isKnown : entity.hasColumn name = true := by
      simpa using List.filter_eq_nil_iff.1 noneUnknown name member
    exact isKnown
  · cases taken

/-- Rows whose names are columns are taken as they are. -/
theorem mapM_columnValues {entity : Entity} {rows rows' : List Record}
    (taken : rows.mapM (columnValues entity) = .ok rows') :
    rows' = rows ∧ ∀ row ∈ rows, ∀ name ∈ row.names, entity.table.hasColumn name = true := by
  induction rows generalizing rows' with
  | nil => exact ⟨Result.mapM_nil_eq_ok.1 taken, fun _ impossible => nomatch impossible⟩
  | cons row rest inductionHypothesis =>
      obtain ⟨first, others, headOk, tailOk, rfl⟩ := Result.mapM_cons_eq_ok.1 taken
      obtain ⟨rfl, headKnown⟩ := columnValues_eq_ok headOk
      obtain ⟨rfl, tailKnown⟩ := inductionHypothesis tailOk
      exact ⟨rfl, List.forall_mem_cons.2 ⟨headKnown, tailKnown⟩⟩

/-- A call for a list is its body in a unit of work, if its values are columns. -/
theorem outcome_insertReturning (registry : Registry) (entity : Entity) (config : Config)
    (returning : Bool) {rows : List Record} (nonempty : rows ≠ [])
    (policy : Option ConflictPolicy) {database : Database}
    (closed : database.transaction = none) :
    (∃ failure, rows.mapM (columnValues entity) = .error failure ∧
      outcome ((handing registry entity config returning).insertReturning rows policy) database =
        (.error failure, database.store.tables)) ∨
    (rows.mapM (columnValues entity) = .ok rows ∧
      outcome ((handing registry entity config returning).insertReturning rows policy) database =
        outcome (Database.scope.within (listBody entity.table rows policy returning))
          database) := by
  rw [insertReturning_eq registry entity config returning nonempty policy]
  cases taken : rows.mapM (columnValues entity) with
  | error failure => exact .inl ⟨failure, rfl, Prod.ext rfl (storedTables_of_closed closed)⟩
  | ok rows' =>
      cases (mapM_columnValues taken).1
      exact .inr ⟨rfl, rfl⟩

end

section

variable {registry : Registry} {entity : Entity} {config : Config} {database : Database}
variable {values : Record} {policy : Option ConflictPolicy} {compiled : CompiledInsert}
variable {store : Store} {touched : List StoredRow}

variable (registry config) in
/-- What a call for a list of one row leaves whose insert is carried out. -/
theorem outcome_listed (closed : database.transaction = none)
    (taken : columnValues entity values = .ok values)
    (carries : Carries entity.table values policy database.store compiled store touched)
    (returning : Bool) :
    outcome ((handing registry entity config returning).insertReturning [values] policy) database =
      (delivered compiled.statement values store touched returning,
        if (delivered compiled.statement values store touched returning).isOk then store.tables
        else database.store.tables) := by
  have isSingle : compiled.rows = [values] :=
    (CompiledInsert.statement_of_compile carries.compiles).2.1
  have isAsking : CompiledInsert.compile entity.table [values] .sqlite policy (some returning) =
      .ok (compiled.asking returning) := by
    rw [CompiledInsert.compile_asking, carries.compiles]
    rfl
  have allTaken : [values].mapM (columnValues entity) = .ok [values] := by
    rw [Result.mapM_cons_eq_ok]
    exact ⟨values, [], taken, rfl, rfl⟩
  rcases outcome_insertReturning registry entity config returning (List.cons_ne_nil values []) policy
    closed with ⟨failure, refused, _⟩ | ⟨_, isWithin⟩
  · exact absurd (allTaken.symm.trans refused) nofun
  · obtain ⟨after, ran, inside, isStore⟩ :=
      insertRows_apply (inside_begin database) isSingle carries.settles returning
    have bodyRan : listBody entity.table [values] policy returning ⟨database.begin, true⟩ =
        (delivered compiled.statement values store touched returning, after) := by
      unfold listBody
      rw [isAsking]
      exact (Action.bind_of_ok (Action.ofExcept_apply _ _)).trans ran
    rw [isWithin, outcome_within closed bodyRan inside]
    cases isOk : (delivered compiled.statement values store touched returning).isOk with
    | false => rfl
    | true => rw [isStore isOk]

end

end Repository

/-! ## Rows that are offered -/

namespace Entity.Offers

open Repository

variable {entity : Entity} {values : Record} {policy : Option ConflictPolicy} {store : Store}

theorem values_eq (offers : entity.Offers values) : columnValues entity values = .ok values := by
  have noneUnknown : values.names.filter (!entity.hasColumn ·) = [] := by
    rw [List.filter_eq_nil_iff]
    intro name member
    simp [Entity.hasColumn, offers.known name member]
  unfold columnValues
  rw [noneUnknown]
  rfl

theorem mem_columnNames (offers : entity.Offers values) {name : String}
    (has : values.has name = true) : name ∈ entity.table.columnNames := by
  obtain ⟨field, isField, isNamed⟩ := List.any_eq_true.1 has
  rw [← beq_iff_eq.1 isNamed]
  exact Table.hasColumn_iff.1 (offers.known field.1 (List.mem_map_of_mem isField))

/-- The row that is inserted is the one that is offered. -/
theorem effectiveRows_eq (offers : entity.Offers values) (conflict : ConflictClause) :
    (Insert.ofRow entity.table values conflict).columns ≠ [] ∧
      (Insert.ofRow entity.table values conflict).effectiveRows = [values] := by
  have hasColumns : (Insert.ofRow entity.table values conflict).columns ≠ [] :=
    Insert.columns_ne_nil rfl offers.nonempty offers.known
  refine ⟨hasColumns, ?_⟩
  unfold Insert.effectiveRows
  exact if_neg (by simpa using hasColumns)

/-- A row that is offered is carried out as the store takes it. -/
theorem carries (offers : entity.Offers values) {conflict : ConflictClause}
    (isClause : CompiledInsert.clause entity.table [values] .sqlite policy = .ok conflict)
    {target : List String} (resolves : conflict.Resolves target)
    (isKey : Insert.isKey entity.table target = true) {before : Store} {hit : Option StoredRow}
    (inserted : (Insert.ofRow entity.table values conflict).insertOne before values =
      .ok (store, hit)) :
    ∃ compiled, compiled.statement = .ofRow entity.table values conflict ∧
      compiled.contract.maySuppress = policy.any (fun policy => policy.action = .ignore) ∧
        Carries entity.table values policy before compiled store hit.toList := by
  obtain ⟨hasColumns, isEffective⟩ := offers.effectiveRows_eq conflict
  refine ⟨⟨.ofRow entity.table values conflict, policy, ⟨false, policy.any _⟩, .sqlite⟩,
    rfl, rfl, ?_, Insert.accepts_of_takes rfl offers.taken, ?_, ?_⟩
  · rw [CompiledInsert.compile_eq, isClause]
    rfl
  · exact Insert.checkClause_of_resolves resolves hasColumns isKey
  · dsimp only
    rw [isEffective, Insert.insertAll, inserted]
    change Except.ok (store, hit.toList ++ []) = _
    rw [List.append_nil]

end Entity.Offers

end RecordGraph

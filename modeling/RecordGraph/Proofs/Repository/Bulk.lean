import RecordGraph.Proofs.Insert.PerRow
import RecordGraph.Proofs.Repository.Ignored
import RecordGraph.Proofs.Repository.Reselect

/-!
Contract: inserts of several rows without a policy.

Owns: `Entity.Refinds`, `LosesNone`, that such an insert adds its rows one after the other, and when
it adds and hands back as many as it is given.
Does not own: inserts with a conflict clause.

One statement for all rows adds one row if no row has a column, for the defaults are inserted once. A
statement for each row adds them all, and hands back those that it finds again.
-/

namespace RecordGraph

open RecordGraph.Sql

namespace Entity

/-- The key by which a row that was added is looked for. -/
def sought (entity : Entity) (values : Record) (new : StoredRow) : Value :=
  let given := values.getD entity.key.name
  if given.isNull then
    if entity.table.generatedKey?.isSome then .int new.number else .null
  else given

/-- Whether rows that are added to stored ones are found again, each by the time it is added. -/
def Refinds (entity : Entity) : List StoredRow → List (Record × StoredRow) → Prop
  | _, [] => True
  | stored, (values, new) :: rest =>
      (∃ row ∈ new :: stored, row.HasKey entity.key (entity.sought values new)) ∧
        entity.Refinds (new :: stored) rest

theorem refinds_congr {entity : Entity} {stored stored' : List StoredRow}
    (same : ∀ row, row ∈ stored ↔ row ∈ stored') (added : List (Record × StoredRow)) :
    entity.Refinds stored added ↔ entity.Refinds stored' added := by
  induction added generalizing stored stored' with
  | nil => exact Iff.rfl
  | cons entry rest inductionHypothesis =>
      have sameCons : ∀ row, row ∈ entry.2 :: stored ↔ row ∈ entry.2 :: stored' := by
        intro row
        rw [List.mem_cons, List.mem_cons, same]
      refine and_congr (exists_congr fun row => and_congr_left fun _ => sameCons row) ?_
      exact inductionHypothesis sameCons

end Entity

/-! ## Rows that are added one after the other -/

namespace Sql.Insert

variable {schema : Schema} {insert : Insert}

/-- Without a clause each row is added, if anything is done. -/
theorem gains_insertAll (isTable : schema.table? insert.table.name = some insert.table)
    (isConflict : insert.conflict = .nothing) {rows : List Record} {store store' : Store}
    {touched : List StoredRow} (sound : SoundTables schema store.tables)
    (inserted : insert.insertAll store rows = .ok (store', touched)) :
    touched.length = rows.length ∧ Gains insert.table store.tables store'.tables touched := by
  induction rows generalizing store touched with
  | nil =>
      cases inserted
      exact ⟨rfl, .refl _ _⟩
  | cons row rest inductionHypothesis =>
      obtain ⟨⟨middle, head⟩, headOk, inserted⟩ := Result.bind_eq_ok.1 inserted
      obtain ⟨⟨last, tail⟩, tailOk, inserted⟩ := Result.bind_eq_ok.1 inserted
      cases Result.pure_eq_ok.1 inserted
      obtain ⟨new, rfl, gains, _⟩ := added_of_nothing sound isTable isConflict headOk
      obtain ⟨sameLength, others⟩ :=
        inductionHypothesis (sound_insertOne sound isTable headOk) tailOk
      refine ⟨?_, gains.trans others⟩
      change tail.length + 1 = rest.length + 1
      rw [sameLength]

end Sql.Insert

/-! ## Statements that are answered -/

namespace Database

variable {saved : List StoredTable} {state after : UnitState Database}

/-- A statement that is issued with success was answered. -/
theorem Inside.answer_of_issue (inside : Inside saved state) {statement : Statement}
    {cursor : Cursor}
    (issued : Executor.issue unitSession none statement state = (.ok cursor, after)) :
    Inside saved after ∧
      answer statement state.world.store = .ok (after.world.store, cursor) := by
  cases answered : answer statement state.world.store with
  | error refusal =>
      obtain ⟨other, fails, _⟩ := issue_of_error inside answered
      cases fails.symm.trans issued
  | ok outcome =>
      obtain ⟨other, runs, stillInside, isStore⟩ := issue_of_ok inside answered
      cases runs.symm.trans issued
      exact ⟨stillInside, by rw [isStore]⟩

/-- A body that succeeds in a unit of work has run, and leaves its tables. -/
theorem body_of_outcome {α : Type} {body : Action (UnitState Database) α} {database : Database}
    (closed : database.transaction = none) {value : α} {tables : List StoredTable}
    (ran : outcome (scope.within body) database = (.ok value, tables)) :
    ∃ middle, body ⟨database.begin, true⟩ = (.ok value, middle) ∧
      (Inside database.store.tables middle → middle.world.store.tables = tables) := by
  have isResult : (scope.within body ⟨database, false⟩).1 = .ok value := by
    unfold outcome at ran
    exact congrArg Prod.fst ran
  obtain ⟨entered, middle, enterRan, bodyRan, _⟩ := Scope.within_eq_ok (Prod.ext isResult rfl)
  cases (scope_enter closed false).symm.trans enterRan
  refine ⟨middle, bodyRan, fun inside => ?_⟩
  rw [outcome_within closed bodyRan inside] at ran
  exact congrArg Prod.snd ran

end Database

namespace Repository

open Database

section

variable {registry : Registry} {name : String} {entity : Entity}
variable {saved : List StoredTable} {state after : UnitState Database}

/-- What is selected anew is there if and only if a row has the key that is looked for. -/
theorem isSome_of_reselected {values : Record} {insert : Insert}
    (isTable : insert.table = entity.table) (isSingle : insert.rows = [values])
    (isKey : entity.table.primaryKeys = [entity.key]) {schema : Schema} {store : Store}
    (sound : SoundTables schema store.tables)
    (inSchema : schema.table? entity.table.name = some entity.table) {found : Option Record}
    (isFound : reselected insert values store = .ok found) :
    found.isSome = true ↔ ∃ row ∈ (entity.table.among store.tables).rows,
      row.HasKey entity.key (soughtKey entity values store) := by
  have accepted : Accepts (.select (.byKey entity.table entity.key
      (soughtKey entity values store))) := by
    unfold reselected at isFound
    rw [reselection_eq isTable isSingle isKey] at isFound
    split at isFound
    · rename_i answered
      exact (answer_eq_ok_iff.1 answered).1
    · cases isFound
  have finds := reselected_eq_some_iff isTable isSingle isKey sound inSchema
  rw [isFound] at finds
  constructor
  · intro isSome
    obtain ⟨record, rfl⟩ := Option.isSome_iff_exists.1 isSome
    obtain ⟨_, row, member, hasKey, _⟩ := (finds record).1 rfl
    exact ⟨row, member, hasKey⟩
  · rintro ⟨row, member, hasKey⟩
    rw [Except.ok.inj ((finds _).2 ⟨accepted, row, member, hasKey, rfl⟩)]
    rfl

/-- An insert of one row that is selected anew adds it, and hands it back if it is found again. -/
theorem added_of_reselect (reachable : registry.Reachable)
    (isEntity : registry.entity name = .ok entity) (inside : Inside saved state)
    (sound : SoundTables registry.schema state.world.store.tables) {single : CompiledInsert}
    {values : Record} (isSingle : single.statement = .ofRow entity.table values .nothing)
    {found : Option Record}
    (ran : Executor.insertAndReselect unitSession none single state = (.ok found, after)) :
    ∃ new, Inside saved after ∧ SoundTables registry.schema after.world.store.tables ∧
      Gains entity.table state.world.store.tables after.world.store.tables [new] ∧
      (found.isSome = true ↔ ∃ row ∈ (entity.table.among after.world.store.tables).rows,
        row.HasKey entity.key (entity.sought values new)) := by
  have inSchema := inSchema_of_entity reachable isEntity
  have agrees := reachable.consistent.agrees entity (Registry.entity_eq_ok isEntity).1
  obtain ⟨statement, policy, contract, dialect⟩ := single
  cases isSingle
  -- the statement is carried out, for nothing is selected otherwise
  obtain ⟨cursor, issuedAt, issued, _⟩ := Action.bind_eq_ok.1 ran
  obtain ⟨accepted, _, evaluated, _⟩ := answer_eq_ok_iff.1 (inside.answer_of_issue issued).2
  obtain ⟨checked, touched, inserted, _⟩ := Insert.evaluate_eq_ok_iff.1 evaluated
  have settles : Insert.Settles (.ofRow entity.table values .nothing) state.world.store
      issuedAt.world.store touched := ⟨accepted, checked, inserted⟩
  obtain ⟨effective, hit, _, insertedOne, rfl⟩ := settles.single rfl
  obtain ⟨new, rfl, gains, isNumber, _⟩ := Insert.added_of_nothing sound inSchema rfl insertedOne
  have insertedSound := Insert.sound_insertOne sound inSchema insertedOne
  have isSingle : CompiledInsert.rows ⟨.ofRow entity.table values .nothing, policy, contract,
    dialect⟩ = [values] := rfl
  obtain ⟨middle, middleInside, isStore, isSelection⟩ :=
    insertAndReselect_single inside isSingle settles
  obtain ⟨last, selected, lastInside, unchanged⟩ :=
    selectOne_apply middleInside (.ofRow entity.table values .nothing) values
  rw [isStore] at selected unchanged
  obtain ⟨isReselected, rfl⟩ := Prod.mk.inj (ran.symm.trans (isSelection.trans selected))
  have isSought : soughtKey entity values issuedAt.world.store = entity.sought values new := by
    unfold soughtKey Entity.sought
    rw [isNumber]
  have isFound :=
    isSome_of_reselected rfl rfl agrees.key insertedSound inSchema isReselected.symm
  rw [isSought] at isFound
  rw [unchanged (by rw [← isReselected]; rfl)]
  exact ⟨new, lastInside, insertedSound, gains, isFound⟩

/-- Inserts of single rows that are selected anew add them all, and hand back as many if each is
found again. -/
theorem added_of_singles (reachable : registry.Reachable)
    (isEntity : registry.entity name = .ok entity) {singles : List CompiledInsert}
    {rows : List Record} (areSingles : List.Forall₂ (fun single values =>
      single.statement = .ofRow entity.table values .nothing) singles rows)
    (inside : Inside saved state)
    (sound : SoundTables registry.schema state.world.store.tables) {founds : List (Option Record)}
    (ran : singles.mapM (Executor.insertAndReselect unitSession none) state =
      (.ok founds, after)) :
    ∃ added, added.length = rows.length ∧ Inside saved after ∧
      Gains entity.table state.world.store.tables after.world.store.tables added ∧
      (founds.filterMap id).length ≤ rows.length ∧
      ((founds.filterMap id).length = rows.length ↔
        entity.Refinds (entity.table.among state.world.store.tables).rows (rows.zip added)) := by
  induction areSingles generalizing state founds with
  | nil =>
      cases ran
      exact ⟨[], rfl, inside, .refl _ _, Nat.le_refl _, iff_of_true rfl trivial⟩
  | @cons single values singles rows isSingle rest inductionHypothesis =>
      rw [List.mapM_cons] at ran
      obtain ⟨found, middle, headRan, ran⟩ := Action.bind_eq_ok.1 ran
      obtain ⟨others, last, tailRan, ran⟩ := Action.bind_eq_ok.1 ran
      cases ran
      obtain ⟨new, middleInside, middleSound, gains, isFound⟩ :=
        added_of_reselect reachable isEntity inside sound isSingle headRan
      obtain ⟨added, sameLength, lastInside, moreGains, atMost, areFound⟩ :=
        inductionHypothesis middleInside middleSound tailRan
      have sameRows : ∀ row, row ∈ (entity.table.among middle.world.store.tables).rows ↔
          row ∈ new :: (entity.table.among state.world.store.tables).rows :=
        fun row => gains.rows.mem_iff
      rw [Entity.refinds_congr sameRows] at areFound
      have isHead : found.isSome = true ↔
          ∃ row ∈ new :: (entity.table.among state.world.store.tables).rows,
            row.HasKey entity.key (entity.sought values new) :=
        isFound.trans (exists_congr fun row => and_congr_left fun _ => sameRows row)
      refine ⟨new :: added, congrArg (· + 1) sameLength, lastInside, gains.trans moreGains, ?_⟩
      rw [List.zip_cons_cons, Entity.Refinds, ← isHead, ← areFound, List.length_cons]
      cases found with
      | none =>
          rw [List.filterMap_cons_none rfl]
          refine ⟨by omega, iff_of_false (by omega) nofun⟩
      | some record =>
          rw [List.filterMap_cons_some (f := id) (b := record) rfl, List.length_cons]
          refine ⟨by omega, ?_⟩
          rw [Nat.add_right_cancel_iff]
          exact (and_iff_right rfl).symm

end

end Repository

/-! ## Compiled inserts of several rows -/

namespace CompiledInsert

variable {table : Table} {rows : List Record} {compiled : CompiledInsert}

/-- What is compiled without a policy and without asking for its rows. -/
theorem statement_of_plain (compiles : compile table rows .sqlite none (some false) = .ok compiled) :
    compiled.statement = { table, rows } ∧ compiled.policy = none ∧ compiled.dialect = .sqlite ∧
      compiled.contract.returning = false := by
  have isConflict := conflict_of_compile compiles
  rw [compile_eq] at compiles
  obtain ⟨conflict, _, rfl⟩ := Result.map_eq_ok.1 compiles
  cases isConflict
  exact ⟨rfl, rfl, rfl, rfl⟩

/-- The statements for each row are the inserts of the rows. -/
theorem singles_of_perRow (compiles : compile table rows .sqlite none (some false) = .ok compiled)
    {singles : List CompiledInsert} (split : compiled.perRow = .ok singles) :
    List.Forall₂ (fun single values => single.statement = .ofRow table values .nothing)
      singles rows := by
  obtain ⟨isStatement, _⟩ := statement_of_plain compiles
  cases split.symm.trans (perRow_eq compiles)
  rw [List.forall₂_map_left_iff, List.forall₂_same]
  intro values _
  unfold forRow
  rw [isStatement]
  rfl

end CompiledInsert

namespace Sql.Insert

/-- An insert has columns if and only if one of its rows does. -/
theorem columns_ne_nil_iff {insert : Insert}
    (known : ∀ row ∈ insert.rows, ∀ name ∈ row.names, insert.table.hasColumn name = true)
    (even : CompiledInsert.checkEven insert.rows = .ok ()) :
    insert.columns ≠ [] ↔ ∃ row ∈ insert.rows, row ≠ [] := by
  cases isRows : insert.rows with
  | nil =>
      refine iff_of_false (fun hasColumns => hasColumns ?_) nofun
      unfold columns
      rw [isRows]
  | cons first rest =>
      rw [isRows] at known even
      have firstKnown := known first (List.mem_cons_self ..)
      have onlyFirst : insert.columns ≠ [] ↔ first ≠ [] := by
        constructor
        · rintro hasColumns rfl
          refine hasColumns ?_
          unfold columns
          rw [isRows]
          exact List.filter_eq_nil_iff.2 fun _ _ => Bool.false_ne_true
        · exact fun nonempty => columns_ne_nil isRows nonempty firstKnown
      rw [onlyFirst]
      refine ⟨fun nonempty => ⟨first, List.mem_cons_self .., nonempty⟩, ?_⟩
      rintro ⟨row, member, nonempty⟩ rfl
      obtain ⟨field, others, rfl⟩ := List.exists_cons_of_ne_nil nonempty
      have inFirst := CompiledInsert.checkEven_eq_ok_iff.1 even _ member [] (List.mem_cons_self ..)
        field.1 (List.mem_cons_self ..)
      exact List.not_mem_nil inFirst

end Sql.Insert

namespace Repository

open Database

/-- Whether a call that inserts rows loses none of them: if it returns, it has added and gives as many
rows as it was given. -/
def LosesNone (registry : Registry) (entity : Entity) (config : Config) (returning : Bool)
    (database : Database) (rows : List Record) : Prop :=
  ∀ records after,
    outcome ((handing registry entity config returning).insertReturning rows none) database =
      (.ok records, after) →
    records.length = rows.length ∧
      ∃ added, Gains entity.table database.store.tables after added ∧ added.length = rows.length

section

variable {registry : Registry} {name : String} {entity : Entity} {rows records : List Record}
variable {saved : List StoredTable} {state after : UnitState Database}

/-- One statement for all rows adds them, or one row of defaults if none of them has a column. -/
theorem listed_of_asking (reachable : registry.Reachable)
    (isEntity : registry.entity name = .ok entity)
    (known : ∀ row ∈ rows, ∀ name ∈ row.names, entity.table.hasColumn name = true)
    (inside : Inside saved state)
    (sound : SoundTables registry.schema state.world.store.tables)
    (ran : listBody entity.table rows none true state = (.ok records, after)) :
    ∃ added, Inside saved after ∧
      Gains entity.table state.world.store.tables after.world.store.tables added ∧
      records = added.map (·.handed entity.table) ∧
      (added.length = rows.length ↔ rows.length = 1 ∨ ∃ row ∈ rows, row ≠ []) := by
  obtain ⟨compiled, _, isCompiled, ran⟩ := Action.bind_eq_ok.1 ran
  obtain ⟨compiles, rfl⟩ := Action.ofExcept_eq_ok.1 isCompiled
  obtain ⟨isTable, isRows, isReturning⟩ := CompiledInsert.statement_of_compile compiles
  have inSchema : registry.schema.table? compiled.statement.table.name =
      some compiled.statement.table := by
    rw [isTable]
    exact inSchema_of_entity reachable isEntity
  have isAsking : compiled.contract.returning = true :=
    (CompiledInsert.contract_of_compile compiles).1
  unfold Executor.insertRows at ran
  rw [if_pos isAsking] at ran
  obtain ⟨cursor, middle, issued, ran⟩ := Action.bind_eq_ok.1 ran
  cases ran
  obtain ⟨afterInside, answered⟩ := inside.answer_of_issue issued
  obtain ⟨_, touched, inserted, isCursor⟩ :=
    Insert.evaluate_eq_ok_iff.1 (answer_eq_ok_iff.1 answered).2.2.1
  obtain ⟨sameLength, gains⟩ := Insert.gains_insertAll inSchema
    (CompiledInsert.conflict_of_compile compiles) sound inserted
  have hasColumns : compiled.statement.columns ≠ [] ↔ ∃ row ∈ compiled.statement.rows, row ≠ [] :=
    Insert.columns_ne_nil_iff (by rw [isRows, isTable]; exact known)
      (by
        rw [isRows]
        exact CompiledInsert.even_of_clause (CompiledInsert.clause_of_compile compiles))
  rw [isRows] at hasColumns
  rw [isTable] at gains
  refine ⟨touched, afterInside, gains, ?_, ?_⟩
  · rw [← isCursor, ← isTable]
    change (if compiled.statement.returning then _ else _) = _
    rw [isReturning]
    rfl
  · rw [sameLength, ← hasColumns]
    unfold Insert.effectiveRows
    cases isColumns : compiled.statement.columns with
    | nil =>
        rw [List.isEmpty_nil, if_pos rfl, List.length_singleton, eq_comm]
        exact (or_iff_left fun nonempty => nonempty rfl).symm
    | cons first rest =>
        rw [List.isEmpty_cons, if_neg Bool.false_ne_true, isRows]
        exact iff_of_true rfl (.inr (List.cons_ne_nil _ _))

/-- A statement for each row adds it, and all are handed back if each is found again. -/
theorem listed_of_silent (reachable : registry.Reachable)
    (isEntity : registry.entity name = .ok entity) (inside : Inside saved state)
    (sound : SoundTables registry.schema state.world.store.tables)
    (ran : listBody entity.table rows none false state = (.ok records, after)) :
    ∃ added, Inside saved after ∧ added.length = rows.length ∧
      Gains entity.table state.world.store.tables after.world.store.tables added ∧
      (records.length = rows.length ↔
        entity.Refinds (entity.table.among state.world.store.tables).rows (rows.zip added)) := by
  obtain ⟨compiled, _, isCompiled, ran⟩ := Action.bind_eq_ok.1 ran
  obtain ⟨compiles, rfl⟩ := Action.ofExcept_eq_ok.1 isCompiled
  have isSilent := (CompiledInsert.statement_of_plain compiles).2.2.2
  unfold Executor.insertRows at ran
  rw [isSilent, if_neg Bool.false_ne_true] at ran
  cases split : compiled.perRow with
  | error failure =>
      rw [split] at ran
      cases ran
  | ok singles =>
      rw [split] at ran
      obtain ⟨founds, middle, ran, isEnd⟩ := Action.bind_eq_ok.1 ran
      cases isEnd
      obtain ⟨added, sameLength, afterInside, gains, _, areFound⟩ := added_of_singles reachable
        isEntity (CompiledInsert.singles_of_perRow compiles split) inside sound ran
      exact ⟨added, afterInside, sameLength, gains, areFound⟩

end

/-- A call that inserts rows without a policy, and returns, has added rows and changed nothing else.
It has added and gives as many as it was given if and only if, asking for them, it was given a column
or a single row, or else finds each of them again. -/
theorem bulk_complete_iff {registry : Registry} (reachable : registry.Reachable) {name : String}
    {entity : Entity} (isEntity : registry.entity name = .ok entity) (config : Config)
    (returning : Bool) {database : Database} (closed : database.transaction = none)
    (sound : database.Sound registry.schema) {rows : List Record} (nonempty : rows ≠ [])
    {records : List Record} {after : List StoredTable}
    (ran : outcome ((handing registry entity config returning).insertReturning rows none) database =
      (.ok records, after)) :
    ∃ added, Gains entity.table database.store.tables after added ∧
      (returning = true → records = added.map (·.handed entity.table)) ∧
      (returning = false → added.length = rows.length) ∧
      (added.length = rows.length ∧ records.length = rows.length ↔
        if returning then rows.length = 1 ∨ ∃ row ∈ rows, row ≠ []
        else entity.Refinds (entity.table.among database.store.tables).rows (rows.zip added)) := by
  rcases outcome_insertReturning registry entity config returning nonempty none closed with
    ⟨failure, _, isOutcome⟩ | ⟨taken, isOutcome⟩
  · cases isOutcome.symm.trans ran
  · rw [isOutcome] at ran
    obtain ⟨middle, bodyRan, isAfter⟩ := body_of_outcome closed ran
    have inside := inside_begin database
    cases returning with
    | true =>
        obtain ⟨added, afterInside, gains, isRecords, complete⟩ := listed_of_asking reachable isEntity
          (mapM_columnValues taken).2 inside sound.tables bodyRan
        rw [isAfter afterInside] at gains
        refine ⟨added, gains, fun _ => isRecords, nofun, ?_⟩
        rw [isRecords, List.length_map, and_self_iff]
        exact complete
    | false =>
        obtain ⟨added, afterInside, sameLength, gains, complete⟩ := listed_of_silent reachable isEntity
          inside sound.tables bodyRan
        rw [isAfter afterInside] at gains
        refine ⟨added, gains, nofun, fun _ => sameLength, ?_⟩
        rw [and_iff_right sameLength]
        exact complete

end Repository

/-! ## Labels and profiles -/

namespace Catalogue

open Repository Database

/-- Two labels are added by one statement, and both are given. -/
theorem labels_complete :
    LosesNone registry label {} true database [labelled "c" 3, labelled "d" 4] := by
  intro records after ran
  have isLabel : registry.entity "label" = .ok label := rfl
  obtain ⟨added, gains, _, _, complete⟩ := bulk_complete_iff registry_reachable isLabel {} true rfl
    database_sound (List.cons_ne_nil _ _) ran
  obtain ⟨addedAll, gaveAll⟩ := complete.2 (.inr ⟨labelled "c" 3, by simp, nofun⟩)
  exact ⟨gaveAll, added, gains, addedAll⟩

/-- One statement adds one of two labels that have no column. -/
theorem defaults_lost : ¬LosesNone registry label {} true database [[], []] := by
  intro complete
  have ran : outcome ((handing registry label {} true).insertReturning [[], []] none) database =
      (.ok [[("id", .int 3), ("slug", .null), ("weight", .null)]], _) := rfl
  obtain ⟨gaveAll, _⟩ := complete _ _ ran
  cases gaveAll

end Catalogue

namespace Accounts

open Repository Database

theorem carries_bio : ∃ compiled,
    compiled.statement = .ofRow profileTable bio .nothing ∧
      Carries profileTable bio none store compiled addedStore [added] := by
  have bound : ∃ values, Database.boundValues (Insert.render .sqlite
      (.ofRow profileTable bio .nothing)).parameters = some values ∧
        Database.firstRefusal 1 values = none := ⟨_, rfl, rfl⟩
  exact ⟨_, rfl, rfl, Insert.accepts_iff.2 bound, rfl, rfl⟩

/-- A profile whose key is left to the table is looked for without a key, so that nothing is
found. -/
theorem reselected_bio :
    reselected (.ofRow profileTable bio .nothing) bio addedStore = .ok none := by
  have isTable : registry.schema.table? profileTable.name = some profileTable := rfl
  have isSound : SoundTables registry.schema addedStore.tables := by
    have inserted : Insert.insertOne ⟨profileTable, [], .nothing, false⟩ store bio =
        .ok (addedStore, some added) := rfl
    exact Insert.sound_insertOne store_sound isTable inserted
  have isQuery : reselection (.ofRow profileTable bio .nothing) bio addedStore =
      .byKey profileTable profile.key .null := rfl
  have answered : answer (.select (.byKey profileTable profile.key .null)) addedStore =
      .ok (addedStore,
        { rows := (Select.byKey profileTable profile.key .null).evaluate addedStore }) :=
    answer_eq_ok_iff.2 ⟨⟨_, _, rfl, rfl, rfl⟩, rfl, rfl, rfl⟩
  unfold reselected
  rw [isQuery, answered]
  refine congrArg Except.ok (Option.eq_none_iff_forall_ne_some.2 fun record found => ?_)
  obtain ⟨_, _, ⟨notNull, _⟩, _⟩ := (Select.head?_byKey isSound isTable rfl .null record).1 found
  cases notNull

/-- A profile whose key is left to the table is added, and not given. -/
theorem profile_lost : ¬LosesNone registry profile {} false { store } [bio] := by
  intro complete
  obtain ⟨compiled, isStatement, carries⟩ := carries_bio
  have closed : ({ store } : Database).transaction = none := rfl
  have taken : columnValues profile bio = .ok bio := rfl
  have ran := outcome_listed registry {} closed taken carries false
  have isDelivered : delivered compiled.statement bio addedStore [added] false = .ok [] := by
    unfold delivered
    dsimp only
    rw [isStatement, reselected_bio]
    rfl
  rw [isDelivered] at ran
  obtain ⟨gaveAll, _⟩ := complete _ _ ran
  cases gaveAll

/-- Rows are lost by a call that asks for them, and by one that looks for them. -/
theorem rows_lost :
    ¬LosesNone Catalogue.registry Catalogue.label {} true Catalogue.database [[], []] ∧
      ¬LosesNone registry profile {} false { store } [bio] :=
  ⟨Catalogue.defaults_lost, profile_lost⟩

end Accounts

end RecordGraph

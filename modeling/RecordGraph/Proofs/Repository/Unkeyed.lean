import RecordGraph.Proofs.Repository.Attached
import RecordGraph.Proofs.Repository.Missing
import RecordGraph.Proofs.Store.Overlaid
import RecordGraph.Proofs.Store.Upsert

/-!
Contract: calls that link rows to an owner whose source key is null.

Owns: `LinksOrLeaves`, when such a call does what it is to do, and the links without an owner that it
makes when it does not.
Does not own: owners that refer to their targets by a foreign key of their own, and what a failure
leaves in the unit of work of a caller, who undoes it.

A fetch takes a null key for no key and gives no rows. The calls that link do not ask, and store the
null as the reference to the owner.
-/

namespace RecordGraph

open RecordGraph.Sql

/-! ## Rows that are inserted -/

/-- Where null is given to a column that no number is generated for, the row has what the column
stores for null. -/
theorem StoredTable.proposed_of_null_given {stored : StoredTable} {values : Record} {name : String}
    (isNull : values.get? name = some .null)
    (notNumbered : stored.table.numberedKey?.map (·.name) ≠ some name) :
    stored.proposed values name = stored.table.stores name .null := by
  have isGiven : stored.table.given values name = stored.table.stores name .null := by
    rw [Table.given, isNull]
    rfl
  by_cases isNothing : stored.table.given values name = .null
  · rw [proposed_of_null isNothing, if_neg notNumbered, ← isGiven, isNothing]
  · rw [proposed_of_given isNothing, isGiven]

/-- The row of an insert that is given a column is the one that is proposed for its values. -/
theorem Sql.Insert.effectiveRows_of_given {insert : Insert} {values : Record}
    (isSingle : insert.rows = [values]) {name : String}
    (isColumn : insert.table.hasColumn name = true) (isGiven : values.has name = true) :
    insert.effectiveRows = [values] := by
  obtain ⟨column, inTable, isNamed⟩ := List.any_eq_true.1 isColumn
  have isMember : column ∈ insert.columns := by
    unfold columns
    rw [isSingle]
    refine List.mem_filter.2 ⟨inTable, ?_⟩
    rw [show column.name = name by simpa using isNamed]
    simpa using isGiven
  unfold effectiveRows
  rw [if_neg (by simpa using List.ne_nil_of_mem isMember), isSingle]

namespace Database

variable {schema : Schema} {repository : Repository (Workplace Database)} {table : Table}
variable {values record : Record} {before after : Workplace Database}

/-- The insert of a row is carried out and leaves what it leaves, for a selection of the row that
follows changes nothing. -/
theorem settles_of_insertRow (opened : Opened control before)
    (ran : repository.insertRow (unitExecutor session none) table values before =
      (.ok record, after)) :
    Opened control after ∧ ∃ insert : Insert, ∃ touched, insert.table = table ∧
      insert.rows = [values] ∧ insert.conflict = .nothing ∧
        insert.Settles before.world.world.store after.world.world.store touched := by
  obtain ⟨compiled, handed, isCompiled, insertRan, isHead⟩ := Repository.insertRow_eq_ok ran
  obtain ⟨isOf, isSingle, _⟩ := CompiledInsert.statement_of_compile isCompiled
  have isPlain := CompiledInsert.conflict_of_compile isCompiled
  obtain ⟨cursor, middle, issued, ending⟩ := Executor.insertRows_eq_ok isSingle insertRan isHead
  obtain ⟨stillOpen, answered⟩ := answer_of_issue opened issued
  obtain ⟨accepted, _, evaluated, _⟩ := answer_eq_ok_iff.1 answered
  obtain ⟨checked, touched, inserted, _⟩ := Insert.evaluate_eq_ok_iff.1 evaluated
  have isAfter : Opened control after ∧ after.world.world.store = middle.world.world.store := by
    split at ending
    · rw [← ending.2]
      exact ⟨stillOpen, rfl⟩
    · obtain ⟨cursor, selected, _⟩ := Executor.selectOne_eq_ok ending
      obtain ⟨lastOpen, answered⟩ := answer_of_issue stillOpen selected
      have evaluated := (answer_eq_ok_iff.1 answered).2.2.1
      exact ⟨lastOpen, (Prod.mk.inj (Except.ok.inj evaluated)).1.symm⟩
  rw [isAfter.2]
  exact ⟨isAfter.1, compiled.statement, touched, isOf, isSingle, isPlain, accepted, checked, inserted⟩

/-- A row that has been inserted alone is the only change. Where it is given null, it has what the
column stores for null. -/
theorem insertRow_gains (opened : Opened control before)
    (sound : SoundTables schema before.world.world.store.tables)
    (isTable : schema.table? table.name = some table)
    (ran : repository.insertRow (unitExecutor session none) table values before =
      (.ok record, after)) :
    Opened control after ∧ SoundTables schema after.world.world.store.tables ∧
      ∃ new, Gains table before.world.world.store.tables after.world.world.store.tables [new] ∧
        ∀ name, table.hasColumn name = true → values.get? name = some .null →
          table.numberedKey?.map (·.name) ≠ some name →
            new.cell name = table.stores name .null := by
  obtain ⟨stillOpen, insert, touched, rfl, isSingle, isPlain, settles⟩ :=
    settles_of_insertRow opened ran
  obtain ⟨effective, hit, isEffective, inserted, _⟩ := settles.single isSingle
  obtain ⟨new, _, gains, _, isProposed⟩ := Insert.added_of_nothing sound isTable isPlain inserted
  refine ⟨stillOpen, Insert.sound_insertOne sound isTable inserted, new, gains,
    fun name isColumn isNull notNumbered => ?_⟩
  have isGiven := Insert.effectiveRows_of_given isSingle isColumn (Record.has_iff.2 ⟨_, isNull⟩)
  cases isEffective.symm.trans isGiven
  have isStored := Store.table_tableOf sound isTable
  rw [isProposed, StoredTable.proposed_of_null_given isNull (by rw [isStored]; exact notNumbered),
    isStored]

end Database

/-! ## Calls on an owner without a key -/

variable {σ : Type}

namespace RelatedQuery

/-- The table and the column of the rows by which targets are linked to owners. -/
inductive RefersBy (query : RelatedQuery σ) : Table → String → Prop where
  | member (isMany : query.relation.kind = .hasMany) :
      RefersBy query query.target.table query.relation.targetKey.column
  | joined (isJoined : query.relation.kind = .manyToMany) {through : Through} {table : Table}
      (joins : query.relation.through = some through)
      (found : query.repository.registry.table through.table = .ok table) :
      RefersBy query table through.source.column

/-- Whether the owner is stored, and reads null in the source key of the relation. -/
def Unkeyed (query : RelatedQuery σ) (tables : List StoredTable) : Prop :=
  ∃ owner ∈ query.repository.entity.rowsIn tables,
    owner.HasKey query.repository.entity.key query.owner ∧
      ((owner.read query.repository.entity.table).getD query.relation.sourceKey.column).isNull = true

/-- Whether no link can be stored without a reference to its owner: its column must have a value. A
column of documents does not help, for it stores null as a document. -/
inductive RequiresOwner (query : RelatedQuery σ) : Prop where
  | intro {table : Table} {name : String} {column : Column} (refers : query.RefersBy table name)
      (isColumn : table.column? name = some column)
      (distinct : table.columnNames.Nodup) (required : table.requires column = true)
      (notDocument : column.type ≠ .json)
      (apart : query.relation.kind = .manyToMany → ∀ through,
        query.relation.through = some through → through.source.column ≠ through.target.column)

end RelatedQuery

/-- What a call is to do for an owner without a key: a record that it gives is among the related ones
that are fetched as long as the data stay what they are, and each link stays that is stored. -/
structure LinkCall.LinksOrLeaves (venue : Venue) (query : RelatedQuery (Workplace Database))
    (result : Except Error (Option Record)) (before after : List StoredTable) : Prop where
  found : ∀ record, result = .ok (some record) → ∀ later, venue.Ready Database.control later →
    venue.data Database.transactional later = after →
      ∃ rows final, query.fetch none later = (.ok (some rows), final) ∧
        ∃ row ∈ rows, Record.Alike row record
  kept : ∀ table name, query.RefersBy table name → ∀ row ∈ (table.among before).rows,
    row.cell name ≠ .null → row ∈ (table.among after).rows

/-- Whether a call fails, or does not find the row that it is to link. -/
inductive LinkCall.Abstains (query : RelatedQuery σ) (before : List StoredTable) :
    LinkCall → Except Error (Option Record) → Prop where
  | failed (call : LinkCall) (failure : Error) : Abstains query before call (.error failure)
  | missing {key : Value} (notStored : ¬query.target.IsStored before key) :
      Abstains query before (.relate key) (.ok none)

/-- What a call changes that does not abstain: it stores a link without an owner, or takes the owner
away from a link that is stored. -/
inductive LinkCall.Dangles (query : RelatedQuery σ) (before after : List StoredTable) :
    LinkCall → Prop where
  | added {values : Record} {row : StoredRow} (isMany : query.relation.kind = .hasMany)
      (gains : Gains query.target.table before after [row])
      (isNull : query.target.table.numberedKey?.map (·.name) ≠
        some query.relation.targetKey.column →
          row.cell query.relation.targetKey.column =
            query.target.table.stores query.relation.targetKey.column .null) :
      Dangles query before after (.insert values)
  | emptied {key : Value} {old new : StoredRow} (isMany : query.relation.kind = .hasMany)
      (member : old ∈ query.target.rowsIn before) (hasKey : old.HasKey query.target.key key)
      (replaces : Replaces query.target.table before after old new)
      (isNew : ∀ name, new.cell name =
        query.target.table.overlay [(query.relation.targetKey.column, .null)] old name) :
      Dangles query before after (.relate key)
  | joined {call : LinkCall} {through : Through} {table : Table} {created : List StoredRow}
      {middle : List StoredTable} {row : StoredRow} (isJoined : query.relation.kind = .manyToMany)
      (joins : query.relation.through = some through)
      (found : query.repository.registry.table through.table = .ok table)
      (creates : Gains query.target.table before middle created)
      (gains : Gains table middle after [row])
      (isNull : through.source.column ≠ through.target.column →
        table.numberedKey?.map (·.name) ≠ some through.source.column →
          row.cell through.source.column = table.stores through.source.column .null) :
      Dangles query before after call

/-! ## What is kept -/

theorem Cell.toValue_stored_null (type : ColumnType) : (stored type .null).toValue type = .null := by
  cases type <;> rfl

theorem Cell.stored_null {type : ColumnType} (notDocument : type ≠ .json) :
    stored type .null = .null := by
  cases type with
  | json => exact absurd rfl notDocument
  | _ => rfl

/-- No number is generated for a column that must have a value. -/
theorem Table.not_numbered_of_requires {table : Table} (distinct : table.columnNames.Nodup)
    {name : String} {column : Column} (isColumn : table.column? name = some column)
    (required : table.requires column = true) :
    table.numberedKey?.map (·.name) ≠ some name := by
  intro isNumbered
  obtain ⟨key, isKey, isNamed⟩ := Option.map_eq_some_iff.1 isNumbered
  have isOther := column?_of_mem distinct (mem_of_numberedKey? isKey)
  rw [isNamed] at isOther
  cases isOther.symm.trans isColumn
  simp [requires, isKey] at required

/-- A row that has one key of another row has all of them. -/
theorem StoredRow.HasKey.of_shared {key : Column} {value shared : Value} {left right : StoredRow}
    (hasKey : left.HasKey key value) (leftHas : left.HasKey key shared)
    (rightHas : right.HasKey key shared) : right.HasKey key value := by
  obtain ⟨notNull, scalar, isLeft, isSought⟩ := hasKey
  obtain ⟨_, other, isLeft', isShared⟩ := leftHas
  obtain ⟨_, third, isRight, isShared'⟩ := rightHas
  refine ⟨notNull, scalar, ?_, isSought⟩
  rw [isRight, ← isShared', isShared, ← isLeft', isLeft]

theorem Table.overlay_null (table : Table) (old : StoredRow) (name column : String) :
    table.overlay [(column, .null)] old name =
      if column = name then table.stores name .null else old.cell name := by
  unfold overlay given
  by_cases same : column = name
  · simp [same, Record.has, Record.get?_cons]
  · simp [same, Record.has]

/-- A row that reads null in a column still does when null is stored in some column. -/
theorem StoredRow.reads_null_overlaid {table : Table} {name column : String} {old new : StoredRow}
    (isNull : ((old.read table).getD name).isNull = true)
    (isNew : ∀ name, new.cell name = table.overlay [(column, .null)] old name) :
    ((new.read table).getD name).isNull = true := by
  unfold Record.getD at isNull ⊢
  rw [StoredRow.get?_read] at isNull ⊢
  cases found : table.column? name with
  | none => rfl
  | some place =>
      rw [found] at isNull
      have isNamed := Table.name_of_column? found
      rw [Option.map_some, isNew, isNamed, Table.overlay_null]
      split
      · rw [Table.stores, found]
        exact congrArg Value.isNull (Cell.toValue_stored_null place.type)
      · rw [← isNamed]
        exact isNull

/-- Where a column must have a value, no stored row has null in it. -/
theorem SoundTables.filled {schema : Schema} {tables : List StoredTable}
    (sound : SoundTables schema tables) {table : Table}
    (isTable : schema.table? table.name = some table) {column : Column}
    (isColumn : column ∈ table.columns) (required : table.requires column = true) {row : StoredRow}
    (member : row ∈ (table.among tables).rows) : row.cell column.name ≠ .null := by
  have storedSound : (table.among tables).Sound := Store.sound_tableOf sound table
  have isStored : (table.among tables).table = table := Store.table_tableOf sound isTable
  exact storedSound.filled column (by rw [isStored]; exact isColumn)
    (by rw [isStored]; exact required) row member

/-- Two stored rows of an entity with one key are the same. -/
theorem Entity.eq_of_hasKey {schema : Schema} {tables : List StoredTable} {entity : Entity}
    (sound : SoundTables schema tables)
    (isTable : schema.table? entity.table.name = some entity.table)
    (isKey : entity.table.primaryKeys = [entity.key]) {left right : StoredRow} {value : Value}
    (isLeft : left ∈ entity.rowsIn tables) (leftHas : left.HasKey entity.key value)
    (isRight : right ∈ entity.rowsIn tables) (rightHas : right.HasKey entity.key value) :
    left = right := by
  have storedSound : (entity.table.among tables).Sound := Store.sound_tableOf sound entity.table
  have isStored : (entity.table.among tables).table = entity.table :=
    Store.table_tableOf sound isTable
  exact storedSound.eq_of_hasKey (by rw [isStored, isKey]) isLeft isRight leftHas rightHas

/-- A row with a key that was given way to is not found any more: only the new row can have its key. -/
theorem Replaces.eq_new_of_hasKey {schema : Schema} {entity : Entity}
    {before after : List StoredTable} (sound : SoundTables schema before)
    (isTable : schema.table? entity.table.name = some entity.table)
    (isKey : entity.table.primaryKeys = [entity.key]) {old new row : StoredRow} {key : Value}
    (replaces : Replaces entity.table before after old new) (hasKey : old.HasKey entity.key key)
    (isRow : row ∈ entity.rowsIn after) (rowHas : row.HasKey entity.key key) : row = new := by
  obtain ⟨rest, isBefore, isAfter⟩ := replaces.rows
  refine (List.mem_cons.1 (isAfter.mem_iff.1 isRow)).resolve_right fun inRest => ?_
  have isOld : row = old := Entity.eq_of_hasKey sound isTable isKey
    (isBefore.mem_iff.2 (List.mem_cons_of_mem _ inRest)) rowHas
    (isBefore.mem_iff.2 (List.mem_cons_self ..)) hasKey
  have storedSound : (entity.table.among before).Sound := Store.sound_tableOf sound entity.table
  have distinct := isBefore.pairwise storedSound.distinct fun apart same => apart same.symm
  exact List.rel_of_pairwise_cons distinct (isOld ▸ inRest) rfl

/-- A row that loses its key as one column is emptied had the key in that column, and is gone. -/
theorem Replaces.emptied_key {schema : Schema} {entity : Entity} {before after : List StoredTable}
    (sound : SoundTables schema before)
    (isTable : schema.table? entity.table.name = some entity.table)
    (isKey : entity.table.primaryKeys = [entity.key]) {old new : StoredRow} {key : Value}
    (member : old ∈ entity.rowsIn before) (hasKey : old.HasKey entity.key key)
    (replaces : Replaces entity.table before after old new) {emptied : String}
    (isNew : ∀ name, new.cell name = entity.table.overlay [(emptied, .null)] old name)
    (lost : ¬new.HasKey entity.key key) :
    old.cell emptied ≠ .null ∧ old ∉ entity.rowsIn after := by
  have isOwnKey : emptied = entity.key.name := by
    by_contra apart
    refine lost ?_
    rw [StoredRow.hasKey_iff, isNew, Table.overlay_null, if_neg apart]
    exact hasKey
  have isSound : (entity.table.among before).Sound := Store.sound_tableOf sound entity.table
  have isStored : (entity.table.among before).table = entity.table :=
    Store.table_tableOf sound isTable
  refine ⟨?_, fun isRow => ?_⟩
  · rw [isOwnKey]
    exact isSound.filled_key (by rw [isStored, isKey]) member
  · rw [replaces.eq_new_of_hasKey sound isTable isKey hasKey isRow hasKey] at hasKey
    exact lost hasKey

namespace RelatedQuery

section Kept

variable {query : RelatedQuery σ} {before after : List StoredTable}

theorem Unkeyed.isStored (unkeyed : query.Unkeyed before) :
    query.repository.entity.IsStored before query.owner := by
  obtain ⟨owner, member, hasKey, _⟩ := unkeyed
  exact ⟨owner, member, hasKey⟩

/-- An owner without a key stays one where rows are added. -/
theorem Unkeyed.of_gains {table : Table} {added : List StoredRow} (unkeyed : query.Unkeyed before)
    (gains : Gains table before after added) : query.Unkeyed after := by
  obtain ⟨owner, member, hasKey, isNull⟩ := unkeyed
  exact ⟨owner, gains.keeps member, hasKey, isNull⟩

/-- An owner without a key stays one where null is stored in a column of a row that keeps its key. -/
theorem Unkeyed.of_replaces {registry : Registry} (consistent : registry.Consistent)
    (isEntity : registry.entity query.repository.entity.name = .ok query.repository.entity)
    (isTarget : registry.entity query.relation.target = .ok query.target)
    (unkeyed : query.Unkeyed before) {old new : StoredRow} {key : Value} {column : String}
    (replaces : Replaces query.target.table before after old new)
    (isNew : ∀ name, new.cell name = query.target.table.overlay [(column, .null)] old name)
    (hasKey : old.HasKey query.target.key key) (stillHas : new.HasKey query.target.key key) :
    query.Unkeyed after := by
  obtain ⟨owner, member, ownerHas, isNull⟩ := unkeyed
  by_cases isOld : query.repository.entity.table.name = query.target.table.name ∧ owner = old
  · obtain ⟨sameName, rfl⟩ := isOld
    have sameKey := query.key_eq_of_table consistent isEntity isTarget sameName
    have sameTable : query.repository.entity.table = query.target.table := by
      have isTable := consistent.table_found isEntity
      rw [sameName, consistent.table_found isTarget] at isTable
      exact (Option.some.inj isTable).symm
    rw [sameKey] at ownerHas
    rw [sameTable] at isNull
    refine ⟨new, ?_, ?_, ?_⟩
    · unfold Entity.rowsIn
      rw [sameTable]
      exact replaces.member
    · rw [sameKey]
      exact ownerHas.of_shared hasKey stillHas
    · rw [sameTable]
      exact StoredRow.reads_null_overlaid isNull isNew
  · exact ⟨owner, replaces.keeps member fun same isOwner => isOld ⟨same, isOwner⟩, ownerHas, isNull⟩

end Kept

/-! ## Runs -/

section Links

open Database

variable {registry : Registry} {config : Config} {entity : Entity} {venue : Venue}
variable {query : RelatedQuery (Workplace Database)} {before after : Workplace Database}

/-- The join row of an owner without a key is stored without one. -/
theorem link_dangles (call : LinkCall) {tables : List StoredTable} {created : List StoredRow}
    (isOver : query.repository =
      Repository.over registry entity config session (some (venue.scope control)))
    (joins : Registry.Joins registry.schema entity.name query.relation)
    (isJoined : query.relation.kind = .manyToMany) (opened : Opened control before)
    (sound : SoundTables registry.schema before.world.world.store.tables) {owner target : Record}
    (isNull : (owner.getD query.relation.sourceKey.column).isNull = true)
    (creates : Gains query.target.table tables before.world.world.store.tables created)
    (ran : query.link (unitExecutor session none) owner target before = (.ok (), after)) :
    Opened control after ∧ SoundTables registry.schema after.world.world.store.tables ∧
      call.Dangles query tables after.world.world.store.tables ∧
        (query.Unkeyed tables → query.Unkeyed after.world.world.store.tables) := by
  obtain ⟨through, isThrough, hasSource, _⟩ := joins.through isJoined
  unfold link at ran
  simp only [isJoined, isThrough] at ran
  obtain ⟨table, _, found, ran⟩ := Action.bind_eq_ok.1 ran
  obtain ⟨isFound, rfl⟩ := Action.ofExcept_eq_ok.1 found
  obtain ⟨source, _, looked, ran⟩ := Action.bind_eq_ok.1 ran
  obtain ⟨isSource, rfl⟩ := Action.ofExcept_eq_ok.1 looked
  rw [Repository.getD_of_lookUp isSource, Value.isNull_iff] at isNull
  subst isNull
  obtain ⟨destination, _, looked, ran⟩ := Action.bind_eq_ok.1 ran
  obtain ⟨_, rfl⟩ := Action.ofExcept_eq_ok.1 looked
  obtain ⟨row, _, inserted, ran⟩ := Action.bind_eq_ok.1 ran
  cases ran
  have isTable : registry.table through.table = .ok table := by
    rw [isOver] at isFound
    exact isFound
  obtain ⟨stillOpen, stillSound, new, gains, isNew⟩ :=
    insertRow_gains opened sound (Registry.table_eq_ok isTable) inserted
  refine ⟨stillOpen, stillSound, .joined isJoined isThrough isFound creates gains fun apart => ?_,
    fun unkeyed => (unkeyed.of_gains creates).of_gains gains⟩
  refine isNew _ (hasSource.of_table (Registry.tableAs_eq_ok isTable)) ?_
  rw [Record.get?_set_of_ne _ _ apart.symm]
  exact Record.get?_set_self [] _ _

/-- A row that values are laid over gives way to the new row, and what is loaded afterwards by its old
key is the row that has that key then. -/
theorem load_after_overlay {schema : Schema} (opened : Opened control before)
    (sound : SoundTables schema before.world.world.store.tables)
    (shaped : ShapedTables before.world.world.store.tables)
    (isTable : schema.table? entity.table.name = some entity.table)
    (isKey : entity.table.primaryKeys = [entity.key]) {key : Value} {old : StoredRow}
    (member : old ∈ entity.rowsIn before.world.world.store.tables)
    (hasKey : old.HasKey entity.key key) {values : Record} {found : Option Record}
    (ran : (do
      let _ ← (unitExecutor session none).change
        (.update (Update.overlayByKey entity.table entity.key key values))
      load (unitExecutor session none) entity key : Action (Workplace Database) (Option Record))
        before = (.ok found, after)) :
    Opened control after ∧ SoundTables schema after.world.world.store.tables ∧ ∃ new,
      Replaces entity.table before.world.world.store.tables after.world.world.store.tables old new ∧
      (∀ name, new.cell name = entity.table.overlay values old name) ∧
      (found = none ↔ ¬new.HasKey entity.key key) := by
  obtain ⟨_, middle, changed, ran⟩ := Action.bind_eq_ok.1 ran
  obtain ⟨cursor, issued⟩ := Executor.change_eq_ok changed
  obtain ⟨stillOpen, answered⟩ := answer_of_issue opened issued
  have evaluated := (answer_eq_ok_iff.1 answered).2.2.1
  have stillSound := Statement.sound_update sound isTable evaluated
  obtain ⟨_, new, replaces, isNew⟩ :=
    Update.overlaid_of_evaluate sound shaped isTable isKey member hasKey evaluated
  obtain ⟨finallyOpen, isStore, finds⟩ := load_eq_ok stillOpen stillSound isTable isKey ran
  rw [isStore]
  refine ⟨finallyOpen, stillSound, new, replaces, isNew, ?_⟩
  rw [isStored_of_load finds]
  refine not_congr ⟨?_, fun stillHas => ⟨new, replaces.member, stillHas⟩⟩
  rintro ⟨row, isRow, rowHas⟩
  rw [← replaces.eq_new_of_hasKey sound isTable isKey hasKey isRow rowHas]
  exact rowHas

end Links

section Runs

open Database

variable {registry : Registry} {config : Config} {entity : Entity} {venue : Venue}
variable {query : RelatedQuery (Workplace Database)} {before after : Workplace Database}

variable (consistent : registry.Consistent)
  (isEntity : registry.entity entity.name = .ok entity)
  (isOver : query.repository =
    Repository.over registry entity config session (some (venue.scope control)))
  (ready : venue.Ready control before)
  (sound : SoundTables registry.schema (venue.data transactional before))
  (unkeyed : query.Unkeyed (venue.data transactional before))

include consistent isEntity isOver ready sound unkeyed

/-- A body that begins by loading the owner goes on with a row that has null in the source key. -/
theorem within_unkeyed_eq_ok {α : Type} {next : Option Record → Action (Workplace Database) α}
    {result : α}
    (ran : (venue.scope control).within (query.loadOwner (unitExecutor session none) >>= next)
      before = (.ok result, after)) :
    ∃ record middle left, Opened control middle ∧
      middle.world.world.store.tables = venue.data transactional before ∧
        (record.getD query.relation.sourceKey.column).isNull = true ∧
          next (some record) middle = (.ok result, left) ∧
            (Opened control left →
              venue.data transactional after = left.world.world.store.tables) := by
  obtain ⟨owner, middle, left, opened, sees, finds, ran, leaves⟩ :=
    within_owner_eq_ok consistent isEntity isOver ready sound ran
  have isOf : query.repository.entity = entity := by rw [isOver]; rfl
  obtain ⟨row, member, hasKey, isNull⟩ := unkeyed
  rw [isOf] at member hasKey isNull
  have isOwner := (finds _).2 ⟨row, member, hasKey, rfl⟩
  rw [isOwner] at ran
  exact ⟨_, middle, left, opened, sees, isNull, ran, leaves⟩

/-- An owner without a key has no related rows. -/
theorem fetch_eq_nil {filter : Option Filter} {result : Option (List Record)}
    (ran : query.fetch filter before = (.ok result, after)) : result = some [] := by
  unfold fetch Repository.within at ran
  rw [isOver] at ran
  obtain ⟨owner, _, _, _, _, isNull, ran, _⟩ :=
    within_unkeyed_eq_ok consistent isEntity isOver ready sound unkeyed ran
  dsimp only at ran
  rw [if_pos isNull] at ran
  cases ran
  rfl

/-- A new target of an owner without a key is stored without one. -/
theorem insert_dangles (isTarget : registry.entity query.relation.target = .ok query.target)
    {name : String} (resolves : registry.resolve entity.name name = .ok query.relation)
    (notOwned : query.relation.kind ≠ .belongsToOne) {values record : Record}
    (ran : query.insert values before = (.ok (some record), after)) :
    SoundTables registry.schema (venue.data transactional after) ∧
      query.Unkeyed (venue.data transactional after) ∧
        (LinkCall.insert values).Dangles query (venue.data transactional before)
          (venue.data transactional after) := by
  have isTable := consistent.table_found isTarget
  have joins := consistent.joins resolves
  have unkeyedBefore := unkeyed
  unfold insert Repository.within at ran
  rw [isOver] at ran
  obtain ⟨given, _, isGiven, ran⟩ := Action.bind_eq_ok.1 ran
  obtain ⟨_, rfl⟩ := Action.ofExcept_eq_ok.1 isGiven
  obtain ⟨owner, middle, left, opened, sees, isNull, ran, leaves⟩ :=
    within_unkeyed_eq_ok consistent isEntity isOver ready sound unkeyed ran
  rw [← sees] at sound unkeyedBefore ⊢
  obtain ⟨key, _, looked, ran⟩ := Action.bind_eq_ok.1 ran
  obtain ⟨isLooked, rfl⟩ := Action.ofExcept_eq_ok.1 looked
  cases isKind : query.relation.kind with
  | belongsToOne => exact absurd isKind notOwned
  | hasMany =>
      rw [Repository.getD_of_lookUp isLooked, Value.isNull_iff] at isNull
      subst isNull
      simp only [isKind, map_eq_pure_bind] at ran
      obtain ⟨row, _, inserted, ran⟩ := Action.bind_eq_ok.1 ran
      cases ran
      obtain ⟨stillOpen, stillSound, new, gains, isNew⟩ :=
        insertRow_gains opened sound isTable inserted
      rw [leaves stillOpen]
      exact ⟨stillSound, unkeyedBefore.of_gains gains, .added isKind gains
        (isNew _ (consistent.hasColumn isTarget joins.target) (Record.get?_set_self ..))⟩
  | manyToMany =>
      simp only [isKind] at ran
      obtain ⟨row, last, inserted, ran⟩ := Action.bind_eq_ok.1 ran
      obtain ⟨_, _, linked, ran⟩ := Action.bind_eq_ok.1 ran
      cases ran
      obtain ⟨stillOpen, stillSound, new, creates, _⟩ :=
        insertRow_gains opened sound isTable inserted
      obtain ⟨finallyOpen, finallySound, dangles, stays⟩ := link_dangles (.insert values)
        isOver joins isKind stillOpen stillSound isNull creates linked
      rw [leaves finallyOpen]
      exact ⟨finallySound, stays unkeyedBefore, dangles⟩

/-- A stored target that is related to an owner without a key is left without an owner. If it is not
given back, its reference to an owner was its own key. -/
theorem relate_of_stored (isTarget : registry.entity query.relation.target = .ok query.target)
    {name : String} (resolves : registry.resolve entity.name name = .ok query.relation)
    (shaped : ShapedTables (venue.data transactional before))
    (notOwned : query.relation.kind ≠ .belongsToOne) {key : Value}
    (isStored : query.target.IsStored (venue.data transactional before) key)
    {result : Option Record} (ran : query.relate key before = (.ok result, after)) :
    SoundTables registry.schema (venue.data transactional after) ∧
      (LinkCall.relate key).Dangles query (venue.data transactional before)
        (venue.data transactional after) ∧
      (result = none → ∃ column, query.RefersBy query.target.table column ∧
        ∃ row ∈ query.target.rowsIn (venue.data transactional before), row.cell column ≠ .null ∧
          row ∉ query.target.rowsIn (venue.data transactional after)) ∧
      ∀ record, result = some record → query.Unkeyed (venue.data transactional after) := by
  have isOf : query.repository.entity = entity := by rw [isOver]; rfl
  have isTable := consistent.table_found isTarget
  have isKey := consistent.key_found isTarget
  have joins := consistent.joins resolves
  have unkeyedBefore := unkeyed
  unfold relate Repository.within at ran
  rw [isOver] at ran
  obtain ⟨owner, middle, left, opened, sees, isNull, ran, leaves⟩ :=
    within_unkeyed_eq_ok consistent isEntity isOver ready sound unkeyed ran
  rw [← sees] at sound shaped isStored unkeyedBefore ⊢
  obtain ⟨found, last, loaded, ran⟩ := Action.bind_eq_ok.1 ran
  obtain ⟨stillOpen, isStore, finds⟩ := load_eq_ok opened sound isTable isKey loaded
  obtain ⟨old, member, hasKey⟩ := isStored
  rw [(finds _).2 ⟨old, member, hasKey, rfl⟩] at ran
  rw [← isStore] at sound shaped member unkeyedBefore ⊢
  cases isKind : query.relation.kind with
  | belongsToOne => exact absurd isKind notOwned
  | hasMany =>
      simp only [isKind] at ran
      obtain ⟨source, _, looked, ran⟩ := Action.bind_eq_ok.1 ran
      obtain ⟨isLooked, rfl⟩ := Action.ofExcept_eq_ok.1 looked
      rw [Repository.getD_of_lookUp isLooked, Value.isNull_iff] at isNull
      subst isNull
      obtain ⟨finallyOpen, finallySound, new, replaces, isNew, isLost⟩ :=
        load_after_overlay stillOpen sound shaped isTable isKey member hasKey ran
      rw [leaves finallyOpen]
      refine ⟨finallySound, .emptied isKind member hasKey replaces isNew, fun isNone => ?_,
        fun record isSome => ?_⟩
      · obtain ⟨notNull, isGone⟩ := replaces.emptied_key sound isTable isKey member hasKey isNew
          (isLost.1 isNone)
        exact ⟨_, .member isKind, old, member, notNull, isGone⟩
      · have stillHas : new.HasKey query.target.key key := by
          by_contra lost
          rw [isLost.2 lost] at isSome
          cases isSome
        exact unkeyedBefore.of_replaces consistent (isOf ▸ isEntity) isTarget replaces isNew hasKey
          stillHas
  | manyToMany =>
      simp only [isKind] at ran
      obtain ⟨_, _, linked, ran⟩ := Action.bind_eq_ok.1 ran
      cases ran
      obtain ⟨finallyOpen, finallySound, dangles, stays⟩ := link_dangles (.relate key)
        isOver joins isKind stillOpen sound isNull (.refl _ _) linked
      rw [leaves finallyOpen]
      exact ⟨finallySound, dangles, nofun, fun _ _ => stays unkeyedBefore⟩

end Runs

end RelatedQuery

/-! ## Links without an owner -/

namespace LinkCall

open Database

variable {registry : Registry} {venue : Venue} {query : RelatedQuery (Workplace Database)}
variable {call : LinkCall} {before after : List StoredTable} {result : Except Error (Option Record)}

/-- Links that must have an owner are never left without one. -/
theorem Dangles.not_required (dangles : call.Dangles query before after)
    (consistent : registry.Consistent) (isRegistry : query.repository.registry = registry)
    (isTarget : registry.entity query.relation.target = .ok query.target)
    (sound : SoundTables registry.schema after) : ¬query.RequiresOwner := by
  rintro ⟨refers, isColumn, distinct, required, notDocument, apart⟩
  rename_i table name column
  suffices stored : ∃ row ∈ (table.among after).rows, registry.schema.table? table.name = some table ∧
      (table.numberedKey?.map (·.name) ≠ some name → row.cell name = table.stores name .null) by
    obtain ⟨row, member, isTable, isNull⟩ := stored
    have isNamed := Table.name_of_column? isColumn
    have filled := sound.filled isTable (List.mem_of_find?_eq_some isColumn) required member
    rw [isNamed, isNull (Table.not_numbered_of_requires distinct isColumn required), Table.stores,
      isColumn] at filled
    exact filled (Cell.stored_null notDocument)
  have isTargetTable := consistent.table_found isTarget
  cases refers with
  | member isMany =>
      cases dangles with
      | added _ gains isNull => exact ⟨_, gains.member, isTargetTable, isNull⟩
      | emptied _ _ _ replaces isNew =>
          refine ⟨_, replaces.member, isTargetTable, fun _ => ?_⟩
          rw [isNew, Table.overlay_null, if_pos rfl]
      | joined isJoined => cases isMany.symm.trans isJoined
  | joined isJoined joins found =>
      cases dangles with
      | added isMany => cases isMany.symm.trans isJoined
      | emptied isMany => cases isMany.symm.trans isJoined
      | joined _ joins' found' _ gains isNull =>
          cases joins.symm.trans joins'
          cases found.symm.trans found'
          rw [isRegistry] at found
          exact ⟨_, gains.member, Registry.table_eq_ok found, isNull (apart isJoined _ joins)⟩

/-- Data can be there to call on. -/
theorem exists_ready (venue : Venue) (tables : List StoredTable) :
    ∃ later : Workplace Database, venue.Ready control later ∧
      venue.data transactional later = tables := by
  cases venue with
  | own => exact ⟨⟨⟨{ store := { tables } }, []⟩, false⟩, rfl, rfl⟩
  | caller =>
      exact ⟨⟨⟨{ store := { tables }, transaction := some { saved := tables } }, []⟩, true⟩,
        ⟨rfl, rfl⟩, rfl⟩

/-- A call that changes nothing and gives no record does what it is to do. -/
theorem linksOrLeaves_of_unchanged (nothing : ∀ record, result ≠ .ok (some record))
    (unchanged : after = before) : LinksOrLeaves venue query result before after where
  found record given := absurd given (nothing record)
  kept _ _ _ _ member _ := unchanged ▸ member

/-- What a call does for an owner without a key: it does what it is to do if and only if it abstains,
and otherwise it leaves a link without an owner. Where a link must have one, it abstains. -/
structure ActsUnkeyed (venue : Venue) (query : RelatedQuery (Workplace Database)) (call : LinkCall)
    (result : Except Error (Option Record)) (before after : List StoredTable) : Prop where
  law : LinksOrLeaves venue query result before after ↔ call.Abstains query before result
  dangles : ¬call.Abstains query before result → call.Dangles query before after
  required : query.RequiresOwner → call.Abstains query before result

section

variable {config : Config} {entity : Entity} {before after : Workplace Database}
variable {result : Except Error (Option Record)} {name : String}

variable (consistent : registry.Consistent)
  (isEntity : registry.entity entity.name = .ok entity)
  (isOver : query.repository =
    Repository.over registry entity config session (some (venue.scope control)))

include consistent isEntity isOver

/-- A record that was given is not found where the owner still has no key. -/
theorem not_linksOrLeaves_of_given {tables tables' : List StoredTable} {record : Record}
    (sound : SoundTables registry.schema tables') (unkeyed : query.Unkeyed tables') :
    ¬LinksOrLeaves venue query (.ok (some record)) tables tables' := by
  intro law
  obtain ⟨later, ready, isData⟩ := exists_ready venue tables'
  obtain ⟨rows, final, fetched, row, member, _⟩ := law.found record rfl later ready isData
  rw [← isData] at sound unkeyed
  cases query.fetch_eq_nil consistent isEntity isOver ready sound unkeyed fetched
  exact absurd member List.not_mem_nil

variable (isTarget : registry.entity query.relation.target = .ok query.target)
  (ready : venue.Ready control before)
  (sound : SoundTables registry.schema (venue.data transactional before))

include isTarget ready sound

/-- A call that abstains changes nothing, unless it fails in the unit of work of a caller. -/
theorem unchanged_of_abstains (ran : call.perform query before = (result, after))
    (settled : result.isOk = true ∨ venue = .own)
    (abstains : call.Abstains query (venue.data transactional before) result) :
    (∀ record, result ≠ .ok (some record)) ∧
      venue.data transactional after = venue.data transactional before := by
  cases abstains with
  | failed _ failure =>
      have isOwn : venue = .own := settled.resolve_left nofun
      subst isOwn
      have atomic : AllOrNothing transactional none (fun _ _ => True) before
          (call.perform query before).1 (call.perform query before).2 := by
        have form : Scoped transactional none (fun _ _ => True)
            (if true then some (unitScope control) else none) (call.perform query) := by
          cases call with
          | insert values => exact RelatedQuery.scoped_insert isOver values
          | relate key => exact RelatedQuery.scoped_relate isOver key
        exact form.allOrNothing ready
      rw [ran] at atomic
      exact ⟨nofun, (atomic.failed failure rfl).1⟩
  | @missing key notStored =>
      have unchanged := (query.relate_eq_ok consistent isEntity isTarget isOver ready sound ran).2
      exact ⟨nofun, unchanged (.inr notStored)⟩

variable (resolves : registry.resolve entity.name name = .ok query.relation)
  (notOwned : query.relation.kind ≠ .belongsToOne)
  (shaped : ShapedTables (venue.data transactional before))
  (unkeyed : query.Unkeyed (venue.data transactional before))

include resolves notOwned shaped unkeyed

/-- A call that succeeds and does not abstain leaves a link without an owner, and does not do what it
is to do. -/
theorem perform_dangles {given : Option Record} (ran : call.perform query before = (.ok given, after))
    (acts : ¬call.Abstains query (venue.data transactional before) (.ok given)) :
    SoundTables registry.schema (venue.data transactional after) ∧
      call.Dangles query (venue.data transactional before) (venue.data transactional after) ∧
        ¬LinksOrLeaves venue query (.ok given) (venue.data transactional before)
          (venue.data transactional after) := by
  have isOf : query.repository.entity = entity := by rw [isOver]; rfl
  have hasOwner := unkeyed.isStored
  cases call with
  | insert values =>
      cases given with
      | none =>
          have notFound := (query.insert_notFound consistent isEntity isOver ready sound ran).1.1 rfl
          rw [isOf] at hasOwner
          exact absurd hasOwner notFound
      | some record =>
          obtain ⟨stillSound, stillUnkeyed, dangles⟩ := query.insert_dangles consistent isEntity isOver
            ready sound unkeyed isTarget resolves notOwned ran
          exact ⟨stillSound, dangles,
            not_linksOrLeaves_of_given consistent isEntity isOver stillSound stillUnkeyed⟩
  | relate key =>
      have isStored : query.target.IsStored (venue.data transactional before) key := by
        by_contra notStored
        have isNone := (query.relate_eq_ok consistent isEntity isTarget isOver ready sound ran).1.2
          (.inl (.inr notStored))
        rw [isNone] at acts
        exact acts (.missing notStored)
      obtain ⟨stillSound, dangles, isLost, stays⟩ := query.relate_of_stored consistent isEntity isOver
        ready sound unkeyed isTarget resolves shaped notOwned isStored ran
      refine ⟨stillSound, dangles, ?_⟩
      cases given with
      | none =>
          obtain ⟨column, refers, row, member, notNull, gone⟩ := isLost rfl
          exact fun law => gone (law.kept _ _ refers row member notNull)
      | some record =>
          exact not_linksOrLeaves_of_given consistent isEntity isOver stillSound (stays record rfl)

end

/-- A call that links a row to an owner without a key does what it is to do if and only if it fails or
finds no row to link: what it gives is not among the related rows, or a stored link is undone.
Otherwise it leaves a link without an owner. Where links must have one, it always fails or finds no
row. -/
theorem unkeyed_acts (reachable : registry.Reachable) {name relation : String} {config : Config}
    {repository : Repository (Workplace Database)}
    (isMade : Repository.makeAt venue registry name config control session = .ok repository)
    {owner : Value} (made : RelatedQuery.make repository owner relation = .ok query)
    (notOwned : query.relation.kind ≠ .belongsToOne) {before after : Workplace Database}
    (ready : venue.Ready control before) (sound : before.world.world.Sound registry.schema)
    (shaped : before.world.world.Shaped)
    (unkeyed : query.Unkeyed (venue.data transactional before))
    {result : Except Error (Option Record)} (ran : call.perform query before = (result, after))
    (settled : result.isOk = true ∨ venue = .own) :
    call.ActsUnkeyed venue query result (venue.data transactional before)
      (venue.data transactional after) := by
  obtain ⟨_, entity, found, rfl⟩ := Repository.makeAt_eq_ok isMade
  obtain ⟨isOver, rfl, resolves, isTarget⟩ := RelatedQuery.make_eq_ok made
  have consistent := reachable.consistent
  have isEntity := Registry.entity_name found
  have soundData := RelatedCall.sound_data ready sound
  have shapedData : ShapedTables (venue.data transactional before) := by
    rw [RelatedCall.data_of_ready ready]
    exact shaped.tables
  by_cases abstains : call.Abstains query (venue.data transactional before) result
  · obtain ⟨nothing, unchanged⟩ := unchanged_of_abstains consistent isEntity isOver isTarget ready
      soundData ran settled abstains
    exact ⟨iff_of_true (linksOrLeaves_of_unchanged nothing unchanged) abstains,
      absurd abstains, fun _ => abstains⟩
  · cases result with
    | error failure => exact absurd (.failed call failure) abstains
    | ok given =>
        obtain ⟨stillSound, dangles, breaks⟩ := perform_dangles consistent isEntity isOver isTarget
          ready soundData resolves notOwned shapedData unkeyed ran abstains
        have isRegistry : query.repository.registry = registry := by rw [isOver]; rfl
        exact ⟨iff_of_false breaks abstains, fun _ => dangles, fun required =>
          absurd required (dangles.not_required consistent isRegistry isTarget stillSound)⟩

end LinkCall

/-! ## Purchases without a reference -/

namespace Purchases

open Database

def purchaseTable : Table where
  name := "purchase"
  columns := [
    { name := "id", type := .integer, primaryKey := true },
    { name := "ref", type := .string, unique := true }]

def lineTable : Table where
  name := "line"
  columns := [
    { name := "id", type := .integer, primaryKey := true },
    { name := "purchase_ref", type := .string, references := some ⟨"purchase", "ref"⟩ }]

def parcelTable : Table where
  name := "parcel"
  columns := [
    { name := "id", type := .integer, primaryKey := true },
    { name := "purchase_ref", type := .string, references := some ⟨"purchase", "ref"⟩,
      nullable := false }]

/-- A line may be without a purchase. -/
def lines : Relation where
  name := "lines"
  kind := .hasMany
  target := "line"
  sourceKey := ⟨"purchase", "ref"⟩
  targetKey := ⟨"line", "purchase_ref"⟩

/-- A parcel may not. -/
def parcels : Relation where
  name := "parcels"
  kind := .hasMany
  target := "parcel"
  sourceKey := ⟨"purchase", "ref"⟩
  targetKey := ⟨"parcel", "purchase_ref"⟩

def purchase : Entity where
  name := "purchase"
  table := purchaseTable
  key := { name := "id", type := .integer, primaryKey := true }
  relations := [lines, parcels]

def line : Entity where
  name := "line"
  table := lineTable
  key := { name := "id", type := .integer, primaryKey := true }
  relations := []

def parcel : Entity where
  name := "parcel"
  table := parcelTable
  key := { name := "id", type := .integer, primaryKey := true }
  relations := []

def schema : Schema := [purchaseTable, lineTable, parcelTable]

def registry : Registry where
  schema
  entities := [purchase, line, parcel]
  frozen := true

theorem registry_reachable : registry.Reachable := by
  have first : Registry.register { schema } "purchase" [lines, parcels] =
      .ok { schema, entities := [purchase] } := rfl
  have second : Registry.register { schema, entities := [purchase] } "line" [] =
      .ok { schema, entities := [purchase, line] } := rfl
  have third : Registry.register { schema, entities := [purchase, line] } "parcel" [] =
      .ok { schema, entities := [purchase, line, parcel] } := rfl
  have frozen : Registry.freeze { schema, entities := [purchase, line, parcel] } = .ok registry :=
    rfl
  exact .freeze (.register (.register (.register (.start _) first) second) third) frozen

def referred : StoredRow where
  number := 1
  cells := [("id", .int 1), ("ref", .text "r1")]

/-- A purchase that has no reference yet. -/
def unreferred : StoredRow where
  number := 2
  cells := [("id", .int 2), ("ref", .null)]

/-- A line of the first purchase. -/
def lined : StoredRow where
  number := 1
  cells := [("id", .int 1), ("purchase_ref", .text "r1")]

def store : Store where
  tables := [
    { table := purchaseTable, rows := [referred, unreferred] },
    { table := lineTable, rows := [lined] }, { table := parcelTable }]
  lastNumber := 1

def purchased : Store where
  tables := [
    { table := purchaseTable, rows := [referred, unreferred] }, { table := lineTable },
    { table := parcelTable }]
  lastNumber := 2

theorem store_reached : SoundTables schema store.tables ∧ ShapedTables store.tables := by
  have purchases : Insert.insertAll ⟨purchaseTable, [], .nothing, false⟩ (Store.empty schema)
      [[("ref", .text "r1")], [("ref", .null)]] = .ok (purchased, [referred, unreferred]) := rfl
  have entries : Insert.insertAll ⟨lineTable, [], .nothing, false⟩ purchased
      [[("purchase_ref", .text "r1")]] = .ok (store, [lined]) := rfl
  have isPurchase : schema.table? purchaseTable.name = some purchaseTable := rfl
  have isLine : schema.table? lineTable.name = some lineTable := rfl
  have emptySound := Store.sound_empty schema
  have sound := Insert.sound_insertAll isPurchase emptySound purchases
  have shaped := Insert.shaped_insertAll isPurchase emptySound (Store.shaped_empty schema) purchases
  exact ⟨Insert.sound_insertAll isLine sound entries,
    Insert.shaped_insertAll isLine sound shaped entries⟩

def workplace : Workplace Database where
  world := { world := { store } }
  holdsSession := false

theorem workplace_sound : workplace.world.world.Sound schema where
  tables := store_reached.1
  saved := nofun

theorem workplace_shaped : workplace.world.world.Shaped where
  tables := store_reached.2
  saved := nofun

def purchases : Repository (Workplace Database) :=
  Repository.over registry purchase {} session (some (Venue.own.scope control))

theorem purchases_made :
    Repository.makeAt .own registry "purchase" {} control session = .ok purchases := rfl

def linesOfSecond : RelatedQuery (Workplace Database) where
  repository := purchases
  owner := .int 2
  relation := lines
  target := line

def parcelsOfSecond : RelatedQuery (Workplace Database) where
  repository := purchases
  owner := .int 2
  relation := parcels
  target := parcel

theorem second_unkeyed {relation : Relation} {target : Entity}
    (isRef : relation.sourceKey.column = "ref") :
    RelatedQuery.Unkeyed ⟨purchases, .int 2, relation, target⟩
      (Venue.own.data transactional workplace) := by
  refine ⟨unreferred, List.mem_cons_of_mem _ (List.mem_singleton_self _), ⟨rfl, _, rfl, rfl⟩, ?_⟩
  dsimp only
  rw [isRef]
  rfl

/-- What a call for the second purchase gives, and the tables that it leaves. -/
def linking (query : RelatedQuery (Workplace Database)) (call : LinkCall) :
    Except Error (Option Record) × List StoredTable :=
  ((call.perform query workplace).1,
    Venue.own.data transactional (call.perform query workplace).2)

/-- A parcel must have a purchase to refer to, so none is inserted for one without a reference. -/
theorem parcel_not_inserted :
    parcelsOfSecond.RequiresOwner ∧
      LinkCall.LinksOrLeaves .own parcelsOfSecond (linking parcelsOfSecond (.insert [])).1
        store.tables (linking parcelsOfSecond (.insert [])).2 := by
  have made : RelatedQuery.make purchases (.int 2) "parcels" = .ok parcelsOfSecond := rfl
  have ready : Venue.own.Ready control workplace := rfl
  have ran : (LinkCall.insert []).perform parcelsOfSecond workplace =
      ((linking parcelsOfSecond (.insert [])).1,
        ((LinkCall.insert []).perform parcelsOfSecond workplace).2) := rfl
  have required : parcelsOfSecond.RequiresOwner :=
    .intro (.member rfl) rfl (by decide) rfl nofun nofun
  have acts := LinkCall.unkeyed_acts registry_reachable purchases_made made nofun ready
    workplace_sound workplace_shaped (second_unkeyed rfl) ran (.inr rfl)
  exact ⟨required, acts.law.2 (acts.required required)⟩

/-- A line of the first purchase that is related to one without a reference is given back, and belongs
to neither afterwards. -/
theorem line_unlinked :
    registry.Reachable ∧
      Repository.makeAt .own registry "purchase" {} control session = .ok purchases ∧
      RelatedQuery.make purchases (.int 2) "lines" = .ok linesOfSecond ∧
      Venue.own.Ready control workplace ∧ workplace.world.world.Sound schema ∧
      workplace.world.world.Shaped ∧ linesOfSecond.Unkeyed store.tables ∧
      (∃ record, (linking linesOfSecond (.relate (.int 1))).1 = .ok (some record)) ∧
      (∀ row ∈ (lineTable.among (linking linesOfSecond (.relate (.int 1))).2).rows,
        row.cell "purchase_ref" = .null) ∧
      ¬LinkCall.LinksOrLeaves .own linesOfSecond (linking linesOfSecond (.relate (.int 1))).1
        store.tables (linking linesOfSecond (.relate (.int 1))).2 := by
  have given : ∃ record, (linking linesOfSecond (.relate (.int 1))).1 = .ok (some record) := by
    have isSome : (linking linesOfSecond (.relate (.int 1))).1.toOption.map Option.isSome =
        some true := by decide +kernel
    generalize (linking linesOfSecond (.relate (.int 1))).1 = result at isSome
    rcases result with failure | _ | record
    · cases isSome
    · cases isSome
    · exact ⟨record, rfl⟩
  have emptied : ∀ row ∈ (lineTable.among (linking linesOfSecond (.relate (.int 1))).2).rows,
      row.cell "purchase_ref" = .null := by
    have all : ((lineTable.among (linking linesOfSecond (.relate (.int 1))).2).rows.all fun row =>
        row.cell "purchase_ref" == .null) = true := by decide +kernel
    exact fun row member => (Cell.beq_null_iff _).1 (List.all_eq_true.1 all row member)
  refine ⟨registry_reachable, purchases_made, rfl, rfl, workplace_sound, workplace_shaped,
    second_unkeyed rfl, given, emptied, fun law => ?_⟩
  have isLined : lined ∈ (lineTable.among store.tables).rows := List.mem_singleton_self _
  exact nomatch emptied lined (law.kept lineTable "purchase_ref" (.member rfl) lined isLined nofun)

end Purchases

end RecordGraph

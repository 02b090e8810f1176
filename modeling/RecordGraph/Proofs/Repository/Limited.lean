import RecordGraph.Proofs.Repository.Found
import RecordGraph.Proofs.Repository.Merged
import RecordGraph.Proofs.Store.Overlaid

/-!
Contract: merges that are limited to a list of columns.

Owns: `KeepsUngiven`, that no column outside the list changes, and that a listed column without a
value gets its default.
Does not own: merges without a list.

A column of the list is overwritten from the row that was to be inserted, whether or not the caller
has given it a value. That row has the default of the column, which is null unless the table says
otherwise.
-/

namespace RecordGraph

open RecordGraph.Sql

namespace Sql.Insert

variable {insert : Insert} {target : List String}

/-- A clause that fits resolves the collisions of a key, and the row has columns. -/
theorem checkClause_eq_ok (resolves : insert.conflict.Resolves target)
    (checked : insert.checkClause = .ok ()) :
    insert.columns.isEmpty = false ∧ isKey insert.table target = true := by
  have isClause : (if insert.columns.isEmpty then .error .clauseAfterDefaults
      else if isKey insert.table target then .ok () else .error .unmatchedTarget :
        Except StoreFailure Unit) = .ok () := by
    unfold checkClause at checked
    rcases resolves with isConflict | ⟨columns, isConflict⟩
    · rw [isConflict] at checked
      exact checked
    · rw [isConflict] at checked
      exact checked
  split at isClause
  · cases isClause
  · split at isClause
    · rename_i nonempty isKey
      exact ⟨by simpa using nonempty, isKey⟩
    · cases isClause

end Sql.Insert

namespace StoredTable

variable {stored : StoredTable} {old : StoredRow}

/-- What is proposed for a column without a value is its default, or the next number. -/
theorem proposed_of_lacks {values : Record} {name : String} (lacks : values.has name = false) :
    stored.proposed values name = stored.table.preset name ∨
      stored.table.numberedKey?.map (·.name) = some name ∧
        stored.proposed values name = .int stored.nextNumber := by
  have isGiven : stored.table.given values name = stored.table.preset name := by
    unfold Table.given
    rw [Record.get?_of_not_has lacks]
    rfl
  by_cases isNull : stored.table.preset name = .null
  · rw [proposed_of_null (isGiven.trans isNull)]
    split
    · rename_i isKey
      exact .inr ⟨isKey, rfl⟩
    · exact .inl isNull.symm
  · rw [proposed_of_given (by rwa [isGiven])]
    exact .inl isGiven

/-- A merge keeps what the values do not give if and only if the row has the defaults of the columns
that are overwritten without a value. -/
theorem merged_keeps_iff (columns : List String) (values : Record) (sound : stored.Sound)
    (member : old ∈ stored.rows) (distinct : stored.table.columnNames.Nodup) :
    (∀ name, values.has name = false → stored.merged columns values old name = old.cell name) ↔
      ∀ name ∈ columns, values.has name = false → old.cell name = stored.table.preset name := by
  have isNumber : ∀ name, stored.table.numberedKey?.map (·.name) = some name →
      old.cell name = .int old.number ∧ stored.table.preset name = .null := by
    intro name isKey
    obtain ⟨key, isNumbered, rfl⟩ := Option.map_eq_some_iff.1 isKey
    refine ⟨sound.numbered key isNumbered old member, ?_⟩
    have isPrimary := Table.mem_of_primaryKeys (Table.primaryKeys_of_numberedKey? isNumbered)
    rw [Table.preset, Table.column?_of_mem distinct isPrimary.1]
    exact Cell.preset_of_primaryKey isPrimary.2
  unfold merged
  constructor
  · intro keeps name isColumn lacks
    have same := keeps name lacks
    rw [if_pos isColumn] at same
    rcases proposed_of_lacks lacks with isPreset | ⟨isKey, isNext⟩
    · exact same.symm.trans isPreset
    · rw [(isNumber name isKey).1, isNext] at same
      exact absurd (Cell.int.inj same).symm (ne_nextNumber member)
  · intro preset name lacks
    by_cases isColumn : name ∈ columns
    · rw [if_pos isColumn]
      rcases proposed_of_lacks lacks with isPreset | ⟨isKey, _⟩
      · rw [isPreset, preset name isColumn lacks]
      · obtain ⟨isInteger, isNull⟩ := isNumber name isKey
        exact absurd (isInteger.symm.trans ((preset name isColumn lacks).trans isNull)) nofun
    · rw [if_neg isColumn]

end StoredTable

namespace Repository

open Database

/-- Whether a call leaves a stored row what it has in the columns outside a list, and in those that
the values do not give. -/
def KeepsUngiven (registry : Registry) (entity : Entity) (config : Config) (returning : Bool)
    (database : Database) (values : Record) (policy : ConflictPolicy) (columns : List String)
    (old : StoredRow) : Prop :=
  ∃ new, Replaces entity.table database.store.tables
      (outcome ((handing registry entity config returning).insert values (some policy))
        database).2 old new ∧
    (∀ name ∉ columns, new.cell name = old.cell name) ∧
    ∀ name, values.has name = false → new.cell name = old.cell name

section

variable {registry : Registry} {name : String} {entity : Entity} {config : Config}
variable {database : Database} {values : Record} {policy : ConflictPolicy}
variable {target columns : List String} {old : StoredRow}
variable (reachable : registry.Reachable) (isEntity : registry.entity name = .ok entity)
  (closed : database.transaction = none) (sound : database.Sound registry.schema)
  (shaped : database.Shaped) (distinct : entity.table.columnNames.Nodup)
  (merges : policy.action = .merge) (listed : policy.merge = some columns)
  (isTarget : policy.targetColumns entity.table = .ok target)
  (clashes : (entity.table.among database.store.tables).Clashes target values old)

include reachable isEntity sound shaped distinct merges listed isTarget clashes

/-- What is carried out merges into the row that collides. -/
theorem merged_of_carries {compiled : CompiledInsert} {store : Store} {touched : List StoredRow}
    (carries : Carries entity.table values (some policy) database.store compiled store touched) :
    ∃ new, touched = [new] ∧ Replaces entity.table database.store.tables store.tables old new ∧
      ∀ name, new.cell name =
        (entity.table.among database.store.tables).merged columns values old name := by
  obtain ⟨isTable, isSingle, _⟩ := CompiledInsert.statement_of_compile carries.compiles
  have inSchema := inSchema_of_entity reachable isEntity
  have isConflict : compiled.statement.conflict = .overwriteOn target columns := by
    rcases CompiledInsert.clause_eq_ok (CompiledInsert.clause_of_compile carries.compiles) with
      ⟨impossible, _⟩ | ⟨given, target', isGiven, isTarget', isClause⟩
    · cases impossible
    · cases isGiven
      cases isTarget.symm.trans isTarget'
      rcases isClause with ⟨ignores, _⟩ | ⟨_, isClause⟩
      · exact absurd (merges.symm.trans ignores) nofun
      · rw [isClause]
        unfold CompiledInsert.mergeColumns
        rw [listed]
  obtain ⟨nonempty, isKey⟩ := Insert.checkClause_eq_ok (.inr ⟨columns, isConflict⟩)
    carries.settles.checked
  obtain ⟨row, hit, isEffective, inserted, isHit⟩ := carries.settles.single isSingle
  have isRow : row = values := by
    unfold Insert.effectiveRows at isEffective
    rw [nonempty, if_neg Bool.false_ne_true, isSingle] at isEffective
    exact (List.cons.inj isEffective).1.symm
  subst isRow
  rw [isTable] at isKey
  have clashes' : (database.store.tableOf compiled.statement.table).Clashes target row old := by
    rw [isTable]
    exact clashes
  obtain ⟨new, rfl, replaces, isMerged⟩ := Insert.merged_of_clashes sound.tables
    (by rw [isTable]; exact inSchema) shaped.tables isConflict
    (by rw [isTable]; exact (Table.isKey_iff distinct).1 isKey) clashes' inserted
  rw [isTable] at replaces isMerged
  exact ⟨new, isHit, replaces, isMerged⟩

include closed

variable (config) in
/-- A call replaces the row that collides by the merged one, or fails and leaves it. -/
theorem outcome_of_limited (returning : Bool) :
    ∃ new, Replaces entity.table database.store.tables
        (outcome ((handing registry entity config returning).insert values (some policy))
          database).2 old new ∧
      ((outcome ((handing registry entity config returning).insert values (some policy))
          database).1.isOk = true ∧ (∀ name, new.cell name =
            (entity.table.among database.store.tables).merged columns values old name) ∨
        (outcome ((handing registry entity config returning).insert values (some policy))
          database).1.isOk = false ∧ new = old) := by
  by_cases carried : ∃ compiled store touched, columnValues entity values = .ok values ∧
      Carries entity.table values (some policy) database.store compiled store touched
  · obtain ⟨compiled, store, touched, taken, carries⟩ := carried
    obtain ⟨new, _, replaces, isMerged⟩ := merged_of_carries reachable isEntity sound shaped distinct
      merges listed isTarget clashes carries
    rw [outcome_of_carries closed taken carries]
    cases isOk : (returned compiled values store touched returning).isOk with
    | true => exact ⟨new, replaces, .inl ⟨rfl, isMerged⟩⟩
    | false => exact ⟨old, .refl clashes.1, .inr ⟨rfl, rfl⟩⟩
  · obtain ⟨failure, isOutcome⟩ :=
      @outcome_of_not_carries registry entity config _ _ _ closed carried returning
    rw [isOutcome]
    exact ⟨old, .refl clashes.1, .inr ⟨rfl, rfl⟩⟩

variable (config) in
theorem keepsUngiven_iff (returning : Bool) :
    KeepsUngiven registry entity config returning database values policy columns old ↔
      ((outcome ((handing registry entity config returning).insert values (some policy))
          database).1.isOk = true →
        ∀ name ∈ columns, values.has name = false →
          old.cell name = entity.table.preset name) := by
  have isStored := Store.table_tableOf sound.tables (inSchema_of_entity reachable isEntity)
  have keeps := StoredTable.merged_keeps_iff columns values
    (Store.sound_tableOf sound.tables entity.table) clashes.1 (by rw [isStored]; exact distinct)
  rw [isStored] at keeps
  obtain ⟨new, replaces, ⟨isOk, isMerged⟩ | ⟨notOk, rfl⟩⟩ := outcome_of_limited config
    reachable isEntity closed sound shaped distinct merges listed isTarget clashes returning
  · constructor
    · rintro ⟨new', replaces', _, kept⟩ _
      cases replaces.unique replaces'
      exact keeps.1 fun name lacks => (isMerged name).symm.trans (kept name lacks)
    · intro empty
      refine ⟨new, replaces, fun name notListed => ?_, fun name lacks => ?_⟩
      · rw [isMerged]
        exact if_neg notListed
      · exact (isMerged name).trans (keeps.2 (empty isOk) name lacks)
  · refine iff_of_true ⟨new, replaces, fun _ _ => rfl, fun _ _ => rfl⟩ fun isOk => ?_
    rw [notOk] at isOk
    cases isOk

end

/-- A merge with a list changes no column outside the list, and no other row. Of the columns without
a value it keeps what the row has if and only if the row has the defaults of those of the list. -/
theorem merge_limited {registry : Registry} (reachable : registry.Reachable) {name : String}
    {entity : Entity} (isEntity : registry.entity name = .ok entity) (config : Config)
    (returning : Bool) {database : Database} (closed : database.transaction = none)
    (sound : database.Sound registry.schema) (shaped : database.Shaped)
    (distinct : entity.table.columnNames.Nodup) (values : Record) {policy : ConflictPolicy}
    (merges : policy.action = .merge) {columns : List String}
    (listed : policy.merge = some columns) {target : List String}
    (isTarget : policy.targetColumns entity.table = .ok target) {old : StoredRow}
    (clashes : (entity.table.among database.store.tables).Clashes target values old) :
    (∃ new, Replaces entity.table database.store.tables
        (outcome ((handing registry entity config returning).insert values (some policy))
          database).2 old new ∧ ∀ name ∉ columns, new.cell name = old.cell name) ∧
    (KeepsUngiven registry entity config returning database values policy columns old ↔
      ((outcome ((handing registry entity config returning).insert values (some policy))
          database).1.isOk = true →
        ∀ name ∈ columns, values.has name = false →
          old.cell name = entity.table.preset name)) := by
  refine ⟨?_, keepsUngiven_iff config reachable isEntity closed sound shaped distinct merges listed
    isTarget clashes returning⟩
  obtain ⟨new, replaces, ⟨_, isMerged⟩ | ⟨_, rfl⟩⟩ := outcome_of_limited config reachable
    isEntity closed sound shaped distinct merges listed isTarget clashes returning
  · refine ⟨new, replaces, fun name notListed => ?_⟩
    rw [isMerged]
    exact if_neg notListed
  · exact ⟨new, replaces, fun _ _ => rfl⟩

end Repository

/-! ## Labels without weights -/

namespace Catalogue

open Repository Database

theorem database_shaped : database.Shaped where
  tables := by
    intro stored member
    rw [List.mem_singleton.1 member]
    intro row isRow
    rcases List.mem_pair.1 isRow with rfl | rfl
    · rfl
    · rfl
  saved := nofun

/-- A label that is named without a weight. -/
def slugOnly : Record := [("slug", .text "a")]

/-- The weight is overwritten on a collision of the slug. -/
def mergeWeight : ConflictPolicy := .mergeOn ["slug"] (some ["weight"])

theorem slug_clashes : (labelTable.among database.store.tables).Clashes ["slug"] slugOnly
    (row 1 "a" 1) := by
  refine ⟨List.mem_cons_self .., fun name member => ?_⟩
  rw [List.mem_singleton.1 member]
  exact ⟨.text "a", rfl, rfl⟩

theorem carries_weightless : ∃ compiled, Carries labelTable slugOnly (some mergeWeight)
    database.store compiled {
      tables := [{ table := labelTable, rows := [
        { number := 1, cells := [("id", .int 1), ("slug", .text "a"), ("weight", .null)] },
        row 2 "b" 2] }]
      lastNumber := 2 }
    [{ number := 1, cells := [("id", .int 1), ("slug", .text "a"), ("weight", .null)] }] := by
  have bound : ∃ values, Database.boundValues (Insert.render .sqlite ⟨labelTable,
      [slugOnly], .overwriteOn ["slug"] ["weight"], false⟩).parameters = some values ∧
        Database.firstRefusal 1 values = none := ⟨_, rfl, rfl⟩
  exact ⟨_, rfl, Insert.accepts_iff.2 bound, rfl, rfl⟩

/-- A merge into the weight that does not give one takes the weight away that was stored. -/
theorem weight_not_kept :
    (CompiledInsert.compile labelTable [slugOnly] .sqlite (some mergeWeight) none).isOk = true ∧
      (labelTable.among database.store.tables).Clashes ["slug"] slugOnly (row 1 "a" 1) ∧
      slugOnly.has "weight" = false ∧
      ¬KeepsUngiven registry label {} true database slugOnly mergeWeight ["weight"]
        (row 1 "a" 1) := by
  refine ⟨rfl, slug_clashes, rfl, fun keeps => ?_⟩
  have isLabel : registry.entity "label" = .ok label := rfl
  have onlyEmpty := (keepsUngiven_iff {} registry_reachable isLabel rfl database_sound
    database_shaped (by decide) rfl rfl rfl slug_clashes true).1 keeps
  have isOk : (outcome ((handing registry label {} true).insert slugOnly (some mergeWeight))
      database).1.isOk = true := by
    obtain ⟨compiled, carries⟩ := carries_weightless
    have taken : columnValues label slugOnly = .ok slugOnly := rfl
    rw [outcome_of_carries rfl taken carries]
    rfl
  exact absurd (onlyEmpty isOk "weight" (List.mem_singleton_self _) rfl) nofun

/-- A merge into the weight that gives one keeps the other columns of the label. -/
theorem weight_merged : KeepsUngiven registry label {} true database (labelled "a" 3) mergeWeight
    ["weight"] (row 1 "a" 1) := by
  have isLabel : registry.entity "label" = .ok label := rfl
  have clashes : (labelTable.among database.store.tables).Clashes ["slug"] (labelled "a" 3)
      (row 1 "a" 1) := by
    refine ⟨List.mem_cons_self .., fun name member => ?_⟩
    rw [List.mem_singleton.1 member]
    exact ⟨.text "a", rfl, rfl⟩
  refine (merge_limited registry_reachable isLabel {} true rfl database_sound database_shaped
    (by decide) (labelled "a" 3) rfl rfl rfl clashes).2.2 fun _ name member lacks => ?_
  rw [List.mem_singleton.1 member] at lacks
  cases lacks

end Catalogue

end RecordGraph

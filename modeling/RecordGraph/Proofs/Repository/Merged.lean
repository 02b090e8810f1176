import RecordGraph.Proofs.Repository.Offered
import RecordGraph.Proofs.Repository.Reselect

/-!
Contract: inserts that merge into the row they collide with.

Owns: `StoredTable.overlaid`, `UpsertsExactly`, and that a merge without a list is an upsert.
Does not own: merges with a list, and policies that ignore collisions.
-/

namespace RecordGraph

open RecordGraph.Sql

namespace StoredTable

/-- What a column of a stored row holds once values are laid over it, but for the target. -/
def overlaid (stored : StoredTable) (target : List String) (values : Record) (old : StoredRow)
    (name : String) : Cell :=
  if values.has name = true ∧ name ∉ target then stored.proposed values name else old.cell name

/-- Whether a merge of values obeys the constraints: the row that collides on the target does so with
the values laid over it, and where none does the values collide with nothing else. -/
structure MergeFits (stored : StoredTable) (target : List String) (values : Record) : Prop where
  filled : ∀ old, stored.Clashes target values old → ∀ column ∈ stored.table.columns,
    stored.table.requires column = true → stored.overlaid target values old column.name ≠ .null
  apart : ∀ old, stored.Clashes target values old → ∀ key ∈ stored.table.keys, ¬target.Perm key →
    ∀ other ∈ stored.rows, other ≠ old → ¬other.Meets key (stored.overlaid target values old)
  free : (¬∃ old, stored.Clashes target values old) → ∀ key ∈ stored.table.keys,
    ¬target.Perm key → ∀ old, ¬stored.Clashes key values old

variable {stored : StoredTable} {target : List String} {values : Record} {old : StoredRow}

/-- The columns that a merge without a list assigns leave the row with the values laid over it. Where
the target itself is assigned, its columns get the values' own, which stand for the same. -/
theorem merged_default (clashes : stored.Clashes target values old)
    (known : ∀ name, values.has name = true → name ∈ stored.table.columnNames) {columns : List String}
    (isColumns : columns = if stored.table.outside target values = [] then target
      else stored.table.outside target values) (name : String) :
    stored.merged columns values old name = stored.overlaid target values old name ∨
      stored.table.outside target values = [] ∧ name ∈ target ∧
        stored.merged columns values old name = stored.proposed values name ∧
        (stored.merged columns values old name).standing? = (old.cell name).standing? ∧
        stored.merged columns values old name ≠ .null := by
  have isOutside : name ∈ stored.table.outside target values ↔
      values.has name = true ∧ name ∉ target := by
    rw [Table.mem_outside_iff]
    exact and_iff_right_of_imp fun given => known name given.1
  unfold overlaid
  by_cases isEmpty : stored.table.outside target values = []
  · rw [if_pos isEmpty] at isColumns
    rw [isEmpty] at isOutside
    subst isColumns
    rw [if_neg fun given => List.not_mem_nil (isOutside.2 given)]
    by_cases inTarget : name ∈ columns
    · refine .inr ⟨isEmpty, inTarget, if_pos inTarget, clashes.standing_merged columns inTarget,
        fun isNull => ?_⟩
      obtain ⟨scalar, _, inOld⟩ := clashes.2 name inTarget
      rw [← clashes.standing_merged columns inTarget, isNull] at inOld
      cases inOld
    · left
      unfold merged
      rw [if_neg inTarget]
  · rw [if_neg isEmpty] at isColumns
    left
    unfold merged
    rw [isColumns]
    exact if_congr isOutside rfl rfl

/-- What a merge without a list makes of a row obeys the constraints if the row with the values laid
over it does. -/
theorem MergeFits.merged (fits : stored.MergeFits target values)
    (clashes : stored.Clashes target values old)
    (known : ∀ name, values.has name = true → name ∈ stored.table.columnNames) {columns : List String}
    (isColumns : columns = if stored.table.outside target values = [] then target
      else stored.table.outside target values) :
    (∀ column ∈ stored.table.columns, stored.table.requires column = true →
      stored.merged columns values old column.name ≠ .null) ∧
    ∀ key ∈ stored.table.keys, ¬target.Perm key → ∀ other ∈ stored.rows, other ≠ old →
      ¬other.Meets key (stored.merged columns values old) := by
  have isMerged := merged_default clashes known isColumns
  constructor
  · intro column isColumn required
    rcases isMerged column.name with same | ⟨_, _, _, _, notNull⟩
    · rw [same]
      exact fits.filled old clashes column isColumn required
    · exact notNull
  · intro key isKey notTarget other isOther differs meets
    refine fits.apart old clashes key isKey notTarget other isOther differs fun name inKey => ?_
    obtain ⟨scalar, stands, inOther⟩ := meets name inKey
    refine ⟨scalar, ?_, inOther⟩
    rcases isMerged name with same | ⟨_, inTarget, _, same, _⟩
    · rw [← same]
      exact stands
    · unfold overlaid
      rw [if_neg fun given => given.2 inTarget, ← same]
      exact stands

end StoredTable

namespace Repository

open Database

/-- Whether a merge without a list is an exact upsert, for a call that asks for its row. -/
structure UpsertsExactly (registry : Registry) (entity : Entity) (config : Config)
    (database : Database) (values : Record) (policy : ConflictPolicy) (target : List String) :
    Prop where
  assigned : ∃ compiled columns,
    CompiledInsert.compile entity.table [values] .sqlite (some policy) (some true) = .ok compiled ∧
      compiled.statement.conflict = .overwriteOn target columns ∧ columns ≠ [] ∧
      (entity.table.outside target values ≠ [] → columns = entity.table.outside target values)
  replaced : ∀ old, (entity.table.among database.store.tables).Clashes target values old →
    ∃ new after,
      outcome ((handing registry entity config true).insert values (some policy)) database =
        (.ok (some (new.handed entity.table)), after) ∧
      Replaces entity.table database.store.tables after old new ∧
      ∀ name, new.cell name =
          (entity.table.among database.store.tables).overlaid target values old name ∨
        entity.table.outside target values = [] ∧ name ∈ target ∧
          new.cell name = (entity.table.among database.store.tables).proposed values name ∧
          (new.cell name).standing? = (old.cell name).standing?
  added : (¬∃ old, (entity.table.among database.store.tables).Clashes target values old) →
    ∃ new after,
      outcome ((handing registry entity config true).insert values (some policy)) database =
        (.ok (some (new.handed entity.table)), after) ∧
      Gains entity.table database.store.tables after [new] ∧
      ∀ name, new.cell name =
        (entity.table.among database.store.tables).proposed values name

section

variable {registry : Registry} {name : String} {entity : Entity} {config : Config}
variable {database : Database} {values : Record} {policy : ConflictPolicy} {target : List String}

/-- A call that asks for its row gives the one that it has touched. -/
theorem outcome_of_touched (closed : database.transaction = none) (offers : entity.Offers values)
    {policy : Option ConflictPolicy} {compiled : CompiledInsert} {store : Store} {hit : StoredRow}
    (carries : Carries entity.table values policy database.store compiled store [hit]) :
    outcome ((handing registry entity config true).insert values policy) database =
      (.ok (some (hit.handed entity.table)), store.tables) := by
  obtain ⟨isTable, _⟩ := CompiledInsert.statement_of_compile carries.compiles
  have isReturned : returned compiled values store [hit] true =
      .ok (some (hit.handed entity.table)) := by
    rw [← isTable]
    rfl
  rw [outcome_of_carries closed offers.values_eq carries, isReturned]
  rfl

/-- What a merge without a list assigns: the columns outside the target, or the target itself. -/
theorem clause_of_default (offers : entity.Offers values) (merges : policy.action = .merge)
    (unlisted : policy.merge = none) (isTarget : policy.targetColumns entity.table = .ok target)
    (isKey : ∃ key ∈ entity.table.keys, target.Perm key) :
    ∃ columns, CompiledInsert.clause entity.table [values] .sqlite (some policy) =
        .ok (.overwriteOn target columns) ∧ columns ≠ [] ∧
      columns = if entity.table.outside target values = [] then target
        else entity.table.outside target values := by
  obtain ⟨key, isMember, perm⟩ := isKey
  obtain ⟨keyNonempty, keyColumns⟩ := Table.key_columns isMember
  have isDefault : CompiledInsert.mergeColumns entity.table [values] policy target =
      if entity.table.outside target values = [] then target
      else entity.table.outside target values :=
    CompiledInsert.mergeColumns_of_default unlisted
  have nonempty : CompiledInsert.mergeColumns entity.table [values] policy target ≠ [] := by
    rw [isDefault]
    split
    · rintro rfl
      exact keyNonempty (List.nil_perm.1 perm)
    · assumption
  have inTable : ∀ name ∈ CompiledInsert.mergeColumns entity.table [values] policy target,
      name ∈ entity.table.columnNames := by
    intro name member
    rw [isDefault] at member
    split at member
    · exact keyColumns name (perm.mem_iff.1 member)
    · exact (Table.mem_outside_iff.1 member).1
  exact ⟨_, CompiledInsert.clause_merge offers.known merges isTarget
    (CompiledInsert.checkMerge_eq_ok nonempty inTable), nonempty, isDefault⟩

variable (reachable : registry.Reachable) (isEntity : registry.entity name = .ok entity)
  (closed : database.transaction = none) (sound : database.Sound registry.schema)
  (distinct : entity.table.columnNames.Nodup) (offers : entity.Offers values)
  {columns : List String} (isClause : CompiledInsert.clause entity.table [values] .sqlite
    (some policy) = .ok (.overwriteOn target columns))
  (isKey : ∃ key ∈ entity.table.keys, target.Perm key)

include reachable isEntity closed sound distinct offers isClause isKey

variable (config) in
/-- A row that collides is replaced by the merged one if that obeys the constraints. -/
theorem outcome_of_merged (shaped : database.Shaped) {old : StoredRow}
    (clashes : (entity.table.among database.store.tables).Clashes target values old)
    (filled : ∀ column ∈ entity.table.columns, entity.table.requires column = true →
      (entity.table.among database.store.tables).merged columns values old column.name ≠ .null)
    (apart : ∀ key ∈ entity.table.keys, ¬target.Perm key →
      ∀ other ∈ (entity.table.among database.store.tables).rows, other ≠ old →
        ¬other.Meets key ((entity.table.among database.store.tables).merged columns values old)) :
    ∃ new after,
      outcome ((handing registry entity config true).insert values (some policy)) database =
        (.ok (some (new.handed entity.table)), after) ∧
      Replaces entity.table database.store.tables after old new ∧
      ∀ name, new.cell name =
        (entity.table.among database.store.tables).merged columns values old name := by
  obtain ⟨store, new, inserted, replaces, isMerged⟩ :=
    Insert.insertOne_merged (.ofRow entity.table values (.overwriteOn target columns))
      sound.tables (inSchema_of_entity reachable isEntity) shaped.tables rfl isKey clashes
      filled apart offers.admitted
  obtain ⟨compiled, _, _, carries⟩ := offers.carries isClause (.inr ⟨columns, rfl⟩)
    ((Table.isKey_iff distinct).2 isKey) inserted
  exact ⟨new, store.tables, outcome_of_touched closed offers carries, replaces, isMerged⟩

/-- Values that collide with nothing are added. -/
theorem outcome_of_added (free : ∀ key ∈ entity.table.keys, ∀ old,
      ¬(entity.table.among database.store.tables).Clashes key values old) :
    ∃ new after,
      outcome ((handing registry entity config true).insert values (some policy)) database =
        (.ok (some (new.handed entity.table)), after) ∧
      Gains entity.table database.store.tables after [new] ∧
      ∀ name, new.cell name =
        (entity.table.among database.store.tables).proposed values name := by
  obtain ⟨store, new, inserted, gains, isProposed⟩ :=
    Insert.insertOne_added (.ofRow entity.table values (.overwriteOn target columns))
      sound.tables (inSchema_of_entity reachable isEntity) (.inr ⟨columns, rfl⟩) isKey
      offers.admitted free
  obtain ⟨compiled, _, _, carries⟩ := offers.carries isClause (.inr ⟨columns, rfl⟩)
    ((Table.isKey_iff distinct).2 isKey) inserted
  exact ⟨new, store.tables, outcome_of_touched closed offers carries, gains, isProposed⟩

end

/-- A merge without a list is an upsert: the row that collides gets the values outside the target, or
else the values are added, and the row is given. Values that are needed must be given in both
cases. -/
theorem merge_upserts {registry : Registry} (reachable : registry.Reachable) {name : String}
    {entity : Entity} (isEntity : registry.entity name = .ok entity) (config : Config)
    {database : Database} (closed : database.transaction = none)
    (sound : database.Sound registry.schema) (shaped : database.Shaped)
    (distinct : entity.table.columnNames.Nodup) {values : Record} (offers : entity.Offers values)
    {policy : ConflictPolicy} (merges : policy.action = .merge) (unlisted : policy.merge = none)
    {target : List String} (isTarget : policy.targetColumns entity.table = .ok target)
    (isKey : ∃ key ∈ entity.table.keys, target.Perm key)
    (fits : (entity.table.among database.store.tables).MergeFits target values) :
    UpsertsExactly registry entity config database values policy target := by
  have isStored : (entity.table.among database.store.tables).table = entity.table :=
    Store.table_tableOf sound.tables (inSchema_of_entity reachable isEntity)
  obtain ⟨columns, isClause, nonempty, isDefault⟩ :=
    clause_of_default offers merges unlisted isTarget isKey
  refine ⟨?_, fun old clashes => ?_, fun apart => ?_⟩
  · rw [CompiledInsert.compile_eq, isClause]
    refine ⟨_, columns, rfl, rfl, nonempty, fun isOutside => ?_⟩
    rw [isDefault, if_neg isOutside]
  · have known : ∀ name, values.has name = true →
        name ∈ (entity.table.among database.store.tables).table.columnNames := by
      rw [isStored]
      exact fun name => offers.mem_columnNames
    rw [← isStored] at isDefault
    have isMerged := StoredTable.merged_default clashes known isDefault
    obtain ⟨filled, apart⟩ := fits.merged clashes known isDefault
    rw [isStored] at isMerged filled apart
    obtain ⟨new, after, isOutcome, replaces, isNew⟩ := outcome_of_merged config
      reachable isEntity closed sound distinct offers isClause isKey shaped clashes filled apart
    refine ⟨new, after, isOutcome, replaces, fun name => ?_⟩
    rw [isNew]
    exact (isMerged name).imp_right fun ⟨isEmpty, inTarget, isProposed, same, _⟩ =>
      ⟨isEmpty, inTarget, isProposed, same⟩
  · have others := fits.free apart
    rw [isStored] at others
    exact outcome_of_added reachable isEntity closed sound distinct offers isClause isKey
      (StoredTable.free_of_apart apart others)

end Repository

/-! ## Customers of a shop -/

namespace Shop

open Repository Database StoredTable

def customerTable : Table where
  name := "customer"
  columns := [
    { name := "code", type := .string, primaryKey := true },
    { name := "full_name", type := .string, nullable := false },
    { name := "vip", type := .boolean },
    { name := "credit", type := .float },
    { name := "meta", type := .json }]

def customer : Entity where
  name := "customer"
  table := customerTable
  key := { name := "code", type := .string, primaryKey := true }
  relations := []

def registry : Registry where
  schema := [customerTable]
  entities := [customer]
  frozen := true

theorem registry_reachable : registry.Reachable := by
  have registered : Registry.register { schema := [customerTable] } "customer" [] =
      .ok { schema := [customerTable], entities := [customer] } := rfl
  have frozen : Registry.freeze { schema := [customerTable], entities := [customer] } =
      .ok registry := rfl
  exact .freeze (.register (.start [customerTable]) registered) frozen

def ann : StoredRow where
  number := 1
  cells := [("code", .text "a"), ("full_name", .text "Ann"), ("vip", .null), ("credit", .null),
    ("meta", .null)]

def database : Database where
  store := { tables := [{ table := customerTable, rows := [ann] }], lastNumber := 1 }

theorem database_sound : database.Sound registry.schema where
  tables := by
    have isTable : registry.schema.table? customerTable.name = some customerTable := rfl
    have inserted : Insert.insertAll ⟨customerTable, [], .nothing, false⟩
        (Store.empty registry.schema) [[("code", .text "a"), ("full_name", .text "Ann")]] =
          .ok (database.store, [ann]) := rfl
    exact Insert.sound_insertAll isTable (Store.sound_empty registry.schema) inserted
  saved := nofun

theorem database_shaped : database.Shaped where
  tables := by
    intro stored member
    rw [List.mem_singleton.1 member]
    intro row isRow
    rw [List.mem_singleton.1 isRow]
    rfl
  saved := nofun

/-- Merges on the code, which is the primary key. -/
def mergeOnKey : ConflictPolicy := .mergeOn [] none

/-- A merge of values on the code obeys the constraints if the customer keeps a name. -/
theorem mergeFits {values : Record} (named : overlaid (customerTable.among database.store.tables)
    ["code"] values ann "full_name" ≠ .null) :
    (customerTable.among database.store.tables).MergeFits ["code"] values := by
  have onlyAnn : ∀ old ∈ (customerTable.among database.store.tables).rows, old = ann :=
    fun old member => List.mem_singleton.1 member
  have onlyCode : ∀ key ∈ customerTable.keys, ¬["code"].Perm key → False := by
    intro key isKey notTarget
    rw [List.mem_singleton.1 (show key ∈ [["code"]] from isKey)] at notTarget
    exact notTarget (.refl _)
  refine ⟨fun old clashes column isColumn required => ?_, fun _ _ key isKey notTarget => ?_,
    fun _ key isKey notTarget => ?_⟩
  · rw [onlyAnn old clashes.1]
    change column ∈ customerTable.columns at isColumn
    simp only [customerTable, List.mem_cons, List.not_mem_nil, or_false] at isColumn
    rcases isColumn with rfl | rfl | rfl | rfl | rfl
    · unfold overlaid
      rw [if_neg fun given => given.2 (List.mem_singleton_self _)]
      exact nofun
    · exact named
    all_goals exact absurd required (by decide)
  · exact (onlyCode key isKey notTarget).elim
  · exact (onlyCode key isKey notTarget).elim

theorem clashes_with_ann {values : Record} (isCode : values.get? "code" = some (.text "a")) :
    (customerTable.among database.store.tables).Clashes ["code"] values ann := by
  refine ⟨List.mem_singleton_self _, fun name member => ?_⟩
  rw [List.mem_singleton.1 member]
  refine ⟨.text "a", ?_, rfl⟩
  unfold Table.given
  rw [isCode]
  rfl

def renamed : Record := [("code", .text "a"), ("full_name", .text "Anna")]

theorem renamed_offers : customer.Offers renamed where
  nonempty := List.cons_ne_nil _ _
  known := by decide
  taken := by
    intro column isColumn has
    simp only [customer, customerTable, List.mem_cons, List.not_mem_nil, or_false] at isColumn
    rcases isColumn with rfl | rfl | rfl | rfl | rfl
    · exact ⟨_, rfl, rfl⟩
    · exact ⟨_, rfl, rfl⟩
    all_goals exact absurd has (by decide)
  admitted := by
    refine ⟨fun _ impossible => (nomatch impossible), fun column isColumn required => ?_⟩
    simp only [customer, customerTable, List.mem_cons, List.not_mem_nil, or_false] at isColumn
    rcases isColumn with rfl | rfl | rfl | rfl | rfl
    · exact nofun
    · exact nofun
    all_goals exact absurd required (by decide)

/-- A customer is renamed by a merge that gives the name. -/
theorem customer_renamed :
    UpsertsExactly registry customer {} database renamed mergeOnKey ["code"] := by
  have isCustomer : registry.entity "customer" = .ok customer := rfl
  exact merge_upserts registry_reachable isCustomer {} rfl database_sound database_shaped (by decide)
    renamed_offers rfl rfl rfl ⟨["code"], by decide, .refl _⟩ (mergeFits nofun)

def promoted : Record := [("code", .text "a"), ("vip", .bool true)]

/-- A customer is not promoted by a merge that does not give the name, although the customer has
one: the name is missed before the collision is seen. -/
theorem customer_not_promoted :
    (CompiledInsert.compile customerTable [promoted] .sqlite (some mergeOnKey) none).isOk = true ∧
      (customerTable.among database.store.tables).Clashes ["code"] promoted ann ∧
      (customerTable.among database.store.tables).MergeFits ["code"] promoted ∧
      ¬UpsertsExactly registry customer {} database promoted mergeOnKey ["code"] := by
  have clashes : (customerTable.among database.store.tables).Clashes ["code"] promoted ann :=
    clashes_with_ann rfl
  refine ⟨rfl, clashes, mergeFits nofun, fun exactly => ?_⟩
  obtain ⟨new, after, isOutcome, _⟩ := exactly.replaced ann clashes
  have refused : ¬∃ compiled store touched, columnValues customer promoted = .ok promoted ∧
      Carries customerTable promoted (some mergeOnKey) database.store compiled store touched := by
    rintro ⟨compiled, store, touched, _, carries⟩
    cases carries.compiles
    cases carries.settles.inserted
  obtain ⟨failure, fails⟩ := @outcome_of_not_carries registry customer {} promoted
    (some mergeOnKey) database rfl refused true
  cases fails.symm.trans isOutcome

end Shop

end RecordGraph

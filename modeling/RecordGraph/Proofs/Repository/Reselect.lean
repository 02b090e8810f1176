import RecordGraph.Proofs.Repository.Handing
import RecordGraph.Proofs.Schema.Reachable
import RecordGraph.Proofs.Store.Handed
import RecordGraph.Proofs.Store.Lookup

/-!
Contract: two ways of handing back the row of an insert.

Owns: `InsertAgrees`, when the row that is selected anew reads like the one that the insert has
touched, and that both ways agree exactly then.
Does not own: inserts of several rows.
-/

namespace RecordGraph

open RecordGraph.Sql

/-! ## Agreement -/

namespace Repository

open Database

/-- Whether two results are the same row, are both nothing, or are both an error. -/
def SameResult : Except Error (Option Record) → Except Error (Option Record) → Prop
  | .ok (some left), .ok (some right) => left.Alike right
  | .ok none, .ok none => True
  | .error _, .error _ => True
  | _, _ => False

/-- Whether an insert ends in the same stored state and with the same result, whether or not it asks
for its row. -/
def InsertAgrees (registry : Registry) (entity : Entity) (config : Config) (database : Database)
    (values : Record) (policy : Option ConflictPolicy) : Prop :=
  let asked := outcome ((handing registry entity config true).insert values policy) database
  let reselected := outcome ((handing registry entity config false).insert values policy) database
  SameResult asked.1 reselected.1 ∧ asked.2 = reselected.2

/-- Whether the insert of a row is carried out, what it leaves, and the row that it touches. -/
def Touches (entity : Entity) (values : Record) (policy : Option ConflictPolicy)
    (store store' : Store) (hit : StoredRow) : Prop :=
  columnValues entity values = .ok values ∧
    ∃ compiled, Carries entity.table values policy store compiled store' [hit]

/-- The key by which the row is selected anew: the given one, or the one that the store reports. -/
def soughtKey (entity : Entity) (values : Record) (store : Store) : Value :=
  let given := values.getD entity.key.name
  if given.isNull then
    if entity.table.generatedKey?.isSome then .int store.lastNumber else .null
  else given

/-- Whether a row is found again: the key that is looked for can be asked for, and the row that has
it reads like the one that was touched. -/
def FoundAgain (entity : Entity) (values : Record) (store : Store) (hit : StoredRow) : Prop :=
  let key := soughtKey entity values store
  Accepts (.select (.byKey entity.table entity.key key)) ∧
    ∃ row ∈ (store.tableOf entity.table).rows, row.HasKey entity.key key ∧
      Record.Alike (hit.handed entity.table) (row.read entity.table)

theorem carries_unique {table : Table} {values : Record} {policy : Option ConflictPolicy}
    {store store' store'' : Store} {compiled compiled' : CompiledInsert}
    {touched touched' : List StoredRow}
    (left : Carries table values policy store compiled store' touched)
    (right : Carries table values policy store compiled' store'' touched') :
    store' = store'' ∧ touched = touched' := by
  cases left.compiles.symm.trans right.compiles
  cases left.settles.inserted.symm.trans right.settles.inserted
  exact ⟨rfl, rfl⟩

theorem reselection_eq {entity : Entity} {values : Record} {insert : Insert}
    (isTable : insert.table = entity.table) (isSingle : insert.rows = [values])
    (isKey : entity.table.primaryKeys = [entity.key]) (store : Store) :
    reselection insert values store =
      .byKey entity.table entity.key (soughtKey entity values store) := by
  have isSought : (if (values.getD entity.key.name).isNull
      then ((insert.reportedKey store)[0]?).getD .null else values.getD entity.key.name) =
        soughtKey entity values store := by
    unfold soughtKey
    dsimp only
    by_cases isNull : (values.getD entity.key.name).isNull = true
    · rw [if_pos isNull, if_pos isNull]
      unfold Insert.reportedKey
      rw [isTable, isSingle]
      dsimp only [List.headD]
      have isGenerated : entity.table.generatedKey? = none ∨
          entity.table.generatedKey? = some entity.key := by
        unfold Table.generatedKey? Table.numberedKey?
        rw [isKey]
        by_cases isInteger : entity.key.type = .integer
        · by_cases isFree : entity.key.references.isNone = true
          · simp [isInteger, isFree, Option.filter]
          · simp [isInteger, isFree, Option.filter]
        · simp [isInteger]
      rcases isGenerated with isNone | isSome
      · rw [isNone]
        simp [Table.keyNames, isKey, Value.isNull_iff.1 isNull]
      · rw [isSome]
        simp [isNull]
    · rw [if_neg isNull, if_neg isNull]
  unfold reselection Executor.reselect Select.byKey
  rw [isTable, isKey]
  dsimp only [Executor.keyConditions]
  rw [isSought]

theorem one_of_nil (contract : ReturnContract) :
    SameResult (contract.one []) (contract.one []) := by
  unfold ReturnContract.one
  dsimp only
  split <;> trivial

/-- What is selected anew is a row that has the key. -/
theorem reselected_eq_some_iff {entity : Entity} {values : Record} {insert : Insert}
    (isTable : insert.table = entity.table) (isSingle : insert.rows = [values])
    (isKey : entity.table.primaryKeys = [entity.key]) {schema : Schema} {store : Store}
    (sound : SoundTables schema store.tables)
    (inSchema : schema.table? entity.table.name = some entity.table) (record : Record) :
    reselected insert values store = .ok (some record) ↔
      Accepts (.select (.byKey entity.table entity.key (soughtKey entity values store))) ∧
        ∃ row ∈ (store.tableOf entity.table).rows,
          row.HasKey entity.key (soughtKey entity values store) ∧
            row.read entity.table = record := by
  have isFound := Select.head?_byKey sound inSchema isKey (soughtKey entity values store) record
  unfold reselected
  rw [reselection_eq isTable isSingle isKey]
  generalize soughtKey entity values store = key at isFound ⊢
  have isAnswer : ∀ outcome,
      answer (.select (.byKey entity.table entity.key key)) store = .ok outcome ↔
        Accepts (.select (.byKey entity.table entity.key key)) ∧
          (store, { rows := (Select.byKey entity.table entity.key key).evaluate store }) = outcome := by
    intro outcome
    rw [answer_eq_ok_iff]
    exact ⟨fun ⟨accepted, _, evaluated, _⟩ => ⟨accepted, Except.ok.inj evaluated⟩,
      fun ⟨accepted, same⟩ => ⟨accepted, rfl, congrArg Except.ok same, rfl⟩⟩
  cases answered : answer (.select (.byKey entity.table entity.key key)) store with
  | error refusal =>
      refine iff_of_false nofun fun found => ?_
      have isOk := (isAnswer _).2 ⟨found.1, rfl⟩
      rw [answered] at isOk
      cases isOk
  | ok outcome =>
      rcases (isAnswer outcome).1 answered with ⟨accepted, rfl⟩
      dsimp only
      rw [and_iff_right accepted, Except.ok.injEq]
      exact isFound

theorem returned_eq_some_iff {compiled : CompiledInsert} {values : Record} {store : Store}
    (hit : StoredRow) {record : Record} :
    returned compiled values store [hit] false = .ok (some record) ↔
      reselected compiled.statement values store = .ok (some record) := by
  change (reselected compiled.statement values store).map Option.toList >>=
    compiled.contract.one = _ ↔ _
  cases reselected compiled.statement values store with
  | error failure => exact iff_of_false nofun nofun
  | ok found =>
      cases found with
      | none =>
          refine iff_of_false ?_ nofun
          change compiled.contract.one [] ≠ _
          unfold ReturnContract.one
          dsimp only
          split <;> exact nofun
      | some other =>
          change Except.ok (some other) = _ ↔ _
          exact Iff.rfl

/-! ## Both ways -/

section

variable {registry : Registry} {name : String} {entity : Entity} {config : Config}
variable {database : Database} {values : Record} {policy : Option ConflictPolicy}

theorem inSchema_of_entity (reachable : registry.Reachable)
    (isEntity : registry.entity name = .ok entity) :
    registry.schema.table? entity.table.name = some entity.table := by
  have agrees := reachable.consistent.agrees entity (Registry.entity_eq_ok isEntity).1
  have isNamed : entity.table.name = entity.name := by
    simpa [Schema.table?] using List.find?_some agrees.table
  rw [isNamed]
  exact agrees.table

/-- An insert that is not carried out fails both ways. -/
theorem agrees_of_not_carries (closed : database.transaction = none)
    (refused : ¬∃ compiled store touched, columnValues entity values = .ok values ∧
      Carries entity.table values policy database.store compiled store touched) :
    InsertAgrees registry entity config database values policy := by
  rcases @outcome_of_not_carries registry entity config _ _ _ closed refused true with
    ⟨failure, isOutcome⟩
  rcases @outcome_of_not_carries registry entity config _ _ _ closed refused false with
    ⟨failure', isOutcome'⟩
  unfold InsertAgrees
  dsimp only
  rw [isOutcome, isOutcome']
  exact ⟨trivial, rfl⟩

/-- An insert that touches no row ends alike both ways. -/
theorem agrees_of_untouched (closed : database.transaction = none)
    (taken : columnValues entity values = .ok values) {compiled : CompiledInsert} {store : Store}
    (carries : Carries entity.table values policy database.store compiled store []) :
    InsertAgrees registry entity config database values policy := by
  unfold InsertAgrees
  dsimp only
  rw [outcome_of_carries closed taken carries true, outcome_of_carries closed taken carries false]
  exact ⟨one_of_nil _, rfl⟩

/-- An insert that touches a row ends alike both ways if and only if the row is found again. -/
theorem agrees_iff_of_touched (reachable : registry.Reachable)
    (isEntity : registry.entity name = .ok entity) (closed : database.transaction = none)
    (sound : database.Sound registry.schema) (taken : columnValues entity values = .ok values)
    {compiled : CompiledInsert} {store : Store} {hit : StoredRow}
    (carries : Carries entity.table values policy database.store compiled store [hit]) :
    InsertAgrees registry entity config database values policy ↔
      FoundAgain entity values store hit := by
  have agrees := reachable.consistent.agrees entity (Registry.entity_eq_ok isEntity).1
  have inSchema := inSchema_of_entity reachable isEntity
  rcases CompiledInsert.statement_of_compile carries.compiles with ⟨isTable, isSingle, _⟩
  have storeSound : SoundTables registry.schema store.tables :=
    Insert.sound_insertAll (by rw [isTable]; exact inSchema) sound.tables carries.settles.inserted
  have isFound := reselected_eq_some_iff isTable isSingle agrees.key storeSound inSchema
  have isHanded : returned compiled values store [hit] true =
      .ok (some (hit.handed entity.table)) := by
    rw [← isTable]
    rfl
  unfold InsertAgrees
  dsimp only
  rw [outcome_of_carries closed taken carries true, outcome_of_carries closed taken carries false,
    isHanded]
  constructor
  · rintro ⟨sameResult, _⟩
    cases isReturned : returned compiled values store [hit] false with
    | error failure =>
        rw [isReturned] at sameResult
        cases sameResult
    | ok found =>
        rw [isReturned] at sameResult
        cases found with
        | none => cases sameResult
        | some record =>
            rcases (isFound record).1 ((returned_eq_some_iff hit).1 isReturned) with
              ⟨accepted, row, member, hasKey, isRead⟩
            refine ⟨accepted, row, member, hasKey, ?_⟩
            rw [isRead]
            exact sameResult
  · rintro ⟨accepted, row, member, hasKey, alike⟩
    have isReturned := (returned_eq_some_iff hit).2
      ((isFound (row.read entity.table)).2 ⟨accepted, row, member, hasKey, rfl⟩)
    rw [isReturned]
    exact ⟨alike, rfl⟩

/-- An insert ends alike both ways if the row that it touches, if any, is found again. -/
theorem agrees_of_found (reachable : registry.Reachable)
    (isEntity : registry.entity name = .ok entity) (closed : database.transaction = none)
    (sound : database.Sound registry.schema)
    (found : ∀ store hit, Touches entity values policy database.store store hit →
      FoundAgain entity values store hit) :
    InsertAgrees registry entity config database values policy := by
  by_cases carried : ∃ compiled store touched, columnValues entity values = .ok values ∧
      Carries entity.table values policy database.store compiled store touched
  · rcases carried with ⟨compiled, store, touched, taken, carries⟩
    have isSingle := (CompiledInsert.statement_of_compile carries.compiles).2.1
    rcases carries.settles.single isSingle with ⟨_, touchedOne, _, _, rfl⟩
    cases touchedOne with
    | none => exact agrees_of_untouched closed taken carries
    | some hit =>
        exact (agrees_iff_of_touched reachable isEntity closed sound taken carries).2
          (found store hit ⟨taken, compiled, carries⟩)
  · exact agrees_of_not_carries closed carried

end

/-- An insert of one row ends in the same stored state and with the same result, whether it asks for
its row or selects it anew, if and only if the row that it touches, if any, is found again by the key
that is given or reported. -/
theorem insert_agrees_iff {registry : Registry} (reachable : registry.Reachable) {name : String}
    {entity : Entity} (isEntity : registry.entity name = .ok entity) (config : Config)
    {database : Database} (closed : database.transaction = none)
    (sound : database.Sound registry.schema) (values : Record) (policy : Option ConflictPolicy) :
    InsertAgrees registry entity config database values policy ↔
      ∀ store hit, Touches entity values policy database.store store hit →
        FoundAgain entity values store hit := by
  constructor
  · intro agrees store hit touches
    rcases touches with ⟨taken, compiled, carries⟩
    exact (agrees_iff_of_touched reachable isEntity closed sound taken carries).1 agrees
  · exact agrees_of_found reachable isEntity closed sound

end Repository

/-! ## Labels of a catalogue -/

namespace Catalogue

open Repository

def labelTable : Table where
  name := "label"
  columns := [
    { name := "id", type := .integer, primaryKey := true },
    { name := "slug", type := .string, unique := true },
    { name := "weight", type := .integer }]

def label : Entity where
  name := "label"
  table := labelTable
  key := { name := "id", type := .integer, primaryKey := true }
  relations := []

def registry : Registry where
  schema := [labelTable]
  entities := [label]
  frozen := true

theorem registry_reachable : registry.Reachable := by
  have registered : Registry.register { schema := [labelTable] } "label" [] =
      .ok { schema := [labelTable], entities := [label] } := rfl
  have frozen : Registry.freeze { schema := [labelTable], entities := [label] } =
      .ok registry := rfl
  exact .freeze (.register (.start [labelTable]) registered) frozen

def labelled (slug : String) (weight : Int) : Record :=
  [("slug", .text slug), ("weight", .int weight)]

def row (number : Int) (slug : String) (weight : Int) : StoredRow where
  number
  cells := [("id", .int number), ("slug", .text slug), ("weight", .int weight)]

/-- Two labels, the second of which was inserted last. -/
def database : Database where
  store := {
    tables := [{ table := labelTable, rows := [row 1 "a" 1, row 2 "b" 2] }]
    lastNumber := 2 }

theorem database_sound : database.Sound registry.schema where
  tables := by
    have isTable : registry.schema.table? labelTable.name = some labelTable := rfl
    have inserted : Insert.insertAll ⟨labelTable, [], .nothing, false⟩
        (Store.empty registry.schema) [labelled "a" 1, labelled "b" 2] =
          .ok (database.store, [row 1 "a" 1, row 2 "b" 2]) := rfl
    exact Insert.sound_insertAll isTable (Store.sound_empty registry.schema) inserted
  saved := nofun

/-- The first label is merged into, while the second one was inserted last. -/
def mergeOnSlug : ConflictPolicy := .mergeOn ["slug"] none

theorem carries_merged : ∃ compiled, Carries labelTable (labelled "a" 3) (some mergeOnSlug)
    database.store compiled
    { tables := [{ table := labelTable, rows := [row 1 "a" 3, row 2 "b" 2] }], lastNumber := 2 }
    [row 1 "a" 3] := by
  have bound : ∃ values, Database.boundValues (Insert.render .sqlite ⟨labelTable,
      [labelled "a" 3], .overwriteOn ["slug"] ["weight"], false⟩).parameters = some values ∧
        Database.firstRefusal 1 values = none := ⟨_, rfl, rfl⟩
  exact ⟨_, rfl, Insert.accepts_iff.2 bound, rfl, rfl⟩

/-- The label that is selected anew is the one that was inserted last, not the one that is merged
into. -/
theorem insert_merged_not_agrees :
    (CompiledInsert.compile labelTable [labelled "a" 3] .sqlite (some mergeOnSlug) none).isOk = true ∧
      database.Sound registry.schema ∧
      ¬InsertAgrees registry label {} database (labelled "a" 3) (some mergeOnSlug) := by
  refine ⟨rfl, database_sound, fun agrees => ?_⟩
  have isLabel : registry.entity "label" = .ok label := rfl
  rcases carries_merged with ⟨compiled, carries⟩
  rcases (agrees_iff_of_touched registry_reachable isLabel rfl database_sound rfl carries).1 agrees
    with ⟨_, other, member, ⟨_, scalar, isOther, isSought⟩, alike⟩
  cases isSought
  rcases List.mem_cons.1 member with rfl | member
  · have same : some (Value.Scalar.number (1 : Int)) = some (.number (2 : Int)) := isOther
    simp at same
  · cases List.mem_singleton.1 member
    rcases List.forall₂_cons.1 alike with ⟨⟨_, same | same⟩, _⟩
    · cases same
    · exact absurd same Bool.false_ne_true

def extended : Store where
  tables := [{ table := labelTable, rows := [row 1 "a" 1, row 2 "b" 2, row 3 "c" 3] }]
  lastNumber := 3

theorem carries_added : ∃ compiled, Carries labelTable (labelled "c" 3) none database.store compiled
    extended [row 3 "c" 3] := by
  have bound : ∃ values, Database.boundValues (Insert.render .sqlite ⟨labelTable,
      [labelled "c" 3], .nothing, false⟩).parameters = some values ∧
        Database.firstRefusal 1 values = none := ⟨_, rfl, rfl⟩
  exact ⟨_, rfl, Insert.accepts_iff.2 bound, rfl, rfl⟩

/-- A label that is not yet there is inserted alike both ways. -/
theorem insert_agrees_iff_added : InsertAgrees registry label {} database (labelled "c" 3) none := by
  have isLabel : registry.entity "label" = .ok label := rfl
  refine (insert_agrees_iff registry_reachable isLabel {} rfl database_sound (labelled "c" 3)
    none).2 fun store hit touches => ?_
  rcases touches with ⟨_, compiled, carries⟩
  rcases carries_added with ⟨compiled', carries'⟩
  rcases carries_unique carries carries' with ⟨rfl, isHit⟩
  cases isHit
  refine ⟨?_, row 3 "c" 3, ?_, ⟨rfl, _, rfl, rfl⟩, StoredRow.alike_handed _ _⟩
  · exact ⟨_, _, rfl, rfl, rfl⟩
  · exact List.mem_cons_of_mem _ (List.mem_cons_of_mem _ (List.mem_singleton_self _))

end Catalogue
end RecordGraph

import RecordGraph.Proofs.Repository.Found
import RecordGraph.Proofs.Repository.Missing
import RecordGraph.Proofs.Repository.Offered

/-!
Contract: inserts that ignore collisions.

Owns: `IgnoresCollisions`, what such an insert leaves with and without asking for its row, and that
both of its calls do what they say if and only if a row that is added is found again.
Does not own: policies that merge.
-/

namespace RecordGraph

open RecordGraph.Sql

namespace Repository

open Database

/-- Whether ignoring collisions touches no row that is stored: a call for one row gives nothing, and a
call for a list gives none, exactly where the values collide, and the tables stay as they are then;
otherwise both calls add the row and give it. -/
structure IgnoresCollisions (registry : Registry) (entity : Entity) (config : Config)
    (returning : Bool) (database : Database) (values : Record) (policy : ConflictPolicy)
    (target : List String) : Prop where
  single_iff : (outcome ((handing registry entity config returning).insert values (some policy))
      database).1 = .ok none ↔
    ∃ old, (entity.table.among database.store.tables).Clashes target values old
  listed_iff : (outcome ((handing registry entity config returning).insertReturning [values]
      (some policy)) database).1 = .ok [] ↔
    ∃ old, (entity.table.among database.store.tables).Clashes target values old
  kept : (∃ old, (entity.table.among database.store.tables).Clashes target values old) →
    (outcome ((handing registry entity config returning).insert values (some policy))
      database).2 = database.store.tables ∧
    (outcome ((handing registry entity config returning).insertReturning [values] (some policy))
      database).2 = database.store.tables
  added : (¬∃ old, (entity.table.among database.store.tables).Clashes target values old) →
    ∃ new record after,
      outcome ((handing registry entity config returning).insert values (some policy)) database =
        (.ok (some record), after) ∧
      outcome ((handing registry entity config returning).insertReturning [values] (some policy))
        database = (.ok [record], after) ∧
      Gains entity.table database.store.tables after [new] ∧
      (∀ name, new.cell name =
        (entity.table.among database.store.tables).proposed values name) ∧
      Record.Alike (new.handed entity.table) record

section

variable {registry : Registry} {name : String} {entity : Entity} {config : Config}
variable {database : Database} {values : Record} {policy : ConflictPolicy} {target : List String}

/-- What a row is whose insert is carried out is found again if and only if it is selected anew, and
reads alike. -/
theorem foundAgain_iff (reachable : registry.Reachable)
    (isEntity : registry.entity name = .ok entity) (sound : database.Sound registry.schema)
    {policy : Option ConflictPolicy} {compiled : CompiledInsert} {store : Store} {hit : StoredRow}
    (carries : Carries entity.table values policy database.store compiled store [hit]) :
    FoundAgain entity values store hit ↔
      ∃ record, reselected compiled.statement values store = .ok (some record) ∧
        Record.Alike (hit.handed entity.table) record := by
  have agrees := reachable.consistent.agrees entity (Registry.entity_eq_ok isEntity).1
  have inSchema := inSchema_of_entity reachable isEntity
  obtain ⟨isTable, isSingle, _⟩ := CompiledInsert.statement_of_compile carries.compiles
  have storeSound : SoundTables registry.schema store.tables :=
    Insert.sound_insertAll (by rw [isTable]; exact inSchema) sound.tables carries.settles.inserted
  have isFound := reselected_eq_some_iff isTable isSingle agrees.key storeSound inSchema
  constructor
  · rintro ⟨accepted, row, member, hasKey, alike⟩
    exact ⟨_, (isFound _).2 ⟨accepted, row, member, hasKey, rfl⟩, alike⟩
  · rintro ⟨record, selected, alike⟩
    obtain ⟨accepted, row, member, hasKey, rfl⟩ := (isFound record).1 selected
    exact ⟨accepted, row, member, hasKey, alike⟩

variable (registry config) in
/-- What both calls leave that hand back a row they have added. -/
theorem outcomes_of_delivered (closed : database.transaction = none)
    (taken : columnValues entity values = .ok values) {policy : Option ConflictPolicy}
    {compiled : CompiledInsert} {store : Store} {hit : StoredRow}
    (carries : Carries entity.table values policy database.store compiled store [hit])
    {returning : Bool} {record : Record}
    (isDelivered : delivered compiled.statement values store [hit] returning = .ok [record]) :
    outcome ((handing registry entity config returning).insert values policy) database =
        (.ok (some record), store.tables) ∧
      outcome ((handing registry entity config returning).insertReturning [values] policy) database =
        (.ok [record], store.tables) := by
  have isReturned : returned compiled values store [hit] returning = .ok (some record) := by
    unfold returned
    rw [isDelivered]
    rfl
  rw [outcome_of_carries closed taken carries, outcome_listed registry config closed taken carries,
    isReturned, isDelivered]
  exact ⟨rfl, rfl⟩

variable (reachable : registry.Reachable) (isEntity : registry.entity name = .ok entity)
  (closed : database.transaction = none) (sound : database.Sound registry.schema)
  (distinct : entity.table.columnNames.Nodup) (offers : entity.Offers values)
  (ignores : policy.action = .ignore) (isTarget : policy.targetColumns entity.table = .ok target)
  (isKey : ∃ key ∈ entity.table.keys, target.Perm key)

include reachable isEntity sound distinct offers ignores isTarget isKey

/-- Values that collide are inserted without touching a row. -/
theorem carries_of_clashes {old : StoredRow}
    (clashes : (entity.table.among database.store.tables).Clashes target values old) :
    ∃ compiled, compiled.contract.maySuppress = true ∧
      Carries entity.table values (some policy) database.store compiled database.store [] := by
  have isClause := CompiledInsert.clause_ignore offers.known ignores isTarget
  have dropped := Insert.insertOne_dropped (.ofRow entity.table values (.keepOn target))
    sound.tables (inSchema_of_entity reachable isEntity) rfl isKey offers.admitted clashes
  obtain ⟨compiled, _, maySuppress, carries⟩ :=
    offers.carries isClause (.inl rfl) ((Table.isKey_iff distinct).2 isKey) dropped
  refine ⟨compiled, ?_, carries⟩
  rw [maySuppress]
  simp [ignores]

/-- Values that do not collide are added. -/
theorem carries_of_free (free : ∀ key ∈ entity.table.keys, ∀ old,
      ¬(entity.table.among database.store.tables).Clashes key values old) :
    ∃ compiled store new,
      Carries entity.table values (some policy) database.store compiled store [new] ∧
      Gains entity.table database.store.tables store.tables [new] ∧
      ∀ name, new.cell name =
        (entity.table.among database.store.tables).proposed values name := by
  have isClause := CompiledInsert.clause_ignore offers.known ignores isTarget
  obtain ⟨store, new, inserted, gains, isProposed⟩ :=
    Insert.insertOne_added (.ofRow entity.table values (.keepOn target)) sound.tables
      (inSchema_of_entity reachable isEntity) (.inl rfl) isKey offers.admitted free
  obtain ⟨compiled, _, _, carries⟩ :=
    offers.carries isClause (.inl rfl) ((Table.isKey_iff distinct).2 isKey) inserted
  exact ⟨compiled, store, new, carries, gains, isProposed⟩

variable (config) in
include closed in
/-- Where the values collide, both calls give nothing and change nothing. -/
theorem outcomes_of_clashes {old : StoredRow}
    (clashes : (entity.table.among database.store.tables).Clashes target values old)
    (returning : Bool) :
    outcome ((handing registry entity config returning).insert values (some policy)) database =
        (.ok none, database.store.tables) ∧
      outcome ((handing registry entity config returning).insertReturning [values] (some policy))
        database = (.ok [], database.store.tables) := by
  obtain ⟨compiled, maySuppress, carries⟩ :=
    carries_of_clashes reachable isEntity sound distinct offers ignores isTarget isKey clashes
  have isDelivered : delivered compiled.statement values database.store [] returning = .ok [] := by
    cases returning <;> rfl
  have isReturned : returned compiled values database.store [] returning = .ok none := by
    unfold returned
    rw [isDelivered]
    change compiled.contract.one [] = _
    unfold ReturnContract.one
    dsimp only
    rw [if_pos maySuppress]
    rfl
  rw [outcome_of_carries closed offers.values_eq carries,
    outcome_listed registry config closed offers.values_eq carries, isReturned, isDelivered]
  exact ⟨rfl, rfl⟩

variable (others : ∀ key ∈ entity.table.keys, ¬target.Perm key → ∀ old,
    ¬(entity.table.among database.store.tables).Clashes key values old)

include others

/-- Where the values do not collide on the target they collide with nothing, and are added. -/
theorem carries_of_apart
    (apart : ¬∃ old, (entity.table.among database.store.tables).Clashes target values old) :
    ∃ compiled store new,
      Carries entity.table values (some policy) database.store compiled store [new] ∧
      Gains entity.table database.store.tables store.tables [new] ∧
      ∀ name, new.cell name =
        (entity.table.among database.store.tables).proposed values name := by
  exact carries_of_free reachable isEntity sound distinct offers ignores isTarget isKey
    (StoredTable.free_of_apart apart others)

include closed

theorem found_of_ignores
    (exactly : IgnoresCollisions registry entity config false database values policy target)
    {store : Store} {hit : StoredRow}
    (touches : Touches entity values (some policy) database.store store hit) :
    FoundAgain entity values store hit := by
  obtain ⟨_, compiled, carries⟩ := touches
  by_cases collides : ∃ old, (entity.table.among database.store.tables).Clashes target values old
  · obtain ⟨old, clashes⟩ := collides
    obtain ⟨compiled', _, carries'⟩ :=
      carries_of_clashes reachable isEntity sound distinct offers ignores isTarget isKey clashes
    exact absurd (carries_unique carries carries').2 nofun
  · obtain ⟨compiled', store', new', carries', gains', _⟩ := carries_of_apart reachable isEntity
      sound distinct offers ignores isTarget isKey others collides
    obtain ⟨isStore, isHit⟩ := carries_unique carries carries'
    cases isHit
    obtain ⟨new, record, after, isSingle, _, gains, _, alike⟩ := exactly.added collides
    rw [outcome_of_carries closed offers.values_eq carries] at isSingle
    obtain ⟨isReturned, isAfter⟩ := Prod.mk.inj isSingle
    rw [isReturned] at isAfter
    change store.tables = after at isAfter
    rw [← isAfter, isStore] at gains
    cases gains'.unique gains
    exact (foundAgain_iff reachable isEntity sound carries).2
      ⟨record, (returned_eq_some_iff hit).1 isReturned, alike⟩

theorem ignores_of_found {returning : Bool} (found : returning = false → ∀ store hit,
      Touches entity values (some policy) database.store store hit →
        FoundAgain entity values store hit) :
    IgnoresCollisions registry entity config returning database values policy target := by
  by_cases collides : ∃ old, (entity.table.among database.store.tables).Clashes target values old
  · obtain ⟨old, clashes⟩ := collides
    obtain ⟨isSingle, isListed⟩ := outcomes_of_clashes config reachable isEntity closed
      sound distinct offers ignores isTarget isKey clashes returning
    refine ⟨?_, ?_, fun _ => ?_, fun free => absurd ⟨old, clashes⟩ free⟩
    · rw [isSingle]
      exact iff_of_true rfl ⟨old, clashes⟩
    · rw [isListed]
      exact iff_of_true rfl ⟨old, clashes⟩
    · rw [isSingle, isListed]
      exact ⟨rfl, rfl⟩
  · obtain ⟨compiled, store, new, carries, gains, isProposed⟩ := carries_of_apart reachable isEntity
      sound distinct offers ignores isTarget isKey others collides
    have isDelivered : ∃ record,
        delivered compiled.statement values store [new] returning = .ok [record] ∧
          Record.Alike (new.handed entity.table) record := by
      cases returning with
      | true =>
          obtain ⟨isTable, _⟩ := CompiledInsert.statement_of_compile carries.compiles
          refine ⟨_, rfl, ?_⟩
          rw [← isTable]
          exact .refl _
      | false =>
          obtain ⟨record, selected, alike⟩ := (foundAgain_iff reachable isEntity sound carries).1
            (found rfl store new ⟨offers.values_eq, compiled, carries⟩)
          refine ⟨record, ?_, alike⟩
          unfold delivered
          dsimp only
          rw [selected]
          rfl
    obtain ⟨record, isDelivered, alike⟩ := isDelivered
    obtain ⟨isSingle, isListed⟩ := outcomes_of_delivered registry config
      closed offers.values_eq carries isDelivered
    refine ⟨?_, ?_, fun old => absurd old collides, fun _ => ?_⟩
    · rw [isSingle]
      exact iff_of_false nofun collides
    · rw [isListed]
      exact iff_of_false nofun collides
    · exact ⟨new, record, store.tables, isSingle, isListed, gains, isProposed, alike⟩

/-- Ignoring collisions touches no stored row where a key is given that is stored as it is. -/
theorem ignores_of_given (plain : entity.key.Plain (values.getD entity.key.name))
    (returning : Bool) :
    IgnoresCollisions registry entity config returning database values policy target := by
  refine ignores_of_found reachable isEntity closed sound distinct offers ignores isTarget isKey
    others fun _ store hit touches => ?_
  refine found_of_given reachable isEntity sound distinct plain ?_ touches
  rintro given isGiven merges
  cases isGiven
  exact absurd (ignores.symm.trans merges) nofun

/-- Ignoring collisions touches no stored row where the key is generated. -/
theorem ignores_of_generated (isGenerated : entity.table.generatedKey?.isSome = true)
    (notGiven : values.getD entity.key.name = .null)
    (fits : ∀ store hit, Touches entity values (some policy) database.store store hit →
      Cell.fitsWord store.lastNumber = true) (returning : Bool) :
    IgnoresCollisions registry entity config returning database values policy target := by
  refine ignores_of_found reachable isEntity closed sound distinct offers ignores isTarget isKey
    others fun _ store hit touches => ?_
  refine found_of_generated reachable isEntity sound distinct isGenerated notGiven ?_
    (fits store hit touches) touches
  rintro given isGiven merges
  cases isGiven
  exact absurd (ignores.symm.trans merges) nofun

end

/-- Ignoring collisions touches no stored row, and both calls give the row that is added, if and only
if the row is asked for or found again by its key. -/
theorem ignores_iff_found {registry : Registry} (reachable : registry.Reachable) {name : String}
    {entity : Entity} (isEntity : registry.entity name = .ok entity) (config : Config)
    (returning : Bool) {database : Database} (closed : database.transaction = none)
    (sound : database.Sound registry.schema) (distinct : entity.table.columnNames.Nodup)
    {values : Record} (offers : entity.Offers values) {policy : ConflictPolicy}
    (ignores : policy.action = .ignore) {target : List String}
    (isTarget : policy.targetColumns entity.table = .ok target)
    (isKey : ∃ key ∈ entity.table.keys, target.Perm key)
    (others : ∀ key ∈ entity.table.keys, ¬target.Perm key → ∀ old,
      ¬(entity.table.among database.store.tables).Clashes key values old) :
    IgnoresCollisions registry entity config returning database values policy target ↔
      (returning = false → ∀ store hit,
        Touches entity values (some policy) database.store store hit →
          FoundAgain entity values store hit) := by
  constructor
  · rintro exactly rfl store hit touches
    exact found_of_ignores reachable isEntity closed sound distinct offers ignores isTarget isKey
      others exactly touches
  · intro found
    exact ignores_of_found reachable isEntity closed sound distinct offers ignores isTarget isKey
      others found

end Repository

/-! ## Labels and profiles -/

namespace Catalogue

open Repository

theorem labelled_offers : label.Offers (labelled "c" 3) where
  nonempty := List.cons_ne_nil _ _
  known := by decide
  taken := by
    intro column isColumn has
    simp only [label, labelTable, List.mem_cons, List.not_mem_nil, or_false] at isColumn
    rcases isColumn with rfl | rfl | rfl
    · exact absurd has (by decide)
    · exact ⟨_, rfl, rfl⟩
    · exact ⟨_, rfl, rfl⟩
  admitted := by
    refine ⟨fun key isNumbered => ?_, fun column isColumn required => ?_⟩
    · cases isNumbered
      exact .inl rfl
    · simp only [label, labelTable, List.mem_cons, List.not_mem_nil, or_false] at isColumn
      rcases isColumn with rfl | rfl | rfl
      · exact absurd required (by decide)
      · exact nofun
      · exact nofun

theorem carries_ignoring : ∃ compiled, Carries labelTable (labelled "c" 3)
    (some (.ignore ["slug"])) database.store compiled extended [row 3 "c" 3] := by
  have bound : ∃ values, Database.boundValues (Insert.render .sqlite ⟨labelTable,
      [labelled "c" 3], .keepOn ["slug"], false⟩).parameters = some values ∧
        Database.firstRefusal 1 values = none := ⟨_, rfl, rfl⟩
  exact ⟨_, rfl, Insert.accepts_iff.2 bound, rfl, rfl⟩

/-- A label whose number is generated is added by both calls, without asking for it. -/
theorem label_ignored : IgnoresCollisions registry label {} false database (labelled "c" 3)
    (.ignore ["slug"]) ["slug"] := by
  have isLabel : registry.entity "label" = .ok label := rfl
  refine (ignores_iff_found registry_reachable isLabel {} false rfl database_sound (by decide)
    labelled_offers rfl rfl ⟨["slug"], by decide, .refl _⟩ ?_).2 ?_
  · intro key isKey notTarget old clashes
    have isEither : key ∈ [["id"], ["slug"]] := isKey
    rw [List.mem_pair] at isEither
    rcases isEither with rfl | rfl
    · obtain ⟨scalar, impossible, _⟩ := clashes.2 "id" (List.mem_singleton_self _)
      cases impossible
    · exact notTarget (.refl _)
  · rintro - store hit ⟨_, compiled, carries⟩
    obtain ⟨compiled', carries'⟩ := carries_ignoring
    obtain ⟨rfl, isHit⟩ := carries_unique carries carries'
    cases isHit
    refine ⟨⟨_, _, rfl, rfl, rfl⟩, row 3 "c" 3, ?_, ⟨rfl, _, rfl, rfl⟩, StoredRow.alike_handed _ _⟩
    exact List.mem_cons_of_mem _ (List.mem_cons_of_mem _ (List.mem_singleton_self _))

end Catalogue

namespace Accounts

open Repository

def bio : Record := [("bio", .text "hi")]

theorem bio_offers : profile.Offers bio where
  nonempty := List.cons_ne_nil _ _
  known := by decide
  taken := by
    intro column isColumn has
    simp only [profile, profileTable, List.mem_cons, List.not_mem_nil, or_false] at isColumn
    rcases isColumn with rfl | rfl
    · exact absurd has (by decide)
    · exact ⟨_, rfl, rfl⟩
  admitted := by
    refine ⟨fun key isNumbered => ?_, fun column isColumn required => ?_⟩
    · cases isNumbered
      exact .inl rfl
    · simp only [profile, profileTable, List.mem_cons, List.not_mem_nil, or_false] at isColumn
      rcases isColumn with rfl | rfl
      · exact absurd required (by decide)
      · exact absurd required (by decide)

/-- The profile that is added after the stray one. -/
def added : StoredRow where
  number := 6
  cells := [("id", .int 6), ("bio", .text "hi")]

def addedStore : Store where
  tables := [{ table := userTable, rows := [ann] }, { table := profileTable, rows := [stray, added] }]
  lastNumber := 6

theorem touches_added : Touches profile bio (some (.ignore [])) store addedStore added := by
  have bound : ∃ values, Database.boundValues (Insert.render .sqlite ⟨profileTable,
      [bio], .keepOn ["id"], false⟩).parameters = some values ∧
        Database.firstRefusal 1 values = none := ⟨_, rfl, rfl⟩
  exact ⟨rfl, _, rfl, Insert.accepts_iff.2 bound, rfl, rfl⟩

/-- A profile is added whose key refers to a user and is left to the table. Neither call gives it: it
is looked for without a key. -/
theorem profile_not_given : SoundTables registry.schema store.tables ∧ profile.Offers bio ∧
    (ConflictPolicy.ignore []).targetColumns profile.table = .ok ["id"] ∧
    profile.table.keys = [["id"]] ∧
    ¬IgnoresCollisions registry profile {} false { store } bio (.ignore []) ["id"] := by
  refine ⟨store_sound, bio_offers, rfl, rfl, fun exactly => ?_⟩
  have isProfile : registry.entity "Profile" = .ok profile := rfl
  have others : ∀ key ∈ profile.table.keys, ¬["id"].Perm key → ∀ old,
      ¬(profile.table.among store.tables).Clashes key bio old := by
    intro key isKey notTarget
    rw [List.mem_singleton.1 (show key ∈ [["id"]] from isKey)] at notTarget
    exact absurd (.refl _) notTarget
  have sound : Database.Sound registry.schema { store } := ⟨store_sound, nofun⟩
  obtain ⟨_, row, _, ⟨notNull, _⟩, _⟩ := found_of_ignores registry_reachable isProfile rfl sound
    (by decide) bio_offers rfl rfl ⟨["id"], by decide, .refl _⟩ others exactly touches_added
  cases notNull

end Accounts

end RecordGraph

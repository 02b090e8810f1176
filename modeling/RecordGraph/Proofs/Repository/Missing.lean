import RecordGraph.Proofs.Repository.Reselect
import RecordGraph.Proofs.Repository.Venue
import RecordGraph.Proofs.Store.Rekeyed

/-!
Contract: when the calls on related rows find nothing.

Owns: `RelatedCall`, that such a call gives nothing where a row is missing, and the one call that
gives nothing although it has changed a row.
Does not own: what a call gives that finds its rows, and calls that fail.
-/

namespace RecordGraph

open RecordGraph.Sql

/-- The rows of an entity in stored tables. -/
def Entity.rowsIn (entity : Entity) (tables : List StoredTable) : List StoredRow :=
  (({ tables } : Store).tableOf entity.table).rows

/-- Whether a stored row of an entity has a primary key. -/
def Entity.IsStored (entity : Entity) (tables : List StoredTable) (key : Value) : Prop :=
  ∃ row ∈ entity.rowsIn tables, row.HasKey entity.key key

/-! ## Statements of a unit of work -/

namespace Database

variable {before after : Workplace Database}

/-- A statement that is issued with success was answered. -/
theorem answer_of_issue {statement : Statement} {cursor : Cursor} (opened : Opened control before)
    (ran : Executor.issue session.journaled.inUnit none statement before = (.ok cursor, after)) :
    Opened control after ∧
      answer statement before.world.world.store = .ok (after.world.world.store, cursor) := by
  have isRun := Executor.run_of_issue ran
  have isDone : (run statement before.world.world).1 = .done cursor := congrArg Prod.fst isRun
  have isAfter : after.world.world = (run statement before.world.world).2 :=
    (congrArg (fun outcome => outcome.2.world.world) isRun).symm
  have isHeld : after.holdsSession = before.holdsSession :=
    (congrArg (fun outcome => outcome.2.holdsSession) isRun).symm
  refine ⟨⟨isHeld.trans opened.holds, ?_⟩, ?_⟩
  · rw [isAfter]
    exact (transactional.run statement before.world.world opened.transaction).1
  · have answers := run_answers statement before.world.world
    rw [isDone, ← isAfter] at answers
    cases answered : answer statement before.world.world.store with
    | error refusal =>
        rw [answered] at answers
        cases answers.1
    | ok outcome =>
        rw [answered] at answers
        obtain ⟨isCursor, isStore⟩ := answers
        cases isCursor
        rw [isStore]

end Database

namespace RelatedQuery

open Database

variable {entity : Entity} {before after : Workplace Database} {key : Value}

/-- What is loaded by a key is the row that has it, if there is one. -/
theorem load_eq_ok {schema : Schema} (opened : Opened control before)
    (sound : SoundTables schema before.world.world.store.tables)
    (isTable : schema.table? entity.table.name = some entity.table)
    (isKey : entity.table.primaryKeys = [entity.key]) {found : Option Record}
    (ran : load (unitExecutor session none) entity key before = (.ok found, after)) :
    Opened control after ∧ after.world.world.store = before.world.world.store ∧
      ∀ record, found = some record ↔
        ∃ row ∈ entity.rowsIn before.world.world.store.tables,
          row.HasKey entity.key key ∧ row.read entity.table = record := by
  unfold load at ran
  by_cases isNull : key.isNull = true
  · rw [if_pos isNull] at ran
    cases ran
    refine ⟨opened, rfl, fun record => iff_of_false nofun ?_⟩
    rintro ⟨row, _, ⟨notNull, _⟩, _⟩
    rw [isNull] at notNull
    cases notNull
  · rw [if_neg isNull] at ran
    obtain ⟨cursor, issued, rfl⟩ := Executor.selectOne_eq_ok ran
    obtain ⟨stillOpen, answered⟩ := answer_of_issue opened issued
    have evaluated := (answer_eq_ok_iff.1 answered).2.2.1
    obtain ⟨isStore, rfl⟩ := Prod.mk.inj (Except.ok.inj evaluated)
    exact ⟨stillOpen, isStore.symm, Select.head?_byKey sound isTable isKey key⟩

/-- Nothing is loaded where no row has the key. -/
theorem isStored_of_load {tables : List StoredTable} {found : Option Record}
    (finds : ∀ record, found = some record ↔
      ∃ row ∈ entity.rowsIn tables, row.HasKey entity.key key ∧ row.read entity.table = record) :
    found = none ↔ ¬entity.IsStored tables key := by
  rw [Option.eq_none_iff_forall_ne_some]
  constructor
  · rintro isNone ⟨row, member, hasKey⟩
    exact isNone _ ((finds _).2 ⟨row, member, hasKey, rfl⟩)
  · rintro missing record isSome
    obtain ⟨row, member, hasKey, _⟩ := (finds record).1 isSome
    exact missing ⟨row, member, hasKey⟩

/-- A row whose column is set, and that is loaded by its old key afterwards, is not found if and only
if the column is the key and the new cell does not have the old key. -/
theorem load_after_update {schema : Schema} (opened : Opened control before)
    (sound : SoundTables schema before.world.world.store.tables)
    (isTable : schema.table? entity.table.name = some entity.table)
    (isKey : entity.table.primaryKeys = [entity.key])
    (isStored : entity.IsStored before.world.world.store.tables key) {name : String} {new : Value}
    {found : Option Record}
    (ran : (do
      let _ ← (unitExecutor session none).change
        (.update (Update.byKey entity.table entity.key key name new))
      load (unitExecutor session none) entity key : Action (Workplace Database) (Option Record))
        before = (.ok found, after)) :
    found = none ↔
      entity.key.name = name ∧ ¬entity.key.Finds key (entity.table.stores name new) := by
  obtain ⟨_, middle, changed, ran⟩ := Action.bind_eq_ok.1 ran
  obtain ⟨cursor, issued⟩ := Executor.change_eq_ok changed
  obtain ⟨stillOpen, answered⟩ := answer_of_issue opened issued
  have evaluated := (answer_eq_ok_iff.1 answered).2.2.1
  obtain ⟨old, member, hasKey⟩ := isStored
  have stillSound := Statement.sound_update sound isTable evaluated
  obtain ⟨_, _, finds⟩ := load_eq_ok stillOpen stillSound isTable isKey ran
  rw [isStored_of_load finds]
  have stays := Update.hasKey_after_iff sound isTable isKey member hasKey evaluated
  rw [← Classical.not_imp]
  exact not_congr stays

end RelatedQuery

/-! ## Calls -/

/-- A call on the related rows of an owner. -/
inductive RelatedCall where
  | fetch (filter : Option Filter)
  | insert (values : Record)
  | relate (target : Value)

namespace RelatedCall

/-- The rows that a call gives: those that are related, or the one that it has linked. -/
def perform {σ : Type} (query : RelatedQuery σ) : RelatedCall → Action σ (Option (List Record))
  | .fetch filter => query.fetch filter
  | .insert values => Option.map List.singleton <$> query.insert values
  | .relate target => Option.map List.singleton <$> query.relate target

/-- Whether a row that a call needs is not stored. -/
def Misses {σ : Type} (query : RelatedQuery σ) (tables : List StoredTable) : RelatedCall → Prop
  | .fetch _ | .insert _ => ¬query.repository.entity.IsStored tables query.owner
  | .relate target => ¬query.repository.entity.IsStored tables query.owner ∨
      ¬query.target.IsStored tables target

/-- Whether a call links a target by its own primary key and so gives it another one. -/
inductive Rekeys {σ : Type} (query : RelatedQuery σ) (tables : List StoredTable) :
    RelatedCall → Prop where
  | relate {target : Value} {owner : StoredRow} (isMany : query.relation.kind = .hasMany)
      (isKey : query.relation.targetKey.column = query.target.key.name)
      (isOwner : owner ∈ query.repository.entity.rowsIn tables)
      (hasKey : owner.HasKey query.repository.entity.key query.owner)
      (isTarget : query.target.IsStored tables target)
      (moves : ¬query.target.key.Finds target (query.target.table.stores query.target.key.name
        ((owner.read query.repository.entity.table).getD query.relation.sourceKey.column))) :
      Rekeys query tables (.relate target)

section Relate

variable {σ : Type} {query : RelatedQuery σ} {tables : List StoredTable} {target : Value}

theorem not_misses_relate (isOwner : query.repository.entity.IsStored tables query.owner)
    (isTarget : query.target.IsStored tables target) :
    ¬(RelatedCall.relate target).Misses query tables := by
  rintro (missing | missing)
  · exact missing isOwner
  · exact missing isTarget

theorem Rekeys.isMany {call : RelatedCall} (rekeys : call.Rekeys query tables) :
    query.relation.kind = .hasMany := by
  cases rekeys with
  | relate isMany => exact isMany

/-- Where the owner is stored, a call that links one of many rekeys it if and only if the column that
it sets is the key, and does not have the old key afterwards. -/
theorem rekeys_relate_iff {owner : StoredRow} {value : Value}
    (isMany : query.relation.kind = .hasMany)
    (isOwner : owner ∈ query.repository.entity.rowsIn tables)
    (hasKey : owner.HasKey query.repository.entity.key query.owner)
    (reads : ∀ row ∈ query.repository.entity.rowsIn tables,
      row.HasKey query.repository.entity.key query.owner →
        (row.read query.repository.entity.table).getD query.relation.sourceKey.column = value)
    (isTarget : query.target.IsStored tables target) :
    (RelatedCall.relate target).Rekeys query tables ↔
      query.target.key.name = query.relation.targetKey.column ∧
        ¬query.target.key.Finds target
          (query.target.table.stores query.relation.targetKey.column value) := by
  constructor
  · rintro ⟨_, isKey, isOther, otherHas, _, moves⟩
    rw [reads _ isOther otherHas, ← isKey] at moves
    exact ⟨isKey.symm, moves⟩
  · rintro ⟨isKey, moves⟩
    refine .relate isMany isKey.symm isOwner hasKey isTarget ?_
    rw [reads owner isOwner hasKey, isKey]
    exact moves

end Relate

end RelatedCall

namespace RelatedQuery

open Database

variable {registry : Registry} {config : Config} {entity : Entity} {venue : Venue}
variable {query : RelatedQuery (Workplace Database)} {before after : Workplace Database}

section

variable (consistent : registry.Consistent)
  (isEntity : registry.entity entity.name = .ok entity)
  (isTarget : registry.entity query.relation.target = .ok query.target)
  (isOver : query.repository =
    Repository.over registry entity config session (some (venue.scope control)))
  (ready : venue.Ready control before)
  (sound : SoundTables registry.schema (venue.data transactional before))

include consistent isEntity isOver ready sound

/-- A body that begins by loading the owner goes on with the row that has the owner's key, if there
is one. -/
theorem within_owner_eq_ok {α : Type} {next : Option Record → Action (Workplace Database) α}
    {result : α}
    (ran : (venue.scope control).within (query.loadOwner (unitExecutor session none) >>= next)
      before = (.ok result, after)) :
    ∃ owner middle left, Opened control middle ∧
      middle.world.world.store.tables = venue.data transactional before ∧
        (∀ record, owner = some record ↔
          ∃ row ∈ entity.rowsIn (venue.data transactional before),
            row.HasKey entity.key query.owner ∧ row.read entity.table = record) ∧
          next owner middle = (.ok result, left) ∧
            (Opened control left →
              venue.data transactional after = left.world.world.store.tables) := by
  obtain ⟨entered, left, opened, sees, ran, leaves⟩ := venue.within_eq_ok transactional ready ran
  obtain ⟨owner, middle, loaded, ran⟩ := Action.bind_eq_ok.1 ran
  rw [← sees] at sound ⊢
  unfold loadOwner at loaded
  rw [isOver] at loaded
  obtain ⟨stillOpen, isStore, finds⟩ := load_eq_ok opened sound (consistent.table_found isEntity)
    (consistent.key_found isEntity) loaded
  exact ⟨owner, middle, left, stillOpen, congrArg Store.tables isStore, finds, ran, leaves⟩

theorem fetch_notFound {filter : Option Filter} {result : Option (List Record)}
    (ran : query.fetch filter before = (.ok result, after)) :
    (result = none ↔ ¬entity.IsStored (venue.data transactional before) query.owner) ∧
      (result = none → venue.data transactional after = venue.data transactional before) := by
  unfold fetch Repository.within at ran
  rw [isOver] at ran
  obtain ⟨owner, middle, left, opened, sees, finds, ran, leaves⟩ :=
    within_owner_eq_ok consistent isEntity isOver ready sound ran
  rw [← isStored_of_load finds]
  cases owner with
  | none =>
      cases ran
      exact ⟨iff_of_true rfl rfl, fun _ => (leaves opened).trans sees⟩
  | some owner =>
      suffices found : result ≠ none from
        ⟨iff_of_false found nofun, fun isNone => absurd isNone found⟩
      dsimp only at ran
      split at ran
      · cases ran
        exact nofun
      · obtain ⟨level, _, _, ran⟩ := Action.bind_eq_ok.1 ran
        obtain ⟨select, _, _, ran⟩ := Action.bind_eq_ok.1 ran
        obtain ⟨rows, _, _, ran⟩ := Action.bind_eq_ok.1 ran
        cases ran
        exact nofun

theorem insert_notFound {values : Record} {result : Option Record}
    (ran : query.insert values before = (.ok result, after)) :
    (result = none ↔ ¬entity.IsStored (venue.data transactional before) query.owner) ∧
      (result = none → venue.data transactional after = venue.data transactional before) := by
  unfold insert Repository.within at ran
  rw [isOver] at ran
  obtain ⟨given, _, isGiven, ran⟩ := Action.bind_eq_ok.1 ran
  obtain ⟨_, rfl⟩ := Action.ofExcept_eq_ok.1 isGiven
  obtain ⟨owner, middle, left, opened, sees, finds, ran, leaves⟩ :=
    within_owner_eq_ok consistent isEntity isOver ready sound ran
  rw [← isStored_of_load finds]
  cases owner with
  | none =>
      cases ran
      exact ⟨iff_of_true rfl rfl, fun _ => (leaves opened).trans sees⟩
  | some owner =>
      suffices found : result ≠ none from
        ⟨iff_of_false found nofun, fun isNone => absurd isNone found⟩
      obtain ⟨key, _, _, ran⟩ := Action.bind_eq_ok.1 ran
      cases isKind : query.relation.kind with
      | hasMany =>
          simp only [isKind, map_eq_pure_bind] at ran
          obtain ⟨row, _, _, ran⟩ := Action.bind_eq_ok.1 ran
          cases ran
          exact nofun
      | _ =>
          simp only [isKind] at ran
          obtain ⟨row, _, _, ran⟩ := Action.bind_eq_ok.1 ran
          obtain ⟨_, _, _, ran⟩ := Action.bind_eq_ok.1 ran
          cases ran
          exact nofun

include isTarget in
theorem relate_eq_ok {target : Value} {result : Option Record}
    (ran : query.relate target before = (.ok result, after)) :
    (result = none ↔ (RelatedCall.relate target).Misses query (venue.data transactional before) ∨
      (RelatedCall.relate target).Rekeys query (venue.data transactional before)) ∧
    ((RelatedCall.relate target).Misses query (venue.data transactional before) →
      venue.data transactional after = venue.data transactional before) := by
  have isOwnerEntity : query.repository.entity = entity := by rw [isOver]; rfl
  unfold relate Repository.within at ran
  rw [isOver] at ran
  obtain ⟨owner, middle, left, opened, sees, finds, ran, leaves⟩ :=
    within_owner_eq_ok consistent isEntity isOver ready sound ran
  have ownerMissing := isStored_of_load finds
  rw [← isOwnerEntity] at finds ownerMissing
  cases owner with
  | none =>
      cases ran
      exact ⟨iff_of_true rfl (.inl (.inl (ownerMissing.1 rfl))), fun _ => (leaves opened).trans sees⟩
  | some owner =>
      obtain ⟨row, isOwner, hasKey, rfl⟩ := (finds owner).1 rfl
      have ownerStored : query.repository.entity.IsStored (venue.data transactional before)
          query.owner := ⟨row, isOwner, hasKey⟩
      obtain ⟨found, last, loaded, ran⟩ := Action.bind_eq_ok.1 ran
      rw [← sees] at sound
      have isTable := consistent.table_found isTarget
      have isKey := consistent.key_found isTarget
      obtain ⟨stillOpen, isStore, finds'⟩ := load_eq_ok opened sound isTable isKey loaded
      have targetMissing := isStored_of_load finds'
      rw [sees] at targetMissing
      cases found with
      | none =>
          cases ran
          refine ⟨iff_of_true rfl (.inl (.inr (targetMissing.1 rfl))), fun _ => ?_⟩
          rw [leaves stillOpen, isStore, sees]
      | some found =>
          have targetStored : query.target.IsStored (venue.data transactional before) target :=
            Classical.not_not.1 fun missing => nomatch targetMissing.2 missing
          have present := RelatedCall.not_misses_relate ownerStored targetStored
          refine ⟨?_, fun missing => absurd missing present⟩
          rw [or_iff_right present]
          cases isKind : query.relation.kind with
          | hasMany =>
              simp only [isKind] at ran
              obtain ⟨key, _, looked, ran⟩ := Action.bind_eq_ok.1 ran
              obtain ⟨isLooked, rfl⟩ := Action.ofExcept_eq_ok.1 looked
              have isValue : (row.read query.repository.entity.table).getD
                  query.relation.sourceKey.column = key := Repository.getD_of_lookUp isLooked
              rw [← isStore] at sound sees
              rw [← sees] at targetStored
              have vanishes := load_after_update stillOpen sound isTable isKey targetStored ran
              rw [sees] at targetStored
              have reads : ∀ other ∈ query.repository.entity.rowsIn
                  (venue.data transactional before),
                  other.HasKey query.repository.entity.key query.owner →
                    (other.read query.repository.entity.table).getD
                      query.relation.sourceKey.column = key := by
                intro other isOther otherHas
                rw [← Option.some.inj ((finds _).2 ⟨_, isOther, otherHas, rfl⟩)]
                exact isValue
              rw [vanishes, RelatedCall.rekeys_relate_iff isKind isOwner hasKey reads targetStored]
          | _ =>
              simp only [isKind] at ran
              obtain ⟨_, _, _, ran⟩ := Action.bind_eq_ok.1 ran
              cases ran
              refine iff_of_false nofun fun rekeys => ?_
              have isMany := rekeys.isMany
              rw [isKind] at isMany
              cases isMany

end

end RelatedQuery

namespace RelatedCall

open Database

variable {registry : Registry} {name : String} {config : Config} {venue : Venue}
variable {repository : Repository (Workplace Database)} {query : RelatedQuery (Workplace Database)}
variable {before after : Workplace Database} {call : RelatedCall} {result : Option (List Record)}

theorem not_misses_of_rekeys {tables : List StoredTable} (rekeys : call.Rekeys query tables) :
    ¬call.Misses query tables := by
  cases rekeys with
  | relate _ _ isOwner hasKey isTarget _ => exact not_misses_relate ⟨_, isOwner, hasKey⟩ isTarget

/-- A call sees the tables of the store, committed or not. -/
theorem data_of_ready (ready : venue.Ready control before) :
    venue.data transactional before = before.world.world.store.tables := by
  cases venue with
  | own =>
      have isClosed : before.world.world.transaction = none := by
        rw [← Option.isNone_iff_eq_none]
        exact Option.isSome_eq_false_iff.1 ready
      exact storedTables_of_closed isClosed
  | caller => rfl

/-- A database that obeys its constraints shows tables that do, committed or not. -/
theorem sound_data (ready : venue.Ready control before)
    (sound : before.world.world.Sound registry.schema) :
    SoundTables registry.schema (venue.data transactional before) := by
  rw [data_of_ready ready]
  exact sound.tables

/-- A call gives nothing where it misses a row, and then leaves the tables alone, and where it rekeys
the row that it links. -/
theorem perform_eq_ok (consistent : registry.Consistent) {entity : Entity}
    (isEntity : registry.entity entity.name = .ok entity)
    (isTarget : registry.entity query.relation.target = .ok query.target)
    (isOver : query.repository =
      Repository.over registry entity config session (some (venue.scope control)))
    (ready : venue.Ready control before)
    (sound : SoundTables registry.schema (venue.data transactional before))
    (ran : call.perform query before = (.ok result, after)) :
    (result = none ↔ call.Misses query (venue.data transactional before) ∨
      call.Rekeys query (venue.data transactional before)) ∧
    (call.Misses query (venue.data transactional before) →
      venue.data transactional after = venue.data transactional before) := by
  have isOwner : query.repository.entity = entity := by rw [isOver]; rfl
  cases call with
  | fetch filter =>
      obtain ⟨nothing, unchanged⟩ :=
        query.fetch_notFound consistent isEntity isOver ready sound ran
      rw [← isOwner] at nothing
      exact ⟨nothing.trans (or_iff_left nofun).symm, fun missing => unchanged (nothing.2 missing)⟩
  | insert values =>
      obtain ⟨row, inserted, rfl⟩ := Action.map_eq_ok.1 ran
      obtain ⟨nothing, unchanged⟩ :=
        RelatedQuery.insert_notFound consistent isEntity isOver ready sound inserted
      rw [← isOwner] at nothing
      rw [Option.map_eq_none_iff]
      exact ⟨nothing.trans (or_iff_left nofun).symm, fun missing => unchanged (nothing.2 missing)⟩
  | relate target =>
      obtain ⟨row, related, rfl⟩ := Action.map_eq_ok.1 ran
      rw [Option.map_eq_none_iff]
      exact RelatedQuery.relate_eq_ok consistent isEntity isTarget isOver ready sound related

/-- Whether a call gives nothing exactly where it misses a row, and leaves the tables as they were
whenever it gives nothing. -/
def FindsOrLeaves (call : RelatedCall) (query : RelatedQuery (Workplace Database))
    (result : Option (List Record)) (before after : List StoredTable) : Prop :=
  (result = none ↔ call.Misses query before) ∧ (result = none → after = before)

/-- A call on related rows that does not fail gives nothing exactly where the owner, or the target
that is to be related, is not stored, and leaves the tables as they were whenever it gives nothing,
if and only if it does not rekey its target. -/
theorem findsOrLeaves_iff (reachable : registry.Reachable)
    (isMade : Repository.makeAt venue registry name config control session = .ok repository)
    {owner : Value} {relation : String}
    (made : RelatedQuery.make repository owner relation = .ok query)
    (ready : venue.Ready control before) (sound : before.world.world.Sound registry.schema)
    (ran : call.perform query before = (.ok result, after)) :
    call.FindsOrLeaves query result (venue.data transactional before)
        (venue.data transactional after) ↔
      ¬call.Rekeys query (venue.data transactional before) := by
  obtain ⟨_, entity, found, rfl⟩ := Repository.makeAt_eq_ok isMade
  obtain ⟨isOver, _, _, isTarget⟩ := RelatedQuery.make_eq_ok made
  obtain ⟨nothing, unchanged⟩ := perform_eq_ok reachable.consistent (Registry.entity_name found)
    isTarget isOver ready (sound_data ready sound) ran
  constructor
  · intro law rekeys
    exact not_misses_of_rekeys rekeys (law.1.1 (nothing.2 (.inr rekeys)))
  · intro keeps
    rw [or_iff_left keeps] at nothing
    exact ⟨nothing, fun isNone => unchanged (nothing.1 isNone)⟩

end RelatedCall

/-! ## Profiles that share the keys of their users -/

namespace Accounts

open Database

def userTable : Table where
  name := "User"
  columns := [
    { name := "id", type := .integer, primaryKey := true },
    { name := "name", type := .string }]

def profileTable : Table where
  name := "Profile"
  columns := [
    { name := "id", type := .integer, primaryKey := true, references := some ⟨"User", "id"⟩ },
    { name := "bio", type := .string }]

/-- The profile of a user is the one with the same key. -/
def profileOf : Relation where
  name := "profile"
  kind := .hasMany
  target := "Profile"
  sourceKey := ⟨"User", "id"⟩
  targetKey := ⟨"Profile", "id"⟩

def user : Entity where
  name := "User"
  table := userTable
  key := { name := "id", type := .integer, primaryKey := true }
  relations := [profileOf]

def profile : Entity where
  name := "Profile"
  table := profileTable
  key := { name := "id", type := .integer, primaryKey := true, references := some ⟨"User", "id"⟩ }
  relations := []

def registry : Registry where
  schema := [userTable, profileTable]
  entities := [user, profile]
  frozen := true

theorem registry_reachable : registry.Reachable := by
  have users : Registry.register { schema := registry.schema } "User" [profileOf] =
      .ok { schema := registry.schema, entities := [user] } := rfl
  have both : Registry.register { schema := registry.schema, entities := [user] } "Profile" [] =
      .ok { schema := registry.schema, entities := [user, profile] } := rfl
  have frozen : Registry.freeze { schema := registry.schema, entities := [user, profile] } =
      .ok registry := rfl
  exact .freeze (.register (.register (.start _) users) both) frozen

def ann : StoredRow where
  number := 1
  cells := [("id", .int 1), ("name", .text "Ann")]

/-- A profile with a key that no user has. -/
def stray : StoredRow where
  number := 5
  cells := [("id", .int 5), ("bio", .text "hi")]

def store : Store where
  tables := [{ table := userTable, rows := [ann] }, { table := profileTable, rows := [stray] }]
  lastNumber := 5

theorem store_sound : SoundTables registry.schema store.tables := by
  have users : Insert.insertAll ⟨userTable, [], .nothing, false⟩ (Store.empty registry.schema)
      [[("id", .int 1), ("name", .text "Ann")]] =
        .ok ({
          tables := [{ table := userTable, rows := [ann] }, { table := profileTable }]
          lastNumber := 1 }, [ann]) := rfl
  have profiles : Insert.insertAll ⟨profileTable, [], .nothing, false⟩ {
        tables := [{ table := userTable, rows := [ann] }, { table := profileTable }]
        lastNumber := 1 } [[("id", .int 5), ("bio", .text "hi")]] = .ok (store, [stray]) := rfl
  have isUser : registry.schema.table? userTable.name = some userTable := rfl
  have isProfile : registry.schema.table? profileTable.name = some profileTable := rfl
  exact Insert.sound_insertAll isProfile
    (Insert.sound_insertAll isUser (Store.sound_empty registry.schema) users) profiles

def workplace : Workplace Database where
  world := { world := { store } }
  holdsSession := false

theorem workplace_sound : workplace.world.world.Sound registry.schema where
  tables := store_sound
  saved := nofun

def users : Repository (Workplace Database) :=
  Repository.over registry user {} session (some (Venue.own.scope control))

def profilesOfAnn : RelatedQuery (Workplace Database) where
  repository := users
  owner := .int 1
  relation := profileOf
  target := profile

/-- What a call on the profiles of the user ends with. -/
def ending (target : Int) : Except Error (Option (List Record)) × Workplace Database :=
  (RelatedCall.relate (.int target)).perform profilesOfAnn workplace

theorem ending_eq {target : Int} (isNothing : (ending target).1.toOption.map Option.isNone = some true) :
    ending target = (.ok none, (ending target).2) := by
  refine Prod.ext ?_ rfl
  cases isResult : (ending target).1 with
  | error failure =>
      rw [isResult] at isNothing
      cases isNothing
  | ok result =>
      cases result with
      | none => rfl
      | some rows =>
          rw [isResult] at isNothing
          cases isNothing

/-- No profile with the key 9 is stored, and relating it finds nothing and changes nothing. -/
theorem unknown_profile_not_found :
    ending 9 = (.ok none, (ending 9).2) ∧
      (RelatedCall.relate (.int 9)).FindsOrLeaves profilesOfAnn none
        (Venue.own.data transactional workplace) (Venue.own.data transactional (ending 9).2) := by
  have isMade : Repository.makeAt .own registry "User" {} control session = .ok users := rfl
  have made : RelatedQuery.make users (.int 1) "profile" = .ok profilesOfAnn := rfl
  have ready : Venue.own.Ready control workplace := rfl
  have ran : ending 9 = (.ok none, (ending 9).2) := ending_eq (by decide +kernel)
  refine ⟨ran, (RelatedCall.findsOrLeaves_iff registry_reachable isMade made ready workplace_sound
    ran).2 ?_⟩
  rintro ⟨_, _, _, _, ⟨row, member, _, scalar, isRow, isSought⟩, _⟩
  cases List.mem_singleton.1 member
  have same : (Cell.int 5).standing? = (Cell.int 9).standing? := isRow.trans isSought.symm
  simp [Cell.standing?, Value.scalar?] at same

/-- The user and the profile are both stored, but relating them gives nothing, and has changed the
key of the profile. -/
theorem related_profile_not_found :
    registry.Reachable ∧
      Repository.makeAt .own registry "User" {} control session = .ok users ∧
      RelatedQuery.make users (.int 1) "profile" = .ok profilesOfAnn ∧
      Venue.own.Ready control workplace ∧ workplace.world.world.Sound registry.schema ∧
      user.IsStored (Venue.own.data transactional workplace) (.int 1) ∧
      profile.IsStored (Venue.own.data transactional workplace) (.int 5) ∧
      ending 5 = (.ok none, (ending 5).2) ∧
      (profile.rowsIn (Venue.own.data transactional (ending 5).2)).map StoredRow.number = [1] ∧
      ¬(RelatedCall.relate (.int 5)).FindsOrLeaves profilesOfAnn none
        (Venue.own.data transactional workplace) (Venue.own.data transactional (ending 5).2) := by
  have isUser : user.IsStored (Venue.own.data transactional workplace) (.int 1) :=
    ⟨ann, List.mem_singleton_self _, rfl, _, rfl, rfl⟩
  have isProfile : profile.IsStored (Venue.own.data transactional workplace) (.int 5) :=
    ⟨stray, List.mem_singleton_self _, rfl, _, rfl, rfl⟩
  refine ⟨registry_reachable, rfl, rfl, rfl, workplace_sound, isUser, isProfile,
    ending_eq (by decide +kernel), by decide +kernel, fun law => ?_⟩
  rcases law.1.1 rfl with missing | missing
  · exact missing isUser
  · exact missing isProfile

end Accounts

end RecordGraph

import RecordGraph.Proofs.Repository.Handing
import RecordGraph.Proofs.Repository.Missing
import RecordGraph.Proofs.Repository.Offered
import RecordGraph.Proofs.Store.Held
import RecordGraph.Proofs.Store.Overlaid

/-!
Contract: patches of the row with a primary key.

Owns: `Patched`, what a patch gives and leaves, why it fails, and the patch that changes its row and
does not find it again.
Does not own: patches in the unit of work of a caller, who undoes what a failure leaves.

A patch updates the row, and selects it by the key that it has then. That is the given key as a
condition binds it, not as the column stores it.
-/

namespace RecordGraph

open RecordGraph.Sql

/-- The primary key of a row after a patch. -/
def Entity.keyAfter (entity : Entity) (key : Value) (patch : Record) : Value :=
  (patch.get? entity.key.name).getD key

/-! ## What a patch is to do -/

/-- What a patch gives and leaves: it fails and leaves everything as it was, or finds no row and
changes nothing, or gives the row with the patch laid over it, which has taken the place of the old
one. -/
inductive Patched (entity : Entity) (key : Value) (patch : Record) (before : List StoredTable) :
    Except Error (Option Record) → List StoredTable → Prop where
  | failed (failure : Error) : Patched entity key patch before (.error failure) before
  | missing {after : List StoredTable} (notStored : ¬entity.IsStored before key)
      (unchanged : Unchanged before after) : Patched entity key patch before (.ok none) after
  | overlaid {old new : StoredRow} {after : List StoredTable} (member : old ∈ entity.rowsIn before)
      (hasKey : old.HasKey entity.key key) (replaces : Replaces entity.table before after old new)
      (isNew : ∀ name, new.cell name = entity.table.overlay patch old name)
      (hasKeyAfter : new.HasKey entity.key (entity.keyAfter key patch)) :
      Patched entity key patch before (.ok (some (new.read entity.table))) after

/-- Whether a patch changes its row, and does not find it by the key that it has given it. -/
structure LosesRow (entity : Entity) (key : Value) (patch : Record) (before : List StoredTable)
    (result : Except Error (Option Record)) : Prop where
  succeeds : result.isOk = true
  isStored : entity.IsStored before key
  notFound : ∃ value, patch.get? entity.key.name = some value ∧
    ¬entity.key.Finds value (entity.table.stores entity.key.name value)

/-- Why a patch can fail. -/
inductive Hinders (entity : Entity) (key : Value) (patch : Record) (store : Store) : Prop where
  | unknown {name : String} (isGiven : name ∈ patch.names)
      (isUnknown : entity.hasColumn name = false)
  | unbound (refused : ¬Database.Accepts
      (.update (.overlayByKey entity.table entity.key key patch)))
  | violated {old : StoredRow} (member : old ∈ entity.rowsIn store.tables)
      (hasKey : old.HasKey entity.key key)
      (violates : ∀ replaced, (store.tableOf entity.table).replace old
        (Update.overlayByKey entity.table entity.key key patch).cells ≠ .ok replaced)
  | unsought (refused : ¬Database.Accepts
      (.select (.byKey entity.table entity.key (entity.keyAfter key patch))))

namespace Repository

open Database

variable {entity : Entity} {key : Value} {patch : Record}

/-! ## The course of a patch -/

/-- What a patch of columns gives, and the store that it leaves in its transaction. -/
def patching (entity : Entity) (key : Value) (patch : Record) (store : Store) :
    Except Error (Option Record × Store) :=
  if patch.isEmpty then (selected (.byKey entity.table entity.key key) store).map (·, store)
  else
    match answer (.update (.overlayByKey entity.table entity.key key patch)) store with
    | .error refusal => .error refusal.toError
    | .ok (after, cursor) =>
        if cursor.count = 0 then .ok (none, after)
        else
          (selected (.byKey entity.table entity.key (entity.keyAfter key patch)) after).map
            (·, after)

/-- What a patch does in its unit of work. -/
def patchBody (entity : Entity) (key : Value) (patch : Record) :
    Action (UnitState Database) (Option Record) := do
  let missing ←
    if patch.isEmpty then pure false
    else do
      let count ← (Database.executor none).change
        (.update (.overlayByKey entity.table entity.key key patch))
      pure (count == 0)
  if missing then pure none
  else
    Executor.selectOne unitSession none
      (.byKey entity.table entity.key (entity.keyAfter key patch))

/-- A selection in a unit of work gives what is selected from its store, and leaves the store. -/
theorem selectOne_gives {saved : List StoredTable} {state : UnitState Database}
    (inside : Inside saved state) (query : Select) :
    ∃ after, Executor.selectOne unitSession none query state =
        (((selected query state.world.store).map (·, state.world.store)).map Prod.fst, after) ∧
      Inside saved after ∧
        ∀ outcome, (selected query state.world.store).map (·, state.world.store) = .ok outcome →
          after.world.store = outcome.2 := by
  obtain ⟨after, ran, stillInside, isStore⟩ := selectOne_eq inside query
  refine ⟨after, ?_, stillInside, fun outcome succeeded => ?_⟩
  · rw [ran]
    cases selected query state.world.store <;> rfl
  · obtain ⟨row, isRow, rfl⟩ := Result.map_eq_ok.1 succeeded
    exact isStore (by rw [isRow]; rfl)

theorem patchBody_eq {saved : List StoredTable} {state : UnitState Database}
    (inside : Inside saved state) :
    ∃ after, patchBody entity key patch state =
        ((patching entity key patch state.world.store).map Prod.fst, after) ∧
      Inside saved after ∧ ∀ outcome, patching entity key patch state.world.store = .ok outcome →
        after.world.store = outcome.2 := by
  unfold patchBody patching
  by_cases isEmpty : patch.isEmpty = true
  · have isKey : entity.keyAfter key patch = key := by
      rw [List.isEmpty_iff.1 isEmpty]
      rfl
    rw [if_pos isEmpty, if_pos isEmpty, isKey]
    exact selectOne_gives inside _
  · rw [if_neg isEmpty, if_neg isEmpty]
    cases answered : answer (.update (.overlayByKey entity.table entity.key key patch))
        state.world.store with
    | error refusal =>
        obtain ⟨after, issued, stillInside⟩ := issue_of_error inside answered
        exact ⟨after, Action.bind_of_error (Action.bind_of_error issued), stillInside, nofun⟩
    | ok outcome =>
        obtain ⟨store, cursor⟩ := outcome
        obtain ⟨middle, issued, stillInside, rfl⟩ := issue_of_ok inside answered
        have counted : (Database.executor none).change
            (.update (.overlayByKey entity.table entity.key key patch)) state =
              (.ok cursor.count, middle) :=
          (Action.bind_of_ok issued).trans rfl
        dsimp only
        by_cases isNone : cursor.count = 0
        · rw [if_pos isNone]
          refine ⟨middle, (Action.bind_of_ok counted).trans ?_, stillInside, fun outcome same => ?_⟩
          · rw [isNone]
            rfl
          · cases same
            rfl
        · rw [if_neg isNone]
          obtain ⟨after, ran, result⟩ := selectOne_gives stillInside _
          refine ⟨after, (Action.bind_of_ok counted).trans ?_, result⟩
          exact (congrFun (if_neg (by simpa using isNone)) middle).trans ran

/-- The repository over the database in memory, with calls in units of work of their own. -/
theorem make_eq_ok {registry : Registry} {name : String} {config : Config}
    {repository : Repository (UnitState Database)}
    (made : make registry name config (some Database.scope) Database.executor = .ok repository) :
    registry.entity name = .ok repository.entity ∧ repository.scope = some Database.scope ∧
      repository.executor = Database.executor := by
  obtain ⟨entity, found, made⟩ := Result.bind_eq_ok.1 made
  obtain ⟨_, _, made⟩ := Result.bind_eq_ok.1 made
  cases Result.pure_eq_ok.1 made
  exact ⟨found, rfl, rfl⟩

section Calls

variable {repository : Repository (UnitState Database)} {database : Database}

theorem patchById_eq (isScope : repository.scope = some Database.scope)
    (isExecutor : repository.executor = Database.executor) (key : Value) (patch : Record) :
    repository.patchById key patch = (do
      let values ← lift (columnValues repository.entity patch)
      Database.scope.within (patchBody repository.entity key values)) := by
  unfold patchById within
  rw [isScope, isExecutor]
  rfl

/-- A patch of a name that is no column is refused before anything else is done. -/
theorem patchById_of_unknown (isScope : repository.scope = some Database.scope)
    (isExecutor : repository.executor = Database.executor) (key : Value) {patch : Record}
    (unknown : patch.names.filter (!repository.entity.hasColumn ·) ≠ [])
    (state : UnitState Database) :
    repository.patchById key patch state =
      (.error (.unknownColumns repository.entity.name
        (patch.names.filter (!repository.entity.hasColumn ·))), state) := by
  rw [patchById_eq isScope isExecutor]
  have refused : columnValues repository.entity patch =
      .error (.unknownColumns repository.entity.name
        (patch.names.filter (!repository.entity.hasColumn ·))) := by
    unfold columnValues
    split
    · rename_i isNone
      exact absurd isNone unknown
    · rfl
  rw [refused]
  rfl

theorem columnValues_of_known {patch : Record}
    (known : patch.names.filter (!entity.hasColumn ·) = []) :
    columnValues entity patch = .ok patch := by
  unfold columnValues
  rw [known]
  rfl

theorem outcome_of_unknown (isScope : repository.scope = some Database.scope)
    (isExecutor : repository.executor = Database.executor) (closed : database.transaction = none)
    {key : Value} {patch : Record}
    (unknown : patch.names.filter (!repository.entity.hasColumn ·) ≠ []) :
    outcome (repository.patchById key patch) database =
      (.error (.unknownColumns repository.entity.name
        (patch.names.filter (!repository.entity.hasColumn ·))), database.store.tables) := by
  unfold outcome
  rw [patchById_of_unknown isScope isExecutor key unknown]
  rcases database with ⟨store, _, log⟩
  cases closed
  rfl

/-- What a patch of columns gives, and what it leaves. -/
theorem outcome_patchById (isScope : repository.scope = some Database.scope)
    (isExecutor : repository.executor = Database.executor) (closed : database.transaction = none)
    {patch : Record} (known : patch.names.filter (!repository.entity.hasColumn ·) = [])
    (key : Value) :
    outcome (repository.patchById key patch) database =
      match patching repository.entity key patch database.store with
      | .ok (row, store) => (.ok row, store.tables)
      | .error failure => (.error failure, database.store.tables) := by
  have isWithin : outcome (repository.patchById key patch) database =
      outcome (Database.scope.within (patchBody repository.entity key patch)) database := by
    rw [patchById_eq isScope isExecutor, columnValues_of_known known]
    rfl
  obtain ⟨after, ran, inside, isStore⟩ :=
    @patchBody_eq repository.entity key patch _ _ (inside_begin database)
  have isStart : (⟨database.begin, true⟩ : UnitState Database).world.store = database.store := rfl
  rw [isStart] at ran isStore
  rw [isWithin, outcome_within closed ran inside]
  cases patched : patching repository.entity key patch database.store with
  | error failure => rfl
  | ok outcome =>
      have isAfter := isStore outcome patched
      dsimp only
      rw [← isAfter]
      rfl

end Calls

/-! ## What a patch leaves -/

section Effects

variable {schema : Schema} {before after : Store} {row : Option Record} {old : StoredRow}

theorem selected_eq_ok (sound : SoundTables schema before.tables)
    (isTable : schema.table? entity.table.name = some entity.table)
    (isKey : entity.table.primaryKeys = [entity.key])
    (ran : selected (.byKey entity.table entity.key key) before = .ok row) (record : Record) :
    row = some record ↔ ∃ found ∈ entity.rowsIn before.tables,
      found.HasKey entity.key key ∧ found.read entity.table = record := by
  unfold selected at ran
  cases answered : answer (.select (.byKey entity.table entity.key key)) before with
  | error refusal =>
      rw [answered] at ran
      cases ran
  | ok outcome =>
      rw [answered] at ran
      obtain ⟨_, cursor⟩ := outcome
      obtain ⟨_, _, evaluated, _⟩ := answer_eq_ok_iff.1 answered
      cases evaluated
      cases ran
      exact Select.head?_byKey sound isTable isKey key record

/-- A selection by key that fails could not be asked. -/
theorem not_accepts_of_selected {failure : Error}
    (ran : selected (.byKey entity.table entity.key key) before = .error failure) :
    ¬Accepts (.select (.byKey entity.table entity.key key)) := by
  intro accepted
  have answered : answer (.select (.byKey entity.table entity.key key)) before =
      .ok (before, { rows := (Select.byKey entity.table entity.key key).evaluate before }) :=
    answer_eq_ok_iff.2 ⟨accepted, rfl, rfl, rfl⟩
  unfold selected at ran
  rw [answered] at ran
  cases ran

section Sound

variable (sound : SoundTables schema before.tables) (shaped : ShapedTables before.tables)
  (isTable : schema.table? entity.table.name = some entity.table)
  (isKey : entity.table.primaryKeys = [entity.key])

include sound isTable isKey

/-- A patch of a row that is not stored gives nothing and changes nothing. -/
theorem patching_of_missing (missing : ¬entity.IsStored before.tables key)
    (patched : patching entity key patch before = .ok (row, after)) :
    row = none ∧ Unchanged before.tables after.tables := by
  unfold patching at patched
  by_cases isEmpty : patch.isEmpty = true
  · rw [if_pos isEmpty] at patched
    obtain ⟨found, ran, same⟩ := Result.map_eq_ok.1 patched
    cases same
    refine ⟨Option.eq_none_iff_forall_ne_some.2 fun record isSome => missing ?_, .refl _⟩
    obtain ⟨found, member, hasKey, _⟩ := (selected_eq_ok sound isTable isKey ran record).1 isSome
    exact ⟨found, member, hasKey⟩
  · rw [if_neg isEmpty] at patched
    cases answered : answer (.update (.overlayByKey entity.table entity.key key patch)) before with
    | error refusal =>
        rw [answered] at patched
        cases patched
    | ok outcome =>
        obtain ⟨store, cursor⟩ := outcome
        obtain ⟨_, _, evaluated, _⟩ := answer_eq_ok_iff.1 answered
        rw [answered] at patched
        have isNothing : (Update.overlayByKey entity.table entity.key key patch).evaluate before =
            .ok (before.setTable (before.tableOf entity.table), { count := 0 }) :=
          Update.evaluate_of_missing sound isTable isKey missing
        cases Except.ok.inj (isNothing.symm.trans evaluated)
        cases patched
        exact ⟨rfl, unchanged_setTable_self sound isTable⟩

include shaped

/-- A patch of a stored row lays its values over the row, and gives the row that has the key that is
sought afterwards. -/
theorem patching_of_stored (member : old ∈ entity.rowsIn before.tables)
    (hasKey : old.HasKey entity.key key)
    (patched : patching entity key patch before = .ok (row, after)) :
    ∃ new, Replaces entity.table before.tables after.tables old new ∧
      (∀ name, new.cell name = entity.table.overlay patch old name) ∧
      SoundTables schema after.tables ∧
      ∀ record, row = some record ↔ ∃ found ∈ entity.rowsIn after.tables,
        found.HasKey entity.key (entity.keyAfter key patch) ∧ found.read entity.table = record := by
  unfold patching at patched
  by_cases isEmpty : patch.isEmpty = true
  · cases List.isEmpty_iff.1 isEmpty
    rw [if_pos isEmpty] at patched
    obtain ⟨found, ran, same⟩ := Result.map_eq_ok.1 patched
    cases same
    exact ⟨old, .refl member, fun name => rfl, sound, selected_eq_ok sound isTable isKey ran⟩
  · rw [if_neg isEmpty] at patched
    cases answered : answer (.update (.overlayByKey entity.table entity.key key patch)) before with
    | error refusal =>
        rw [answered] at patched
        cases patched
    | ok outcome =>
        obtain ⟨_, _, evaluated, _⟩ := answer_eq_ok_iff.1 answered
        rw [answered] at patched
        obtain ⟨store, cursor⟩ := outcome
        obtain ⟨isCount, new, replaces, isNew⟩ :=
          Update.overlaid_of_evaluate sound shaped isTable isKey member hasKey evaluated
        dsimp only at patched
        rw [isCount, if_neg Int.one_ne_zero] at patched
        obtain ⟨found, ran, same⟩ := Result.map_eq_ok.1 patched
        cases same
        have stillSound := Statement.sound_update sound isTable evaluated
        exact ⟨new, replaces, isNew, stillSound, selected_eq_ok stillSound isTable isKey ran⟩

end Sound

/-- A patch of columns that fails is hindered. -/
theorem hinders_of_patching (sound : SoundTables schema before.tables)
    (isTable : schema.table? entity.table.name = some entity.table)
    (isKey : entity.table.primaryKeys = [entity.key]) {failure : Error}
    (patched : patching entity key patch before = .error failure) :
    Hinders entity key patch before := by
  unfold patching at patched
  by_cases isEmpty : patch.isEmpty = true
  · cases List.isEmpty_iff.1 isEmpty
    rw [if_pos isEmpty] at patched
    cases ran : selected (.byKey entity.table entity.key key) before with
    | ok found =>
        rw [ran] at patched
        cases patched
    | error failure => exact .unsought (not_accepts_of_selected ran)
  · rw [if_neg isEmpty] at patched
    cases answered : answer (.update (.overlayByKey entity.table entity.key key patch)) before with
    | ok outcome =>
        obtain ⟨store, cursor⟩ := outcome
        rw [answered] at patched
        dsimp only at patched
        split at patched
        · cases patched
        · cases ran : selected (.byKey entity.table entity.key (entity.keyAfter key patch)) store with
          | ok found =>
              rw [ran] at patched
              cases patched
          | error failure => exact .unsought (not_accepts_of_selected ran)
    | error refusal =>
        by_cases accepted : Accepts (.update (.overlayByKey entity.table entity.key key patch))
        · -- An update that can be asked fails only by the constraints on the row that it replaces.
          have fails : ∀ outcome, (Update.overlayByKey entity.table entity.key key patch).evaluate
              before ≠ .ok outcome := fun outcome evaluated => nomatch answered.symm.trans
                (answer_eq_ok_iff.2 ⟨accepted, rfl, evaluated, rfl⟩)
          by_cases isStored : entity.IsStored before.tables key
          · obtain ⟨old, member, hasKey⟩ := isStored
            refine .violated member hasKey fun replaced isReplaced =>
              fails (before.setTable replaced.1, { count := 1 }) ?_
            rw [Update.evaluate_of_hasKey sound isTable isKey member hasKey, isReplaced]
            rfl
          · exact absurd (Update.evaluate_of_missing sound isTable isKey isStored) (fails _)
        · exact .unbound accepted

end Effects

/-! ## Patches -/

/-- What a patch of a row does, in a unit of work of its own. -/
structure PatchesExactly (repository : Repository (UnitState Database)) (database : Database)
    (key : Value) (patch : Record) (result : Except Error (Option Record))
    (after : List StoredTable) : Prop where
  patched : Patched repository.entity key patch database.store.tables result after ↔
    ¬LosesRow repository.entity key patch database.store.tables result
  hindered : ∀ failure, result = .error failure →
    Hinders repository.entity key patch database.store
  unknown : ∀ name ∈ patch.names, repository.entity.hasColumn name = false → ∀ state,
    repository.patchById key patch state =
      (.error (.unknownColumns repository.entity.name
        (patch.names.filter (!repository.entity.hasColumn ·))), state)
  shown : ∀ record, result = .ok (some record) →
    ¬LosesRow repository.entity key patch database.store.tables result →
      ∃ old ∈ repository.entity.rowsIn database.store.tables,
        old.HasKey repository.entity.key key ∧
          Record.OverlaidBy repository.entity.table patch (old.read repository.entity.table) record
  loses : (∀ value, patch.get? repository.entity.key.name = some value →
      repository.entity.key.type.Holds value) →
    (LosesRow repository.entity key patch database.store.tables result ↔
      result.isOk = true ∧ repository.entity.IsStored database.store.tables key ∧
        repository.entity.key.type = .json ∧
          ∃ value, patch.get? repository.entity.key.name = some value ∧ value.IsQuoted)

section

variable {schema : Schema} {before after : Store} {row : Option Record}
  (sound : SoundTables schema before.tables) (shaped : ShapedTables before.tables)
  (isTable : schema.table? entity.table.name = some entity.table)
  (isKey : entity.table.primaryKeys = [entity.key])

include isKey in
/-- A patch with values of the columns' own types loses its row if and only if it sets the key of a
stored document to a text or a truth value. -/
theorem losesRow_iff (distinct : entity.table.columnNames.Nodup) (tables : List StoredTable)
    (result : Except Error (Option Record))
    (holds : ∀ value, patch.get? entity.key.name = some value → entity.key.type.Holds value) :
    LosesRow entity key patch tables result ↔
      result.isOk = true ∧ entity.IsStored tables key ∧ entity.key.type = .json ∧
        ∃ value, patch.get? entity.key.name = some value ∧ value.IsQuoted := by
  have isColumn := Table.column?_of_mem distinct (Table.mem_of_primaryKeys isKey).1
  have finds : ∀ value, patch.get? entity.key.name = some value →
      (entity.key.Finds value (entity.table.stores entity.key.name value) ↔
        ¬(entity.key.type = .json ∧ value.IsQuoted)) := by
    intro value isValue
    rw [Table.stores, isColumn]
    exact (holds value isValue).finds_iff
  constructor
  · rintro ⟨succeeds, isStored, value, isValue, notFound⟩
    rw [finds value isValue, Classical.not_not] at notFound
    exact ⟨succeeds, isStored, notFound.1, value, isValue, notFound.2⟩
  · rintro ⟨succeeds, isStored, isJson, value, isValue, isQuoted⟩
    refine ⟨succeeds, isStored, value, isValue, ?_⟩
    rw [finds value isValue, Classical.not_not]
    exact ⟨isJson, isQuoted⟩

/-- The key that a patch leaves or gives to its row is that of the new row, unless the row is lost. -/
theorem not_losesRow_iff {old new : StoredRow} (member : old ∈ entity.rowsIn before.tables)
    (hasKey : old.HasKey entity.key key)
    (isNew : ∀ name, new.cell name = entity.table.overlay patch old name) :
    ¬LosesRow entity key patch before.tables (.ok row) ↔
      new.HasKey entity.key (entity.keyAfter key patch) := by
  rw [Entity.keyAfter, Update.hasKey_overlaid_iff hasKey isNew]
  constructor
  · intro keeps value isValue
    by_contra notFound
    exact keeps ⟨rfl, ⟨old, member, hasKey⟩, value, isValue, notFound⟩
  · rintro finds ⟨_, _, value, isValue, notFound⟩
    exact notFound (finds value isValue)

include sound shaped isTable isKey

/-- A patch that succeeds does what a patch is to do, unless it loses its row. -/
theorem patched_iff (patched : patching entity key patch before = .ok (row, after)) :
    Patched entity key patch before.tables (.ok row) after.tables ↔
      ¬LosesRow entity key patch before.tables (.ok row) := by
  by_cases isStored : entity.IsStored before.tables key
  · obtain ⟨old, member, hasKey⟩ := isStored
    obtain ⟨new, replaces, isNew, stillSound, finds⟩ :=
      patching_of_stored sound shaped isTable isKey member hasKey patched
    rw [not_losesRow_iff member hasKey isNew]
    constructor
    · intro isPatched
      cases isPatched with
      | missing notStored unchanged => exact absurd ⟨old, member, hasKey⟩ notStored
      | @overlaid old' new' _ member' hasKey' replaces' isNew' hasKeyAfter =>
          have storedSound := Store.sound_tableOf sound entity.table
          have isStoredKey :
              (before.tableOf entity.table).table.primaryKeys = [entity.key] := by
            rw [Store.table_tableOf sound isTable, isKey]
          have same := storedSound.eq_of_hasKey isStoredKey member member' hasKey hasKey'
          subst same
          rw [replaces.unique replaces']
          exact hasKeyAfter
    · intro hasKeyAfter
      obtain ⟨rest, _, isAfter⟩ := replaces.rows
      have isMember : new ∈ entity.rowsIn after.tables :=
        isAfter.mem_iff.2 (List.mem_cons_self ..)
      rw [(finds _).2 ⟨new, isMember, hasKeyAfter, rfl⟩]
      exact .overlaid member hasKey replaces isNew hasKeyAfter
  · obtain ⟨rfl, unchanged⟩ := patching_of_missing sound isTable isKey isStored patched
    exact iff_of_true (.missing isStored unchanged) fun loses => isStored loses.isStored

end

/-- A patch of the row with a primary key fails and changes nothing, or finds no row and changes
nothing, or replaces the row by the one with the patch laid over it and gives that one. This is so
if and only if the patch does not lose its row. With values of the columns' own types it does so only
where it sets the key of a document to a text or a truth value. -/
theorem patch_overlays {registry : Registry} (reachable : registry.Reachable) {name : String}
    {config : Config} {repository : Repository (UnitState Database)}
    (made : make registry name config (some Database.scope) Database.executor = .ok repository)
    (distinct : repository.entity.table.columnNames.Nodup) {database : Database}
    (closed : database.transaction = none) (sound : database.Sound registry.schema)
    (shaped : database.Shaped) (key : Value) (patch : Record) :
    PatchesExactly repository database key patch
      (outcome (repository.patchById key patch) database).1
      (outcome (repository.patchById key patch) database).2 := by
  obtain ⟨isEntity, isScope, isExecutor⟩ := make_eq_ok made
  have isTable := inSchema_of_entity reachable isEntity
  have isKey := reachable.consistent.key_found isEntity
  have refuses : ∀ {name}, name ∈ patch.names → repository.entity.hasColumn name = false →
      patch.names.filter (!repository.entity.hasColumn ·) ≠ [] := by
    intro name isGiven isUnknown isNone
    exact List.filter_eq_nil_iff.1 isNone name isGiven (by rw [isUnknown]; rfl)
  have isUnknown := fun name isGiven isUnknown =>
    patchById_of_unknown isScope isExecutor key (@refuses name isGiven isUnknown)
  by_cases known : patch.names.filter (!repository.entity.hasColumn ·) = []
  · rw [outcome_patchById isScope isExecutor closed known key]
    cases patched : patching repository.entity key patch database.store with
    | error failure =>
        refine ⟨iff_of_true (.failed failure) (fun loses => nomatch loses.succeeds), ?_, isUnknown,
          fun _ => nofun, losesRow_iff isKey distinct _ _⟩
        exact fun _ _ => hinders_of_patching sound.tables isTable isKey patched
    | ok outcome =>
        have exact := patched_iff sound.tables shaped.tables isTable isKey patched
        refine ⟨exact, fun _ => nofun, isUnknown, fun record isResult keeps => ?_,
          losesRow_iff isKey distinct _ _⟩
        have isPatched := exact.2 keeps
        dsimp only at isResult
        rw [isResult] at isPatched
        cases isPatched with
        | overlaid member hasKey replaces isNew hasKeyAfter =>
            exact ⟨_, member, hasKey, Table.overlaidBy isNew⟩
  · rw [outcome_of_unknown isScope isExecutor closed known]
    refine ⟨iff_of_true (.failed _) (fun loses => nomatch loses.succeeds), fun _ _ => ?_, isUnknown,
      fun _ => nofun, losesRow_iff isKey distinct _ _⟩
    obtain ⟨name, isName⟩ := List.exists_mem_of_ne_nil _ known
    obtain ⟨isGiven, isUnknown⟩ := List.mem_filter.1 isName
    exact .unknown isGiven (by simpa using isUnknown)

end Repository

/-! ## An archive of papers -/

namespace Archive

open Database Repository

def paperTable : Table where
  name := "paper"
  columns := [
    { name := "body", type := .json, primaryKey := true },
    { name := "pages", type := .integer }]

def paper : Entity where
  name := "paper"
  table := paperTable
  key := { name := "body", type := .json, primaryKey := true }
  relations := []

def registry : Registry where
  schema := [paperTable]
  entities := [paper]
  frozen := true

theorem registry_reachable : registry.Reachable := by
  have papers : Registry.register { schema := [paperTable] } "paper" [] =
      .ok { schema := [paperTable], entities := [paper] } := rfl
  have frozen : Registry.freeze { schema := [paperTable], entities := [paper] } = .ok registry := rfl
  exact .freeze (.register (.start _) papers) frozen

def repository : Repository (UnitState Database) where
  registry
  entity := paper
  config := {}
  scope := some Database.scope
  executor := Database.executor

theorem repository_made : Repository.make registry "paper" {} (some Database.scope)
    Database.executor = .ok repository := rfl

/-- The body of the only paper. -/
def titled : Value := .object [("title", .text "a")]

def sheet : StoredRow where
  number := 1
  cells := [("body", .document titled), ("pages", .int 1)]

def database : Database where
  store := { tables := [{ table := paperTable, rows := [sheet] }], lastNumber := 1 }

theorem database_sound : database.Sound registry.schema where
  tables := by
    have isTable : registry.schema.table? paperTable.name = some paperTable := rfl
    have inserted : Insert.insertAll ⟨paperTable, [], .nothing, false⟩
        (Store.empty registry.schema) [[("body", titled), ("pages", .int 1)]] =
          .ok (database.store, [sheet]) := rfl
    exact Insert.sound_insertAll isTable (Store.sound_empty registry.schema) inserted
  saved := nofun

theorem database_shaped : database.Shaped where
  tables := by
    intro stored member
    rw [List.mem_singleton.1 member]
    intro row isRow
    rw [List.mem_singleton.1 isRow]
    rfl
  saved := nofun

theorem titled_stored : paper.IsStored database.store.tables titled :=
  ⟨sheet, List.mem_singleton_self _, rfl, .text titled.toJson, rfl, rfl⟩

/-- A patch of the pages leaves the body to the paper, and so does what a patch is to do. -/
theorem pages_patched :
    Patched paper titled [("pages", .int 2)] database.store.tables
      (outcome (repository.patchById titled [("pages", .int 2)]) database).1
      (outcome (repository.patchById titled [("pages", .int 2)]) database).2 ∧
    (outcome (repository.patchById titled [("pages", .int 2)]) database).1.isOk = true := by
  have exactly := patch_overlays registry_reachable repository_made (by decide) rfl database_sound
    database_shaped titled [("pages", .int 2)]
  refine ⟨exactly.patched.2 fun loses => ?_, by decide +kernel⟩
  obtain ⟨value, isGiven, _⟩ := loses.notFound
  cases isGiven

/-- A patch that sets the body to a text changes the paper, and gives nothing. -/
theorem text_body_lost :
    registry.Reachable ∧ database.Sound registry.schema ∧ database.Shaped ∧
      ColumnType.json.Holds (.text "a") ∧ paper.IsStored database.store.tables titled ∧
      (outcome (repository.patchById titled [("body", .text "a")]) database).1 = .ok none ∧
      ((paper.rowsIn (outcome (repository.patchById titled [("body", .text "a")]) database).2).map
        fun row => (row.cell "body").toText) = ["\"a\""] ∧
      ¬Patched paper titled [("body", .text "a")] database.store.tables
        (outcome (repository.patchById titled [("body", .text "a")]) database).1
        (outcome (repository.patchById titled [("body", .text "a")]) database).2 := by
  have isNone : (outcome (repository.patchById titled [("body", .text "a")]) database).1 =
      .ok none := by
    have succeeds : ((outcome (repository.patchById titled [("body", .text "a")])
        database).1.map Option.isNone).toOption = some true := by decide +kernel
    generalize (outcome (repository.patchById titled [("body", .text "a")]) database).1 = result
      at succeeds ⊢
    rcases result with failure | _ | record
    · cases succeeds
    · rfl
    · cases succeeds
  refine ⟨registry_reachable, database_sound, database_shaped, .document nofun nofun nofun,
    titled_stored, isNone, by decide +kernel, fun isPatched => ?_⟩
  rw [isNone] at isPatched
  cases isPatched with
  | missing notStored unchanged => exact notStored titled_stored

end Archive

end RecordGraph

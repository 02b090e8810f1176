import RecordGraph.Proofs.Execution.Ledger
import RecordGraph.Proofs.Repository.Related

/-!
Contract: the links that calls on related rows make are the ones that a fetch reads.

Owns: `LinkCall`, what such a call changes for each kind of relation, and that the linked row is among
those that are fetched afterwards.
Does not own: databases that change the values they store, and calls that give nothing.
-/

namespace RecordGraph

open RecordGraph.Sql

variable {σ : Type}

/-! ## Rows that are inserted -/

namespace Repository

theorem eq_of_columnValues {entity : Entity} {values given : Record}
    (isGiven : columnValues entity values = .ok given) : given = values := by
  unfold columnValues at isGiven
  split at isGiven
  · exact (Result.pure_eq_ok.1 isGiven).symm
  · exact absurd isGiven Result.throw_ne_ok

variable {repository : Repository σ} {table : Table} {values record : Record} {world after : σ}

/-- What goes on with a column of a row that is shown goes on with its value. -/
theorem of_lookUp_shown {α : Type} {tuple : Tuple} {name : String}
    (isColumn : table.hasColumn name = true) {next : Value → Action σ α} {result : α}
    (ran : (lift (lookUp (tuple.shown table) name) >>= next) world = (.ok result, after)) :
    next (tuple name) world = (.ok result, after) := by
  obtain ⟨value, _, looked, ran⟩ := Action.bind_eq_ok.1 ran
  obtain ⟨isLooked, rfl⟩ := Action.ofExcept_eq_ok.1 looked
  have isValue := getD_of_lookUp isLooked
  rw [tuple.getD_shown isColumn] at isValue
  rw [isValue]
  exact ran

/-- A row that has been inserted is what the executor has handed back. -/
theorem insertRow_eq_ok {executor : Executor σ}
    (ran : repository.insertRow executor table values world = (.ok record, after)) :
    ∃ compiled handed, CompiledInsert.compile table [values] executor.dialect none
        repository.config.useReturning = .ok compiled ∧
      executor.runInsert compiled world = (.ok handed, after) ∧ handed.head? = some record := by
  unfold insertRow compileAndRun at ran
  obtain ⟨⟨compiled, handed⟩, middle, delivered, ran⟩ := Action.bind_eq_ok.1 ran
  obtain ⟨_, _, compiles, delivered⟩ := Action.bind_eq_ok.1 delivered
  obtain ⟨isCompiled, rfl⟩ := Action.ofExcept_eq_ok.1 compiles
  obtain ⟨_, _, insertRan, delivered⟩ := Action.bind_eq_ok.1 delivered
  cases delivered
  obtain ⟨row, _, one, ran⟩ := Action.bind_eq_ok.1 ran
  obtain ⟨isOne, rfl⟩ := Action.ofExcept_eq_ok.1 one
  cases row with
  | none => cases ran
  | some row =>
      cases ran
      refine ⟨compiled, handed, isCompiled, insertRan, ?_⟩
      cases handed with
      | cons first rest => exact congrArg some (Option.some.inj (Except.ok.inj isOne))
      | nil =>
          unfold ReturnContract.one at isOne
          dsimp only at isOne
          split at isOne
          · cases isOne
          · cases isOne

variable {storage : Storage σ} {schema : Schema} {cancel : Option (σ → Bool)}

/-- A row that has been inserted is stored with the values that were given, and nothing else has
changed. -/
theorem insertRow_gains (exact : storage.Exact schema) (opened : storage.isOpen world)
    (isTable : schema.table? table.name = some table)
    (ran : repository.insertRow (Executor.ofSession storage.session cancel) table values world =
      (.ok record, after)) :
    storage.isOpen after ∧ ∃ tuple : Tuple,
      (∀ name value, values.get? name = some value → value.isNull = false → tuple name = value) ∧
      (storage.contents world).Gains (storage.contents after) table.name tuple ∧
        ∀ key, table.primaryKeys = [key] → record = tuple.shown table := by
  obtain ⟨compiled, handed, isCompiled, insertRan, isHead⟩ := insertRow_eq_ok ran
  obtain ⟨isOf, isSingle, isAsking⟩ := CompiledInsert.statement_of_compile isCompiled
  have isReturned := (CompiledInsert.contract_of_compile isCompiled).1
  have isPlain := CompiledInsert.conflict_of_compile isCompiled
  rw [← isOf] at isTable ⊢
  exact exact.inserted_row opened isTable isSingle isPlain (isReturned.trans isAsking.symm) insertRan
    isHead

end Repository

/-! ## Calls -/

/-- A call that links a row to the owner: a new one, or the stored one with a primary key. -/
inductive LinkCall where
  | insert (values : Record)
  | relate (target : Value)

def LinkCall.perform (query : RelatedQuery σ) : LinkCall → Action σ (Option Record)
  | .insert values => query.insert values
  | .relate target => query.relate target

/-- The one change by which a row is tied to the owner that does not itself refer to it: the owner's
foreign key is set, or a join row is gained. -/
inductive RelatedQuery.Ties (query : RelatedQuery σ) (before after : Contents)
    (holder related : Tuple) : Prop where
  | owned (isOwned : query.relation.kind = .belongsToOne)
      (sets : before.Sets after query.repository.entity.table.name holder
        query.relation.sourceKey.column (related query.relation.targetKey.column))
  | joined (isJoined : query.relation.kind = .manyToMany) {through : Through} {table : Table}
      {row : Tuple} (joins : query.relation.through = some through)
      (found : query.repository.registry.table through.table = .ok table)
      (gains : before.Gains after table.name row)
      (source : row through.source.column = holder query.relation.sourceKey.column)
      (target : row through.target.column = related query.relation.targetKey.column)

theorem RelatedQuery.Ties.notMany {query : RelatedQuery σ} {before after : Contents}
    {holder related : Tuple} (ties : query.Ties before after holder related) :
    query.relation.kind ≠ .hasMany := by
  cases ties with
  | owned isOwned => rw [isOwned]; exact nofun
  | joined isJoined => rw [isJoined]; exact nofun

/-- What a call changes that has given back a record: besides a new row, at most the one column or
the one join row that makes the link. -/
inductive LinkCall.Attaches (equal : Value → Value → Bool) (query : RelatedQuery σ)
    (before after : Contents) (holder : Tuple) : LinkCall → Record → Prop where
  /-- The new row refers to the owner. -/
  | member {values : Record} {related : Tuple} (isMany : query.relation.kind = .hasMany)
      (given : ∀ name value, name ≠ query.relation.targetKey.column → values.get? name = some value →
        value.isNull = false → related name = value)
      (refers : related query.relation.targetKey.column = holder query.relation.sourceKey.column)
      (gains : before.Gains after query.target.table.name related) :
      Attaches equal query before after holder (.insert values) (related.shown query.target.table)
  /-- The new row is tied to the owner. -/
  | created {values : Record} {related : Tuple} {middle : Contents}
      (given : ∀ name value, values.get? name = some value → value.isNull = false →
        related name = value)
      (gains : before.Gains middle query.target.table.name related)
      (ties : query.Ties middle after holder related) :
      Attaches equal query before after holder (.insert values) (related.shown query.target.table)
  /-- The stored row is made to refer to the owner. -/
  | moved {key : Value} {related : Tuple} (isMany : query.relation.kind = .hasMany)
      (isStored : related ∈ before query.target.table.name)
      (found : equal key (related query.target.key.name) = true)
      (sets : before.Sets after query.target.table.name related query.relation.targetKey.column
        (holder query.relation.sourceKey.column)) :
      Attaches equal query before after holder (.relate key)
        ((related.set query.relation.targetKey.column
          (holder query.relation.sourceKey.column)).shown query.target.table)
  /-- The stored row is tied to the owner. -/
  | tied {key : Value} {related : Tuple} (isStored : related ∈ before query.target.table.name)
      (found : equal key (related query.target.key.name) = true)
      (ties : query.Ties before after holder related) :
      Attaches equal query before after holder (.relate key) (related.shown query.target.table)

/-- What a link has to meet: its join keys are not null, no primary key is a foreign key that is set,
and the columns and tables of a join can be told apart. -/
structure LinkCall.Links (config : Config) (query : RelatedQuery σ) (holder : Tuple)
    (record : Record) (call : LinkCall) : Prop where
  source : query.relation.kind ≠ .belongsToOne →
    (holder query.relation.sourceKey.column).isNull = false
  target : query.relation.kind ≠ .hasMany →
    (record.getD query.relation.targetKey.column).isNull = false
  keepsOwner : query.relation.kind = .belongsToOne →
    query.relation.sourceKey.column ≠ query.repository.entity.key.name
  keepsTarget : query.relation.kind = .hasMany → ∀ key, call = .relate key →
    query.relation.targetKey.column ≠ query.target.key.name
  columns : ∀ through, query.relation.through = some through →
    through.source.column ≠ through.target.column
  apart : ∀ through, query.relation.through = some through →
    through.table ≠ query.relation.target
  unlabelled : query.relation.kind = .manyToMany →
    query.target.hasColumn config.correlationLabel = false

/-! ## Links -/

section Links

variable {storage : Storage σ} {registry : Registry} {config : Config} {entity : Entity}
variable {query : RelatedQuery σ} {name : String} {holder related : Tuple} {world after : σ}
variable {call : LinkCall} {record : Record}

variable (exact : storage.Exact registry.schema) (consistent : registry.Consistent)
  (isRegistry : query.repository.registry = registry)
  (isEntity : registry.entity entity.name = .ok entity)
  (isOf : query.repository.entity = entity)
  (resolves : registry.resolve entity.name name = .ok query.relation)
  (isTarget : registry.entity query.relation.target = .ok query.target)

include exact consistent isRegistry isEntity isOf resolves isTarget

/-- A link by a foreign key of the owner, or by a join row, changes what it says and nothing else. -/
theorem RelatedQuery.link_ties (opened : storage.isOpen world)
    (isHolder : holder ∈ storage.contents world entity.table.name)
    (isOwner : storage.equal query.owner (holder entity.key.name) = true)
    (notMany : query.relation.kind ≠ .hasMany)
    (links : call.Links config query holder record)
    (hasTarget : (related query.relation.targetKey.column).isNull = false)
    (ran : query.link (Executor.ofSession storage.session none) (holder.shown entity.table)
      (related.shown query.target.table) world = (.ok (), after)) :
    storage.isOpen after ∧
      query.Ties (storage.contents world) (storage.contents after) holder related := by
  have joins := consistent.joins resolves
  have sourceColumn : entity.table.hasColumn query.relation.sourceKey.column = true :=
    consistent.hasColumn isEntity joins.source
  have targetColumn : query.target.table.hasColumn query.relation.targetKey.column = true :=
    consistent.hasColumn isTarget joins.target
  unfold link at ran
  cases isKind : query.relation.kind with
  | hasMany => exact absurd isKind notMany
  | belongsToOne =>
      simp only [isKind] at ran
      obtain ⟨_, _, changed, ran⟩ :=
        Action.bind_eq_ok.1 (Repository.of_lookUp_shown targetColumn ran)
      cases ran
      obtain ⟨cursor, issued⟩ := Executor.change_eq_ok changed
      have keeps := links.keepsOwner isKind
      rw [isOf] at keeps issued
      obtain ⟨stillOpen, sets⟩ := exact.sets entity.table entity.key query.owner _ _ _ cursor _ opened
        (consistent.table_found isEntity) (consistent.key_found isEntity) sourceColumn keeps
        (Executor.run_of_issue issued)
      refine ⟨stillOpen, .owned isKind ?_⟩
      rw [isOf]
      exact sets holder isHolder isOwner
  | manyToMany =>
      obtain ⟨through, isThrough, hasSource, hasLink⟩ := joins.through isKind
      simp only [isKind, isThrough] at ran
      obtain ⟨table, _, found, ran⟩ := Action.bind_eq_ok.1 ran
      obtain ⟨isTable, rfl⟩ := Action.ofExcept_eq_ok.1 found
      obtain ⟨row, _, inserted, ran⟩ := Action.bind_eq_ok.1
        (Repository.of_lookUp_shown targetColumn (Repository.of_lookUp_shown sourceColumn ran))
      cases ran
      have isJoinTable := isTable
      rw [isRegistry] at isTable
      obtain ⟨stillOpen, tuple, stored, gains, _⟩ :=
        Repository.insertRow_gains exact opened (Registry.table_eq_ok isTable) inserted
      have apart := links.columns through isThrough
      have givenSource := Record.get?_set_of_ne [(through.source.column,
        holder query.relation.sourceKey.column)] (related query.relation.targetKey.column) apart.symm
      rw [Record.get?_cons, if_pos rfl] at givenSource
      have notMany : query.relation.kind ≠ .belongsToOne := by rw [isKind]; exact nofun
      exact ⟨stillOpen, .joined isKind isThrough isJoinTable gains
        (stored _ _ givenSource (links.source notMany))
        (stored _ _ (Record.get?_set_self _ _ _) hasTarget)⟩

end Links

/-! ## Linked rows -/

/-- Whether the row of the owner and a row with a primary key are stored, and linked by columns that
are not null. -/
structure RelatedQuery.Linked (query : RelatedQuery σ) (contents : Contents) (ownerKey key : Value)
    (owner related : Tuple) : Prop where
  isOwner : owner ∈ contents query.repository.entity.table.name
  isRelated : related ∈ contents query.target.table.name
  ownerKey : owner query.repository.entity.key.name = ownerKey
  relatedKey : related query.target.key.name = key
  relates : contents.Relates query.repository.registry query.relation owner related
  hasSource : (owner query.relation.sourceKey.column).isNull = false
  hasTarget : (related query.relation.targetKey.column).isNull = false

section Linked

variable {registry : Registry} {config : Config} {entity : Entity} {query : RelatedQuery σ}
variable {holder related : Tuple} {before after : Contents} {call : LinkCall} {record : Record}
variable {equal : Value → Value → Bool}

variable (consistent : registry.Consistent)
  (isEntity : registry.entity query.repository.entity.name = .ok query.repository.entity)
  (isTarget : registry.entity query.relation.target = .ok query.target)

include consistent isEntity isTarget

/-- Entities of one table have one key. -/
theorem RelatedQuery.key_eq_of_table
    (same : query.repository.entity.table.name = query.target.table.name) :
    query.repository.entity.key = query.target.key := by
  have isTable := consistent.table_found isEntity
  rw [same, consistent.table_found isTarget] at isTable
  have isKey := consistent.key_found isEntity
  rw [← Option.some.inj isTable, consistent.key_found isTarget] at isKey
  exact (List.singleton_inj.1 isKey).symm

/-- Rows that have been tied are linked. -/
theorem RelatedQuery.Ties.linked (ties : query.Ties before after holder related)
    (links : call.Links config query holder record)
    (isHolder : holder ∈ before query.repository.entity.table.name)
    (isRelated : related ∈ before query.target.table.name)
    (hasTarget : (related query.relation.targetKey.column).isNull = false) :
    ∃ owner other, query.Linked after (holder query.repository.entity.key.name)
      (related query.target.key.name) owner other := by
  cases ties with
  | owned isOwned sets =>
      have keeps := links.keepsOwner isOwned
      have notJoined : query.relation.kind ≠ .manyToMany := by rw [isOwned]; exact nofun
      rcases sets.survives isRelated with stays | ⟨sameTable, rfl, isSet⟩
      · refine ⟨_, related, sets.member, stays, holder.set_of_ne _ keeps.symm, rfl,
          .own notJoined (holder.set_self _ _), ?_, hasTarget⟩
        rw [holder.set_self]
        exact hasTarget
      · -- The owner is linked to itself, so the row that is set is the one it refers to.
        have sameKey := query.key_eq_of_table consistent isEntity isTarget sameTable.symm
        have refers := related.set_same query.relation.sourceKey.column
          query.relation.targetKey.column
        have keepsTarget : query.relation.sourceKey.column ≠ query.target.key.name := sameKey ▸ keeps
        refine ⟨_, _, sets.member, isSet, related.set_of_ne _ keeps.symm,
          related.set_of_ne _ keepsTarget.symm, .own notJoined ?_, ?_, ?_⟩
        · rw [related.set_self, refers]
        · rw [related.set_self]
          exact hasTarget
        · rw [refers]
          exact hasTarget
  | joined isJoined joins found gains source target =>
      have notOwn : query.relation.kind ≠ .belongsToOne := by rw [isJoined]; exact nofun
      exact ⟨holder, related, gains.stays isHolder, gains.stays isRelated, rfl, rfl,
        .joined isJoined joins found gains.member source target, links.source notOwn, hasTarget⟩

/-- Rows that a call has attached are linked. -/
theorem LinkCall.Attaches.linked (attaches : call.Attaches equal query before after holder record)
    {name : String}
    (resolves : registry.resolve query.repository.entity.name name = .ok query.relation)
    (links : call.Links config query holder record)
    (isHolder : holder ∈ before query.repository.entity.table.name) :
    ∃ owner related, query.Linked after (holder query.repository.entity.key.name)
      (record.getD query.target.key.name) owner related := by
  have targetColumn := consistent.hasColumn isTarget (consistent.joins resolves).target
  have keyColumn := consistent.key_hasColumn isTarget
  have shownKey : ∀ tuple : Tuple, (tuple.shown query.target.table).getD query.target.key.name =
      tuple query.target.key.name := fun tuple => tuple.getD_shown keyColumn
  cases attaches with
  | @member values related isMany given refers gains =>
      have notJoined : query.relation.kind ≠ .manyToMany := by rw [isMany]; exact nofun
      have notOwn : query.relation.kind ≠ .belongsToOne := by rw [isMany]; exact nofun
      have hasSource := links.source notOwn
      rw [shownKey]
      refine ⟨holder, related, gains.stays isHolder, gains.member, rfl, rfl,
        .own notJoined refers.symm, hasSource, ?_⟩
      rw [refers]
      exact hasSource
  | @created values related middle given gains ties =>
      have hasTarget := links.target ties.notMany
      rw [related.getD_shown targetColumn] at hasTarget
      rw [shownKey]
      exact ties.linked consistent isEntity isTarget links (gains.stays isHolder)
        gains.member hasTarget
  | @tied key related isStored found ties =>
      have hasTarget := links.target ties.notMany
      rw [related.getD_shown targetColumn] at hasTarget
      rw [shownKey]
      exact ties.linked consistent isEntity isTarget links isHolder isStored hasTarget
  | @moved key related isMany isStored found sets =>
      have notJoined : query.relation.kind ≠ .manyToMany := by rw [isMany]; exact nofun
      have notOwn : query.relation.kind ≠ .belongsToOne := by rw [isMany]; exact nofun
      have hasSource := links.source notOwn
      have keeps := links.keepsTarget isMany key rfl
      rw [shownKey, related.set_of_ne _ keeps.symm]
      rcases sets.survives isHolder with stays | ⟨sameTable, rfl, isSet⟩
      · refine ⟨holder, _, stays, sets.member, rfl, related.set_of_ne _ keeps.symm,
          .own notJoined (related.set_self _ _).symm, hasSource, ?_⟩
        rw [related.set_self]
        exact hasSource
      · -- The owner is made to refer to itself, so it is the row that is set.
        have sameKey := query.key_eq_of_table consistent isEntity isTarget sameTable
        have keepsOwner : query.relation.targetKey.column ≠ query.repository.entity.key.name :=
          sameKey ▸ keeps
        have source := holder.set_same query.relation.targetKey.column
          query.relation.sourceKey.column
        refine ⟨_, _, isSet, sets.member, holder.set_of_ne _ keepsOwner.symm,
          holder.set_of_ne _ keeps.symm, .own notJoined ?_, ?_, ?_⟩
        · rw [holder.set_self, source]
        · rw [source]
          exact hasSource
        · rw [holder.set_self]
          exact hasSource

end Linked

/-! ## Loads -/

namespace RelatedQuery

variable {storage : Storage σ} {schema : Schema} {entity : Entity} {key : Value} {tuple : Tuple}
variable {world after : σ}

/-- The row with a key is loaded by whatever equals the key. -/
theorem load_of_equal (exact : storage.Exact schema) (opened : storage.isOpen world)
    (isTable : schema.table? entity.table.name = some entity.table)
    (isKey : entity.table.primaryKeys = [entity.key])
    (member : tuple ∈ storage.contents world entity.table.name)
    (equal : storage.equal key (tuple entity.key.name) = true) :
    ∃ after, load (Executor.ofSession storage.session none) entity key world =
        (.ok (some (tuple.shown entity.table)), after) ∧
      storage.isOpen after ∧ storage.contents after = storage.contents world := by
  unfold load
  rw [exact.notNull_of_equal opened isTable isKey member equal]
  exact exact.selects_byKey opened isTable isKey member equal

/-- A row that is loaded by a key is stored and has it. -/
theorem mem_of_load (exact : storage.Exact schema) (opened : storage.isOpen world)
    (isTable : schema.table? entity.table.name = some entity.table)
    (isKey : entity.table.primaryKeys = [entity.key]) {record : Record}
    (ran : load (Executor.ofSession storage.session none) entity key world =
      (.ok (some record), after)) :
    storage.isOpen after ∧ storage.contents after = storage.contents world ∧
      ∃ tuple ∈ storage.contents world entity.table.name,
        storage.equal key (tuple entity.key.name) = true ∧ record = tuple.shown entity.table := by
  unfold load at ran
  by_cases isNull : key.isNull = true
  · rw [if_pos isNull] at ran
    cases ran
  · rw [if_neg isNull] at ran
    exact exact.selected_byKey opened isTable isKey (by simpa using isNull) ran

/-- A stored row of which a column is set, but not the key, is loaded by its key afterwards. -/
theorem load_after_set (exact : storage.Exact schema) (opened : storage.isOpen world)
    (isTable : schema.table? entity.table.name = some entity.table)
    (isKey : entity.table.primaryKeys = [entity.key])
    (member : tuple ∈ storage.contents world entity.table.name)
    (equal : storage.equal key (tuple entity.key.name) = true) {column : String} {value : Value}
    (isColumn : entity.table.hasColumn column = true) (keeps : column ≠ entity.key.name)
    {found : Option Record}
    (ran : (do
      let _ ← (Executor.ofSession storage.session none).change (.update {
        table := entity.table, values := [(column, value)]
        conditions := [Repository.byKey entity key] })
      load (Executor.ofSession storage.session none) entity key : Action σ (Option Record)) world =
        (.ok found, after)) :
    storage.isOpen after ∧
      (storage.contents world).Sets (storage.contents after) entity.table.name tuple column value ∧
        found = some ((tuple.set column value).shown entity.table) := by
  obtain ⟨_, middle, changed, ran⟩ := Action.bind_eq_ok.1 ran
  obtain ⟨cursor, issued⟩ := Executor.change_eq_ok changed
  obtain ⟨stillOpen, sets⟩ := exact.sets entity.table entity.key key column value world cursor middle
    opened isTable isKey isColumn keeps (Executor.run_of_issue issued)
  have isSet := sets tuple member equal
  have stillEqual : storage.equal key (tuple.set column value entity.key.name) = true := by
    rw [tuple.set_of_ne value keeps.symm]
    exact equal
  obtain ⟨_, reloaded, finallyOpen, unchanged⟩ :=
    load_of_equal exact stillOpen isTable isKey isSet.member stillEqual
  cases reloaded.symm.trans ran
  rw [unchanged]
  exact ⟨finallyOpen, isSet, rfl⟩

end RelatedQuery

/-! ## Calls -/

section Calls

variable {control : SessionControl σ} {session : Session σ}
variable {laws : Transactional control session Contents} {equal : Value → Value → Bool}
variable {registry : Registry} {config : Config} {entity : Entity} {venue : Venue} {name : String}
variable {query : RelatedQuery (Workplace σ)} {holder : Tuple} {before after : Workplace σ}

variable (exact : (laws.storage equal).Exact registry.schema) (consistent : registry.Consistent)
  (isEntity : registry.entity entity.name = .ok entity)
  (isTarget : registry.entity query.relation.target = .ok query.target)
  (isOver : query.repository =
    Repository.over registry entity config session (some (venue.scope control)))
  (resolves : registry.resolve entity.name name = .ok query.relation)
  (ready : venue.Ready control before)
  (isHolder : holder ∈ venue.data laws before entity.table.name)
  (isOwner : equal query.owner (holder entity.key.name) = true)

namespace RelatedQuery

include exact consistent isEntity isTarget isOver resolves ready in
/-- A row that is linked to the owner's is among those that are fetched. -/
theorem Linked.fetched {ownerKey key : Value} {owner related : Tuple}
    (linked : query.Linked (venue.data laws before) ownerKey key owner related)
    (isOwner : equal query.owner ownerKey = true)
    (tellsApart : query.relation.TellsApart config query.target) :
    ∃ rows after, query.fetch none before = (.ok (some rows), after) ∧
      related.shown query.target.table ∈ rows := by
  have isOf : query.repository.entity = entity := by rw [isOver]; rfl
  have isRegistry : query.repository.registry = registry := by rw [isOver]; rfl
  obtain ⟨isStored, isRelated, isKey, _, relates, hasSource, hasTarget⟩ := linked
  rw [isOf] at isStored isKey
  rw [isRegistry] at relates
  rw [← isKey] at isOwner
  refine fetch_contains_of_loads exact.toRegular consistent isEntity isTarget isOver resolves
    tellsApart ready (fun entered opened current => ?_) isStored isRelated relates hasSource hasTarget
  have isCurrent : owner ∈ (laws.storage equal).contents entered entity.table.name := by
    change owner ∈ laws.current entered.world.world entity.table.name
    rw [current]
    exact isStored
  unfold loadOwner
  rw [isOf]
  exact load_of_equal exact opened (consistent.table_found isEntity) (consistent.key_found isEntity)
    isCurrent isOwner

include exact consistent isEntity isOver ready isHolder isOwner

/-- A body that begins by loading the owner goes on with what the owner's row shows. -/
theorem within_holder_eq_ok {α : Type} {next : Option Record → Action (Workplace σ) α} {result : α}
    (ran : (venue.scope control).within (query.loadOwner (unitExecutor session none) >>= next)
      before = (.ok result, after)) :
    ∃ middle left, Opened control middle ∧
      laws.current middle.world.world = venue.data laws before ∧
        next (some (holder.shown entity.table)) middle = (.ok result, left) ∧
          (Opened control left → venue.data laws after = laws.current left.world.world) := by
  obtain ⟨entered, left, opened, sees, ran, leaves⟩ := venue.within_eq_ok laws ready ran
  obtain ⟨owner, middle, loaded, ran⟩ := Action.bind_eq_ok.1 ran
  rw [← sees] at isHolder ⊢
  obtain ⟨_, found, stillOpen, unchanged⟩ := load_of_equal exact opened
    (consistent.table_found isEntity) (consistent.key_found isEntity) isHolder isOwner
  unfold loadOwner at loaded
  rw [isOver] at loaded
  cases found.symm.trans loaded
  exact ⟨middle, left, stillOpen, unchanged, ran, leaves⟩

include isTarget resolves

theorem insert_attaches {values record : Record}
    (links : (LinkCall.insert values).Links config query holder record)
    (ran : query.insert values before = (.ok (some record), after)) :
    (LinkCall.insert values).Attaches equal query (venue.data laws before) (venue.data laws after)
      holder record := by
  have isOf : query.repository.entity = entity := by rw [isOver]; rfl
  have isRegistry : query.repository.registry = registry := by rw [isOver]; rfl
  have joins := consistent.joins resolves
  have isTable := consistent.table_found isTarget
  have isKey := consistent.key_found isTarget
  unfold insert Repository.within at ran
  rw [isOver] at ran
  obtain ⟨given, _, isGiven, ran⟩ := Action.bind_eq_ok.1 ran
  obtain ⟨isValues, rfl⟩ := Action.ofExcept_eq_ok.1 isGiven
  cases Repository.eq_of_columnValues isValues
  obtain ⟨middle, left, opened, sees, ran, leaves⟩ :=
    within_holder_eq_ok exact consistent isEntity isOver ready isHolder isOwner ran
  rw [← sees] at isHolder ⊢
  replace ran := Repository.of_lookUp_shown (consistent.hasColumn isEntity joins.source) ran
  cases isKind : query.relation.kind with
  | hasMany =>
      simp only [isKind, map_eq_pure_bind] at ran
      obtain ⟨row, _, inserted, ran⟩ := Action.bind_eq_ok.1 ran
      cases ran
      obtain ⟨stillOpen, tuple, stored, gains, shows⟩ :=
        Repository.insertRow_gains exact opened isTable inserted
      have notOwn : query.relation.kind ≠ .belongsToOne := by rw [isKind]; exact nofun
      rw [shows _ isKey, leaves stillOpen]
      refine .member isKind (fun name value apart given => stored name value ?_)
        (stored _ _ (Record.get?_set_self _ _ _) (links.source notOwn)) gains
      rw [Record.get?_set_of_ne _ _ apart.symm]
      exact given
  | _ =>
      simp only [isKind] at ran
      obtain ⟨row, last, inserted, ran⟩ := Action.bind_eq_ok.1 ran
      obtain ⟨_, _, linked, ran⟩ := Action.bind_eq_ok.1 ran
      cases ran
      obtain ⟨stillOpen, tuple, stored, gains, shows⟩ :=
        Repository.insertRow_gains exact opened isTable inserted
      have notMany : query.relation.kind ≠ .hasMany := by rw [isKind]; exact nofun
      have hasTarget := links.target notMany
      rw [shows _ isKey] at linked links hasTarget ⊢
      rw [tuple.getD_shown (consistent.hasColumn isTarget joins.target)] at hasTarget
      obtain ⟨finallyOpen, ties⟩ := link_ties exact consistent isRegistry isEntity isOf resolves
        isTarget stillOpen (gains.stays isHolder) isOwner notMany links hasTarget linked
      rw [leaves finallyOpen]
      exact .created stored gains ties

theorem relate_attaches {target : Value} {record : Record}
    (links : (LinkCall.relate target).Links config query holder record)
    (ran : query.relate target before = (.ok (some record), after)) :
    (LinkCall.relate target).Attaches equal query (venue.data laws before) (venue.data laws after)
      holder record := by
  have isOf : query.repository.entity = entity := by rw [isOver]; rfl
  have isRegistry : query.repository.registry = registry := by rw [isOver]; rfl
  have joins := consistent.joins resolves
  have isTable := consistent.table_found isTarget
  have isKey := consistent.key_found isTarget
  have targetColumn := consistent.hasColumn isTarget joins.target
  unfold relate Repository.within at ran
  rw [isOver] at ran
  obtain ⟨middle, left, opened, sees, ran, leaves⟩ :=
    within_holder_eq_ok exact consistent isEntity isOver ready isHolder isOwner ran
  rw [← sees] at isHolder ⊢
  obtain ⟨found, last, loaded, ran⟩ := Action.bind_eq_ok.1 ran
  cases found with
  | none => cases ran
  | some found =>
      obtain ⟨stillOpen, unchanged, related, isRelated, isFound, rfl⟩ :=
        mem_of_load exact opened isTable isKey loaded
      change laws.current last.world.world = laws.current middle.world.world at unchanged
      rw [← unchanged] at isHolder ⊢
      have isStored : related ∈ (laws.storage equal).contents last query.target.table.name := by
        change related ∈ laws.current last.world.world _
        rw [unchanged]
        exact isRelated
      cases isKind : query.relation.kind with
      | hasMany =>
          simp only [isKind] at ran
          replace ran := Repository.of_lookUp_shown (consistent.hasColumn isEntity joins.source) ran
          have keeps := links.keepsTarget isKind target rfl
          obtain ⟨finallyOpen, isSet, isRecord⟩ := load_after_set exact stillOpen isTable isKey
            isStored isFound targetColumn keeps ran
          cases isRecord
          rw [leaves finallyOpen]
          exact .moved isKind isStored isFound isSet
      | _ =>
          simp only [isKind] at ran
          obtain ⟨_, _, linked, ran⟩ := Action.bind_eq_ok.1 ran
          cases ran
          have notMany : query.relation.kind ≠ .hasMany := by rw [isKind]; exact nofun
          have hasTarget := links.target notMany
          rw [related.getD_shown targetColumn] at hasTarget
          obtain ⟨finallyOpen, ties⟩ := link_ties exact consistent isRegistry isEntity isOf resolves
            isTarget stillOpen isHolder isOwner notMany links hasTarget linked
          rw [leaves finallyOpen]
          exact .tied isStored isFound ties

end RelatedQuery

end Calls

/-- A call that links a row and gives it back has changed the link and nothing else, and the stored
row with its primary key is among those that are fetched as long as the data stay what they are. -/
theorem LinkCall.attaches_and_fetches {control : SessionControl σ} {session : Session σ}
    {laws : Transactional control session Contents} {equal : Value → Value → Bool}
    {registry : Registry} (reachable : registry.Reachable)
    (exact : (laws.storage equal).Exact registry.schema) {venue : Venue} {name : String}
    {config : Config} {repository : Repository (Workplace σ)}
    (isMade : Repository.makeAt venue registry name config control session = .ok repository)
    {owner : Value} {relation : String} {query : RelatedQuery (Workplace σ)}
    (isQuery : RelatedQuery.make repository owner relation = .ok query)
    {before after : Workplace σ} (ready : venue.Ready control before) {holder : Tuple}
    (isHolder : holder ∈ venue.data laws before repository.entity.table.name)
    (isOwner : equal owner (holder repository.entity.key.name) = true) {call : LinkCall}
    {record : Record} (ran : call.perform query before = (.ok (some record), after))
    (links : call.Links config query holder record) :
    call.Attaches equal query (venue.data laws before) (venue.data laws after) holder record ∧
      ∃ stored ∈ venue.data laws after query.target.table.name,
        stored query.target.key.name = record.getD query.target.key.name ∧
          ∀ later, venue.Ready control later → venue.data laws later = venue.data laws after →
            ∃ rows final, query.fetch none later = (.ok (some rows), final) ∧
              stored.shown query.target.table ∈ rows := by
  obtain ⟨_, entity, isRegistered, rfl⟩ := Repository.makeAt_eq_ok isMade
  obtain ⟨isOver, rfl, resolves, isTarget⟩ := RelatedQuery.make_eq_ok isQuery
  have consistent := reachable.consistent
  have isEntity : registry.entity entity.name = .ok entity := Registry.entity_name isRegistered
  have attaches : call.Attaches equal query (venue.data laws before) (venue.data laws after) holder
      record := by
    cases call with
    | insert values =>
        exact query.insert_attaches exact consistent isEntity isTarget isOver resolves ready isHolder
          isOwner links ran
    | relate target =>
        exact query.relate_attaches exact consistent isEntity isTarget isOver resolves ready isHolder
          isOwner links ran
  have isOf : query.repository.entity = entity := by rw [isOver]; rfl
  obtain ⟨owner, stored, linked⟩ := attaches.linked consistent (isOf.symm ▸ isEntity) isTarget
    (isOf.symm ▸ resolves) links (isOf.symm ▸ isHolder)
  have tellsApart : query.relation.TellsApart config query.target :=
    ⟨links.apart, links.unlabelled⟩
  refine ⟨attaches, stored, linked.isRelated, linked.relatedKey, fun later ready same => ?_⟩
  rw [← same] at linked
  exact linked.fetched exact consistent isEntity isTarget isOver resolves ready
    (isOf.symm ▸ isOwner) tellsApart

/-! ## A child is linked to its parent -/

namespace Family

/-- A parent with the key 1 and a person with the key 2 who is not its child yet. -/
def couple : Ledger schema :=
  ((Ledger.empty schema).add "Person" [("name", .text "Ann")] rfl).add "Person"
    [("name", .text "Bo")] rfl

def coupleKept : Workplace (Ledger.Copy schema) where
  world := { world := { saved := couple, current := couple } }
  holdsSession := false

def parentRow : Tuple :=
  (Shelf.empty schema).tupleOf "Person" [("name", .text "Ann")]

def adopter : Repository (Workplace (Ledger.Copy schema)) :=
  Repository.over registry person {} (Ledger.session schema)
    (some (Venue.own.scope (Ledger.control schema)))

def childrenOfAnn : RelatedQuery (Workplace (Ledger.Copy schema)) where
  repository := adopter
  owner := .int 1
  relation := children
  target := person

def adopted : Record := [("id", .int 2), ("name", .text "Bo"), ("parentId", .int 1)]

/-- The person that is made a child has changed in one column, and is among the children that are
fetched. -/
theorem adopted_attached_and_fetched :
    ∃ (after final : Workplace (Ledger.Copy schema)) (stored : Tuple) (rows : List Record),
      (LinkCall.relate (.int 2)).perform childrenOfAnn coupleKept = (.ok (some adopted), after) ∧
      (LinkCall.relate (.int 2)).Attaches Value.equals childrenOfAnn couple.contents
        (Venue.own.data (Ledger.transactional schema) after) parentRow adopted ∧
      stored "id" = .int 2 ∧ childrenOfAnn.fetch none after = (.ok (some rows), final) ∧
        stored.shown personTable ∈ rows := by
  obtain ⟨after, ran, isClosed⟩ : ∃ after,
      (LinkCall.relate (.int 2)).perform childrenOfAnn coupleKept = (.ok (some adopted), after) ∧
        Venue.own.Ready (Ledger.control schema) after :=
    ⟨_, rfl, rfl⟩
  have isMade : Repository.makeAt .own registry "Person" {} (Ledger.control schema)
      (Ledger.session schema) = .ok adopter := rfl
  have isQuery : RelatedQuery.make adopter (.int 1) "children" = .ok childrenOfAnn := rfl
  have ready : Venue.own.Ready (Ledger.control schema) coupleKept := rfl
  have isHolder : parentRow ∈ couple.contents "Person" := List.mem_cons_self ..
  have links : (LinkCall.relate (.int 2)).Links {} childrenOfAnn parentRow adopted := {
    source := fun _ => rfl
    target := fun notMany => absurd rfl notMany
    keepsOwner := nofun
    keepsTarget := fun _ _ _ => by decide
    columns := nofun
    apart := nofun
    unlabelled := nofun }
  obtain ⟨attaches, stored, _, isKey, fetches⟩ := LinkCall.attaches_and_fetches registry_reachable
    (Ledger.exact schema) isMade isQuery ready isHolder rfl ran links
  obtain ⟨rows, final, fetched, member⟩ := fetches after isClosed rfl
  exact ⟨after, final, stored, rows, ran, attaches, isKey, fetched, member⟩

end Family

/-! ## Join rows without a target -/

namespace Coding

def personTable : Table where
  name := "Person"
  columns := [
    { name := "id", type := .integer, primaryKey := true },
    { name := "name", type := .string }]

def tagTable : Table where
  name := "Tag"
  columns := [
    { name := "id", type := .integer, primaryKey := true },
    { name := "code", type := .string, unique := true }]

def labelTable : Table where
  name := "Label"
  columns := [
    { name := "id", type := .integer, primaryKey := true },
    { name := "personId", type := .integer, references := some ⟨"Person", "id"⟩ },
    { name := "tagCode", type := .string, references := some ⟨"Tag", "code"⟩ }]

/-- The tags of a person are found by their codes, which may be null. -/
def tags : Relation where
  name := "tags"
  kind := .manyToMany
  target := "Tag"
  sourceKey := ⟨"Person", "id"⟩
  targetKey := ⟨"Tag", "code"⟩
  through := some ⟨⟨"Label", "personId"⟩, ⟨"Label", "tagCode"⟩⟩

def person : Entity where
  name := "Person"
  table := personTable
  key := { name := "id", type := .integer, primaryKey := true }
  relations := [tags]

def tag : Entity where
  name := "Tag"
  table := tagTable
  key := { name := "id", type := .integer, primaryKey := true }
  relations := []

def registry : Registry where
  schema := [personTable, tagTable, labelTable]
  entities := [person, tag]
  frozen := true

theorem registry_reachable : registry.Reachable := by
  have people : Registry.register { schema := registry.schema } "Person" [tags] =
      .ok { schema := registry.schema, entities := [person] } := rfl
  have both : Registry.register { schema := registry.schema, entities := [person] } "Tag" [] =
      .ok { schema := registry.schema, entities := [person, tag] } := rfl
  have frozen : Registry.freeze { schema := registry.schema, entities := [person, tag] } =
      .ok registry := rfl
  exact .freeze (.register (.register (.start _) people) both) frozen

def ledger : Ledger registry.schema :=
  (Ledger.empty registry.schema).add "Person" [("name", .text "Ann")] rfl

def workplace : Workplace (Ledger.Copy registry.schema) where
  world := { world := { saved := ledger, current := ledger } }
  holdsSession := false

def people : Repository (Workplace (Ledger.Copy registry.schema)) :=
  Repository.over registry person {} (Ledger.session registry.schema)
    (some (Venue.own.scope (Ledger.control registry.schema)))

def tagsOfAnn : RelatedQuery (Workplace (Ledger.Copy registry.schema)) where
  repository := people
  owner := .int 1
  relation := tags
  target := tag

/-- A tag without a code is stored and so is its join row, but it is not among the tags that are
fetched. -/
theorem uncoded_tag_not_fetched :
    registry.Reachable ∧ (Ledger.storage registry.schema).Exact registry.schema ∧
      Repository.makeAt .own registry "Person" {} (Ledger.control registry.schema)
        (Ledger.session registry.schema) = .ok people ∧
      RelatedQuery.make people (.int 1) "tags" = .ok tagsOfAnn ∧
      Venue.own.Ready (Ledger.control registry.schema) workplace ∧
      (∃ holder ∈ ledger.contents "Person", Value.equals (.int 1) (holder "id") = true ∧
        (holder tags.sourceKey.column).isNull = false) ∧
      (∀ through, tags.through = some through → through.source.column ≠ through.target.column ∧
        through.table ≠ "Person" ∧ through.table ≠ "Tag") ∧
      tag.hasColumn ({} : Config).correlationLabel = false ∧
        ∃ after final rows,
          tagsOfAnn.insert [] workplace =
            (.ok (some [("id", .int 1), ("code", .null)]), after) ∧
          Venue.own.Ready (Ledger.control registry.schema) after ∧
          (∃ stored ∈ Venue.own.data (Ledger.transactional registry.schema) after "Tag",
            stored "id" = .int 1) ∧
          (∃ link ∈ Venue.own.data (Ledger.transactional registry.schema) after "Label",
            link "personId" = .int 1) ∧
          tagsOfAnn.fetch none after = (.ok (some rows), final) ∧
            ¬∃ row ∈ rows, row.getD "id" = .int 1 := by
  refine ⟨registry_reachable, Ledger.exact _, rfl, rfl, rfl,
    ⟨_, List.mem_cons_self .., rfl, rfl⟩, ?_, rfl, _, _, [], rfl, rfl,
    ⟨_, List.mem_cons_self .., rfl⟩, ⟨_, List.mem_cons_self .., rfl⟩, rfl, nofun⟩
  rintro _ isThrough
  cases isThrough
  decide

end Coding

end RecordGraph

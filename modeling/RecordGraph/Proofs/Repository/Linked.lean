import RecordGraph.Proofs.Execution.Shelf
import RecordGraph.Proofs.Plan.Assembly
import RecordGraph.Proofs.Repository.Related
import RecordGraph.Proofs.Repository.Stored
import RecordGraph.Proofs.Store.Answer

/-!
Contract: graph inserts and related fetches agree on what is linked.

Owns: `Registry.Presents` and `Registry.Nests`, that a record which an insert hands out under the
name of a relation is among the related rows of the record that holds it, and that nothing is
fetched where the label of a join is a column of the target.
Does not own: databases that change the values they store.

Both halves go through the same columns: the insert fills them from the rows that it was handed back,
and the fetch asks for them. They are compared by `Contents.Relates`, which knows of neither.
-/

namespace RecordGraph

/-- Whether a record has another one nested under the name of a relation. -/
structure Registry.Nests (registry : Registry) (entity : Entity) (record : Record) (name : String)
    (relation : Relation) (target : Entity) (child : Record) : Prop where
  resolves : registry.resolve entity.name name = .ok relation
  found : registry.entity relation.target = .ok target
  held : ∃ value, record.get? name = some value ∧ child ∈ value.heldRecords

/-- Whether a value presents a record of an entity, at its root or nested under relations. -/
inductive Registry.Presents (registry : Registry) (root : Entity) (output : Value) :
    Entity → Record → Prop where
  | root {record : Record} (member : record ∈ output.heldRecords) :
      Presents registry root output root record
  | nested {entity target : Entity} {record child : Record} {name : String} {relation : Relation}
      (presents : Presents registry root output entity record)
      (nests : registry.Nests entity record name relation target child) :
      Presents registry root output target child

namespace InsertPlan

variable {registry : Registry} {conflict : Option ConflictPolicy} {root entity target : Entity}
variable {records : List Payload} {plan : InsertPlan} {parts : List RootPart} {rows : Rows}
variable {contents : Contents} {operation holder linked : Operation} {record child : Record}
variable {tuple owner related : Tuple} {relation : Relation}

/-! ## Rows and what is presented of them -/

theorem Stored.rowOf_eq (stored : Stored contents rows operation tuple)
    (isOf : operation.IsOf entity) (consistent : registry.Consistent)
    (registered : registry.entity entity.name = .ok entity) :
    rowOf rows operation.index = some (tuple.shown entity.table) := by
  have isKey := consistent.key_found registered
  rw [← isOf.table] at isKey ⊢
  exact stored.handed entity.key isKey

/-- A record shows the columns of the stored row of its operation. -/
theorem IsImage.get?_presented (image : plan.IsImage registry conflict root records parts)
    (once : ∀ record ∈ records, record.NamesOnce) (consistent : registry.Consistent)
    (registered : registry.entity entity.name = .ok entity) (member : operation ∈ plan.operations)
    (isOf : operation.IsOf entity) (stored : Stored contents rows operation tuple)
    (shows : plan.Shows rows operation.index record) {name : String}
    (isColumn : entity.table.hasColumn name = true) : record.get? name = some (tuple name) := by
  have free : ∀ attachment ∈ plan.attachments, attachment.parent = operation.index →
      attachment.key ≠ name := by
    intro attachment attached isParent same
    obtain ⟨parent, isOperation, entity', isIndex, isOf', lacks⟩ :=
      image.key_unshadowed once attached
    have sameOperation := image.eq_of_index isOperation member (isIndex.trans isParent)
    rw [same, Entity.hasColumn, ← isOf'.table, sameOperation, isOf.table, isColumn] at lacks
    cases lacks
  obtain ⟨row, isRow, same⟩ := shows.get?_of_free free
  rw [stored.rowOf_eq isOf consistent registered] at isRow
  cases isRow
  rw [same]
  exact tuple.get?_shown isColumn

/-- A record that is nested into another one belongs to an operation that is linked to that of the
other. -/
theorem IsImage.linked_of_nests (image : plan.IsImage registry conflict root records parts)
    (once : ∀ record ∈ records, record.NamesOnce) (consistent : registry.Consistent)
    (registered : registry.entity entity.name = .ok entity) (member : holder ∈ plan.operations)
    (isOf : holder.IsOf entity) (stored : Stored contents rows holder tuple)
    (shows : plan.Shows rows holder.index record) {name : String}
    (nests : registry.Nests entity record name relation target child) :
    ∃ linked ∈ plan.operations, linked.IsOf target ∧ plan.Shows rows linked.index child ∧
      plan.Links registry relation holder linked := by
  obtain ⟨value, isValue, isHeld⟩ := nests.held
  rcases shows.get? isValue with
    ⟨row, isRow, inRow⟩ | ⟨attachment, attached, isParent, isName, each⟩
  · -- What a row shows are columns, and no relation has the name of one.
    rw [stored.rowOf_eq isOf consistent registered] at isRow
    cases isRow
    have isColumn := Tuple.hasColumn_of_get?_shown inRow
    have lacks := consistent.unshadowed registered nests.resolves
    rw [Registry.name_of_resolve nests.resolves, Entity.hasColumn, isColumn] at lacks
    cases lacks
  · obtain ⟨number, isChild, childShows⟩ := each child isHeld
    obtain ⟨holder', isHolder', linked, isLinked, entity', target', relation', isIndex, rfl, isOf',
      linkedOf, resolves, found, links⟩ := image.linked once attached isChild
    have sameHolder := image.eq_of_index isHolder' member (isIndex.trans isParent)
    rw [sameHolder] at isOf' links
    have sameName : entity'.name = entity.name :=
      Option.some.inj (isOf'.named.symm.trans isOf.named)
    rw [sameName, isName, nests.resolves] at resolves
    cases resolves
    rw [nests.found] at found
    cases found
    exact ⟨linked, isLinked, linkedOf, childShows, links⟩

/-- Every record that is presented shows the row of an operation that inserts it. -/
theorem IsImage.operation_of_presents (image : plan.IsImage registry conflict root records parts)
    (once : ∀ record ∈ records, record.NamesOnce) (consistent : registry.Consistent)
    (registered : registry.entity root.name = .ok root)
    (each : ∀ operation ∈ plan.operations, ∃ tuple, Stored contents rows operation tuple)
    (presents : registry.Presents root (plan.assemble rows) entity record) :
    registry.entity entity.name = .ok entity ∧ ∃ operation ∈ plan.operations,
      operation.IsOf entity ∧ plan.Shows rows operation.index record := by
  induction presents with
  | root member =>
      obtain ⟨number, isRoot, shows⟩ := shows_assemble member
      obtain ⟨operation, isOperation, rfl, isOf⟩ := image.roots_insert isRoot
      exact ⟨registered, operation, isOperation, isOf, shows⟩
  | nested presents nests inductionHypothesis =>
      obtain ⟨isRegistered, operation, member, isOf, shows⟩ := inductionHypothesis
      obtain ⟨tuple, stored⟩ := each operation member
      obtain ⟨linked, isLinked, linkedOf, childShows, _⟩ :=
        image.linked_of_nests once consistent isRegistered member isOf stored shows nests
      exact ⟨Registry.entity_name nests.found, linked, isLinked, linkedOf, childShows⟩

/-! ## Linked rows -/

/-- What is copied from an operation is what its row stores. -/
theorem Stored.copied_eq (stored : Stored contents rows operation tuple)
    (isOf : operation.IsOf entity) (consistent : registry.Consistent)
    (registered : registry.entity entity.name = .ok entity)
    {column name : String} (isColumn : entity.table.hasColumn name = true) :
    copied rows ⟨column, operation.index, name⟩ = some (tuple name) := by
  unfold copied
  rw [stored.rowOf_eq isOf consistent registered]
  exact tuple.get?_shown isColumn

theorem Stored.takes (stored : Stored contents rows operation tuple) {backfill : Backfill}
    (member : backfill ∈ operation.backfills) {value : Value}
    (isCopied : copied rows backfill = some value) (notNull : value.isNull = false) :
    tuple backfill.column = value := by
  obtain ⟨value', isCopied', isTaken⟩ := stored.copies backfill member
  rw [isCopied] at isCopied'
  cases isCopied'
  exact isTaken notNull

/-- Linked operations have related rows. -/
theorem Links.relates (links : plan.Links registry relation holder linked)
    (consistent : registry.Consistent) (registered : registry.entity entity.name = .ok entity)
    (holderOf : holder.IsOf entity) {name : String}
    (resolves : registry.resolve entity.name name = .ok relation)
    (found : registry.entity relation.target = .ok target) (linkedOf : linked.IsOf target)
    (each : ∀ operation ∈ plan.operations, ∃ tuple, Stored contents rows operation tuple)
    (isOwner : Stored contents rows holder owner) (isRelated : Stored contents rows linked related)
    (hasSource : (owner relation.sourceKey.column).isNull = false)
    (hasTarget : (related relation.targetKey.column).isNull = false) :
    contents.Relates registry relation owner related := by
  have isTarget := Registry.entity_name found
  have joins := consistent.joins resolves
  have sourceCopied : ∀ column, copied rows ⟨column, holder.index, relation.sourceKey.column⟩ =
      some (owner relation.sourceKey.column) := fun column =>
    isOwner.copied_eq holderOf consistent registered (consistent.hasColumn registered joins.source)
  have targetCopied : ∀ column, copied rows ⟨column, linked.index, relation.targetKey.column⟩ =
      some (related relation.targetKey.column) := fun column =>
    isRelated.copied_eq linkedOf consistent isTarget (consistent.hasColumn found joins.target)
  cases links with
  | owner isOwn link =>
      refine .own (by simp [isOwn]) ?_
      exact isOwner.takes link (targetCopied _) hasTarget
  | member isMember link =>
      refine .own (by simp [isMember]) ?_
      exact (isRelated.takes link (sourceCopied _) hasSource).symm
  | @joined isJoined through row isThrough isTable isRow source target =>
      obtain ⟨link, stored⟩ := each row isRow
      exact .joined isJoined isThrough isTable stored.member
        (stored.takes source (sourceCopied _) hasSource)
        (stored.takes target (targetCopied _) hasTarget)

/-- Records of which one is nested into the other have related rows. -/
theorem IsImage.rows_of_nests (image : plan.IsImage registry conflict root records parts)
    (once : ∀ record ∈ records, record.NamesOnce) (consistent : registry.Consistent)
    (registered : registry.entity root.name = .ok root)
    (each : ∀ operation ∈ plan.operations, ∃ tuple, Stored contents rows operation tuple)
    (presents : registry.Presents root (plan.assemble rows) entity record) {name : String}
    (nests : registry.Nests entity record name relation target child)
    (hasSource : (record.getD relation.sourceKey.column).isNull = false)
    (hasTarget : (child.getD relation.targetKey.column).isNull = false) :
    registry.entity entity.name = .ok entity ∧
      ∃ owner ∈ contents entity.table.name, ∃ related ∈ contents target.table.name,
        (∀ column, entity.hasColumn column = true → record.get? column = some (owner column)) ∧
          (∀ column, target.hasColumn column = true → child.get? column = some (related column)) ∧
            contents.Relates registry relation owner related := by
  obtain ⟨isEntity, holder, isHolder, holderOf, shows⟩ :=
    image.operation_of_presents once consistent registered each presents
  obtain ⟨owner, isOwner⟩ := each holder isHolder
  obtain ⟨linked, isLinked, linkedOf, childShows, links⟩ :=
    image.linked_of_nests once consistent isEntity isHolder holderOf isOwner shows nests
  obtain ⟨related, isRelated⟩ := each linked isLinked
  have isTarget := Registry.entity_name nests.found
  have ofOwner : ∀ column, entity.hasColumn column = true →
      record.get? column = some (owner column) := fun _ isColumn =>
    image.get?_presented once consistent isEntity isHolder holderOf isOwner shows isColumn
  have ofRelated : ∀ column, target.hasColumn column = true →
      child.get? column = some (related column) := fun _ isColumn =>
    image.get?_presented once consistent isTarget isLinked linkedOf isRelated childShows isColumn
  have joins := consistent.joins nests.resolves
  rw [Record.getD_of_get? (ofOwner _ (consistent.hasColumn isEntity joins.source))] at hasSource
  rw [Record.getD_of_get? (ofRelated _ (consistent.hasColumn nests.found joins.target))] at hasTarget
  have ownerStored := isOwner.member
  have relatedStored := isRelated.member
  rw [holderOf.table] at ownerStored
  rw [linkedOf.table] at relatedStored
  refine ⟨isEntity, owner, ownerStored, related, relatedStored, ofOwner, ofRelated, ?_⟩
  exact links.relates consistent isEntity holderOf nests.resolves nests.found linkedOf each isOwner
    isRelated hasSource hasTarget

end InsertPlan

namespace Repository

variable {σ : Type} {control : SessionControl σ} {session : Session σ}
variable {laws : Transactional control session Contents} {equal : Value → Value → Bool}

/-- The repository of an entity over a session, with units of work of its own. -/
def makeOver (registry : Registry) (entity : String) (config : Config) (control : SessionControl σ)
    (session : Session σ) : Result (Repository (Workplace σ)) :=
  make registry entity config (some (unitScope control))
    (Executor.ofSession session.journaled.inUnit)

theorem makeOver_eq_ok {registry : Registry} {name : String} {config : Config}
    {repository : Repository (Workplace σ)}
    (isMade : makeOver registry name config control session = .ok repository) :
    registry.frozen = true ∧ ∃ entity, registry.entity name = .ok entity ∧
      repository = Repository.over registry entity config session (some (unitScope control)) := by
  obtain ⟨entity, found, isMade⟩ := Result.bind_eq_ok.1 isMade
  obtain ⟨_, required, isMade⟩ := Result.bind_eq_ok.1 isMade
  refine ⟨?_, entity, found, (Result.pure_eq_ok.1 isMade).symm⟩
  unfold Registry.requireFrozen at required
  split at required
  · assumption
  · cases required

theorem makeOver_of_frozen {registry : Registry} {name : String} {config : Config} {entity : Entity}
    (isFrozen : registry.frozen = true) (found : registry.entity name = .ok entity) :
    makeOver registry name config control session =
      .ok (Repository.over registry entity config session (some (unitScope control))) := by
  refine Result.bind_eq_ok.2 ⟨entity, found, Result.bind_eq_ok.2 ⟨(), ?_, rfl⟩⟩
  unfold Registry.requireFrozen
  rw [if_pos isFrozen]
  rfl

/-- A record that a graph insert has given back nested under the name of a relation is among the
related rows of the record that holds it, as long as the committed data stay what they are. -/
theorem related_contains_nested {registry : Registry} (reachable : registry.Reachable)
    (faithful : (laws.storage equal).Faithful registry.schema) {name : String} {config : Config}
    {repository : Repository (Workplace σ)}
    (isMade : makeOver registry name config control session = .ok repository) {payload : Payload}
    (once : payload.NamesOnce) {allow : AllowSource Filter}
    (distinct : ∀ plan, InsertPlan.make registry config name payload allow none = .ok plan →
      ∀ operation ∈ plan.operations, (operation.backfills.map (·.column)).Nodup)
    {before after : Workplace σ} (closed : control.inTransaction before.world.world = false)
    {cancel : Option (σ → Bool)} {output : Value}
    (inserted : repository.insertGraph payload allow none (watched cancel) before =
      (.ok output, after))
    {entity target : Entity} {holder child : Record} {key : String} {relation : Relation}
    (presents : registry.Presents repository.entity output entity holder)
    (nests : registry.Nests entity holder key relation target child)
    (hasSource : (holder.getD relation.sourceKey.column).isNull = false)
    (hasTarget : (child.getD relation.targetKey.column).isNull = false)
    (tellsApart : relation.TellsApart config target) :
    ∃ owner query, makeOver registry entity.name config control session = .ok owner ∧
      RelatedQuery.make owner (holder.getD entity.key.name) key = .ok query ∧
        ∃ tuple ∈ laws.stored after.world.world target.table.name,
          (∀ column, target.hasColumn column = true → child.get? column = some (tuple column)) ∧
            ∀ later : Workplace σ, control.inTransaction later.world.world = false →
              laws.stored later.world.world = laws.stored after.world.world →
                ∃ rows final, query.fetch none later = (.ok (some rows), final) ∧
                  tuple.shown target.table ∈ rows := by
  obtain ⟨isFrozen, root, isRoot, rfl⟩ := makeOver_eq_ok isMade
  have consistent := reachable.consistent
  rw [← (Registry.entity_eq_ok isRoot).2] at distinct
  obtain ⟨plan, rows, made, rfl, each⟩ :=
    insertGraph_stored faithful consistent distinct closed inserted
  obtain ⟨_, root', records, isRoot', listed, planned⟩ := InsertPlan.make_eq_ok made
  have registered := Registry.entity_name isRoot
  cases registered.symm.trans isRoot'
  obtain ⟨parts, image⟩ := InsertPlan.isImage_of_planned planned
  obtain ⟨isEntity, owner, isOwner, related, isRelated, ofOwner, ofRelated, relates⟩ :=
    image.rows_of_nests (once.rootRecords listed) consistent registered each presents nests
      hasSource hasTarget
  have joins := consistent.joins nests.resolves
  have hasKey := Record.getD_of_get? (ofOwner _ (consistent.key_hasColumn isEntity))
  rw [Record.getD_of_get? (ofOwner _ (consistent.hasColumn isEntity joins.source))] at hasSource
  rw [Record.getD_of_get? (ofRelated _ (consistent.hasColumn nests.found joins.target))] at hasTarget
  refine ⟨_, ⟨Repository.over registry entity config session (some (unitScope control)),
    holder.getD entity.key.name, relation, target⟩, makeOver_of_frozen isFrozen isEntity, ?_,
    related, isRelated, ofRelated, fun later isClosed same => ?_⟩
  · exact Result.bind_eq_ok.2 ⟨relation, nests.resolves,
      Result.bind_eq_ok.2 ⟨target, nests.found, rfl⟩⟩
  · rw [← same] at isOwner isRelated relates
    exact RelatedQuery.fetch_contains faithful consistent isEntity nests.found rfl nests.resolves
      tellsApart isClosed isOwner hasKey isRelated relates hasSource hasTarget

end Repository

/-! ## A household is kept -/

namespace Family

def shelf : Workplace (Shelf.Copy schema) where
  world := { world := { saved := .empty schema, current := .empty schema } }
  holdsSession := false

def keeper : Repository (Workplace (Shelf.Copy schema)) :=
  Repository.over registry person {} (Shelf.session schema)
    (some (unitScope (Shelf.control schema)))

def kin : Record := [("id", .int 1), ("word", .text "kin")]

def movedIn : Record := [
  ("id", .int 2), ("name", .text "Jo"), ("parentId", .int 1),
  ("parent", .object [("id", .int 1), ("name", .text "Al"), ("parentId", .null)]),
  ("children", .list [.object [("id", .int 3), ("name", .text "Cy"), ("parentId", .int 2)]]),
  ("tags", .list [.object kin])]

theorem household_namesOnce : household.NamesOnce := by
  have single : ∀ name value, (Payload.object [(name, .scalar value)]).NamesOnce :=
    fun name value =>
      .object (List.nodup_singleton name) (List.forall_mem_singleton.2 (.scalar value))
  refine .object (by decide) ?_
  simp only [List.forall_mem_cons, List.not_mem_nil, false_implies, implies_true, and_true]
  exact ⟨.scalar _, single _ _, .list (List.forall_mem_singleton.2 (single _ _)), single _ _⟩

theorem household_distinct {plan : InsertPlan}
    (made : InsertPlan.make registry {} "Person" household (.expression .absent) none = .ok plan) :
    ∀ operation ∈ plan.operations, (operation.backfills.map (·.column)).Nodup := by
  cases made
  decide

/-- The word of the person that moved in is among the words that are related to it. -/
theorem related_contains_nested_kin :
    ∃ (after : Workplace (Shelf.Copy schema)) (query : RelatedQuery (Workplace (Shelf.Copy schema)))
        (tuple : Tuple) (rows : List Record) (final : Workplace (Shelf.Copy schema)),
      keeper.insertGraph household (.expression .absent) none (watched none) shelf =
        (.ok (.object movedIn), after) ∧
      RelatedQuery.make keeper (.int 2) "tags" = .ok query ∧
        (∀ column, tag.hasColumn column = true → kin.get? column = some (tuple column)) ∧
          query.fetch none after = (.ok (some rows), final) ∧ tuple.shown tagTable ∈ rows := by
  obtain ⟨after, inserted, isClosed⟩ : ∃ after,
      keeper.insertGraph household (.expression .absent) none (watched none) shelf =
        (.ok (.object movedIn), after) ∧
          (Shelf.control schema).inTransaction after.world.world = false :=
    ⟨_, rfl, rfl⟩
  have presents : registry.Presents person (.object movedIn) person movedIn :=
    .root (List.mem_singleton_self _)
  have nests : registry.Nests person movedIn "tags" tags tag kin :=
    ⟨rfl, rfl, _, rfl, List.mem_singleton_self _⟩
  have tellsApart : tags.TellsApart {} tag := by
    refine ⟨?_, fun _ => rfl⟩
    rintro through isThrough
    cases isThrough
    decide
  have isMade : Repository.makeOver registry "Person" {} (Shelf.control schema)
      (Shelf.session schema) = .ok keeper := rfl
  obtain ⟨owner, query, isOwner, isQuery, tuple, _, shows, fetches⟩ :=
    Repository.related_contains_nested registry_reachable (Shelf.faithful schema) isMade
      household_namesOnce (fun _ => household_distinct) rfl inserted presents nests rfl rfl
      tellsApart
  cases isMade.symm.trans isOwner
  obtain ⟨rows, final, fetched, member⟩ := fetches after isClosed rfl
  exact ⟨after, query, tuple, rows, final, inserted, isQuery, shows, fetched, member⟩

end Family

/-! ## Labels that are columns -/

/-- A selection of which two columns share a name gives no rows. -/
theorem Database.rows_eq_nil_of_ambiguous {select : Sql.Select} {database : Database}
    {cursor : Cursor} (isAmbiguous : select.isAmbiguous = true)
    (done : (Database.run (.select select) database).1 = .done cursor) : cursor.rows = [] := by
  have answers := Database.run_answers (.select select) database
  cases answered : Database.answer (.select select) database.store with
  | error refusal =>
      rw [answered] at answers
      rw [answers.1] at done
      cases done
  | ok outcome =>
      rw [answered] at answers
      rw [answers.1] at done
      cases done
      have apart := (Database.answer_eq_ok_iff.1 answered).2.2.2
      rw [Database.isAmbiguous, isAmbiguous, Bool.true_and, Bool.not_eq_false'] at apart
      exact List.isEmpty_iff.1 apart

namespace FetchLevel

/-- The level of a relation selects two columns of one name if its label is a column. -/
theorem isAmbiguous_of_build {registry : Registry} {config : Config} {relation : Relation}
    {target : Entity} (found : registry.entity relation.target = .ok target)
    (isJoined : relation.kind = .manyToMany)
    (isColumn : target.hasColumn config.correlationLabel = true) {path : String}
    {parent index : Nat} {filter : Option Filter} {level : FetchLevel}
    (built : FetchPlan.levelFor registry config relation path parent index filter = .ok level)
    {keys : List Value} {select : Sql.Select} (isSelect : level.build keys = .ok select) :
    select.isAmbiguous = true := by
  obtain ⟨entity, isEntity, built⟩ := Result.bind_eq_ok.1 built
  cases found.symm.trans isEntity
  rw [isJoined] at built
  dsimp only at built
  split at built
  · cases built
  · obtain ⟨table, _, built⟩ := Result.bind_eq_ok.1 built
    obtain ⟨owner, _, built⟩ := Result.bind_eq_ok.1 built
    obtain ⟨link, _, built⟩ := Result.bind_eq_ok.1 built
    obtain ⟨key, _, built⟩ := Result.bind_eq_ok.1 built
    cases Result.pure_eq_ok.1 built
    obtain ⟨conditions, order, adds⟩ := Filter.applyOptional_eq_ok isSelect
    cases isSelect.symm.trans (adds _ ⟨rfl, rfl⟩)
    exact isColumn

end FetchLevel

/-- Where the label is a column of the target, no related row is ever fetched by a join table. -/
theorem RelatedQuery.fetch_eq_nil_of_labelled {registry : Registry} {entity target : Entity}
    {config : Config} {query : RelatedQuery (Workplace Database)}
    (isOver : query.repository =
      Repository.over registry entity config Database.session (some (unitScope Database.control)))
    (found : registry.entity query.relation.target = .ok target)
    (isJoined : query.relation.kind = .manyToMany)
    (isColumn : target.hasColumn config.correlationLabel = true) {filter : Option Filter}
    {before after : Workplace Database} {rows : List Record}
    (fetched : query.fetch filter before = (.ok (some rows), after)) : rows = [] := by
  unfold fetch Repository.within at fetched
  rw [isOver] at fetched
  obtain ⟨_, _, _, ran, _⟩ := Scope.within_eq_ok fetched
  obtain ⟨owner, _, _, ran⟩ := Action.bind_eq_ok.1 ran
  cases owner with
  | none => cases ran
  | some row =>
      dsimp only at ran
      split at ran
      · cases ran
        rfl
      · obtain ⟨level, _, isLevel, ran⟩ := Action.bind_eq_ok.1 ran
        obtain ⟨select, _, isSelect, ran⟩ := Action.bind_eq_ok.1 ran
        obtain ⟨answer, _, asked, ran⟩ := Action.bind_eq_ok.1 ran
        obtain ⟨cursor, _, issued, isAnswer⟩ := Action.bind_eq_ok.1 asked
        cases isAnswer
        cases ran
        have isAmbiguous := FetchLevel.isAmbiguous_of_build found isJoined isColumn
          (Action.ofExcept_eq_ok.1 isLevel).1 (Action.ofExcept_eq_ok.1 isSelect).1
        have done := congrArg Prod.fst (Executor.run_of_issue issued)
        rw [Database.rows_eq_nil_of_ambiguous isAmbiguous done]
        rfl

namespace Family

/-! ## A word with an owner of its own -/

def ownedTagTable : Table where
  name := "Tag"
  columns := [
    { name := "id", type := .integer, primaryKey := true },
    { name := "word", type := .string },
    { name := "_rg_owner", type := .string }]

def ownedTag : Entity where
  name := "Tag"
  table := ownedTagTable
  key := { name := "id", type := .integer, primaryKey := true }
  relations := []

def owning : Registry where
  schema := [personTable, ownedTagTable, labelTable]
  entities := [person, ownedTag]
  frozen := true

theorem owning_reachable : owning.Reachable := by
  have people : Registry.register { schema := owning.schema } "Person" [parent, children, tags] =
      .ok { schema := owning.schema, entities := [person] } := rfl
  have both : Registry.register { schema := owning.schema, entities := [person] } "Tag" [] =
      .ok { schema := owning.schema, entities := [person, ownedTag] } := rfl
  have frozen : Registry.freeze { schema := owning.schema, entities := [person, ownedTag] } =
      .ok owning := rfl
  exact .freeze (.register (.register (.start _) people) both) frozen

def stocked : Workplace Database where
  world := { world := { store := Store.empty owning.schema } }
  holdsSession := false

def clerk : Repository (Workplace Database) :=
  Repository.over owning person {} Database.session (some (unitScope Database.control))

def labelled : Payload :=
  .object [
    ("name", .scalar (.text "Ann")),
    ("tags", .list [.object [("word", .scalar (.text "kin"))]])]

def ownedKin : Record := [("id", .int 1), ("word", .text "kin"), ("_rg_owner", .null)]

def ann : Record := [
  ("id", .int 1), ("name", .text "Ann"), ("parentId", .null), ("tags", .list [.object ownedKin])]

/-- What the insert of a person with a word gives, and what it leaves. -/
def labelledRun : Except Error Value × Workplace Database :=
  clerk.insertGraph labelled (.expression .absent) none (watched none) stocked

def wordsOfAnn : RelatedQuery (Workplace Database) where
  repository := clerk
  owner := .int 1
  relation := tags
  target := ownedTag

/-- Where words have a column with the name of the label, the word of a person is inserted and linked
but is not among the words that are fetched. -/
theorem nested_not_related :
    owning.Reachable ∧
      (∀ plan, InsertPlan.make owning {} "Person" labelled (.expression .absent) none = .ok plan →
        ∀ operation ∈ plan.operations, (operation.backfills.map (·.column)).Nodup) ∧
      ∃ after query,
        clerk.insertGraph labelled (.expression .absent) none (watched none) stocked =
          (.ok (.object ann), after) ∧
        Database.control.inTransaction after.world.world = false ∧
        owning.Presents person (.object ann) person ann ∧
        owning.Nests person ann "tags" tags ownedTag ownedKin ∧
        (ann.getD tags.sourceKey.column).isNull = false ∧
        (ownedKin.getD tags.targetKey.column).isNull = false ∧
        (∀ through, tags.through = some through → through.table ≠ tags.target) ∧
        RelatedQuery.make clerk (ann.getD person.key.name) "tags" = .ok query ∧
        ¬∃ rows final, query.fetch none after = (.ok (some rows), final) ∧ ownedKin ∈ rows := by
  have isOne : ∀ through, tags.through = some through → through.table ≠ tags.target := by
    rintro _ isThrough
    cases isThrough
    decide
  refine ⟨owning_reachable, fun plan made => ?_, labelledRun.2, wordsOfAnn, rfl, rfl,
    .root (List.mem_singleton_self _), ⟨rfl, rfl, _, rfl, List.mem_singleton_self _⟩, rfl, rfl,
    isOne, rfl, ?_⟩
  · cases made
    decide
  · rintro ⟨rows, final, fetched, member⟩
    have found : owning.entity "Tag" = .ok ownedTag := rfl
    rw [RelatedQuery.fetch_eq_nil_of_labelled rfl found rfl rfl fetched] at member
    exact absurd member List.not_mem_nil

end Family

end RecordGraph

import RecordGraph.Proofs.Plan.Backfill

/-!
Contract: what links a nested record to the record that holds it.

Owns: `Operation.IsOf`, `InsertPlan.Links`, and that the children of every attachment are linked
to its parent by the relation that its key names.
Does not own: the rows that operations insert.

Attachments say under which key rows are handed out, backfills say which columns join them. Both are
found at the same edge of the payload.
-/

namespace RecordGraph

/-! ## Payloads whose records name every field once -/

/-- Whether every record of a payload names each of its fields once. -/
inductive Payload.NamesOnce : Payload → Prop where
  | scalar (value : Value) : NamesOnce (.scalar value)
  | again : NamesOnce .again
  | list {items : List Payload} (each : ∀ item ∈ items, NamesOnce item) : NamesOnce (.list items)
  | object {fields : List (String × Payload)} (distinct : (fields.map Prod.fst).Nodup)
      (each : ∀ field ∈ fields, NamesOnce field.2) : NamesOnce (.object fields)

theorem Payload.NamesOnce.members {payload : Payload} (once : payload.NamesOnce) :
    ∀ item ∈ payload.members, item.NamesOnce := by
  intro item member
  cases once with
  | scalar value => exact absurd member List.not_mem_nil
  | again =>
      rw [List.mem_singleton.1 member]
      exact .again
  | list each => exact each item member
  | object distinct each =>
      rw [List.mem_singleton.1 member]
      exact .object distinct each

theorem Payload.NamesOnce.rootRecords {payload : Payload} {many : Bool} {records : List Payload}
    (once : payload.NamesOnce) (listed : InsertPlan.rootRecords payload = .ok (many, records)) :
    ∀ record ∈ records, record.NamesOnce := by
  intro record member
  cases once with
  | list each =>
      cases Result.pure_eq_ok.1 listed
      exact each record member
  | scalar value =>
      cases value with
      | text chars =>
          cases Result.pure_eq_ok.1 listed
          obtain ⟨_, _, rfl⟩ := List.mem_map.1 member
          exact .scalar _
      | _ => cases listed
  | again =>
      cases Result.pure_eq_ok.1 listed
      rw [List.mem_singleton.1 member]
      exact .again
  | object distinct each =>
      cases Result.pure_eq_ok.1 listed
      rw [List.mem_singleton.1 member]
      exact .object distinct each

namespace Spot

variable {registry : Registry} {spot above : Spot} {edge : Edge}

theorem distinct_of_namesOnce (once : spot.payload.NamesOnce) :
    (spot.fields.map Prod.fst).Nodup := by
  rcases spot with ⟨entity, path, payload⟩
  cases once with
  | object distinct each => exact distinct
  | scalar value => exact List.nodup_nil
  | again => exact List.nodup_nil
  | list each => exact List.nodup_nil

theorem namesOnce_of_mem_fields (once : spot.payload.NamesOnce) {field : String × Payload}
    (member : field ∈ spot.fields) : field.2.NamesOnce := by
  rcases spot with ⟨entity, path, payload⟩
  cases once with
  | object distinct each => exact each field member
  | scalar value => exact absurd member List.not_mem_nil
  | again => exact absurd member List.not_mem_nil
  | list each => exact absurd member List.not_mem_nil

theorem payload_of_ownerEdge? {field : String × Payload}
    (isEdge : spot.ownerEdge? registry field = some edge) : edge.spot.payload = field.2 := by
  unfold ownerEdge? at isEdge
  split at isEdge
  · cases isEdge
  · split at isEdge
    · split at isEdge
      · cases isEdge
      · cases isEdge
        rfl
    · cases isEdge

theorem payload_of_mem_memberEdges {field : String × Payload}
    (inEdges : edge ∈ spot.memberEdges registry field) : edge.spot.payload ∈ field.2.members := by
  unfold memberEdges at inEdges
  split at inEdges
  · exact absurd inEdges List.not_mem_nil
  · split at inEdges
    · exact absurd inEdges List.not_mem_nil
    · obtain ⟨item, isItem, rfl⟩ := List.mem_map.1 inEdges
      exact isItem
    · exact absurd inEdges List.not_mem_nil

theorem namesOnce_of_edge? (once : spot.payload.NamesOnce) {step : Step}
    (followed : spot.edge? registry step = some edge) : edge.spot.payload.NamesOnce := by
  cases step with
  | owner field =>
      rcases Option.bind_eq_some_iff.1 followed with ⟨found, lookup, isEdge⟩
      rw [payload_of_ownerEdge? isEdge]
      exact namesOnce_of_mem_fields once (List.mem_of_getElem? lookup)
  | member field item =>
      rcases Option.bind_eq_some_iff.1 followed with ⟨found, lookup, isEdge⟩
      have inEdges := payload_of_mem_memberEdges (List.mem_of_getElem? isEdge)
      exact (namesOnce_of_mem_fields once (List.mem_of_getElem? lookup)).members _ inEdges

theorem namesOnce_of_at? (once : spot.payload.NamesOnce) {place : Place}
    (found : spot.at? registry place = some above) : above.payload.NamesOnce := by
  induction place generalizing spot with
  | nil =>
      cases found
      exact once
  | cons step rest inductionHypothesis =>
      rcases Option.bind_eq_some_iff.1 found with ⟨edge, followed, below⟩
      exact inductionHypothesis (namesOnce_of_edge? once followed) below

/-! ## The edges of a relation field -/

/-- The edges of a field that names a relation are those of the relation. -/
theorem followed_of_mem_fieldEdges {entry : ((String × Payload) × Nat) × Relation}
    (isRelation : entry ∈ spot.relationFields registry) {step : Step}
    (member : (step, edge) ∈ spot.fieldEdges registry entry.1) :
    spot.edge? registry step = some edge ∧ spot.Leads registry entry.1.1.1 edge := by
  unfold relationFields relationFieldsFrom at isRelation
  obtain ⟨⟨field, place⟩, inFields, named⟩ := List.mem_filterMap.1 isRelation
  obtain ⟨relation, _, rfl⟩ := Option.map_eq_some_iff.1 named
  have lookup := List.mk_mem_zipIdx_iff_getElem?.1 inFields
  unfold fieldEdges at member
  rcases List.mem_append.1 member with isOwner | isMember
  · rw [Option.mem_toList, Option.map_eq_some_iff] at isOwner
    obtain ⟨_, isEdge, same⟩ := isOwner
    cases same
    refine ⟨?_, (ownerEdge?_eq_some isEdge).1⟩
    simp only [edge?, lookup, Option.bind_some, isEdge]
  · obtain ⟨⟨_, item⟩, inEdges, same⟩ := List.mem_map.1 isMember
    cases same
    have isEdge := List.mk_mem_zipIdx_iff_getElem?.1 inEdges
    refine ⟨?_, (of_mem_memberEdges (List.mem_of_getElem? isEdge)).1⟩
    simp only [edge?, lookup, Option.bind_some, isEdge]

theorem unshadowed_of_mem_relationFields {entry : ((String × Payload) × Nat) × Relation}
    (isRelation : entry ∈ spot.relationFields registry) :
    spot.entity.hasColumn entry.1.1.1 = false := by
  unfold relationFields relationFieldsFrom at isRelation
  obtain ⟨field, _, named⟩ := List.mem_filterMap.1 isRelation
  obtain ⟨relation, isNamed, rfl⟩ := Option.map_eq_some_iff.1 named
  by_contra isColumn
  rw [relation?_of_column (by simpa using isColumn)] at isNamed
  cases isNamed

theorem Arrives.unique {place holder holder' : Place} {edge' : Edge}
    (arrives : spot.Arrives registry place holder edge)
    (arrives' : spot.Arrives registry place holder' edge') : holder = holder' ∧ edge = edge' := by
  rcases arrives with ⟨step, found, rfl, atHolder, followed⟩
  rcases arrives' with ⟨step', found', same, atHolder', followed'⟩
  obtain ⟨rfl, sameStep⟩ := List.append_inj' same rfl
  cases sameStep
  rw [atHolder] at atHolder'
  cases atHolder'
  rw [followed] at followed'
  cases followed'
  exact ⟨rfl, rfl⟩

end Spot

/-! ## Linked operations -/

/-- Whether an operation inserts a record of an entity. -/
structure Operation.IsOf (entity : Entity) (operation : Operation) : Prop where
  kind : operation.kind = .entity
  named : operation.entity = some entity.name
  table : operation.table = entity.table

/-- Whether backfills join the records of two operations by a relation. -/
inductive InsertPlan.Links (plan : InsertPlan) (registry : Registry) (relation : Relation)
    (holder linked : Operation) : Prop where
  /-- The holder takes over the key of the record that it belongs to. -/
  | owner (isOwner : relation.kind = .belongsToOne)
      (link : ⟨relation.sourceKey.column, linked.index, relation.targetKey.column⟩ ∈ holder.backfills)
  /-- The member takes over the key of its holder. -/
  | member (isMember : relation.kind = .hasMany)
      (link : ⟨relation.targetKey.column, holder.index, relation.sourceKey.column⟩ ∈ linked.backfills)
  /-- A join row takes over both keys. -/
  | joined (isJoined : relation.kind = .manyToMany) {through : Through} {row : Operation}
      (joins : relation.through = some through)
      (found : registry.table through.table = .ok row.table) (isRow : row ∈ plan.operations)
      (source : ⟨through.source.column, holder.index, relation.sourceKey.column⟩ ∈ row.backfills)
      (target : ⟨through.target.column, linked.index, relation.targetKey.column⟩ ∈ row.backfills)

section Parts

variable {registry : Registry} {conflict : Option ConflictPolicy} {spot above : Spot}
variable {part : RootPart} {place : Place} {operation : Operation} {number : Nat}

theorem RootPart.IsImage.numbers_unique (image : part.IsImage registry conflict spot)
    {number' : Nat} (numbered : part.listing.Numbers place number)
    (numbered' : part.listing.Numbers place number') : number = number' := by
  rcases numbered with ⟨operation, member, rfl⟩
  rcases numbered' with ⟨operation', member', rfl⟩
  have sameEntry := List.inj_on_of_nodup_map image.distinct member member' rfl
  exact congrArg (·.2.index) sameEntry

/-- The operation of a record inserts it. -/
theorem RootPart.IsImage.inserts (image : part.IsImage registry conflict spot)
    (member : (.record place, operation) ∈ part.listing)
    (found : spot.at? registry place = some above) : operation.IsOf above.entity := by
  have described : Describes registry conflict [] spot part.listing (.record place) operation :=
    image.described _ member
  cases described with
  | record found' isRecord known receives isFilled same =>
      rw [found] at found'
      cases found'
      rw [same]
      exact ⟨rfl, rfl, rfl⟩

/-- The record that an edge leads to is linked to the record at which the edge starts. -/
theorem RootPart.IsImage.links (image : part.IsImage registry conflict spot) {plan : InsertPlan}
    (included : ∀ entry ∈ part.listing, entry.2 ∈ plan.operations)
    {step : Step} {edge : Edge} {holder linked : Operation}
    (found : spot.at? registry place = some above) (followed : above.edge? registry step = some edge)
    (isHolder : (.record place, holder) ∈ part.listing)
    (isLinked : (.record (place ++ [step]), linked) ∈ part.listing) :
    plan.Links registry edge.relation holder linked := by
  have arrives : spot.Arrives registry (place ++ [step]) place edge :=
    ⟨step, above, rfl, found, followed⟩
  have holderNumbered : part.listing.Numbers place holder.index := ⟨holder, isHolder, rfl⟩
  have linkedNumbered : part.listing.Numbers (place ++ [step]) linked.index :=
    ⟨linked, isLinked, rfl⟩
  cases kind : edge.relation.kind with
  | belongsToOne =>
      have isOwner : (step, edge) ∈ above.owners registry := by
        rcases Spot.owner_of_kind followed kind with ⟨field, rfl⟩
        exact Spot.mem_owners_iff.2 ⟨field, rfl, followed⟩
      have described : Describes registry conflict [] spot part.listing (.record place) holder :=
        image.described _ isHolder
      cases described with
      | record found' isRecord known receives isFilled same =>
          rw [found] at found'
          cases found'
          obtain ⟨backfill, isBackfill, isColumn, isSource, numbered⟩ :=
            exists_of_forall₂ isFilled.flip isOwner
          refine .owner kind ?_
          rw [← image.numbers_unique numbered linkedNumbered, ← isColumn, ← isSource, same]
          exact List.mem_append_right _ isBackfill
  | hasMany =>
      have described : Describes registry conflict [] spot part.listing
          (.record (place ++ [step])) linked := image.described _ isLinked
      cases described with
      | @record _ _ fields received filled _ found' isRecord known receives isFilled same =>
          refine .member kind ?_
          have isReceived : ⟨edge.relation.targetKey.column, holder.index,
              edge.relation.sourceKey.column⟩ ∈ received := by
            generalize isPlace : place ++ [step] = reached at receives arrives
            cases receives with
            | top => simp at isPlace
            | linked arrives' isMember numbered =>
                obtain ⟨rfl, rfl⟩ := arrives.unique arrives'
                rw [image.numbers_unique numbered holderNumbered]
                exact List.mem_singleton_self _
            | free arrives' isFree =>
                obtain ⟨rfl, rfl⟩ := arrives.unique arrives'
                exact absurd kind isFree
          rw [same]
          exact List.mem_append_left _ isReceived
  | manyToMany =>
      have occurs : spot.Occurs registry (.link (place ++ [step])) := ⟨place, edge, arrives, kind⟩
      obtain ⟨⟨site, row⟩, isRow, isSite⟩ := List.mem_map.1 ((image.sites _).2 occurs)
      change site = .link (place ++ [step]) at isSite
      subst isSite
      have described : Describes registry conflict [] spot part.listing
          (.link (place ++ [step])) row := image.described _ isRow
      cases described with
      | link arrives' isJoined joins isTable ownerNumbered memberNumbered same =>
          obtain ⟨rfl, rfl⟩ := arrives.unique arrives'
          have sameOwner := image.numbers_unique ownerNumbered holderNumbered
          have sameMember := image.numbers_unique memberNumbered linkedNumbered
          refine .joined kind joins ?_ (included _ isRow) ?_ ?_
          · rw [same]
            exact isTable
          · rw [same, sameOwner]
            exact List.mem_cons_self ..
          · rw [same, sameMember]
            exact List.mem_cons_of_mem _ (List.mem_singleton_self _)

end Parts

namespace InsertPlan

variable {registry : Registry} {conflict : Option ConflictPolicy} {root : Entity}
variable {records : List Payload} {plan : InsertPlan} {parts : List RootPart}

/-- An attachment belongs to a relation field of a record whose operation is its parent. -/
theorem IsImage.attachment_at (image : plan.IsImage registry conflict root records parts)
    (once : ∀ record ∈ records, record.NamesOnce) {attachment : Attachment}
    (attached : attachment ∈ plan.attachments) :
    ∃ part ∈ parts, ∃ record ∈ records, part.IsImage registry conflict ⟨root, "", record⟩ ∧
      ∃ place above holder entry, (⟨root, "", record⟩ : Spot).at? registry place = some above ∧
        (.record place, holder) ∈ part.listing ∧ entry ∈ above.relationFields registry ∧
          AttachedAt registry part.listing place holder.index above entry attachment := by
  rw [image.attachments] at attached
  obtain ⟨part, isPart, inPart⟩ := List.mem_flatMap.1 attached
  obtain ⟨⟨place, group⟩, isGroup, inGroup⟩ := List.mem_flatMap.1 inPart
  obtain ⟨record, isRecord, isImage⟩ := exists_of_forall₂ image.images isPart
  obtain ⟨above, number, found, ⟨holder, isHolder, rfl⟩, spells⟩ := isImage.attached _ isGroup
  have atAbove : above.payload.NamesOnce := Spot.namesOnce_of_at? (once record isRecord) found
  obtain ⟨entry, isRelation, isAttached⟩ :=
    exists_of_forall₂ (spells (Spot.distinct_of_namesOnce atAbove)) inGroup
  exact ⟨part, isPart, record, isRecord, isImage, place, above, holder, entry, found, isHolder,
    isRelation, isAttached⟩

/-- The key of an attachment is no column of the entity that its parent inserts. -/
theorem IsImage.key_unshadowed (image : plan.IsImage registry conflict root records parts)
    (once : ∀ record ∈ records, record.NamesOnce) {attachment : Attachment}
    (attached : attachment ∈ plan.attachments) :
    ∃ holder ∈ plan.operations, ∃ entity, holder.index = attachment.parent ∧
      holder.IsOf entity ∧ entity.hasColumn attachment.key = false := by
  obtain ⟨part, isPart, record, _, isImage, place, above, holder, entry, found, isHolder,
    isRelation, isParent, isKey, _⟩ := image.attachment_at once attached
  refine ⟨holder, image.mem_operations isPart isHolder, above.entity, isParent.symm,
    isImage.inserts isHolder found, ?_⟩
  rw [isKey]
  exact Spot.unshadowed_of_mem_relationFields isRelation

/-- The children of an attachment are linked to its parent by the relation that its key names. -/
theorem IsImage.linked (image : plan.IsImage registry conflict root records parts)
    (once : ∀ record ∈ records, record.NamesOnce) {attachment : Attachment}
    (attached : attachment ∈ plan.attachments) {child : Nat}
    (isChild : child ∈ attachment.children) :
    ∃ holder ∈ plan.operations, ∃ linked ∈ plan.operations, ∃ entity target relation,
      holder.index = attachment.parent ∧ linked.index = child ∧
        holder.IsOf entity ∧ linked.IsOf target ∧
          registry.resolve entity.name attachment.key = .ok relation ∧
            registry.entity relation.target = .ok target ∧
              plan.Links registry relation holder linked := by
  obtain ⟨part, isPart, record, _, isImage, place, above, holder, entry, found, isHolder,
    isRelation, isParent, isKey, _, numbered⟩ := image.attachment_at once attached
  obtain ⟨⟨step, edge⟩, inEdges, linked, isLinked, rfl⟩ := exists_of_forall₂ numbered isChild
  obtain ⟨followed, leads⟩ := Spot.followed_of_mem_fieldEdges isRelation inEdges
  have below : (⟨root, "", record⟩ : Spot).at? registry (place ++ [step]) = some edge.spot := by
    rw [Spot.at?_append, found, Option.bind_some, Spot.at?_cons followed]
    rfl
  refine ⟨holder, image.mem_operations isPart isHolder, linked, image.mem_operations isPart isLinked,
    above.entity, edge.spot.entity, edge.relation, isParent.symm, rfl,
    isImage.inserts isHolder found, isImage.inserts isLinked below, ?_, leads.found, ?_⟩
  · rw [isKey]
    exact Spot.resolves_of_relation? leads.named
  · exact isImage.links (fun _ => image.mem_operations isPart) found followed isHolder isLinked

/-- The root operations insert records of the root entity. -/
theorem IsImage.roots_insert (image : plan.IsImage registry conflict root records parts)
    {number : Nat} (isRoot : number ∈ plan.roots) :
    ∃ operation ∈ plan.operations, operation.index = number ∧ operation.IsOf root := by
  rw [image.roots] at isRoot
  obtain ⟨part, isPart, rfl⟩ := List.mem_map.1 isRoot
  obtain ⟨record, _, isImage⟩ := exists_of_forall₂ image.images isPart
  obtain ⟨operation, member, isNumber⟩ := isImage.isRoot
  exact ⟨operation, image.mem_operations isPart member, isNumber, isImage.inserts member rfl⟩

/-- The tables of operations are those of the schema. -/
theorem IsImage.table_found (image : plan.IsImage registry conflict root records parts)
    (consistent : Registry.Consistent registry) (registered : registry.entity root.name = .ok root)
    {operation : Operation} (member : operation ∈ plan.operations) :
    registry.schema.table? operation.table.name = some operation.table := by
  rw [image.operations] at member
  obtain ⟨part, isPart, inPart⟩ := List.mem_flatMap.1 member
  obtain ⟨⟨site, operation⟩, inListing, rfl⟩ := List.mem_map.1 inPart
  obtain ⟨record, _, isImage⟩ := exists_of_forall₂ image.images isPart
  have described : Describes registry conflict [] ⟨root, "", record⟩ part.listing site operation :=
    isImage.described _ inListing
  cases described with
  | record found isRecord known receives isFilled same =>
      have isRegistered := Spot.at?_registered _ registered found
      rw [same]
      exact consistent.table_found isRegistered
  | link arrives isJoined joins found ownerNumbered memberNumbered same =>
      rw [same]
      exact Registry.table_eq_ok found

/-- Operations are told apart by their numbers. -/
theorem IsImage.numbers_distinct (image : plan.IsImage registry conflict root records parts) :
    (plan.operations.map (·.index)).Nodup := by
  rw [image.numbers]
  exact List.nodup_range

theorem IsImage.eq_of_index (image : plan.IsImage registry conflict root records parts)
    {left right : Operation} (isLeft : left ∈ plan.operations) (isRight : right ∈ plan.operations)
    (same : left.index = right.index) : left = right :=
  List.inj_on_of_nodup_map image.numbers_distinct isLeft isRight same

/-- Without a policy for the root records, no operation has one. -/
theorem IsImage.no_conflict (image : plan.IsImage registry none root records parts)
    {operation : Operation} (member : operation ∈ plan.operations) : operation.conflict = none := by
  rw [image.operations] at member
  obtain ⟨part, isPart, inPart⟩ := List.mem_flatMap.1 member
  obtain ⟨⟨site, operation⟩, inListing, rfl⟩ := List.mem_map.1 inPart
  obtain ⟨record, _, isImage⟩ := exists_of_forall₂ image.images isPart
  have described : Describes registry none [] ⟨root, "", record⟩ part.listing site operation :=
    isImage.described _ inListing
  cases described with
  | record found isRecord known receives isFilled same =>
      rw [same]
      exact ite_self none
  | link arrives isJoined joins found ownerNumbered memberNumbered same => rw [same]

end InsertPlan

end RecordGraph

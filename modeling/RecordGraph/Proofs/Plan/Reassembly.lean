import RecordGraph.Proofs.Plan.Assembly
import RecordGraph.Proofs.Plan.Links

/-!
Contract: inserted rows, put back into the shape of the payload.

Owns: `Spot.Nests`, which says what the records of a payload show once every place has its row, and
that this is what a plan hands out.
Does not own: the rows that operations insert.

Attachments come after those of the records below. When the group of a record is reached, what is
nested into it is complete, and no later attachment changes it. So a record shows its own row, followed
by what its group appends.
-/

namespace RecordGraph

/-- What holds one value, or many of them. -/
def Value.collect (many : Bool) (values : List Value) : Value :=
  if many then .list values else values.headD .null

namespace InsertPlan

/-! ## Attachments of one record -/

section Groups

variable {current : Rows} {attachments : List Attachment}

theorem attachedValue_congr {current' : Rows} {attachment : Attachment}
    (same : ∀ child ∈ attachment.children, rowOf current child = rowOf current' child) :
    attachedValue current attachment = attachedValue current' attachment := by
  unfold attachedValue
  rw [List.filterMap_congr same]
  split
  · rfl
  · split
    · rfl
    · rename_i child rest isChildren
      rw [same child (by rw [isChildren]; exact List.mem_cons_self ..)]

/-- Where every child has a row, an attachment holds one value for each. -/
theorem attachedValue_eq_collect {attachment : Attachment}
    (present : ∀ child ∈ attachment.children, (rowOf current child).isSome) :
    attachedValue current attachment = .collect attachment.many
      (attachment.children.map fun child => optionValue (rowOf current child)) := by
  unfold attachedValue Value.collect
  split
  · refine congrArg Value.list ?_
    rw [List.map_filterMap, ← List.filterMap_eq_map]
    refine List.filterMap_congr fun child isChild => ?_
    obtain ⟨row, isRow⟩ := Option.isSome_iff_exists.1 (present child isChild)
    simp [isRow, optionValue]
  · cases attachment.children with
    | nil => rfl
    | cons child rest => rfl

/-- An attachment changes the row of its parent. -/
theorem rowOf_attach (current : Rows) (attachment : Attachment) (index : Nat) :
    rowOf (attach current attachment) index =
      if index = attachment.parent then
        (rowOf current index).map (·.set attachment.key (attachedValue current attachment))
      else rowOf current index := by
  unfold attach
  cases isParent : rowOf current attachment.parent with
  | none =>
      by_cases same : index = attachment.parent
      · rw [if_pos same, same, isParent]
        rfl
      · rw [if_neg same]
  | some parent =>
      have isHeld : (current.lookup attachment.parent).isSome := by
        rw [rowOf, Option.join_eq_some_iff] at isParent
        rw [isParent]
        rfl
      simp only [rowOf_setRow, isHeld, and_true]
      split
      · rename_i same
        rw [same, isParent]
        rfl
      · rfl

theorem rowOf_foldl_attach_of_ne {index : Nat}
    (apart : ∀ attachment ∈ attachments, attachment.parent ≠ index) :
    rowOf (attachments.foldl attach current) index = rowOf current index := by
  induction attachments generalizing current with
  | nil => rfl
  | cons attachment rest inductionHypothesis =>
      rw [List.forall_mem_cons] at apart
      rw [List.foldl_cons, inductionHypothesis apart.2, rowOf_attach, if_neg (Ne.symm apart.1)]

theorem isSome_rowOf_foldl_attach (index : Nat) :
    (rowOf (attachments.foldl attach current) index).isSome = (rowOf current index).isSome := by
  induction attachments generalizing current with
  | nil => rfl
  | cons attachment rest inductionHypothesis =>
      rw [List.foldl_cons, inductionHypothesis, rowOf_attach]
      split
      · exact Option.isSome_map
      · rfl

/-- The attachments of one record are appended to its row, if none of them holds it. -/
theorem rowOf_foldl_attach_own {number : Nat}
    (own : ∀ attachment ∈ attachments, attachment.parent = number ∧ number ∉ attachment.children)
    (distinct : (attachments.map (·.key)).Nodup)
    (fresh : ∀ row, rowOf current number = some row →
      ∀ attachment ∈ attachments, attachment.key ∉ row.names) :
    rowOf (attachments.foldl attach current) number =
      (rowOf current number).map (· ++ attachments.map fun attachment =>
        (attachment.key, attachedValue current attachment)) := by
  induction attachments generalizing current with
  | nil =>
      cases isRow : rowOf current number <;> simp [isRow]
  | cons attachment rest inductionHypothesis =>
      rw [List.map_cons, List.nodup_cons] at distinct
      rw [List.forall_mem_cons] at own
      have atNumber := rowOf_attach current attachment number
      rw [if_pos own.1.1.symm] at atNumber
      cases isRow : rowOf current number with
      | none =>
          rw [isRow] at atNumber
          rw [List.foldl_cons, inductionHypothesis own.2 distinct.2, atNumber]
          · rfl
          · intro row impossible
            rw [atNumber] at impossible
            cases impossible
      | some row =>
          have lacks := List.forall_mem_cons.1 (fresh row isRow)
          rw [isRow, Option.map_some, Record.set_of_not_mem lacks.1] at atNumber
          have same : ∀ other ∈ rest,
              attachedValue (attach current attachment) other = attachedValue current other := by
            intro other member
            refine attachedValue_congr fun child isChild => ?_
            rw [rowOf_attach, if_neg]
            rintro rfl
            rw [own.1.1] at isChild
            exact (own.2 other member).2 isChild
          rw [List.foldl_cons, inductionHypothesis own.2 distinct.2, atNumber, Option.map_some,
            Option.map_some, List.map_congr_left fun other member => by rw [same other member],
            List.map_cons, List.append_assoc]
          · rfl
          · intro row' isRow' other member inNames
            rw [atNumber] at isRow'
            cases isRow'
            rw [Record.names, List.map_append, List.mem_append] at inNames
            rcases inNames with inNames | inNames
            · exact lacks.2 other member inNames
            · refine distinct.1 (List.mem_map.2 ⟨other, member, ?_⟩)
              simpa using inNames

/-- What a record shows once all attachments are made: its row, and then what its own group holds,
if nothing before or after the group belongs to it, and nothing from the group on belongs to what the
group holds. -/
theorem rowOf_foldl_attach_group {before own after : List Attachment} {number : Nat}
    (isOwn : ∀ attachment ∈ own, attachment.parent = number)
    (apart : ∀ attachment ∈ before ++ after, attachment.parent ≠ number)
    (settled : ∀ attachment ∈ own, ∀ child ∈ attachment.children,
      child ≠ number ∧ ∀ later ∈ after, later.parent ≠ child)
    (distinct : (own.map (·.key)).Nodup)
    (fresh : ∀ row, rowOf current number = some row →
      ∀ attachment ∈ own, attachment.key ∉ row.names) :
    rowOf ((before ++ own ++ after).foldl attach current) number =
      (rowOf current number).map (· ++ own.map fun attachment =>
        (attachment.key, attachedValue ((before ++ own ++ after).foldl attach current) attachment)) := by
  rw [List.forall_mem_append] at apart
  have untouched : rowOf (before.foldl attach current) number = rowOf current number :=
    rowOf_foldl_attach_of_ne apart.1
  have complete : ∀ attachment ∈ own, attachedValue (before.foldl attach current) attachment =
      attachedValue ((before ++ own ++ after).foldl attach current) attachment := by
    intro attachment member
    refine attachedValue_congr fun child isChild => ?_
    obtain ⟨isOther, isSettled⟩ := settled attachment member child isChild
    have isOwnOther : ∀ other ∈ own, other.parent ≠ child := fun other member same =>
      isOther (same.symm.trans (isOwn other member))
    rw [List.foldl_append, List.foldl_append, rowOf_foldl_attach_of_ne isSettled,
      rowOf_foldl_attach_of_ne isOwnOther]
  have appended := @rowOf_foldl_attach_own (before.foldl attach current) own number
    (fun attachment member => ⟨isOwn attachment member, fun isChild =>
      (settled attachment member number isChild).1 rfl⟩) distinct (by rwa [untouched])
  rw [untouched] at appended
  have sameFields := List.map_congr_left fun attachment member =>
    congrArg (Prod.mk attachment.key) (complete attachment member)
  rw [← sameFields, List.foldl_append, List.foldl_append, rowOf_foldl_attach_of_ne apart.2,
    appended]

end Groups

end InsertPlan

/-! ## Records of a payload -/

namespace Spot

variable (registry : Registry)

/-- The names of the record's fields that are no columns. -/
def relationKeys (spot : Spot) : List String :=
  (spot.fields.filter fun field => !spot.entity.hasColumn field.1).map Prod.fst

/-- What the record at a place shows of its relations, given what the records at all places show. -/
def nestedFields (spot : Spot) (shown : Place → Option Record) (place : Place) : Record :=
  (spot.relationFields registry).map fun entry =>
    (entry.1.1.1, .collect entry.2.kind.isCollection
      ((spot.fieldEdges registry entry.1).map fun edge =>
        InsertPlan.optionValue (shown (place ++ [edge.1]))))

/-- Whether what is shown at the places of a payload are the rows there, each followed by a field
for every relation of its record. -/
structure Nests (spot : Spot) (row shown : Place → Option Record) : Prop where
  nested : ∀ place above, spot.at? registry place = some above →
    shown place = (row place).map (· ++ above.nestedFields registry shown place)
  keys : ∀ place above, spot.at? registry place = some above →
    (above.nestedFields registry shown place).names = above.relationKeys
  distinct : ∀ place above found, spot.at? registry place = some above → row place = some found →
    (found.names ++ above.relationKeys).Nodup

variable {registry} {spot above : Spot}

theorem names_relationFieldsFrom {fields : List (String × Payload)}
    (known : ∀ field ∈ fields, spot.Known registry field) : ∀ first,
    (spot.relationFieldsFrom registry first fields).map (·.1.1.1) =
      (fields.filter fun field => !spot.entity.hasColumn field.1).map Prod.fst := by
  induction fields with
  | nil => exact fun _ => rfl
  | cons field rest inductionHypothesis =>
      intro first
      rw [List.forall_mem_cons] at known
      have others := inductionHypothesis known.2 (first + 1)
      unfold relationFieldsFrom at others ⊢
      rw [List.zipIdx_cons]
      by_cases isColumn : spot.entity.hasColumn field.1 = true
      · rw [List.filterMap_cons_none (by rw [relation?_of_column isColumn]; rfl), others,
          List.filter_cons_of_neg (by simpa using isColumn)]
      · obtain ⟨relation, named, _⟩ := known.1.resolve_left isColumn
        rw [List.filterMap_cons_some (b := ((field, first), relation)) (by rw [named]; rfl),
          List.map_cons, others, List.filter_cons_of_pos (by simpa using isColumn)]
        rfl

theorem names_relationFields (known : ∀ field ∈ spot.fields, spot.Known registry field) :
    (spot.relationFields registry).map (·.1.1.1) = spot.relationKeys :=
  names_relationFieldsFrom known 0

theorem relationKeys_distinct (once : spot.payload.NamesOnce) : spot.relationKeys.Nodup :=
  (distinct_of_namesOnce once).sublist (List.filter_sublist.map _)

end Spot

namespace RootPart

/-- The row at a place, given the rows of operations. -/
def rowAt (part : RootPart) (rows : InsertPlan.Rows) (place : Place) : Option Record :=
  (part.listing.lookup (.record place)).bind fun operation => InsertPlan.rowOf rows operation.index

variable {registry : Registry} {conflict : Option ConflictPolicy} {spot above : Spot}
  {part : RootPart} {place : Place}

theorem IsImage.rowAt_of_numbers (image : part.IsImage registry conflict spot) {number : Nat}
    (numbered : part.listing.Numbers place number) (rows : InsertPlan.Rows) :
    part.rowAt rows place = InsertPlan.rowOf rows number := by
  obtain ⟨operation, member, rfl⟩ := numbered
  rw [rowAt, lookup_of_mem image.distinct member]
  rfl

/-- Every record of the payload has its operation. -/
theorem IsImage.exists_operation (image : part.IsImage registry conflict spot)
    (found : spot.at? registry place = some above) :
    ∃ operation, (.record place, operation) ∈ part.listing ∧ operation.IsOf above.entity ∧
      ∀ field ∈ above.fields, above.Known registry field := by
  have occurs : spot.Occurs registry (.record place) := Option.isSome_of_eq_some found
  obtain ⟨⟨site, operation⟩, member, isSite⟩ := List.mem_map.1 ((image.sites _).2 occurs)
  change site = .record place at isSite
  subst isSite
  have described : Describes registry conflict [] spot part.listing (.record place) operation :=
    image.described _ member
  refine ⟨operation, member, image.inserts member found, ?_⟩
  cases described with
  | record found' isRecord known receives isFilled same =>
      rw [found] at found'
      cases found'
      rw [Spot.fields, isRecord]
      exact known

/-- What is planned is an object. -/
theorem IsImage.isObject (image : part.IsImage registry conflict spot) :
    ∃ fields, spot.payload = .object fields := by
  obtain ⟨operation, member, _⟩ := image.isRoot
  have described : Describes registry conflict [] spot part.listing (.record []) operation :=
    image.described _ member
  cases described with
  | record found isRecord known receives isFilled same =>
      cases found
      exact ⟨_, isRecord⟩

theorem IsImage.parent_numbered (image : part.IsImage registry conflict spot)
    (once : spot.payload.NamesOnce) {group : Place × List Attachment} (isGroup : group ∈ part.groups)
    {attachment : Attachment} (member : attachment ∈ group.2) :
    part.listing.Numbers group.1 attachment.parent := by
  obtain ⟨holder, number, atHolder, isNumber, spells⟩ := image.attached group isGroup
  have distinct := Spot.distinct_of_namesOnce (Spot.namesOnce_of_at? once atHolder)
  obtain ⟨_, _, isParent, _⟩ := exists_of_forall₂ (spells distinct) member
  rw [isParent]
  exact isNumber

/-- The attachments of a record stand between those of other records. None that comes after them is
of a record below it. -/
theorem IsImage.split_groups (image : part.IsImage registry conflict spot)
    (once : spot.payload.NamesOnce) (found : spot.at? registry place = some above) {number : Nat}
    (isNumber : part.listing.Numbers place number) :
    ∃ before own after, part.groups = before ++ (place, own) :: after ∧
      List.Forall₂ (AttachedAt registry part.listing place number above)
        (above.relationFields registry) own ∧
      (∀ group ∈ before, group.1 ≠ place) ∧ ∀ group ∈ after, ¬ place <+: group.1 := by
  have occurs : spot.Occurs registry (.record place) := Option.isSome_of_eq_some found
  obtain ⟨⟨place', own⟩, isGroup, same⟩ := List.mem_map.1 ((image.places place).2 occurs)
  change place' = place at same
  subst same
  obtain ⟨above', number', found', isNumber', spells⟩ := image.attached _ isGroup
  rw [found] at found'
  cases found'
  cases image.numbers_unique isNumber isNumber'
  obtain ⟨before, after, split⟩ := List.append_of_mem isGroup
  have nested := image.nested
  rw [split, List.map_append, List.map_cons, List.pairwise_append, List.pairwise_cons] at nested
  obtain ⟨_, ⟨later, _⟩, earlier⟩ := nested
  refine ⟨before, own, after, split,
    spells (Spot.distinct_of_namesOnce (Spot.namesOnce_of_at? once found)), ?_,
    fun group member => later group.1 (List.mem_map_of_mem member)⟩
  intro group member samePlace
  exact earlier group.1 (List.mem_map_of_mem member) place' (List.mem_cons_self ..)
    (samePlace ▸ List.prefix_rfl)

/-- The attachments of a record stand together. No other attachment is of the record, and none that
comes after them is of a record below it. -/
theorem IsImage.split_attachments (image : part.IsImage registry conflict spot)
    (once : spot.payload.NamesOnce) (found : spot.at? registry place = some above) {number : Nat}
    (isNumber : part.listing.Numbers place number) :
    ∃ before own after, part.attachments = before ++ own ++ after ∧
      List.Forall₂ (AttachedAt registry part.listing place number above)
        (above.relationFields registry) own ∧
      (∀ attachment ∈ before ++ after, attachment.parent ≠ number) ∧
      ∀ attachment ∈ after, ∀ step child, part.listing.Numbers (place ++ [step]) child →
        attachment.parent ≠ child := by
  obtain ⟨before, own, after, split, isOwn, isEarlier, isLater⟩ :=
    image.split_groups once found isNumber
  have inGroup : ∀ groups : Groups, groups ⊆ part.groups →
      ∀ attachment ∈ groups.flatMap Prod.snd, ∃ group ∈ groups,
        part.listing.Numbers group.1 attachment.parent := by
    intro groups isSubset attachment member
    obtain ⟨group, isGroup, isMember⟩ := List.mem_flatMap.1 member
    exact ⟨group, isGroup, image.parent_numbered once (isSubset isGroup) isMember⟩
  rw [split] at inGroup
  have isBefore := inGroup before (List.subset_append_left ..)
  have isAfter := inGroup after fun _ member =>
    List.mem_append_right _ (List.mem_cons_of_mem _ member)
  refine ⟨before.flatMap Prod.snd, own, after.flatMap Prod.snd, ?_, isOwn, ?_, ?_⟩
  · rw [attachments, split, List.flatMap_append, List.flatMap_cons, List.append_assoc]
  · intro attachment member same
    rcases List.mem_append.1 member with inBefore | inAfter
    · obtain ⟨group, isGroup, numbered⟩ := isBefore attachment inBefore
      rw [same] at numbered
      exact isEarlier group isGroup (image.place_unique numbered isNumber)
    · obtain ⟨group, isGroup, numbered⟩ := isAfter attachment inAfter
      rw [same] at numbered
      exact isLater group isGroup (image.place_unique isNumber numbered ▸ List.prefix_rfl)
  · intro attachment inAfter step child isChild same
    obtain ⟨group, isGroup, numbered⟩ := isAfter attachment inAfter
    rw [same] at numbered
    exact isLater group isGroup (image.place_unique isChild numbered ▸ List.prefix_append ..)

end RootPart

/-! ## Rows of a plan -/

namespace InsertPlan

/-- Whether rows give every record the columns of its table, and nothing else. A root record may have
no row. -/
def Complete (plan : InsertPlan) (rows : Rows) : Prop :=
  ∀ operation ∈ plan.operations, operation.kind = .entity →
    (∃ row, rowOf rows operation.index = some row ∧ row.names.Nodup ∧
      ∀ name, name ∈ row.names ↔ operation.table.hasColumn name = true) ∨
    operation.index ∈ plan.roots ∧ rowOf rows operation.index = none

/-- The rows of records, each with the records below it. -/
def nestedRows (plan : InsertPlan) (rows : Rows) : Rows :=
  plan.attachments.foldl attach (plan.ownRows rows)

variable {registry : Registry} {conflict : Option ConflictPolicy} {root : Entity}
  {records : List Payload} {plan : InsertPlan} {parts : List RootPart} {rows : Rows}

theorem IsImage.rowOf_ownRows (image : plan.IsImage registry conflict root records parts)
    {operation : Operation} (member : operation ∈ plan.operations)
    (isEntity : operation.kind = .entity) (rows : Rows) :
    rowOf (plan.ownRows rows) operation.index = rowOf rows operation.index := by
  have distinct : ((plan.ownRows rows).map Prod.fst).Nodup := by
    rw [ownRows, List.map_map]
    exact image.numbers_distinct.sublist (List.filter_sublist.map _)
  have owned : (operation.index, rowOf rows operation.index) ∈ plan.ownRows rows :=
    List.mem_map.2 ⟨operation, List.mem_filter.2 ⟨member, decide_eq_true isEntity⟩, rfl⟩
  rw [rowOf, lookup_of_mem distinct owned]
  rfl

/-- The parts of different root records have no number in common. -/
theorem IsImage.parts_apart (image : plan.IsImage registry conflict root records parts)
    {before after : List RootPart} {part other : RootPart}
    (split : parts = before ++ part :: after) (isOther : other ∈ before ++ after)
    {place place' : Place} {number number' : Nat} (numbered : part.listing.Numbers place number)
    (numbered' : other.listing.Numbers place' number') : number' ≠ number := by
  have distinct := image.numbers_distinct
  rw [image.operations, split, List.Nodup, List.pairwise_map, List.pairwise_flatMap,
    List.pairwise_append, List.pairwise_cons] at distinct
  obtain ⟨_, _, ⟨later, _⟩, earlier⟩ := distinct
  obtain ⟨operation, member, rfl⟩ := numbered
  obtain ⟨operation', member', rfl⟩ := numbered'
  have isOwn := List.mem_map_of_mem (f := Prod.snd) member
  have isOthers := List.mem_map_of_mem (f := Prod.snd) member'
  rcases List.mem_append.1 isOther with isEarlier | isLater
  · exact earlier other isEarlier part (List.mem_cons_self ..) _ isOthers _ isOwn
  · exact (later other isLater _ isOwn _ isOthers).symm

/-- Only root records may lack a row. -/
theorem IsImage.isSome_below (image : plan.IsImage registry conflict root records parts)
    (complete : plan.Complete rows) {part : RootPart} (isPart : part ∈ parts) {record : Payload}
    (isImage : part.IsImage registry conflict ⟨root, "", record⟩) {place : Place} {step : Step}
    {child : Nat} (numbered : part.listing.Numbers (place ++ [step]) child) :
    (rowOf (plan.nestedRows rows) child).isSome := by
  obtain ⟨operation, member, rfl⟩ := numbered
  have inPlan := image.mem_operations isPart member
  have isEntity : operation.kind = .entity := (isImage.entities _ member).2 ⟨_, rfl⟩
  rw [nestedRows, isSome_rowOf_foldl_attach, image.rowOf_ownRows inPlan isEntity]
  rcases complete operation inPlan isEntity with ⟨row, isRow, _⟩ | ⟨isRoot, _⟩
  · exact Option.isSome_of_eq_some isRow
  · rw [image.roots] at isRoot
    obtain ⟨other, isOther, same⟩ := List.mem_map.1 isRoot
    obtain ⟨before, after, split⟩ := List.append_of_mem isPart
    obtain ⟨_, _, otherImage⟩ := exists_of_forall₂ image.images isOther
    rw [split, List.mem_append, List.mem_cons, or_left_comm, ← List.mem_append] at isOther
    rcases isOther with rfl | isOther
    · have atRoot := isImage.isRoot
      rw [same] at atRoot
      have impossible := isImage.place_unique atRoot ⟨operation, member, rfl⟩
      simp at impossible
    · exact absurd same (image.parts_apart split isOther ⟨operation, member, rfl⟩ otherImage.isRoot)

/-- The attachments of the other root records are of no record of this one. -/
theorem IsImage.attachments_apart (image : plan.IsImage registry conflict root records parts)
    (once : ∀ record ∈ records, record.NamesOnce) {before after : List RootPart} {part : RootPart}
    (split : parts = before ++ part :: after) {attachment : Attachment}
    (member : attachment ∈ (before ++ after).flatMap RootPart.attachments) {place : Place}
    {number : Nat} (numbered : part.listing.Numbers place number) : attachment.parent ≠ number := by
  obtain ⟨other, isOther, inOther⟩ := List.mem_flatMap.1 member
  have isPart : other ∈ parts := by
    rw [split, List.mem_append, List.mem_cons, or_left_comm, ← List.mem_append]
    exact Or.inr isOther
  obtain ⟨record, isRecord, isImage⟩ := exists_of_forall₂ image.images isPart
  obtain ⟨group, isGroup, inGroup⟩ := List.mem_flatMap.1 inOther
  exact image.parts_apart split isOther numbered
    (isImage.parent_numbered (once record isRecord) isGroup inGroup)

/-- The attachments of a record stand together also among those of all root records. -/
theorem IsImage.split_attachments (image : plan.IsImage registry conflict root records parts)
    (once : ∀ record ∈ records, record.NamesOnce) {part : RootPart} (isPart : part ∈ parts)
    {record : Payload} (isImage : part.IsImage registry conflict ⟨root, "", record⟩)
    (isOnce : record.NamesOnce) {place : Place} {above : Spot}
    (found : (⟨root, "", record⟩ : Spot).at? registry place = some above) {number : Nat}
    (isNumber : part.listing.Numbers place number) :
    ∃ before own after, plan.attachments = before ++ own ++ after ∧
      List.Forall₂ (AttachedAt registry part.listing place number above)
        (above.relationFields registry) own ∧
      (∀ attachment ∈ before ++ after, attachment.parent ≠ number) ∧
      ∀ attachment ∈ after, ∀ step child, part.listing.Numbers (place ++ [step]) child →
        attachment.parent ≠ child := by
  obtain ⟨partsBefore, partsAfter, splitParts⟩ := List.append_of_mem isPart
  obtain ⟨before, own, after, split, isOwn, apart, settled⟩ :=
    isImage.split_attachments isOnce found isNumber
  have apartBefore : ∀ attachment ∈ partsBefore.flatMap RootPart.attachments,
      attachment.parent ≠ number := fun attachment member =>
    image.attachments_apart once splitParts
      (by rw [List.flatMap_append]; exact List.mem_append_left _ member) isNumber
  have apartAfter : ∀ attachment ∈ partsAfter.flatMap RootPart.attachments,
      ∀ place' number', part.listing.Numbers place' number' → attachment.parent ≠ number' :=
    fun attachment member _ _ numbered => image.attachments_apart once splitParts
      (by rw [List.flatMap_append]; exact List.mem_append_right _ member) numbered
  rw [List.forall_mem_append] at apart
  refine ⟨partsBefore.flatMap RootPart.attachments ++ before, own,
    after ++ partsAfter.flatMap RootPart.attachments, ?_, isOwn, ?_, ?_⟩
  · rw [image.attachments, splitParts, List.flatMap_append, List.flatMap_cons, split]
    simp only [List.append_assoc]
  · rw [List.forall_mem_append, List.forall_mem_append, List.forall_mem_append]
    exact ⟨⟨apartBefore, apart.1⟩, apart.2, fun attachment member =>
      apartAfter attachment member place number isNumber⟩
  · rw [List.forall_mem_append]
    exact ⟨settled, fun attachment member step child =>
      apartAfter attachment member (place ++ [step]) child⟩

/-- What the attachments of a record append is what it shows of its relations. -/
theorem IsImage.fields_eq (image : plan.IsImage registry conflict root records parts)
    (complete : plan.Complete rows) {part : RootPart} (isPart : part ∈ parts) {record : Payload}
    (isImage : part.IsImage registry conflict ⟨root, "", record⟩) {place : Place} {number : Nat}
    {above : Spot} {own : List Attachment}
    (isOwn : List.Forall₂ (AttachedAt registry part.listing place number above)
      (above.relationFields registry) own) :
    (own.map fun attachment =>
        (attachment.key, attachedValue (plan.nestedRows rows) attachment)) =
      above.nestedFields registry (part.rowAt (plan.nestedRows rows)) place := by
  refine (map_eq_of_forall₂ isOwn fun entry attachment isAttached => ?_).symm
  obtain ⟨_, isKey, isMany, numbered⟩ := isAttached
  have present : ∀ child ∈ attachment.children, (rowOf (plan.nestedRows rows) child).isSome := by
    intro child isChild
    obtain ⟨edge, _, isNumber⟩ := exists_of_forall₂ numbered isChild
    exact image.isSome_below complete isPart isImage isNumber
  rw [attachedValue_eq_collect present, isKey, isMany]
  refine congrArg (fun values => (entry.1.1.1, Value.collect entry.2.kind.isCollection values)) ?_
  exact map_eq_of_forall₂ numbered fun edge child isNumber => by
    rw [isImage.rowAt_of_numbers isNumber]

section Records

variable (image : plan.IsImage registry conflict root records parts) (complete : plan.Complete rows)
  {part : RootPart} (isPart : part ∈ parts) {record : Payload}
  (isImage : part.IsImage registry conflict ⟨root, "", record⟩) (isOnce : record.NamesOnce)
  {place : Place} {above : Spot}
  (found : (⟨root, "", record⟩ : Spot).at? registry place = some above)

include image complete isPart isImage found

/-- The row of a record has each column once, and none of the names of its relations. -/
theorem IsImage.row_unshadowed {row : Record} (isRow : part.rowAt rows place = some row) :
    row.names.Nodup ∧ ∀ name ∈ row.names, name ∉ above.relationKeys := by
  obtain ⟨operation, member, isOf, _⟩ := isImage.exists_operation found
  rw [isImage.rowAt_of_numbers ⟨operation, member, rfl⟩] at isRow
  rcases complete operation (image.mem_operations isPart member) isOf.kind with
    ⟨row', isRow', isDistinct, columns⟩ | ⟨_, isNone⟩
  · rw [isRow] at isRow'
    cases isRow'
    refine ⟨isDistinct, fun name inRow isKey => ?_⟩
    have isColumn := (columns name).1 inRow
    rw [isOf.table] at isColumn
    obtain ⟨field, inFields, rfl⟩ := List.mem_map.1 isKey
    have notColumn := (List.mem_filter.1 inFields).2
    rw [Entity.hasColumn, isColumn] at notColumn
    cases notColumn
  · rw [isRow] at isNone
    cases isNone

include isOnce

/-- What is shown of a record is its row, and then what is shown of the records below it. -/
theorem IsImage.rowAt_nestedRows (once : ∀ record ∈ records, record.NamesOnce) :
    part.rowAt (plan.nestedRows rows) place = (part.rowAt rows place).map
      (· ++ above.nestedFields registry (part.rowAt (plan.nestedRows rows)) place) := by
  obtain ⟨operation, member, isOf, known⟩ := isImage.exists_operation found
  have isNumber : part.listing.Numbers place operation.index := ⟨operation, member, rfl⟩
  obtain ⟨before, own, after, split, isOwn, apart, settled⟩ :=
    image.split_attachments once isPart isImage isOnce found isNumber
  have isOwnRow := image.rowOf_ownRows (image.mem_operations isPart member) isOf.kind rows
  have isRowAt := isImage.rowAt_of_numbers isNumber rows
  have ownKeys : own.map (·.key) = above.relationKeys := by
    rw [← Spot.names_relationFields known]
    exact (map_eq_of_forall₂ isOwn fun _ _ isAttached => isAttached.2.1.symm).symm
  rw [isImage.rowAt_of_numbers isNumber, isRowAt, ← image.fields_eq complete isPart isImage isOwn,
    ← isOwnRow, nestedRows, split]
  refine rowOf_foldl_attach_group ?_ apart ?_ ?_ ?_
  · intro attachment inOwn
    obtain ⟨_, _, isParent, _⟩ := exists_of_forall₂ isOwn inOwn
    exact isParent
  · intro attachment inOwn child isChild
    obtain ⟨_, _, _, _, _, numbered⟩ := exists_of_forall₂ isOwn inOwn
    obtain ⟨edge, _, isChildNumber⟩ := exists_of_forall₂ numbered isChild
    refine ⟨?_, fun later isLater => settled later isLater edge.1 child isChildNumber⟩
    rintro rfl
    have impossible := isImage.place_unique isChildNumber isNumber
    simp at impossible
  · rw [ownKeys]
    exact Spot.relationKeys_distinct (Spot.namesOnce_of_at? isOnce found)
  · intro row isRow attachment inOwn inNames
    rw [isOwnRow, ← isRowAt] at isRow
    obtain ⟨_, free⟩ := image.row_unshadowed complete isPart isImage found isRow
    refine free attachment.key inNames ?_
    rw [← ownKeys]
    exact List.mem_map_of_mem inOwn

end Records

/-- What is shown of the records of a payload are their rows, with the records below them. -/
theorem IsImage.nests (image : plan.IsImage registry conflict root records parts)
    (once : ∀ record ∈ records, record.NamesOnce) (complete : plan.Complete rows) {part : RootPart}
    (isPart : part ∈ parts) {record : Payload}
    (isImage : part.IsImage registry conflict ⟨root, "", record⟩) (isOnce : record.NamesOnce) :
    (⟨root, "", record⟩ : Spot).Nests registry (part.rowAt rows)
      (part.rowAt (plan.nestedRows rows)) where
  nested := fun _ _ found => image.rowAt_nestedRows complete isPart isImage isOnce found once
  keys := by
    intro place above found
    obtain ⟨_, _, _, known⟩ := isImage.exists_operation found
    rw [Spot.nestedFields, Record.names, List.map_map]
    exact Spot.names_relationFields known
  distinct := by
    intro place above row found isRow
    obtain ⟨isDistinct, free⟩ := image.row_unshadowed complete isPart isImage found isRow
    rw [List.nodup_append]
    refine ⟨isDistinct, Spot.relationKeys_distinct (Spot.namesOnce_of_at? isOnce found), ?_⟩
    rintro name inRow _ isKey rfl
    exact free name inRow isKey

/-! ## Whole payloads -/

end InsertPlan

/-! ## A suppressed record beside one with a child -/

namespace Family

end Family

end RecordGraph

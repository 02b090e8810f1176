import Mathlib.Data.List.Nodup
import RecordGraph.Proofs.Plan.Roots
import RecordGraph.Proofs.Value.Record

/-!
Contract: the values that an operation takes over when a plan is executed.

Owns: which backfill of a column is kept, when all of them are, and that every backfill finds its
value.
Does not own: the rows that a database hands back.

Backfills are applied in order, each by replacing a column. So of several backfills of one column
only the last is kept. A member of a collection that also names a record to belong to over the same
column is linked to that record, and not to the one that holds it.
-/

namespace RecordGraph

namespace InsertPlan

/-- Whether rows have every column of every operation's table. -/
def Covers (plan : InsertPlan) (rows : Rows) : Prop :=
  ∀ operation ∈ plan.operations, ∃ row, rowOf rows operation.index = some row ∧
    ∀ name, operation.table.hasColumn name = true → ∃ value, row.get? name = some value

/-- The value that a backfill copies. -/
def copied (rows : Rows) (backfill : Backfill) : Option Value :=
  (rowOf rows backfill.source).bind fun row => row.get? backfill.sourceColumn

/-- Whether every backfill's column has the value that the backfill copies. -/
def KeepsLinks (rows : Rows) (operation : Operation) (values : Record) : Prop :=
  ∀ backfill ∈ operation.backfills, values.get? backfill.column = copied rows backfill

/-- The backfill of a column that is applied last. -/
def lastBackfill? (backfills : List Backfill) (column : String) : Option Backfill :=
  backfills.reverse.find? (·.column = column)

/-! ## The last backfill of a column -/

theorem applyBackfill_of_copied {rows : Rows} {operation : Operation} {values : Record}
    {backfill : Backfill} {value : Value} (isCopied : copied rows backfill = some value) :
    applyBackfill rows operation values backfill = .ok (values.set backfill.column value) := by
  rcases Option.bind_eq_some_iff.1 isCopied with ⟨row, isRow, isValue⟩
  simp only [applyBackfill, isRow, isValue]
  rfl

theorem lastBackfill?_cons (backfill : Backfill) (rest : List Backfill) (column : String) :
    lastBackfill? (backfill :: rest) column =
      (lastBackfill? rest column).or
        (if backfill.column = column then some backfill else none) := by
  unfold lastBackfill?
  rw [List.reverse_cons, List.find?_append, List.find?_singleton]
  simp only [decide_eq_true_eq]

/-- Applying backfills gives every column the value of its last backfill, and keeps the others. -/
theorem foldlM_applyBackfill {rows : Rows} {operation : Operation} (backfills : List Backfill) :
    ∀ values : Record, (∀ backfill ∈ backfills, ∃ value, copied rows backfill = some value) →
      ∃ resolved, backfills.foldlM (applyBackfill rows operation) values = .ok resolved ∧
        ∀ column, resolved.get? column =
          ((lastBackfill? backfills column).elim (values.get? column) (copied rows)) := by
  induction backfills with
  | nil => exact fun values _ => ⟨values, rfl, fun _ => rfl⟩
  | cons backfill rest inductionHypothesis =>
      intro values present
      rw [List.forall_mem_cons] at present
      rcases present with ⟨⟨value, isCopied⟩, restPresent⟩
      obtain ⟨resolved, isResolved, columns⟩ :=
        inductionHypothesis (values.set backfill.column value) restPresent
      refine ⟨resolved, ?_, ?_⟩
      · rw [List.foldlM_cons, applyBackfill_of_copied isCopied]
        exact isResolved
      · intro column
        rw [columns column, lastBackfill?_cons]
        cases lastBackfill? rest column with
        | some last => rfl
        | none =>
            by_cases same : backfill.column = column
            · rw [if_pos same, ← same, Record.get?_set_self]
              exact isCopied.symm
            · rw [if_neg same, Record.get?_set_of_ne _ _ same]
              rfl

theorem lastBackfill?_eq_some {backfills : List Backfill} {backfill : Backfill}
    (member : backfill ∈ backfills) :
    ∃ last ∈ backfills, last.column = backfill.column ∧
      lastBackfill? backfills backfill.column = some last := by
  have present : (lastBackfill? backfills backfill.column).isSome := by
    rw [lastBackfill?, List.find?_isSome]
    exact ⟨backfill, List.mem_reverse.2 member, by simp⟩
  rcases Option.isSome_iff_exists.1 present with ⟨last, isLast⟩
  refine ⟨last, List.mem_reverse.1 (List.mem_of_find?_eq_some isLast), ?_, isLast⟩
  simpa using List.find?_some isLast

/-- All links are kept if and only if backfills of one column agree. -/
theorem linked_iff_agree {rows : Rows} {operation : Operation} {values : Record}
    (columns : ∀ column, values.get? column =
      (lastBackfill? operation.backfills column).elim (operation.values.get? column)
        (copied rows)) :
    KeepsLinks rows operation values ↔
      ∀ left ∈ operation.backfills, ∀ right ∈ operation.backfills,
        left.column = right.column → copied rows left = copied rows right := by
  constructor
  · intro linked left leftMember right rightMember same
    rw [← linked left leftMember, ← linked right rightMember, same]
  · intro agree backfill member
    rcases lastBackfill?_eq_some member with ⟨last, lastMember, same, isLast⟩
    rw [columns, isLast]
    exact agree last lastMember backfill member same

end InsertPlan

/-! ## Every backfill finds its value -/

theorem Spot.at?_registered {registry : Registry} {above : Spot} (place : Place) :
    ∀ {spot : Spot}, registry.entity spot.entity.name = .ok spot.entity →
      spot.at? registry place = some above →
        registry.entity above.entity.name = .ok above.entity := by
  induction place with
  | nil =>
      intro spot registered found
      cases found
      exact registered
  | cons step rest inductionHypothesis =>
      intro spot registered found
      rcases Option.bind_eq_some_iff.1 found with ⟨edge, followed, below⟩
      rcases Spot.edge?_leads followed with ⟨name, leads⟩
      exact inductionHypothesis (Registry.entity_name leads.found) below

/-- A column that joins a record to another one is a column of its table. -/
theorem Spot.Offers.hasColumn {registry : Registry} {spot : Spot} {place : Place} {column : String}
    (consistent : Registry.Consistent registry)
    (registered : registry.entity spot.entity.name = .ok spot.entity)
    (offers : spot.Offers registry place column) :
    ∃ above, spot.at? registry place = some above ∧ above.entity.table.hasColumn column = true := by
  rcases offers with ⟨above, found, offered⟩
  have isRegistered := Spot.at?_registered place registered found
  refine ⟨above, found, ?_⟩
  rcases offered with ⟨name, edge, leads, rfl⟩ | ⟨holding, name, edge, leads, rfl, rfl⟩
  · have joins := consistent.joins (Spot.resolves_of_relation? leads.named)
    exact consistent.hasColumn isRegistered joins.source
  · have joins := consistent.joins (Spot.resolves_of_relation? leads.named)
    exact consistent.hasColumn leads.found joins.target

theorem Describes.table {registry : Registry} {conflict : Option ConflictPolicy}
    {inbound : List Backfill} {spot above : Spot} {listing : Listing} {place : Place}
    {operation : Operation}
    (described : Describes registry conflict inbound spot listing (.record place) operation)
    (found : spot.at? registry place = some above) : operation.table = above.entity.table := by
  cases described with
  | record found' isRecord known receives isFilled same =>
      rw [found] at found'
      cases found'
      rw [same]

/-! ## Backfills of one operation have different sources -/

theorem RootPart.IsImage.place_unique {registry : Registry} {conflict : Option ConflictPolicy}
    {spot : Spot} {part : RootPart} (image : part.IsImage registry conflict spot)
    {place place' : Place} {number : Nat} (numbered : part.listing.Numbers place number)
    (numbered' : part.listing.Numbers place' number) : place = place' := by
  rcases numbered with ⟨operation, member, same⟩
  rcases numbered' with ⟨operation', member', same'⟩
  have distinct : (part.listing.map (·.2.index)).Nodup := image.increasing.imp Nat.ne_of_lt
  have sameEntry := List.inj_on_of_nodup_map distinct member member' (same.trans same'.symm)
  cases congrArg Prod.fst sameEntry
  rfl

/-- The records whose keys an operation takes over are different ones. -/
theorem Describes.sources_distinct {registry : Registry} {conflict : Option ConflictPolicy}
    {spot : Spot} {listing : Listing} {site : Site} {operation : Operation}
    (described : Describes registry conflict [] spot listing site operation)
    (unique : ∀ place place' number, listing.Numbers place number → listing.Numbers place' number →
      place = place') : (operation.backfills.map (·.source)).Nodup := by
  cases described with
  | @record place above fields received filled _ found isRecord known receives isFilled same =>
      have filledDistinct : (filled.map (·.source)).Nodup := by
        rw [List.Nodup, List.pairwise_map]
        have ordered : (above.owners registry).Pairwise fun left right => left.1.Before right.1 := by
          have steps := Spot.edges_ordered registry above
          rw [Spot.edges, List.pairwise_append] at steps
          exact steps.1
        refine pairwise_of_forall₂ isFilled ordered ?_
        rintro left left' right right' ⟨_, _, numbered⟩ ⟨_, _, numbered'⟩ before sameSource
        rw [← sameSource] at numbered'
        have sameStep := List.append_cancel_left (unique _ _ _ numbered numbered')
        rw [List.singleton_inj] at sameStep
        rw [sameStep] at before
        exact Step.before_irrefl _ before
      rw [same]
      cases receives with
      | top => exact filledDistinct
      | free arrives isFree => exact filledDistinct
      | @linked _ holder edge number arrives isMember numbered =>
          rw [List.singleton_append, List.map_cons, List.nodup_cons]
          refine ⟨?_, filledDistinct⟩
          intro isSource
          obtain ⟨backfill, inFilled, sameSource⟩ := List.mem_map.1 isSource
          rcases exists_of_forall₂ isFilled inFilled with ⟨entry, _, _, _, numbered'⟩
          rcases arrives with ⟨step, holding, rfl, _, _⟩
          rw [sameSource] at numbered'
          have samePlace := congrArg List.length (unique _ _ _ numbered numbered')
          simp only [List.length_append, List.length_singleton] at samePlace
          omega
  | @link place holder edge through table owner linked _ arrives isJoined joins found
      ownerNumbered memberNumbered same =>
      rw [same]
      rcases arrives with ⟨step, holding, rfl, _, _⟩
      have apart : owner ≠ linked := by
        rintro rfl
        have samePlace := congrArg List.length (unique _ _ _ ownerNumbered memberNumbered)
        simp only [List.length_append, List.length_singleton] at samePlace
        omega
      simpa using apart

namespace InsertPlan

section Values

variable {registry : Registry} {conflict : Option ConflictPolicy} {root : Entity}
  {records : List Payload} {plan : InsertPlan} {parts : List RootPart} {rows : Rows}

/-- Every operation of a plan stands in the part of one root record. -/
theorem IsImage.part_of_mem (image : plan.IsImage registry conflict root records parts)
    {operation : Operation} (member : operation ∈ plan.operations) :
    ∃ part ∈ parts, ∃ record ∈ records, ∃ site, (site, operation) ∈ part.listing ∧
      part.IsImage registry conflict ⟨root, "", record⟩ := by
  rw [image.operations] at member
  obtain ⟨part, isPart, inPart⟩ := List.mem_flatMap.1 member
  obtain ⟨⟨site, operation⟩, inListing, rfl⟩ := List.mem_map.1 inPart
  rcases exists_of_forall₂ image.images isPart with ⟨record, isRecord, isImage⟩
  exact ⟨part, isPart, record, isRecord, site, inListing, isImage⟩

theorem IsImage.mem_operations (image : plan.IsImage registry conflict root records parts)
    {part : RootPart} (isPart : part ∈ parts) {entry : Site × Operation}
    (member : entry ∈ part.listing) : entry.2 ∈ plan.operations := by
  rw [image.operations]
  exact List.mem_flatMap.2 ⟨part, isPart, List.mem_map_of_mem member⟩

/-- The row that a backfill copies from is inserted, and has the column. -/
theorem IsImage.source_of_backfill (image : plan.IsImage registry conflict root records parts)
    (consistent : Registry.Consistent registry)
    (registered : registry.entity root.name = .ok root)
    {operation : Operation} (member : operation ∈ plan.operations)
    {backfill : Backfill} (isBackfill : backfill ∈ operation.backfills) :
    ∃ source ∈ plan.operations, source.index = backfill.source ∧
      source.table.hasColumn backfill.sourceColumn = true := by
  rcases image.part_of_mem member with ⟨part, isPart, record, _, site, inListing, isImage⟩
  obtain ⟨place, ⟨source, isSource, sameIndex⟩, _, offers⟩ :=
    (isImage.described _ inListing).source isBackfill
  rcases offers.hasColumn consistent registered with ⟨above, found, isColumn⟩
  refine ⟨source, image.mem_operations isPart isSource, sameIndex, ?_⟩
  rw [(isImage.described _ isSource).table found]
  exact isColumn

theorem IsImage.copied_isSome (image : plan.IsImage registry conflict root records parts)
    (consistent : Registry.Consistent registry)
    (registered : registry.entity root.name = .ok root)
    (covers : plan.Covers rows) {operation : Operation} (member : operation ∈ plan.operations) :
    ∀ backfill ∈ operation.backfills, ∃ value, copied rows backfill = some value := by
  intro backfill isBackfill
  obtain ⟨source, isSource, sameIndex, isColumn⟩ :=
    image.source_of_backfill consistent registered member isBackfill
  rcases covers source isSource with ⟨row, isRow, columns⟩
  rcases columns _ isColumn with ⟨value, isValue⟩
  refine ⟨value, ?_⟩
  rw [copied, ← sameIndex, isRow]
  exact isValue

theorem IsImage.sources_distinct (image : plan.IsImage registry conflict root records parts)
    {operation : Operation} (member : operation ∈ plan.operations) :
    (operation.backfills.map (·.source)).Nodup := by
  rcases image.part_of_mem member with ⟨part, _, record, _, site, inListing, isImage⟩
  exact (isImage.described _ inListing).sources_distinct fun _ _ _ => isImage.place_unique

/-! ## Rows that tell all operations apart -/

/-- The rows in which every column holds the number of its operation. -/
def numberedRows (plan : InsertPlan) : Rows :=
  plan.operations.map fun operation =>
    (operation.index, some (operation.table.columns.map fun column =>
      (column.name, Value.int operation.index)))

theorem IsImage.rowOf_numberedRows (image : plan.IsImage registry conflict root records parts)
    {operation : Operation} (member : operation ∈ plan.operations) :
    rowOf plan.numberedRows operation.index = some (operation.table.columns.map fun column =>
      (column.name, Value.int operation.index)) := by
  have distinct : (plan.numberedRows.map Prod.fst).Nodup := by
    have numbers := image.numbers
    rw [numberedRows, List.map_map]
    change (plan.operations.map (·.index)).Nodup
    rw [numbers]
    exact List.nodup_range
  have inRows := List.mem_map_of_mem (f := fun operation : Operation =>
    (operation.index, some (operation.table.columns.map fun column =>
      (column.name, Value.int operation.index)))) member
  rw [rowOf, lookup_of_mem distinct inRows]
  rfl

theorem get?_numberedRow {operation : Operation} {name : String}
    (isColumn : operation.table.hasColumn name = true) :
    Record.get? (operation.table.columns.map fun column =>
      (column.name, Value.int operation.index)) name = some (.int operation.index) := by
  rcases List.any_eq_true.1 isColumn with ⟨column, member, isName⟩
  rw [← eq_of_beq isName]
  exact Record.get?_map (·.name) (.int operation.index) member

theorem IsImage.covers_numberedRows (image : plan.IsImage registry conflict root records parts) :
    plan.Covers plan.numberedRows := by
  intro operation member
  refine ⟨_, image.rowOf_numberedRows member, fun name isColumn => ?_⟩
  exact ⟨_, get?_numberedRow isColumn⟩

theorem IsImage.copied_numberedRows (image : plan.IsImage registry conflict root records parts)
    (consistent : Registry.Consistent registry)
    (registered : registry.entity root.name = .ok root)
    {operation : Operation} (member : operation ∈ plan.operations)
    {backfill : Backfill} (isBackfill : backfill ∈ operation.backfills) :
    copied plan.numberedRows backfill = some (.int backfill.source) := by
  obtain ⟨source, isSource, sameIndex, isColumn⟩ :=
    image.source_of_backfill consistent registered member isBackfill
  rw [copied, ← sameIndex, image.rowOf_numberedRows isSource]
  exact get?_numberedRow isColumn

/-! ## Which links are kept -/

/-- Values are found for every operation, and keep its links if backfills of one column agree. -/
theorem IsImage.resolveValues_eq_ok (image : plan.IsImage registry conflict root records parts)
    (consistent : Registry.Consistent registry)
    (registered : registry.entity root.name = .ok root)
    {operation : Operation} (member : operation ∈ plan.operations) (covers : plan.Covers rows) :
    ∃ values, resolveValues operation rows = .ok values ∧
      (KeepsLinks rows operation values ↔
        ∀ left ∈ operation.backfills, ∀ right ∈ operation.backfills,
          left.column = right.column → copied rows left = copied rows right) := by
  have copies := image.copied_isSome consistent registered covers member
  rcases foldlM_applyBackfill operation.backfills operation.values copies with
    ⟨values, isResolved, columns⟩
  exact ⟨values, isResolved, linked_iff_agree columns⟩

/-- The rows that tell all operations apart agree on no two backfills of an operation. -/
theorem IsImage.columns_distinct (image : plan.IsImage registry conflict root records parts)
    (consistent : Registry.Consistent registry)
    (registered : registry.entity root.name = .ok root)
    {operation : Operation} (member : operation ∈ plan.operations)
    (agree : ∀ left ∈ operation.backfills, ∀ right ∈ operation.backfills,
      left.column = right.column →
        copied plan.numberedRows left = copied plan.numberedRows right) :
    (operation.backfills.map (·.column)).Nodup := by
  have distinct := image.sources_distinct member
  apply distinct.of_map.map_on
  intro left leftMember right rightMember same
  have sameValue := agree left leftMember right rightMember same
  rw [image.copied_numberedRows consistent registered member leftMember,
    image.copied_numberedRows consistent registered member rightMember] at sameValue
  have sameSource : left.source = right.source := by
    have sameNumber := Value.int.inj (Option.some.inj sameValue)
    omega
  exact List.inj_on_of_nodup_map distinct leftMember rightMember sameSource

end Values

/-- Every backfill finds its value. All of them are kept if those of one column agree; so they are
kept for all rows if and only if no two of them are of one column. -/
theorem links_kept_iff {registry : Registry} {config : Config} {entity : String} {payload : Payload}
    {allow : AllowSource Filter} {conflict : Option ConflictPolicy} {plan : InsertPlan}
    (reachable : registry.Reachable)
    (made : InsertPlan.make registry config entity payload allow conflict = .ok plan)
    {operation : Operation} (member : operation ∈ plan.operations) :
    (∀ rows, plan.Covers rows → ∃ values, resolveValues operation rows = .ok values ∧
      (KeepsLinks rows operation values ↔
        ∀ left ∈ operation.backfills, ∀ right ∈ operation.backfills,
          left.column = right.column → copied rows left = copied rows right)) ∧
    ((∀ rows, plan.Covers rows → ∃ values, resolveValues operation rows = .ok values ∧
      KeepsLinks rows operation values) ↔ (operation.backfills.map (·.column)).Nodup) := by
  rcases make_eq_ok made with ⟨readAllow, root, records, found, _, planned⟩
  rcases isImage_of_planned planned with ⟨parts, image⟩
  have consistent := reachable.consistent
  have registered := Registry.entity_name found
  have resolves := fun rows (covers : plan.Covers rows) =>
    image.resolveValues_eq_ok consistent registered member covers
  refine ⟨resolves, ?_, ?_⟩
  · intro kept
    have covers := image.covers_numberedRows
    rcases kept plan.numberedRows covers with ⟨values, isResolved, keeps⟩
    rcases resolves plan.numberedRows covers with ⟨values', isResolved', agreeIff⟩
    rw [isResolved] at isResolved'
    cases isResolved'
    exact image.columns_distinct consistent registered member (agreeIff.1 keeps)
  · intro distinct rows covers
    rcases resolves rows covers with ⟨values, isResolved, agreeIff⟩
    refine ⟨values, isResolved, agreeIff.2 ?_⟩
    intro left leftMember right rightMember same
    rw [List.inj_on_of_nodup_map distinct leftMember rightMember same]

end InsertPlan

/-! ## A child that names another parent -/

namespace Family

/-- A person with a child that names another person as its parent. -/
def adoption : Payload :=
  .object [
    ("name", .scalar (.text "Ann")),
    ("children", .list [
      .object [
        ("name", .scalar (.text "Bo")),
        ("parent", .object [("name", .scalar (.text "Gary"))])]])]

def adoptionRows : InsertPlan.Rows := [
  (0, some [("id", .int 1), ("name", .text "Ann"), ("parentId", .null)]),
  (1, some [("id", .int 2), ("name", .text "Gary"), ("parentId", .null)]),
  (2, some [("id", .int 3), ("name", .text "Bo"), ("parentId", .int 2)])]

def annOperation : Operation where
  index := 0
  kind := .entity
  table := personTable
  values := [("name", .text "Ann")]
  entity := some "Person"

def garyOperation : Operation where
  index := 1
  kind := .entity
  table := personTable
  values := [("name", .text "Gary")]
  entity := some "Person"
  path := "children.parent"

def boOperation : Operation where
  index := 2
  kind := .entity
  table := personTable
  values := [("name", .text "Bo")]
  backfills := [⟨"parentId", 0, "id"⟩, ⟨"parentId", 1, "id"⟩]
  entity := some "Person"
  path := "children"

def adoptionPlan : InsertPlan where
  operations := [annOperation, garyOperation, boOperation]
  attachments := [⟨2, "parent", false, [1]⟩, ⟨0, "children", true, [2]⟩]
  roots := [0]

theorem adoptionPlan_made :
    InsertPlan.make registry {} "Person" adoption (.expression .absent) none = .ok adoptionPlan :=
  rfl

theorem adoptionRows_cover : adoptionPlan.Covers adoptionRows := by
  have columns : ∀ name, personTable.hasColumn name = true →
      name = "id" ∨ name = "name" ∨ name = "parentId" := by
    intro name isColumn
    rcases List.any_eq_true.1 isColumn with ⟨column, member, isName⟩
    have names : ∀ column ∈ personTable.columns,
        column.name = "id" ∨ column.name = "name" ∨ column.name = "parentId" := by
      decide
    rw [← eq_of_beq isName]
    exact names column member
  intro operation member
  have isOne : operation = annOperation ∨ operation = garyOperation ∨ operation = boOperation := by
    simpa [adoptionPlan] using member
  rcases isOne with rfl | rfl | rfl
  · refine ⟨_, rfl, fun name isColumn => ?_⟩
    rcases columns name isColumn with rfl | rfl | rfl <;> exact ⟨_, rfl⟩
  · refine ⟨_, rfl, fun name isColumn => ?_⟩
    rcases columns name isColumn with rfl | rfl | rfl <;> exact ⟨_, rfl⟩
  · refine ⟨_, rfl, fun name isColumn => ?_⟩
    rcases columns name isColumn with rfl | rfl | rfl <;> exact ⟨_, rfl⟩

/-- The link of the child to the person that holds it is not among those that can be kept. -/
theorem links_kept_iff_adoption :
    ¬ ∀ rows, adoptionPlan.Covers rows → ∃ values,
      InsertPlan.resolveValues boOperation rows = .ok values ∧
        InsertPlan.KeepsLinks rows boOperation values := by
  have member : boOperation ∈ adoptionPlan.operations := by
    simp [adoptionPlan]
  rw [(InsertPlan.links_kept_iff registry_reachable adoptionPlan_made member).2]
  decide

/-- The backfill from the person that holds the child is overwritten by the one from the parent
that the child names. -/
theorem holder_link_overwritten :
    ∃ plan operation backfill values,
      InsertPlan.make registry {} "Person" adoption (.expression .absent) none = .ok plan ∧
      plan.Covers adoptionRows ∧ operation ∈ plan.operations ∧
      backfill ∈ operation.backfills ∧
      InsertPlan.resolveValues operation adoptionRows = .ok values ∧
      values.get? backfill.column ≠ InsertPlan.copied adoptionRows backfill := by
  refine ⟨adoptionPlan, boOperation, ⟨"parentId", 0, "id"⟩, _, adoptionPlan_made,
    adoptionRows_cover, ?_, ?_, rfl, ?_⟩
  · simp [adoptionPlan]
  · simp [boOperation]
  · change some (Value.int 2) ≠ some (Value.int 1)
    simp

end Family

end RecordGraph

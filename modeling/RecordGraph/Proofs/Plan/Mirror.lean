import RecordGraph.Proofs.Plan.Bundle
import RecordGraph.Proofs.Plan.Planner

/-!
Contract: what the planner makes of a record is the image of that record.

Owns: images, the bundles that the planner makes of the relations of a record, and the induction
over the greatest depth that puts them together.
Does not own: the roots of a plan.

Planning is one recursion through three kinds of relations. Here it is taken apart again: the
lemmas about owners and collections take it that the planner of the records below makes images, and
only the last one is an induction over the depth.
-/

namespace RecordGraph

/-- Whether a fragment is the image of a record, numbered from `next` on. -/
def Fragment.IsImage (registry : Registry) (conflict : Option ConflictPolicy)
    (inbound : List Backfill) (spot : Spot) (next : Nat) (fragment : Fragment) : Prop :=
  ∃ listing groups, Mirrors registry conflict inbound spot listing next groups ∧
    listing.Numbers [] fragment.root ∧ fragment.operations = listing.map Prod.snd ∧
    fragment.attachments = groups.flatMap Prod.snd

/-- Whether a planner makes images. -/
def InsertContext.Planner.Images (registry : Registry) (plan : Planner) : Prop :=
  ∀ {entity : Entity} {payload : Payload} {path : String} {inbound : List Backfill} {next : Nat}
    {fragment : Fragment},
    plan entity payload path inbound next = .ok fragment →
      fragment.IsImage registry none inbound ⟨entity, path, payload⟩ next

/-- Whether a number is the one that the bundle of an edge gives its record. -/
def Linked (bundles : List Bundle) (edge : Step × Edge) (number : Nat) : Prop :=
  ∃ bundle ∈ bundles, bundle.step = edge.1 ∧ bundle.number = number

/-- Whether bundles of edges hold the operations and the attachments of relatives. -/
structure InsertContext.Relatives.IsImage (registry : Registry) (owner next : Nat)
    (edges : List (Step × Edge)) (bundles : List Bundle) (relatives : Relatives) : Prop where
  fit : Bundles registry owner next edges bundles
  operations : relatives.operations = (bundles.flatMap Bundle.entries).map Prod.snd
  attachments : relatives.attachments = (bundles.flatMap Bundle.placedGroups).flatMap Prod.snd

/-! ## Bundles of single edges -/

section Single

variable {registry : Registry} {owner next : Nat} {edge : Edge} {fragment : Fragment}

/-- The image at the end of an edge is a bundle, given the join row if the edge needs one. -/
theorem Fragment.IsImage.bundle
    (image : fragment.IsImage registry none (edge.inbound owner) edge.spot next)
    (step : Step) (join : Option Operation)
    (joined : edge.relation.kind = .manyToMany → ∃ through table,
      edge.relation.through = some through ∧ registry.table through.table = .ok table ∧
        join = some {
          index := next + fragment.operations.length, kind := .through, table, values := []
          path := edge.spot.path
          backfills := [
            ⟨through.source.column, owner, edge.relation.sourceKey.column⟩,
            ⟨through.target.column, fragment.root, edge.relation.targetKey.column⟩] })
    (unjoined : edge.relation.kind ≠ .manyToMany → join = none) :
    ∃ bundle : Bundle, bundle.step = step ∧ bundle.edge = edge ∧
      bundle.Fits registry owner next ∧ bundle.number = fragment.root ∧
      bundle.entries.map Prod.snd = fragment.operations ++ join.toList ∧
      bundle.placedGroups.flatMap Prod.snd = fragment.attachments := by
  rcases image with ⟨listing, groups, mirrors, numbered, sameOperations, sameAttachments⟩
  refine ⟨⟨step, edge, listing, groups, fragment.root, join⟩, rfl, rfl,
    ⟨mirrors, numbered, ?_, unjoined⟩, rfl, ?_, ?_⟩
  · intro isJoined
    rcases joined isJoined with ⟨through, table, joins, found, isJoin⟩
    refine ⟨_, isJoin, through, table, joins, found, ?_⟩
    rw [sameOperations, List.length_map]
  · rw [sameOperations]
    cases join <;> simp [Bundle.entries, Function.comp_def]
  · rw [sameAttachments]
    simp [Bundle.placedGroups, List.flatMap_map]

theorem Edge.inbound_of_unlinked (notMember : edge.relation.kind ≠ .hasMany) :
    edge.inbound owner = [] := by
  rw [Edge.inbound, if_neg notMember]

theorem Edge.inbound_of_hasMany (isMember : edge.relation.kind = .hasMany) :
    edge.inbound owner =
      [⟨edge.relation.targetKey.column, owner, edge.relation.sourceKey.column⟩] := by
  rw [Edge.inbound, if_pos isMember]

end Single

namespace InsertContext

/-- Putting a bundle in front of others. -/
theorem Relatives.IsImage.cons {registry : Registry} {owner next : Nat} {step : Step} {edge : Edge}
    {edges : List (Step × Edge)} {bundle : Bundle} {bundles : List Bundle}
    {relatives others : Relatives} (isStep : bundle.step = step) (isEdge : bundle.edge = edge)
    (fits : bundle.Fits registry owner next)
    (image : others.IsImage registry owner (next + bundle.entries.length) edges bundles)
    (sameOperations : relatives.operations = bundle.entries.map Prod.snd ++ others.operations)
    (sameAttachments :
      relatives.attachments = bundle.placedGroups.flatMap Prod.snd ++ others.attachments) :
    relatives.IsImage registry owner next ((step, edge) :: edges) (bundle :: bundles) where
  fit := by
    rw [← isStep, ← isEdge]
    exact .cons fits image.fit
  operations := by
    rw [List.flatMap_cons, List.map_append, ← image.operations, sameOperations]
  attachments := by
    rw [List.flatMap_cons, List.flatMap_append, ← image.attachments, sameAttachments]

/-- Putting bundles in front of others. -/
theorem Relatives.IsImage.append {registry : Registry} {owner next : Nat}
    {edges edges' : List (Step × Edge)} {bundles bundles' : List Bundle}
    {relatives others both : Relatives}
    (image : relatives.IsImage registry owner next edges bundles)
    (image' : others.IsImage registry owner (next + relatives.operations.length) edges' bundles')
    (sameOperations : both.operations = relatives.operations ++ others.operations)
    (sameAttachments : both.attachments = relatives.attachments ++ others.attachments) :
    both.IsImage registry owner next (edges ++ edges') (bundles ++ bundles') where
  fit := by
    refine image.fit.append ?_
    rw [← List.length_map (f := Prod.snd), ← image.operations]
    exact image'.fit
  operations := by
    rw [List.flatMap_append, List.map_append, ← image.operations, ← image'.operations,
      sameOperations]
  attachments := by
    rw [List.flatMap_append, List.flatMap_append, ← image.attachments, ← image'.attachments,
      sameAttachments]

/-- Putting the image at the end of an edge in front of others. -/
theorem Relatives.IsImage.front {registry : Registry} {owner next : Nat} {edge : Edge}
    {fragment : Fragment} {edges : List (Step × Edge)} {bundles : List Bundle} {others : Relatives}
    (image : fragment.IsImage registry none (edge.inbound owner) edge.spot next)
    (step : Step) (join : Option Operation)
    (joined : edge.relation.kind = .manyToMany → ∃ through table,
      edge.relation.through = some through ∧ registry.table through.table = .ok table ∧
        join = some {
          index := next + fragment.operations.length, kind := .through, table, values := []
          path := edge.spot.path
          backfills := [
            ⟨through.source.column, owner, edge.relation.sourceKey.column⟩,
            ⟨through.target.column, fragment.root, edge.relation.targetKey.column⟩] })
    (unjoined : edge.relation.kind ≠ .manyToMany → join = none)
    (rest : others.IsImage registry owner (next + (fragment.operations ++ join.toList).length) edges
      bundles) :
    ∃ bundle : Bundle, bundle.step = step ∧ bundle.edge = edge ∧ bundle.number = fragment.root ∧
      ∀ relatives : Relatives,
        relatives.operations = fragment.operations ++ join.toList ++ others.operations →
          relatives.attachments = fragment.attachments ++ others.attachments →
            relatives.IsImage registry owner next ((step, edge) :: edges) (bundle :: bundles) := by
  rcases image.bundle step join joined unjoined with
    ⟨bundle, isStep, isEdge, fits, isNumber, operations, attachments⟩
  refine ⟨bundle, isStep, isEdge, isNumber, ?_⟩
  intro relatives sameOperations sameAttachments
  rw [← operations, List.length_map] at rest
  rw [← operations] at sameOperations
  rw [← attachments] at sameAttachments
  exact .cons isStep isEdge fits rest sameOperations sameAttachments

/-- What a planner makes at the end of an edge. -/
theorem Planner.Images.edge {registry : Registry} {plan : Planner} (images : plan.Images registry)
    {owner next : Nat} {edge : Edge} {inbound : List Backfill} {fragment : Fragment}
    (isInbound : edge.inbound owner = inbound)
    (planned : plan edge.spot.entity edge.spot.payload edge.spot.path inbound next = .ok fragment) :
    fragment.IsImage registry none (edge.inbound owner) edge.spot next := by
  rw [isInbound]
  exact images planned

end InsertContext

theorem Linked.mono {bundles bundles' : List Bundle} (included : ∀ bundle ∈ bundles, bundle ∈ bundles')
    {edge : Step × Edge} {number : Nat} (linked : Linked bundles edge number) :
    Linked bundles' edge number := by
  rcases linked with ⟨bundle, member, same⟩
  exact ⟨bundle, included bundle member, same⟩

namespace InsertContext

section Relations

variable {context : InsertContext} {plan : Planner} {spot : Spot} {owner : Nat}
  {fields : List (String × Payload)} {entries : List RelationEntry}

/-- What is attached under a field: the records at the ends of the edges of the field. -/
def Records (registry : Registry) (spot : Spot) (bundles : List Bundle) (relatives : Relatives)
    (field : (String × Payload) × Nat) : Prop :=
  ∃ numbers, (field.1.1, numbers) ∈ relatives.children ∧
    List.Forall₂ (Linked bundles) (spot.fieldEdges registry field) numbers

theorem Records.mono {registry : Registry} {bundles bundles' : List Bundle}
    {relatives relatives' : Relatives} {field : (String × Payload) × Nat}
    (bundlesIncluded : ∀ bundle ∈ bundles, bundle ∈ bundles')
    (childrenIncluded : ∀ child ∈ relatives.children, child ∈ relatives'.children)
    (records : Records registry spot bundles relatives field) :
    Records registry spot bundles' relatives' field := by
  rcases records with ⟨numbers, member, linked⟩
  exact ⟨numbers, childrenIncluded _ member,
    linked.imp fun _ _ each => Linked.mono bundlesIncluded each⟩

/-- What is attached under those of some fields that name relations of certain kinds. -/
def KindRecords (registry : Registry) (spot : Spot) (isKind : RelationKind → Prop) (first : Nat)
    (fields : List (String × Payload)) (bundles : List Bundle) (relatives : Relatives) : Prop :=
  ∀ field ∈ fields.zipIdx first, ∀ relation, spot.relation? registry field.1.1 = some relation →
    isKind relation.kind → Records registry spot bundles relatives field

section Kinds

variable {registry : Registry} {isKind : RelationKind → Prop} {first : Nat}
variable {bundles bundles' : List Bundle} {relatives relatives' : Relatives}
variable {name : String} {payload : Payload}

/-- A field that names no relation of these kinds has nothing attached. -/
theorem KindRecords.skip (records : KindRecords registry spot isKind (first + 1) fields bundles
      relatives)
    (unnamed : ∀ relation, spot.relation? registry name = some relation → ¬ isKind relation.kind) :
    KindRecords registry spot isKind first ((name, payload) :: fields) bundles relatives := by
  unfold KindRecords
  rw [List.zipIdx_cons, List.forall_mem_cons]
  exact ⟨fun relation named ofKind => absurd ofKind (unnamed relation named), records⟩

/-- A field with its numbers in front of others. -/
theorem KindRecords.cons {numbers : List Nat}
    (records : KindRecords registry spot isKind (first + 1) fields bundles relatives)
    (linked : List.Forall₂ (Linked bundles')
      (spot.fieldEdges registry ((name, payload), first)) numbers)
    (included : ∀ bundle ∈ bundles, bundle ∈ bundles')
    (children : relatives'.children = (name, numbers) :: relatives.children) :
    KindRecords registry spot isKind first ((name, payload) :: fields) bundles' relatives' := by
  unfold KindRecords
  rw [List.zipIdx_cons, List.forall_mem_cons]
  constructor
  · intro _ _ _
    refine ⟨numbers, ?_, linked⟩
    rw [children]
    exact List.mem_cons_self ..
  · intro field member relation named ofKind
    apply (records field member relation named ofKind).mono included
    rw [children]
    exact fun _ => List.mem_cons_of_mem _

end Kinds

/-- The edges of a field that names a record to belong to. -/
theorem fieldEdges_of_owner {registry : Registry} {field : (String × Payload) × Nat}
    {relation : Relation} (named : spot.relation? registry field.1.1 = some relation)
    (isOwner : relation.kind = .belongsToOne) :
    spot.fieldEdges registry field =
      ((spot.ownerEdge? registry field.1).map (Step.owner field.2, ·)).toList := by
  rw [Spot.fieldEdges, Spot.memberSteps, Spot.memberEdges_of_owner named isOwner]
  exact List.append_nil _

/-- The edges of a field that names a collection. -/
theorem fieldEdges_of_collection {registry : Registry} {field : (String × Payload) × Nat}
    {relation : Relation} (named : spot.relation? registry field.1.1 = some relation)
    (isCollection : relation.kind ≠ .belongsToOne) :
    spot.fieldEdges registry field = spot.memberSteps registry field := by
  rw [Spot.fieldEdges, Spot.ownerEdge?_of_collection named isCollection]
  rfl

/-- Numbers of bundles are linked to the edges of the bundles. -/
theorem linked_numbers {registry : Registry} {next : Nat} {edges : List (Step × Edge)}
    {bundles : List Bundle} (fit : Bundles registry owner next edges bundles) :
    List.Forall₂ (Linked bundles) edges (bundles.map Bundle.number) := by
  rw [← fit.keys, List.forall₂_map_left_iff, List.forall₂_map_right_iff, List.forall₂_same]
  exact fun bundle member => ⟨bundle, member, rfl, rfl⟩

/-- Planning the records that a record belongs to makes the bundles of its first edges. -/
theorem planOwners_image (images : plan.Images context.registry)
    (resolved : Resolved context.registry spot.entity spot.path fields entries) :
    ∀ {first next : Nat} {relatives : Relatives},
      context.planOwners plan next entries = .ok relatives →
        ∃ bundles, relatives.IsImage context.registry owner next
            (spot.ownersFrom context.registry first fields) bundles ∧
          relatives.backfills = bundles.map Bundle.backfill ∧
          KindRecords context.registry spot (· = .belongsToOne) first fields bundles relatives := by
  induction resolved with
  | nil =>
      intro first next relatives succeeded
      cases Result.pure_eq_ok.1 succeeded
      exact ⟨[], ⟨.nil next, rfl, rfl⟩, rfl, fun _ member => absurd member List.not_mem_nil⟩
  | @column field fields entries isColumn rest inductionHypothesis =>
      intro first next relatives succeeded
      obtain ⟨bundles, image, backfills, records⟩ :=
        @inductionHypothesis (first + 1) next relatives succeeded
      have unrelated : spot.relation? context.registry field.1 = none :=
        Spot.relation?_of_column isColumn
      refine ⟨bundles, ?_, backfills, records.skip fun relation named => ?_⟩
      · rw [Spot.ownersFrom_cons, Spot.ownerEdge?_of_unrelated unrelated]
        exact image
      · rw [unrelated] at named
        cases named
  | @relation name payload relation fields entries notColumn resolves rest inductionHypothesis =>
      intro first next relatives succeeded
      have named := Spot.relation?_of_resolves notColumn resolves
      rcases planOwners_cons_eq_ok succeeded with ⟨notOwner, tailOk⟩ |
        ⟨isOwner, isNull, others, tailOk, rfl⟩ |
        ⟨isOwner, notNull, target, fragment, others, found, planned, tailOk, rfl⟩
      · obtain ⟨bundles, image, backfills, records⟩ :=
          @inductionHypothesis (first + 1) _ _ tailOk
        refine ⟨bundles, ?_, backfills, records.skip fun relation' named' => ?_⟩
        · rw [Spot.ownersFrom_cons, Spot.ownerEdge?_of_collection named notOwner]
          exact image
        · rw [named] at named'
          cases named'
          exact notOwner
      · obtain ⟨bundles, image, backfills, records⟩ :=
          @inductionHypothesis (first + 1) _ _ tailOk
        have unedged : spot.ownerEdge? context.registry (name, payload) = none :=
          Spot.ownerEdge?_of_null isNull
        refine ⟨bundles, ⟨?_, image.operations, image.attachments⟩, backfills,
          records.cons ?_ (fun _ => id) rfl⟩
        · rw [Spot.ownersFrom_cons, unedged]
          exact image.fit
        · rw [fieldEdges_of_owner named isOwner, unedged]
          exact List.Forall₂.nil
      · obtain ⟨bundles, image, backfills, records⟩ :=
          @inductionHypothesis (first + 1) _ _ tailOk
        have followed : spot.ownerEdge? context.registry (name, payload) =
            some ⟨relation, ⟨target, extendPath spot.path name, payload⟩⟩ :=
          Spot.ownerEdge?_of_owner named isOwner notNull found
        have unlinked : relation.kind ≠ .hasMany := by
          rw [isOwner]
          decide
        have unjoined : relation.kind ≠ .manyToMany := by
          rw [isOwner]
          decide
        have atEnd : fragment.IsImage context.registry none
            (Edge.inbound ⟨relation, ⟨target, extendPath spot.path name, payload⟩⟩ owner)
            ⟨target, extendPath spot.path name, payload⟩ next :=
          images.edge (Edge.inbound_of_unlinked unlinked) planned
        rw [← List.append_nil fragment.operations] at image
        obtain ⟨bundle, isStep, isEdge, isNumber, isImage⟩ :=
          Relatives.IsImage.front atEnd (.owner first) none
            (fun isJoined => absurd isJoined unjoined) (fun _ => rfl) image
        refine ⟨bundle :: bundles, ?_, ?_, records.cons ?_ (fun _ => List.mem_cons_of_mem _) rfl⟩
        · rw [Spot.ownersFrom_cons, followed]
          refine isImage _ ?_ rfl
          rw [Option.toList_none, List.append_nil]
        · rw [List.map_cons, ← backfills, Bundle.backfill, isEdge, isNumber]
          rfl
        · rw [fieldEdges_of_owner named isOwner, followed]
          exact List.Forall₂.cons ⟨bundle, List.mem_cons_self .., isStep, isNumber⟩
            List.Forall₂.nil

/-- Planning the items of a collection makes one bundle of each. -/
theorem planMembers_image (images : plan.Images context.registry) {entry : RelationEntry}
    {target : Entity} (field : Nat) (isCollection : entry.relation.kind ≠ .belongsToOne)
    (items : List Payload) :
    ∀ {item next : Nat} {outcome : List Operation × List Attachment × List Nat},
      context.planMembers plan entry target owner next items = .ok outcome →
        ∃ bundles, Relatives.IsImage context.registry owner next
            (((items.map fun payload => (⟨entry.relation, ⟨target, entry.path, payload⟩⟩ : Edge)).zipIdx
              item).map fun edge => (.member field edge.2, edge.1)) bundles
            { operations := outcome.1, attachments := outcome.2.1 } ∧
          outcome.2.2 = bundles.map Bundle.number := by
  induction items with
  | nil =>
      intro item next outcome succeeded
      cases Result.pure_eq_ok.1 succeeded
      exact ⟨[], ⟨.nil next, rfl, rfl⟩, rfl⟩
  | cons payload rest inductionHypothesis =>
      intro item next outcome succeeded
      rw [List.map_cons, List.zipIdx_cons, List.map_cons]
      rcases planMembers_cons_eq_ok succeeded with
        ⟨isJoined, fragment, row, others, planned, joined, tailOk, rfl⟩ |
        ⟨notJoined, fragment, others, planned, tailOk, rfl⟩
      · rcases @inductionHypothesis (item + 1) _ _ tailOk with ⟨bundles, image, numbers⟩
        rcases joinRow_eq_ok joined with ⟨through, table, joins, found, isRow⟩
        have unlinked : entry.relation.kind ≠ .hasMany := by
          rw [isJoined]
          decide
        have atEnd : fragment.IsImage context.registry none
            (Edge.inbound ⟨entry.relation, ⟨target, entry.path, payload⟩⟩ owner)
            ⟨target, entry.path, payload⟩ next :=
          images.edge (Edge.inbound_of_unlinked unlinked) planned
        rw [Nat.add_assoc, ← List.length_singleton (a := row), ← List.length_append] at image
        obtain ⟨bundle, _, _, isNumber, isImage⟩ :=
          Relatives.IsImage.front atEnd (.member field item) (some row)
            (fun _ => ⟨through, table, joins, found, congrArg some isRow⟩)
            (fun notJoined => absurd isJoined notJoined) image
        refine ⟨bundle :: bundles, isImage _ ?_ rfl, ?_⟩
        · rw [List.append_assoc]
          rfl
        · rw [List.map_cons, numbers, isNumber]
      · rcases @inductionHypothesis (item + 1) _ _ tailOk with ⟨bundles, image, numbers⟩
        have linked : entry.relation.kind = .hasMany := by
          cases kind : entry.relation.kind with
          | hasMany => rfl
          | belongsToOne => exact absurd kind isCollection
          | manyToMany => exact absurd kind notJoined
        have atEnd : fragment.IsImage context.registry none
            (Edge.inbound ⟨entry.relation, ⟨target, entry.path, payload⟩⟩ owner)
            ⟨target, entry.path, payload⟩ next :=
          images.edge (Edge.inbound_of_hasMany linked) planned
        rw [← List.append_nil fragment.operations] at image
        obtain ⟨bundle, _, _, isNumber, isImage⟩ :=
          Relatives.IsImage.front atEnd (.member field item) none
            (fun isJoined => absurd isJoined notJoined) (fun _ => rfl) image
        refine ⟨bundle :: bundles, isImage _ ?_ rfl, ?_⟩
        · rw [Option.toList_none, List.append_nil]
        · rw [List.map_cons, numbers, isNumber]

theorem collectionItems_eq_ok {payload : Payload} {path : String} {items : List Payload}
    (listed : collectionItems payload path = .ok items) : items = payload.members := by
  unfold collectionItems at listed
  split at listed
  · exact (Result.pure_eq_ok.1 listed).symm
  · exact (Result.pure_eq_ok.1 listed).symm
  · exact (Result.pure_eq_ok.1 listed).symm
  · exact (Result.pure_eq_ok.1 listed).symm
  · exact absurd listed Result.throw_ne_ok

/-- Planning the collections of a record makes the bundles of its last edges. -/
theorem planCollections_image (images : plan.Images context.registry)
    (resolved : Resolved context.registry spot.entity spot.path fields entries) :
    ∀ {first next : Nat} {relatives : Relatives},
      context.planCollections plan owner next entries = .ok relatives →
        ∃ bundles, relatives.IsImage context.registry owner next
            (spot.membersFrom context.registry first fields) bundles ∧
          KindRecords context.registry spot (· ≠ .belongsToOne) first fields bundles
            relatives := by
  induction resolved with
  | nil =>
      intro first next relatives succeeded
      cases Result.pure_eq_ok.1 succeeded
      exact ⟨[], ⟨.nil next, rfl, rfl⟩, fun _ member => absurd member List.not_mem_nil⟩
  | @column field fields entries isColumn rest inductionHypothesis =>
      intro first next relatives succeeded
      obtain ⟨bundles, image, records⟩ :=
        @inductionHypothesis (first + 1) next relatives succeeded
      have unrelated : spot.relation? context.registry field.1 = none :=
        Spot.relation?_of_column isColumn
      refine ⟨bundles, ?_, records.skip fun relation named => ?_⟩
      · rw [Spot.membersFrom_cons, Spot.memberSteps, Spot.memberEdges_of_unrelated unrelated]
        exact image
      · rw [unrelated] at named
        cases named
  | @relation name payload relation fields entries notColumn resolves rest inductionHypothesis =>
      intro first next relatives succeeded
      have named := Spot.relation?_of_resolves notColumn resolves
      rcases planCollections_cons_eq_ok succeeded with ⟨isOwner, tailOk⟩ |
        ⟨isCollection, items, target, planned, others, listed, found, membersOk, tailOk, rfl⟩
      · rcases @inductionHypothesis (first + 1) _ _ tailOk with ⟨bundles, image, records⟩
        refine ⟨bundles, ?_, records.skip fun relation' named' isCollection => ?_⟩
        · rw [Spot.membersFrom_cons, Spot.memberSteps, Spot.memberEdges_of_owner named isOwner]
          exact image
        · rw [named] at named'
          cases named'
          exact isCollection isOwner
      · rcases @inductionHypothesis (first + 1) _ _ tailOk with ⟨others', image', records⟩
        obtain ⟨bundles, image, numbers⟩ :=
          @planMembers_image _ _ _ images _ _ first isCollection items 0 _ _ membersOk
        have isSteps : spot.memberSteps context.registry ((name, payload), first) =
            ((items.map fun item => (⟨relation, ⟨target, extendPath spot.path name, item⟩⟩ : Edge)).zipIdx
              0).map fun edge => (Step.member first edge.2, edge.1) := by
          rw [Spot.memberSteps, Spot.memberEdges_of_collection named isCollection found,
            collectionItems_eq_ok listed]
        rw [← isSteps] at image
        refine ⟨bundles ++ others', ?_,
          records.cons ?_ (fun _ => List.mem_append_right _) rfl⟩
        · rw [Spot.membersFrom_cons]
          exact image.append image' rfl rfl
        · rw [fieldEdges_of_collection named isCollection, numbers]
          exact (linked_numbers image.fit).imp fun _ _ each =>
            Linked.mono (fun _ => List.mem_append_left _) each

/-! ## Attachments of a record -/

theorem planOwners_keys (entries : List RelationEntry) :
    ∀ {next : Nat} {relatives : Relatives},
      context.planOwners plan next entries = .ok relatives →
        relatives.children.map Prod.fst =
          (entries.filter fun entry => entry.relation.kind = .belongsToOne).map (·.key) := by
  induction entries with
  | nil =>
      intro next relatives succeeded
      cases Result.pure_eq_ok.1 succeeded
      rfl
  | cons entry rest inductionHypothesis =>
      intro next relatives succeeded
      rcases planOwners_cons_eq_ok succeeded with ⟨notOwner, tailOk⟩ |
        ⟨isOwner, _, others, tailOk, rfl⟩ | ⟨isOwner, _, target, fragment, others, _, _, tailOk, rfl⟩
      · rw [List.filter_cons_of_neg (by simpa using notOwner), inductionHypothesis tailOk]
      · rw [List.filter_cons_of_pos (by simpa using isOwner), List.map_cons, List.map_cons,
          inductionHypothesis tailOk]
      · rw [List.filter_cons_of_pos (by simpa using isOwner), List.map_cons, List.map_cons,
          inductionHypothesis tailOk]

theorem planCollections_keys (entries : List RelationEntry) :
    ∀ {next : Nat} {relatives : Relatives},
      context.planCollections plan owner next entries = .ok relatives →
        relatives.children.map Prod.fst =
          (entries.filter fun entry => !decide (entry.relation.kind = .belongsToOne)).map (·.key) := by
  induction entries with
  | nil =>
      intro next relatives succeeded
      cases Result.pure_eq_ok.1 succeeded
      rfl
  | cons entry rest inductionHypothesis =>
      intro next relatives succeeded
      rcases planCollections_cons_eq_ok succeeded with ⟨isOwner, tailOk⟩ |
        ⟨notOwner, items, target, planned, others, _, _, _, tailOk, rfl⟩
      · rw [List.filter_cons_of_neg (by simpa using isOwner), inductionHypothesis tailOk]
      · rw [List.filter_cons_of_pos (by simpa using notOwner), List.map_cons, List.map_cons,
          inductionHypothesis tailOk]

/-- Owners fill in the columns that are taken from the record. -/
theorem planOwners_columns (entries : List RelationEntry) :
    ∀ {next : Nat} {relatives : Relatives},
      context.planOwners plan next entries = .ok relatives →
        relatives.backfills.map (·.column) = ownedColumns entries := by
  induction entries with
  | nil =>
      intro next relatives succeeded
      cases Result.pure_eq_ok.1 succeeded
      rfl
  | cons entry rest inductionHypothesis =>
      intro next relatives succeeded
      unfold ownedColumns
      rcases planOwners_cons_eq_ok succeeded with ⟨notOwner, tailOk⟩ |
        ⟨isOwner, isNull, others, tailOk, rfl⟩ |
        ⟨isOwner, notNull, target, fragment, others, _, _, tailOk, rfl⟩
      · rw [List.filter_cons_of_neg (by simp [notOwner])]
        exact inductionHypothesis tailOk
      · have columns := inductionHypothesis tailOk
        rw [List.filter_cons_of_neg (by simp [isNull])]
        exact columns
      · rw [List.filter_cons_of_pos (by simp [isOwner, notNull]), List.map_cons, List.map_cons,
          inductionHypothesis tailOk]
        rfl

/-- The names of relatives are those of the entries, so they are distinct if those are. -/
theorem children_distinct {next next' : Nat} {owners members : Relatives}
    (ownersOk : context.planOwners plan next entries = .ok owners)
    (membersOk : context.planCollections plan owner next' entries = .ok members)
    (distinct : (entries.map (·.key)).Nodup) :
    ((owners.children ++ members.children).map Prod.fst).Nodup := by
  rw [List.map_append, planOwners_keys entries ownersOk, planCollections_keys entries membersOk,
    ← List.map_append]
  exact ((List.filter_append_perm _ entries).map _).nodup_iff.2 distinct

/-- The entries of a record are its relation fields, in order. -/
theorem relationFields_resolved {registry : Registry}
    (resolved : Resolved registry spot.entity spot.path fields entries) : ∀ first,
    List.Forall₂ (fun named entry => named.1 ∈ fields.zipIdx first ∧
        spot.relation? registry named.1.1.1 = some named.2 ∧ entry.key = named.1.1.1 ∧
        entry.relation = named.2)
      (spot.relationFieldsFrom registry first fields) entries := by
  induction resolved with
  | nil => exact fun _ => List.Forall₂.nil
  | @column field fields entries isColumn rest inductionHypothesis =>
      intro first
      unfold Spot.relationFieldsFrom
      rw [List.zipIdx_cons, List.filterMap_cons_none]
      · refine (inductionHypothesis (first + 1)).imp fun _ _ each => ?_
        exact ⟨List.mem_cons_of_mem _ each.1, each.2⟩
      · rw [Spot.relation?_of_column isColumn]
        rfl
  | @relation name payload relation fields entries notColumn resolves rest inductionHypothesis =>
      intro first
      have named := Spot.relation?_of_resolves notColumn resolves
      unfold Spot.relationFieldsFrom
      rw [List.zipIdx_cons, List.filterMap_cons_some (b := (((name, payload), first), relation))]
      · refine List.Forall₂.cons ⟨List.mem_cons_self .., named, rfl, rfl⟩ ?_
        refine (inductionHypothesis (first + 1)).imp fun _ _ each => ?_
        exact ⟨List.mem_cons_of_mem _ each.1, each.2⟩
      · rw [named]
        rfl

/-- The attachments of a record are those that its relation fields call for. -/
theorem attached_own {registry : Registry} {listing : Listing} {bundles : List Bundle}
    {relatives : Relatives} {index : Nat}
    (isRecord : spot.payload = .object fields)
    (resolved : Resolved registry spot.entity spot.path fields entries)
    (records : ∀ field ∈ fields.zipIdx, ∀ relation,
      spot.relation? registry field.1.1 = some relation →
        Records registry spot bundles relatives field)
    (numbered : ∀ edge number, Linked bundles edge number → listing.Numbers [edge.1] number)
    (own : listing.Numbers [] index)
    (distinctChildren : (entries.map (·.key)).Nodup → (relatives.children.map Prod.fst).Nodup) :
    Attached registry spot listing ([], ownAttachments index entries relatives.children) := by
  have isFields : spot.fields = fields := by rw [Spot.fields, isRecord]
  refine ⟨spot, index, rfl, own, fun distinct => ?_⟩
  rw [isFields] at distinct
  have lookups := distinctChildren (distinct.sublist resolved.keys_sublist)
  rw [Spot.relationFields, isFields, ownAttachments, List.forall₂_map_right_iff]
  refine (relationFields_resolved resolved 0).imp fun named entry corresponds => ?_
  rcases corresponds with ⟨member, isNamed, sameKey, sameRelation⟩
  rcases records named.1 member named.2 isNamed with ⟨numbers, inChildren, linked⟩
  refine ⟨rfl, sameKey, by rw [sameRelation], ?_⟩
  rw [sameKey, lookup_of_mem lookups inChildren]
  exact linked.imp fun edge number each => numbered edge number each

/-! ## Columns of a record -/

/-- The columns that are taken from a record are those that its owners fill in. -/
theorem ownedColumns_eq {relatives : Relatives} {bundles : List Bundle} {next : Nat}
    (isRecord : spot.payload = .object fields)
    (succeeded : context.planOwners plan next entries = .ok relatives)
    (fit : Bundles context.registry owner next (spot.ownersFrom context.registry 0 fields) bundles)
    (backfills : relatives.backfills = bundles.map Bundle.backfill) :
    ownedColumns entries = spot.filledColumns context.registry := by
  have isFields : spot.fields = fields := by rw [Spot.fields, isRecord]
  rw [← planOwners_columns entries succeeded, backfills, Spot.filledColumns, Spot.owners, isFields,
    ← fit.keys, List.map_map, List.map_map]
  rfl

/-- The values of a record's operation are those that the record gives itself. -/
theorem columnValues_eq {registry : Registry} (isRecord : spot.payload = .object fields)
    (owned : ownedColumns entries = spot.filledColumns registry) :
    (Payload.toFields (fields.filter fun field => spot.entity.hasColumn field.1)).filter
        (fun field => !(ownedColumns entries).contains field.1) =
      spot.columnValues registry := by
  have isFields : spot.fields = fields := by rw [Spot.fields, isRecord]
  rw [owned, Payload.toFields_eq_map, List.filter_map, Spot.columnValues, List.filter_filter,
    isFields]
  refine congrArg (List.map _) (List.filter_congr fun field _ => ?_)
  exact Bool.and_comm _ _

/-- No field of a planned record is left out. -/
theorem fields_known {next next' : Nat}
    (resolved : Resolved context.registry spot.entity spot.path fields entries) :
    ∀ {owners members : Relatives}, context.planOwners plan next entries = .ok owners →
      context.planCollections plan owner next' entries = .ok members →
        ∀ field ∈ fields, spot.Known context.registry field := by
  induction resolved generalizing next next' with
  | nil => exact fun _ _ _ member => absurd member List.not_mem_nil
  | @column field fields entries isColumn rest inductionHypothesis =>
      intro owners members ownersOk membersOk
      rw [List.forall_mem_cons]
      exact ⟨Or.inl isColumn, inductionHypothesis ownersOk membersOk⟩
  | @relation name payload relation fields entries notColumn resolves rest inductionHypothesis =>
      intro owners members ownersOk membersOk
      have named := Spot.relation?_of_resolves notColumn resolves
      rw [List.forall_mem_cons]
      rcases planOwners_cons_eq_ok ownersOk with ⟨notOwner, ownersTail⟩ |
        ⟨isOwner, isNull, _, ownersTail, _⟩ | ⟨isOwner, _, target, _, _, found, _, ownersTail, _⟩
      · rcases planCollections_cons_eq_ok membersOk with ⟨isOwner, _⟩ |
          ⟨_, _, target, _, _, _, found, _, membersTail, _⟩
        · exact absurd isOwner notOwner
        · exact ⟨Or.inr ⟨relation, named, Or.inr ⟨target, found⟩⟩,
            inductionHypothesis ownersTail membersTail⟩
      · rcases planCollections_cons_eq_ok membersOk with ⟨_, membersTail⟩ | ⟨notOwner, _⟩
        · exact ⟨Or.inr ⟨relation, named, Or.inl isNull⟩,
            inductionHypothesis ownersTail membersTail⟩
        · exact absurd isOwner notOwner
      · rcases planCollections_cons_eq_ok membersOk with ⟨_, membersTail⟩ | ⟨notOwner, _⟩
        · exact ⟨Or.inr ⟨relation, named, Or.inr ⟨target, found⟩⟩,
            inductionHypothesis ownersTail membersTail⟩
        · exact absurd isOwner notOwner

end Relations

/-! ## Records -/

/-- A planner of records makes images. -/
theorem planRecord_image {context : InsertContext} (remaining : Nat) :
    ∀ {conflict : Option ConflictPolicy} {ancestors : List RecordKey} {entity : Entity}
      {payload : Payload} {path : String} {inbound : List Backfill} {next : Nat}
      {fragment : Fragment},
      context.planRecord conflict remaining ancestors entity payload path inbound next =
          .ok fragment →
        fragment.IsImage context.registry conflict inbound ⟨entity, path, payload⟩ next := by
  induction remaining with
  | zero =>
      intro conflict ancestors entity payload path inbound next fragment succeeded
      rcases planRecord_eq_ok succeeded with ⟨below, _, _, _, _, _, impossible, _⟩
      cases impossible
  | succ remaining inductionHypothesis =>
      intro conflict ancestors entity payload path inbound next fragment succeeded
      obtain ⟨below, ancestors', fields, entries, owners, members, same, isRecord, resolved, ownersOk,
        membersOk, rfl⟩ := planRecord_eq_ok succeeded
      cases same
      have images : Planner.Images context.registry (context.planRecord none remaining ancestors') :=
        fun planned => inductionHypothesis planned
      subst isRecord
      let spot : Spot := ⟨entity, path, .object fields⟩
      let index := next + owners.operations.length
      obtain ⟨ownerBundles, ownersImage, backfills, ownersRecorded⟩ :=
        @planOwners_image context _ spot index _ _ images resolved 0 _ _ ownersOk
      obtain ⟨memberBundles, membersImage, membersRecorded⟩ :=
        @planCollections_image context _ spot index _ _ images resolved 0 _ _ membersOk
      have owned : ownedColumns entries = spot.filledColumns context.registry :=
        ownedColumns_eq rfl ownersOk ownersImage.fit backfills
      have values := columnValues_eq rfl owned
      have records : ∀ field ∈ fields.zipIdx, ∀ relation,
          spot.relation? context.registry field.1.1 = some relation →
            Records context.registry spot (ownerBundles ++ memberBundles)
              { children := owners.children ++ members.children } field := by
        intro field member relation named
        by_cases isOwner : relation.kind = .belongsToOne
        · exact (ownersRecorded field member relation named isOwner).mono
            (fun _ => List.mem_append_left _) fun _ => List.mem_append_left _
        · exact (membersRecorded field member relation named isOwner).mono
            (fun _ => List.mem_append_right _) fun _ => List.mem_append_right _
      let operation := ownOperation context.registry conflict inbound spot index ownerBundles
      let listing := assembledListing ownerBundles memberBundles operation
      have own : listing.Numbers [] index := ⟨operation, mem_assembledListing_iff.2 (Or.inl rfl), rfl⟩
      have numbered : ∀ edge number, Linked (ownerBundles ++ memberBundles) edge number →
          listing.Numbers [edge.1] number := by
        rintro edge number ⟨bundle, member, isStep, isNumber⟩
        rcases Bundles.of_mem ownersImage.fit membersImage.fit bundle member with ⟨_, start, fits⟩
        rw [← isStep, ← isNumber]
        exact (assembled_embeds operation member).numbers fits.numbered
      have attached := attached_own rfl resolved records numbered own
        (children_distinct ownersOk membersOk)
      have counted : index = next + (ownerBundles.flatMap Bundle.entries).length := by
        rw [← List.length_map (f := Prod.snd), ← ownersImage.operations]
      have known : ∀ field ∈ fields, spot.Known context.registry field :=
        fields_known resolved ownersOk membersOk
      refine ⟨listing, _, .of_bundles rfl known ownersImage.fit membersImage.fit counted rfl attached,
        own, ?_, ?_⟩
      · change _ = (assembledListing _ _ _).map Prod.snd
        rw [assembledListing, List.map_append, List.map_cons, ← ownersImage.operations,
          ← membersImage.operations, values, backfills]
        rfl
      · rw [assembledGroups, List.flatMap_append, List.flatMap_append, ← ownersImage.attachments,
          ← membersImage.attachments, List.flatMap_singleton]

end InsertContext

end RecordGraph

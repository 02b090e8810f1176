import RecordGraph.Proofs.Plan.Mirror
import RecordGraph.Proofs.Schema.Reachable

/-!
Contract: a successful plan is the image of its payload.

Owns: the order and the sources of the operations of a root record, `RootPart`, and the image of all
root records.
Does not own: the values that operations take over from each other.

Every record and every link of the payload has exactly one operation. The order of sites is here
turned into the order of operation numbers, since those are what a plan is executed by.
-/

namespace RecordGraph

namespace Mirrors

variable {registry : Registry} {conflict : Option ConflictPolicy} {inbound : List Backfill}
  {spot : Spot} {listing : Listing} {first : Nat} {groups : Groups}

theorem distinct (mirrors : Mirrors registry conflict inbound spot listing first groups) :
    (listing.map Prod.fst).Nodup :=
  mirrors.ordered.imp Site.ne_of_before

theorem increasing (mirrors : Mirrors registry conflict inbound spot listing first groups) :
    (listing.map (·.2.index)).Pairwise (· < ·) := by
  rw [mirrors.numbers]
  exact List.pairwise_lt_range'

/-- Operations are numbered in the order of their sites. -/
theorem index_lt (mirrors : Mirrors registry conflict inbound spot listing first groups)
    {earlier later : Site × Operation} (earlierMember : earlier ∈ listing)
    (laterMember : later ∈ listing) (before : earlier.1.Before later.1) :
    earlier.2.index < later.2.index := by
  have ordered := List.pairwise_map.1 mirrors.ordered
  have increasing := List.pairwise_map.1 mirrors.increasing
  refine List.Pairwise.forall_of_forall_of_flip (R := fun left right : Site × Operation =>
    left.1.Before right.1 → left.2.index < right.2.index) ?_ ?_ ?_ earlierMember laterMember before
  · exact fun entry _ same => absurd rfl (Site.ne_of_before same)
  · refine increasing.imp fun {left right} below => ?_
    exact fun _ => below
  · exact ordered.imp fun siteBefore after => absurd after (Site.before_asymm siteBefore)

/-- Records are inserted by entity operations, and links by join rows. -/
theorem kind_iff (mirrors : Mirrors registry conflict inbound spot listing first groups)
    {entry : Site × Operation} (member : entry ∈ listing) :
    (entry.2.kind = .entity ↔ ∃ place, entry.1 = .record place) ∧
      (entry.2.kind = .through ↔ ∃ place, entry.1 = .link place) := by
  rcases entry with ⟨site, operation⟩
  cases mirrors.described _ member with
  | record found isRecord known receives isFilled same => rw [same]; simp
  | link arrives isJoined joins found ownerNumbered memberNumbered same => rw [same]; simp

section Order

variable {place holder : Place} {edge : Edge} {earlier later : Site × Operation}

/-- A record comes after everything at and below the records that it belongs to. -/
theorem owner_first (mirrors : Mirrors registry conflict inbound spot listing first groups)
    (arrives : spot.Arrives registry place holder edge)
    (isOwner : edge.relation.kind = .belongsToOne)
    (earlierMember : earlier ∈ listing) (laterMember : later ∈ listing)
    (within : earlier.1.Within place) (atHolder : later.1 = .record holder) :
    earlier.2.index < later.2.index := by
  rcases arrives with ⟨step, above, rfl, _, followed⟩
  rcases Spot.owner_of_kind followed isOwner with ⟨field, rfl⟩
  apply mirrors.index_lt earlierMember laterMember
  rw [atHolder]
  exact Site.before_record_of_owner holder within

/-- A record comes before everything at and below the items of its collections. -/
theorem member_after (mirrors : Mirrors registry conflict inbound spot listing first groups)
    (arrives : spot.Arrives registry place holder edge)
    (isCollection : edge.relation.kind ≠ .belongsToOne)
    (earlierMember : earlier ∈ listing) (laterMember : later ∈ listing)
    (atHolder : earlier.1 = .record holder) (within : later.1.Within place) :
    earlier.2.index < later.2.index := by
  rcases arrives with ⟨step, above, rfl, _, followed⟩
  rcases Spot.member_of_kind followed isCollection with ⟨field, item, rfl⟩
  apply mirrors.index_lt earlierMember laterMember
  rw [atHolder]
  exact Site.record_before_of_member holder within

/-- Everything at and below an item comes before everything at and below a later item. -/
theorem items_in_order (mirrors : Mirrors registry conflict inbound spot listing first groups)
    {field item item' : Nat} (below : item < item')
    (earlierMember : earlier ∈ listing) (laterMember : later ∈ listing)
    (earlierWithin : earlier.1.Within (holder ++ [.member field item]))
    (laterWithin : later.1.Within (holder ++ [.member field item'])) :
    earlier.2.index < later.2.index := by
  have steps : (Step.member field item).Before (.member field item') := Or.inr ⟨rfl, below⟩
  apply mirrors.index_lt earlierMember laterMember
  exact Site.before_of_steps holder steps earlierWithin laterWithin

/-- A join row comes after everything else at and below the item that it links. -/
theorem link_last (mirrors : Mirrors registry conflict inbound spot listing first groups)
    (earlierMember : earlier ∈ listing) (laterMember : later ∈ listing)
    (within : earlier.1.Within place) (apart : earlier.1 ≠ .link place)
    (atLink : later.1 = .link place) : earlier.2.index < later.2.index := by
  apply mirrors.index_lt earlierMember laterMember
  rw [atLink]
  exact Site.before_link within apart

end Order

/-- The values that an operation takes over come from the rows of earlier records. -/
theorem sources (mirrors : Mirrors registry conflict [] spot listing first groups)
    {entry : Site × Operation} (member : entry ∈ listing) {backfill : Backfill}
    (isBackfill : backfill ∈ entry.2.backfills) :
    ∃ source ∈ listing, source.2.kind = .entity ∧ source.2.index = backfill.source ∧
      backfill.source < entry.2.index := by
  obtain ⟨place, ⟨operation, inListing, isSource⟩, before, _⟩ :=
    (mirrors.described entry member).source isBackfill
  refine ⟨_, inListing, (mirrors.kind_iff inListing).1.2 ⟨place, rfl⟩, isSource, ?_⟩
  rw [← isSource]
  exact mirrors.index_lt inListing member before

end Mirrors

/-! ## All root records -/

/-- The part of a plan that belongs to one root record. -/
structure RootPart where
  listing : Listing
  groups : Groups
  /-- The number of the root record. -/
  root : Nat

namespace RootPart

def operations (part : RootPart) : List Operation :=
  part.listing.map Prod.snd

def attachments (part : RootPart) : List Attachment :=
  part.groups.flatMap Prod.snd

/-- Whether a part of a plan is the image of a root record. -/
structure IsImage (registry : Registry) (conflict : Option ConflictPolicy) (spot : Spot)
    (part : RootPart) : Prop where
  increasing : (part.listing.map (·.2.index)).Pairwise (· < ·)
  /-- No site is filled twice. -/
  distinct : (part.listing.map Prod.fst).Nodup
  /-- The filled sites are those of the payload. -/
  sites : ∀ site, site ∈ part.listing.map Prod.fst ↔ spot.Occurs registry site
  described : ∀ entry ∈ part.listing,
    Describes registry conflict [] spot part.listing entry.1 entry.2
  entities : ∀ entry ∈ part.listing,
    entry.2.kind = .entity ↔ ∃ place, entry.1 = .record place
  joinRows : ∀ entry ∈ part.listing,
    entry.2.kind = .through ↔ ∃ place, entry.1 = .link place
  ownersFirst : ∀ place holder edge, spot.Arrives registry place holder edge →
    edge.relation.kind = .belongsToOne →
      ∀ earlier ∈ part.listing, ∀ later ∈ part.listing, earlier.1.Within place →
        later.1 = .record holder → earlier.2.index < later.2.index
  membersAfter : ∀ place holder edge, spot.Arrives registry place holder edge →
    edge.relation.kind ≠ .belongsToOne →
      ∀ earlier ∈ part.listing, ∀ later ∈ part.listing, earlier.1 = .record holder →
        later.1.Within place → earlier.2.index < later.2.index
  itemsInOrder : ∀ holder field item item', item < item' →
    ∀ earlier ∈ part.listing, ∀ later ∈ part.listing,
      earlier.1.Within (holder ++ [.member field item]) →
        later.1.Within (holder ++ [.member field item']) → earlier.2.index < later.2.index
  linksLast : ∀ place, ∀ earlier ∈ part.listing, ∀ later ∈ part.listing,
    earlier.1.Within place → earlier.1 ≠ .link place → later.1 = .link place →
      earlier.2.index < later.2.index
  sources : ∀ entry ∈ part.listing, ∀ backfill ∈ entry.2.backfills,
    ∃ source ∈ part.listing, source.2.kind = .entity ∧ source.2.index = backfill.source ∧
      backfill.source < entry.2.index
  isRoot : part.listing.Numbers [] part.root
  /-- Every record has its attachments, and comes after the records below it. -/
  places : ∀ place, place ∈ part.groups.map Prod.fst ↔ spot.Occurs registry (.record place)
  nested : (part.groups.map Prod.fst).Pairwise fun earlier later => ¬ earlier <+: later
  attached : ∀ group ∈ part.groups, Attached registry spot part.listing group

theorem isImage_of_mirrors {registry : Registry} {conflict : Option ConflictPolicy} {spot : Spot}
    {first : Nat} {part : RootPart}
    (mirrors : Mirrors registry conflict [] spot part.listing first part.groups)
    (isRoot : part.listing.Numbers [] part.root) : part.IsImage registry conflict spot where
  increasing := mirrors.increasing
  distinct := mirrors.distinct
  sites := mirrors.sites
  described := mirrors.described
  entities := fun _ member => (mirrors.kind_iff member).1
  joinRows := fun _ member => (mirrors.kind_iff member).2
  ownersFirst := fun _ _ _ arrives isOwner _ earlierMember _ laterMember within atHolder =>
    mirrors.owner_first arrives isOwner earlierMember laterMember within atHolder
  membersAfter := fun _ _ _ arrives isCollection _ earlierMember _ laterMember atHolder within =>
    mirrors.member_after arrives isCollection earlierMember laterMember atHolder within
  itemsInOrder := fun _ _ _ _ below _ earlierMember _ laterMember earlierWithin laterWithin =>
    mirrors.items_in_order below earlierMember laterMember earlierWithin laterWithin
  linksLast := fun _ _ earlierMember _ laterMember within apart atLink =>
    mirrors.link_last earlierMember laterMember within apart atLink
  sources := fun _ member _ isBackfill => mirrors.sources member isBackfill
  isRoot := isRoot
  places := mirrors.places
  nested := mirrors.nested
  attached := mirrors.attached

end RootPart

/-- Whether a plan is the image of root records of an entity, part by part. -/
structure InsertPlan.IsImage (registry : Registry) (conflict : Option ConflictPolicy)
    (entity : Entity) (records : List Payload) (plan : InsertPlan) (parts : List RootPart) : Prop where
  numbers : plan.operations.map (·.index) = List.range plan.operations.length
  images : List.Forall₂ (fun record part => part.IsImage registry conflict ⟨entity, "", record⟩)
    records parts
  operations : plan.operations = parts.flatMap RootPart.operations
  attachments : plan.attachments = parts.flatMap RootPart.attachments
  roots : plan.roots = parts.map RootPart.root

/-- Planning root records makes one part of each, numbered without a gap. -/
theorem InsertContext.planRoots_image {context : InsertContext} {entity : Entity}
    {conflict : Option ConflictPolicy} (records : List Payload) :
    ∀ {next : Nat} {outcome : List Operation × List Attachment × List Nat},
      context.planRoots entity conflict next records = .ok outcome →
        outcome.1.map (·.index) = List.range' next outcome.1.length ∧
          ∃ parts, List.Forall₂ (fun record part =>
              part.IsImage context.registry conflict ⟨entity, "", record⟩) records parts ∧
            outcome.1 = parts.flatMap RootPart.operations ∧
              outcome.2.1 = parts.flatMap RootPart.attachments ∧
                outcome.2.2 = parts.map RootPart.root := by
  induction records with
  | nil =>
      intro next outcome succeeded
      cases Result.pure_eq_ok.1 succeeded
      exact ⟨rfl, [], List.Forall₂.nil, rfl, rfl, rfl⟩
  | cons record rest inductionHypothesis =>
      intro next outcome succeeded
      rcases Result.bind_eq_ok.1 succeeded with ⟨fragment, planned, succeeded⟩
      rcases Result.bind_eq_ok.1 succeeded with ⟨others, tailOk, succeeded⟩
      cases Result.pure_eq_ok.1 succeeded
      rcases inductionHypothesis tailOk with
        ⟨numbers, parts, images, operations, attachments, roots⟩
      obtain ⟨listing, groups, mirrors, isRoot, sameOperations, sameAttachments⟩ :=
        planRecord_image context.maxDepth planned
      constructor
      · have ownNumbers : fragment.operations.map (·.index) =
            List.range' next fragment.operations.length := by
          rw [sameOperations, List.map_map, List.length_map]
          exact mirrors.numbers
        rw [List.map_append, List.length_append, ownNumbers, numbers, List.range'_append_1]
      · refine ⟨⟨listing, groups, fragment.root⟩ :: parts,
          .cons (RootPart.isImage_of_mirrors mirrors isRoot) images, ?_, ?_, ?_⟩
        · rw [List.flatMap_cons, ← operations, sameOperations]
          rfl
        · rw [List.flatMap_cons, ← attachments, sameAttachments]
          rfl
        · rw [List.map_cons, ← roots]

namespace InsertPlan

/-- A successful plan holds what the planner made of the root records. -/
theorem make_eq_ok {registry : Registry} {config : Config} {entity : String} {payload : Payload}
    {allow : AllowSource Filter} {conflict : Option ConflictPolicy} {plan : InsertPlan}
    (made : InsertPlan.make registry config entity payload allow conflict = .ok plan) :
    ∃ readAllow root records, registry.entity entity = .ok root ∧
      rootRecords payload = .ok (plan.many, records) ∧
        InsertContext.planRoots ⟨registry, readAllow, config.maxPayloadDepth⟩ root conflict 0
          records = .ok (plan.operations, plan.attachments, plan.roots) := by
  rcases Result.bind_eq_ok.1 made with ⟨readAllow, _, made⟩
  rcases Result.bind_eq_ok.1 made with ⟨root, found, made⟩
  rcases Result.bind_eq_ok.1 made with ⟨⟨many, records⟩, listed, made⟩
  rcases Result.bind_eq_ok.1 made with ⟨outcome, planned, made⟩
  cases Result.pure_eq_ok.1 made
  exact ⟨readAllow, root, records, found, listed, planned⟩

theorem isImage_of_planned {context : InsertContext} {root : Entity}
    {conflict : Option ConflictPolicy} {records : List Payload} {plan : InsertPlan}
    (planned : context.planRoots root conflict 0 records =
      .ok (plan.operations, plan.attachments, plan.roots)) :
    ∃ parts, plan.IsImage context.registry conflict root records parts := by
  obtain ⟨numbers, parts, images, operations, attachments, roots⟩ :=
    InsertContext.planRoots_image records planned
  refine ⟨parts, ?_, images, operations, attachments, roots⟩
  rw [List.range_eq_range']
  exact numbers

end InsertPlan

/-- A person with a parent, a child and a labelled word. -/
def Family.household : Payload :=
  .object [
    ("name", .scalar (.text "Jo")),
    ("parent", .object [("name", .scalar (.text "Al"))]),
    ("children", .list [.object [("name", .scalar (.text "Cy"))]]),
    ("tags", .object [("word", .scalar (.text "kin"))])]

end RecordGraph

import RecordGraph.Proofs.Lists
import RecordGraph.Proofs.Plan.Spot

/-!
Contract: plans beside the sites that their operations fill.

Owns: `Listing`, the operation that a site calls for, the attachments that a record calls for,
and `Mirrors`, with what all of these say when they are seen from one record further up.
Does not own: the composition of plans, and the planner.

A listing gives each operation of a part of a plan its site. It mirrors a record if its sites are
those of the record, each once and in order, if its numbers are consecutive, and if every operation
is the one that its site calls for.
-/

namespace RecordGraph

/-- Operations beside their sites. -/
abbrev Listing := List (Site × Operation)

/-- Whether a listing gives the record at a place a number. -/
def Listing.Numbers (listing : Listing) (place : Place) (number : Nat) : Prop :=
  ∃ operation, (.record place, operation) ∈ listing ∧ operation.index = number

/-- Attachments beside the place of the record that they belong to. -/
abbrev Groups := List (Place × List Attachment)

namespace Spot

variable (registry : Registry)

/-- The columns that the records it belongs to fill in. -/
def filledColumns (spot : Spot) : List String :=
  (spot.owners registry).map fun entry => entry.2.relation.sourceKey.column

/-- The values that the record itself gives to columns. -/
def columnValues (spot : Spot) : Record :=
  (spot.fields.filter fun field =>
      spot.entity.hasColumn field.1 && !(spot.filledColumns registry).contains field.1).map
    fun field => (field.1, field.2.toValue)

/-- The relations among fields that are counted from a number on. -/
def relationFieldsFrom (spot : Spot) (first : Nat) (fields : List (String × Payload)) :
    List (((String × Payload) × Nat) × Relation) :=
  (fields.zipIdx first).filterMap fun field =>
    (spot.relation? registry field.1.1).map (field, ·)

/-- The fields of the record that name relations, with their relations. -/
def relationFields (spot : Spot) : List (((String × Payload) × Nat) × Relation) :=
  spot.relationFieldsFrom registry 0 spot.fields

/-- The edges of one field. -/
def fieldEdges (spot : Spot) (field : (String × Payload) × Nat) : List (Step × Edge) :=
  ((spot.ownerEdge? registry field.1).map (Step.owner field.2, ·)).toList ++
    spot.memberSteps registry field

end Spot

section Descriptions

variable (registry : Registry) (conflict : Option ConflictPolicy) (inbound : List Backfill)
  (spot : Spot) (listing : Listing)

/-- The backfills that a record receives from the record that holds it. -/
inductive Received : Place → List Backfill → Prop where
  | top : Received [] inbound
  | linked {place holder : Place} {edge : Edge} {number : Nat}
      (arrives : spot.Arrives registry place holder edge)
      (isMember : edge.relation.kind = .hasMany)
      (numbered : listing.Numbers holder number) :
      Received place
        [⟨edge.relation.targetKey.column, number, edge.relation.sourceKey.column⟩]
  | free {place holder : Place} {edge : Edge}
      (arrives : spot.Arrives registry place holder edge)
      (isFree : edge.relation.kind ≠ .hasMany) :
      Received place []

/-- A backfill from the record that an edge of the record at a place leads to. -/
def FilledBy (place : Place) (entry : Step × Edge) (backfill : Backfill) : Prop :=
  backfill.column = entry.2.relation.sourceKey.column ∧
    backfill.sourceColumn = entry.2.relation.targetKey.column ∧
      listing.Numbers (place ++ [entry.1]) backfill.source

/-- The operation that a site calls for. -/
inductive Describes : Site → Operation → Prop where
  | record {place : Place} {above : Spot} {fields : List (String × Payload)}
      {received filled : List Backfill} {operation : Operation}
      (found : spot.at? registry place = some above)
      (isRecord : above.payload = .object fields)
      (known : ∀ field ∈ fields, above.Known registry field)
      (receives : Received registry inbound spot listing place received)
      (isFilled : List.Forall₂ (FilledBy listing place) (above.owners registry) filled)
      (same : operation = {
        index := operation.index, kind := .entity, table := above.entity.table
        values := above.columnValues registry, backfills := received ++ filled
        entity := some above.entity.name, path := above.path
        conflict := if place = [] then conflict else none }) :
      Describes (.record place) operation
  | link {place holder : Place} {edge : Edge} {through : Through} {table : Table}
      {owner member : Nat} {operation : Operation}
      (arrives : spot.Arrives registry place holder edge)
      (isJoined : edge.relation.kind = .manyToMany)
      (joins : edge.relation.through = some through)
      (found : registry.table through.table = .ok table)
      (ownerNumbered : listing.Numbers holder owner)
      (memberNumbered : listing.Numbers place member)
      (same : operation = {
        index := operation.index, kind := .through, table, values := []
        path := edge.spot.path
        backfills := [
          ⟨through.source.column, owner, edge.relation.sourceKey.column⟩,
          ⟨through.target.column, member, edge.relation.targetKey.column⟩] }) :
      Describes (.link place) operation

/-- The attachment that a relation field of the record at a place calls for. -/
def AttachedAt (place : Place) (number : Nat) (above : Spot)
    (entry : ((String × Payload) × Nat) × Relation) (attachment : Attachment) : Prop :=
  attachment.parent = number ∧ attachment.key = entry.1.1.1 ∧
    attachment.many = entry.2.kind.isCollection ∧
      List.Forall₂ (fun edge child => listing.Numbers (place ++ [edge.1]) child)
        (above.fieldEdges registry entry.1) attachment.children

/-- The attachments that the record at a place calls for, if it names every field once. -/
def Attached (group : Place × List Attachment) : Prop :=
  ∃ above number, spot.at? registry group.1 = some above ∧
    listing.Numbers group.1 number ∧
      ((above.fields.map Prod.fst).Nodup →
        List.Forall₂ (AttachedAt registry listing group.1 number above)
          (above.relationFields registry) group.2)

/-- A part of a plan, numbered from `first` on, that is the image of a record. -/
structure Mirrors (first : Nat) (groups : Groups) : Prop where
  numbers : listing.map (·.2.index) = List.range' first listing.length
  ordered : (listing.map Prod.fst).Pairwise Site.Before
  sites : ∀ site, site ∈ listing.map Prod.fst ↔ spot.Occurs registry site
  described : ∀ entry ∈ listing,
    Describes registry conflict inbound spot listing entry.1 entry.2
  places : ∀ place, place ∈ groups.map Prod.fst ↔ spot.Occurs registry (.record place)
  /-- A record comes after the records below it. -/
  nested : (groups.map Prod.fst).Pairwise fun earlier later => ¬ earlier <+: later
  attached : ∀ group ∈ groups, Attached registry spot listing group

end Descriptions

/-! ## A part of a plan below an edge -/

/-- Whether a listing holds another one, seen from the record one step further up. -/
def Listing.Embeds (listing inner : Listing) (step : Step) : Prop :=
  ∀ entry ∈ inner, (entry.1.under step, entry.2) ∈ listing

section Embedding

variable {registry : Registry} {conflict : Option ConflictPolicy} {inbound received : List Backfill}
  {spot : Spot} {edge : Edge} {step : Step} {listing inner : Listing}

theorem Listing.Embeds.numbers (embeds : listing.Embeds inner step) {place : Place} {number : Nat}
    (numbered : inner.Numbers place number) : listing.Numbers (step :: place) number := by
  rcases numbered with ⟨operation, member, same⟩
  exact ⟨operation, embeds _ member, same⟩

theorem FilledBy.under (embeds : listing.Embeds inner step) {place : Place} {entry : Step × Edge}
    {backfill : Backfill} (filled : FilledBy inner place entry backfill) :
    FilledBy listing (step :: place) entry backfill :=
  ⟨filled.1, filled.2.1, embeds.numbers filled.2.2⟩

theorem Received.under (followed : spot.edge? registry step = some edge)
    (embeds : listing.Embeds inner step)
    (atStep : Received registry inbound spot listing [step] received)
    {place : Place} {backfills : List Backfill}
    (receives : Received registry received edge.spot inner place backfills) :
    Received registry inbound spot listing (step :: place) backfills := by
  cases receives with
  | top => exact atStep
  | linked arrives isMember numbered =>
      exact .linked (arrives.under followed) isMember (embeds.numbers numbered)
  | free arrives isFree => exact .free (arrives.under followed) isFree

/-- An operation below an edge is the one that its site calls for, also when seen from above. -/
theorem Describes.under (followed : spot.edge? registry step = some edge)
    (embeds : listing.Embeds inner step)
    (atStep : Received registry inbound spot listing [step] received)
    {site : Site} {operation : Operation}
    (described : Describes registry none received edge.spot inner site operation) :
    Describes registry conflict inbound spot listing (site.under step) operation := by
  cases described with
  | record found isRecord known receives isFilled same =>
      refine .record ((Spot.at?_cons followed _).trans found) isRecord known
        (Received.under followed embeds atStep receives)
        (isFilled.imp fun _ _ filled => filled.under embeds) ?_
      simpa using same
  | link arrives isJoined joins found ownerNumbered memberNumbered same =>
      exact .link (arrives.under followed) isJoined joins found (embeds.numbers ownerNumbered)
        (embeds.numbers memberNumbered) same

theorem Attached.under (followed : spot.edge? registry step = some edge)
    (embeds : listing.Embeds inner step) {group : Place × List Attachment}
    (attached : Attached registry edge.spot inner group) :
    Attached registry spot listing (step :: group.1, group.2) := by
  rcases attached with ⟨above, number, found, numbered, spells⟩
  refine ⟨above, number, (Spot.at?_cons followed _).trans found, embeds.numbers numbered, ?_⟩
  intro distinct
  refine (spells distinct).imp fun _ _ attachedAt => ?_
  exact ⟨attachedAt.1, attachedAt.2.1, attachedAt.2.2.1,
    attachedAt.2.2.2.imp fun _ _ numbered => embeds.numbers numbered⟩

end Embedding

/-! ## Where values come from -/

/-- Whether a column joins the record at a place to another record. -/
def Spot.Offers (registry : Registry) (spot : Spot) (place : Place) (column : String) : Prop :=
  ∃ above, spot.at? registry place = some above ∧
    ((∃ name edge, above.Leads registry name edge ∧ edge.relation.sourceKey.column = column) ∨
      ∃ holding name edge, Spot.Leads registry holding name edge ∧ edge.spot = above ∧
        edge.relation.targetKey.column = column)

section Sources

variable {registry : Registry} {conflict : Option ConflictPolicy} {spot : Spot} {edge : Edge}
  {place holder : Place} {listing : Listing} {site : Site} {operation : Operation}

theorem Spot.Arrives.offers_source (arrives : spot.Arrives registry place holder edge) :
    spot.Offers registry holder edge.relation.sourceKey.column := by
  rcases arrives with ⟨step, above, _, found, followed⟩
  rcases Spot.edge?_leads followed with ⟨name, leads⟩
  exact ⟨above, found, Or.inl ⟨name, edge, leads, rfl⟩⟩

theorem Spot.Arrives.offers_target (arrives : spot.Arrives registry place holder edge) :
    spot.Offers registry place edge.relation.targetKey.column := by
  rcases arrives with ⟨step, above, rfl, found, followed⟩
  rcases Spot.edge?_leads followed with ⟨name, leads⟩
  refine ⟨edge.spot, ?_, Or.inr ⟨above, name, edge, leads, rfl, rfl⟩⟩
  rw [Spot.at?_append, found, Option.bind_some, Spot.at?_cons followed]
  rfl

/-- A value that an operation takes over comes from the join column of an earlier record. -/
theorem Describes.source
    (described : Describes registry conflict [] spot listing site operation) {backfill : Backfill}
    (isBackfill : backfill ∈ operation.backfills) :
    ∃ source, listing.Numbers source backfill.source ∧ (Site.record source).Before site ∧
      spot.Offers registry source backfill.sourceColumn := by
  cases described with
  | @record place above fields received filled _ found isRecord known receives isFilled same =>
      rw [same] at isBackfill
      rcases List.mem_append.1 isBackfill with inReceived | inFilled
      · cases receives with
        | top => exact absurd inReceived List.not_mem_nil
        | free arrives isFree => exact absurd inReceived List.not_mem_nil
        | @linked _ holder edge number arrives isMember numbered =>
            rw [List.mem_singleton.1 inReceived]
            refine ⟨holder, numbered, ?_, arrives.offers_source⟩
            rcases arrives with ⟨step, holding, rfl, _, followed⟩
            have isCollection : edge.relation.kind ≠ .belongsToOne := by
              rw [isMember]
              decide
            rcases Spot.member_of_kind followed isCollection with ⟨field, item, rfl⟩
            exact Site.record_before_of_member holder ⟨[], List.append_nil _⟩
      · obtain ⟨⟨step, edge⟩, inOwners, isColumn, isSourceColumn, numbered⟩ :=
          exists_of_forall₂ isFilled inFilled
        rcases Spot.mem_owners_iff.1 inOwners with ⟨field, rfl, followed⟩
        refine ⟨_, numbered, Site.before_record_of_owner place ⟨[], List.append_nil _⟩, ?_⟩
        rw [isSourceColumn]
        exact Spot.Arrives.offers_target ⟨_, above, rfl, found, followed⟩
  | @link place holder edge through table owner linked _ arrives isJoined joins found
      ownerNumbered memberNumbered same =>
      rw [same] at isBackfill
      rcases List.mem_cons.1 isBackfill with rfl | isBackfill
      · refine ⟨holder, ownerNumbered, ?_, arrives.offers_source⟩
        rcases arrives with ⟨step, holding, rfl, _, followed⟩
        have isCollection : edge.relation.kind ≠ .belongsToOne := by
          rw [isJoined]
          decide
        rcases Spot.member_of_kind followed isCollection with ⟨field, item, rfl⟩
        exact Site.record_before_of_member holder ⟨[], List.append_nil _⟩
      · rw [List.mem_singleton.1 isBackfill]
        refine ⟨place, memberNumbered, Site.before_link ⟨[], List.append_nil _⟩ ?_,
          arrives.offers_target⟩
        intro impossible
        cases impossible

end Sources

end RecordGraph

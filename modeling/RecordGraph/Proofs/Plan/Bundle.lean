import RecordGraph.Proofs.Plan.Listing

/-!
Contract: the plan of a record, put together from the plans below its edges.

Owns: `Bundle`, the part of a plan that belongs to one edge, lists of bundles numbered without a
gap, and the composition of what they mirror.
Does not own: the planner that makes the parts.
-/

namespace RecordGraph

/-- The backfill by which a record with a number links the record at the end of an edge to it. -/
def Edge.inbound (edge : Edge) (owner : Nat) : List Backfill :=
  if edge.relation.kind = .hasMany then
    [⟨edge.relation.targetKey.column, owner, edge.relation.sourceKey.column⟩]
  else []

/-- The part of a plan that belongs to an edge. -/
structure Bundle where
  step : Step
  edge : Edge
  listing : Listing
  groups : Groups
  /-- The number of the record at the end of the edge. -/
  number : Nat
  /-- The insert of the join row, if the edge needs one. -/
  join : Option Operation

namespace Bundle

def entries (bundle : Bundle) : Listing :=
  bundle.listing.map (fun entry => (entry.1.under bundle.step, entry.2)) ++
    bundle.join.toList.map fun operation => (.link [bundle.step], operation)

def placedGroups (bundle : Bundle) : Groups :=
  bundle.groups.map fun group => (bundle.step :: group.1, group.2)

/-- The backfill of the holder's foreign key. -/
def backfill (bundle : Bundle) : Backfill :=
  { column := bundle.edge.relation.sourceKey.column, source := bundle.number
    sourceColumn := bundle.edge.relation.targetKey.column }

/-- The join row of a link. -/
def IsJoin (registry : Registry) (owner : Nat) (bundle : Bundle) (index : Nat)
    (operation : Operation) : Prop :=
  ∃ through table, bundle.edge.relation.through = some through ∧
    registry.table through.table = .ok table ∧ operation = {
      index, kind := .through, table, values := [], path := bundle.edge.spot.path
      backfills := [
        ⟨through.source.column, owner, bundle.edge.relation.sourceKey.column⟩,
        ⟨through.target.column, bundle.number, bundle.edge.relation.targetKey.column⟩] }

/-- Whether a bundle is the image of an edge of a record, given the numbers of the record and of
the first operation. -/
structure Fits (registry : Registry) (owner first : Nat) (bundle : Bundle) : Prop where
  mirrors : Mirrors registry none (bundle.edge.inbound owner) bundle.edge.spot bundle.listing
    first bundle.groups
  numbered : bundle.listing.Numbers [] bundle.number
  joined : bundle.edge.relation.kind = .manyToMany →
    ∃ operation, bundle.join = some operation ∧
      bundle.IsJoin registry owner (first + bundle.listing.length) operation
  unjoined : bundle.edge.relation.kind ≠ .manyToMany → bundle.join = none

end Bundle

/-- Bundles of edges in order, numbered without a gap. -/
inductive Bundles (registry : Registry) (owner : Nat) :
    Nat → List (Step × Edge) → List Bundle → Prop where
  | nil (first : Nat) : Bundles registry owner first [] []
  | cons {first : Nat} {edges : List (Step × Edge)} {bundle : Bundle} {bundles : List Bundle}
      (fits : bundle.Fits registry owner first)
      (rest : Bundles registry owner (first + bundle.entries.length) edges bundles) :
      Bundles registry owner first ((bundle.step, bundle.edge) :: edges) (bundle :: bundles)

namespace Bundle

section Sites

variable {registry : Registry} {owner first : Nat} {bundle : Bundle}

theorem mem_entries_iff {entry : Site × Operation} :
    entry ∈ bundle.entries ↔
      (∃ inner ∈ bundle.listing, entry = (inner.1.under bundle.step, inner.2)) ∨
        ∃ operation, bundle.join = some operation ∧ entry = (.link [bundle.step], operation) := by
  simp only [entries, List.mem_append, List.mem_map, Option.mem_toList]
  constructor
  · rintro (⟨inner, member, same⟩ | ⟨operation, isJoin, same⟩)
    · exact Or.inl ⟨inner, member, same.symm⟩
    · exact Or.inr ⟨operation, isJoin, same.symm⟩
  · rintro (⟨inner, member, same⟩ | ⟨operation, isJoin, same⟩)
    · exact Or.inl ⟨inner, member, same.symm⟩
    · exact Or.inr ⟨operation, isJoin, same.symm⟩

theorem within_of_mem_entries {entry : Site × Operation} (member : entry ∈ bundle.entries) :
    entry.1.Within [bundle.step] := by
  rcases mem_entries_iff.1 member with ⟨inner, _, rfl⟩ | ⟨operation, _, rfl⟩
  · exact ⟨inner.1.place, by simp⟩
  · exact ⟨[], rfl⟩

/-- The sites of a bundle are those at and below its edge. -/
theorem Fits.sites (fits : bundle.Fits registry owner first) (site : Site) :
    site ∈ bundle.entries.map Prod.fst ↔
      (∃ inner, bundle.edge.spot.Occurs registry inner ∧ site = inner.under bundle.step) ∨
        bundle.edge.relation.kind = .manyToMany ∧ site = .link [bundle.step] := by
  simp only [List.mem_map, mem_entries_iff]
  constructor
  · rintro ⟨entry, ⟨inner, member, rfl⟩ | ⟨operation, isJoin, rfl⟩, rfl⟩
    · have occurs := (fits.mirrors.sites inner.1).1 (List.mem_map_of_mem member)
      exact Or.inl ⟨inner.1, occurs, rfl⟩
    · by_cases isJoined : bundle.edge.relation.kind = .manyToMany
      · exact Or.inr ⟨isJoined, rfl⟩
      · rw [fits.unjoined isJoined] at isJoin
        cases isJoin
  · rintro (⟨inner, occurs, rfl⟩ | ⟨isJoined, rfl⟩)
    · obtain ⟨entry, member, rfl⟩ := List.mem_map.1 ((fits.mirrors.sites inner).2 occurs)
      exact ⟨_, Or.inl ⟨entry, member, rfl⟩, rfl⟩
    · rcases fits.joined isJoined with ⟨operation, isJoin, _⟩
      exact ⟨_, Or.inr ⟨operation, isJoin, rfl⟩, rfl⟩

theorem Fits.ordered (fits : bundle.Fits registry owner first) :
    (bundle.entries.map Prod.fst).Pairwise Site.Before := by
  have inner : (bundle.listing.map fun entry => entry.1.under bundle.step).Pairwise
      Site.Before := by
    have below := fits.mirrors.ordered
    rw [List.pairwise_map] at below ⊢
    exact below.imp fun before => (Site.before_under_iff bundle.step _ _).2 before
  unfold entries
  rw [List.map_append, List.map_map, List.pairwise_append]
  refine ⟨inner, ?_, ?_⟩
  · cases bundle.join <;> simp
  · intro left leftMember right rightMember
    obtain ⟨entry, member, rfl⟩ := List.mem_map.1 leftMember
    simp only [List.mem_map, Option.mem_toList] at rightMember
    rcases rightMember with ⟨_, ⟨operation, _, rfl⟩, rfl⟩
    refine Site.before_link ⟨entry.1.place, by simp⟩ ?_
    intro same
    have isLink : entry.1 = .link [] := Site.under_injective bundle.step same
    have occurs := (fits.mirrors.sites entry.1).1 (List.mem_map_of_mem member)
    rw [isLink] at occurs
    exact Spot.not_occurs_link_nil occurs

theorem Fits.numbers (fits : bundle.Fits registry owner first) :
    bundle.entries.map (·.2.index) = List.range' first bundle.entries.length := by
  have inner : (bundle.listing.map fun entry => (entry.1.under bundle.step, entry.2)).map
      (·.2.index) = List.range' first bundle.listing.length := by
    rw [List.map_map]
    exact fits.mirrors.numbers
  unfold entries
  rw [List.map_append, inner, List.length_append, List.length_map]
  by_cases isJoined : bundle.edge.relation.kind = .manyToMany
  · rcases fits.joined isJoined with ⟨operation, isJoin, through, table, _, _, same⟩
    rw [isJoin, same]
    exact List.range'_append_1 (n := 1)
  · rw [fits.unjoined isJoined]
    simp

end Sites

end Bundle

namespace Bundles

variable {registry : Registry} {owner : Nat}

theorem append {first : Nat} {edges edges' : List (Step × Edge)} {bundles bundles' : List Bundle}
    (left : Bundles registry owner first edges bundles)
    (right : Bundles registry owner (first + (bundles.flatMap Bundle.entries).length) edges'
      bundles') :
    Bundles registry owner first (edges ++ edges') (bundles ++ bundles') := by
  induction left with
  | nil first => exact right
  | cons fits rest inductionHypothesis =>
      refine .cons fits (inductionHypothesis ?_)
      rw [List.flatMap_cons, List.length_append, ← Nat.add_assoc] at right
      exact right

theorem keys {first : Nat} {edges : List (Step × Edge)} {bundles : List Bundle}
    (fit : Bundles registry owner first edges bundles) :
    bundles.map (fun bundle => (bundle.step, bundle.edge)) = edges := by
  induction fit with
  | nil first => rfl
  | cons fits rest inductionHypothesis => rw [List.map_cons, inductionHypothesis]

theorem fits_of_mem {first : Nat} {edges : List (Step × Edge)} {bundles : List Bundle}
    (fit : Bundles registry owner first edges bundles) :
    ∀ bundle ∈ bundles, ∃ start, bundle.Fits registry owner start := by
  induction fit with
  | nil first => exact fun _ member => absurd member List.not_mem_nil
  | @cons first edges bundle bundles fits rest inductionHypothesis =>
      intro other member
      rcases List.mem_cons.1 member with rfl | member
      · exact ⟨first, fits⟩
      · exact inductionHypothesis other member

/-- The sites below edges whose steps are in order are in order. -/
theorem ordered {first : Nat} {edges : List (Step × Edge)} {bundles : List Bundle}
    (fit : Bundles registry owner first edges bundles)
    (steps : edges.Pairwise fun left right => left.1.Before right.1) :
    ((bundles.flatMap Bundle.entries).map Prod.fst).Pairwise Site.Before := by
  rw [List.pairwise_map, List.pairwise_flatMap]
  constructor
  · intro bundle member
    rcases fit.fits_of_mem bundle member with ⟨start, fits⟩
    exact List.pairwise_map.1 fits.ordered
  · rw [← fit.keys, List.pairwise_map] at steps
    refine steps.imp fun before left leftMember right rightMember => ?_
    exact Site.before_of_steps [] before (Bundle.within_of_mem_entries leftMember)
      (Bundle.within_of_mem_entries rightMember)

theorem numbers {first : Nat} {edges : List (Step × Edge)} {bundles : List Bundle}
    (fit : Bundles registry owner first edges bundles) :
    (bundles.flatMap Bundle.entries).map (·.2.index) =
      List.range' first (bundles.flatMap Bundle.entries).length := by
  induction fit with
  | nil first => rfl
  | cons fits rest inductionHypothesis =>
      rw [List.flatMap_cons, List.map_append, fits.numbers, inductionHypothesis, List.length_append,
        List.range'_append_1]

end Bundles

/-! ## Composition -/

/-- What the plans below the edges of a record and the operation of the record make together. -/
def assembledListing (owners members : List Bundle) (own : Operation) : Listing :=
  owners.flatMap Bundle.entries ++ (.record [], own) :: members.flatMap Bundle.entries

/-- The attachments of a record come after those of the records below it. -/
def assembledGroups (owners members : List Bundle) (own : List Attachment) : Groups :=
  owners.flatMap Bundle.placedGroups ++ members.flatMap Bundle.placedGroups ++ [([], own)]

/-- The operation of a record, given the plans of the records that it belongs to. -/
def ownOperation (registry : Registry) (conflict : Option ConflictPolicy) (inbound : List Backfill)
    (spot : Spot) (index : Nat) (owners : List Bundle) : Operation where
  index := index
  kind := .entity
  table := spot.entity.table
  values := spot.columnValues registry
  backfills := inbound ++ owners.map Bundle.backfill
  entity := some spot.entity.name
  path := spot.path
  conflict := conflict

section Composition

variable {registry : Registry} {conflict : Option ConflictPolicy} {inbound : List Backfill}
  {spot : Spot} {first index : Nat} {owners members : List Bundle} {attachments : List Attachment}

theorem mem_assembledListing_iff {own : Operation} {entry : Site × Operation} :
    entry ∈ assembledListing owners members own ↔
      entry = (.record [], own) ∨ ∃ bundle ∈ owners ++ members, entry ∈ bundle.entries := by
  simp only [assembledListing, List.mem_append, List.mem_cons, List.mem_flatMap]
  constructor
  · rintro (⟨bundle, member, inEntries⟩ | same | ⟨bundle, member, inEntries⟩)
    · exact Or.inr ⟨bundle, Or.inl member, inEntries⟩
    · exact Or.inl same
    · exact Or.inr ⟨bundle, Or.inr member, inEntries⟩
  · rintro (same | ⟨bundle, member | member, inEntries⟩)
    · exact Or.inr (Or.inl same)
    · exact Or.inl ⟨bundle, member, inEntries⟩
    · exact Or.inr (Or.inr ⟨bundle, member, inEntries⟩)

/-- The bundles of a record, each below an edge and the image of what lies there. -/
theorem Bundles.of_mem
    (ownersFit : Bundles registry index first (spot.owners registry) owners)
    (membersFit : Bundles registry index (index + 1) (spot.members registry) members) :
    ∀ bundle ∈ owners ++ members, spot.edge? registry bundle.step = some bundle.edge ∧
      ∃ start, bundle.Fits registry index start := by
  intro bundle member
  rcases List.mem_append.1 member with member | member
  · have inEdges : (bundle.step, bundle.edge) ∈ spot.owners registry := by
      rw [← ownersFit.keys]
      exact List.mem_map_of_mem member
    rcases Spot.mem_owners_iff.1 inEdges with ⟨_, _, followed⟩
    exact ⟨followed, ownersFit.fits_of_mem bundle member⟩
  · have inEdges : (bundle.step, bundle.edge) ∈ spot.members registry := by
      rw [← membersFit.keys]
      exact List.mem_map_of_mem member
    rcases Spot.mem_members_iff.1 inEdges with ⟨_, _, _, followed⟩
    exact ⟨followed, membersFit.fits_of_mem bundle member⟩

/-- Every edge of a record has its bundle. -/
theorem Bundles.exists_of_edge
    (ownersFit : Bundles registry index first (spot.owners registry) owners)
    (membersFit : Bundles registry index (index + 1) (spot.members registry) members)
    {step : Step} {edge : Edge} (followed : spot.edge? registry step = some edge) :
    ∃ bundle ∈ owners ++ members, bundle.step = step ∧ bundle.edge = edge := by
  have inEdges : (step, edge) ∈ spot.edges registry := Spot.mem_edges_iff.2 followed
  rw [Spot.edges, ← ownersFit.keys, ← membersFit.keys, ← List.map_append, List.mem_map] at inEdges
  rcases inEdges with ⟨bundle, member, same⟩
  exact ⟨bundle, member, congrArg Prod.fst same, congrArg Prod.snd same⟩

theorem assembled_numbers {own : Operation}
    (ownersFit : Bundles registry index first (spot.owners registry) owners)
    (membersFit : Bundles registry index (index + 1) (spot.members registry) members)
    (counted : index = first + (owners.flatMap Bundle.entries).length)
    (numbered : own.index = index) :
    (assembledListing owners members own).map (·.2.index) =
      List.range' first (assembledListing owners members own).length := by
  unfold assembledListing
  rw [List.map_append, List.map_cons, ownersFit.numbers, membersFit.numbers, List.length_append,
    List.length_cons, ← List.range'_append_1, ← counted, numbered, List.range'_succ]

theorem assembled_ordered {own : Operation}
    (ownersFit : Bundles registry index first (spot.owners registry) owners)
    (membersFit : Bundles registry index (index + 1) (spot.members registry) members) :
    ((assembledListing owners members own).map Prod.fst).Pairwise Site.Before := by
  have steps := Spot.edges_ordered registry spot
  rw [Spot.edges, List.pairwise_append] at steps
  rcases steps with ⟨ownerSteps, memberSteps, across⟩
  unfold assembledListing
  rw [List.map_append, List.map_cons, List.pairwise_append, List.pairwise_cons]
  refine ⟨ownersFit.ordered ownerSteps, ⟨?_, membersFit.ordered memberSteps⟩, ?_⟩
  · intro site siteMember
    obtain ⟨entry, entryMember, rfl⟩ := List.mem_map.1 siteMember
    obtain ⟨bundle, member, inEntries⟩ := List.mem_flatMap.1 entryMember
    have inEdges : (bundle.step, bundle.edge) ∈ spot.members registry := by
      rw [← membersFit.keys]
      exact List.mem_map_of_mem member
    rcases Spot.mem_members_iff.1 inEdges with ⟨field, item, isMember, _⟩
    have within := Bundle.within_of_mem_entries inEntries
    rw [isMember] at within
    exact Site.record_before_of_member [] within
  · intro left leftMember right rightMember
    obtain ⟨entry, entryMember, rfl⟩ := List.mem_map.1 leftMember
    obtain ⟨bundle, member, inEntries⟩ := List.mem_flatMap.1 entryMember
    have inEdges : (bundle.step, bundle.edge) ∈ spot.owners registry := by
      rw [← ownersFit.keys]
      exact List.mem_map_of_mem member
    rcases Spot.mem_owners_iff.1 inEdges with ⟨field, isOwner, _⟩
    have within := Bundle.within_of_mem_entries inEntries
    rcases List.mem_cons.1 rightMember with rfl | rightMember
    · rw [isOwner] at within
      exact Site.before_record_of_owner [] within
    · obtain ⟨entry', entryMember', rfl⟩ := List.mem_map.1 rightMember
      obtain ⟨bundle', member', inEntries'⟩ := List.mem_flatMap.1 entryMember'
      have inEdges' : (bundle'.step, bundle'.edge) ∈ spot.members registry := by
        rw [← membersFit.keys]
        exact List.mem_map_of_mem member'
      exact Site.before_of_steps [] (across _ inEdges _ inEdges') within
        (Bundle.within_of_mem_entries inEntries')

theorem assembled_sites {own : Operation}
    (ownersFit : Bundles registry index first (spot.owners registry) owners)
    (membersFit : Bundles registry index (index + 1) (spot.members registry) members)
    (site : Site) :
    site ∈ (assembledListing owners members own).map Prod.fst ↔ spot.Occurs registry site := by
  have ofMem := Bundles.of_mem ownersFit membersFit
  rw [Spot.occurs_iff, List.mem_map]
  constructor
  · rintro ⟨entry, entryMember, rfl⟩
    rcases mem_assembledListing_iff.1 entryMember with rfl | ⟨bundle, member, inEntries⟩
    · exact Or.inl rfl
    · rcases ofMem bundle member with ⟨followed, start, fits⟩
      exact Or.inr ⟨bundle.step, bundle.edge, followed,
        (fits.sites entry.1).1 (List.mem_map_of_mem inEntries)⟩
  · rintro (rfl | ⟨step, edge, followed, atEdge⟩)
    · exact ⟨(.record [], own), mem_assembledListing_iff.2 (Or.inl rfl), rfl⟩
    · rcases Bundles.exists_of_edge ownersFit membersFit followed with ⟨bundle, member, rfl, rfl⟩
      rcases ofMem bundle member with ⟨_, start, fits⟩
      obtain ⟨entry, inEntries, rfl⟩ := List.mem_map.1 ((fits.sites site).2 atEdge)
      exact ⟨entry, mem_assembledListing_iff.2 (Or.inr ⟨bundle, member, inEntries⟩), rfl⟩

/-- A composition holds the plan below each of its edges. -/
theorem assembled_embeds (own : Operation) {bundle : Bundle} (member : bundle ∈ owners ++ members) :
    (assembledListing owners members own).Embeds bundle.listing bundle.step := by
  intro entry inListing
  exact mem_assembledListing_iff.2
    (Or.inr ⟨bundle, member, Bundle.mem_entries_iff.2 (Or.inl ⟨entry, inListing, rfl⟩)⟩)

/-- What a record receives at the end of an edge. -/
theorem received_at_step {listing : Listing} {step : Step} {edge : Edge}
    (followed : spot.edge? registry step = some edge) (numbered : listing.Numbers [] index) :
    Received registry inbound spot listing [step] (edge.inbound index) := by
  unfold Edge.inbound
  by_cases isMember : edge.relation.kind = .hasMany
  · rw [if_pos isMember]
    exact .linked (Spot.arrives_step followed) isMember numbered
  · rw [if_neg isMember]
    exact .free (Spot.arrives_step followed) isMember

/-- The backfills of a record's own operation are those of the records that it belongs to. -/
theorem filled_by_owners {listing : Listing} {entries : List (Step × Edge)}
    (fit : Bundles registry index first entries owners)
    (embeds : ∀ bundle ∈ owners, listing.Embeds bundle.listing bundle.step) :
    List.Forall₂ (FilledBy listing []) entries (owners.map Bundle.backfill) := by
  induction fit with
  | nil first => exact List.Forall₂.nil
  | @cons first edges bundle bundles fits rest inductionHypothesis =>
      refine List.Forall₂.cons ⟨rfl, rfl, ?_⟩ (inductionHypothesis ?_)
      · exact (embeds bundle (List.mem_cons_self ..)).numbers fits.numbered
      · exact fun other member => embeds other (List.mem_cons_of_mem bundle member)

theorem assembled_described {fields : List (String × Payload)}
    (isRecord : spot.payload = .object fields)
    (known : ∀ field ∈ fields, spot.Known registry field)
    (ownersFit : Bundles registry index first (spot.owners registry) owners)
    (membersFit : Bundles registry index (index + 1) (spot.members registry) members)
    {listing : Listing}
    (assembled : listing = assembledListing owners members
      (ownOperation registry conflict inbound spot index owners)) :
    ∀ entry ∈ listing, Describes registry conflict inbound spot listing entry.1 entry.2 := by
  subst assembled
  have ofMem := Bundles.of_mem ownersFit membersFit
  have numbered : (assembledListing owners members
      (ownOperation registry conflict inbound spot index owners)).Numbers [] index :=
    ⟨_, mem_assembledListing_iff.2 (Or.inl rfl), rfl⟩
  intro entry entryMember
  rcases mem_assembledListing_iff.1 entryMember with rfl | ⟨bundle, member, inEntries⟩
  · refine .record rfl isRecord known .top (filled_by_owners ownersFit ?_) ?_
    · exact fun bundle member => assembled_embeds _ (List.mem_append_left members member)
    · rfl
  · rcases ofMem bundle member with ⟨followed, start, fits⟩
    have embeds :=
      assembled_embeds (ownOperation registry conflict inbound spot index owners) member
    rcases Bundle.mem_entries_iff.1 inEntries with ⟨inner, inListing, rfl⟩ | ⟨operation, isJoin, rfl⟩
    · exact (fits.mirrors.described inner inListing).under followed embeds
        (received_at_step followed numbered)
    · by_cases isJoined : bundle.edge.relation.kind = .manyToMany
      · rcases fits.joined isJoined with ⟨operation', isJoin', through, table, joins, found, same⟩
        rw [isJoin] at isJoin'
        cases isJoin'
        refine .link (Spot.arrives_step followed) isJoined joins found numbered
          (embeds.numbers fits.numbered) ?_
        rw [same]
      · rw [fits.unjoined isJoined] at isJoin
        cases isJoin

theorem mem_assembledGroups_iff {own : List Attachment} {group : Place × List Attachment} :
    group ∈ assembledGroups owners members own ↔
      group = ([], own) ∨ ∃ bundle ∈ owners ++ members, ∃ inner ∈ bundle.groups,
        group = (bundle.step :: inner.1, inner.2) := by
  unfold assembledGroups Bundle.placedGroups
  rw [← List.flatMap_append, List.mem_append, List.mem_singleton, List.mem_flatMap]
  simp only [List.mem_map]
  constructor
  · rintro (⟨bundle, member, inner, inGroups, same⟩ | same)
    · exact Or.inr ⟨bundle, member, inner, inGroups, same.symm⟩
    · exact Or.inl same
  · rintro (same | ⟨bundle, member, inner, inGroups, same⟩)
    · exact Or.inr same
    · exact Or.inl ⟨bundle, member, inner, inGroups, same.symm⟩

theorem assembled_places
    (ownersFit : Bundles registry index first (spot.owners registry) owners)
    (membersFit : Bundles registry index (index + 1) (spot.members registry) members)
    (place : Place) :
    place ∈ (assembledGroups owners members attachments).map Prod.fst ↔
      spot.Occurs registry (.record place) := by
  have ofMem := Bundles.of_mem ownersFit membersFit
  rw [List.mem_map]
  constructor
  · rintro ⟨group, inGroups, rfl⟩
    rcases mem_assembledGroups_iff.1 inGroups with rfl | ⟨bundle, member, inner, inInner, rfl⟩
    · rfl
    · rcases ofMem bundle member with ⟨followed, start, fits⟩
      have occurs := (fits.mirrors.places inner.1).1 (List.mem_map_of_mem inInner)
      simp only [Spot.Occurs] at occurs ⊢
      rw [Spot.at?_cons followed]
      exact occurs
  · intro occurs
    cases place with
    | nil => exact ⟨([], attachments), mem_assembledGroups_iff.2 (Or.inl rfl), rfl⟩
    | cons step rest =>
        rcases Option.isSome_iff_exists.1 occurs with ⟨above, found⟩
        rcases Option.bind_eq_some_iff.1 found with ⟨edge, followed, below⟩
        rcases Bundles.exists_of_edge ownersFit membersFit followed with ⟨bundle, member, rfl, rfl⟩
        rcases ofMem bundle member with ⟨_, start, fits⟩
        have inner : bundle.edge.spot.Occurs registry (.record rest) := by
          simp only [Spot.Occurs, below, Option.isSome_some]
        obtain ⟨group, inGroups, rfl⟩ := List.mem_map.1 ((fits.mirrors.places rest).2 inner)
        exact ⟨(bundle.step :: group.1, group.2),
          mem_assembledGroups_iff.2 (Or.inr ⟨bundle, member, group, inGroups, rfl⟩), rfl⟩

theorem assembled_nested
    (ownersFit : Bundles registry index first (spot.owners registry) owners)
    (membersFit : Bundles registry index (index + 1) (spot.members registry) members) :
    ((assembledGroups owners members attachments).map Prod.fst).Pairwise
      fun earlier later => ¬ earlier <+: later := by
  have ofMem := Bundles.of_mem ownersFit membersFit
  have steps := Spot.edges_ordered registry spot
  rw [Spot.edges, ← ownersFit.keys, ← membersFit.keys, ← List.map_append, List.pairwise_map]
    at steps
  unfold assembledGroups
  rw [← List.flatMap_append, List.pairwise_map, List.pairwise_append, List.pairwise_flatMap]
  refine ⟨⟨?_, ?_⟩, List.pairwise_singleton .., ?_⟩
  · intro bundle member
    rcases ofMem bundle member with ⟨_, start, fits⟩
    have below := fits.mirrors.nested
    unfold Bundle.placedGroups
    rw [List.pairwise_map] at below ⊢
    refine below.imp fun apart isPrefix => apart ?_
    exact (List.cons_prefix_cons.1 isPrefix).2
  · refine steps.imp fun {left right} before => ?_
    intro earlier earlierMember later laterMember isPrefix
    obtain ⟨inner, _, rfl⟩ := List.mem_map.1 earlierMember
    obtain ⟨inner', _, rfl⟩ := List.mem_map.1 laterMember
    have same : left.step = right.step := (List.cons_prefix_cons.1 isPrefix).1
    rw [same] at before
    exact Step.before_irrefl right.step before
  · intro earlier earlierMember later laterMember isPrefix
    obtain ⟨bundle, _, inGroups⟩ := List.mem_flatMap.1 earlierMember
    obtain ⟨inner, _, rfl⟩ := List.mem_map.1 inGroups
    rw [List.mem_singleton.1 laterMember] at isPrefix
    simp at isPrefix

theorem assembled_attached {own : Operation}
    (ownersFit : Bundles registry index first (spot.owners registry) owners)
    (membersFit : Bundles registry index (index + 1) (spot.members registry) members)
    (atRecord : Attached registry spot (assembledListing owners members own) ([], attachments)) :
    ∀ group ∈ assembledGroups owners members attachments,
      Attached registry spot (assembledListing owners members own) group := by
  intro group inGroups
  rcases mem_assembledGroups_iff.1 inGroups with rfl | ⟨bundle, member, inner, inInner, rfl⟩
  · exact atRecord
  · rcases Bundles.of_mem ownersFit membersFit bundle member with ⟨followed, start, fits⟩
    exact (fits.mirrors.attached inner inInner).under followed (assembled_embeds own member)

/-- The images of the edges of a record, put together with its own operation, are the image of the
record. -/
theorem Mirrors.of_bundles {fields : List (String × Payload)} {own : Operation}
    (isRecord : spot.payload = .object fields)
    (known : ∀ field ∈ fields, spot.Known registry field)
    (ownersFit : Bundles registry index first (spot.owners registry) owners)
    (membersFit : Bundles registry index (index + 1) (spot.members registry) members)
    (counted : index = first + (owners.flatMap Bundle.entries).length)
    (isOwn : own = ownOperation registry conflict inbound spot index owners)
    (atRecord : Attached registry spot (assembledListing owners members own) ([], attachments)) :
    Mirrors registry conflict inbound spot (assembledListing owners members own) first
      (assembledGroups owners members attachments) where
  numbers := assembled_numbers ownersFit membersFit counted (by rw [isOwn]; rfl)
  ordered := assembled_ordered ownersFit membersFit
  sites := assembled_sites ownersFit membersFit
  described := assembled_described isRecord known ownersFit membersFit (by rw [isOwn])
  places := assembled_places ownersFit membersFit
  nested := assembled_nested ownersFit membersFit
  attached := assembled_attached ownersFit membersFit atRecord

end Composition

end RecordGraph

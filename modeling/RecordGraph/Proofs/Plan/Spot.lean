import RecordGraph.Proofs.Plan.Site
import RecordGraph.Proofs.Result
import Mathlib.Data.List.Basic

/-!
Contract: the records of a payload, and how each is reached from the one that holds it.

Owns: `Spot` and `Edge`, the edges of a record in the order in which they are followed, and the spot
at a place.
Does not own: plans. Nothing here looks at an operation.

A spot is a part of a payload where a record of an entity is expected. A field of the record that
names a relation gives one edge to a record it belongs to, or one edge for each item of a
collection.
-/

namespace RecordGraph

/-- A part of a payload that must be a record. -/
structure Spot where
  entity : Entity
  path : String
  payload : Payload

/-- The relation from a record to a part of one of its fields. -/
structure Edge where
  relation : Relation
  spot : Spot

/-- The items of what a collection holds. -/
def Payload.members : Payload → List Payload
  | .object fields => [.object fields]
  | .again => [.again]
  | .list items => items
  | .scalar _ => []

namespace Spot

variable (registry : Registry)

/-- The fields of the record, none if there is no record. -/
def fields (spot : Spot) : List (String × Payload) :=
  match spot.payload with
  | .object fields => fields
  | _ => []

/-- The relation that a field name stands for. A column stands for none. -/
def relation? (spot : Spot) (name : String) : Option Relation :=
  if spot.entity.hasColumn name then none
  else
    match registry.resolve spot.entity.name name with
    | .ok relation => some relation
    | .error _ => none

/-- Whether a field is a column, or names a relation whose records can be told. -/
def Known (spot : Spot) (field : String × Payload) : Prop :=
  spot.entity.hasColumn field.1 = true ∨ ∃ relation, spot.relation? registry field.1 = some relation ∧
    (field.2.isNull = true ∨ ∃ target, registry.entity relation.target = .ok target)

/-- The edge to the record that a field says the record belongs to. -/
def ownerEdge? (spot : Spot) (field : String × Payload) : Option Edge :=
  match spot.relation? registry field.1 with
  | none => none
  | some relation =>
      match relation.kind, registry.entity relation.target with
      | .belongsToOne, .ok target =>
          if field.2.isNull then none
          else some ⟨relation, ⟨target, extendPath spot.path field.1, field.2⟩⟩
      | _, _ => none

/-- The edges to the items of the collection in a field. -/
def memberEdges (spot : Spot) (field : String × Payload) : List Edge :=
  match spot.relation? registry field.1 with
  | none => []
  | some relation =>
      match relation.kind, registry.entity relation.target with
      | .belongsToOne, _ => []
      | _, .ok target => field.2.members.map fun item =>
          ⟨relation, ⟨target, extendPath spot.path field.1, item⟩⟩
      | _, .error _ => []

/-- The edge that a step follows. -/
def edge? (spot : Spot) : Step → Option Edge
  | .owner field => spot.fields[field]?.bind (spot.ownerEdge? registry)
  | .member field item => spot.fields[field]?.bind fun found =>
      (spot.memberEdges registry found)[item]?

/-- The edges to the records that the record belongs to, by fields counted from a number on. -/
def ownersFrom (spot : Spot) (first : Nat) (fields : List (String × Payload)) :
    List (Step × Edge) :=
  (fields.zipIdx first).filterMap fun field =>
    (spot.ownerEdge? registry field.1).map (.owner field.2, ·)

def owners (spot : Spot) : List (Step × Edge) :=
  spot.ownersFrom registry 0 spot.fields

/-- The edges of one collection, by item. -/
def memberSteps (spot : Spot) (field : (String × Payload) × Nat) : List (Step × Edge) :=
  (spot.memberEdges registry field.1).zipIdx.map fun edge => (.member field.2 edge.2, edge.1)

/-- The edges to the items of collections, by fields counted from a number on. -/
def membersFrom (spot : Spot) (first : Nat) (fields : List (String × Payload)) :
    List (Step × Edge) :=
  (fields.zipIdx first).flatMap (spot.memberSteps registry)

def members (spot : Spot) : List (Step × Edge) :=
  spot.membersFrom registry 0 spot.fields

/-- The edges of the record, in the order in which they are followed. -/
def edges (spot : Spot) : List (Step × Edge) :=
  spot.owners registry ++ spot.members registry

/-- The part of a payload at a place. -/
def at? (spot : Spot) : Place → Option Spot
  | [] => some spot
  | step :: rest => (spot.edge? registry step).bind fun edge => edge.spot.at? rest

/-- Whether a place is reached by an edge from the record at another place. -/
def Arrives (spot : Spot) (place holder : Place) (edge : Edge) : Prop :=
  ∃ step above, place = holder ++ [step] ∧ spot.at? registry holder = some above ∧
    above.edge? registry step = some edge

/-- Whether a payload has a site: one for every record, and one for every link of a many-to-many
relation. -/
def Occurs (spot : Spot) : Site → Prop
  | .record place => (spot.at? registry place).isSome
  | .link place => ∃ holder edge, spot.Arrives registry place holder edge ∧
      edge.relation.kind = .manyToMany

/-! ## Fields -/

variable {registry}

theorem relation?_of_column {spot : Spot} {name : String}
    (isColumn : spot.entity.hasColumn name = true) : spot.relation? registry name = none := by
  rw [relation?, if_pos isColumn]

theorem relation?_of_resolves {spot : Spot} {name : String} {relation : Relation}
    (notColumn : spot.entity.hasColumn name = false)
    (resolves : registry.resolve spot.entity.name name = .ok relation) :
    spot.relation? registry name = some relation := by
  rw [relation?, if_neg (by simp [notColumn]), resolves]

theorem resolves_of_relation? {spot : Spot} {name : String} {relation : Relation}
    (named : spot.relation? registry name = some relation) :
    registry.resolve spot.entity.name name = .ok relation := by
  unfold relation? at named
  split at named
  · cases named
  · split at named
    · rename_i resolves
      cases named
      exact resolves
    · cases named

theorem ownerEdge?_of_unrelated {spot : Spot} {field : String × Payload}
    (unrelated : spot.relation? registry field.1 = none) :
    spot.ownerEdge? registry field = none := by
  rw [ownerEdge?, unrelated]

theorem memberEdges_of_unrelated {spot : Spot} {field : String × Payload}
    (unrelated : spot.relation? registry field.1 = none) :
    spot.memberEdges registry field = [] := by
  rw [memberEdges, unrelated]

section Named

variable {spot : Spot} {field : String × Payload} {relation : Relation} {target : Entity}

theorem ownerEdge?_of_collection (named : spot.relation? registry field.1 = some relation)
    (isCollection : relation.kind ≠ .belongsToOne) : spot.ownerEdge? registry field = none := by
  simp only [ownerEdge?, named]
  split
  · rename_i isOwner _
    exact absurd isOwner isCollection
  · rfl

theorem ownerEdge?_of_null (isNull : field.2.isNull = true) :
    spot.ownerEdge? registry field = none := by
  simp only [ownerEdge?]
  split
  · rfl
  · split
    · rw [if_pos isNull]
    · rfl

theorem ownerEdge?_of_owner (named : spot.relation? registry field.1 = some relation)
    (isOwner : relation.kind = .belongsToOne) (notNull : field.2.isNull = false)
    (found : registry.entity relation.target = .ok target) :
    spot.ownerEdge? registry field =
      some ⟨relation, ⟨target, extendPath spot.path field.1, field.2⟩⟩ := by
  simp [ownerEdge?, named, isOwner, found, notNull]

theorem memberEdges_of_owner (named : spot.relation? registry field.1 = some relation)
    (isOwner : relation.kind = .belongsToOne) : spot.memberEdges registry field = [] := by
  simp only [memberEdges, named, isOwner]

theorem memberEdges_of_collection (named : spot.relation? registry field.1 = some relation)
    (isCollection : relation.kind ≠ .belongsToOne)
    (found : registry.entity relation.target = .ok target) :
    spot.memberEdges registry field = field.2.members.map fun item =>
      ⟨relation, ⟨target, extendPath spot.path field.1, item⟩⟩ := by
  simp only [memberEdges, named, found]

end Named

/-! ## Edges -/

theorem mem_owners_iff {spot : Spot} {step : Step} {edge : Edge} :
    (step, edge) ∈ spot.owners registry ↔
      ∃ field, step = .owner field ∧ spot.edge? registry step = some edge := by
  simp only [owners, ownersFrom, List.mem_filterMap, Option.map_eq_some_iff, Prod.mk.injEq]
  constructor
  · rintro ⟨⟨found, field⟩, member, _, edgeFound, rfl, rfl⟩
    have lookup := List.mk_mem_zipIdx_iff_getElem?.1 member
    exact ⟨field, rfl, by simp only [edge?, lookup, Option.bind_some, edgeFound]⟩
  · rintro ⟨field, rfl, followed⟩
    rcases Option.bind_eq_some_iff.1 followed with ⟨found, lookup, edgeFound⟩
    exact ⟨(found, field), List.mk_mem_zipIdx_iff_getElem?.2 lookup, edge, edgeFound, rfl, rfl⟩

theorem mem_members_iff {spot : Spot} {step : Step} {edge : Edge} :
    (step, edge) ∈ spot.members registry ↔
      ∃ field item, step = .member field item ∧ spot.edge? registry step = some edge := by
  simp only [members, membersFrom, memberSteps, List.mem_flatMap, List.mem_map, Prod.mk.injEq]
  constructor
  · rintro ⟨⟨found, field⟩, member, ⟨_, item⟩, itemMember, rfl, rfl⟩
    have lookup := List.mk_mem_zipIdx_iff_getElem?.1 member
    have itemLookup := List.mk_mem_zipIdx_iff_getElem?.1 itemMember
    exact ⟨field, item, rfl, by simp only [edge?, lookup, Option.bind_some, itemLookup]⟩
  · rintro ⟨field, item, rfl, followed⟩
    rcases Option.bind_eq_some_iff.1 followed with ⟨found, lookup, itemLookup⟩
    exact ⟨(found, field), List.mk_mem_zipIdx_iff_getElem?.2 lookup, (edge, item),
      List.mk_mem_zipIdx_iff_getElem?.2 itemLookup, rfl, rfl⟩

/-- The listed edges are those that steps follow. -/
theorem mem_edges_iff {spot : Spot} {step : Step} {edge : Edge} :
    (step, edge) ∈ spot.edges registry ↔ spot.edge? registry step = some edge := by
  rw [edges, List.mem_append, mem_owners_iff, mem_members_iff]
  cases step <;> simp

/-- The relation of an edge resolves, and its end is a record of the relation's target. -/
structure Leads (registry : Registry) (spot : Spot) (name : String) (edge : Edge) : Prop where
  named : spot.relation? registry name = some edge.relation
  found : registry.entity edge.relation.target = .ok edge.spot.entity

theorem ownerEdge?_eq_some {spot : Spot} {field : String × Payload} {edge : Edge}
    (isEdge : spot.ownerEdge? registry field = some edge) :
    spot.Leads registry field.1 edge ∧ edge.relation.kind = .belongsToOne := by
  unfold ownerEdge? at isEdge
  split at isEdge
  · cases isEdge
  · rename_i relation named
    split at isEdge
    · rename_i target isOwner found
      split at isEdge
      · cases isEdge
      · cases isEdge
        exact ⟨⟨named, found⟩, isOwner⟩
    · cases isEdge

theorem of_mem_memberEdges {spot : Spot} {field : String × Payload} {edge : Edge}
    (inEdges : edge ∈ spot.memberEdges registry field) :
    spot.Leads registry field.1 edge ∧ edge.relation.kind ≠ .belongsToOne := by
  unfold memberEdges at inEdges
  split at inEdges
  · exact absurd inEdges List.not_mem_nil
  · rename_i relation named
    split at inEdges
    · exact absurd inEdges List.not_mem_nil
    · rename_i target found notOwner
      obtain ⟨payload, _, rfl⟩ := List.mem_map.1 inEdges
      exact ⟨⟨named, found⟩, notOwner⟩
    · exact absurd inEdges List.not_mem_nil

/-- A step of an owner follows a relation to one record. -/
theorem kind_of_owner {spot : Spot} {field : Nat} {edge : Edge}
    (followed : spot.edge? registry (.owner field) = some edge) :
    edge.relation.kind = .belongsToOne := by
  rcases Option.bind_eq_some_iff.1 followed with ⟨found, _, isEdge⟩
  exact (ownerEdge?_eq_some isEdge).2

/-- A step of a member follows a relation to a collection. -/
theorem kind_of_member {spot : Spot} {field item : Nat} {edge : Edge}
    (followed : spot.edge? registry (.member field item) = some edge) :
    edge.relation.kind ≠ .belongsToOne := by
  rcases Option.bind_eq_some_iff.1 followed with ⟨found, _, isEdge⟩
  exact (of_mem_memberEdges (List.mem_of_getElem? isEdge)).2

theorem edge?_leads {spot : Spot} {step : Step} {edge : Edge}
    (followed : spot.edge? registry step = some edge) :
    ∃ name, spot.Leads registry name edge := by
  cases step with
  | owner field =>
      rcases Option.bind_eq_some_iff.1 followed with ⟨found, _, isEdge⟩
      exact ⟨found.1, (ownerEdge?_eq_some isEdge).1⟩
  | member field item =>
      rcases Option.bind_eq_some_iff.1 followed with ⟨found, _, isEdge⟩
      exact ⟨found.1, (of_mem_memberEdges (List.mem_of_getElem? isEdge)).1⟩

theorem owner_of_kind {spot : Spot} {step : Step} {edge : Edge}
    (followed : spot.edge? registry step = some edge)
    (isOwner : edge.relation.kind = .belongsToOne) : ∃ field, step = .owner field := by
  cases step with
  | owner field => exact ⟨field, rfl⟩
  | member field item => exact absurd isOwner (kind_of_member followed)

theorem member_of_kind {spot : Spot} {step : Step} {edge : Edge}
    (followed : spot.edge? registry step = some edge)
    (isCollection : edge.relation.kind ≠ .belongsToOne) :
    ∃ field item, step = .member field item := by
  cases step with
  | owner field => exact absurd (kind_of_owner followed) isCollection
  | member field item => exact ⟨field, item, rfl⟩

theorem ownersFrom_cons (spot : Spot) (first : Nat) (field : String × Payload)
    (rest : List (String × Payload)) :
    spot.ownersFrom registry first (field :: rest) =
      ((spot.ownerEdge? registry field).map (Step.owner first, ·)).toList ++
        spot.ownersFrom registry (first + 1) rest := by
  unfold ownersFrom
  rw [List.zipIdx_cons, List.filterMap_cons]
  cases spot.ownerEdge? registry field <;> rfl

theorem membersFrom_cons (spot : Spot) (first : Nat) (field : String × Payload)
    (rest : List (String × Payload)) :
    spot.membersFrom registry first (field :: rest) =
      spot.memberSteps registry (field, first) ++ spot.membersFrom registry (first + 1) rest := by
  unfold membersFrom
  rw [List.zipIdx_cons, List.flatMap_cons]

private theorem owner_of_mem_ownersFrom {spot : Spot} {first : Nat}
    {fields : List (String × Payload)} {entry : Step × Edge}
    (member : entry ∈ spot.ownersFrom registry first fields) :
    ∃ field, first ≤ field ∧ entry.1 = .owner field := by
  simp only [ownersFrom, List.mem_filterMap, Option.map_eq_some_iff] at member
  rcases member with ⟨⟨found, field⟩, inFields, edge, _, rfl⟩
  exact ⟨field, List.le_snd_of_mem_zipIdx inFields, rfl⟩

private theorem member_of_mem_membersFrom {spot : Spot} {first : Nat}
    {fields : List (String × Payload)} {entry : Step × Edge}
    (member : entry ∈ spot.membersFrom registry first fields) :
    ∃ field item, first ≤ field ∧ entry.1 = .member field item := by
  simp only [membersFrom, memberSteps, List.mem_flatMap, List.mem_map] at member
  rcases member with ⟨⟨found, field⟩, inFields, ⟨edge, item⟩, _, rfl⟩
  exact ⟨field, item, List.le_snd_of_mem_zipIdx inFields, rfl⟩

private theorem ownersFrom_ordered (spot : Spot) (fields : List (String × Payload)) :
    ∀ first, (spot.ownersFrom registry first fields).Pairwise fun left right =>
      left.1.Before right.1 := by
  induction fields with
  | nil => exact fun _ => List.Pairwise.nil
  | cons field rest inductionHypothesis =>
      intro first
      rw [ownersFrom_cons, List.pairwise_append]
      refine ⟨?_, inductionHypothesis (first + 1), ?_⟩
      · cases spot.ownerEdge? registry field <;> simp
      · intro left leftMember right rightMember
        rcases owner_of_mem_ownersFrom rightMember with ⟨field', atLeast, isOwner⟩
        rw [Option.mem_toList, Option.map_eq_some_iff] at leftMember
        rcases leftMember with ⟨edge, _, rfl⟩
        rw [isOwner]
        exact atLeast

private theorem memberSteps_ordered (spot : Spot) (field : (String × Payload) × Nat) :
    (spot.memberSteps registry field).Pairwise fun left right => left.1.Before right.1 := by
  unfold memberSteps
  rw [List.pairwise_map]
  have increasing : ((spot.memberEdges registry field.1).zipIdx.map Prod.snd).Pairwise (· < ·) := by
    rw [List.zipIdx_map_snd]
    exact List.pairwise_lt_range'
  rw [List.pairwise_map] at increasing
  exact increasing.imp fun below => Or.inr ⟨rfl, below⟩

private theorem membersFrom_ordered (spot : Spot) (fields : List (String × Payload)) :
    ∀ first, (spot.membersFrom registry first fields).Pairwise fun left right =>
      left.1.Before right.1 := by
  induction fields with
  | nil => exact fun _ => List.Pairwise.nil
  | cons field rest inductionHypothesis =>
      intro first
      rw [membersFrom_cons, List.pairwise_append]
      refine ⟨memberSteps_ordered spot (field, first), inductionHypothesis (first + 1), ?_⟩
      intro left leftMember right rightMember
      rcases member_of_mem_membersFrom rightMember with ⟨field', item', atLeast, isMember⟩
      simp only [memberSteps, List.mem_map] at leftMember
      rcases leftMember with ⟨_, _, rfl⟩
      rw [isMember]
      exact Or.inl atLeast

/-- Edges are listed in the order of their steps. -/
theorem edges_ordered (registry : Registry) (spot : Spot) :
    (spot.edges registry).Pairwise fun left right => left.1.Before right.1 := by
  rw [edges, List.pairwise_append]
  refine ⟨ownersFrom_ordered spot spot.fields 0, membersFrom_ordered spot spot.fields 0, ?_⟩
  intro left leftMember right rightMember
  rcases owner_of_mem_ownersFrom leftMember with ⟨field, _, isOwner⟩
  rcases member_of_mem_membersFrom rightMember with ⟨field', item, _, isMember⟩
  rw [isOwner, isMember]
  trivial

/-! ## Places -/

theorem at?_append (place : Place) (rest : Place) : ∀ spot : Spot,
    spot.at? registry (place ++ rest) =
      (spot.at? registry place).bind fun below => below.at? registry rest := by
  induction place with
  | nil => intro spot; rfl
  | cons step place inductionHypothesis =>
      intro spot
      simp only [List.cons_append, at?]
      cases spot.edge? registry step with
      | none => rfl
      | some edge => exact inductionHypothesis edge.spot

theorem at?_cons {spot : Spot} {step : Step} {edge : Edge}
    (followed : spot.edge? registry step = some edge) (place : Place) :
    spot.at? registry (step :: place) = edge.spot.at? registry place := by
  simp only [at?, followed, Option.bind_some]

/-- How a place is reached does not depend on where counting starts. -/
theorem Arrives.under {spot : Spot} {step : Step} {edge last : Edge} {place holder : Place}
    (followed : spot.edge? registry step = some edge)
    (arrives : edge.spot.Arrives registry place holder last) :
    spot.Arrives registry (step :: place) (step :: holder) last := by
  rcases arrives with ⟨next, above, rfl, found, atLast⟩
  exact ⟨next, above, rfl, by rw [at?_cons followed, found], atLast⟩

theorem arrives_step {spot : Spot} {step : Step} {edge : Edge}
    (followed : spot.edge? registry step = some edge) :
    spot.Arrives registry [step] [] edge :=
  ⟨step, spot, rfl, rfl, followed⟩

/-- A place that is reached is at a step below the start, or below that. -/
theorem Arrives.cases {spot : Spot} {place holder : Place} {last : Edge}
    (arrives : spot.Arrives registry place holder last) :
    (∃ step, place = [step] ∧ holder = [] ∧ spot.edge? registry step = some last) ∨
      ∃ step edge place' holder', place = step :: place' ∧ holder = step :: holder' ∧
        spot.edge? registry step = some edge ∧ edge.spot.Arrives registry place' holder' last := by
  rcases arrives with ⟨next, above, rfl, found, atLast⟩
  cases holder with
  | nil =>
      cases found
      exact Or.inl ⟨next, rfl, rfl, atLast⟩
  | cons step holder =>
      rcases Option.bind_eq_some_iff.1 found with ⟨edge, followed, below⟩
      exact Or.inr ⟨step, edge, holder ++ [next], holder, rfl, rfl, followed,
        next, above, rfl, below, atLast⟩

theorem not_occurs_link_nil {spot : Spot} : ¬ spot.Occurs registry (.link []) := by
  rintro ⟨holder, edge, ⟨step, above, same, _⟩, _⟩
  simp at same

/-- The sites of a record: its own, and those at and below the ends of its edges. -/
theorem occurs_iff {spot : Spot} {site : Site} :
    spot.Occurs registry site ↔
      site = .record [] ∨ ∃ step edge, spot.edge? registry step = some edge ∧
        ((∃ inner, edge.spot.Occurs registry inner ∧ site = inner.under step) ∨
          edge.relation.kind = .manyToMany ∧ site = .link [step]) := by
  constructor
  · intro occurs
    cases site with
    | record place =>
        cases place with
        | nil => exact Or.inl rfl
        | cons step rest =>
            rcases Option.isSome_iff_exists.1 occurs with ⟨found, atPlace⟩
            rcases Option.bind_eq_some_iff.1 atPlace with ⟨edge, followed, below⟩
            have inner : edge.spot.Occurs registry (.record rest) := by
              simp only [Occurs, below, Option.isSome_some]
            exact Or.inr ⟨step, edge, followed, Or.inl ⟨.record rest, inner, rfl⟩⟩
    | link place =>
        rcases occurs with ⟨holder, last, arrives, isJoined⟩
        rcases arrives.cases with ⟨step, rfl, _, followed⟩ | ⟨step, edge, rest, holder', rfl, _,
          followed, below⟩
        · exact Or.inr ⟨step, last, followed, Or.inr ⟨isJoined, rfl⟩⟩
        · exact Or.inr ⟨step, edge, followed,
            Or.inl ⟨.link rest, ⟨holder', last, below, isJoined⟩, rfl⟩⟩
  · rintro (rfl | ⟨step, edge, followed, ⟨inner, occurs, rfl⟩ | ⟨isJoined, rfl⟩⟩)
    · rfl
    · cases inner with
      | record place =>
          simp only [Occurs, Site.under] at occurs ⊢
          rw [at?_cons followed]
          exact occurs
      | link place =>
          rcases occurs with ⟨holder, last, arrives, isJoined⟩
          exact ⟨step :: holder, last, arrives.under followed, isJoined⟩
    · exact ⟨[], edge, arrives_step followed, isJoined⟩

end Spot

end RecordGraph

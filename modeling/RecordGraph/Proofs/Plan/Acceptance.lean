import RecordGraph.Proofs.Plan.Planner
import RecordGraph.Proofs.Plan.Spot
import RecordGraph.Proofs.Schema.Reachable

/-!
Contract: which records the planner plans.

Owns: the identity of a record, what a field of a record may hold, `Spot.Accepted`, and its agreement
with the success of the planner.
Does not own: the same conditions without the recursion; `RecordGraph.Proofs.Plan.WellFormed` states
them for all places of a payload at once.

Whether a record is planned depends neither on the number its operation gets nor on the links that it
receives. The lemmas on owners and collections take it that the planner of the records below is
decided by some predicate; only the last one is an induction over the depth.
-/

namespace RecordGraph

namespace Spot

/-- The value that the record gives its primary key, null if it gives none. -/
def keyValue (spot : Spot) : Value :=
  ((spot.fields.lookup spot.entity.key.name).map Payload.toValue).getD .null

/-- The identity of the record among the records around it. Without a key it has none. -/
def identity? (spot : Spot) : Option RecordKey :=
  if spot.keyValue.isNull then none else some (spot.entity.name, spot.keyValue)

end Spot

/-- Whether a payload may stand in a field of a relation of a kind: null, one object, or, of a
collection, a list. -/
def RelationKind.Takes (kind : RelationKind) (payload : Payload) : Prop :=
  payload.isNull = true ∨ (∃ fields, payload = .object fields) ∨
    kind.isCollection = true ∧ ∃ items, payload = .list items

/-- Whether a field is a column, or an allowed relation with a payload that fits its kind. -/
structure Spot.Admits (registry : Registry) (allow : AllowList Filter) (spot : Spot)
    (field : String × Payload) : Prop where
  known : spot.entity.hasColumn field.1 = true ∨
    ∃ relation, spot.relation? registry field.1 = some relation
  allowed : ∀ relation, spot.relation? registry field.1 = some relation →
    allow.allows (extendPath spot.path field.1) = true
  shaped : ∀ relation, spot.relation? registry field.1 = some relation → relation.kind.Takes field.2

theorem Spot.admits_iff {registry : Registry} {allow : AllowList Filter} {spot : Spot}
    {field : String × Payload} :
    spot.Admits registry allow field ↔
      (spot.entity.hasColumn field.1 = true ∨
        ∃ relation, spot.relation? registry field.1 = some relation ∧
          allow.allows (extendPath spot.path field.1) = true) ∧
        ∀ relation, spot.relation? registry field.1 = some relation →
          relation.kind.Takes field.2 := by
  constructor
  · intro admits
    refine ⟨?_, admits.shaped⟩
    rcases admits.known with isColumn | ⟨relation, named⟩
    · exact Or.inl isColumn
    · exact Or.inr ⟨relation, named, admits.allowed relation named⟩
  · rintro ⟨isColumn | ⟨relation, named, allowed⟩, shaped⟩
    · refine ⟨Or.inl isColumn, fun relation named => ?_, shaped⟩
      rw [relation?_of_column isColumn] at named
      cases named
    · exact ⟨Or.inr ⟨relation, named⟩, fun _ _ => allowed, shaped⟩

namespace InsertContext

variable {context : InsertContext}

/-! ## Opening records and resolving fields -/

theorem openRecord_of_object {spot : Spot} {fields : List (String × Payload)} {remaining : Nat}
    {ancestors : List RecordKey} (isObject : spot.payload = .object fields)
    (positive : 0 < remaining) :
    context.openRecord spot.entity spot.payload spot.path remaining ancestors =
      if spot.keyValue.isNull then pure (spot.fields, none)
      else if ancestors.any (RecordKey.same (spot.entity.name, spot.keyValue)) then
        throw (.reappears spot.path)
      else pure (spot.fields, some (spot.entity.name, spot.keyValue)) := by
  rcases spot with ⟨entity, path, payload⟩
  simp only at isObject
  subst isObject
  simp only [openRecord, if_neg (Nat.ne_of_gt positive)]
  rfl

theorem openRecord_eq_ok_iff {spot : Spot} {remaining : Nat} {ancestors : List RecordKey}
    {outcome : List (String × Payload) × Option RecordKey} :
    context.openRecord spot.entity spot.payload spot.path remaining ancestors = .ok outcome ↔
      (∃ fields, spot.payload = .object fields) ∧ 0 < remaining ∧
        (∀ key ∈ spot.identity?, ancestors.any key.same = false) ∧
          outcome = (spot.fields, spot.identity?) := by
  constructor
  · intro succeeded
    rcases openRecord_eq_ok succeeded with ⟨isObject, positive⟩
    rw [openRecord_of_object isObject positive] at succeeded
    refine ⟨⟨_, isObject⟩, positive, ?_⟩
    split at succeeded
    · rename_i isNull
      cases Result.pure_eq_ok.1 succeeded
      simp [Spot.identity?, isNull]
    · rename_i notNull
      split at succeeded
      · exact absurd succeeded Result.throw_ne_ok
      · rename_i isFresh
        cases Result.pure_eq_ok.1 succeeded
        rw [Spot.identity?, if_neg notNull]
        refine ⟨?_, rfl⟩
        rintro key isKey
        rw [← Option.some.inj isKey]
        exact Bool.eq_false_iff.2 isFresh
  · rintro ⟨⟨fields, isObject⟩, positive, fresh, rfl⟩
    rw [openRecord_of_object isObject positive]
    split
    · rename_i isNull
      rw [Spot.identity?, if_pos isNull]
      rfl
    · rename_i notNull
      have identity : spot.identity? = some (spot.entity.name, spot.keyValue) := if_neg notNull
      rw [if_neg (Bool.eq_false_iff.1 (fresh _ identity)), identity]
      rfl

/-- Fields resolve if each is a column or an allowed relation. -/
theorem resolveEntries_succeeds_iff {spot : Spot} (fields : List (String × Payload)) :
    (∃ entries, context.resolveEntries spot.entity spot.path
        (fields.filter fun field => !spot.entity.hasColumn field.1) = .ok entries) ↔
      ∀ field ∈ fields, spot.entity.hasColumn field.1 = true ∨
        ∃ relation, spot.relation? context.registry field.1 = some relation ∧
          context.allow.allows (extendPath spot.path field.1) = true := by
  induction fields with
  | nil =>
      refine iff_of_true ⟨[], rfl⟩ fun _ member => absurd member List.not_mem_nil
  | cons field rest inductionHypothesis =>
      rcases field with ⟨name, payload⟩
      rw [List.forall_mem_cons, ← inductionHypothesis]
      cases isColumn : spot.entity.hasColumn name with
      | true => rw [List.filter_cons_of_neg (by simp [isColumn])]; simp
      | false =>
          rw [List.filter_cons_of_pos (by simp [isColumn])]
          constructor
          · rintro ⟨entries, succeeded⟩
            rcases Result.mapM_cons_eq_ok.1 succeeded with ⟨first, others, headOk, tailOk, rfl⟩
            rcases Result.bind_eq_ok.1 headOk with ⟨relation, resolves, headOk⟩
            rcases Result.bind_eq_ok.1 headOk with ⟨_, checked, _⟩
            refine ⟨Or.inr ⟨relation, Spot.relation?_of_resolves isColumn resolves, ?_⟩,
              others, tailOk⟩
            unfold AllowList.checkPath at checked
            split at checked
            · assumption
            · exact absurd checked Result.throw_ne_ok
          · rintro ⟨impossible | ⟨relation, named, allowed⟩, others, tailOk⟩
            · cases impossible
            · have headOk : (do
                  let relation ← context.registry.resolve spot.entity.name name
                  let path := extendPath spot.path name
                  context.allow.checkPath path
                  pure ({ key := name, relation, path, payload } : RelationEntry)) =
                    .ok ⟨name, relation, extendPath spot.path name, payload⟩ := by
                rw [Spot.resolves_of_relation? named]
                simp only [AllowList.checkPath, if_pos allowed]
                rfl
              exact ⟨_, Result.mapM_cons_eq_ok.2 ⟨_, others, headOk, tailOk, rfl⟩⟩

/-- The entries of fields are those that name relations. -/
theorem Resolved.mem_iff {registry : Registry} {spot : Spot} {fields : List (String × Payload)}
    {entries : List RelationEntry}
    (resolved : Resolved registry spot.entity spot.path fields entries) (entry : RelationEntry) :
    entry ∈ entries ↔ ∃ field ∈ fields, ∃ relation,
      spot.relation? registry field.1 = some relation ∧
        entry = ⟨field.1, relation, extendPath spot.path field.1, field.2⟩ := by
  induction resolved with
  | nil => simp
  | column isColumn rest inductionHypothesis =>
      simp only [inductionHypothesis, List.exists_mem_cons_iff, Spot.relation?_of_column isColumn]
      simp
  | relation notColumn resolves rest inductionHypothesis =>
      simp only [List.mem_cons, inductionHypothesis, List.mem_cons, or_and_right, exists_or,
        exists_eq_left, Spot.relation?_of_resolves notColumn resolves, Option.some.injEq,
        exists_eq_left']

/-! ## Relatives -/

/-- Whether a predicate decides which records a planner plans. -/
structure Planner.Decided (plan : Planner) (accepted : Spot → Prop) : Prop where
  succeeds : ∀ (spot : Spot) (inbound : List Backfill) (next : Nat),
    (∃ fragment, plan spot.entity spot.payload spot.path inbound next = .ok fragment) ↔
      accepted spot
  object : ∀ {spot : Spot}, accepted spot → ∃ fields, spot.payload = .object fields

/-- Whether the record that an entry says its record belongs to, if any, is accepted. -/
def RelationEntry.OwnerAccepted (registry : Registry) (accepted : Spot → Prop)
    (entry : RelationEntry) : Prop :=
  entry.relation.kind = .belongsToOne → entry.payload.isNull = true ∨
    ∃ target, registry.entity entry.relation.target = .ok target ∧
      accepted ⟨target, entry.path, entry.payload⟩

/-- Whether the items of the collection that an entry holds are accepted. -/
def RelationEntry.MembersAccepted (registry : Registry) (accepted : Spot → Prop)
    (entry : RelationEntry) : Prop :=
  entry.relation.kind ≠ .belongsToOne → ∃ items target,
    collectionItems entry.payload entry.path = .ok items ∧
      registry.entity entry.relation.target = .ok target ∧
        ∀ item ∈ items, accepted ⟨target, entry.path, item⟩

variable {plan : Planner} {accepted : Spot → Prop}

theorem planOwners_succeeds_iff (decided : plan.Decided accepted) (entries : List RelationEntry) :
    ∀ next, (∃ relatives, context.planOwners plan next entries = .ok relatives) ↔
      ∀ entry ∈ entries, RelationEntry.OwnerAccepted context.registry accepted entry := by
  induction entries with
  | nil => exact fun _ => iff_of_true ⟨{}, rfl⟩ fun _ member => absurd member List.not_mem_nil
  | cons entry rest inductionHypothesis =>
      intro next
      rw [List.forall_mem_cons]
      constructor
      · rintro ⟨relatives, succeeded⟩
        rcases planOwners_cons_eq_ok succeeded with ⟨notOwner, tailOk⟩ |
          ⟨_, isNull, others, tailOk, _⟩ |
          ⟨_, _, target, fragment, others, found, planned, tailOk, _⟩
        · exact ⟨fun isOwner => absurd isOwner notOwner,
            (inductionHypothesis next).1 ⟨relatives, tailOk⟩⟩
        · exact ⟨fun _ => Or.inl isNull, (inductionHypothesis next).1 ⟨others, tailOk⟩⟩
        · refine ⟨fun _ => Or.inr ⟨target, found, ?_⟩, (inductionHypothesis _).1 ⟨others, tailOk⟩⟩
          exact (decided.succeeds ⟨target, entry.path, entry.payload⟩ [] next).1 ⟨fragment, planned⟩
      · rintro ⟨headAccepted, tailAccepted⟩
        rw [planOwners]
        split
        · rename_i isOwner
          split
          · rw [Result.exists_bind_eq_ok]
            obtain ⟨others, tailOk⟩ := (inductionHypothesis next).2 tailAccepted
            exact ⟨others, tailOk, Result.exists_pure_eq_ok _⟩
          · rename_i notNull
            rcases headAccepted isOwner with isNull | ⟨target, found, isAccepted⟩
            · exact absurd isNull notNull
            · obtain ⟨fields, isObject⟩ := decided.object isAccepted
              obtain ⟨fragment, planned⟩ := (decided.succeeds _ [] next).2 isAccepted
              obtain ⟨others, tailOk⟩ :=
                (inductionHypothesis (next + fragment.operations.length)).2 tailAccepted
              simp only at isObject planned
              simp only [isObject] at planned ⊢
              refine Result.exists_bind_eq_ok.2 ⟨target, found, ?_⟩
              refine Result.exists_bind_eq_ok.2 ⟨fragment, planned, ?_⟩
              exact Result.exists_bind_eq_ok.2 ⟨others, tailOk, Result.exists_pure_eq_ok _⟩
        · exact (inductionHypothesis next).2 tailAccepted

theorem joinRow_succeeds {entry : RelationEntry}
    (joins : ∃ through table, entry.relation.through = some through ∧
      context.registry.table through.table = .ok table) (owner member index : Nat) :
    ∃ row, context.joinRow entry owner member index = .ok row := by
  rcases joins with ⟨through, table, isThrough, found⟩
  simp only [joinRow, isThrough]
  exact Result.exists_bind_eq_ok.2 ⟨table, found, Result.exists_pure_eq_ok _⟩

theorem planMembers_succeeds_iff (decided : plan.Decided accepted) {entry : RelationEntry}
    (joins : entry.relation.kind = .manyToMany → ∃ through table,
      entry.relation.through = some through ∧ context.registry.table through.table = .ok table)
    (target : Entity) (owner : Nat) (items : List Payload) :
    ∀ next, (∃ planned, context.planMembers plan entry target owner next items = .ok planned) ↔
      ∀ item ∈ items, accepted ⟨target, entry.path, item⟩ := by
  induction items with
  | nil => exact fun _ => iff_of_true ⟨([], [], []), rfl⟩ fun _ member => absurd member List.not_mem_nil
  | cons item rest inductionHypothesis =>
      intro next
      rw [List.forall_mem_cons]
      constructor
      · rintro ⟨outcome, succeeded⟩
        rcases planMembers_cons_eq_ok succeeded with
          ⟨_, fragment, row, others, planned, _, tailOk, _⟩ | ⟨_, fragment, others, planned, tailOk, _⟩
        · exact ⟨(decided.succeeds ⟨target, entry.path, item⟩ _ _).1 ⟨fragment, planned⟩,
            (inductionHypothesis _).1 ⟨others, tailOk⟩⟩
        · exact ⟨(decided.succeeds ⟨target, entry.path, item⟩ _ _).1 ⟨fragment, planned⟩,
            (inductionHypothesis _).1 ⟨others, tailOk⟩⟩
      · rintro ⟨headAccepted, tailAccepted⟩
        rw [planMembers]
        split
        · rename_i isJoined
          obtain ⟨fragment, planned⟩ := (decided.succeeds _ [] next).2 headAccepted
          obtain ⟨row, rowOk⟩ := joinRow_succeeds (joins isJoined) owner fragment.root
            (next + fragment.operations.length)
          obtain ⟨others, tailOk⟩ :=
            (inductionHypothesis (next + fragment.operations.length + 1)).2 tailAccepted
          refine Result.exists_bind_eq_ok.2 ⟨fragment, planned, ?_⟩
          refine Result.exists_bind_eq_ok.2 ⟨row, rowOk, ?_⟩
          exact Result.exists_bind_eq_ok.2 ⟨others, tailOk, Result.exists_pure_eq_ok _⟩
        · obtain ⟨fragment, planned⟩ := (decided.succeeds _ _ next).2 headAccepted
          obtain ⟨others, tailOk⟩ :=
            (inductionHypothesis (next + fragment.operations.length)).2 tailAccepted
          refine Result.exists_bind_eq_ok.2 ⟨fragment, planned, ?_⟩
          exact Result.exists_bind_eq_ok.2 ⟨others, tailOk, Result.exists_pure_eq_ok _⟩

theorem planCollections_succeeds_iff (decided : plan.Decided accepted)
    (entries : List RelationEntry)
    (joins : ∀ entry ∈ entries, entry.relation.kind = .manyToMany → ∃ through table,
      entry.relation.through = some through ∧ context.registry.table through.table = .ok table)
    (owner : Nat) :
    ∀ next, (∃ relatives, context.planCollections plan owner next entries = .ok relatives) ↔
      ∀ entry ∈ entries, RelationEntry.MembersAccepted context.registry accepted entry := by
  induction entries with
  | nil => exact fun _ => iff_of_true ⟨{}, rfl⟩ fun _ member => absurd member List.not_mem_nil
  | cons entry rest inductionHypothesis =>
      intro next
      rw [List.forall_mem_cons] at joins ⊢
      constructor
      · rintro ⟨relatives, succeeded⟩
        rcases planCollections_cons_eq_ok succeeded with ⟨isOwner, tailOk⟩ |
          ⟨_, items, target, planned, others, listed, found, membersOk, tailOk, _⟩
        · exact ⟨fun notOwner => absurd isOwner notOwner,
            (inductionHypothesis joins.2 next).1 ⟨relatives, tailOk⟩⟩
        · exact ⟨fun _ => ⟨items, target, listed, found,
              (planMembers_succeeds_iff decided joins.1 target owner items next).1 ⟨planned, membersOk⟩⟩,
            (inductionHypothesis joins.2 _).1 ⟨others, tailOk⟩⟩
      · rintro ⟨headAccepted, tailAccepted⟩
        rw [planCollections]
        split
        · exact (inductionHypothesis joins.2 next).2 tailAccepted
        · rename_i notOwner
          obtain ⟨items, target, listed, found, allAccepted⟩ := headAccepted notOwner
          obtain ⟨planned, membersOk⟩ := (planMembers_succeeds_iff decided joins.1 target owner items next).2 allAccepted
          obtain ⟨others, tailOk⟩ :=
            (inductionHypothesis joins.2 (next + planned.1.length)).2 tailAccepted
          refine Result.exists_bind_eq_ok.2 ⟨items, listed, ?_⟩
          refine Result.exists_bind_eq_ok.2 ⟨target, found, ?_⟩
          refine Result.exists_bind_eq_ok.2 ⟨planned, membersOk, ?_⟩
          exact Result.exists_bind_eq_ok.2 ⟨others, tailOk, Result.exists_pure_eq_ok _⟩

/-! ## One field -/

theorem collectionItems_eq_ok_iff {payload : Payload} {path : String} {items : List Payload} :
    collectionItems payload path = .ok items ↔
      payload.members = items ∧ ∀ value, payload = .scalar value → value.isNull = true := by
  cases payload with
  | object fields => simp [collectionItems, Payload.members, pure, Except.pure]
  | again => simp [collectionItems, Payload.members, pure, Except.pure]
  | list found => simp [collectionItems, Payload.members, pure, Except.pure]
  | scalar value =>
      cases value <;>
        simp [collectionItems, Payload.members, Value.isNull, pure, Except.pure, throw, throwThe,
          MonadExceptOf.throw]

theorem RelationKind.isCollection_iff (kind : RelationKind) :
    kind.isCollection = true ↔ kind ≠ .belongsToOne := by
  cases kind <;> simp [RelationKind.isCollection]

section Field

variable {registry : Registry} {spot : Spot} {field : String × Payload} {relation : Relation}
  {target : Entity}

/-- The entry of a field that resolves. -/
abbrev fieldEntry (spot : Spot) (field : String × Payload) (relation : Relation) : RelationEntry :=
  ⟨field.1, relation, extendPath spot.path field.1, field.2⟩

theorem ownerAccepted_iff
    (object : ∀ {below : Spot}, accepted below → ∃ fields, below.payload = .object fields)
    (named : spot.relation? registry field.1 = some relation)
    (found : registry.entity relation.target = .ok target) :
    RelationEntry.OwnerAccepted registry accepted (fieldEntry spot field relation) ↔
      (relation.kind = .belongsToOne → relation.kind.Takes field.2) ∧
        ∀ edge, spot.ownerEdge? registry field = some edge → accepted edge.spot := by
  by_cases isOwner : relation.kind = .belongsToOne
  · cases isNull : field.2.isNull with
    | true =>
        rw [Spot.ownerEdge?_of_null isNull]
        simp [RelationEntry.OwnerAccepted, RelationKind.Takes, isNull]
    | false =>
        rw [Spot.ownerEdge?_of_owner named isOwner isNull found]
        have takes : accepted ⟨target, extendPath spot.path field.1, field.2⟩ →
            ∃ fields, field.2 = .object fields := fun isAccepted => object isAccepted
        simp [RelationEntry.OwnerAccepted, RelationKind.Takes, RelationKind.isCollection, isOwner,
          isNull, found]
        exact takes
  · rw [Spot.ownerEdge?_of_collection named isOwner]
    simp [RelationEntry.OwnerAccepted, isOwner]

theorem membersAccepted_iff
    (object : ∀ {below : Spot}, accepted below → ∃ fields, below.payload = .object fields)
    (named : spot.relation? registry field.1 = some relation)
    (found : registry.entity relation.target = .ok target) :
    RelationEntry.MembersAccepted registry accepted (fieldEntry spot field relation) ↔
      (relation.kind ≠ .belongsToOne → relation.kind.Takes field.2) ∧
        ∀ edge ∈ spot.memberEdges registry field, accepted edge.spot := by
  by_cases isOwner : relation.kind = .belongsToOne
  · rw [Spot.memberEdges_of_owner named isOwner]
    simp [RelationEntry.MembersAccepted, isOwner]
  · rw [Spot.memberEdges_of_collection named isOwner found, List.forall_mem_map]
    have isCollection := (RelationKind.isCollection_iff relation.kind).2 isOwner
    constructor
    · intro isAccepted
      obtain ⟨items, target', listed, found', allAccepted⟩ := isAccepted isOwner
      cases found.symm.trans found'
      rcases collectionItems_eq_ok_iff.1 listed with ⟨sameItems, scalars⟩
      rw [← sameItems] at allAccepted
      refine ⟨fun _ => ?_, allAccepted⟩
      cases isPayload : field.2 with
      | scalar value => exact Or.inl (scalars value isPayload)
      | object fields => exact Or.inr (Or.inl ⟨fields, rfl⟩)
      | list found => exact Or.inr (Or.inr ⟨isCollection, found, rfl⟩)
      | again =>
          obtain ⟨fields, impossible⟩ :=
            object (allAccepted .again (by simp [isPayload, Payload.members]))
          cases impossible
    · rintro ⟨takes, allAccepted⟩ _
      refine ⟨field.2.members, target, collectionItems_eq_ok_iff.2 ⟨rfl, ?_⟩, found, allAccepted⟩
      intro value (isScalar : field.2 = .scalar value)
      rcases takes isOwner with isNull | ⟨fields, isObject⟩ | ⟨_, items, isList⟩
      · rwa [isScalar] at isNull
      · rw [isScalar] at isObject
        cases isObject
      · rw [isScalar] at isList
        cases isList

end Field

/-! ## Records -/

end InsertContext

/-- The ends of edges satisfy a predicate if those of each field do. -/
theorem Spot.forall_edge_iff {registry : Registry} {spot : Spot} {holds : Spot → Prop} :
    (∀ step edge, spot.edge? registry step = some edge → holds edge.spot) ↔
      ∀ field ∈ spot.fields,
        (∀ edge, spot.ownerEdge? registry field = some edge → holds edge.spot) ∧
          ∀ edge ∈ spot.memberEdges registry field, holds edge.spot := by
  constructor
  · intro all field member
    obtain ⟨index, atIndex⟩ := List.mem_iff_getElem?.1 member
    refine ⟨fun edge isEdge => all (.owner index) edge ?_, fun edge isEdge => ?_⟩
    · rw [edge?, atIndex, Option.bind_some, isEdge]
    · obtain ⟨item, atItem⟩ := List.mem_iff_getElem?.1 isEdge
      refine all (.member index item) edge ?_
      rw [edge?, atIndex, Option.bind_some, atItem]
  · intro all step edge followed
    cases step with
    | owner index =>
        rcases Option.bind_eq_some_iff.1 followed with ⟨field, atIndex, isEdge⟩
        exact (all field (List.mem_of_getElem? atIndex)).1 edge isEdge
    | member index item =>
        rcases Option.bind_eq_some_iff.1 followed with ⟨field, atIndex, isEdge⟩
        exact (all field (List.mem_of_getElem? atIndex)).2 edge (List.mem_of_getElem? isEdge)

/-- Whether a record is planned below its ancestors, at most `remaining` records deep. -/
def Spot.Accepted (registry : Registry) (allow : AllowList Filter) :
    (remaining : Nat) → (ancestors : List RecordKey) → Spot → Prop
  | 0, _, _ => False
  | remaining + 1, ancestors, spot =>
      (∃ fields, spot.payload = .object fields) ∧
        (∀ key ∈ spot.identity?, ancestors.any key.same = false) ∧
          (∀ field ∈ spot.fields, spot.Admits registry allow field) ∧
            ∀ step edge, spot.edge? registry step = some edge →
              edge.spot.Accepted registry allow remaining (spot.identity?.toList ++ ancestors)

theorem Spot.Accepted.object {registry : Registry} {allow : AllowList Filter} {remaining : Nat}
    {ancestors : List RecordKey} {spot : Spot}
    (isAccepted : spot.Accepted registry allow remaining ancestors) :
    ∃ fields, spot.payload = .object fields := by
  cases remaining with
  | zero => exact isAccepted.elim
  | succ remaining => exact isAccepted.1

namespace InsertContext

variable {context : InsertContext}

theorem Resolved.joins {registry : Registry} (closed : registry.Closed) {spot : Spot}
    {fields : List (String × Payload)} {entries : List RelationEntry}
    (resolved : Resolved registry spot.entity spot.path fields entries) :
    ∀ entry ∈ entries, entry.relation.kind = .manyToMany → ∃ through table,
      entry.relation.through = some through ∧ registry.table through.table = .ok table := by
  intro entry isEntry isJoined
  obtain ⟨field, _, relation, named, rfl⟩ := (resolved.mem_iff entry).1 isEntry
  exact closed.through (Spot.resolves_of_relation? named) isJoined

/-- The related records of all entries are accepted if each field holds what its relation takes,
and the ends of its edges are accepted. -/
theorem entriesAccepted_iff {registry : Registry} (closed : registry.Closed)
    {accepted : Spot → Prop}
    (object : ∀ {below : Spot}, accepted below → ∃ fields, below.payload = .object fields)
    {spot : Spot} {fields : List (String × Payload)} {entries : List RelationEntry}
    (resolved : Resolved registry spot.entity spot.path fields entries) :
    ((∀ entry ∈ entries, RelationEntry.OwnerAccepted registry accepted entry) ∧
        ∀ entry ∈ entries, RelationEntry.MembersAccepted registry accepted entry) ↔
      ∀ field ∈ fields,
        (∀ relation, spot.relation? registry field.1 = some relation →
          relation.kind.Takes field.2) ∧
        (∀ edge, spot.ownerEdge? registry field = some edge → accepted edge.spot) ∧
          ∀ edge ∈ spot.memberEdges registry field, accepted edge.spot := by
  constructor
  · rintro ⟨ownersAccepted, membersAccepted⟩ field member
    cases named : spot.relation? registry field.1 with
    | none =>
        rw [Spot.ownerEdge?_of_unrelated named, Spot.memberEdges_of_unrelated named]
        simp
    | some relation =>
        have isEntry : fieldEntry spot field relation ∈ entries :=
          (resolved.mem_iff _).2 ⟨field, member, relation, named, rfl⟩
        obtain ⟨target, found⟩ := closed.target (Spot.resolves_of_relation? named)
        have owner := (ownerAccepted_iff object named found).1 (ownersAccepted _ isEntry)
        have members := (membersAccepted_iff object named found).1 (membersAccepted _ isEntry)
        refine ⟨?_, owner.2, members.2⟩
        rintro _ ⟨rfl⟩
        by_cases isOwner : relation.kind = .belongsToOne
        · exact owner.1 isOwner
        · exact members.1 isOwner
  · intro all
    constructor
    · intro entry isEntry
      obtain ⟨field, member, relation, named, rfl⟩ := (resolved.mem_iff entry).1 isEntry
      obtain ⟨target, found⟩ := closed.target (Spot.resolves_of_relation? named)
      exact (ownerAccepted_iff object named found).2
        ⟨fun _ => (all field member).1 relation named, (all field member).2.1⟩
    · intro entry isEntry
      obtain ⟨field, member, relation, named, rfl⟩ := (resolved.mem_iff entry).1 isEntry
      obtain ⟨target, found⟩ := closed.target (Spot.resolves_of_relation? named)
      exact (membersAccepted_iff object named found).2
        ⟨fun _ => (all field member).1 relation named, (all field member).2.2⟩

/-- A record is planned if it opens, its fields resolve, and its relatives are planned. -/
theorem planRecord_succ_succeeds_iff {conflict : Option ConflictPolicy} {remaining : Nat}
    {ancestors : List RecordKey} {spot : Spot} {inbound : List Backfill} {next : Nat} :
    (∃ fragment, context.planRecord conflict (remaining + 1) ancestors spot.entity spot.payload
        spot.path inbound next = .ok fragment) ↔
      (∃ fields, spot.payload = .object fields) ∧
        (∀ key ∈ spot.identity?, ancestors.any key.same = false) ∧
          ∃ entries, context.resolveEntries spot.entity spot.path
              (spot.fields.filter fun field => !spot.entity.hasColumn field.1) = .ok entries ∧
            ∃ owners, context.planOwners
                (context.planRecord none remaining (spot.identity?.toList ++ ancestors)) next
                entries = .ok owners ∧
              ∃ members, context.planCollections
                (context.planRecord none remaining (spot.identity?.toList ++ ancestors))
                (next + owners.operations.length) (next + owners.operations.length + 1) entries =
                  .ok members := by
  rw [planRecord]
  simp only [List.partition_eq_filter_filter]
  simp only [Result.exists_bind_eq_ok, openRecord_eq_ok_iff]
  constructor
  · rintro ⟨_, ⟨isObject, _, fresh, rfl⟩, entries, resolved, owners, ownersOk, members, membersOk, _⟩
    exact ⟨isObject, fresh, entries, resolved, owners, ownersOk, members, membersOk⟩
  · rintro ⟨isObject, fresh, entries, resolved, owners, ownersOk, members, membersOk⟩
    exact ⟨_, ⟨isObject, Nat.succ_pos _, fresh, rfl⟩, entries, resolved, owners, ownersOk, members,
      membersOk, Result.exists_pure_eq_ok _⟩

/-- The planner plans exactly the accepted records. -/
theorem planRecord_succeeds_iff (closed : context.registry.Closed) (remaining : Nat) :
    ∀ (conflict : Option ConflictPolicy) (ancestors : List RecordKey) (spot : Spot)
      (inbound : List Backfill) (next : Nat),
      (∃ fragment, context.planRecord conflict remaining ancestors spot.entity spot.payload
          spot.path inbound next = .ok fragment) ↔
        spot.Accepted context.registry context.allow remaining ancestors := by
  induction remaining with
  | zero =>
      intro conflict ancestors spot inbound next
      refine iff_of_false ?_ id
      rintro ⟨fragment, succeeded⟩
      rcases Result.bind_eq_ok.1 succeeded with ⟨_, _, impossible⟩
      exact Result.throw_ne_ok impossible
  | succ remaining inductionHypothesis =>
      intro conflict ancestors spot inbound next
      have decided : (context.planRecord none remaining
          (spot.identity?.toList ++ ancestors)).Decided
            (Spot.Accepted context.registry context.allow remaining
              (spot.identity?.toList ++ ancestors)) :=
        ⟨fun below => inductionHypothesis none _ below, Spot.Accepted.object⟩
      rw [planRecord_succ_succeeds_iff, Spot.Accepted]
      refine and_congr_right fun _ => and_congr_right fun _ => ?_
      simp only [Spot.forall_edge_iff, Spot.admits_iff, forall_and]
      constructor
      · rintro ⟨entries, resolved, owners, ownersOk, members, membersOk⟩
        have isResolved := resolved_of_ok _ resolved
        have ownersAccepted := (planOwners_succeeds_iff decided entries _).1 ⟨owners, ownersOk⟩
        have membersAccepted := (planCollections_succeeds_iff decided entries
          (isResolved.joins closed) _ _).1 ⟨members, membersOk⟩
        have known := (resolveEntries_succeeds_iff spot.fields).1 ⟨entries, resolved⟩
        have all := (entriesAccepted_iff closed decided.object isResolved).1
          ⟨ownersAccepted, membersAccepted⟩
        exact ⟨⟨known, fun field member => (all field member).1⟩,
          fun field member => (all field member).2.1, fun field member => (all field member).2.2⟩
      · rintro ⟨⟨known, shaped⟩, ownersAccepted, membersAccepted⟩
        obtain ⟨entries, resolved⟩ := (resolveEntries_succeeds_iff spot.fields).2 known
        have isResolved := resolved_of_ok _ resolved
        have all := (entriesAccepted_iff closed decided.object isResolved).2
          fun field member => ⟨shaped field member, ownersAccepted field member,
            membersAccepted field member⟩
        obtain ⟨owners, ownersOk⟩ := (planOwners_succeeds_iff decided entries next).2 all.1
        obtain ⟨members, membersOk⟩ := (planCollections_succeeds_iff decided entries
          (isResolved.joins closed) (next + owners.operations.length)
          (next + owners.operations.length + 1)).2 all.2
        exact ⟨entries, resolved, owners, ownersOk, members, membersOk⟩

end InsertContext

end RecordGraph

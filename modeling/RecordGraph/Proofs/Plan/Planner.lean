import RecordGraph.Plan.Insert
import RecordGraph.Proofs.Result

/-!
Contract: what a successful planner did.

Owns: one inversion for each part of the planner, and the resolution of the fields of a record.
Does not own: what the parts of a plan mean.
-/

namespace RecordGraph

theorem Payload.toFields_eq_map (fields : List (String × Payload)) :
    Payload.toFields fields = fields.map fun field => (field.1, field.2.toValue) := by
  induction fields with
  | nil => rfl
  | cons field rest inductionHypothesis =>
      rw [Payload.toFields, inductionHypothesis, List.map_cons]

namespace InsertContext

variable {context : InsertContext} {plan : Planner} {entity target : Entity}
  {entry : RelationEntry} {entries : List RelationEntry} {owner next : Nat}

/-! ## Records -/

/-- Only objects above the greatest depth are opened. -/
theorem openRecord_eq_ok {payload : Payload} {path : String} {remaining : Nat}
    {ancestors : List RecordKey} {fields : List (String × Payload)} {key : Option RecordKey}
    (succeeded : context.openRecord entity payload path remaining ancestors = .ok (fields, key)) :
    payload = .object fields ∧ 0 < remaining := by
  cases payload with
  | scalar value => exact absurd succeeded Result.throw_ne_ok
  | list items => exact absurd succeeded Result.throw_ne_ok
  | again =>
      simp only [openRecord] at succeeded
      split at succeeded <;> exact absurd succeeded Result.throw_ne_ok
  | object found =>
      simp only [openRecord] at succeeded
      split at succeeded
      · exact absurd succeeded Result.throw_ne_ok
      · rename_i positive
        refine ⟨?_, Nat.pos_of_ne_zero positive⟩
        split at succeeded
        · cases Result.pure_eq_ok.1 succeeded
          rfl
        · split at succeeded
          · exact absurd succeeded Result.throw_ne_ok
          · cases Result.pure_eq_ok.1 succeeded
            rfl

/-- The fields that resolve to entries: columns are skipped, other names are relations. -/
inductive Resolved (registry : Registry) (entity : Entity) (path : String) :
    List (String × Payload) → List RelationEntry → Prop where
  | nil : Resolved registry entity path [] []
  | column {field : String × Payload} {fields : List (String × Payload)}
      {entries : List RelationEntry}
      (isColumn : entity.hasColumn field.1 = true)
      (rest : Resolved registry entity path fields entries) :
      Resolved registry entity path (field :: fields) entries
  | relation {name : String} {payload : Payload} {relation : Relation}
      {fields : List (String × Payload)} {entries : List RelationEntry}
      (notColumn : entity.hasColumn name = false)
      (resolves : registry.resolve entity.name name = .ok relation)
      (rest : Resolved registry entity path fields entries) :
      Resolved registry entity path ((name, payload) :: fields)
        (⟨name, relation, extendPath path name, payload⟩ :: entries)

theorem resolveEntries_cons_eq_ok {path : String} {name : String} {payload : Payload}
    {related : List (String × Payload)}
    (succeeded : context.resolveEntries entity path ((name, payload) :: related) = .ok entries) :
    ∃ relation others, context.registry.resolve entity.name name = .ok relation ∧
      context.resolveEntries entity path related = .ok others ∧
        entries = ⟨name, relation, extendPath path name, payload⟩ :: others := by
  rcases Result.mapM_cons_eq_ok.1 succeeded with ⟨first, others, headOk, tailOk, rfl⟩
  rcases Result.bind_eq_ok.1 headOk with ⟨relation, resolves, headOk⟩
  rcases Result.bind_eq_ok.1 headOk with ⟨_, _, headOk⟩
  cases Result.pure_eq_ok.1 headOk
  exact ⟨relation, others, resolves, tailOk, rfl⟩

theorem resolved_of_ok {path : String} (fields : List (String × Payload)) :
    ∀ {entries : List RelationEntry},
      context.resolveEntries entity path
          (fields.filter fun field => !entity.hasColumn field.1) = .ok entries →
        Resolved context.registry entity path fields entries := by
  induction fields with
  | nil =>
      intro entries succeeded
      rw [Result.mapM_nil_eq_ok.1 succeeded]
      exact .nil
  | cons field rest inductionHypothesis =>
      intro entries succeeded
      rcases field with ⟨name, payload⟩
      cases isColumn : entity.hasColumn name with
      | true =>
          rw [List.filter_cons_of_neg (by simp [isColumn])] at succeeded
          exact .column isColumn (inductionHypothesis succeeded)
      | false =>
          rw [List.filter_cons_of_pos (by simp [isColumn])] at succeeded
          rcases resolveEntries_cons_eq_ok succeeded with ⟨relation, others, resolves, tailOk, rfl⟩
          exact .relation isColumn resolves (inductionHypothesis tailOk)

/-- Entries keep the names and the order of their fields. -/
theorem Resolved.keys_sublist {registry : Registry} {path : String}
    {fields : List (String × Payload)} (resolved : Resolved registry entity path fields entries) :
    (entries.map (·.key)).Sublist (fields.map Prod.fst) := by
  induction resolved with
  | nil => exact List.Sublist.slnil
  | column isColumn rest inductionHypothesis => exact inductionHypothesis.cons _
  | relation notColumn resolves rest inductionHypothesis => exact inductionHypothesis.cons_cons _

/-! ## Owners -/

/-- The link from a record to one that it belongs to. -/
def ownerLink (entry : RelationEntry) (fragment : Fragment) : Backfill :=
  { column := entry.relation.sourceKey.column, source := fragment.root
    sourceColumn := entry.relation.targetKey.column }

theorem planOwners_cons_eq_ok {relatives : Relatives}
    (succeeded : context.planOwners plan next (entry :: entries) = .ok relatives) :
    (entry.relation.kind ≠ .belongsToOne ∧
        context.planOwners plan next entries = .ok relatives) ∨
      (entry.relation.kind = .belongsToOne ∧ entry.payload.isNull = true ∧
        ∃ others, context.planOwners plan next entries = .ok others ∧
          relatives = { others with children := (entry.key, []) :: others.children }) ∨
      (entry.relation.kind = .belongsToOne ∧ entry.payload.isNull = false ∧
        ∃ target fragment others,
          context.registry.entity entry.relation.target = .ok target ∧
          plan target entry.payload entry.path [] next = .ok fragment ∧
          context.planOwners plan (next + fragment.operations.length) entries = .ok others ∧
          relatives = {
            operations := fragment.operations ++ others.operations
            attachments := fragment.attachments ++ others.attachments
            children := (entry.key, [fragment.root]) :: others.children
            backfills := ownerLink entry fragment :: others.backfills }) := by
  rw [planOwners] at succeeded
  split at succeeded
  · rename_i isOwner
    split at succeeded
    · rename_i isNull
      rcases Result.bind_eq_ok.1 succeeded with ⟨others, tailOk, succeeded⟩
      exact Or.inr (Or.inl ⟨isOwner, isNull, others, tailOk, (Result.pure_eq_ok.1 succeeded).symm⟩)
    · rename_i notNull
      refine Or.inr (Or.inr ⟨isOwner, by simpa using notNull, ?_⟩)
      split at succeeded
      · rcases Result.bind_eq_ok.1 succeeded with ⟨target, found, succeeded⟩
        rcases Result.bind_eq_ok.1 succeeded with ⟨fragment, planned, succeeded⟩
        rcases Result.bind_eq_ok.1 succeeded with ⟨others, tailOk, succeeded⟩
        exact ⟨target, fragment, others, found, planned, tailOk,
          (Result.pure_eq_ok.1 succeeded).symm⟩
      · rcases Result.bind_eq_ok.1 succeeded with ⟨target, found, succeeded⟩
        rcases Result.bind_eq_ok.1 succeeded with ⟨fragment, planned, succeeded⟩
        rcases Result.bind_eq_ok.1 succeeded with ⟨others, tailOk, succeeded⟩
        exact ⟨target, fragment, others, found, planned, tailOk,
          (Result.pure_eq_ok.1 succeeded).symm⟩
      · exact absurd succeeded Result.throw_ne_ok
  · rename_i notOwner
    exact Or.inl ⟨notOwner, succeeded⟩

/-! ## Collections -/

theorem joinRow_eq_ok {member index : Nat} {row : Operation}
    (succeeded : context.joinRow entry owner member index = .ok row) :
    ∃ through table, entry.relation.through = some through ∧
      context.registry.table through.table = .ok table ∧ row = {
        index, kind := .through, table, values := [], path := entry.path
        backfills := [
          ⟨through.source.column, owner, entry.relation.sourceKey.column⟩,
          ⟨through.target.column, member, entry.relation.targetKey.column⟩] } := by
  rw [joinRow] at succeeded
  split at succeeded
  · exact absurd succeeded Result.throw_ne_ok
  · rename_i through joins
    rcases Result.bind_eq_ok.1 succeeded with ⟨table, found, succeeded⟩
    exact ⟨through, table, joins, found, (Result.pure_eq_ok.1 succeeded).symm⟩

theorem planMembers_cons_eq_ok {item : Payload} {items : List Payload}
    {outcome : List Operation × List Attachment × List Nat}
    (succeeded : context.planMembers plan entry target owner next (item :: items) = .ok outcome) :
    (entry.relation.kind = .manyToMany ∧
      ∃ fragment row others,
        plan target item entry.path [] next = .ok fragment ∧
        context.joinRow entry owner fragment.root (next + fragment.operations.length) = .ok row ∧
        context.planMembers plan entry target owner (next + fragment.operations.length + 1) items =
          .ok others ∧
        outcome = (fragment.operations ++ row :: others.1, fragment.attachments ++ others.2.1,
          fragment.root :: others.2.2)) ∨
    (entry.relation.kind ≠ .manyToMany ∧
      ∃ fragment others,
        plan target item entry.path
          [⟨entry.relation.targetKey.column, owner, entry.relation.sourceKey.column⟩] next =
            .ok fragment ∧
        context.planMembers plan entry target owner (next + fragment.operations.length) items =
          .ok others ∧
        outcome = (fragment.operations ++ others.1, fragment.attachments ++ others.2.1,
          fragment.root :: others.2.2)) := by
  rw [planMembers] at succeeded
  split at succeeded
  · rename_i isJoined
    rcases Result.bind_eq_ok.1 succeeded with ⟨fragment, planned, succeeded⟩
    rcases Result.bind_eq_ok.1 succeeded with ⟨row, joined, succeeded⟩
    rcases Result.bind_eq_ok.1 succeeded with ⟨others, tailOk, succeeded⟩
    exact Or.inl ⟨isJoined, fragment, row, others, planned, joined, tailOk,
      (Result.pure_eq_ok.1 succeeded).symm⟩
  · rename_i notJoined
    rcases Result.bind_eq_ok.1 succeeded with ⟨fragment, planned, succeeded⟩
    rcases Result.bind_eq_ok.1 succeeded with ⟨others, tailOk, succeeded⟩
    exact Or.inr ⟨notJoined, fragment, others, planned, tailOk,
      (Result.pure_eq_ok.1 succeeded).symm⟩

theorem planCollections_cons_eq_ok {relatives : Relatives}
    (succeeded : context.planCollections plan owner next (entry :: entries) = .ok relatives) :
    (entry.relation.kind = .belongsToOne ∧
        context.planCollections plan owner next entries = .ok relatives) ∨
      (entry.relation.kind ≠ .belongsToOne ∧
        ∃ items target planned others,
          collectionItems entry.payload entry.path = .ok items ∧
          context.registry.entity entry.relation.target = .ok target ∧
          context.planMembers plan entry target owner next items = .ok planned ∧
          context.planCollections plan owner (next + planned.1.length) entries = .ok others ∧
          relatives = {
            operations := planned.1 ++ others.operations
            attachments := planned.2.1 ++ others.attachments
            children := (entry.key, planned.2.2) :: others.children }) := by
  rw [planCollections] at succeeded
  split at succeeded
  · rename_i isOwner
    exact Or.inl ⟨isOwner, succeeded⟩
  · rename_i notOwner
    rcases Result.bind_eq_ok.1 succeeded with ⟨items, listed, succeeded⟩
    rcases Result.bind_eq_ok.1 succeeded with ⟨target, found, succeeded⟩
    rcases Result.bind_eq_ok.1 succeeded with ⟨planned, membersOk, succeeded⟩
    rcases Result.bind_eq_ok.1 succeeded with ⟨others, tailOk, succeeded⟩
    exact Or.inr ⟨notOwner, items, target, planned, others, listed, found, membersOk, tailOk,
      (Result.pure_eq_ok.1 succeeded).symm⟩

/-! ## The walk -/

/-- The attachments of a record, given the operations of its relatives. -/
def ownAttachments (index : Nat) (entries : List RelationEntry)
    (children : List (String × List Nat)) : List Attachment :=
  entries.map fun entry => {
    parent := index, key := entry.key, many := entry.relation.kind.isCollection
    children := (children.lookup entry.key).getD [] }

theorem planRecord_eq_ok {conflict : Option ConflictPolicy} {remaining : Nat}
    {ancestors : List RecordKey} {payload : Payload} {path : String} {inbound : List Backfill}
    {fragment : Fragment}
    (succeeded : context.planRecord conflict remaining ancestors entity payload path inbound next =
      .ok fragment) :
    ∃ below ancestors' fields entries owners members,
      remaining = below + 1 ∧ payload = .object fields ∧
      Resolved context.registry entity path fields entries ∧
      context.planOwners (context.planRecord none below ancestors') next entries = .ok owners ∧
      context.planCollections (context.planRecord none below ancestors')
        (next + owners.operations.length) (next + owners.operations.length + 1) entries =
          .ok members ∧
      fragment = {
        operations := owners.operations ++ {
          index := next + owners.operations.length, kind := .entity, table := entity.table
          values := (Payload.toFields (fields.filter fun field => entity.hasColumn field.1)).filter
            fun field => !(ownedColumns entries).contains field.1
          backfills := inbound ++ owners.backfills
          entity := some entity.name, path, conflict } :: members.operations
        attachments := owners.attachments ++ members.attachments ++
          ownAttachments (next + owners.operations.length) entries
            (owners.children ++ members.children)
        root := next + owners.operations.length } := by
  cases remaining with
  | zero =>
      rw [planRecord] at succeeded
      rcases Result.bind_eq_ok.1 succeeded with ⟨_, _, impossible⟩
      exact absurd impossible Result.throw_ne_ok
  | succ below =>
      rw [planRecord] at succeeded
      rcases Result.bind_eq_ok.1 succeeded with ⟨⟨fields, key⟩, opened, succeeded⟩
      simp only [List.partition_eq_filter_filter] at succeeded
      rcases Result.bind_eq_ok.1 succeeded with ⟨entries, resolved, succeeded⟩
      rcases Result.bind_eq_ok.1 succeeded with ⟨owners, ownersOk, succeeded⟩
      rcases Result.bind_eq_ok.1 succeeded with ⟨members, membersOk, succeeded⟩
      refine ⟨below, key.toList ++ ancestors, fields, entries, owners, members, rfl,
        (openRecord_eq_ok opened).1, resolved_of_ok fields resolved, ownersOk, membersOk, ?_⟩
      exact (Result.pure_eq_ok.1 succeeded).symm

end InsertContext

end RecordGraph

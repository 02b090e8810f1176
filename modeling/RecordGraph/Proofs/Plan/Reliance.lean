import RecordGraph.Proofs.Fetch.Acceptance
import RecordGraph.Proofs.Fetch.Order
import RecordGraph.Proofs.Plan.Acceptance
import RecordGraph.Proofs.Schema.Calls

/-!
Contract: what the planners take for granted of a frozen registry.

Owns: `Registry.ServesPlanners`, and that a frozen registry serves the planners, whatever calls have
made it.
Does not own: which payloads and fetches are planned.

The planners look up targets, join tables and columns without a check of their own. None of these
lookups can fail on a frozen registry.
-/

namespace RecordGraph

namespace FetchPlan

/-- The pending nodes below the root rows are those of the tree. -/
theorem nodes_rootPending (entity : Entity) (tree : RelationTree Filter) :
    (rootPending entity tree).map (·.node) = tree.nodes "" := by
  rw [rootPending, List.map_map]
  exact List.map_id _

end FetchPlan

namespace Registry

variable {registry : Registry}

/-- A relation that an entity of the registry declares. -/
structure Declares (registry : Registry) (entity : Entity) (relation : Relation) : Prop where
  isEntity : entity ∈ registry.entities
  isRelation : relation ∈ entity.relations

/-- Whether no lookup of the planners can fail. -/
structure ServesPlanners (registry : Registry) : Prop where
  /-- A tree that resolves has a level for each node, in breadth-first order, whatever filters it
  carries. -/
  levels : ∀ (config : Config) (entity : String) (tree filtered : RelationTree Filter),
    registry.resolveTree entity tree = .ok () → filtered.bare = tree.bare →
      ∃ found, registry.entity entity = .ok found ∧
        ∃ levels, FetchPlan.levelsFrom registry config filtered.height 1
            (FetchPlan.rootPending found filtered) = .ok levels ∧
          List.Forall₂ FetchPlan.IsLevelOf filtered.walk levels
  level : ∀ (entity : Entity) (relation : Relation), registry.Declares entity relation →
    ∀ (config : Config) (path : String) (parent index : Nat) (filter : Option Filter),
      ∃ level, FetchPlan.levelFor registry config relation path parent index filter = .ok level
  through : ∀ (entity : Entity) (relation : Relation), registry.Declares entity relation →
    relation.kind = .manyToMany → ∃ through, relation.through = some through
  joinRow : ∀ (entity : Entity) (relation : Relation), registry.Declares entity relation →
    relation.kind = .manyToMany → ∀ (context : InsertContext) (entry : RelationEntry),
      context.registry = registry → entry.relation = relation → ∀ owner member index : Nat,
        ∃ row, context.joinRow entry owner member index = .ok row
  /-- A key of a payload is not both a column and a relation. -/
  apart : ∀ (name key : String) (entity : Entity), registry.entity name = .ok entity →
    entity.hasColumn key = true → ∀ relation, registry.resolve name key ≠ .ok relation

/-- The target of a declared relation stands under its name, with the table of that name. -/
theorem Sound.target (sound : registry.Sound) (frozen : registry.frozen = true) {entity : Entity}
    {relation : Relation} (declares : registry.Declares entity relation) :
    ∃ target, registry.entity relation.target = .ok target ∧
      registry.schema.table? relation.target = some target.table := by
  obtain ⟨target, found⟩ := sound.closed frozen entity declares.isEntity relation declares.isRelation
  obtain ⟨isTarget, isName⟩ := entity_eq_ok found
  exact ⟨target, found, by rw [← isName]; exact sound.table target isTarget⟩

theorem Sound.joinTable (sound : registry.Sound) {entity : Entity} {relation : Relation}
    (declares : registry.Declares entity relation) (isJoined : relation.kind = .manyToMany) :
    ∃ through table, relation.through = some through ∧
      registry.table through.table = .ok table := by
  have joins := (sound.relations entity declares.isEntity relation declares.isRelation).joins
  obtain ⟨through, isThrough, ⟨_, table, isTable, _⟩, _⟩ := joins.through isJoined
  exact ⟨through, table, isThrough, tableAs_of_table? isTable⟩

/-- A tree that resolves is planned node by node. -/
theorem Reachable.levels (reachable : registry.Reachable) (frozen : registry.frozen = true)
    (config : Config) {entity : String} {tree filtered : RelationTree Filter}
    (resolves : registry.resolveTree entity tree = .ok ()) (same : filtered.bare = tree.bare) :
    ∃ found, registry.entity entity = .ok found ∧
      ∃ levels, FetchPlan.levelsFrom registry config filtered.height 1
          (FetchPlan.rootPending found filtered) = .ok levels ∧
        List.Forall₂ FetchPlan.IsLevelOf filtered.walk levels := by
  obtain ⟨found, isFound, nodesOk⟩ := Result.bind_eq_ok.1 resolves
  have follows : ∀ trail ∈ filtered.trails, registry.Follows entity trail := by
    rw [RelationTree.trails_of_bare same]
    exact (resolveNodes_eq_ok_iff (reachable.closed frozen)).1 nodesOk
  obtain ⟨levels, planned⟩ := FetchPlan.levelsFrom_of_follows config reachable frozen isFound follows
  have walked := FetchPlan.levelsFrom_walk planned
  rw [FetchPlan.nodes_rootPending] at walked
  exact ⟨found, isFound, levels, planned, walked⟩

theorem Reachable.servesPlanners (reachable : registry.Reachable) (frozen : registry.frozen = true) :
    registry.ServesPlanners where
  levels := fun config _ _ _ resolves same => reachable.levels frozen config resolves same
  level := fun entity relation declares config path parent index filter => by
    obtain ⟨target, found, isTable⟩ := reachable.sound.target frozen declares
    have joins :=
      (reachable.sound.relations entity declares.isEntity relation declares.isRelation).joins
    exact FetchPlan.levelFor_of_joins config found isTable joins path parent index filter
  through := fun entity relation declares isJoined => by
    obtain ⟨through, _, isThrough, _⟩ := reachable.sound.joinTable declares isJoined
    exact ⟨through, isThrough⟩
  joinRow := fun entity relation declares isJoined context entry sameRegistry sameRelation => by
    subst sameRegistry sameRelation
    exact InsertContext.joinRow_succeeds (reachable.sound.joinTable declares isJoined)
  apart := fun name key entity isEntity isColumn relation resolves => by
    have unshadowed := reachable.consistent.unshadowed isEntity resolves
    rw [name_of_resolve resolves, isColumn] at unshadowed
    cases unshadowed

/-- Whatever calls are made, the registry is sound, and serves the planners once it is frozen. -/
theorem afterAll_serves (schema : Schema) (calls : List Call) :
    (({ schema } : Registry).afterAll calls).Sound ∧
      ((({ schema } : Registry).afterAll calls).frozen = true →
        (({ schema } : Registry).afterAll calls).ServesPlanners) :=
  have reachable := Reachable.afterAll calls (.start schema)
  ⟨reachable.sound, reachable.servesPlanners⟩

end Registry

namespace Family

/-- Calls that make the family. Three of them fail: people have tags before tags are registered, tags
are registered twice, and nothing is registered once the registry is frozen. -/
def calls : List Registry.Call :=
  [.register "Person" [parent, children, tags], .freeze, .register "Tag" [], .register "Tag" [],
    .freeze, .register "Label" []]

theorem afterAll_calls : ({ schema } : Registry).afterAll calls = registry := rfl

/-- The family serves the planners. -/
theorem registry_serves :
    (({ schema } : Registry).afterAll calls).frozen = true ∧
      (({ schema } : Registry).afterAll calls).ServesPlanners :=
  have frozen : (({ schema } : Registry).afterAll calls).frozen = true := by
    rw [afterAll_calls]
    rfl
  ⟨frozen, (Registry.afterAll_serves schema calls).2 frozen⟩

end Family

end RecordGraph

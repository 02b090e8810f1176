import RecordGraph.Proofs.Fetch.Acceptance

/-!
Contract: the tables that an allowed fetch can read.

Owns: `Registry.Reaches`, `Registry.Exposes`, and that the queries of a plan that an allow-list has
passed select from exposed tables only.
Does not own: what is selected, and the execution of plans.

A level is planned for a node of the requested tree. The trail to the node is one of the allowed
tree, and leads through the same relations as planning does, so the tables of the level are those
that the trail exposes.
-/

namespace RecordGraph

open RecordGraph.Sql

namespace Registry

variable {F : Type}

/-- Whether names lead from an entity to a relation, each by a relation of the target before. -/
inductive Reaches (registry : Registry) (entity : String) : List String → Relation → Prop where
  | first {name : String} {relation : Relation} :
      registry.resolve entity name = .ok relation → Reaches registry entity [name] relation
  | next {above : List String} {name : String} {relation below : Relation} :
      Reaches registry entity above relation → registry.resolve relation.target name = .ok below →
        Reaches registry entity (above ++ [name]) below

/-- Whether a table is that of an entity, or belongs to a relation that an allowed path reaches from
there. -/
inductive Exposes (registry : Registry) (entity : String) (allowed : RelationTree F) :
    Table → Prop where
  | root {found : Entity} :
      registry.entity entity = .ok found → Exposes registry entity allowed found.table
  | target {trail : List String} {relation : Relation} {target : Entity} :
      trail ∈ allowed.trails → registry.Reaches entity trail relation →
        registry.entity relation.target = .ok target → Exposes registry entity allowed target.table
  | through {trail : List String} {relation : Relation} {through : Through} {table : Table} :
      trail ∈ allowed.trails → registry.Reaches entity trail relation →
        relation.through = some through → registry.table through.table = .ok table →
          Exposes registry entity allowed table

theorem Reaches.ne_nil {registry : Registry} {entity : String} {trail : List String}
    {relation : Relation} (reaches : registry.Reaches entity trail relation) : trail ≠ [] := by
  cases reaches with
  | first => exact List.cons_ne_nil _ _
  | next => exact List.append_ne_nil_of_right_ne_nil _ (List.cons_ne_nil _ _)

end Registry

/-! ## Selections -/

/-- Whether a selection reads certain tables only. -/
structure Sql.Select.Reads (tables : Table → Prop) (select : Select) : Prop where
  table : tables select.table
  through : ∀ join, select.join = some join → tables join.through

section Filters

variable {tables : Table → Prop} {select applied : Select}

theorem Sql.Select.Reads.of_same {other : Select} (reads : select.Reads tables)
    (same : other.SameColumns select) : other.Reads tables :=
  ⟨same.1 ▸ reads.table, same.2 ▸ reads.through⟩

theorem Sql.Select.reads_ofTable {table : Table} (isRead : tables table) :
    (Select.ofTable table).Reads tables := by
  refine ⟨isRead, fun join isJoin => ?_⟩
  cases isJoin

theorem Filter.sameColumns_of_applyOptional {filter : Option Filter}
    (applies : Filter.applyOptional filter select = .ok applied) : applied.SameColumns select := by
  obtain ⟨conditions, order, adds⟩ := Filter.applyOptional_eq_ok applies
  cases applies.symm.trans (adds select ⟨rfl, rfl⟩)
  exact ⟨rfl, rfl⟩

end Filters

/-- The query of a level for keys selects what its statement selects. -/
theorem FetchLevel.sameColumns_of_build {level : FetchLevel} {keys : List Value} {query : Select}
    (built : level.build keys = .ok query) : query.SameColumns level.statement := by
  have same := Filter.sameColumns_of_applyOptional built
  exact ⟨same.1, same.2⟩

namespace FetchPlan

/-- Whether the queries of a plan read certain tables only. -/
structure Reads (tables : Table → Prop) (plan : FetchPlan) : Prop where
  root : plan.root.Reads tables
  levels : ∀ level ∈ plan.levels, level.statement.Reads tables

variable {registry : Registry} {config : Config}

/-! ## Levels -/

/-- A level reads the target table of its relation, and the join table. -/
theorem levelFor_reads {tables : Table → Prop} {relation : Relation} {path : String}
    {parent index : Nat} {filter : Option Filter} {level : FetchLevel}
    (built : levelFor registry config relation path parent index filter = .ok level)
    (target : ∀ found, registry.entity relation.target = .ok found → tables found.table)
    (through : ∀ joins table, relation.through = some joins →
      registry.table joins.table = .ok table → tables table) : level.statement.Reads tables := by
  rcases Result.bind_eq_ok.1 built with ⟨entity, isEntity, built⟩
  dsimp only at built
  split at built
  · split at built
    · cases built
    · rename_i joins isJoins
      rcases Result.bind_eq_ok.1 built with ⟨table, isTable, built⟩
      rcases Result.bind_eq_ok.1 built with ⟨owner, _, built⟩
      rcases Result.bind_eq_ok.1 built with ⟨link, _, built⟩
      rcases Result.bind_eq_ok.1 built with ⟨key, _, built⟩
      cases Result.pure_eq_ok.1 built
      refine ⟨target entity isEntity, fun join isJoin => ?_⟩
      cases isJoin
      exact through joins table isJoins isTable
  · rcases Result.bind_eq_ok.1 built with ⟨key, _, built⟩
    cases Result.pure_eq_ok.1 built
    exact Select.reads_ofTable (target entity isEntity)

/-- Whether a pending node is a node of a tree below given names, under the owner that these lead to
from an entity. -/
structure StandsAt (registry : Registry) (entity : String) (tree : RelationTree Filter)
    (above : List String) (item : Pending) : Prop where
  own : above ++ [item.node.name] ∈ tree.trails
  below : ∀ rest ∈ item.node.children.trails, above ++ item.node.name :: rest ∈ tree.trails
  reaches : ∀ relation, registry.resolve item.owner item.node.name = .ok relation →
    registry.Reaches entity (above ++ [item.node.name]) relation

section Standing

variable {entity : String} {tree : RelationTree Filter} {above : List String}

theorem standsAt_rootPending {found : Entity} (isEntity : registry.entity entity = .ok found) :
    ∀ item ∈ rootPending found tree, StandsAt registry entity tree [] item := by
  intro item member
  obtain ⟨node, isNode, rfl⟩ := List.mem_map.1 member
  refine ⟨RelationTree.trail_of_mem_nodes isNode,
    fun _ => RelationTree.trail_below_of_mem_nodes isNode, fun relation resolves => ?_⟩
  rw [(Registry.entity_eq_ok isEntity).2] at resolves
  exact .first resolves

/-- Nodes below a planned node stand one name further. -/
theorem StandsAt.pendingBelow {item : Pending} {level : FetchLevel}
    {node : RelationTree.Node Filter}
    (stands : StandsAt registry entity tree above item)
    (planned : Planned registry config item level)
    (isNode : node ∈ item.node.children.nodes item.node.path) :
    StandsAt registry entity tree (above ++ [item.node.name])
      ⟨node, level.index, level.entity.name⟩ := by
  obtain ⟨relation, resolves, built⟩ := planned
  have isTarget := (Registry.entity_eq_ok (levelFor_eq_ok built).1.entity).2
  refine ⟨?_, fun rest isRest => ?_, fun below isBelow => ?_⟩
  · rw [List.append_assoc]
    exact stands.below _ (RelationTree.trail_of_mem_nodes isNode)
  · rw [List.append_assoc]
    exact stands.below _ (RelationTree.trail_below_of_mem_nodes isNode isRest)
  · rw [isTarget] at isBelow
    exact .next (stands.reaches relation resolves) isBelow

/-- A level loads a relation that a trail of the tree reaches. -/
theorem exists_reached_of_mem_levelsFrom {depth next : Nat} {pending : List Pending}
    {levels : List FetchLevel}
    (planned : levelsFrom registry config depth next pending = .ok levels)
    (stand : ∀ item ∈ pending, ∃ above, StandsAt registry entity tree above item)
    {level : FetchLevel} (member : level ∈ levels) :
    ∃ trail ∈ tree.trails, ∃ relation, registry.Reaches entity trail relation ∧
      ∃ item : Pending, levelFor registry config relation item.node.path item.parent level.index
        item.node.filter = .ok level := by
  induction depth generalizing next pending levels with
  | zero =>
      cases planned
      exact absurd member List.not_mem_nil
  | succ depth inductionHypothesis =>
      rcases levelsFrom_succ_eq_ok planned with ⟨first, deeper, rfl, isFirst, _, deeperOk⟩
      rcases List.mem_append.1 member with member | member
      · rcases exists_of_forall₂ isFirst member with ⟨item, isPending, relation, resolves, built⟩
        obtain ⟨above, stands⟩ := stand item isPending
        exact ⟨_, stands.own, relation, stands.reaches relation resolves, item, built⟩
      · refine inductionHypothesis deeperOk (fun item isBelow => ?_) member
        obtain ⟨⟨upper, upperLevel⟩, isUpper, isBelow⟩ := List.mem_flatMap.1 isBelow
        obtain ⟨node, isNode, rfl⟩ := List.mem_map.1 isBelow
        obtain ⟨above, stands⟩ := stand upper (List.of_mem_zip isUpper).1
        exact ⟨_, stands.pendingBelow (List.forall₂_zip isFirst isUpper) isNode⟩

end Standing

/-! ## Plans -/

theorem check_of_make {entity : String} {filter : Option Filter} {eager : ExpressionSource Filter}
    {source : AllowSource Filter} {filters : List (String × Option Filter)} {plan : FetchPlan}
    (made : make registry config entity filter eager source filters = .ok plan) :
    ∃ requested allow, eager.read = .ok requested ∧ source.read = .ok allow ∧
      allow.check requested = .ok () := by
  rcases Result.bind_eq_ok.1 made with ⟨_, _, made⟩
  rcases Result.bind_eq_ok.1 made with ⟨requested, isRequested, made⟩
  rcases Result.bind_eq_ok.1 made with ⟨allow, isAllow, made⟩
  rcases Result.bind_eq_ok.1 made with ⟨_, checked, _⟩
  exact ⟨requested, allow, isRequested, isAllow, checked⟩

theorem trails_of_withFilters {tree attached : RelationTree Filter}
    {filters : List (String × Option Filter)}
    (isAttached : withFilters config tree filters = .ok attached) :
    attached.trails = tree.trails := by
  rw [attached_of_withFilters isAttached]
  exact RelationTree.trails_of_bare (RelationTree.bare_attachFilters filters tree)

/-- A plan that an allow-list has passed reads nothing that the allow-list does not expose. -/
theorem reads_exposed {entity : String} {filter : Option Filter} {eager : ExpressionSource Filter}
    {source : AllowSource Filter} {allowed : RelationTree Filter}
    {filters : List (String × Option Filter)} {plan : FetchPlan}
    (made : make registry config entity filter eager source filters = .ok plan)
    (restricted : source.read = .ok (.within allowed)) :
    plan.Reads (registry.Exposes entity allowed) := by
  obtain ⟨requested, tree, isRequested, isTree, isEntity, isRoot, planned⟩ := make_levels made
  obtain ⟨_, _, sameRequested, isAllow, checked⟩ := check_of_make made
  cases isRequested.symm.trans sameRequested
  cases restricted.symm.trans isAllow
  refine ⟨?_, fun level isLevel => ?_⟩
  · exact (Select.reads_ofTable (.root isEntity)).of_same
      (Filter.sameColumns_of_applyOptional isRoot)
  · obtain ⟨trail, isTrail, relation, reaches, item, built⟩ :=
      exists_reached_of_mem_levelsFrom planned
        (fun item isItem => ⟨[], standsAt_rootPending isEntity item isItem⟩) isLevel
    rw [trails_of_withFilters isTree] at isTrail
    have found := AllowList.check_within_eq_ok_iff.1 checked trail isTrail
    have isAllowed := RelationTree.mem_trails_of_findNames found
    exact levelFor_reads built (fun _ isTarget => .target isAllowed reaches isTarget)
      fun _ _ isThrough isTable => .through isAllowed reaches isThrough isTable

end FetchPlan

end RecordGraph

import RecordGraph.Proofs.Expression.Attach
import RecordGraph.Proofs.Fetch.Breadth

/-!
Contract: which fetches are planned.

Owns: `Registry.Follows`, `Registry.Registers`, `FetchPlan.Accepts`, and its agreement with the
success of planning.
Does not own: what a successful plan is.

Checks go through the tree depth first, and the levels are planned breadth first. Both are here
compared with conditions on single paths.
-/

namespace RecordGraph

namespace Registry

/-- Whether names, from an entity on, are relations each of the target of the one before. -/
def Follows (registry : Registry) : (entity : String) → List String → Prop
  | _, [] => True
  | entity, name :: rest =>
      ∃ relation, registry.resolve entity name = .ok relation ∧
        registry.Follows relation.target rest

variable {registry : Registry}

theorem follows_cons_iff {entity name : String} {rest : List String} {relation : Relation}
    (resolves : registry.resolve entity name = .ok relation) :
    registry.Follows entity (name :: rest) ↔ registry.Follows relation.target rest := by
  constructor
  · rintro ⟨found, isFound, follows⟩
    cases resolves.symm.trans isFound
    exact follows
  · exact fun follows => ⟨relation, resolves, follows⟩

/-- Whether a name is that of a registered relation. -/
def Registers (registry : Registry) (name : String) : Prop :=
  ∃ entity ∈ registry.entities, ∃ relation ∈ entity.relations, relation.name = name

theorem Registers.isIdentifier (reachable : registry.Reachable) {name : String}
    (registers : registry.Registers name) : Text.isIdentifier name = true := by
  obtain ⟨entity, isEntity, relation, isRelation, rfl⟩ := registers
  exact reachable.isIdentifier entity isEntity relation isRelation

theorem Follows.registers {names : List String} :
    ∀ {entity : String}, registry.Follows entity names →
      ∀ name ∈ names, registry.Registers name := by
  induction names with
  | nil => exact fun _ _ member => absurd member List.not_mem_nil
  | cons name rest inductionHypothesis =>
      rintro entity ⟨relation, resolves, follows⟩
      rw [List.forall_mem_cons]
      refine ⟨?_, inductionHypothesis follows⟩
      obtain ⟨found, isFound, isRelation, isName⟩ := resolve_eq_ok resolves
      exact ⟨found, (entity_eq_ok isFound).1, relation, isRelation, isName⟩

/-- The names of relations can be told in a path. -/
theorem Follows.isName (reachable : registry.Reachable) {names : List String} {entity : String}
    (follows : registry.Follows entity names) : ∀ name ∈ names, RelationTree.IsName name :=
  fun name isName =>
    RelationTree.isName_of_isIdentifier ((follows.registers name isName).isIdentifier reachable)

theorem named_of_follows (reachable : registry.Reachable) {F : Type} {tree : RelationTree F}
    {entity : String} (follows : ∀ trail ∈ tree.trails, registry.Follows entity trail) :
    tree.Named :=
  fun trail isTrail => (follows trail isTrail).isName reachable

/-- A tree resolves if every trail does. -/
theorem resolveNodes_eq_ok_iff (closed : registry.Closed) {F : Type} {tree : RelationTree F} :
    ∀ {entity : String}, registry.resolveNodes entity tree = .ok () ↔
      ∀ trail ∈ tree.trails, registry.Follows entity trail := by
  induction tree with
  | nil => exact iff_of_true rfl fun _ isTrail => absurd isTrail List.not_mem_nil
  | cons name filter children siblings childrenHypothesis siblingsHypothesis =>
      intro entity
      rw [RelationTree.forall_mem_trails_cons, resolveNodes]
      constructor
      · intro resolved
        rcases Result.bind_eq_ok.1 resolved with ⟨relation, resolves, resolved⟩
        rcases Result.bind_eq_ok.1 resolved with ⟨_, _, resolved⟩
        rcases Result.bind_eq_ok.1 resolved with ⟨_, childrenOk, siblingsOk⟩
        refine ⟨⟨relation, resolves, trivial⟩, fun rest isRest => ?_,
          siblingsHypothesis.1 siblingsOk⟩
        exact ⟨relation, resolves, childrenHypothesis.1 childrenOk rest isRest⟩
      · rintro ⟨⟨relation, resolves, _⟩, children, siblings⟩
        obtain ⟨target, found⟩ := closed.target resolves
        have childrenOk := childrenHypothesis.2 fun rest isRest =>
          (follows_cons_iff resolves).1 (children rest isRest)
        refine Result.bind_eq_ok.2 ⟨relation, resolves, ?_⟩
        refine Result.bind_eq_ok.2 ⟨target, found, ?_⟩
        exact Result.bind_eq_ok.2 ⟨(), childrenOk, siblingsHypothesis.2 siblings⟩

end Registry

namespace FetchPlan

variable {registry : Registry} {config : Config}

/-! ## Levels -/

theorem exists_column_of_hasColumn {table : Table} {name : String}
    (hasColumn : table.hasColumn name = true) : ∃ column, table.column? name = some column := by
  rcases List.any_eq_true.1 hasColumn with ⟨column, member, isNamed⟩
  cases found : table.column? name with
  | some column => exact ⟨column, rfl⟩
  | none => exact absurd isNamed (List.find?_eq_none.1 found column member)

/-- A relation whose join columns are there can be loaded. -/
theorem levelFor_of_joins (config : Config) {owner : String} {relation : Relation} {target : Entity}
    (found : registry.entity relation.target = .ok target)
    (isTable : registry.schema.table? relation.target = some target.table)
    (joins : Registry.Joins registry.schema owner relation) (path : String) (parent index : Nat)
    (filter : Option Filter) :
    ∃ level, levelFor registry config relation path parent index filter = .ok level := by
  obtain ⟨key, isKey⟩ := exists_column_of_hasColumn (joins.target.of_table isTable)
  refine Result.exists_bind_eq_ok.2 ⟨target, found, ?_⟩
  split
  · rename_i isJoined
    obtain ⟨through, isThrough, ⟨_, table, isJoinTable, hasOwner⟩, hasLink⟩ := joins.through isJoined
    obtain ⟨owner, isOwner⟩ := exists_column_of_hasColumn hasOwner
    obtain ⟨link, isLink⟩ := exists_column_of_hasColumn (hasLink.of_table isJoinTable)
    rw [isThrough]
    refine Result.exists_bind_eq_ok.2 ⟨table, Registry.tableAs_of_table? isJoinTable, ?_⟩
    refine Result.exists_bind_eq_ok.2 ⟨owner, columnOf_eq_ok.2 isOwner, ?_⟩
    refine Result.exists_bind_eq_ok.2 ⟨link, columnOf_eq_ok.2 isLink, ?_⟩
    exact Result.exists_bind_eq_ok.2 ⟨key, columnOf_eq_ok.2 isKey, Result.exists_pure_eq_ok _⟩
  · exact Result.exists_bind_eq_ok.2 ⟨key, columnOf_eq_ok.2 isKey, Result.exists_pure_eq_ok _⟩

/-- Every resolved relation can be loaded. -/
theorem levelFor_succeeds (config : Config) (reachable : registry.Reachable) (frozen : registry.frozen = true)
    {owner name : String} {relation : Relation}
    (resolves : registry.resolve owner name = .ok relation) (path : String) (parent index : Nat)
    (filter : Option Filter) :
    ∃ level, levelFor registry config relation path parent index filter = .ok level := by
  have consistent := reachable.consistent
  obtain ⟨target, found⟩ := consistent.target_found frozen resolves
  have isTable : registry.schema.table? relation.target = some target.table := by
    obtain ⟨isEntity, isNamed⟩ := Registry.entity_eq_ok found
    rw [← isNamed]
    exact (consistent.agrees target isEntity).table
  exact levelFor_of_joins config found isTable (consistent.joins resolves) path parent index filter

/-- Whether a pending node and all that is below it resolve. -/
def Resolves (registry : Registry) (item : Pending) : Prop :=
  ∃ relation, registry.resolve item.owner item.node.name = .ok relation ∧
    ∀ rest ∈ item.node.children.trails, registry.Follows relation.target rest

theorem levelsOf_succeeds (config : Config) (reachable : registry.Reachable) (frozen : registry.frozen = true)
    {pending : List Pending} (resolves : ∀ item ∈ pending, Resolves registry item) :
    ∀ next, ∃ levels, levelsOf registry config next pending = .ok levels := by
  induction pending with
  | nil => exact fun _ => ⟨[], rfl⟩
  | cons item rest inductionHypothesis =>
      intro next
      rw [List.forall_mem_cons] at resolves
      obtain ⟨⟨relation, isRelation, _⟩, restResolves⟩ := resolves
      obtain ⟨level, built⟩ := levelFor_succeeds config reachable frozen isRelation
        item.node.path item.parent next item.node.filter
      obtain ⟨levels, levelsOk⟩ := inductionHypothesis restResolves (next + 1)
      refine Result.exists_bind_eq_ok.2 ⟨relation, isRelation, ?_⟩
      refine Result.exists_bind_eq_ok.2 ⟨level, built, ?_⟩
      exact Result.exists_bind_eq_ok.2 ⟨levels, levelsOk, Result.exists_pure_eq_ok _⟩

/-- What is below planned nodes resolves if all below the nodes does. -/
theorem resolves_pendingBelow {pending : List Pending} {levels : List FetchLevel}
    (planned : List.Forall₂ (Planned registry config) pending levels)
    (resolves : ∀ item ∈ pending, Resolves registry item) :
    ∀ item ∈ pendingBelow pending levels, Resolves registry item := by
  intro item member
  obtain ⟨⟨above, level⟩, isAbove, member⟩ := List.mem_flatMap.1 member
  obtain ⟨node, isNode, rfl⟩ := List.mem_map.1 member
  obtain ⟨relation, isRelation, built⟩ := List.forall₂_zip planned isAbove
  obtain ⟨relation', isRelation', follows⟩ := resolves above (List.of_mem_zip isAbove).1
  cases isRelation.symm.trans isRelation'
  have isTarget := (Registry.entity_eq_ok (levelFor_eq_ok built).1.entity).2
  obtain ⟨below, isBelow, _⟩ := follows _ (RelationTree.trail_of_mem_nodes isNode)
  refine ⟨below, by rw [isTarget]; exact isBelow, fun rest isRest => ?_⟩
  rw [← Registry.follows_cons_iff isBelow]
  exact follows _ (RelationTree.trail_below_of_mem_nodes isNode isRest)

theorem levelsFrom_succeeds (config : Config) (reachable : registry.Reachable) (frozen : registry.frozen = true)
    (depth : Nat) : ∀ {pending : List Pending}, (∀ item ∈ pending, Resolves registry item) →
      ∀ next, ∃ levels, levelsFrom registry config depth next pending = .ok levels := by
  induction depth with
  | zero => exact fun _ _ => ⟨[], rfl⟩
  | succ depth inductionHypothesis =>
      intro pending resolves next
      obtain ⟨first, firstOk⟩ := levelsOf_succeeds config reachable frozen resolves next
      obtain ⟨deeper, deeperOk⟩ := inductionHypothesis
        (resolves_pendingBelow (levelsOf_eq_ok firstOk).1 resolves) (next + first.length)
      refine Result.exists_bind_eq_ok.2 ⟨first, firstOk, ?_⟩
      exact Result.exists_bind_eq_ok.2 ⟨deeper, deeperOk, Result.exists_pure_eq_ok _⟩

/-- The levels of a tree that resolves are planned. -/
theorem levelsFrom_of_follows (config : Config) (reachable : registry.Reachable)
    (frozen : registry.frozen = true) {entity : String} {found : Entity}
    (isFound : registry.entity entity = .ok found) {tree : RelationTree Filter}
    (follows : ∀ trail ∈ tree.trails, registry.Follows entity trail) :
    ∃ levels, levelsFrom registry config tree.height 1 (rootPending found tree) = .ok levels := by
  have isName := (Registry.entity_eq_ok isFound).2
  have resolves : ∀ item ∈ rootPending found tree, Resolves registry item := by
    intro item member
    obtain ⟨node, isNode, rfl⟩ := List.mem_map.1 member
    obtain ⟨relation, isRelation, _⟩ := follows _ (RelationTree.trail_of_mem_nodes isNode)
    refine ⟨relation, by rw [isName]; exact isRelation, fun rest isRest => ?_⟩
    rw [← Registry.follows_cons_iff isRelation]
    exact follows _ (RelationTree.trail_below_of_mem_nodes isNode isRest)
  exact levelsFrom_succeeds config reachable frozen tree.height resolves 1

/-! ## Filters -/

theorem attached_of_withFilters {tree attached : RelationTree Filter}
    {filters : List (String × Option Filter)}
    (isAttached : withFilters config tree filters = .ok attached) :
    attached = (tree.attachFilters filters).1 := by
  unfold withFilters at isAttached
  generalize tree.attachFilters filters = outcome at isAttached ⊢
  rcases outcome with ⟨result, unmatched⟩
  cases unmatched with
  | nil => exact (Result.pure_eq_ok.1 isAttached).symm
  | cons path rest =>
      dsimp only at isAttached
      split at isAttached
      · exact absurd isAttached Result.throw_ne_ok
      · exact (Result.pure_eq_ok.1 isAttached).symm

theorem withFilters_eq_ok_iff {tree attached : RelationTree Filter}
    {filters : List (String × Option Filter)} (distinct : tree.Distinct) (named : tree.Named) :
    withFilters config tree filters = .ok attached ↔
      (config.strictEagerFilters = true → ∀ entry ∈ filters, entry.1 ∈ tree.paths) ∧
        attached = (tree.attachFilters filters).1 := by
  rw [← RelationTree.attachFilters_unmatched_iff filters distinct named, withFilters]
  rcases tree.attachFilters filters with ⟨result, unmatched⟩
  cases unmatched with
  | nil =>
      rw [Result.pure_eq_ok, eq_comm]
      simp
  | cons path rest =>
      dsimp only
      split
      · rename_i strict
        refine iff_of_false Result.throw_ne_ok ?_
        rintro ⟨impossible, _⟩
        exact List.cons_ne_nil _ _ (impossible strict)
      · rename_i lenient
        rw [Result.pure_eq_ok, eq_comm]
        simp [lenient]

/-! ## Plans -/

/-- Whether a fetch with no root filter, of a tree under an allow-list, can be planned. -/
structure Accepts (registry : Registry) (config : Config) (entity : String)
    (tree : RelationTree Filter) (allow : AllowList Filter)
    (filters : List (String × Option Filter)) : Prop where
  registered : ∃ found, registry.entity entity = .ok found
  allowed : ∀ path ∈ tree.paths, allow.allows path = true
  resolves : ∀ trail ∈ tree.trails, registry.Follows entity trail
  /-- Under strict settings every filter is for a path of the tree. -/
  matched : config.strictEagerFilters = true → ∀ entry ∈ filters, entry.1 ∈ tree.paths

/-- A fetch is planned exactly if it is accepted. -/
theorem make_eq_ok_iff_accepts (reachable : registry.Reachable) (frozen : registry.frozen = true)
    {entity : String} {eager : ExpressionSource Filter} {source : AllowSource Filter}
    {filters : List (String × Option Filter)} {tree : RelationTree Filter}
    {allow : AllowList Filter} (isTree : eager.read = .ok tree) (distinct : tree.Distinct)
    (isAllow : source.read = .ok allow) :
    (∃ plan, make registry config entity none eager source filters = .ok plan) ↔
      Accepts registry config entity tree allow filters := by
  simp only [make, Registry.resolveTree, Result.exists_bind_eq_ok]
  constructor
  · rintro ⟨found, isFound, _, sameTree, _, sameAllow, ⟨⟩, allowed, ⟨⟩, resolved, attached,
      isAttached, _⟩
    cases isTree.symm.trans sameTree
    cases isAllow.symm.trans sameAllow
    obtain ⟨_, _, nodesOk⟩ := Result.bind_eq_ok.1 resolved
    have follows := (Registry.resolveNodes_eq_ok_iff (reachable.closed frozen)).1 nodesOk
    have named := Registry.named_of_follows reachable follows
    exact ⟨⟨found, isFound⟩, (AllowList.check_eq_ok_iff named).1 allowed, follows,
      ((withFilters_eq_ok_iff distinct named).1 isAttached).1⟩
  · rintro ⟨⟨found, isFound⟩, allowed, follows, matched⟩
    have named := Registry.named_of_follows reachable follows
    have nodesOk := (Registry.resolveNodes_eq_ok_iff (reachable.closed frozen)).2 follows
    have attachedFollows : ∀ trail ∈ (tree.attachFilters filters).1.trails,
        registry.Follows entity trail := by
      rwa [RelationTree.trails_of_bare (RelationTree.bare_attachFilters filters tree)]
    obtain ⟨levels, levelsOk⟩ := levelsFrom_of_follows config reachable frozen isFound
      attachedFollows
    exact ⟨found, isFound, tree, isTree, allow, isAllow, (),
      (AllowList.check_eq_ok_iff named).2 allowed, (),
      Result.bind_eq_ok.2 ⟨found, isFound, nodesOk⟩, _,
      (withFilters_eq_ok_iff distinct named).2 ⟨matched, rfl⟩, _, rfl, levels, levelsOk,
      Result.exists_pure_eq_ok _⟩

end FetchPlan

end RecordGraph

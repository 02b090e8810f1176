import RecordGraph.Proofs.Expression.Trail
import RecordGraph.Proofs.Fetch.Level
import RecordGraph.Proofs.Lists

/-!
Contract: the levels of a fetch plan are the nodes of its relation tree.

Owns: `FetchPlan.Covers`, which finds the nodes of a tree among levels by their parents, and that
planning breadth first covers the tree.
Does not own: what levels select.
-/

namespace RecordGraph

open RecordGraph.Sql

namespace FetchPlan

/-- Whether a level is planned for a node. -/
def Planned (registry : Registry) (config : Config) (pending : Pending) (level : FetchLevel) :
    Prop :=
  ∃ relation, registry.resolve pending.owner pending.node.name = .ok relation ∧
    levelFor registry config relation pending.node.path pending.parent level.index
      pending.node.filter = .ok level

/-- Whether levels are those of the top-level nodes of a tree below a path, each with the levels
below it among all levels. -/
inductive Covers (registry : Registry) (config : Config) (all : List FetchLevel) :
    (owner path : String) → (index : Nat) → RelationTree Filter → List FetchLevel → Prop where
  | nil (owner path : String) (index : Nat) : Covers registry config all owner path index .nil []
  | cons {owner path name : String} {index : Nat} {filter : Option Filter}
      {children siblings : RelationTree Filter} {relation : Relation} {level : FetchLevel}
      {levels : List FetchLevel} (resolves : registry.resolve owner name = .ok relation)
      (built : levelFor registry config relation (extendPath path name) index level.index filter =
        .ok level)
      (below : Covers registry config all level.entity.name (extendPath path name) level.index
        children (all.filter (·.parent = level.index)))
      (beside : Covers registry config all owner path index siblings levels) :
      Covers registry config all owner path index (.cons name filter children siblings)
        (level :: levels)

/-- Whether a level is planned for a node, and all that is below the node is covered. -/
structure CoversNode (registry : Registry) (config : Config) (all : List FetchLevel)
    (item : Pending) (level : FetchLevel) : Prop where
  planned : Planned registry config item level
  below : Covers registry config all level.entity.name item.node.path level.index
    item.node.children (all.filter (·.parent = level.index))

section Planning

variable {registry : Registry} {config : Config}

theorem Planned.parent {pending : Pending} {level : FetchLevel}
    (planned : Planned registry config pending level) : level.parent = pending.parent := by
  rcases planned with ⟨relation, _, built⟩
  exact (levelFor_eq_ok built).2.2.1

theorem levelsOf_eq_ok {next : Nat} {pending : List Pending} {levels : List FetchLevel}
    (planned : levelsOf registry config next pending = .ok levels) :
    List.Forall₂ (Planned registry config) pending levels ∧
      levels.map (·.index) = List.range' next levels.length := by
  induction pending generalizing next levels with
  | nil =>
      cases planned
      exact ⟨.nil, rfl⟩
  | cons item rest inductionHypothesis =>
      rcases Result.bind_eq_ok.1 planned with ⟨relation, resolves, planned⟩
      rcases Result.bind_eq_ok.1 planned with ⟨level, built, planned⟩
      rcases Result.bind_eq_ok.1 planned with ⟨others, othersOk, planned⟩
      cases Result.pure_eq_ok.1 planned
      have others := inductionHypothesis othersOk
      have isIndex : level.index = next := (levelFor_eq_ok built).2.1
      refine ⟨.cons ⟨relation, resolves, ?_⟩ others.1, ?_⟩
      · rw [isIndex]
        exact built
      · rw [List.map_cons, isIndex, others.2, List.length_cons, List.range'_succ]

/-- Levels are planned for the pending nodes first, and then for what is below these. -/
theorem levelsFrom_succ_eq_ok {depth next : Nat} {pending : List Pending}
    {levels : List FetchLevel}
    (planned : levelsFrom registry config (depth + 1) next pending = .ok levels) :
    ∃ first deeper, levels = first ++ deeper ∧
      List.Forall₂ (Planned registry config) pending first ∧
      first.map (·.index) = List.range' next first.length ∧
      levelsFrom registry config depth (next + first.length) (pendingBelow pending first) =
        .ok deeper := by
  rcases Result.bind_eq_ok.1 planned with ⟨first, firstOk, planned⟩
  rcases Result.bind_eq_ok.1 planned with ⟨deeper, deeperOk, planned⟩
  cases Result.pure_eq_ok.1 planned
  have isFirst := levelsOf_eq_ok firstOk
  exact ⟨first, deeper, rfl, isFirst.1, isFirst.2, deeperOk⟩

/-- Levels are numbered in order. -/
theorem levelsFrom_numbered {depth next : Nat} {pending : List Pending} {levels : List FetchLevel}
    (planned : levelsFrom registry config depth next pending = .ok levels) :
    levels.map (·.index) = List.range' next levels.length := by
  induction depth generalizing next pending levels with
  | zero =>
      cases planned
      rfl
  | succ depth inductionHypothesis =>
      rcases levelsFrom_succ_eq_ok planned with ⟨first, deeper, rfl, _, numbered, deeperOk⟩
      rw [List.map_append, numbered, inductionHypothesis deeperOk, List.length_append,
        ← List.range'_append_1]

theorem mem_pendingBelow {pending : List Pending} {levels : List FetchLevel} {item : Pending}
    (member : item ∈ pendingBelow pending levels) :
    ∃ above level, (above, level) ∈ pending.zip levels ∧ item.parent = level.index ∧
      item.node ∈ above.node.children.nodes above.node.path := by
  obtain ⟨⟨above, level⟩, isAbove, member⟩ := List.mem_flatMap.1 member
  obtain ⟨node, isNode, rfl⟩ := List.mem_map.1 member
  exact ⟨above, level, isAbove, rfl, isNode⟩

theorem index_of_numbered {next : Nat} {levels : List FetchLevel}
    (numbered : levels.map (·.index) = List.range' next levels.length) {level : FetchLevel}
    (member : level ∈ levels) : next ≤ level.index ∧ level.index < next + levels.length := by
  have isIndex : level.index ∈ levels.map (·.index) := List.mem_map_of_mem member
  rw [numbered] at isIndex
  exact List.mem_range'_1.1 isIndex

/-- A node that is pending below levels has one of them as its parent. -/
theorem parent_of_mem_pendingBelow {next : Nat} {pending : List Pending}
    {levels : List FetchLevel}
    (numbered : levels.map (·.index) = List.range' next levels.length) {item : Pending}
    (member : item ∈ pendingBelow pending levels) :
    next ≤ item.parent ∧ item.parent < next + levels.length := by
  rcases mem_pendingBelow member with ⟨above, level, isAbove, isParent, _⟩
  rw [isParent]
  exact index_of_numbered numbered (List.of_mem_zip isAbove).2

/-- A level is planned below one of the given ones, or below one that is planned with it. -/
theorem levelsFrom_parents {depth next : Nat} {pending : List Pending} {levels : List FetchLevel}
    (planned : levelsFrom registry config depth next pending = .ok levels) {level : FetchLevel}
    (member : level ∈ levels) :
    (∃ item ∈ pending, level.parent = item.parent) ∨ next ≤ level.parent := by
  induction depth generalizing next pending levels with
  | zero =>
      cases planned
      exact absurd member List.not_mem_nil
  | succ depth inductionHypothesis =>
      rcases levelsFrom_succ_eq_ok planned with ⟨first, deeper, rfl, isFirst, numbered, deeperOk⟩
      rcases List.mem_append.1 member with member | member
      · rcases exists_of_forall₂ isFirst member with ⟨item, isPending, isPlanned⟩
        exact .inl ⟨item, isPending, isPlanned.parent⟩
      · apply Or.inr
        rcases inductionHypothesis deeperOk member with ⟨item, isBelow, sameParent⟩ | after
        · have bounds := parent_of_mem_pendingBelow numbered isBelow
          omega
        · omega

/-- The nodes below one level are those that are pending with it as their parent. -/
theorem filter_pendingBelow {next : Nat} {pending : List Pending} {levels : List FetchLevel}
    (sameLength : levels.length ≤ pending.length)
    (numbered : levels.map (·.index) = List.range' next levels.length) {item : Pending}
    {level : FetchLevel} (member : (item, level) ∈ pending.zip levels) :
    (pendingBelow pending levels).filter (·.parent = level.index) =
      (item.node.children.nodes item.node.path).map fun node =>
        ⟨node, level.index, level.entity.name⟩ := by
  have onRight : ((pending.zip levels).map Prod.snd).map (·.index) =
      (pending.zip levels).map fun pair => pair.2.index := List.map_map
  have distinct : ((pending.zip levels).map fun pair => pair.2.index).Nodup := by
    rw [← onRight, List.map_snd_zip sameLength, numbered]
    exact List.nodup_range'
  have keyed : ∀ pair ∈ pending.zip levels, ∀ each ∈
      (pair.1.node.children.nodes pair.1.node.path).map fun node =>
        (⟨node, pair.2.index, pair.2.entity.name⟩ : Pending),
      each.parent = pair.2.index := by
    intro pair _ each isPart
    obtain ⟨node, _, rfl⟩ := List.mem_map.1 isPart
    rfl
  exact filter_flatMap_of_distinct distinct keyed member

theorem covers_of_forall₂ {all : List FetchLevel} {owner : String} {index : Nat}
    {tree : RelationTree Filter} {path : String} {levels : List FetchLevel}
    (related : List.Forall₂ (CoversNode registry config all)
      ((tree.nodes path).map fun node => ⟨node, index, owner⟩) levels) :
    Covers registry config all owner path index tree levels := by
  induction tree generalizing levels with
  | nil =>
      cases related
      exact .nil owner path index
  | cons name filter children siblings _ siblingsHypothesis =>
      rcases List.forall₂_cons_left_iff.1 related with ⟨level, rest, atHead, atRest, rfl⟩
      rcases atHead with ⟨⟨relation, resolves, built⟩, below⟩
      exact .cons resolves built below (siblingsHypothesis atRest)

theorem height_of_mem_pendingBelow {depth : Nat} {pending : List Pending}
    {levels : List FetchLevel} {item : Pending}
    (heights : ∀ item ∈ pending, item.node.children.height < depth + 1)
    (member : item ∈ pendingBelow pending levels) : item.node.children.height < depth := by
  rcases mem_pendingBelow member with ⟨above, level, isAbove, _, isNode⟩
  have below := RelationTree.height_of_mem_nodes isNode
  have bound := heights above (List.of_mem_zip isAbove).1
  omega

/-- Every level is planned for a node, and comes after the level of the node's parent. -/
theorem levelsFrom_planned {depth next : Nat} {pending : List Pending} {levels : List FetchLevel}
    (planned : levelsFrom registry config depth next pending = .ok levels)
    (parents : ∀ item ∈ pending, item.parent < next) {level : FetchLevel}
    (member : level ∈ levels) :
    ∃ item, Planned registry config item level ∧ level.parent < level.index := by
  induction depth generalizing next pending levels with
  | zero =>
      cases planned
      exact absurd member List.not_mem_nil
  | succ depth inductionHypothesis =>
      rcases levelsFrom_succ_eq_ok planned with ⟨first, deeper, rfl, isFirst, numbered, deeperOk⟩
      rcases List.mem_append.1 member with member | member
      · rcases exists_of_forall₂ isFirst member with ⟨item, isPending, isPlanned⟩
        have bounds := index_of_numbered numbered member
        refine ⟨item, isPlanned, ?_⟩
        rw [isPlanned.parent]
        exact Nat.lt_of_lt_of_le (parents item isPending) bounds.1
      · apply inductionHypothesis deeperOk ?_ member
        exact fun item isBelow => (parent_of_mem_pendingBelow numbered isBelow).2

/-- Levels with smaller parents before, and with greater parents after, are not below a level. -/
theorem filter_parent_between {above levels deepest : List FetchLevel} {index : Nat}
    (smaller : ∀ level ∈ above, level.parent < index)
    (greater : ∀ level ∈ deepest, index < level.parent) :
    (above ++ (levels ++ deepest)).filter (·.parent = index) =
      levels.filter (·.parent = index) := by
  have noneAbove : above.filter (·.parent = index) = [] := by
    rw [List.filter_eq_nil_iff]
    intro level member same
    exact Nat.ne_of_lt (smaller level member) (of_decide_eq_true same)
  have noneDeeper : deepest.filter (·.parent = index) = [] := by
    rw [List.filter_eq_nil_iff]
    intro level member same
    exact Nat.ne_of_gt (greater level member) (of_decide_eq_true same)
  rw [List.filter_append, List.filter_append, noneAbove, noneDeeper, List.nil_append,
    List.append_nil]

/-- A level covers its node, once the levels of the next depth cover theirs. -/
theorem covers_pendingBelow {all above first second deepest : List FetchLevel} {next : Nat}
    {pending : List Pending} (isFirst : List.Forall₂ (Planned registry config) pending first)
    (numbered : first.map (·.index) = List.range' next first.length)
    (isAll : all = above ++ (second ++ deepest))
    (aboveParents : ∀ level ∈ above, level.parent < next)
    (deepestParents : ∀ level ∈ deepest, next + first.length ≤ level.parent)
    (related : List.Forall₂ (CoversNode registry config all) (pendingBelow pending first) second)
    {item : Pending} {level : FetchLevel} (isPair : (item, level) ∈ pending.zip first) :
    CoversNode registry config all item level := by
  have bounds := index_of_numbered numbered (List.of_mem_zip isPair).2
  -- of all levels, only those of the next depth can be below this one
  have isBelow : all.filter (·.parent = level.index) =
      second.filter (·.parent = level.index) := by
    rw [isAll]
    apply filter_parent_between
    · intro other member
      exact Nat.lt_of_lt_of_le (aboveParents other member) bounds.1
    · intro other member
      exact Nat.lt_of_lt_of_le bounds.2 (deepestParents other member)
  have ofItem := filter_pendingBelow (Nat.le_of_eq isFirst.length_eq.symm) numbered isPair
  refine ⟨List.forall₂_zip isFirst isPair, ?_⟩
  rw [isBelow]
  apply covers_of_forall₂
  rw [← ofItem]
  refine List.rel_filter (fun each other covers => ?_) related
  dsimp only
  rw [covers.planned.parent]

/-- Among all levels, the levels of given nodes come first of those that are planned with them, and
cover what is below the nodes. All other levels are planned below levels from `next` on. -/
theorem levelsFrom_covers {all earlier : List FetchLevel} {depth next : Nat}
    {pending : List Pending} {levels : List FetchLevel}
    (planned : levelsFrom registry config depth next pending = .ok levels)
    (isAll : all = earlier ++ levels) (earlierParents : ∀ level ∈ earlier, level.parent < next)
    (parents : ∀ item ∈ pending, item.parent < next)
    (heights : ∀ item ∈ pending, item.node.children.height < depth) :
    ∃ first deeper, levels = first ++ deeper ∧
      List.Forall₂ (CoversNode registry config all) pending first ∧
      ∀ level ∈ deeper, next ≤ level.parent := by
  induction depth generalizing earlier next pending levels with
  | zero =>
      cases planned
      have isNil : pending = [] := by
        rw [List.eq_nil_iff_forall_not_mem]
        intro item member
        exact absurd (heights item member) (Nat.not_lt_zero _)
      rw [isNil]
      exact ⟨[], [], rfl, .nil, fun level member => absurd member List.not_mem_nil⟩
  | succ depth inductionHypothesis =>
      rcases levelsFrom_succ_eq_ok planned with ⟨first, deeper, rfl, isFirst, numbered, deeperOk⟩
      have upperParents : ∀ level ∈ earlier ++ first, level.parent < next := by
        intro level member
        rcases List.mem_append.1 member with member | member
        · exact earlierParents level member
        · rcases exists_of_forall₂ isFirst member with ⟨item, isPending, isPlanned⟩
          rw [isPlanned.parent]
          exact parents item isPending
      have covered := inductionHypothesis deeperOk
        (isAll.trans (List.append_assoc earlier first deeper).symm)
        (fun level member => Nat.lt_add_right first.length (upperParents level member))
        (fun item member => (parent_of_mem_pendingBelow numbered member).2)
        (fun item member => height_of_mem_pendingBelow heights member)
      rcases covered with ⟨second, deepest, isDeeper, related, deepestParents⟩
      rw [← List.append_assoc, isDeeper] at isAll
      refine ⟨first, deeper, rfl, ?_, ?_⟩
      · rw [List.forall₂_iff_zip]
        refine ⟨isFirst.length_eq, fun {item level} isPair => ?_⟩
        exact covers_pendingBelow isFirst numbered isAll upperParents deepestParents related isPair
      · intro level member
        rcases levelsFrom_parents deeperOk member with ⟨item, isBelow, isParent⟩ | after
        · rw [isParent]
          exact (parent_of_mem_pendingBelow numbered isBelow).1
        · omega

/-- There are at least as many levels as the nodes are high. -/
theorem height_le_length {depth next : Nat} {pending : List Pending} {levels : List FetchLevel}
    (planned : levelsFrom registry config depth next pending = .ok levels)
    (heights : ∀ item ∈ pending, item.node.children.height < depth) {item : Pending}
    (member : item ∈ pending) : item.node.children.height < levels.length := by
  induction depth generalizing next pending levels item with
  | zero => exact absurd (heights item member) (Nat.not_lt_zero _)
  | succ depth inductionHypothesis =>
      rcases levelsFrom_succ_eq_ok planned with ⟨first, deeper, rfl, isFirst, _, deeperOk⟩
      have sameLength := isFirst.length_eq
      have isPositive : 0 < pending.length := List.length_pos_of_mem member
      rw [List.length_append]
      cases isHeight : item.node.children.height with
      | zero => omega
      | succ height =>
          rcases RelationTree.exists_node_of_height item.node.path isHeight with
            ⟨node, isNode, isLower⟩
          have isFst : item ∈ (pending.zip first).map Prod.fst := by
            rw [List.map_fst_zip (Nat.le_of_eq sameLength)]
            exact member
          obtain ⟨⟨above, level⟩, isAbove, rfl⟩ := List.mem_map.1 isFst
          have isPending : (⟨node, level.index, level.entity.name⟩ : Pending) ∈
              pendingBelow pending first :=
            List.mem_flatMap.2 ⟨_, isAbove, List.mem_map.2 ⟨node, isNode, rfl⟩⟩
          have lower := inductionHypothesis deeperOk
            (fun item member => height_of_mem_pendingBelow heights member) isPending
          dsimp only at lower
          omega

end Planning

/-! ## Plans -/

/-- What a planned fetch is. -/
structure IsPlanned (registry : Registry) (config : Config) (entity : String)
    (filter : Option Filter) (tree : RelationTree Filter) (plan : FetchPlan) : Prop where
  entity : registry.entity entity = .ok plan.entity
  root : Filter.applyOptional filter (.ofTable plan.entity.table) = .ok plan.root
  covers : Covers registry config plan.levels plan.entity.name "" 0 tree
    (plan.levels.filter (·.parent = 0))
  planned : ∀ level ∈ plan.levels,
    ∃ item, Planned registry config item level ∧ level.parent < level.index
  numbered : plan.levels.map (·.index) = List.range' 1 plan.levels.length
  height : tree.height ≤ plan.levels.length

section IsPlanned

variable {registry : Registry} {config : Config} {entity : String} {filter : Option Filter}
variable {tree : RelationTree Filter} {plan : FetchPlan}

theorem IsPlanned.positive (planned : plan.IsPlanned registry config entity filter tree) :
    ∀ level ∈ plan.levels, level.index ≠ 0 := by
  intro level member
  have bounds := index_of_numbered planned.numbered member
  omega

theorem IsPlanned.increasing (planned : plan.IsPlanned registry config entity filter tree) :
    plan.levels.Pairwise fun earlier later => earlier.index < later.index := by
  have ordered := @List.pairwise_lt_range' 1 plan.levels.length 1 Nat.one_pos
  rw [← planned.numbered] at ordered
  exact List.pairwise_map.1 ordered

theorem IsPlanned.correlates (planned : plan.IsPlanned registry config entity filter tree) :
    ∀ level ∈ plan.levels, level.Correlates := by
  intro level member
  rcases planned.planned level member with ⟨item, ⟨relation, _, built⟩, _⟩
  exact (levelFor_eq_ok built).1.correlates

end IsPlanned

/-- The nodes that planning starts with. -/
def rootPending (entity : Entity) (tree : RelationTree Filter) : List Pending :=
  (tree.nodes "").map fun node => { node, parent := 0, owner := entity.name }

/-- What a successful planner did. -/
theorem make_levels {registry : Registry} {config : Config} {entity : String}
    {filter : Option Filter} {eager : ExpressionSource Filter} {allow : AllowSource Filter}
    {filters : List (String × Option Filter)} {plan : FetchPlan}
    (made : make registry config entity filter eager allow filters = .ok plan) :
    ∃ requested tree, eager.read = .ok requested ∧
      withFilters config requested filters = .ok tree ∧ registry.entity entity = .ok plan.entity ∧
        Filter.applyOptional filter (.ofTable plan.entity.table) = .ok plan.root ∧
          levelsFrom registry config tree.height 1 (rootPending plan.entity tree) =
            .ok plan.levels := by
  rcases Result.bind_eq_ok.1 made with ⟨found, isEntity, made⟩
  rcases Result.bind_eq_ok.1 made with ⟨requested, isRequested, made⟩
  rcases Result.bind_eq_ok.1 made with ⟨_, _, made⟩
  rcases Result.bind_eq_ok.1 made with ⟨_, _, made⟩
  rcases Result.bind_eq_ok.1 made with ⟨_, _, made⟩
  rcases Result.bind_eq_ok.1 made with ⟨tree, isTree, made⟩
  rcases Result.bind_eq_ok.1 made with ⟨root, isRoot, made⟩
  rcases Result.bind_eq_ok.1 made with ⟨levels, planned, made⟩
  cases Result.pure_eq_ok.1 made
  exact ⟨requested, tree, isRequested, isTree, isEntity, isRoot, planned⟩

theorem parent_of_mem_rootPending {entity : Entity} {tree : RelationTree Filter} {item : Pending}
    (isRoot : item ∈ rootPending entity tree) : item.parent = 0 := by
  obtain ⟨node, _, rfl⟩ := List.mem_map.1 isRoot
  rfl

theorem height_of_mem_rootPending {entity : Entity} {tree : RelationTree Filter} {item : Pending}
    (isRoot : item ∈ rootPending entity tree) : item.node.children.height < tree.height := by
  obtain ⟨node, isNode, rfl⟩ := List.mem_map.1 isRoot
  exact RelationTree.height_of_mem_nodes isNode

theorem make_eq_ok {registry : Registry} {config : Config} {entity : String}
    {filter : Option Filter} {eager : ExpressionSource Filter} {allow : AllowSource Filter}
    {filters : List (String × Option Filter)} {plan : FetchPlan}
    (made : make registry config entity filter eager allow filters = .ok plan) :
    ∃ requested tree, eager.read = .ok requested ∧
      withFilters config requested filters = .ok tree ∧
        plan.IsPlanned registry config entity filter tree := by
  rcases make_levels made with ⟨requested, tree, isRequested, isTree, isEntity, isRoot, planned⟩
  have heights : ∀ item ∈ rootPending plan.entity tree,
      item.node.children.height < tree.height := fun item => height_of_mem_rootPending
  have parents : ∀ item ∈ rootPending plan.entity tree, item.parent < 1 :=
    fun item isItem => Nat.lt_one_iff.2 (parent_of_mem_rootPending isItem)
  refine ⟨requested, tree, isRequested, isTree, isEntity, isRoot, ?_, ?_, ?_, ?_⟩
  · rcases levelsFrom_covers planned (List.nil_append plan.levels).symm
        (fun level member => absurd member List.not_mem_nil) parents heights with
      ⟨first, deeper, isAppend, related, deeperParents⟩
    have isFirst : plan.levels.filter (·.parent = 0) = first := by
      rw [isAppend, ← List.nil_append (first ++ deeper), filter_parent_between
        (fun level member => absurd member List.not_mem_nil) deeperParents, List.filter_eq_self]
      intro level member
      rcases exists_of_forall₂ related member with ⟨item, isItem, covers⟩
      have bound := parents item isItem
      rw [covers.planned.parent]
      exact decide_eq_true (Nat.lt_one_iff.1 bound)
    rw [isFirst]
    exact covers_of_forall₂ related
  · exact fun level member => levelsFrom_planned planned parents member
  · exact levelsFrom_numbered planned
  · cases isHeight : tree.height with
    | zero => exact Nat.zero_le _
    | succ height =>
        rcases RelationTree.exists_node_of_height "" isHeight with ⟨node, isNode, isLower⟩
        have lower := height_le_length planned heights (List.mem_map.2 ⟨node, isNode, rfl⟩)
        dsimp only at lower ⊢
        omega

end FetchPlan

end RecordGraph

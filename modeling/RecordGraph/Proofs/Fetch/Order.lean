import RecordGraph.Proofs.Fetch.Breadth
import Mathlib.Data.List.GetD

/-!
Contract: the order of the levels of a fetch plan.

Owns: the agreement of levels with the breadth-first order of their tree, the place of each level
below its parent, and the batches of one depth.
Does not own: which fetches are planned.

Levels are numbered in the order in which they are planned, so a parent comes before its children,
and levels with earlier parents come first. Hence depths never decrease, and batches by depth keep
the order.
-/

namespace RecordGraph

/-- Items in batches by an ascending key keep their order. -/
theorem flatten_batches {α : Type} (key : α → Nat) (count : Nat) : ∀ {items : List α},
    items.Pairwise (fun left right => key left ≤ key right) →
      (∀ item ∈ items, 0 < key item ∧ key item ≤ count) →
        ((List.range count).map fun step => items.filter fun item => key item = step + 1).flatten =
          items := by
  induction count with
  | zero =>
      intro items _ bounds
      cases items with
      | nil => rfl
      | cons item rest =>
          have bound := bounds item (List.mem_cons_self ..)
          omega
  | succ count inductionHypothesis =>
      intro items sorted bounds
      -- the last batch stands at the end, since the keys ascend
      have split : items.filter (fun item => key item ≤ count) ++
          items.filter (fun item => key item = count + 1) = items := by
        clear inductionHypothesis
        induction sorted with
        | nil => rfl
        | @cons first rest least _ restHypothesis =>
            rw [List.forall_mem_cons] at bounds
            by_cases isLast : key first = count + 1
            · have noneBelow : (first :: rest).filter (fun item => key item ≤ count) = [] := by
                rw [List.filter_eq_nil_iff]
                intro item member
                rcases List.mem_cons.1 member with rfl | member
                · simp [isLast]
                · have above := least item member
                  simp
                  omega
              have allLast : (first :: rest).filter (fun item => key item = count + 1) =
                  first :: rest := by
                rw [List.filter_eq_self]
                intro item member
                rcases List.mem_cons.1 member with rfl | member
                · simp [isLast]
                · have above := least item member
                  have bound := (bounds.2 item member).2
                  simp
                  omega
              rw [noneBelow, allLast, List.nil_append]
            · have isBelow : key first ≤ count := by
                have bound := bounds.1.2
                omega
              rw [List.filter_cons_of_pos (by simpa using isBelow),
                List.filter_cons_of_neg (by simpa using isLast), List.cons_append,
                restHypothesis bounds.2]
      have below : ∀ step ∈ List.range count,
          items.filter (fun item => key item = step + 1) =
            (items.filter fun item => key item ≤ count).filter fun item => key item = step + 1 := by
        intro step isStep
        rw [List.filter_filter]
        refine List.filter_congr fun item _ => ?_
        have small := List.mem_range.1 isStep
        by_cases same : key item = step + 1 <;> simp [same]
        omega
      rw [List.range_succ, List.map_append, List.flatten_append, List.map_congr_left below,
        inductionHypothesis (sorted.filter _) ?_]
      · simpa using split
      · intro item member
        rw [List.mem_filter] at member
        exact ⟨(bounds item member.1).1, of_decide_eq_true member.2⟩

namespace FetchPlan

variable {registry : Registry} {config : Config}

/-! ## Nodes -/

/-- Whether a level is that of a node. -/
structure IsLevelOf (node : RelationTree.Node Filter) (level : FetchLevel) : Prop where
  path : level.path = node.path
  name : level.relation.name = node.name
  filter : level.filter = node.filter

theorem levelFor_path {relation : Relation} {path : String} {parent index : Nat}
    {filter : Option Filter} {level : FetchLevel}
    (built : levelFor registry config relation path parent index filter = .ok level) :
    level.path = path := by
  rcases Result.bind_eq_ok.1 built with ⟨entity, _, built⟩
  dsimp only at built
  split at built
  · split at built
    · cases built
    · rcases Result.bind_eq_ok.1 built with ⟨table, _, built⟩
      rcases Result.bind_eq_ok.1 built with ⟨owner, _, built⟩
      rcases Result.bind_eq_ok.1 built with ⟨link, _, built⟩
      rcases Result.bind_eq_ok.1 built with ⟨key, _, built⟩
      cases Result.pure_eq_ok.1 built
      rfl
  · rcases Result.bind_eq_ok.1 built with ⟨key, _, built⟩
    cases Result.pure_eq_ok.1 built
    rfl

theorem Planned.isLevelOf {item : Pending} {level : FetchLevel}
    (planned : Planned registry config item level) : IsLevelOf item.node level := by
  rcases planned with ⟨relation, resolves, built⟩
  rcases levelFor_eq_ok built with ⟨loads, _, _, sameFilter⟩
  rcases Registry.resolve_eq_ok resolves with ⟨_, _, _, isName⟩
  exact ⟨levelFor_path built, by rw [loads.loaded, isName], sameFilter⟩

/-- What is pending below levels are the nodes below theirs. -/
theorem nodes_pendingBelow {pending : List Pending} {levels : List FetchLevel}
    (sameLength : pending.length = levels.length) :
    (pendingBelow pending levels).map (·.node) =
      (pending.map (·.node)).flatMap fun node => node.children.nodes node.path := by
  induction pending generalizing levels with
  | nil => rfl
  | cons item rest inductionHypothesis =>
      cases levels with
      | nil => cases sameLength
      | cons level levels =>
          have tail := inductionHypothesis (Nat.succ.inj sameLength)
          unfold pendingBelow at tail ⊢
          rw [List.zip_cons_cons, List.flatMap_cons, List.map_append, tail, List.map_cons,
            List.flatMap_cons, List.map_map]
          exact congrArg (· ++ _) (List.map_id _)

/-- Levels are planned in the breadth-first order of the nodes. -/
theorem levelsFrom_walk {depth next : Nat} {pending : List Pending} {levels : List FetchLevel}
    (planned : levelsFrom registry config depth next pending = .ok levels) :
    List.Forall₂ IsLevelOf (RelationTree.walkLevels depth (pending.map (·.node))) levels := by
  induction depth generalizing next pending levels with
  | zero =>
      cases planned
      exact .nil
  | succ depth inductionHypothesis =>
      rcases levelsFrom_succ_eq_ok planned with ⟨first, deeper, rfl, isFirst, _, deeperOk⟩
      have below := inductionHypothesis deeperOk
      rw [nodes_pendingBelow isFirst.length_eq] at below
      refine List.rel_append ?_ below
      rw [List.forall₂_map_left_iff]
      exact isFirst.imp fun _ _ isPlanned => isPlanned.isLevelOf

/-! ## Places -/

/-- Whether a level is planned below another one. -/
structure IsBelow (item : Pending) (above : FetchLevel) : Prop where
  parent : item.parent = above.index
  owner : item.owner = above.entity.name
  path : item.node.path = extendPath above.path item.node.name

/-- Every level is that of a pending node, or below one that is planned with it. -/
theorem levelsFrom_placed {depth next : Nat} {pending : List Pending} {levels : List FetchLevel}
    (planned : levelsFrom registry config depth next pending = .ok levels) {level : FetchLevel}
    (member : level ∈ levels) :
    ∃ item, Planned registry config item level ∧
      (item ∈ pending ∨ ∃ above ∈ levels, IsBelow item above) := by
  induction depth generalizing next pending levels with
  | zero =>
      cases planned
      exact absurd member List.not_mem_nil
  | succ depth inductionHypothesis =>
      rcases levelsFrom_succ_eq_ok planned with ⟨first, deeper, rfl, isFirst, _, deeperOk⟩
      rcases List.mem_append.1 member with member | member
      · rcases exists_of_forall₂ isFirst member with ⟨item, isPending, isPlanned⟩
        exact ⟨item, isPlanned, Or.inl isPending⟩
      · rcases inductionHypothesis deeperOk member with ⟨item, isPlanned, isNext | below⟩
        · refine ⟨item, isPlanned, Or.inr ?_⟩
          obtain ⟨⟨upper, above⟩, isPair, isNode⟩ := List.mem_flatMap.1 isNext
          obtain ⟨node, isChild, rfl⟩ := List.mem_map.1 isNode
          refine ⟨above, List.mem_append_left _ (List.of_mem_zip isPair).2, rfl, rfl, ?_⟩
          rw [(List.forall₂_zip isFirst isPair).isLevelOf.path]
          exact RelationTree.path_of_mem_nodes isChild
        · obtain ⟨above, isAbove, isBelow⟩ := below
          exact ⟨item, isPlanned, Or.inr ⟨above, List.mem_append_right _ isAbove, isBelow⟩⟩

/-- The path and the entity of the rows with a number. -/
def source? (plan : FetchPlan) (index : Nat) : Option (String × Entity) :=
  if index = 0 then some ("", plan.entity)
  else plan.levels[index - 1]?.map fun level => (level.path, level.entity)

/-- Whether a level stands where its path says. -/
structure Placed (registry : Registry) (plan : FetchPlan) (level : FetchLevel) : Prop where
  earlier : level.parent < level.index
  /-- The parent rows are those of the path without its last name, and their entity declares the
  relation. -/
  below : ∃ path entity, plan.source? level.parent = some (path, entity) ∧
    level.path = extendPath path level.relation.name ∧ level.relation ∈ entity.relations
  target : registry.entity level.relation.target = .ok level.entity

theorem getElem?_of_numbered {levels : List FetchLevel}
    (numbered : levels.map (·.index) = List.range' 1 levels.length) {level : FetchLevel}
    (member : level ∈ levels) : levels[level.index - 1]? = some level := by
  obtain ⟨position, atPosition⟩ := List.mem_iff_getElem?.1 member
  have isIndex : (levels.map (·.index))[position]? = some level.index := by
    rw [List.getElem?_map, atPosition, Option.map_some]
  have small : position < levels.length := (List.getElem?_eq_some_iff.1 atPosition).1
  rw [numbered, List.getElem?_range' small, Option.some.injEq] at isIndex
  have same : level.index - 1 = position := by omega
  rw [same, atPosition]

theorem Planned.placed {plan : FetchPlan} {item : Pending} {level : FetchLevel}
    (isPlanned : Planned registry config item level) (earlier : level.parent < level.index)
    {path : String} {entity : Entity} (atParent : plan.source? level.parent = some (path, entity))
    (isEntity : registry.entity item.owner = .ok entity)
    (isPath : item.node.path = extendPath path item.node.name) : Placed registry plan level := by
  have isLevel := isPlanned.isLevelOf
  rcases isPlanned with ⟨relation, resolves, built⟩
  have loads := (levelFor_eq_ok built).1
  refine ⟨earlier, ⟨path, entity, atParent, ?_, ?_⟩, by rw [loads.loaded]; exact loads.entity⟩
  · rw [isLevel.path, isPath, isLevel.name]
  · rcases Registry.resolve_eq_ok resolves with ⟨found, isFound, isRelation, _⟩
    cases isEntity.symm.trans isFound
    rw [loads.loaded]
    exact isRelation

/-! ## Depths -/

theorem pendingBelow_ascend {next : Nat} {pending : List Pending} {levels : List FetchLevel}
    (sameLength : levels.length ≤ pending.length)
    (numbered : levels.map (·.index) = List.range' next levels.length) :
    (pendingBelow pending levels).Pairwise fun left right => left.parent ≤ right.parent := by
  have increasing : ((pending.zip levels).map Prod.snd).Pairwise fun left right =>
      left.index < right.index := by
    rw [List.map_snd_zip sameLength, ← List.pairwise_map (f := FetchLevel.index) (R := (· < ·)),
      numbered]
    exact List.pairwise_lt_range'
  rw [List.pairwise_map] at increasing
  rw [pendingBelow, List.pairwise_flatMap]
  refine ⟨fun pair _ => ?_, increasing.imp fun {left right} below item isItem item' isItem' => ?_⟩
  · rw [List.pairwise_map]
    exact List.pairwise_of_forall fun _ _ => Nat.le_refl _
  · obtain ⟨_, _, rfl⟩ := List.mem_map.1 isItem
    obtain ⟨_, _, rfl⟩ := List.mem_map.1 isItem'
    exact Nat.le_of_lt below

/-- Levels with later parents come later. -/
theorem levelsFrom_parents_ascend {depth next : Nat} {pending : List Pending}
    {levels : List FetchLevel}
    (planned : levelsFrom registry config depth next pending = .ok levels)
    (ascend : pending.Pairwise fun left right => left.parent ≤ right.parent)
    (parents : ∀ item ∈ pending, item.parent < next) :
    levels.Pairwise fun left right => left.parent ≤ right.parent := by
  induction depth generalizing next pending levels with
  | zero =>
      cases planned
      exact .nil
  | succ depth inductionHypothesis =>
      rcases levelsFrom_succ_eq_ok planned with ⟨first, deeper, rfl, isFirst, numbered, deeperOk⟩
      have sameParents : first.map (·.parent) = pending.map (·.parent) := by
        rw [← List.forall₂_eq_eq_eq, List.forall₂_map_left_iff, List.forall₂_map_right_iff]
        exact isFirst.flip.imp fun _ _ isPlanned => Planned.parent isPlanned
      have belowAscend := pendingBelow_ascend (Nat.le_of_eq isFirst.length_eq.symm) numbered
      rw [List.pairwise_append]
      refine ⟨?_, inductionHypothesis deeperOk belowAscend ?_, ?_⟩
      · rw [← List.pairwise_map (f := FetchLevel.parent) (R := (· ≤ ·)), sameParents,
          List.pairwise_map]
        exact ascend
      · exact fun item isNext => (parent_of_mem_pendingBelow numbered isNext).2
      · intro left isLeft right isRight
        rcases exists_of_forall₂ isFirst isLeft with ⟨item, isPending, isPlanned⟩
        have small := parents item isPending
        rw [isPlanned.parent]
        rcases levelsFrom_parents deeperOk isRight with ⟨item', isNext, sameParent⟩ | after
        · have bound := (parent_of_mem_pendingBelow numbered isNext).1
          omega
        · omega

theorem depthsFrom_eq_append (levels : List FetchLevel) : ∀ depths : List Nat,
    ∃ added, depthsFrom depths levels = depths ++ added ∧ added.length = levels.length := by
  induction levels with
  | nil => exact fun depths => ⟨[], (List.append_nil _).symm, rfl⟩
  | cons level rest inductionHypothesis =>
      intro depths
      obtain ⟨added, isAppend, sameLength⟩ :=
        inductionHypothesis (depths ++ [depths.getD level.parent 0 + 1])
      refine ⟨(depths.getD level.parent 0 + 1) :: added, ?_, by rw [List.length_cons, sameLength]; rfl⟩
      rw [depthsFrom, isAppend, List.append_assoc, List.singleton_append]

/-- The depths that are given stay. -/
theorem getD_depthsFrom {depths : List Nat} (levels : List FetchLevel) {index : Nat}
    (given : index < depths.length) :
    (depthsFrom depths levels).getD index 0 = depths.getD index 0 := by
  obtain ⟨added, isAppend, _⟩ := depthsFrom_eq_append levels depths
  rw [isAppend, List.getD_append _ _ _ _ given]

/-- A level is one deeper than its parent. -/
theorem depthsFrom_succ {levels : List FetchLevel} : ∀ {depths : List Nat},
    levels.map (·.index) = List.range' depths.length levels.length →
      (∀ level ∈ levels, level.parent < level.index) →
        ∀ level ∈ levels, (depthsFrom depths levels).getD level.index 0 =
          (depthsFrom depths levels).getD level.parent 0 + 1 := by
  induction levels with
  | nil => exact fun _ _ _ member => absurd member List.not_mem_nil
  | cons first rest inductionHypothesis =>
      intro depths numbered earlier
      rw [List.map_cons, List.length_cons, List.range'_succ, List.cons.injEq] at numbered
      rw [List.forall_mem_cons] at earlier ⊢
      have sameLength : (depths ++ [depths.getD first.parent 0 + 1]).length = depths.length + 1 := by
        simp
      rw [depthsFrom]
      refine ⟨?_, inductionHypothesis (by rw [sameLength]; exact numbered.2) earlier.2⟩
      have isParent : first.parent < depths.length := by
        have bound := earlier.1
        omega
      rw [getD_depthsFrom rest (by omega), getD_depthsFrom rest (by omega), numbered.1,
        List.getD_append _ _ _ _ isParent, List.getD_append_right _ _ _ _ (Nat.le_refl _)]
      simp

section Depths

variable {levels : List FetchLevel} (numbered : levels.map (·.index) = List.range' 1 levels.length)

include numbered

theorem exists_level_of_index {index : Nat} (positive : 0 < index) {later : FetchLevel}
    (isLater : later ∈ levels) (atMost : index ≤ later.index) :
    ∃ level ∈ levels, level.index = index := by
  have bounds := index_of_numbered numbered isLater
  have isIndex : index ∈ levels.map (·.index) := by
    rw [numbered, List.mem_range'_1]
    omega
  exact List.mem_map.1 isIndex

theorem parent_le_of_index_le
    (ascend : levels.Pairwise fun left right => left.parent ≤ right.parent)
    {left right : FetchLevel} (isLeft : left ∈ levels) (isRight : right ∈ levels)
    (below : left.index ≤ right.index) : left.parent ≤ right.parent := by
  have atLeft := getElem?_of_numbered numbered isLeft
  have atRight := getElem?_of_numbered numbered isRight
  rcases List.getElem?_eq_some_iff.1 atLeft with ⟨leftSmall, isAtLeft⟩
  rcases List.getElem?_eq_some_iff.1 atRight with ⟨rightSmall, isAtRight⟩
  rcases Nat.eq_or_lt_of_le (Nat.sub_le_sub_right below 1) with same | isBelow
  · rw [same, atRight, Option.some.injEq] at atLeft
    exact Nat.le_of_eq (by rw [atLeft])
  · have ordered := List.pairwise_iff_getElem.1 ascend _ _ leftSmall rightSmall isBelow
    rwa [isAtLeft, isAtRight] at ordered

/-- The depth of a level is at least that of every level before it. -/
theorem depth_le_of_index_le (earlier : ∀ level ∈ levels, level.parent < level.index)
    (ascend : levels.Pairwise fun left right => left.parent ≤ right.parent) (bound : Nat) :
    ∀ left ∈ levels, ∀ right ∈ levels, right.index ≤ bound → left.index ≤ right.index →
      (depthsFrom [0] levels).getD left.index 0 ≤ (depthsFrom [0] levels).getD right.index 0 := by
  induction bound with
  | zero =>
      intro left _ right isRight atMost _
      have bounds := index_of_numbered numbered isRight
      omega
  | succ bound inductionHypothesis =>
      intro left isLeft right isRight atMost below
      have parents := parent_le_of_index_le numbered ascend isLeft isRight below
      have leftEarlier := earlier left isLeft
      have rightEarlier := earlier right isRight
      rw [depthsFrom_succ numbered earlier left isLeft, depthsFrom_succ numbered earlier right isRight]
      apply Nat.succ_le_succ
      by_cases atRoot : left.parent = 0
      · rw [atRoot, getD_depthsFrom levels Nat.one_pos]
        exact Nat.zero_le _
      · have positive : 0 < left.parent := Nat.pos_of_ne_zero atRoot
        obtain ⟨leftAbove, isLeftAbove, leftSame⟩ :=
          exists_level_of_index numbered positive isLeft (Nat.le_of_lt leftEarlier)
        obtain ⟨rightAbove, isRightAbove, rightSame⟩ := exists_level_of_index numbered
          (Nat.lt_of_lt_of_le positive parents) isRight (Nat.le_of_lt rightEarlier)
        rw [← leftSame, ← rightSame]
        refine inductionHypothesis leftAbove isLeftAbove rightAbove isRightAbove ?_ ?_
        · omega
        · omega

end Depths

/-- Batches by depth keep the order of the levels. -/
theorem flatten_groups {plan : FetchPlan}
    (numbered : plan.levels.map (·.index) = List.range' 1 plan.levels.length)
    (earlier : ∀ level ∈ plan.levels, level.parent < level.index)
    (ascend : plan.levels.Pairwise fun left right => left.parent ≤ right.parent) :
    plan.groups.flatten = plan.levels := by
  rw [groups]
  apply flatten_batches fun level : FetchLevel => (depthsFrom [0] plan.levels).getD level.index 0
  · have increasing : plan.levels.Pairwise fun left right => left.index < right.index := by
      rw [← List.pairwise_map (f := FetchLevel.index) (R := (· < ·)), numbered]
      exact List.pairwise_lt_range'
    refine List.Pairwise.imp_of_mem ?_ increasing
    intro left right isLeft isRight below
    exact depth_le_of_index_le numbered earlier ascend right.index left isLeft right isRight
      (Nat.le_refl _) (Nat.le_of_lt below)
  · intro level isLevel
    refine ⟨by rw [depthsFrom_succ numbered earlier level isLevel]; exact Nat.succ_pos _, ?_⟩
    apply le_foldl_max
    obtain ⟨added, isAppend, sameLength⟩ := depthsFrom_eq_append plan.levels [0]
    have bounds := index_of_numbered numbered isLevel
    have small : level.index < (depthsFrom [0] plan.levels).length := by
      rw [isAppend, List.length_append, sameLength, List.length_singleton]
      omega
    rw [List.getD_eq_getElem _ _ small]
    exact Or.inr (List.getElem_mem small)

/-! ## Plans -/

/-- Whether the levels of a plan walk a tree breadth first. -/
structure Walks (registry : Registry) (tree : RelationTree Filter) (plan : FetchPlan) : Prop where
  nodes : List.Forall₂ IsLevelOf tree.walk plan.levels
  numbered : plan.levels.map (·.index) = List.range' 1 plan.levels.length
  placed : ∀ level ∈ plan.levels, plan.Placed registry level
  grouped : plan.groups.flatten = plan.levels

theorem Walks.paths {tree : RelationTree Filter} {plan : FetchPlan}
    (walks : plan.Walks registry tree) : plan.levels.map (·.path) = tree.paths := by
  rw [RelationTree.paths, ← List.forall₂_eq_eq_eq, List.forall₂_map_left_iff,
    List.forall₂_map_right_iff]
  exact walks.nodes.flip.imp fun _ _ isLevel => isLevel.path

theorem make_walks {entity : String} {filter : Option Filter} {eager : ExpressionSource Filter}
    {allow : AllowSource Filter} {filters : List (String × Option Filter)} {plan : FetchPlan}
    (made : make registry config entity filter eager allow filters = .ok plan) :
    ∃ requested tree, eager.read = .ok requested ∧
      withFilters config requested filters = .ok tree ∧ registry.entity entity = .ok plan.entity ∧
        Filter.applyOptional filter (.ofTable plan.entity.table) = .ok plan.root ∧
          plan.Walks registry tree := by
  rcases make_levels made with ⟨requested, tree, isRequested, isTree, isEntity, isRoot, planned⟩
  have small : ∀ item ∈ rootPending plan.entity tree, item.parent < 1 :=
    fun item isItem => Nat.lt_one_iff.2 (parent_of_mem_rootPending isItem)
  have numbered := levelsFrom_numbered planned
  have earlier : ∀ level ∈ plan.levels, level.parent < level.index := by
    intro level member
    rcases levelsFrom_planned planned small member with ⟨_, _, precedes⟩
    exact precedes
  have rootsAscend : (rootPending plan.entity tree).Pairwise fun left right =>
      left.parent ≤ right.parent := by
    refine List.pairwise_of_forall_mem_list fun left isLeft right _ => ?_
    rw [parent_of_mem_rootPending isLeft]
    exact Nat.zero_le _
  have ascend := levelsFrom_parents_ascend planned rootsAscend small
  refine ⟨requested, tree, isRequested, isTree, isEntity, isRoot, ⟨?_, numbered, ?_,
    flatten_groups numbered earlier ascend⟩⟩
  · have rootNodes : (rootPending plan.entity tree).map (·.node) = tree.nodes "" := by
      rw [rootPending, List.map_map]
      exact List.map_id _
    rw [RelationTree.walk, ← rootNodes]
    exact levelsFrom_walk planned
  · intro level member
    rcases levelsFrom_placed planned member with ⟨item, isPlanned, isRoot | ⟨above, isAbove, below⟩⟩
    · obtain ⟨node, isNode, rfl⟩ := List.mem_map.1 isRoot
      have atRoot : plan.source? level.parent = some ("", plan.entity) := by
        rw [Planned.parent isPlanned]
        rfl
      refine isPlanned.placed (earlier level member) atRoot ?_ (RelationTree.path_of_mem_nodes isNode)
      dsimp only
      rw [(Registry.entity_eq_ok isEntity).2, isEntity]
    · have bounds := index_of_numbered numbered isAbove
      have atParent : plan.source? level.parent = some (above.path, above.entity) := by
        rw [Planned.parent isPlanned, below.parent, source?, if_neg (by omega),
          getElem?_of_numbered numbered isAbove]
        rfl
      rcases levelsFrom_planned planned small isAbove with ⟨_, ⟨relation, _, built⟩, _⟩
      have isTarget := (levelFor_eq_ok built).1.entity
      refine isPlanned.placed (earlier level member) atParent ?_ below.path
      rw [below.owner, (Registry.entity_eq_ok isTarget).2, isTarget]

end FetchPlan

end RecordGraph

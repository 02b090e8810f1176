import RecordGraph.Proofs.Expression.Growth

/-!
Contract: the nodes of a tree, one by one, and the order of a walk.

Owns: `RelationTree.NodeAt`, its agreement with lookup by names, `RelationTree.Before`, and
`RelationTree.Drains` for the order of a queue.
Does not own: how a tree was made, and which paths it has.

A walk goes level by level. The nodes of one level come by their parents, which are the level above
in its order, and then by their rank among siblings. A queue gives the same order, since the
children of a level are put behind all that is left of it.
-/

namespace RecordGraph.RelationTree

variable {F : Type}

/-! ## Nodes at the end of names -/

/-- Whether names lead from the top of a tree, which lies below a path, to a node. -/
inductive NodeAt : String → RelationTree F → List String → Node F → Prop where
  | top {path : String} {tree : RelationTree F} {node : Node F} :
      node ∈ tree.nodes path → NodeAt path tree [node.name] node
  | under {path : String} {tree : RelationTree F} {parent node : Node F} {trail : List String} :
      parent ∈ tree.nodes path → NodeAt parent.path parent.children trail node →
        NodeAt path tree (parent.name :: trail) node

theorem distinct_of_mem_nodes {tree : RelationTree F} {path : String} {node : Node F}
    (distinct : tree.Distinct) (isNode : node ∈ tree.nodes path) : node.children.Distinct := by
  induction tree with
  | nil => exact absurd isNode List.not_mem_nil
  | cons name filter children siblings _ siblingsHypothesis =>
      obtain ⟨_, childrenDistinct, siblingsDistinct⟩ := distinct
      rcases List.mem_cons.1 isNode with rfl | isNode
      · exact childrenDistinct
      · exact siblingsHypothesis siblingsDistinct isNode

theorem Ranked.of_mem_nodes {tree : RelationTree F} {rank : List String → Nat} {path : String}
    {node : Node F} (ranked : tree.Ranked rank) (isNode : node ∈ tree.nodes path) :
    node.children.Ranked fun below => rank (node.name :: below) := by
  induction tree with
  | nil => exact absurd isNode List.not_mem_nil
  | cons name filter children siblings _ siblingsHypothesis =>
      obtain ⟨_, childrenRanked, siblingsRanked⟩ := ranked
      rcases List.mem_cons.1 isNode with rfl | isNode
      · exact childrenRanked
      · exact siblingsHypothesis siblingsRanked isNode

/-- Lookup descends into the node of its first name, as no other has this name. -/
theorem findNames_of_mem_nodes {tree : RelationTree F} {path : String} {node : Node F}
    (distinct : tree.Distinct) (isNode : node ∈ tree.nodes path) (rest : List String) :
    tree.findNames path (node.name :: rest) =
      if rest = [] then some node else node.children.findNames node.path rest := by
  induction tree with
  | nil => exact absurd isNode List.not_mem_nil
  | cons name filter children siblings _ siblingsHypothesis =>
      obtain ⟨apart, _, siblingsDistinct⟩ := distinct
      rcases List.mem_cons.1 isNode with rfl | isNode
      · cases rest <;> simp [findNames]
      · have differs : name ≠ node.name := by
          intro same
          exact apart (same ▸ head_mem_names (trail_of_mem_nodes isNode))
        simp only [findNames, if_neg differs]
        exact siblingsHypothesis siblingsDistinct isNode

namespace NodeAt

variable {tree : RelationTree F} {path : String} {trail : List String} {node : Node F}

theorem mem_trails (leads : NodeAt path tree trail node) : trail ∈ tree.trails := by
  induction leads with
  | top isNode => exact trail_of_mem_nodes isNode
  | under isParent _ inductionHypothesis =>
      exact trail_below_of_mem_nodes isParent inductionHypothesis

/-- The path of a node is the names of the nodes above it, and its own. -/
theorem path_eq (leads : NodeAt path tree trail node) : node.path = dotted path trail := by
  induction leads with
  | top isNode => exact path_of_mem_nodes isNode
  | under isParent _ inductionHypothesis =>
      rw [inductionHypothesis, path_of_mem_nodes isParent]
      rfl

theorem splitPath_eq (leads : NodeAt "" tree trail node) (named : tree.Named) :
    splitPath node.path = trail := by
  rw [leads.path_eq]
  exact splitPath_dotted (named trail leads.mem_trails) (trail_ne_nil leads.mem_trails)

/-- The children of a node are at one more name. -/
theorem child {below : Node F} (leads : NodeAt path tree trail node)
    (isChild : below ∈ node.children.nodes node.path) :
    NodeAt path tree (trail ++ [below.name]) below := by
  induction leads with
  | top isNode => exact .under isNode (.top isChild)
  | under isParent _ inductionHypothesis => exact .under isParent (inductionHypothesis isChild)

/-- A node is found by its names. -/
theorem findNames_eq (leads : NodeAt path tree trail node) (distinct : tree.Distinct) :
    tree.findNames path trail = some node := by
  induction leads with
  | top isNode => rw [findNames_of_mem_nodes distinct isNode, if_pos rfl]
  | under isParent leads inductionHypothesis =>
      rw [findNames_of_mem_nodes distinct isParent, if_neg (trail_ne_nil leads.mem_trails)]
      exact inductionHypothesis (distinct_of_mem_nodes distinct isParent)

/-- A node of the later siblings is a node of the tree. -/
theorem cons {name : String} {filter : Option F} {children : RelationTree F}
    (leads : NodeAt path tree trail node) :
    NodeAt path (.cons name filter children tree) trail node := by
  cases leads with
  | top isNode => exact .top (List.mem_cons_of_mem _ isNode)
  | under isParent leads => exact .under (List.mem_cons_of_mem _ isParent) leads

/-- The children of a node are ranked by their trails in the whole tree. -/
theorem ranked (leads : NodeAt path tree trail node) : ∀ {rank : List String → Nat},
    tree.Ranked rank → node.children.Ranked fun below => rank (trail ++ below) := by
  induction leads with
  | top isNode => exact fun ranked => ranked.of_mem_nodes isNode
  | under isParent _ inductionHypothesis =>
      exact fun ranked => inductionHypothesis (ranked.of_mem_nodes isParent)

end NodeAt

/-- What is found by names is the node at their end. -/
theorem nodeAt_of_findNames {tree : RelationTree F} : ∀ {path : String} {names : List String}
    {node : Node F}, tree.findNames path names = some node → NodeAt path tree names node := by
  induction tree with
  | nil =>
      intro path names node found
      cases names <;> cases found
  | cons name filter children siblings childrenHypothesis siblingsHypothesis =>
      intro path names node found
      cases names with
      | nil => cases found
      | cons first rest =>
          simp only [findNames] at found
          split at found
          · rename_i same
            subst same
            have isNode : ⟨name, extendPath path name, filter, children⟩ ∈
                (RelationTree.cons name filter children siblings).nodes path :=
              List.mem_cons_self ..
            cases rest with
            | nil =>
                cases found
                exact .top isNode
            | cons second rest => exact .under isNode (childrenHypothesis found)
          · exact (siblingsHypothesis found).cons

/-! ## The order of a walk -/

/-- Whether a node comes before another one, by their trails: by depth, among nodes of one depth in
the order of their parents, and below one parent in the order of creation. -/
inductive Before (created : List (List String)) : List String → List String → Prop where
  | depth {left right : List String} : left.length < right.length → Before created left right
  | parents {left right : List String} {leftName rightName : String} :
      left.length = right.length → Before created left right →
        Before created (left ++ [leftName]) (right ++ [rightName])
  | siblings {parent : List String} {leftName rightName : String} :
      created.idxOf (parent ++ [leftName]) < created.idxOf (parent ++ [rightName]) →
        Before created (parent ++ [leftName]) (parent ++ [rightName])

namespace Before

variable {created : List (List String)} {left right : List String}

theorem length_le (before : Before created left right) : left.length ≤ right.length := by
  cases before with
  | depth shorter => exact Nat.le_of_lt shorter
  | parents same _ => simp [same]
  | siblings _ => simp

theorem ne_nil (before : Before created left right) : right ≠ [] := by
  cases before with
  | depth shorter => exact List.ne_nil_of_length_pos (Nat.zero_lt_of_lt shorter)
  | parents _ _ => exact List.append_ne_nil_of_right_ne_nil _ (List.cons_ne_nil _ _)
  | siblings _ => exact List.append_ne_nil_of_right_ne_nil _ (List.cons_ne_nil _ _)

/-- Nodes of one depth are in the order of their parents or of their creation. -/
theorem of_concat {leftName rightName : String}
    (before : Before created (left ++ [leftName]) (right ++ [rightName])) :
    Before created left right ∨ left = right ∧
      created.idxOf (left ++ [leftName]) < created.idxOf (right ++ [rightName]) := by
  generalize isLeft : left ++ [leftName] = first at before
  generalize isRight : right ++ [rightName] = second at before
  cases before with
  | depth shorter =>
      rw [← isLeft, ← isRight, List.length_append, List.length_append] at shorter
      exact Or.inl (.depth (Nat.lt_of_add_lt_add_right shorter))
  | parents _ before =>
      rw [(List.append_inj' isLeft rfl).1, (List.append_inj' isRight rfl).1]
      exact Or.inl before
  | siblings earlier =>
      rw [(List.append_inj' isLeft rfl).1, (List.append_inj' isRight rfl).1]
      exact Or.inr ⟨rfl, earlier⟩

theorem irrefl {trail : List String} : ¬ Before created trail trail := by
  induction trail using List.reverseRecOn with
  | nil => exact fun before => before.ne_nil rfl
  | append_singleton parent name inductionHypothesis =>
      intro before
      rcases before.of_concat with ofParents | ⟨_, earlier⟩
      · exact inductionHypothesis ofParents
      · exact Nat.lt_irrefl _ earlier

/-- Of two nodes at most one is before the other. -/
theorem asymm (before : Before created left right) : ¬ Before created right left := by
  induction before with
  | depth shorter => exact fun after => Nat.not_le_of_lt shorter after.length_le
  | parents _ before inductionHypothesis =>
      intro after
      rcases after.of_concat with ofParents | ⟨rfl, _⟩
      · exact inductionHypothesis ofParents
      · exact before.irrefl
  | siblings earlier =>
      intro after
      rcases after.of_concat with ofParents | ⟨_, later⟩
      · exact ofParents.irrefl
      · exact Nat.lt_asymm earlier later

end Before

theorem pairwise_nodes {tree : RelationTree F} {rank : List String → Nat} (path : String)
    (ranked : tree.Ranked rank) :
    (tree.nodes path).Pairwise fun left right => rank [left.name] < rank [right.name] := by
  induction tree with
  | nil => exact .nil
  | cons name filter children siblings _ siblingsHypothesis =>
      obtain ⟨first, _, siblingsRanked⟩ := ranked
      refine .cons (fun node isNode => ?_) (siblingsHypothesis siblingsRanked)
      exact first _ (head_mem_names (trail_of_mem_nodes isNode))

/-- Nodes of one depth in the order of a walk. -/
structure Level (created : List (List String)) (tree : RelationTree F) (depth : Nat)
    (nodes : List (Node F)) : Prop where
  leads : ∀ node ∈ nodes, NodeAt "" tree (splitPath node.path) node
  deep : ∀ node ∈ nodes, (splitPath node.path).length = depth
  ordered : nodes.Pairwise fun left right =>
    Before created (splitPath left.path) (splitPath right.path)

section Levels

variable {created : List (List String)} {tree : RelationTree F}

theorem level_top (named : tree.Named) (ranked : tree.Ranked created.idxOf) :
    Level created tree 1 (tree.nodes "") := by
  have isTrail : ∀ node ∈ tree.nodes "", splitPath node.path = [node.name] :=
    fun node isNode => (NodeAt.top isNode).splitPath_eq named
  refine ⟨fun node isNode => ?_, fun node isNode => ?_, ?_⟩
  · rw [isTrail node isNode]
    exact .top isNode
  · rw [isTrail node isNode]
    rfl
  · refine (pairwise_nodes "" ranked).imp_of_mem fun {left right} isLeft isRight earlier => ?_
    rw [isTrail left isLeft, isTrail right isRight]
    have first : created.idxOf ([] ++ [left.name]) < created.idxOf ([] ++ [right.name]) := earlier
    exact .siblings first

/-- The children of one level are the next level. -/
theorem Level.below {depth : Nat} {nodes : List (Node F)} (level : Level created tree depth nodes)
    (named : tree.Named) (ranked : tree.Ranked created.idxOf) :
    Level created tree (depth + 1) (nodes.flatMap fun node => node.children.nodes node.path) := by
  have leads : ∀ parent ∈ nodes, ∀ node ∈ parent.children.nodes parent.path,
      NodeAt "" tree (splitPath parent.path ++ [node.name]) node :=
    fun parent isParent node isChild => (level.leads parent isParent).child isChild
  have isTrail : ∀ parent ∈ nodes, ∀ node ∈ parent.children.nodes parent.path,
      splitPath node.path = splitPath parent.path ++ [node.name] :=
    fun parent isParent node isChild => (leads parent isParent node isChild).splitPath_eq named
  refine ⟨fun node isNode => ?_, fun node isNode => ?_, List.pairwise_flatMap.2
    ⟨fun parent isParent => ?_, ?_⟩⟩
  · obtain ⟨parent, isParent, isChild⟩ := List.mem_flatMap.1 isNode
    rw [isTrail parent isParent node isChild]
    exact leads parent isParent node isChild
  · obtain ⟨parent, isParent, isChild⟩ := List.mem_flatMap.1 isNode
    rw [isTrail parent isParent node isChild, List.length_append, level.deep parent isParent]
    rfl
  · have isRanked := (level.leads parent isParent).ranked ranked
    refine (pairwise_nodes parent.path isRanked).imp_of_mem
      fun {left right} isLeft isRight earlier => ?_
    rw [isTrail parent isParent left isLeft, isTrail parent isParent right isRight]
    exact .siblings earlier
  · refine level.ordered.imp_of_mem fun {left right} isLeft isRight before => ?_
    intro leftChild isLeftChild rightChild isRightChild
    rw [isTrail left isLeft leftChild isLeftChild, isTrail right isRight rightChild isRightChild]
    exact .parents ((level.deep left isLeft).trans (level.deep right isRight).symm) before

theorem Level.walkLevels (named : tree.Named) (ranked : tree.Ranked created.idxOf) (levels : Nat) :
    ∀ {depth : Nat} {nodes : List (Node F)}, Level created tree depth nodes →
      (∀ node ∈ walkLevels levels nodes, NodeAt "" tree (splitPath node.path) node ∧
        depth ≤ (splitPath node.path).length) ∧
      (walkLevels levels nodes).Pairwise fun left right =>
        Before created (splitPath left.path) (splitPath right.path) := by
  induction levels with
  | zero => exact fun _ => ⟨fun _ member => absurd member List.not_mem_nil, .nil⟩
  | succ levels inductionHypothesis =>
      intro depth nodes level
      obtain ⟨leads, ordered⟩ := inductionHypothesis (level.below named ranked)
      refine ⟨List.forall_mem_append.2 ⟨fun node isNode => ?_, fun node isNode => ?_⟩,
        List.pairwise_append.2 ⟨level.ordered, ordered, fun left isLeft right isRight => ?_⟩⟩
      · exact ⟨level.leads node isNode, (level.deep node isNode).ge⟩
      · exact ⟨(leads node isNode).1, Nat.le_of_succ_le (leads node isNode).2⟩
      · refine .depth ?_
        rw [level.deep left isLeft]
        exact (leads right isRight).2

/-- A walk is in order. -/
theorem walk_ordered (named : tree.Named) (ranked : tree.Ranked created.idxOf) :
    (∀ node ∈ tree.walk, NodeAt "" tree (splitPath node.path) node) ∧
      tree.walk.Pairwise fun left right =>
        Before created (splitPath left.path) (splitPath right.path) := by
  obtain ⟨leads, ordered⟩ := (level_top named ranked).walkLevels named ranked tree.height
  exact ⟨fun node isNode => (leads node isNode).1, ordered⟩

end Levels

/-! ## Queues -/

/-- Whether a queue gives nodes, if the children of each node are put at its end. -/
inductive Drains : List (Node F) → List (Node F) → Prop where
  | empty : Drains [] []
  | take {node : Node F} {queue taken : List (Node F)} :
      Drains (queue ++ node.children.nodes node.path) taken → Drains (node :: queue) (node :: taken)

/-- Nodes at the front of a queue leave it before all of their children. -/
theorem Drains.level {nodes : List (Node F)} : ∀ (behind : List (Node F)) {rest : List (Node F)},
    Drains (behind ++ nodes.flatMap fun node => node.children.nodes node.path) rest →
      Drains (nodes ++ behind) (nodes ++ rest) := by
  induction nodes with
  | nil =>
      intro behind rest drains
      rwa [List.flatMap_nil, List.append_nil] at drains
  | cons node nodes inductionHypothesis =>
      intro behind rest drains
      rw [List.flatMap_cons, ← List.append_assoc] at drains
      have later := inductionHypothesis _ drains
      rw [← List.append_assoc] at later
      exact .take later

theorem drains_walkLevels (levels : Nat) : ∀ {nodes : List (Node F)},
    (∀ node ∈ nodes, node.children.height < levels) → Drains nodes (walkLevels levels nodes) := by
  induction levels with
  | zero =>
      intro nodes heights
      cases nodes with
      | nil => exact .empty
      | cons node rest => exact absurd (heights node (List.mem_cons_self ..)) (Nat.not_lt_zero _)
  | succ levels inductionHypothesis =>
      intro nodes heights
      have below := inductionHypothesis (height_lt_of_mem_below heights)
      have level := Drains.level [] below
      rwa [List.append_nil] at level

/-- A walk gives what a queue of the top-level nodes gives. -/
theorem drains_walk (tree : RelationTree F) : Drains (tree.nodes "") tree.walk :=
  drains_walkLevels tree.height fun _ isNode => height_of_mem_nodes isNode

end RecordGraph.RelationTree

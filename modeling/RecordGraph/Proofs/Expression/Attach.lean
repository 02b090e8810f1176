import RecordGraph.Proofs.Expression.Trail

/-!
Contract: what attaching filters leaves as it is.

Owns: `RelationTree.refilter`, a tree with other filters, `RelationTree.bare`, a tree without, and
the keys that no node takes.
Does not own: which filter a node ends with.

Names, order, paths and expression of a tree are those of the bare tree, and attaching a filter does
not change the bare tree.
-/

namespace RecordGraph.RelationTree

variable {F : Type}

/-! ## Filters by path -/

/-- Chooses the filter of each node by its path and by the filter that it has. -/
def refilter (choose : String → Option F → Option F) (path : String) :
    RelationTree F → RelationTree F
  | .nil => .nil
  | .cons name filter children siblings =>
      .cons name (choose (extendPath path name) filter)
        (children.refilter choose (extendPath path name)) (siblings.refilter choose path)

def Node.refilter (choose : String → Option F → Option F) (node : Node F) : Node F :=
  { node with
    filter := choose node.path node.filter, children := node.children.refilter choose node.path }

section Refilter

variable {choose : String → Option F → Option F}

theorem nodes_refilter (tree : RelationTree F) (path : String) :
    (tree.refilter choose path).nodes path = (tree.nodes path).map (Node.refilter choose) := by
  induction tree with
  | nil => rfl
  | cons name filter children siblings _ siblingsHypothesis =>
      rw [refilter, nodes, siblingsHypothesis, nodes, List.map_cons]
      rfl

theorem height_refilter (tree : RelationTree F) : ∀ path : String,
    (tree.refilter choose path).height = tree.height := by
  induction tree with
  | nil => exact fun _ => rfl
  | cons name filter children siblings childrenHypothesis siblingsHypothesis =>
      intro path
      rw [refilter, height, height, childrenHypothesis, siblingsHypothesis]

theorem walkLevels_refilter (levels : Nat) : ∀ nodes : List (Node F),
    walkLevels levels (nodes.map (Node.refilter choose)) =
      (walkLevels levels nodes).map (Node.refilter choose) := by
  induction levels with
  | zero => exact fun _ => rfl
  | succ levels inductionHypothesis =>
      intro nodes
      have below : (nodes.map (Node.refilter choose)).flatMap
            (fun node => node.children.nodes node.path) =
          (nodes.flatMap fun node => node.children.nodes node.path).map (Node.refilter choose) := by
        rw [List.flatMap_map, List.map_flatMap]
        exact congrArg (List.flatMap · nodes) (funext fun node => nodes_refilter _ _)
      rw [walkLevels, below, inductionHypothesis, walkLevels, List.map_append]

/-- The walk meets the same nodes, with the filters that were chosen. -/
theorem walk_refilter (tree : RelationTree F) :
    (tree.refilter choose "").walk = tree.walk.map (Node.refilter choose) := by
  rw [walk, walk, height_refilter, nodes_refilter, walkLevels_refilter]

theorem paths_refilter (tree : RelationTree F) :
    (tree.refilter choose "").paths = tree.paths := by
  rw [paths, walk_refilter, List.map_map]
  rfl

end Refilter

/-! ## Trees without filters -/

/-- The tree without filters. -/
def bare : RelationTree F → RelationTree F
  | .nil => .nil
  | .cons name _ children siblings => .cons name none children.bare siblings.bare

theorem bare_eq_refilter (tree : RelationTree F) : ∀ path : String,
    tree.bare = tree.refilter (fun _ _ => none) path := by
  induction tree with
  | nil => exact fun _ => rfl
  | cons name filter children siblings childrenHypothesis siblingsHypothesis =>
      intro path
      rw [bare, refilter, ← childrenHypothesis, ← siblingsHypothesis]

theorem bare_refilter {choose : String → Option F → Option F} (tree : RelationTree F) :
    ∀ path : String, (tree.refilter choose path).bare = tree.bare := by
  induction tree with
  | nil => exact fun _ => rfl
  | cons name filter children siblings childrenHypothesis siblingsHypothesis =>
      intro path
      rw [refilter, bare, bare, childrenHypothesis, siblingsHypothesis]

theorem paths_bare (tree : RelationTree F) : tree.bare.paths = tree.paths := by
  rw [bare_eq_refilter tree "", paths_refilter]

theorem renderParts_bare (tree : RelationTree F) : tree.bare.renderParts = tree.renderParts := by
  induction tree with
  | nil => rfl
  | cons name filter children siblings childrenHypothesis siblingsHypothesis =>
      rw [bare, renderParts, renderParts, childrenHypothesis, siblingsHypothesis]

theorem trails_bare (tree : RelationTree F) : tree.bare.trails = tree.trails := by
  induction tree with
  | nil => rfl
  | cons name filter children siblings childrenHypothesis siblingsHypothesis =>
      rw [bare, trails, trails, childrenHypothesis, siblingsHypothesis]

theorem names_bare (tree : RelationTree F) : tree.bare.names = tree.names := by
  induction tree with
  | nil => rfl
  | cons name filter children siblings _ siblingsHypothesis =>
      rw [bare, names, names, siblingsHypothesis]

theorem distinct_bare (tree : RelationTree F) : tree.bare.Distinct ↔ tree.Distinct := by
  induction tree with
  | nil => exact Iff.rfl
  | cons name filter children siblings childrenHypothesis siblingsHypothesis =>
      rw [bare, Distinct, Distinct, names_bare, childrenHypothesis, siblingsHypothesis]

/-! ## Attached filters -/

theorem bare_setFilterNames (filter : Option F) {tree : RelationTree F} : ∀ {names : List String},
    (tree.setFilterNames filter names).bare = tree.bare := by
  induction tree with
  | nil =>
      intro names
      cases names <;> rfl
  | cons name filter' children siblings childrenHypothesis siblingsHypothesis =>
      intro names
      cases names with
      | nil => rfl
      | cons first rest =>
          simp only [setFilterNames]
          split
          · cases rest with
            | nil => rfl
            | cons second rest =>
                dsimp only
                rw [bare, bare, childrenHypothesis]
          · rw [bare, bare, siblingsHypothesis]

theorem bare_attachFilters (filters : List (String × Option F)) : ∀ tree : RelationTree F,
    (tree.attachFilters filters).1.bare = tree.bare := by
  induction filters with
  | nil => exact fun _ => rfl
  | cons entry rest inductionHypothesis =>
      intro tree
      rcases entry with ⟨path, filter⟩
      rw [attachFilters]
      split
      · exact inductionHypothesis tree
      · rw [inductionHypothesis, bare_setFilterNames]

section SameShape

variable {tree other : RelationTree F}

theorem paths_of_bare (same : tree.bare = other.bare) : tree.paths = other.paths := by
  rw [← paths_bare, same, paths_bare]

theorem render_of_bare (same : tree.bare = other.bare) : tree.render = other.render := by
  rw [render, render, ← renderParts_bare, same, renderParts_bare]

theorem trails_of_bare (same : tree.bare = other.bare) : tree.trails = other.trails := by
  rw [← trails_bare, same, trails_bare]

theorem named_of_bare (same : tree.bare = other.bare) (named : other.Named) : tree.Named := by
  unfold Named
  rwa [trails_of_bare same]

theorem distinct_of_bare (same : tree.bare = other.bare) (distinct : other.Distinct) :
    tree.Distinct := by
  rwa [← distinct_bare, same, distinct_bare]

end SameShape

/-- The keys that no node takes are those that are no path of the tree, in order. -/
theorem attachFilters_unmatched (filters : List (String × Option F)) :
    ∀ {tree : RelationTree F}, tree.Distinct → tree.Named →
      (tree.attachFilters filters).2 = (filters.map Prod.fst).filter (· ∉ tree.paths) := by
  induction filters with
  | nil => exact fun _ _ => rfl
  | cons entry rest inductionHypothesis =>
      intro tree distinct named
      rcases entry with ⟨path, filter⟩
      have isPath : (tree.find? path).isSome = true ↔ path ∈ tree.paths :=
        find?_isSome_iff distinct named
      rw [List.map_cons, attachFilters]
      cases found : tree.find? path with
      | none =>
          rw [found] at isPath
          dsimp only
          rw [inductionHypothesis distinct named, List.filter_cons_of_pos (by simpa using isPath)]
      | some node =>
          rw [found] at isPath
          have same : (tree.setFilterNames filter (splitPath path)).bare = tree.bare :=
            bare_setFilterNames filter
          dsimp only
          rw [inductionHypothesis (distinct_of_bare same distinct) (named_of_bare same named),
            paths_of_bare same, List.filter_cons_of_neg (by simpa using isPath)]

/-- Every key is taken exactly if each is a path of the tree. -/
theorem attachFilters_unmatched_iff (filters : List (String × Option F)) {tree : RelationTree F}
    (distinct : tree.Distinct) (named : tree.Named) :
    (tree.attachFilters filters).2 = [] ↔ ∀ entry ∈ filters, entry.1 ∈ tree.paths := by
  rw [attachFilters_unmatched filters distinct named, List.filter_eq_nil_iff, List.forall_mem_map]
  simp

end RecordGraph.RelationTree

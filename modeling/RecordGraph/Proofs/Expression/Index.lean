import RecordGraph.Proofs.Expression.Creation
import RecordGraph.Proofs.Expression.Dotted
import RecordGraph.Proofs.Expression.Walk

/-!
Contract: the paths of a tree as an index of its nodes.

Owns: `RelationTree.Indexed`, and that every tree that is made has it.
Does not own: what a walk does level by level, and how an expression makes a tree.

A stored path says how its node was created, so a walk, a lookup and the list of what was created
can be compared path by path. Splitting gives the names back, since no name is empty or holds a
point.
-/

namespace RecordGraph

/-- What was created under a path. -/
def Creation.ofPath (path : String) : Creation :=
  ⟨RelationTree.splitPath path, path⟩

namespace RelationTree

variable {F : Type}

/-- Whether creations are in the order in which their nodes are walked. -/
def Walked (created order : List Creation) : Prop :=
  order.Perm created ∧
    order.Pairwise fun left right => Before (created.map (·.trail)) left.trail right.trail

/-- Whether the paths of a tree tell its nodes, if these were created in an order. -/
structure Indexed (created : List Creation) (tree : RelationTree F) : Prop where
  /-- The nodes are those that were created, none of them twice. -/
  once : (created.map (·.trail)).Nodup
  nodes : ∀ trail, (∃ node, NodeAt "" tree trail node) ↔ trail ∈ created.map (·.trail)
  only : ∀ trail left right, NodeAt "" tree trail left → NodeAt "" tree trail right → left = right
  /-- A stored path is the names of the nodes above, and of the node, with points between them. -/
  joined : ∀ creation ∈ created, creation.path = ".".intercalate creation.trail
  /-- A walk gives each node once, with the stored path, and there is no other order for it. -/
  walked : ∃ order, Walked created order ∧ (∀ other, Walked created other → other = order) ∧
    List.Forall₂ (fun creation node => NodeAt "" tree creation.trail node ∧
      node.path = creation.path) order tree.walk
  queued : Drains (tree.nodes "") tree.walk
  /-- Different nodes have different paths, and what is above a path is a path. -/
  distinct : tree.paths.Nodup
  closed : ∀ above below, above ++ "." ++ below ∈ tree.paths → above ∈ tree.paths
  /-- A path is found exactly if it is there, and then its node is. -/
  finds : ∀ path, (∃ node, tree.find? path = some node) ↔ path ∈ tree.paths
  found : ∀ path node, tree.find? path = some node ↔ node ∈ tree.walk ∧ node.path = path

theorem Walked.eq {created left right : List Creation} (isLeft : Walked created left)
    (isRight : Walked created right) : left = right :=
  List.Perm.eq_of_pairwise (fun _ _ _ _ before after => absurd after before.asymm) isLeft.2
    isRight.2 (isLeft.1.trans isRight.1.symm)

namespace Made

variable {created : List Creation} {tree : RelationTree F}

theorem ofPath_eq (made : Made created tree) :
    ∀ creation ∈ created, Creation.ofPath creation.path = creation := by
  intro creation isCreated
  have isTrail : creation.trail ∈ tree.trails :=
    made.mem_trails_iff.2 (List.mem_map_of_mem isCreated)
  rw [Creation.ofPath, made.path_eq creation isCreated,
    splitPath_dotted (made.named _ isTrail) (trail_ne_nil isTrail),
    ← made.path_eq creation isCreated]

theorem paths_perm (made : Made created tree) : tree.paths.Perm (created.map (·.path)) := by
  have trails : tree.trails.Perm (created.map (·.trail)) :=
    (List.perm_ext_iff_of_nodup (spells_trails made.distinct).nodup made.nodup).2
      fun _ => made.mem_trails_iff
  have paths : (created.map (·.trail)).map (dotted "") = created.map (·.path) := by
    rw [List.map_map]
    exact List.map_congr_left fun creation isCreated => (made.path_eq creation isCreated).symm
  exact paths ▸ tree.paths_perm.trans (trails.map _)

/-- The paths of a tree, in the order of a walk, tell what was created. -/
theorem walked (made : Made created tree) : Walked created (tree.paths.map Creation.ofPath) := by
  constructor
  · have same : (created.map (·.path)).map Creation.ofPath = created := by
      rw [List.map_map]
      exact (List.map_congr_left made.ofPath_eq).trans (List.map_id _)
    exact (made.paths_perm.map _).trans (.of_eq same)
  · rw [List.pairwise_map, paths, List.pairwise_map]
    exact (walk_ordered made.named made.ranked).2

theorem find?_eq_some_iff (made : Made created tree) {path : String} {node : Node F} :
    tree.find? path = some node ↔ node ∈ tree.walk ∧ node.path = path := by
  have walked : ∀ node ∈ tree.walk, tree.find? node.path = some node := fun node isNode =>
    ((walk_ordered made.named made.ranked).1 node isNode).findNames_eq made.distinct
  constructor
  · intro found
    have isTrail : splitPath path ∈ tree.trails := (nodeAt_of_findNames found).mem_trails
    obtain ⟨other, isOther, rfl⟩ := List.mem_map.1 ((splitPath_mem_trails_iff made.named).1 isTrail)
    obtain rfl : other = node := Option.some.inj ((walked other isOther).symm.trans found)
    exact ⟨isOther, rfl⟩
  · rintro ⟨isNode, rfl⟩
    exact walked node isNode

/-- The paths of every tree that is made are an index. -/
theorem indexed (made : Made created tree) : Indexed created tree where
  once := made.nodup
  nodes trail := by
    have isFound : (tree.findNames "" trail).isSome = true ↔ trail ∈ tree.trails :=
      findNames_isSome_iff made.distinct
    rw [← made.mem_trails_iff, ← isFound, Option.isSome_iff_exists]
    exact exists_congr fun node =>
      ⟨fun leads => leads.findNames_eq made.distinct, nodeAt_of_findNames⟩
  only trail left right isLeft isRight := by
    have same := (isLeft.findNames_eq made.distinct).symm.trans
      (isRight.findNames_eq made.distinct)
    exact Option.some.inj same
  joined creation isCreated := by
    rw [made.path_eq creation isCreated]
    exact dotted_eq_intercalate
      (made.named _ (made.mem_trails_iff.2 (List.mem_map_of_mem isCreated)))
  walked := by
    refine ⟨_, made.walked, fun other isWalked => isWalked.eq made.walked, ?_⟩
    rw [List.forall₂_map_left_iff, paths, List.forall₂_map_left_iff, List.forall₂_same]
    exact fun node isNode => ⟨(walk_ordered made.named made.ranked).1 node isNode, rfl⟩
  queued := drains_walk tree
  distinct := paths_nodup made.named (spells_trails made.distinct).nodup
  closed above below isPath := by
    rw [← splitPath_mem_trails_iff made.named] at isPath ⊢
    refine mem_trails_of_longer isPath (splitPath_ne_nil above) ?_
    rw [splitPath_append_point]
    exact List.prefix_append ..
  finds path := by
    rw [← Option.isSome_iff_exists]
    exact find?_isSome_iff made.distinct made.named
  found path node := made.find?_eq_some_iff

end Made

/-- A tree that is read is made as it is read, and the paths of a tree stay an index of its nodes
however it is made further. -/
theorem paths_index :
    (∀ (expression : String) (tree : RelationTree F), parse expression = .ok tree →
      ∃ paths created, Expresses expression paths ∧ Made created tree ∧
        created.map (·.trail) = paths.eraseDups) ∧
    ∀ (created : List Creation) (tree : RelationTree F), Made created tree →
      Indexed created tree :=
  ⟨fun _ _ => made_of_parse, fun _ _ => Made.indexed⟩

/-- A child that is asked for after reading comes behind the children that were read. -/
theorem paths_index_of_later_child :
    ∃ (tree : RelationTree Unit) (created : List Creation), parse "a.b, c" = .ok tree ∧
      (∃ paths created, Expresses "a.b, c" paths ∧ Made created tree ∧
        created.map (·.trail) = paths.eraseDups) ∧
      Made created (tree.insert ["a", "d"]) ∧ Indexed created (tree.insert ["a", "d"]) ∧
      created.map (·.path) = ["a", "a.b", "c", "a.d"] ∧
      (tree.insert ["a", "d"]).paths = ["a", "c", "a.b", "a.d"] := by
  have isRead : parse "a.b, c" = .ok (ofPaths [["a"], ["a", "b"], ["c"]] : RelationTree Unit) := by
    decide +kernel
  have areNames : ∀ name ∈ ["a", "b", "c", "d"], IsName name := by
    unfold IsName
    decide
  have first := @Made.new Unit [] .nil .root "a" .empty (by decide) (by decide)
    (areNames _ (by decide))
  have second := @Made.new Unit _ _ ⟨["a"], "a"⟩ "b" first (by decide) (by decide)
    (areNames _ (by decide))
  have third := @Made.new Unit _ _ .root "c" second (by decide) (by decide)
    (areNames _ (by decide))
  have later := @Made.new Unit _ _ ⟨["a"], "a"⟩ "d" third (by decide) (by decide)
    (areNames _ (by decide))
  exact ⟨_, _, isRead, paths_index.1 _ _ isRead, later, paths_index.2 _ _ later, by decide,
    by decide⟩

end RelationTree

end RecordGraph

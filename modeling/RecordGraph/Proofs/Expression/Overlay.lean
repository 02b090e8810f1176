import RecordGraph.Proofs.Expression.Rendering

/-!
Contract: which filter each node of a tree ends with.

Owns: the agreement of copies with what they copy, `RelationTree.Prepared`, and
`RelationTree.Overlays` with the proof that it holds of a copy to which filters are attached.
Does not own: plans.

A filter is attached by a dotted path, and found by the names that the path is split into. In a tree
of names, with no two siblings of one name, each path leads to one node, so attaching a map chooses
the filter of each node by its path alone.
-/

namespace RecordGraph.RelationTree

variable {F : Type}

/-! ## Copies -/

/-- A tree followed by the nodes of another one. -/
def followedBy : (tree later : RelationTree F) → RelationTree F
  | .nil, later => later
  | .cons name filter children siblings, later =>
      .cons name filter children (siblings.followedBy later)

theorem followedBy_nil (tree : RelationTree F) : tree.followedBy .nil = tree := by
  induction tree with
  | nil => rfl
  | cons name filter children siblings _ siblingsHypothesis => rw [followedBy, siblingsHypothesis]

theorem followedBy_cons {name : String} {filter : Option F} {children siblings : RelationTree F}
    (tree : RelationTree F) :
    (tree.followedBy (.cons name filter children .nil)).followedBy siblings =
      tree.followedBy (.cons name filter children siblings) := by
  induction tree with
  | nil => rfl
  | cons other filter' children' siblings' _ siblingsHypothesis =>
      rw [followedBy, followedBy, followedBy, siblingsHypothesis]

theorem names_followedBy (tree later : RelationTree F) :
    (tree.followedBy later).names = tree.names ++ later.names := by
  induction tree with
  | nil => rfl
  | cons name filter children siblings _ siblingsHypothesis =>
      rw [followedBy, names, names, siblingsHypothesis, List.cons_append]

/-- A child of a new name is added at the end. -/
theorem setChild_of_not_mem {name : String} {filter : Option F}
    {change : RelationTree F → RelationTree F} {tree : RelationTree F} (isNew : name ∉ tree.names) :
    tree.setChild name filter change = tree.followedBy (.cons name filter (change .nil) .nil) := by
  induction tree with
  | nil => rfl
  | cons other filter' children siblings _ siblingsHypothesis =>
      rw [names, List.mem_cons, not_or] at isNew
      rw [setChild, if_neg (Ne.symm isNew.1), siblingsHypothesis isNew.2, followedBy]

/-- Copying nodes to others of different names adds them. -/
theorem copyInto_eq_followedBy {source : RelationTree F} : ∀ {target : RelationTree F},
    source.Distinct → (∀ name ∈ source.names, name ∉ target.names) →
      source.copyInto target = target.followedBy source := by
  induction source with
  | nil => exact fun _ _ => (followedBy_nil _).symm
  | cons name filter children siblings childrenHypothesis siblingsHypothesis =>
      rintro target ⟨apart, childrenDistinct, siblingsDistinct⟩ areNew
      rw [names, List.forall_mem_cons] at areNew
      have below : children.copyInto .nil = children :=
        childrenHypothesis childrenDistinct fun _ _ => List.not_mem_nil
      rw [copyInto, setChild_of_not_mem areNew.1, below]
      refine (siblingsHypothesis siblingsDistinct fun other isOther => ?_).trans
        (followedBy_cons target)
      rw [names_followedBy, List.mem_append, not_or]
      refine ⟨areNew.2 other isOther, fun isFirst => apart ?_⟩
      rwa [← List.mem_singleton.1 isFirst]

/-- A copy is the tree itself, filters included. -/
theorem copy_eq {tree : RelationTree F} (distinct : tree.Distinct) : tree.copy = tree :=
  copyInto_eq_followedBy distinct fun _ _ => List.not_mem_nil

/-! ## Choices that agree -/

section Refilter

variable {choose choose' : String → Option F → Option F}

theorem refilter_refilter (tree : RelationTree F) : ∀ path : String,
    (tree.refilter choose path).refilter choose' path =
      tree.refilter (fun path old => choose' path (choose path old)) path := by
  induction tree with
  | nil => exact fun _ => rfl
  | cons name filter children siblings childrenHypothesis siblingsHypothesis =>
      intro path
      rw [refilter, refilter, refilter, childrenHypothesis, siblingsHypothesis]

/-- Only the choice at the paths of nodes matters. -/
theorem refilter_congr {tree : RelationTree F} : ∀ {path : String},
    (∀ trail ∈ tree.trails, ∀ old, choose (dotted path trail) old = choose' (dotted path trail) old) →
      tree.refilter choose path = tree.refilter choose' path := by
  induction tree with
  | nil => exact fun _ => rfl
  | cons name filter children siblings childrenHypothesis siblingsHypothesis =>
      intro path same
      rw [forall_mem_trails_cons] at same
      have here : choose (extendPath path name) filter = choose' (extendPath path name) filter :=
        same.1 filter
      have below := @childrenHypothesis (extendPath path name) same.2.1
      rw [refilter, refilter, here, below, siblingsHypothesis same.2.2]

theorem refilter_id (tree : RelationTree F) : ∀ path : String,
    tree.refilter (fun _ old => old) path = tree := by
  induction tree with
  | nil => exact fun _ => rfl
  | cons name filter children siblings childrenHypothesis siblingsHypothesis =>
      intro path
      rw [refilter, childrenHypothesis, siblingsHypothesis]

theorem refilter_of_keeps {tree : RelationTree F} {path : String}
    (keeps : ∀ trail ∈ tree.trails, ∀ old, choose (dotted path trail) old = old) :
    tree.refilter choose path = tree :=
  (refilter_congr keeps).trans (refilter_id tree path)

end Refilter

/-! ## One filter -/

/-- Setting the filter at a trail chooses it there and keeps the others. -/
theorem setFilterNames_eq_refilter {filter : Option F} {tree : RelationTree F} :
    ∀ {target : List String} {path : String} {choose : String → Option F → Option F},
      tree.Distinct →
        (∀ trail ∈ tree.trails, ∀ old,
          choose (dotted path trail) old = if trail = target then filter else old) →
          tree.setFilterNames filter target = tree.refilter choose path := by
  induction tree with
  | nil =>
      intro target _ _ _ _
      cases target <;> rfl
  | cons name filter' children siblings childrenHypothesis siblingsHypothesis =>
      rintro target path choose ⟨apart, childrenDistinct, siblingsDistinct⟩ chooses
      rw [forall_mem_trails_cons] at chooses
      obtain ⟨atNode, atChildren, atSiblings⟩ := chooses
      have here : choose (extendPath path name) filter' = if [name] = target then filter else filter' :=
        atNode filter'
      have keepsChildren : (∀ trail ∈ children.trails, name :: trail ≠ target) →
          children.refilter choose (extendPath path name) = children := by
        intro elsewhere
        refine refilter_of_keeps fun trail isTrail old => ?_
        exact (atChildren trail isTrail old).trans (if_neg (elsewhere trail isTrail))
      rw [refilter, here]
      cases target with
      | nil =>
          rw [keepsChildren fun _ _ => List.cons_ne_nil _ _, if_neg (List.cons_ne_nil _ _),
            refilter_of_keeps fun trail isTrail old =>
              (atSiblings trail isTrail old).trans (if_neg (trail_ne_nil isTrail))]
          rfl
      | cons first rest =>
          simp only [setFilterNames]
          by_cases same : name = first
          · subst same
            have keepsSiblings : siblings.refilter choose path = siblings := by
              refine refilter_of_keeps fun trail isTrail old => ?_
              refine (atSiblings trail isTrail old).trans (if_neg ?_)
              rintro rfl
              exact apart (head_mem_names isTrail)
            rw [if_pos rfl, keepsSiblings]
            cases rest with
            | nil =>
                rw [if_pos rfl, keepsChildren fun trail isTrail same =>
                  trail_ne_nil isTrail (List.cons.inj same).2]
            | cons second rest =>
                dsimp only
                rw [if_neg (by simp), childrenHypothesis childrenDistinct fun trail isTrail old =>
                  (atChildren trail isTrail old).trans (by simp)]
          · rw [if_neg same, if_neg (fun isFirst => same (List.cons.inj isFirst).1),
              keepsChildren fun _ _ isFirst => same (List.cons.inj isFirst).1,
              siblingsHypothesis siblingsDistinct atSiblings]

/-- A trail is the split path of a node exactly if the path is the dotted trail. -/
theorem dotted_eq_iff {tree : RelationTree F} (named : tree.Named) {trail : List String}
    (isTrail : trail ∈ tree.trails) {path : String} :
    dotted "" trail = path ↔ trail = splitPath path := by
  constructor
  · rintro rfl
    exact (splitPath_dotted (named trail isTrail) (trail_ne_nil isTrail)).symm
  · rintro rfl
    exact dotted_splitPath (named _ isTrail)

/-! ## A map of filters -/

/-- Attaching a map chooses its filter at the paths that are its keys. -/
theorem attachFilters_eq_refilter (filters : List (String × Option F)) :
    ∀ {tree : RelationTree F}, tree.Distinct → tree.Named → (filters.map Prod.fst).Nodup →
      (tree.attachFilters filters).1 =
        tree.refilter (fun path old => (filters.lookup path).getD old) "" := by
  induction filters with
  | nil => exact fun {tree} _ _ _ => (refilter_id tree "").symm
  | cons entry rest inductionHypothesis =>
      rintro tree distinct named nodup
      rcases entry with ⟨key, filter⟩
      rw [List.map_cons, List.nodup_cons] at nodup
      obtain ⟨isFirst, nodup⟩ := nodup
      rw [attachFilters]
      cases found : tree.find? key with
      | none =>
          have notPath : key ∉ tree.paths := by
            rw [← find?_isSome_iff distinct named, found]
            exact Bool.false_ne_true
          dsimp only
          rw [inductionHypothesis distinct named nodup]
          refine refilter_congr fun trail isTrail old => ?_
          have differs : (dotted "" trail == key) = false := by
            rw [beq_eq_false_iff_ne]
            rintro rfl
            exact notPath (mem_paths_iff.2 ⟨trail, isTrail, rfl⟩)
          rw [List.lookup_cons, differs]
      | some node =>
          have chosen : tree.setFilterNames filter (splitPath key) =
              tree.refilter (fun path old => if path = key then filter else old) "" :=
            setFilterNames_eq_refilter distinct fun trail isTrail old => by
              simp only [dotted_eq_iff named isTrail]
          have same : (tree.setFilterNames filter (splitPath key)).bare = tree.bare :=
            bare_setFilterNames filter
          dsimp only
          rw [inductionHypothesis (distinct_of_bare same distinct) (named_of_bare same named) nodup,
            chosen, refilter_refilter]
          refine refilter_congr fun trail _ old => ?_
          rw [List.lookup_cons]
          by_cases isKey : dotted "" trail = key
          · have notLater : rest.lookup key = none := by
              rw [List.lookup_eq_none_iff]
              intro entry isEntry
              rw [bne_iff_ne]
              rintro rfl
              exact isFirst (List.mem_map.2 ⟨entry, isEntry, rfl⟩)
            rw [isKey, notLater, if_pos rfl, beq_self_eq_true]
            rfl
          · rw [if_neg isKey, beq_eq_false_iff_ne.2 isKey]

/-! ## Lookup -/

/-- What is found has the path that leads to it. -/
theorem path_of_findNames {tree : RelationTree F} : ∀ {path : String} {trail : List String}
    {node : Node F}, tree.findNames path trail = some node → node.path = dotted path trail := by
  induction tree with
  | nil =>
      intro path trail node found
      cases trail <;> cases found
  | cons name filter children siblings childrenHypothesis siblingsHypothesis =>
      intro path trail node found
      cases trail with
      | nil => cases found
      | cons first rest =>
          simp only [findNames] at found
          split at found
          · rename_i same
            subst same
            cases rest with
            | nil =>
                cases found
                rfl
            | cons second rest =>
                have below := childrenHypothesis found
                exact below
          · exact siblingsHypothesis found

theorem path_of_find? {tree : RelationTree F} (named : tree.Named) {path : String} {node : Node F}
    (found : tree.find? path = some node) : node.path = path := by
  have isTrail : splitPath path ∈ tree.trails := mem_trails_of_findNames (by
    rw [← find?, found]
    rfl)
  rw [path_of_findNames found, dotted_splitPath (named _ isTrail)]

theorem findNames_refilter {choose : String → Option F → Option F} (tree : RelationTree F) :
    ∀ (path : String) (trail : List String), (tree.refilter choose path).findNames path trail =
      (tree.findNames path trail).map (Node.refilter choose) := by
  induction tree with
  | nil =>
      intro path trail
      cases trail <;> rfl
  | cons name filter children siblings childrenHypothesis siblingsHypothesis =>
      intro path trail
      cases trail with
      | nil => rfl
      | cons first rest =>
          simp only [refilter, findNames]
          split
          · cases rest with
            | nil => rfl
            | cons second rest => exact childrenHypothesis _ _
          · exact siblingsHypothesis _ _

/-! ## Trees that are used again -/

/-- The trees that are read, with filters attached to them, and their copies. -/
inductive Prepared : RelationTree F → Prop where
  | parsed {expression : String} {tree : RelationTree F} :
      parse expression = .ok tree → Prepared tree
  | attached {tree : RelationTree F} (filters : List (String × Option F)) :
      Prepared tree → Prepared (tree.attachFilters filters).1
  | copied {tree : RelationTree F} : Prepared tree → Prepared tree.copy

theorem Prepared.distinct_named {tree : RelationTree F} (prepared : tree.Prepared) :
    tree.Distinct ∧ tree.Named := by
  induction prepared with
  | parsed parsed =>
      have told := (Built.parsed parsed).told
      exact ⟨told.distinct,
        fun trail isTrail name isName => (told.speakable trail isTrail name isName).isName⟩
  | @attached tree filters _ inductionHypothesis =>
      have same := bare_attachFilters filters tree
      exact ⟨distinct_of_bare same inductionHypothesis.1, named_of_bare same inductionHypothesis.2⟩
  | copied _ inductionHypothesis =>
      rw [copy_eq inductionHypothesis.1]
      exact inductionHypothesis

/-- Whether a tree is another one with the filters of a map at the paths that are its keys. -/
structure Overlays (filters : List (String × Option F)) (tree overlaid : RelationTree F) : Prop where
  shape : overlaid.bare = tree.bare
  render : overlaid.render = tree.render
  paths : overlaid.paths = tree.paths
  walk : overlaid.walk.map (fun node => (node.name, node.path, node.filter)) =
    tree.walk.map fun node => (node.name, node.path, (filters.lookup node.path).getD node.filter)
  found : ∀ path, (overlaid.find? path).map (·.filter) =
    (tree.find? path).map fun node => (filters.lookup path).getD node.filter

/-- Attaching a map to a copy gives the tree with the filters of the map, and the keys that are no
path of the tree. -/
theorem Prepared.overlays {tree : RelationTree F} (prepared : tree.Prepared)
    {filters : List (String × Option F)} (nodup : (filters.map Prod.fst).Nodup) :
    tree.Overlays filters (tree.copy.attachFilters filters).1 ∧
      (tree.copy.attachFilters filters).2 = (filters.map Prod.fst).filter (· ∉ tree.paths) := by
  obtain ⟨distinct, named⟩ := prepared.distinct_named
  rw [copy_eq distinct]
  refine ⟨?_, attachFilters_unmatched filters distinct named⟩
  rw [attachFilters_eq_refilter filters distinct named nodup]
  have same : (tree.refilter (fun path old => (filters.lookup path).getD old) "").bare =
      tree.bare := bare_refilter tree ""
  refine ⟨same, render_of_bare same, paths_of_bare same, ?_, fun path => ?_⟩
  · rw [walk_refilter, List.map_map]
    rfl
  · rw [find?, findNames_refilter, ← find?, Option.map_map]
    cases found : tree.find? path with
    | none => rfl
    | some node =>
        rw [← path_of_find? named found]
        rfl

end RecordGraph.RelationTree

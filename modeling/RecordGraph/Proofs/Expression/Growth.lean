import RecordGraph.Proofs.Expression.Attach
import Mathlib.Data.List.Induction

/-!
Contract: the tree of a list of paths.

Owns: the trails of a grown tree, `RelationTree.Ranked`, and `RelationTree.Spells` with the proofs
that the tree of paths is the only one that spells them and that a tree spells its own trails.
Does not own: which paths an expression denotes.

Growth puts new nodes after their siblings and never moves a node. So siblings come in the order
in which the paths first lead to them, and the nodes together with this order are the whole tree.
-/

namespace RecordGraph.RelationTree

variable {F : Type}

/-! ## Trails of grown trees -/

theorem nonempty_prefix_cons_iff {trail rest : List String} {name : String} :
    trail ≠ [] ∧ trail <+: name :: rest ↔
      trail = [name] ∨ ∃ below, (below ≠ [] ∧ below <+: rest) ∧ trail = name :: below := by
  rw [List.prefix_cons_iff]
  constructor
  · rintro ⟨nonempty, isEmpty | ⟨below, rfl, isPrefix⟩⟩
    · exact absurd isEmpty nonempty
    · by_cases isLast : below = []
      · exact Or.inl (by rw [isLast])
      · exact Or.inr ⟨below, ⟨isLast, isPrefix⟩, rfl⟩
  · rintro (rfl | ⟨below, ⟨_, isPrefix⟩, rfl⟩)
    · exact ⟨List.cons_ne_nil _ _, Or.inr ⟨[], rfl, List.nil_prefix⟩⟩
    · exact ⟨List.cons_ne_nil _ _, Or.inr ⟨below, rfl, isPrefix⟩⟩

theorem mem_trails_chain {names trail : List String} :
    trail ∈ (chain names : RelationTree F).trails ↔ trail ≠ [] ∧ trail <+: names := by
  induction names generalizing trail with
  | nil =>
      refine iff_of_false List.not_mem_nil ?_
      rintro ⟨nonempty, isPrefix⟩
      exact nonempty (List.prefix_nil.1 isPrefix)
  | cons name rest inductionHypothesis =>
      rw [chain, mem_trails_cons, nonempty_prefix_cons_iff]
      simp only [inductionHypothesis, trails, List.not_mem_nil, or_false]

/-- Growth adds the nonempty prefixes of a path. -/
theorem mem_trails_insert {tree : RelationTree F} : ∀ {names trail : List String},
    trail ∈ (tree.insert names).trails ↔
      trail ∈ tree.trails ∨ (trail ≠ [] ∧ trail <+: names) := by
  induction tree with
  | nil =>
      intro names trail
      cases names with
      | nil => simp [insert, trails]
      | cons name rest =>
          rw [insert, mem_trails_chain]
          simp [trails]
  | cons name filter children siblings childrenHypothesis siblingsHypothesis =>
      intro names trail
      cases names with
      | nil => simp [insert]
      | cons first rest =>
          rw [insert]
          split
          · rename_i same
            subst same
            rw [mem_trails_cons, mem_trails_cons, nonempty_prefix_cons_iff]
            simp only [childrenHypothesis, or_and_right, exists_or]
            grind
          · rw [mem_trails_cons, mem_trails_cons, siblingsHypothesis, or_assoc, or_assoc]

theorem mem_trails_ofPaths {paths : List (List String)} {trail : List String} :
    trail ∈ (ofPaths paths : RelationTree F).trails ↔
      trail ≠ [] ∧ ∃ path ∈ paths, trail <+: path := by
  have grown : ∀ (paths : List (List String)) (tree : RelationTree F),
      trail ∈ (paths.foldl insert tree).trails ↔
        trail ∈ tree.trails ∨ (trail ≠ [] ∧ ∃ path ∈ paths, trail <+: path) := by
    intro paths
    induction paths with
    | nil => simp
    | cons path rest inductionHypothesis =>
        intro tree
        rw [List.foldl_cons, inductionHypothesis, mem_trails_insert, List.exists_mem_cons_iff,
          and_or_left, or_assoc]
  rw [ofPaths, grown paths .nil]
  simp [trails]

/-! ## Siblings by rank -/

/-- Whether the ranks of siblings increase. A node is ranked by its trail. -/
def Ranked (rank : List String → Nat) : RelationTree F → Prop
  | .nil => True
  | .cons name _ children siblings =>
      (∀ other ∈ siblings.names, rank [name] < rank [other]) ∧
        children.Ranked (fun trail => rank (name :: trail)) ∧ siblings.Ranked rank

theorem singleton_mem_trails {tree : RelationTree F} {name : String} (isName : name ∈ tree.names) :
    [name] ∈ tree.trails := by
  induction tree with
  | nil => exact absurd isName List.not_mem_nil
  | cons first filter children siblings _ siblingsHypothesis =>
      rw [mem_trails_cons]
      rcases List.mem_cons.1 isName with rfl | isName
      · exact Or.inl rfl
      · exact Or.inr (Or.inr (siblingsHypothesis isName))

theorem Ranked.congr {tree : RelationTree F} : ∀ {rank rank' : List String → Nat},
    tree.Ranked rank → (∀ trail ∈ tree.trails, rank trail = rank' trail) → tree.Ranked rank' := by
  induction tree with
  | nil => exact fun _ _ => trivial
  | cons name filter children siblings childrenHypothesis siblingsHypothesis =>
      rintro rank rank' ⟨first, childrenRanked, siblingsRanked⟩ same
      rw [forall_mem_trails_cons] at same
      refine ⟨fun other isOther => ?_, childrenHypothesis childrenRanked same.2.1,
        siblingsHypothesis siblingsRanked same.2.2⟩
      rw [← same.1, ← same.2.2 _ (singleton_mem_trails isOther)]
      exact first other isOther

theorem ranked_chain (names : List String) : ∀ (rank : List String → Nat),
    (chain names : RelationTree F).Ranked rank := by
  induction names with
  | nil => exact fun _ => trivial
  | cons name rest inductionHypothesis =>
      intro rank
      exact ⟨fun _ member => absurd member List.not_mem_nil, inductionHypothesis _, trivial⟩

/-- Siblings of one rank would be one node. -/
theorem Ranked.apart {rank : List String → Nat} {name : String} {filter : Option F}
    {children siblings : RelationTree F}
    (ranked : (RelationTree.cons name filter children siblings).Ranked rank) :
    name ∉ siblings.names :=
  fun isSibling => Nat.lt_irrefl _ (ranked.1 name isSibling)

/-- Growth keeps the order of siblings if new nodes rank after all others. -/
theorem Ranked.insert {tree : RelationTree F} :
    ∀ {rank : List String → Nat} {names : List String}, tree.Ranked rank →
      (∀ old ∈ tree.trails, ∀ new, new ∉ tree.trails → new ≠ [] ∧ new <+: names →
        rank old < rank new) → (tree.insert names).Ranked rank := by
  induction tree with
  | nil =>
      intro rank names _ _
      cases names with
      | nil => trivial
      | cons name rest => exact ranked_chain _ _
  | cons name filter children siblings childrenHypothesis siblingsHypothesis =>
      intro rank names ranked later
      have apart := ranked.apart
      obtain ⟨first, childrenRanked, siblingsRanked⟩ := ranked
      cases names with
      | nil => exact ⟨first, childrenRanked, siblingsRanked⟩
      | cons next rest =>
          rw [RelationTree.insert]
          split
          · rename_i same
            subst same
            refine ⟨first, childrenHypothesis childrenRanked ?_, siblingsRanked⟩
            intro old isOld new isNew isPrefix
            refine later _ (mem_trails_cons.2 (Or.inr (Or.inl ⟨old, isOld, rfl⟩))) _ ?_
              (nonempty_prefix_cons_iff.2 (Or.inr ⟨new, isPrefix, rfl⟩))
            rw [mem_trails_cons]
            rintro (isFirst | ⟨below, isBelow, isCons⟩ | isSibling)
            · exact isPrefix.1 (List.cons.inj isFirst).2
            · exact isNew ((List.cons.inj isCons).2 ▸ isBelow)
            · exact apart (head_mem_names isSibling)
          · rename_i differs
            have notHere : ∀ new, new ∉ siblings.trails → new ≠ [] ∧ new <+: next :: rest →
                new ∉ (RelationTree.cons name filter children siblings).trails := by
              intro new isNew isPrefix isOld
              obtain ⟨below, rfl⟩ : ∃ below, new = next :: below := by
                rcases nonempty_prefix_cons_iff.1 isPrefix with rfl | ⟨below, _, rfl⟩
                · exact ⟨[], rfl⟩
                · exact ⟨below, rfl⟩
              rcases mem_trails_cons.1 isOld with isFirst | ⟨_, _, isCons⟩ | isSibling
              · exact differs (List.cons.inj isFirst).1.symm
              · exact differs (List.cons.inj isCons).1.symm
              · exact isNew isSibling
            refine ⟨fun other isOther => ?_, childrenRanked,
              siblingsHypothesis siblingsRanked fun old isOld new isNew isPrefix => ?_⟩
            · by_cases isOld : other ∈ siblings.names
              · exact first other isOld
              · obtain rfl := (mem_names_insert isOther).resolve_left isOld
                have isPrefix : [other] ≠ [] ∧ [other] <+: other :: rest :=
                  nonempty_prefix_cons_iff.2 (Or.inl rfl)
                exact later _ (mem_trails_cons.2 (Or.inl rfl)) _
                  (notHere _ (fun isTrail => isOld (head_mem_names isTrail)) isPrefix) isPrefix
            · exact later old (mem_trails_cons.2 (Or.inr (Or.inr isOld))) new
                (notHere new isNew isPrefix) isPrefix

/-! ## First occurrence -/

/-- The place of the first path that leads to or through a node. -/
def firstAt (paths : List (List String)) (trail : List String) : Nat :=
  paths.findIdx fun path => trail.isPrefixOf path

theorem ranked_ofPaths (paths : List (List String)) :
    (ofPaths paths : RelationTree F).Ranked (firstAt paths) := by
  induction paths using List.reverseRecOn with
  | nil => trivial
  | append_singleton paths path inductionHypothesis =>
      have known : ∀ trail ∈ (ofPaths paths : RelationTree F).trails,
          firstAt paths trail < paths.length := by
        intro trail isTrail
        obtain ⟨_, other, isPath, isPrefix⟩ := mem_trails_ofPaths.1 isTrail
        exact List.findIdx_lt_length.2 ⟨other, isPath, List.isPrefixOf_iff_prefix.2 isPrefix⟩
      have same : ∀ trail ∈ (ofPaths paths : RelationTree F).trails,
          firstAt paths trail = firstAt (paths ++ [path]) trail := by
        intro trail isTrail
        have isKnown := known trail isTrail
        unfold firstAt at isKnown ⊢
        rw [List.findIdx_append, if_pos isKnown]
      rw [ofPaths, List.foldl_append]
      refine (inductionHypothesis.congr same).insert ?_
      intro old isOld new isNew isPrefix
      rw [← same old isOld]
      refine Nat.lt_of_lt_of_le (known old isOld) ?_
      have unknown : ¬ firstAt paths new < paths.length := by
        intro isKnown
        obtain ⟨other, isPath, leads⟩ := List.findIdx_lt_length.1 isKnown
        exact isNew (mem_trails_ofPaths.2
          ⟨isPrefix.1, other, isPath, List.isPrefixOf_iff_prefix.1 leads⟩)
      unfold firstAt at unknown ⊢
      rw [List.findIdx_append, if_neg unknown]
      exact Nat.le_add_left _ _

/-! ## The tree of paths -/

/-- Whether a tree is the tree of paths, apart from filters. -/
structure Spells (tree : RelationTree F) (paths : List (List String)) : Prop where
  /-- Its nodes are the prefixes of the paths. -/
  nodes : ∀ trail, trail ∈ tree.trails ↔ trail ≠ [] ∧ ∃ path ∈ paths, trail <+: path
  /-- Siblings come in order of first occurrence, and none comes twice. -/
  ordered : tree.trails.Pairwise fun left right =>
    left.dropLast = right.dropLast → firstAt paths left < firstAt paths right

/-- Siblings are in order exactly if those are of which one is listed before the other. -/
theorem ranked_iff {tree : RelationTree F} : ∀ {rank : List String → Nat},
    tree.Ranked rank ↔ tree.trails.Pairwise fun left right =>
      left.dropLast = right.dropLast → rank left < rank right := by
  induction tree with
  | nil => exact fun {_} => iff_of_true trivial List.Pairwise.nil
  | cons name filter children siblings childrenHypothesis siblingsHypothesis =>
      intro rank
      have parent : ∀ trail ∈ children.trails, (name :: trail).dropLast = name :: trail.dropLast :=
        fun trail isTrail => List.dropLast_cons_of_ne_nil (trail_ne_nil isTrail)
      have inChildren : (children.Ranked fun trail => rank (name :: trail)) ↔
          (children.trails.map (name :: ·)).Pairwise fun left right =>
            left.dropLast = right.dropLast → rank left < rank right := by
        rw [List.pairwise_map, childrenHypothesis]
        refine List.Pairwise.iff_of_mem fun {left right} isLeft isRight => ?_
        rw [parent left isLeft, parent right isRight, List.cons_inj_right]
      rw [trails, List.cons_append, List.pairwise_cons, List.pairwise_append, ← inChildren,
        ← siblingsHypothesis, Ranked]
      constructor
      · rintro ⟨first, childrenRanked, siblingsRanked⟩
        refine ⟨fun right isRight sameParent => ?_, childrenRanked, siblingsRanked,
          fun left isLeft right isRight sameParent => ?_⟩
        · rcases List.mem_append.1 isRight with isRight | isRight
          · obtain ⟨below, isBelow, rfl⟩ := List.mem_map.1 isRight
            rw [parent below isBelow] at sameParent
            cases sameParent
          · have isSingle := List.dropLast_append_getLast (trail_ne_nil isRight)
            rw [← sameParent] at isSingle
            rw [← isSingle] at isRight ⊢
            exact first _ (head_mem_names isRight)
        · obtain ⟨below, isBelow, rfl⟩ := List.mem_map.1 isLeft
          obtain ⟨last, isAppend⟩ := List.dropLast_prefix right
          rw [parent below isBelow] at sameParent
          rw [← isAppend, ← sameParent, List.cons_append] at isRight
          exact absurd (first name (head_mem_names isRight)) (Nat.lt_irrefl _)
      · rintro ⟨head, childrenRanked, siblingsRanked, _⟩
        refine ⟨fun other isOther => ?_, childrenRanked, siblingsRanked⟩
        exact head [other] (List.mem_append_right _ (singleton_mem_trails isOther)) rfl

theorem mem_trails_children_iff {name : String} {filter : Option F}
    {children siblings : RelationTree F} (apart : name ∉ siblings.names) {trail : List String} :
    trail ∈ children.trails ↔
      trail ≠ [] ∧ name :: trail ∈ (RelationTree.cons name filter children siblings).trails := by
  rw [mem_trails_cons]
  constructor
  · intro isBelow
    exact ⟨trail_ne_nil isBelow, Or.inr (Or.inl ⟨trail, isBelow, rfl⟩)⟩
  · rintro ⟨nonempty, isFirst | ⟨below, isBelow, same⟩ | isSibling⟩
    · exact absurd (List.cons.inj isFirst).2 nonempty
    · exact (List.cons.inj same).2 ▸ isBelow
    · exact absurd (head_mem_names isSibling) apart

theorem mem_trails_siblings_iff {name : String} {filter : Option F}
    {children siblings : RelationTree F} (apart : name ∉ siblings.names) {trail : List String} :
    trail ∈ siblings.trails ↔
      trail ∈ (RelationTree.cons name filter children siblings).trails ∧
        trail.head? ≠ some name := by
  rw [mem_trails_cons]
  constructor
  · intro isSibling
    refine ⟨Or.inr (Or.inr isSibling), fun isHead => ?_⟩
    obtain ⟨rest, rfl⟩ := List.head?_eq_some_iff.1 isHead
    exact apart (head_mem_names isSibling)
  · rintro ⟨rfl | ⟨rest, _, rfl⟩ | isSibling, notHead⟩
    · exact absurd rfl notHead
    · exact absurd rfl notHead
    · exact isSibling

/-- Two trees with the same nodes and the same order of siblings differ by filters only. -/
theorem bare_eq_of_ranked {tree : RelationTree F} : ∀ {other : RelationTree F}
    {rank : List String → Nat}, tree.Ranked rank → other.Ranked rank →
      (∀ trail, trail ∈ tree.trails ↔ trail ∈ other.trails) → tree.bare = other.bare := by
  induction tree with
  | nil =>
      intro other rank _ _ same
      cases other with
      | nil => rfl
      | cons name filter children siblings =>
          exact absurd ((same [name]).2 (mem_trails_cons.2 (Or.inl rfl))) List.not_mem_nil
  | cons name filter children siblings childrenHypothesis siblingsHypothesis =>
      intro other rank ranked otherRanked same
      cases other with
      | nil => exact absurd ((same [name]).1 (mem_trails_cons.2 (Or.inl rfl))) List.not_mem_nil
      | cons name' filter' children' siblings' =>
          have sameName : name = name' := by
            -- Each of two different first names would be a sibling of a lower rank of the other.
            by_contra differs
            have later := ranked.1 name' (head_mem_names ((mem_trails_siblings_iff ranked.apart).2
              ⟨(same [name']).2 (mem_trails_cons.2 (Or.inl rfl)), by simpa using Ne.symm differs⟩))
            have earlier := otherRanked.1 name (head_mem_names
              ((mem_trails_siblings_iff otherRanked.apart).2
                ⟨(same [name]).1 (mem_trails_cons.2 (Or.inl rfl)), by simpa using differs⟩))
            exact Nat.lt_asymm later earlier
          subst sameName
          have sameChildren : children.bare = children'.bare := by
            refine childrenHypothesis ranked.2.1 otherRanked.2.1 fun trail => ?_
            rw [mem_trails_children_iff ranked.apart, same,
              ← mem_trails_children_iff otherRanked.apart]
          have sameSiblings : siblings.bare = siblings'.bare := by
            refine siblingsHypothesis ranked.2.2 otherRanked.2.2 fun trail => ?_
            rw [mem_trails_siblings_iff ranked.apart, same,
              ← mem_trails_siblings_iff otherRanked.apart]
          rw [bare, bare, sameChildren, sameSiblings]

theorem spells_ofPaths (paths : List (List String)) :
    (ofPaths paths : RelationTree F).Spells paths :=
  ⟨fun _ => mem_trails_ofPaths, ranked_iff.1 (ranked_ofPaths paths)⟩

namespace Spells

variable {tree other : RelationTree F} {paths : List (List String)}

theorem bare_eq (spells : tree.Spells paths) (again : other.Spells paths) :
    tree.bare = other.bare :=
  bare_eq_of_ranked (ranked_iff.2 spells.ordered) (ranked_iff.2 again.ordered) fun trail =>
    (spells.nodes trail).trans (again.nodes trail).symm

/-- No node comes twice. -/
theorem nodup (spells : tree.Spells paths) : tree.trails.Nodup := by
  refine spells.ordered.imp fun {left right} ordered => ?_
  rintro rfl
  exact Nat.lt_irrefl _ (ordered rfl)

/-- The names of a tree are those of its paths. -/
theorem named (spells : tree.Spells paths) (areNames : ∀ path ∈ paths, ∀ name ∈ path, IsName name) :
    tree.Named := by
  intro trail isTrail name isName
  obtain ⟨_, path, isPath, isPrefix⟩ := (spells.nodes trail).1 isTrail
  exact areNames path isPath name (isPrefix.subset isName)

end Spells

/-! ## The trails of a tree as paths -/

/-- Above a node are nodes. -/
theorem mem_trails_of_longer {tree : RelationTree F} : ∀ {trail path : List String},
    path ∈ tree.trails → trail ≠ [] → trail <+: path → trail ∈ tree.trails := by
  induction tree with
  | nil => exact fun isPath => absurd isPath List.not_mem_nil
  | cons name filter children siblings childrenHypothesis siblingsHypothesis =>
      intro trail path isPath nonempty isPrefix
      rw [mem_trails_cons] at isPath ⊢
      rcases isPath with rfl | ⟨rest, isRest, rfl⟩ | isSibling
      · rcases nonempty_prefix_cons_iff.1 ⟨nonempty, isPrefix⟩ with isFirst | ⟨below, isBelow, _⟩
        · exact Or.inl isFirst
        · exact absurd (List.prefix_nil.1 isBelow.2) isBelow.1
      · rcases nonempty_prefix_cons_iff.1 ⟨nonempty, isPrefix⟩ with
          isFirst | ⟨below, isBelow, isCons⟩
        · exact Or.inl isFirst
        · exact Or.inr (Or.inl ⟨below, childrenHypothesis isRest isBelow.1 isBelow.2, isCons⟩)
      · exact Or.inr (Or.inr (siblingsHypothesis isSibling nonempty isPrefix))

/-- Nodes come before what is below them. -/
theorem trails_downward {tree : RelationTree F} (distinct : tree.Distinct) :
    tree.trails.Pairwise fun left right => ¬ right <+: left := by
  induction tree with
  | nil => exact List.Pairwise.nil
  | cons name filter children siblings childrenHypothesis siblingsHypothesis =>
      obtain ⟨apart, childrenDistinct, siblingsDistinct⟩ := distinct
      have elsewhere : ∀ right ∈ siblings.trails, ∀ rest, ¬ right <+: name :: rest := by
        intro right isRight rest isPrefix
        rcases nonempty_prefix_cons_iff.1 ⟨trail_ne_nil isRight, isPrefix⟩ with rfl | ⟨_, _, rfl⟩
        · exact apart (head_mem_names isRight)
        · exact apart (head_mem_names isRight)
      rw [trails, List.cons_append, List.pairwise_cons, List.pairwise_append, List.pairwise_map]
      refine ⟨List.forall_mem_append.2 ⟨?_, fun right isRight => elsewhere right isRight []⟩,
        (childrenHypothesis childrenDistinct).imp fun {left right} notAbove isPrefix =>
          notAbove ((List.prefix_cons_inj name).1 isPrefix),
        siblingsHypothesis siblingsDistinct, ?_⟩
      · intro right isRight isPrefix
        obtain ⟨below, isBelow, rfl⟩ := List.mem_map.1 isRight
        exact trail_ne_nil isBelow (List.prefix_nil.1 ((List.prefix_cons_inj name).1 isPrefix))
      · intro left isLeft right isRight
        obtain ⟨below, _, rfl⟩ := List.mem_map.1 isLeft
        exact elsewhere right isRight below

/-- Paths that do not lead to later ones come first at their own place. -/
theorem firstAt_lt {paths : List (List String)}
    (downward : paths.Pairwise fun left right => ¬ right <+: left) :
    paths.Pairwise fun left right => firstAt paths left < firstAt paths right := by
  rw [List.pairwise_iff_getElem] at downward ⊢
  intro i j isLeft isRight before
  have atLeft : firstAt paths paths[i] ≤ i := by
    refine Nat.le_of_not_lt fun isLater => Bool.false_ne_true ?_
    rw [← List.not_of_lt_findIdx isLater, List.isPrefixOf_iff_prefix.2 (List.prefix_refl _)]
  refine Nat.lt_of_le_of_lt atLeft (Nat.lt_of_not_le fun reached => ?_)
  have isPlace : firstAt paths paths[j] < paths.length := Nat.lt_of_le_of_lt reached isLeft
  have leads : paths[j].isPrefixOf (paths[firstAt paths paths[j]]) = true := List.findIdx_getElem
  exact downward _ _ isPlace isRight (Nat.lt_of_le_of_lt reached before)
    (List.isPrefixOf_iff_prefix.1 leads)

/-- A tree without equal siblings is the tree of its own trails. -/
theorem spells_trails {tree : RelationTree F} (distinct : tree.Distinct) :
    tree.Spells tree.trails where
  nodes _ := by
    constructor
    · exact fun isTrail => ⟨trail_ne_nil isTrail, _, isTrail, List.prefix_refl _⟩
    · rintro ⟨nonempty, path, isPath, isPrefix⟩
      exact mem_trails_of_longer isPath nonempty isPrefix
  ordered := by
    refine (firstAt_lt (trails_downward distinct)).imp fun {left right} earlier => ?_
    exact fun _ => earlier

/-! ## Growth without filters -/

theorem bare_chain (names : List String) : (chain names : RelationTree F).bare = chain names := by
  induction names with
  | nil => rfl
  | cons name rest inductionHypothesis => rw [chain, bare, inductionHypothesis, bare]

theorem bare_insert {tree : RelationTree F} : ∀ {names : List String},
    (tree.insert names).bare = tree.bare.insert names := by
  induction tree with
  | nil =>
      intro names
      cases names with
      | nil => rfl
      | cons name rest => exact bare_chain (name :: rest)
  | cons name filter children siblings childrenHypothesis siblingsHypothesis =>
      intro names
      cases names with
      | nil => rfl
      | cons first rest =>
          rw [insert, bare, insert]
          split
          · rw [bare, childrenHypothesis]
          · rw [bare, siblingsHypothesis]

/-- Grown trees have no filters. -/
theorem bare_ofPaths (paths : List (List String)) :
    (ofPaths paths : RelationTree F).bare = ofPaths paths := by
  refine List.foldlRecOn (motive := fun tree : RelationTree F => tree.bare = tree) paths
    RelationTree.insert ?_ fun tree isBare path _ => ?_
  · rfl
  · rw [bare_insert, isBare]

end RecordGraph.RelationTree

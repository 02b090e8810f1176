import RecordGraph.Proofs.Expression.Reading

/-!
Contract: trees that are made by asking nodes for their children.

Owns: `Creation`, `RelationTree.Made`, the nodes of a tree that is made, and that an expression is
read by asking for children.
Does not own: the order in which nodes are walked, and lookup.

A node that is asked for a child gives the one that is there or creates it, after its elder siblings.
A new node stores its path, which is put together from the path that its parent has stored. So a
tree is made along with a list of what was created, in order, and this list knows the tree.
-/

namespace RecordGraph

/-- A node as it is created: the names that lead to it, and the path that is stored in it. -/
structure Creation where
  trail : List String
  path : String
deriving DecidableEq, Repr

namespace Creation

/-- The root, which has no name and an empty path. -/
def root : Creation := ⟨[], ""⟩

/-- What a node creates when it is asked for a child that it lacks. -/
def child (parent : Creation) (name : String) : Creation :=
  ⟨parent.trail ++ [name], extendPath parent.path name⟩

end Creation

namespace RelationTree

variable {F : Type}

/-- Whether a tree is made from an empty one by asking the root or nodes that were created before
for children, and what was created, in order. -/
inductive Made : List Creation → RelationTree F → Prop where
  | empty : Made [] .nil
  | given {created : List Creation} {tree : RelationTree F} {parent : Creation} {name : String} :
      Made created tree → parent ∈ .root :: created → parent.trail ++ [name] ∈ tree.trails →
        Made created (tree.insert (parent.trail ++ [name]))
  | new {created : List Creation} {tree : RelationTree F} {parent : Creation} {name : String} :
      Made created tree → parent ∈ .root :: created → parent.trail ++ [name] ∉ tree.trails →
        IsName name → Made (created ++ [parent.child name]) (tree.insert (parent.trail ++ [name]))

/-- Growth along a trail that is there changes nothing. -/
theorem insert_of_mem {tree : RelationTree F} : ∀ {trail : List String}, tree.Distinct →
    trail ∈ tree.trails → tree.insert trail = tree := by
  induction tree with
  | nil => exact fun _ isTrail => absurd isTrail List.not_mem_nil
  | cons name filter children siblings childrenHypothesis siblingsHypothesis =>
      rintro trail ⟨apart, childrenDistinct, siblingsDistinct⟩ isTrail
      cases trail with
      | nil => rfl
      | cons first rest =>
          rw [insert]
          rcases mem_trails_cons.1 isTrail with isHere | ⟨below, isBelow, isCons⟩ | isSibling
          · cases isHere
            rw [if_pos rfl]
            cases children <;> rfl
          · cases isCons
            rw [if_pos rfl, childrenHypothesis childrenDistinct isBelow]
          · have differs : name ≠ first := by
              rintro rfl
              exact apart (head_mem_names isSibling)
            rw [if_neg differs, siblingsHypothesis siblingsDistinct isSibling]

namespace Made

variable {created : List Creation} {tree : RelationTree F}

theorem distinct (made : Made created tree) : tree.Distinct := by
  induction made with
  | empty => trivial
  | given _ _ _ inductionHypothesis => exact distinct_insert _ inductionHypothesis
  | new _ _ _ _ inductionHypothesis => exact distinct_insert _ inductionHypothesis

/-- The nodes of a tree are those that were created. -/
theorem mem_trails_iff (made : Made created tree) {trail : List String} :
    trail ∈ tree.trails ↔ trail ∈ created.map (·.trail) := by
  induction made generalizing trail with
  | empty => exact Iff.rfl
  | given made _ isThere inductionHypothesis =>
      rw [insert_of_mem made.distinct isThere]
      exact inductionHypothesis
  | @new created tree parent name _ isParent _ _ inductionHypothesis =>
      have above : trail ≠ [] → trail <+: parent.trail → trail ∈ tree.trails := by
        intro nonempty isPrefix
        rcases List.mem_cons.1 isParent with rfl | isCreated
        · exact absurd (List.prefix_nil.1 isPrefix) nonempty
        · have isTrail : parent.trail ∈ tree.trails :=
            inductionHypothesis.2 (List.mem_map_of_mem isCreated)
          exact mem_trails_of_longer isTrail nonempty isPrefix
      rw [mem_trails_insert, List.map_append, List.mem_append, ← inductionHypothesis,
        List.map_singleton, List.mem_singleton, List.prefix_concat_iff]
      constructor
      · rintro (isOld | ⟨nonempty, isNew | isPrefix⟩)
        · exact Or.inl isOld
        · exact Or.inr isNew
        · exact Or.inl (above nonempty isPrefix)
      · rintro (isOld | isNew)
        · exact Or.inl isOld
        · subst isNew
          exact Or.inr ⟨List.append_ne_nil_of_right_ne_nil _ (List.cons_ne_nil _ _), Or.inl rfl⟩

/-- No node is created twice. -/
theorem nodup (made : Made created tree) : (created.map (·.trail)).Nodup := by
  induction made with
  | empty => exact List.nodup_nil
  | given _ _ _ inductionHypothesis => exact inductionHypothesis
  | new made _ isNew _ inductionHypothesis =>
      rw [made.mem_trails_iff] at isNew
      rw [List.map_append, List.map_singleton, ← List.concat_eq_append]
      exact inductionHypothesis.concat isNew

theorem named (made : Made created tree) : tree.Named := by
  induction made with
  | empty => exact fun _ isTrail => absurd isTrail List.not_mem_nil
  | given made _ isThere inductionHypothesis =>
      rw [insert_of_mem made.distinct isThere]
      exact inductionHypothesis
  | @new created tree parent name made isParent isNew isName inductionHypothesis =>
      have whole := Made.new made isParent isNew isName
      intro trail isTrail
      rw [whole.mem_trails_iff, List.map_append, List.mem_append, List.map_singleton,
        List.mem_singleton, ← made.mem_trails_iff] at isTrail
      rcases isTrail with isOld | rfl
      · exact inductionHypothesis trail isOld
      · refine List.forall_mem_append.2 ⟨?_, List.forall_mem_singleton.2 isName⟩
        rcases List.mem_cons.1 isParent with rfl | isCreated
        · exact fun _ member => absurd member List.not_mem_nil
        · exact inductionHypothesis _ (made.mem_trails_iff.2 (List.mem_map_of_mem isCreated))

/-- The path that is stored in a node is its dotted trail. -/
theorem path_eq (made : Made created tree) :
    ∀ creation ∈ created, creation.path = dotted "" creation.trail := by
  induction made with
  | empty => exact fun _ member => absurd member List.not_mem_nil
  | given _ _ _ inductionHypothesis => exact inductionHypothesis
  | @new created tree parent name _ isParent _ _ inductionHypothesis =>
      refine List.forall_mem_append.2 ⟨inductionHypothesis, List.forall_mem_singleton.2 ?_⟩
      have ofParent : parent.path = dotted "" parent.trail := by
        rcases List.mem_cons.1 isParent with rfl | isCreated
        · rfl
        · exact inductionHypothesis parent isCreated
      rw [Creation.child, ofParent, dotted, dotted, List.foldl_append]
      rfl

/-- Siblings come in the order of their creation. -/
theorem ranked (made : Made created tree) : tree.Ranked fun trail =>
    (created.map (·.trail)).idxOf trail := by
  induction made with
  | empty => trivial
  | given made _ isThere inductionHypothesis =>
      rw [insert_of_mem made.distinct isThere]
      exact inductionHypothesis
  | @new created tree parent name made isParent isNew isName inductionHypothesis =>
      have whole := Made.new made isParent isNew isName
      have isOld : ∀ trail ∈ tree.trails, trail ∈ created.map (·.trail) :=
        fun trail => made.mem_trails_iff.1
      have same : ∀ trail ∈ tree.trails, (created.map (·.trail)).idxOf trail =
          ((created ++ [parent.child name]).map (·.trail)).idxOf trail := by
        intro trail isTrail
        rw [List.map_append, List.idxOf_append, if_pos (isOld trail isTrail)]
      refine (inductionHypothesis.congr same).insert fun old oldIsTrail new newIsNone isPrefix => ?_
      have isLast : new ∉ created.map (·.trail) := fun isCreated =>
        newIsNone (made.mem_trails_iff.2 isCreated)
      rw [← same old oldIsTrail, List.map_append, List.idxOf_append, if_neg isLast]
      refine Nat.lt_of_lt_of_le (List.idxOf_lt_length_iff.2 (isOld old oldIsTrail)) ?_
      exact Nat.le_add_left _ _

end Made

/-! ## Reading -/

/-- Whether each path leads one step further than an earlier one, or than the root. -/
def Grows (seen : List (List String)) : List (List String) → Prop
  | [] => True
  | path :: rest =>
      (path ≠ [] ∧ (path.dropLast = [] ∨ path.dropLast ∈ seen)) ∧ Grows (seen ++ [path]) rest

theorem Grows.mono {paths : List (List String)} : ∀ {seen more : List (List String)},
    Grows seen paths → seen ⊆ more → Grows more paths := by
  induction paths with
  | nil => exact fun _ _ => trivial
  | cons path rest inductionHypothesis =>
      rintro seen more ⟨⟨nonempty, isNext⟩, grows⟩ within
      refine ⟨⟨nonempty, isNext.imp id fun isSeen => within isSeen⟩, inductionHypothesis grows ?_⟩
      exact List.append_subset.2 ⟨List.Subset.trans within (List.subset_append_left ..),
        List.subset_append_right ..⟩

theorem Grows.append {paths : List (List String)} : ∀ {seen others : List (List String)},
    Grows seen paths → Grows seen others → Grows seen (paths ++ others) := by
  induction paths with
  | nil => exact fun _ grows => grows
  | cons path rest inductionHypothesis =>
      rintro seen others ⟨isNext, grows⟩ othersGrow
      exact ⟨isNext, inductionHypothesis grows (othersGrow.mono (List.subset_append_left ..))⟩

/-- Paths that grow from the root grow from any other node. -/
theorem Grows.below {paths : List (List String)} (name : String) : ∀ {seen : List (List String)},
    Grows seen paths → Grows ([name] :: seen.map (name :: ·)) (paths.map (name :: ·)) := by
  induction paths with
  | nil => exact fun _ => trivial
  | cons path rest inductionHypothesis =>
      rintro seen ⟨⟨nonempty, isNext⟩, grows⟩
      refine ⟨⟨List.cons_ne_nil _ _, Or.inr ?_⟩, ?_⟩
      · rw [List.dropLast_cons_of_ne_nil nonempty, List.mem_cons]
        rcases isNext with isTop | isSeen
        · exact Or.inl (by rw [isTop])
        · exact Or.inr (List.mem_map_of_mem isSeen)
      · have grown := inductionHypothesis grows
        rwa [List.map_append] at grown

/-- An expression names a node before what is below it. -/
theorem grows_of_denotes {phrase : Phrase} {tokens : List TokenKind} {paths : List (List String)}
    (denotes : phrase.Denotes tokens paths) : Grows [] paths := by
  induction denotes with
  | nothing => trivial
  | listed _ inductionHypothesis => exact inductionHypothesis
  | last _ inductionHypothesis => exact inductionHypothesis
  | more _ _ itemHypothesis itemsHypothesis => exact itemHypothesis.append itemsHypothesis
  | group _ inductionHypothesis => exact inductionHypothesis
  | name name => exact ⟨⟨List.cons_ne_nil _ _, Or.inl rfl⟩, trivial⟩
  | chained name _ inductionHypothesis =>
      exact ⟨⟨List.cons_ne_nil _ _, Or.inl rfl⟩, inductionHypothesis.below name⟩

/-- One more item in a list without repetitions: it is there, or it is the last. -/
theorem eraseDups_append_singleton (seen : List (List String)) (path : List String) :
    (seen ++ [path]).eraseDups =
      if path ∈ seen then seen.eraseDups else seen.eraseDups ++ [path] := by
  rw [List.eraseDups_append]
  by_cases isSeen : path ∈ seen
  · simp [List.removeAll, isSeen]
  · simp [List.removeAll, isSeen, List.eraseDups_cons]

/-- Growth along paths that lead one step further each asks for one child each. -/
theorem Made.foldl_insert {paths : List (List String)} : ∀ (seen : List (List String))
    {created : List Creation} {tree : RelationTree F}, Made created tree →
      created.map (·.trail) = seen.eraseDups → Grows seen paths →
        (∀ path ∈ paths, ∀ name ∈ path, IsName name) →
          ∃ later, Made later (paths.foldl insert tree) ∧
            later.map (·.trail) = (seen ++ paths).eraseDups := by
  induction paths with
  | nil =>
      intro seen created tree made isSeen _ _
      rw [List.append_nil]
      exact ⟨created, made, isSeen⟩
  | cons path rest inductionHypothesis =>
      rintro seen created tree made isSeen ⟨⟨nonempty, isNext⟩, grows⟩ areNames
      rw [List.forall_mem_cons] at areNames
      have onward : seen ++ path :: rest = seen ++ [path] ++ rest := List.append_cons ..
      obtain ⟨parent, isParent, isTrail⟩ : ∃ parent ∈ Creation.root :: created,
          parent.trail = path.dropLast := by
        rcases isNext with isTop | isOld
        · exact ⟨.root, List.mem_cons_self .., isTop.symm⟩
        · rw [← List.mem_eraseDups, ← isSeen, List.mem_map] at isOld
          obtain ⟨creation, isCreated, isTrail⟩ := isOld
          exact ⟨creation, List.mem_cons_of_mem _ isCreated, isTrail⟩
      have isPath : parent.trail ++ [path.getLast nonempty] = path := by
        rw [isTrail]
        exact List.dropLast_append_getLast nonempty
      have isThere : path ∈ tree.trails ↔ path ∈ seen := by
        rw [made.mem_trails_iff, isSeen, List.mem_eraseDups]
      rw [List.foldl_cons, onward, ← isPath]
      by_cases isOld : path ∈ seen
      · refine inductionHypothesis _ (.given made isParent ?_) ?_ ?_ areNames.2
        · rw [isPath]
          exact isThere.2 isOld
        · rw [isPath, eraseDups_append_singleton, if_pos isOld]
          exact isSeen
        · rw [isPath]
          exact grows
      · refine inductionHypothesis _ (.new made isParent ?_ ?_) ?_ ?_ areNames.2
        · rw [isPath]
          exact mt isThere.1 isOld
        · exact areNames.1 _ (List.getLast_mem nonempty)
        · rw [isPath, eraseDups_append_singleton, if_neg isOld, List.map_append, isSeen]
          exact congrArg (seen.eraseDups ++ [·]) isPath
        · rw [isPath]
          exact grows

/-- A tree that is read is made by asking for the denoted nodes in the order of the text. -/
theorem made_of_parse {expression : String} {tree : RelationTree F}
    (isRead : parse expression = .ok tree) : ∃ paths created, Expresses expression paths ∧
      Made created tree ∧ created.map (·.trail) = paths.eraseDups := by
  obtain ⟨paths, expresses, rfl⟩ := parse_eq_ok_iff.1 isRead
  obtain ⟨lexed, _, denotes⟩ := id expresses
  obtain ⟨created, made, isCreated⟩ := Made.foldl_insert (F := F) [] .empty rfl
    (grows_of_denotes denotes) fun path isPath name isName =>
      (expresses.isNameToken path isPath name isName).isName
  exact ⟨paths, created, expresses, made, isCreated⟩

end RelationTree

end RecordGraph

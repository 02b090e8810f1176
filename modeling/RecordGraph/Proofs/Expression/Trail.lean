import RecordGraph.Expression.AllowList
import RecordGraph.Proofs.Result
import Mathlib.Data.List.Find
import Mathlib.Data.List.Perm.Basic

/-!
Contract: the nodes of a relation tree by the names that lead to them.

Owns: `RelationTree.trails`, the agreement of trails with dotted paths, with lookup and with the
check of an allow-list.
Does not own: the order of the nodes.

A trail is the list of names from the root to a node. Its dotted path can be split again as long as
no name is empty or holds a point, so a tree with such names is known by its paths.
-/

namespace RecordGraph

open RecordGraph.Text

/-! ## Points -/

namespace Text

theorem splitMarks_append (mark : Char) (left right : List Char) :
    splitMarks mark (left ++ mark :: right) = splitMarks mark left ++ splitMarks mark right := by
  induction left with
  | nil => simp [splitMarks]
  | cons c rest inductionHypothesis =>
      rw [List.cons_append, splitMarks, splitMarks, inductionHypothesis]
      split
      · rfl
      · cases pieces : splitMarks mark rest with
        | nil => exact absurd pieces (splitMarks_ne_nil mark rest)
        | cons first others => rfl

theorem splitMarks_of_not_mem {mark : Char} {chars : List Char} (lacks : mark ∉ chars) :
    splitMarks mark chars = [chars] := by
  induction chars with
  | nil => rfl
  | cons c rest inductionHypothesis =>
      rw [List.mem_cons, not_or] at lacks
      rw [splitMarks, if_neg (by simpa using Ne.symm lacks.1), inductionHypothesis lacks.2]

end Text

namespace RelationTree

variable {F : Type}

/-- Whether a path can be split at the ends of a name. -/
def IsName (name : String) : Prop :=
  name ≠ "" ∧ '.' ∉ name.toList

theorem isName_of_isIdentifier {name : String} (isIdentifier : isIdentifier name = true) :
    IsName name := by
  unfold Text.isIdentifier at isIdentifier
  split at isIdentifier
  · cases isIdentifier
  · rename_i first rest isName
    rw [Bool.and_eq_true, List.all_eq_true] at isIdentifier
    refine ⟨fun isEmpty => ?_, fun hasPoint => ?_⟩
    · rw [isEmpty] at isName
      cases isName
    · rw [isName, List.mem_cons] at hasPoint
      rcases hasPoint with isFirst | inRest
      · exact absurd isIdentifier.1 (by rw [← isFirst]; decide)
      · exact absurd (isIdentifier.2 '.' inRest) (by decide)

theorem splitPath_injective {path other : String} (same : splitPath path = splitPath other) :
    path = other := by
  have samePieces : splitMarks '.' path.toList = splitMarks '.' other.toList :=
    List.map_injective_iff.2 (fun _ _ => String.ofList_inj.1) same
  rw [← String.toList_inj, ← joinMarks_splitMarks '.' path.toList, samePieces,
    joinMarks_splitMarks]

theorem splitPath_of_isName {name : String} (isName : IsName name) : splitPath name = [name] := by
  rw [splitPath, splitMarks_of_not_mem isName.2, List.map_singleton, String.ofList_toList]

theorem splitPath_append_point (above below : String) :
    splitPath (above ++ "." ++ below) = splitPath above ++ splitPath below := by
  have chars : (above ++ "." ++ below).toList = above.toList ++ '.' :: below.toList := by simp
  rw [splitPath, chars, splitMarks_append, List.map_append]
  rfl

theorem splitPath_ne_nil (path : String) : splitPath path ≠ [] := by
  rw [splitPath, Ne, List.map_eq_nil_iff]
  exact splitMarks_ne_nil '.' path.toList

theorem splitPath_extendPath {path name : String} (nonempty : path ≠ "") (isName : IsName name) :
    splitPath (extendPath path name) = splitPath path ++ [name] := by
  have notEmpty : ¬ path.isEmpty = true := by simpa using nonempty
  rw [extendPath, if_neg notEmpty, splitPath_append_point, splitPath_of_isName isName]

theorem extendPath_ne_empty {path name : String} (isName : IsName name) :
    extendPath path name ≠ "" := by
  unfold extendPath
  split
  · exact isName.1
  · intro isEmpty
    have chars := congrArg String.toList isEmpty
    simp at chars

/-- The path of names below a path. -/
def dotted (path : String) (names : List String) : String :=
  names.foldl extendPath path

theorem splitPath_dotted_below {names : List String} (areNames : ∀ name ∈ names, IsName name) :
    ∀ {path : String}, path ≠ "" → splitPath (dotted path names) = splitPath path ++ names := by
  induction names with
  | nil => exact fun _ => (List.append_nil _).symm
  | cons name rest inductionHypothesis =>
      intro path nonempty
      rw [List.forall_mem_cons] at areNames
      rw [dotted, List.foldl_cons]
      refine (inductionHypothesis areNames.2 (extendPath_ne_empty areNames.1)).trans ?_
      rw [splitPath_extendPath nonempty areNames.1, List.append_assoc]
      rfl

/-- Splitting the path of names gives the names back. -/
theorem splitPath_dotted {names : List String} (areNames : ∀ name ∈ names, IsName name)
    (nonempty : names ≠ []) : splitPath (dotted "" names) = names := by
  cases names with
  | nil => exact absurd rfl nonempty
  | cons name rest =>
      rw [List.forall_mem_cons] at areNames
      have first : extendPath "" name = name := rfl
      rw [dotted, List.foldl_cons, first]
      refine (splitPath_dotted_below areNames.2 areNames.1.1).trans ?_
      rw [splitPath_of_isName areNames.1]
      rfl

theorem dotted_splitPath {path : String} (areNames : ∀ name ∈ splitPath path, IsName name) :
    dotted "" (splitPath path) = path := by
  apply splitPath_injective
  exact splitPath_dotted areNames (splitPath_ne_nil path)

/-! ## Heights -/

theorem height_of_mem_nodes {tree : RelationTree F} {path : String} {node : Node F}
    (member : node ∈ tree.nodes path) : node.children.height < tree.height := by
  induction tree with
  | nil => exact absurd member List.not_mem_nil
  | cons name filter children siblings _ siblingsHypothesis =>
      rw [height]
      rcases List.mem_cons.1 member with rfl | member
      · dsimp only
        omega
      · have below := siblingsHypothesis member
        omega

/-- Below the nodes of one level trees are less high. -/
theorem height_lt_of_mem_below {levels : Nat} {nodes : List (Node F)}
    (heights : ∀ node ∈ nodes, node.children.height < levels + 1) :
    ∀ node ∈ nodes.flatMap fun node => node.children.nodes node.path,
      node.children.height < levels := by
  intro below isBelow
  obtain ⟨node, isNode, isChild⟩ := List.mem_flatMap.1 isBelow
  have child := height_of_mem_nodes isChild
  have bound := heights node isNode
  omega

theorem exists_node_of_height {tree : RelationTree F} {height : Nat} (path : String)
    (isHeight : tree.height = height + 1) :
    ∃ node ∈ tree.nodes path, node.children.height = height := by
  induction tree with
  | nil => cases isHeight
  | cons name filter children siblings _ siblingsHypothesis =>
      rw [RelationTree.height] at isHeight
      by_cases deepest : children.height = height
      · exact ⟨_, List.mem_cons_self .., deepest⟩
      · have isSibling : siblings.height = height + 1 := by omega
        rcases siblingsHypothesis isSibling with ⟨node, member, same⟩
        exact ⟨node, List.mem_cons_of_mem _ member, same⟩

/-! ## Trails -/

/-- The names from the root to each node. -/
def trails : RelationTree F → List (List String)
  | .nil => []
  | .cons name _ children siblings =>
      [name] :: children.trails.map (name :: ·) ++ siblings.trails

/-- Whether no two siblings have one name. -/
def Distinct : RelationTree F → Prop
  | .nil => True
  | .cons name _ children siblings =>
      name ∉ siblings.names ∧ children.Distinct ∧ siblings.Distinct

/-- Whether every name of a tree can be told in a path. -/
def Named (tree : RelationTree F) : Prop :=
  ∀ trail ∈ tree.trails, ∀ name ∈ trail, IsName name

theorem mem_trails_cons {name : String} {filter : Option F} {children siblings : RelationTree F}
    {trail : List String} :
    trail ∈ (RelationTree.cons name filter children siblings).trails ↔
      trail = [name] ∨ (∃ rest ∈ children.trails, trail = name :: rest) ∨
        trail ∈ siblings.trails := by
  rw [trails, List.cons_append, List.mem_cons, List.mem_append, List.mem_map]
  simp only [eq_comm]

theorem forall_mem_trails_cons {name : String} {filter : Option F}
    {children siblings : RelationTree F} {holds : List String → Prop} :
    (∀ trail ∈ (RelationTree.cons name filter children siblings).trails, holds trail) ↔
      holds [name] ∧ (∀ rest ∈ children.trails, holds (name :: rest)) ∧
        ∀ trail ∈ siblings.trails, holds trail := by
  rw [trails, List.cons_append, List.forall_mem_cons, List.forall_mem_append, List.forall_mem_map]

theorem trail_ne_nil {tree : RelationTree F} {trail : List String} (isTrail : trail ∈ tree.trails) :
    trail ≠ [] := by
  induction tree with
  | nil => exact absurd isTrail List.not_mem_nil
  | cons name filter children siblings _ siblingsHypothesis =>
      rcases mem_trails_cons.1 isTrail with rfl | ⟨rest, _, rfl⟩ | isSibling
      · exact List.cons_ne_nil _ _
      · exact List.cons_ne_nil _ _
      · exact siblingsHypothesis isSibling

/-- Trails begin with the name of a top-level node. -/
theorem head_mem_names {tree : RelationTree F} {name : String} {rest : List String}
    (isTrail : name :: rest ∈ tree.trails) : name ∈ tree.names := by
  induction tree with
  | nil => exact absurd isTrail List.not_mem_nil
  | cons other filter children siblings _ siblingsHypothesis =>
      rw [names, List.mem_cons]
      rcases mem_trails_cons.1 isTrail with same | ⟨below, _, same⟩ | isSibling
      · exact Or.inl (List.cons.inj same).1
      · exact Or.inl (List.cons.inj same).1
      · exact Or.inr (siblingsHypothesis isSibling)

/-- A trail ends at a top-level node or below it. -/
theorem mem_trails_iff_node {tree : RelationTree F} (path : String) {trail : List String} :
    trail ∈ tree.trails ↔ ∃ node ∈ tree.nodes path,
      trail = [node.name] ∨ ∃ rest ∈ node.children.trails, trail = node.name :: rest := by
  induction tree with
  | nil => simp [trails, nodes]
  | cons name filter children siblings _ siblingsHypothesis =>
      rw [mem_trails_cons, siblingsHypothesis, nodes, List.exists_mem_cons_iff, or_assoc]

theorem trail_of_mem_nodes {tree : RelationTree F} {path : String} {node : Node F}
    (isNode : node ∈ tree.nodes path) : [node.name] ∈ tree.trails :=
  (mem_trails_iff_node path).2 ⟨node, isNode, Or.inl rfl⟩

theorem trail_below_of_mem_nodes {tree : RelationTree F} {path : String} {node : Node F}
    (isNode : node ∈ tree.nodes path) {rest : List String} (isRest : rest ∈ node.children.trails) :
    node.name :: rest ∈ tree.trails :=
  (mem_trails_iff_node path).2 ⟨node, isNode, Or.inr ⟨rest, isRest, rfl⟩⟩

theorem path_of_mem_nodes {tree : RelationTree F} {path : String} {node : Node F}
    (isNode : node ∈ tree.nodes path) : node.path = extendPath path node.name := by
  induction tree with
  | nil => exact absurd isNode List.not_mem_nil
  | cons name filter children siblings _ siblingsHypothesis =>
      rcases List.mem_cons.1 isNode with rfl | isNode
      · rfl
      · exact siblingsHypothesis isNode

/-- The nodes of one depth and the trails below them make up the trails of a tree. -/
theorem flatMap_nodes (tree : RelationTree F) (path : String) :
    ((tree.nodes path).flatMap fun node =>
      node.path :: node.children.trails.map (dotted node.path)) =
        tree.trails.map (dotted path) := by
  induction tree with
  | nil => rfl
  | cons name filter children siblings _ siblingsHypothesis =>
      rw [nodes, List.flatMap_cons, siblingsHypothesis, trails, List.map_append, List.map_cons,
        List.map_map]
      rfl

/-- Nodes level by level have the paths of the nodes and of what is below them. -/
theorem walkLevels_perm (levels : Nat) : ∀ {nodes : List (Node F)},
    (∀ node ∈ nodes, node.children.height < levels) →
      ((walkLevels levels nodes).map (·.path)).Perm
        (nodes.flatMap fun node => node.path :: node.children.trails.map (dotted node.path)) := by
  induction levels with
  | zero =>
      intro nodes heights
      cases nodes with
      | nil => exact .nil
      | cons node rest => exact absurd (heights node (List.mem_cons_self ..)) (Nat.not_lt_zero _)
  | succ levels inductionHypothesis =>
      intro nodes heights
      have below := inductionHypothesis (height_lt_of_mem_below heights)
      rw [List.flatMap_assoc] at below
      simp only [flatMap_nodes] at below
      rw [walkLevels, List.map_append]
      exact (below.append_left _).trans (List.map_append_flatMap_perm nodes (·.path) _)

/-- The paths of a tree are the dotted trails, in another order. -/
theorem paths_perm (tree : RelationTree F) : tree.paths.Perm (tree.trails.map (dotted "")) := by
  rw [← flatMap_nodes]
  exact walkLevels_perm tree.height fun node isNode => height_of_mem_nodes isNode

theorem mem_paths_iff {tree : RelationTree F} {path : String} :
    path ∈ tree.paths ↔ ∃ trail ∈ tree.trails, path = dotted "" trail := by
  rw [tree.paths_perm.mem_iff, List.mem_map]
  simp only [eq_comm]

/-- The pieces of a path lead to a node exactly if the path is one of the tree. -/
theorem splitPath_mem_trails_iff {tree : RelationTree F} (named : tree.Named) {path : String} :
    splitPath path ∈ tree.trails ↔ path ∈ tree.paths := by
  rw [mem_paths_iff]
  constructor
  · intro isTrail
    exact ⟨_, isTrail, (dotted_splitPath (named _ isTrail)).symm⟩
  · rintro ⟨trail, isTrail, rfl⟩
    rwa [splitPath_dotted (named trail isTrail) (trail_ne_nil isTrail)]

/-! ## Lookup -/

/-- What is found is a node, also if siblings share a name. -/
theorem mem_trails_of_findNames {tree : RelationTree F} : ∀ {path : String} {names : List String},
    (tree.findNames path names).isSome = true → names ∈ tree.trails := by
  induction tree with
  | nil =>
      intro path names found
      cases names <;> cases found
  | cons name filter children siblings childrenHypothesis siblingsHypothesis =>
      intro path names found
      cases names with
      | nil => cases found
      | cons first rest =>
          simp only [findNames] at found
          split at found
          · rename_i same
            subst same
            cases rest with
            | nil => exact mem_trails_cons.2 (Or.inl rfl)
            | cons second rest =>
                exact mem_trails_cons.2 (Or.inr (Or.inl ⟨_, childrenHypothesis found, rfl⟩))
          · exact mem_trails_cons.2 (Or.inr (Or.inr (siblingsHypothesis found)))

theorem findNames_isSome_iff {tree : RelationTree F} (distinct : tree.Distinct) :
    ∀ {path : String} {names : List String},
      (tree.findNames path names).isSome = true ↔ names ∈ tree.trails := by
  intro path names
  refine ⟨mem_trails_of_findNames, fun isTrail => ?_⟩
  induction tree generalizing path names with
  | nil => exact absurd isTrail List.not_mem_nil
  | cons name filter children siblings childrenHypothesis siblingsHypothesis =>
      rcases distinct with ⟨apart, childrenDistinct, siblingsDistinct⟩
      rcases mem_trails_cons.1 isTrail with rfl | ⟨rest, isRest, rfl⟩ | isSibling
      · simp [findNames]
      · cases rest with
        | nil => exact absurd rfl (trail_ne_nil isRest)
        | cons second rest =>
            simp only [findNames, if_pos]
            exact childrenHypothesis childrenDistinct isRest
      · cases names with
        | nil => exact absurd rfl (trail_ne_nil isSibling)
        | cons first rest =>
            have differs : name ≠ first := by
              rintro rfl
              exact apart (head_mem_names isSibling)
            simp only [findNames, if_neg differs]
            exact siblingsHypothesis siblingsDistinct isSibling

/-- A path is found exactly if it is a path of the tree. -/
theorem find?_isSome_iff {tree : RelationTree F} (distinct : tree.Distinct) (named : tree.Named)
    {path : String} : (tree.find? path).isSome = true ↔ path ∈ tree.paths := by
  rw [find?, findNames_isSome_iff distinct, splitPath_mem_trails_iff named]

theorem findNames_cons_isSome_iff {tree : RelationTree F} {path : String} {name : String}
    {rest : List String} :
    (tree.findNames path (name :: rest)).isSome = true ↔
      ∃ filter children, tree.child? name = some (filter, children) ∧
        (rest = [] ∨ (children.findNames (extendPath path name) rest).isSome = true) := by
  induction tree with
  | nil => simp [findNames, child?]
  | cons other filter children siblings _ siblingsHypothesis =>
      simp only [findNames, child?]
      split
      · rename_i same
        subst same
        cases rest <;> simp
      · exact siblingsHypothesis

end RelationTree

/-! ## Growth -/

namespace RelationTree

variable {F : Type}

theorem distinct_chain (names : List String) : (chain names : RelationTree F).Distinct := by
  induction names with
  | nil => trivial
  | cons name rest inductionHypothesis => exact ⟨List.not_mem_nil, inductionHypothesis, trivial⟩

theorem mem_names_insert {tree : RelationTree F} {name other : String} {rest : List String}
    (member : other ∈ (tree.insert (name :: rest)).names) : other ∈ tree.names ∨ other = name := by
  induction tree with
  | nil => exact Or.inr (List.mem_singleton.1 member)
  | cons first filter children siblings _ siblingsHypothesis =>
      rw [insert] at member
      split at member
      · exact Or.inl member
      · rw [names, List.mem_cons] at member ⊢
        rcases member with isFirst | member
        · exact Or.inl (Or.inl isFirst)
        · rcases siblingsHypothesis member with isSibling | isName
          · exact Or.inl (Or.inr isSibling)
          · exact Or.inr isName

theorem distinct_insert {tree : RelationTree F} : ∀ (names : List String), tree.Distinct →
    (tree.insert names).Distinct := by
  induction tree with
  | nil =>
      intro names _
      cases names with
      | nil => trivial
      | cons name rest => exact distinct_chain (name :: rest)
  | cons first filter children siblings childrenHypothesis siblingsHypothesis =>
      rintro names ⟨apart, childrenDistinct, siblingsDistinct⟩
      cases names with
      | nil => exact ⟨apart, childrenDistinct, siblingsDistinct⟩
      | cons name rest =>
          rw [insert]
          split
          · exact ⟨apart, childrenHypothesis rest childrenDistinct, siblingsDistinct⟩
          · rename_i differs
            refine ⟨fun member => ?_, childrenDistinct, siblingsHypothesis _ siblingsDistinct⟩
            rcases mem_names_insert member with isSibling | isName
            · exact apart isSibling
            · exact differs isName

theorem distinct_ofPaths (paths : List (List String)) :
    (ofPaths paths : RelationTree F).Distinct := by
  refine List.foldlRecOn paths insert ?_ fun tree distinct names _ => distinct_insert names distinct
  trivial

end RelationTree

/-- A tree that is read from text has no two siblings of one name. -/
theorem ExpressionSource.distinct_of_read {F : Type} {source : ExpressionSource F}
    {tree : RelationTree F} (read : source.read = .ok tree)
    (given : ∀ ready, source = .tree ready → ready.Distinct) : tree.Distinct := by
  cases source with
  | absent =>
      cases read
      trivial
  | tree ready =>
      cases read
      exact given tree rfl
  | text expression =>
      rcases Result.bind_eq_ok.1 read with ⟨lexed, _, read⟩
      split at read
      · cases Result.pure_eq_ok.1 read
        exact RelationTree.distinct_ofPaths _
      · exact absurd read Result.throw_ne_ok

/-! ## Allow-lists -/

namespace AllowList

variable {F : Type}

/-- What lies outside is the first trail that is not found. -/
theorem firstOutside_eq_find? {requested : RelationTree F} :
    ∀ {path : String} {allowed : RelationTree F}, firstOutside path requested allowed =
      (requested.trails.find? fun trail => (allowed.findNames path trail).isNone).map
        (RelationTree.dotted path) := by
  induction requested with
  | nil => exact rfl
  | cons name filter children siblings childrenHypothesis siblingsHypothesis =>
      intro path allowed
      rw [firstOutside, RelationTree.trails, List.cons_append, List.find?_cons]
      cases lookup : allowed.child? name with
      | none =>
          have lacks : (allowed.findNames path [name]).isNone = true := by
            rw [← Option.not_isSome, Bool.not_eq_true', ← Bool.not_eq_true,
              RelationTree.findNames_cons_isSome_iff, lookup]
            simp
          rw [lacks]
          rfl
      | some found =>
          rcases found with ⟨filter', below⟩
          have isFound : (allowed.findNames path [name]).isNone = false := by
            rw [← Option.not_isSome, Bool.not_eq_false', RelationTree.findNames_cons_isSome_iff]
            exact ⟨filter', below, lookup, Or.inl rfl⟩
          have sameBelow : ∀ trail ∈ children.trails,
              (allowed.findNames path (name :: trail)).isNone =
                (below.findNames (extendPath path name) trail).isNone := by
            intro trail isTrail
            rw [← Option.not_isSome, ← Option.not_isSome]
            refine congrArg _ (Bool.eq_iff_iff.2 ?_)
            rw [RelationTree.findNames_cons_isSome_iff, lookup]
            simp [RelationTree.trail_ne_nil isTrail]
          rw [isFound]
          dsimp only
          rw [List.find?_append, List.find?_map, childrenHypothesis, siblingsHypothesis]
          have inChildren := List.find?_congr sameBelow
          rw [Function.comp_def, inChildren]
          cases children.trails.find? fun trail =>
            (below.findNames (extendPath path name) trail).isNone <;> rfl

/-- A tree is refused at its first trail that is not found. -/
theorem check_within (allowed requested : RelationTree F) :
    (AllowList.within allowed).check requested =
      match requested.trails.find? fun trail => (allowed.findNames "" trail).isNone with
      | some trail => .error (.notAllowed (RelationTree.dotted "" trail))
      | none => .ok () := by
  rw [check, firstOutside_eq_find?]
  cases requested.trails.find? fun trail => (allowed.findNames "" trail).isNone <;> rfl

theorem check_within_eq_ok_iff {allowed requested : RelationTree F} :
    (AllowList.within allowed).check requested = .ok () ↔
      ∀ trail ∈ requested.trails, (allowed.findNames "" trail).isSome = true := by
  have allFound : (∀ trail ∈ requested.trails, (allowed.findNames "" trail).isSome = true) ↔
      (requested.trails.find? fun trail => (allowed.findNames "" trail).isNone) = none := by
    simp only [List.find?_eq_none, Bool.not_eq_true, Option.isNone_eq_false_iff]
  rw [allFound, check_within]
  cases requested.trails.find? fun trail => (allowed.findNames "" trail).isNone <;> simp

/-- The check of a tree whose names can be told is the check of each of its paths. -/
theorem check_eq_ok_iff {allow : AllowList F} {requested : RelationTree F}
    (named : requested.Named) :
    allow.check requested = .ok () ↔ ∀ path ∈ requested.paths, allow.allows path = true := by
  cases allow with
  | unrestricted => exact iff_of_true rfl fun _ _ => rfl
  | within tree =>
      rw [check_within_eq_ok_iff]
      constructor
      · intro all path isPath
        obtain ⟨trail, isTrail, rfl⟩ := RelationTree.mem_paths_iff.1 isPath
        rw [allows, RelationTree.find?, RelationTree.splitPath_dotted (named trail isTrail)
          (RelationTree.trail_ne_nil isTrail)]
        exact all trail isTrail
      · intro all trail isTrail
        have found := all _ (RelationTree.mem_paths_iff.2 ⟨trail, isTrail, rfl⟩)
        rwa [allows, RelationTree.find?, RelationTree.splitPath_dotted (named trail isTrail)
          (RelationTree.trail_ne_nil isTrail)] at found

end AllowList

end RecordGraph

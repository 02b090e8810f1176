import RecordGraph.Proofs.Expression.Reading

/-!
Contract: expressions of trees are read back as the trees.

Owns: `ReadsAs`, the paths that a rendered tree denotes, and `RelationTree.Built`.
Does not own: lexing, the grammar, and trees of paths.

The expression of a tree denotes the trails of the tree, and a tree is the only one that spells its
trails.
-/

namespace RecordGraph

/-! ## Parts of an expression -/

/-- Whether a text is read as a phrase that denotes paths, wherever it is a part. -/
def ReadsAs (phrase : Phrase) (text : String) (paths : List (List String)) : Prop :=
  ∃ kinds, Lexes text.toList kinds ∧ phrase.Denotes kinds paths

namespace ReadsAs

variable {name text rest : String} {paths others : List (List String)}

theorem single (isToken : IsNameToken name) : ReadsAs .item name [[name]] :=
  ⟨_, Lexes.name isToken, .name name⟩

theorem chained (isToken : IsNameToken name) (reads : ReadsAs .item text paths) :
    ReadsAs .item (name ++ "." ++ text) ([name] :: paths.map (name :: ·)) := by
  obtain ⟨kinds, lexes, denotes⟩ := reads
  have chars : (name ++ "." ++ text).toList = name.toList ++ '.' :: text.toList := by simp
  refine ⟨.name name :: .point :: kinds, ?_, .chained name denotes⟩
  rw [chars]
  exact (Lexes.name isToken).append (lexes.punctuation (by decide) (by decide) rfl) (by decide)

theorem last (reads : ReadsAs .item text paths) : ReadsAs .items text paths := by
  obtain ⟨kinds, lexes, denotes⟩ := reads
  exact ⟨kinds, lexes, .last denotes⟩

theorem more (reads : ReadsAs .item text paths) (readsRest : ReadsAs .items rest others) :
    ReadsAs .items (text ++ ", " ++ rest) (paths ++ others) := by
  obtain ⟨kinds, lexes, denotes⟩ := reads
  obtain ⟨restKinds, restLexes, restDenotes⟩ := readsRest
  have chars : (text ++ ", " ++ rest).toList = text.toList ++ ',' :: ' ' :: rest.toList := by simp
  refine ⟨kinds ++ .comma :: restKinds, ?_, .more denotes restDenotes⟩
  rw [chars]
  exact lexes.append ((restLexes.blank (by decide)).punctuation (by decide) (by decide) rfl)
    (by decide)

theorem group (reads : ReadsAs .items text paths) : ReadsAs .item ("[" ++ text ++ "]") paths := by
  obtain ⟨kinds, lexes, denotes⟩ := reads
  have chars : ("[" ++ text ++ "]").toList = '[' :: (text.toList ++ ']' :: []) := by simp
  refine ⟨.opening :: (kinds ++ [.closing]), ?_, .group denotes⟩
  rw [chars]
  exact (lexes.append (Lexes.nil.punctuation (by decide) (by decide) rfl) (by decide)).punctuation
    (by decide) (by decide) rfl

theorem expresses (reads : ReadsAs .item text paths) : Expresses text paths := by
  obtain ⟨kinds, lexes, denotes⟩ := reads
  obtain ⟨lexed, isLexed, rfl⟩ := lexes.read
  exact ⟨lexed, isLexed, .listed (.last denotes)⟩

end ReadsAs

namespace RelationTree

variable {F : Type}

/-- Whether every name of a tree has the form of a name in an expression. -/
def Speakable (tree : RelationTree F) : Prop :=
  ∀ trail ∈ tree.trails, ∀ name ∈ trail, IsNameToken name

theorem speakable_cons {name : String} {filter : Option F} {children siblings : RelationTree F}
    (speakable : (RelationTree.cons name filter children siblings).Speakable) :
    IsNameToken name ∧ children.Speakable ∧ siblings.Speakable := by
  unfold Speakable at speakable
  rw [forall_mem_trails_cons] at speakable
  exact ⟨speakable.1 name (List.mem_singleton.2 rfl),
    fun trail isTrail other isOther =>
      speakable.2.1 trail isTrail other (List.mem_cons_of_mem _ isOther), speakable.2.2⟩

theorem renderParts_ne_nil {tree : RelationTree F} (nonempty : tree ≠ .nil) :
    tree.renderParts ≠ [] := by
  cases tree with
  | nil => exact absurd rfl nonempty
  | cons => exact List.cons_ne_nil _ _

theorem renderNode_of_ne_nil {name : String} {parts : List String} (isNamed : name ≠ "")
    (nonempty : parts ≠ []) : renderNode name parts = name ++ "." ++ bracket parts := by
  cases parts with
  | nil => exact absurd rfl nonempty
  | cons => simp [renderNode, isNamed]

theorem bracket_cons {first : String} {parts : List String} (nonempty : parts ≠ []) :
    bracket (first :: parts) = "[" ++ ", ".intercalate (first :: parts) ++ "]" := by
  cases parts with
  | nil => exact absurd rfl nonempty
  | cons => rfl

/-- A node is read as its own path and the paths below it. -/
theorem readsAs_renderNode {name : String} {children : RelationTree F} (isToken : IsNameToken name)
    (reads : children ≠ .nil → ReadsAs .item (bracket children.renderParts) children.trails) :
    ReadsAs .item (renderNode name children.renderParts)
      ([name] :: children.trails.map (name :: ·)) := by
  by_cases isLeaf : children = .nil
  · rw [isLeaf]
    exact .single isToken
  · rw [renderNode_of_ne_nil isToken.nonempty (renderParts_ne_nil isLeaf)]
    exact (reads isLeaf).chained isToken

/-- The nodes of a tree are read as its trails, as a list and as one item. -/
theorem readsAs_renderParts {tree : RelationTree F} (speakable : tree.Speakable)
    (nonempty : tree ≠ .nil) :
    ReadsAs .items (", ".intercalate tree.renderParts) tree.trails ∧
      ReadsAs .item (bracket tree.renderParts) tree.trails := by
  induction tree with
  | nil => exact absurd rfl nonempty
  | cons name filter children siblings childrenHypothesis siblingsHypothesis =>
      obtain ⟨isToken, childrenSpeakable, siblingsSpeakable⟩ := speakable_cons speakable
      have node := readsAs_renderNode isToken fun isSome =>
        (childrenHypothesis childrenSpeakable isSome).2
      rw [renderParts, trails]
      by_cases isLast : siblings = .nil
      · rw [isLast, trails, List.append_nil, renderParts, String.intercalate_singleton]
        exact ⟨node.last, node⟩
      · have others := renderParts_ne_nil isLast
        have items := node.more (siblingsHypothesis siblingsSpeakable isLast).1
        rw [← String.intercalate_cons_of_ne_nil others] at items
        rw [bracket_cons others]
        exact ⟨items, items.group⟩

/-- The expression of a tree denotes the trails of the tree. -/
theorem expresses_render {tree : RelationTree F} (speakable : tree.Speakable) :
    Expresses tree.render tree.trails := by
  cases tree with
  | nil =>
      obtain ⟨lexed, isLexed, isNil⟩ := @Lexes.read [] "" Lexes.nil
      exact ⟨lexed, isLexed, isNil ▸ .nothing⟩
  | cons name filter children siblings =>
      exact (readsAs_renderParts speakable (by simp)).2.expresses

/-! ## Trees that callers build -/

/-- The trees that are read, and those that grow from them or from the root by one child at a
time. -/
inductive Built : RelationTree F → Prop where
  | parsed {expression : String} {tree : RelationTree F} :
      parse expression = .ok tree → Built tree
  | root : Built .nil
  | child {tree : RelationTree F} {above : List String} {name : String} : Built tree →
      above = [] ∨ above ∈ tree.trails → IsNameToken name → Built (tree.insert (above ++ [name]))

/-- Whether a tree is told by an expression: its names are names, and it has neither equal siblings
nor filters. -/
structure Told (tree : RelationTree F) : Prop where
  speakable : tree.Speakable
  distinct : tree.Distinct
  bare : tree.bare = tree

theorem told_ofPaths {paths : List (List String)}
    (areNames : ∀ path ∈ paths, ∀ name ∈ path, IsNameToken name) :
    (ofPaths paths : RelationTree F).Told where
  speakable trail isTrail name isName := by
    obtain ⟨_, path, isPath, isPrefix⟩ := mem_trails_ofPaths.1 isTrail
    exact areNames path isPath name (isPrefix.subset isName)
  distinct := distinct_ofPaths paths
  bare := bare_ofPaths paths

theorem Told.insert {tree : RelationTree F} {path : List String} (told : tree.Told)
    (areNames : ∀ name ∈ path, IsNameToken name) : (tree.insert path).Told where
  speakable trail isTrail name isName := by
    rcases mem_trails_insert.1 isTrail with isOld | ⟨_, isPrefix⟩
    · exact told.speakable trail isOld name isName
    · exact areNames name (isPrefix.subset isName)
  distinct := distinct_insert path told.distinct
  bare := by rw [bare_insert, told.bare]

theorem Built.told {tree : RelationTree F} (built : tree.Built) : tree.Told := by
  induction built with
  | parsed parsed =>
      obtain ⟨paths, expresses, rfl⟩ := parse_eq_ok_iff.1 parsed
      exact told_ofPaths expresses.isNameToken
  | root =>
      have told : (ofPaths [] : RelationTree F).Told := told_ofPaths (by simp)
      exact told
  | @child tree above name built isNode isToken inductionHypothesis =>
      refine inductionHypothesis.insert (List.forall_mem_append.2 ⟨?_, by simpa using isToken⟩)
      rcases isNode with rfl | isTrail
      · simp
      · exact inductionHypothesis.speakable above isTrail

/-- The expression of a told tree is read as the tree. -/
theorem Told.parse_render {tree : RelationTree F} (told : tree.Told) :
    parse tree.render = .ok tree := by
  have grown : (ofPaths tree.trails : RelationTree F).bare = tree.bare :=
    (spells_ofPaths _).bare_eq (spells_trails told.distinct)
  rw [bare_ofPaths, told.bare] at grown
  rw [parse_of_expresses (expresses_render told.speakable), grown]

/-- Reading undoes rendering. So different trees have different expressions, and a rendering that is
read and rendered again stays as it is. -/
theorem parse_render_exact {tree : RelationTree F} (built : tree.Built) :
    parse tree.render = .ok tree ∧
    (∀ other : RelationTree F, other.Built → (tree.render = other.render ↔ tree = other)) ∧
    ∀ again : RelationTree F, parse tree.render = .ok again → again.render = tree.render := by
  have read := built.told.parse_render
  refine ⟨read, fun other otherBuilt => ⟨fun same => ?_, congrArg render⟩,
    fun again readAgain => ?_⟩
  · have readOther := otherBuilt.told.parse_render
    rw [← same, read] at readOther
    exact Except.ok.inj readOther
  · rw [read] at readAgain
    rw [Except.ok.inj readAgain]

/-- A node that a caller adds below a node that was read. -/
theorem parse_render_grown : ∃ tree : RelationTree Unit, tree.Built ∧
    tree.render = "[a.[b, c], e]" ∧ parse tree.render = .ok tree := by
  have parsed : parse "a.b, [e]" =
      .ok (.cons "a" none (.cons "b" none .nil .nil) (.cons "e" none .nil .nil) :
        RelationTree Unit) := by decide +kernel
  have isToken : IsNameToken "c" := ⟨'c', [], rfl, by decide, by simp⟩
  have built := @Built.child Unit _ ["a"] "c" (.parsed parsed) (Or.inr (by decide)) isToken
  exact ⟨_, built, by decide +kernel, (parse_render_exact built).1⟩

end RelationTree

end RecordGraph

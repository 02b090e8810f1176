import RecordGraph.Proofs.Expression.Grammar
import RecordGraph.Proofs.Expression.Growth
import RecordGraph.Proofs.Expression.Lexing
import Mathlib.Data.List.Nodup

/-!
Contract: what is read from an expression.

Owns: the acceptance of expressions, and the paths of the tree that is read.
Does not own: the grammar, and the growth of trees.
-/

namespace RecordGraph

/-- Every name of a denoted path has the form of a name. -/
theorem Expresses.isNameToken {expression : String} {paths : List (List String)}
    (expresses : Expresses expression paths) :
    ∀ path ∈ paths, ∀ name ∈ path, IsNameToken name := by
  intro path isPath name isName
  obtain ⟨lexed, isLexed, denotes⟩ := expresses
  unfold Lexed.read at isLexed
  dsimp only at isLexed
  cases isTokens : lexFrom 0 expression.toList with
  | error failure =>
      rw [isTokens] at isLexed
      cases isLexed
  | ok tokens =>
      rw [isTokens] at isLexed
      cases isLexed
      exact isNameToken_of_lexFrom isTokens (denotes.name_mem path isPath name isName)

namespace RelationTree

variable {F : Type}

theorem parse_of_expresses {expression : String} {paths : List (List String)}
    (expresses : Expresses expression paths) :
    parse expression = .ok (ofPaths paths : RelationTree F) :=
  parse_eq_ok_iff.2 ⟨paths, expresses, rfl⟩

theorem Spells.isName {tree : RelationTree F} {paths : List (List String)} {expression : String}
    (expresses : Expresses expression paths) (spells : tree.Spells paths) : tree.Named :=
  spells.named fun path isPath name isName => (expresses.isNameToken path isPath name isName).isName

/-- Different nodes of a tree with names have different paths. -/
theorem paths_nodup {tree : RelationTree F} (named : tree.Named) (nodup : tree.trails.Nodup) :
    tree.paths.Nodup := by
  rw [tree.paths_perm.nodup_iff]
  refine List.Nodup.map_on (fun left isLeft right isRight same => ?_) nodup
  rw [← splitPath_dotted (named left isLeft) (trail_ne_nil isLeft), same,
    splitPath_dotted (named right isRight) (trail_ne_nil isRight)]

/-- An expression is read exactly if its tokens make up one. Its tree has every prefix of the
denoted paths as the path of one node, siblings by first occurrence, and no other tree has. -/
theorem parse_exact {expression : String} {lexed : Lexed}
    (isLexed : Lexed.read expression = .ok lexed) :
    ((∃ tree : RelationTree F, parse expression = .ok tree) ↔
      ∃ paths, Phrase.Denotes .expression (lexed.tokens.map (·.kind)) paths) ∧
    ∀ (tree : RelationTree F) (paths : List (List String)), parse expression = .ok tree →
      Phrase.Denotes .expression (lexed.tokens.map (·.kind)) paths →
        tree.Spells paths ∧
        (∀ path, path ∈ tree.paths ↔ ∃ trail, trail ≠ [] ∧
          (∃ denoted ∈ paths, trail <+: denoted) ∧ path = dotted "" trail) ∧
        tree.paths.Nodup ∧
        ∀ other : RelationTree F, other.Spells paths → other.bare = tree := by
  constructor
  · constructor
    · rintro ⟨tree, parsed⟩
      obtain ⟨paths, ⟨_, isSame, denotes⟩, _⟩ := parse_eq_ok_iff.1 parsed
      cases isLexed.symm.trans isSame
      exact ⟨paths, denotes⟩
    · rintro ⟨paths, denotes⟩
      exact ⟨ofPaths paths, parse_of_expresses ⟨lexed, isLexed, denotes⟩⟩
  · intro tree paths parsed denotes
    have expresses : Expresses expression paths := ⟨lexed, isLexed, denotes⟩
    have isRead := parse_of_expresses (F := F) expresses
    obtain rfl : ofPaths paths = tree := Except.ok.inj (isRead.symm.trans parsed)
    have spells : (ofPaths paths : RelationTree F).Spells paths := spells_ofPaths paths
    refine ⟨spells, fun path => ?_, paths_nodup (spells.isName expresses) spells.nodup,
      fun other again => ?_⟩
    · rw [mem_paths_iff]
      simp only [spells.nodes, and_assoc]
    · rw [again.bare_eq spells, bare_ofPaths]

/-- A name that comes again, in a group, leads to the node that is there. -/
theorem parse_merged_siblings :
    ∃ (lexed : Lexed) (tree : RelationTree Unit), Lexed.read "a.b, [c, a.d]" = .ok lexed ∧
      parse "a.b, [c, a.d]" = .ok tree ∧
      tree.Spells [["a"], ["a", "b"], ["c"], ["a"], ["a", "d"]] ∧
      tree.paths = ["a", "c", "a.b", "a.d"] ∧ tree.paths.Nodup := by
  have isLexed : Lexed.read "a.b, [c, a.d]" = .ok ⟨[⟨.name "a", 0⟩, ⟨.point, 1⟩, ⟨.name "b", 2⟩,
      ⟨.comma, 3⟩, ⟨.opening, 5⟩, ⟨.name "c", 6⟩, ⟨.comma, 7⟩, ⟨.name "a", 9⟩, ⟨.point, 10⟩,
      ⟨.name "d", 11⟩, ⟨.closing, 12⟩], 13⟩ := by decide +kernel
  have denotes : Phrase.Denotes .expression _ [["a"], ["a", "b"], ["c"], ["a"], ["a", "d"]] :=
    .listed (.more (.chained "a" (.name "b")) (.last (.group (.more (.name "c")
      (.last (.chained "a" (.name "d")))))))
  have parsed := parse_of_expresses (F := Unit) ⟨_, isLexed, denotes⟩
  obtain ⟨spells, _, nodup, _⟩ := (parse_exact isLexed).2 _ _ parsed denotes
  exact ⟨_, _, isLexed, parsed, spells, rfl, nodup⟩

end RelationTree

end RecordGraph

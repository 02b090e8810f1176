import RecordGraph.Proofs.Expression.Overlay
import RecordGraph.Proofs.Fetch.Acceptance
import RecordGraph.Proofs.Fetch.Order

/-!
Contract: which filter each level of a plan carries.

Owns: the filters of the levels of a plan in the order of its tree.
Does not own: how a filter narrows the query of its level.

A level is that of a node of the tree to which the filters of the call are attached, so it carries the
filter that the map has for its path, or else the filter that came with the tree.
-/

namespace RecordGraph

namespace FetchPlan

variable {registry : Registry} {config : Config} {entity : String} {filter : Option Filter}
  {eager : ExpressionSource Filter} {allow : AllowSource Filter}
  {filters : List (String × Option Filter)} {plan : FetchPlan}

/-- The levels of a plan are those of the nodes of its tree, with the filters attached. -/
theorem levels_of_make {tree : RelationTree Filter} (isTree : eager.read = .ok tree)
    (made : make registry config entity filter eager allow filters = .ok plan) :
    plan.levels.map (fun level => (level.relation.name, level.path, level.filter)) =
      (tree.attachFilters filters).1.walk.map fun node => (node.name, node.path, node.filter) := by
  obtain ⟨requested, attached, isRequested, isAttached, _, _, walks⟩ := make_walks made
  cases isTree.symm.trans isRequested
  rw [← attached_of_withFilters isAttached, ← List.forall₂_eq_eq_eq, List.forall₂_map_left_iff,
    List.forall₂_map_right_iff]
  refine walks.nodes.flip.imp fun level node isLevel => ?_
  rw [isLevel.name, isLevel.path, isLevel.filter]

/-- Filters attached to a copy of a tree reach exactly the nodes at their paths, and nothing else about
the tree changes. The levels of a plan carry the same filters, and without a map those of the tree. -/
theorem filters_exact {tree : RelationTree Filter} (prepared : tree.Prepared)
    {filters : List (String × Option Filter)} (nodup : (filters.map Prod.fst).Nodup) :
    tree.Overlays filters (tree.copy.attachFilters filters).1 ∧
    (tree.copy.attachFilters filters).2 = (filters.map Prod.fst).filter (· ∉ tree.paths) ∧
    ∀ (registry : Registry) (config : Config) (entity : String) (filter : Option Filter)
      (eager : ExpressionSource Filter) (allow : AllowSource Filter) (plan : FetchPlan),
      eager.read = .ok tree →
        (make registry config entity filter eager allow filters = .ok plan →
          plan.levels.map (fun level => (level.relation.name, level.path, level.filter)) =
            tree.walk.map fun node =>
              (node.name, node.path, (filters.lookup node.path).getD node.filter)) ∧
        (make registry config entity filter eager allow [] = .ok plan →
          plan.levels.map (fun level => (level.relation.name, level.path, level.filter)) =
            tree.walk.map fun node => (node.name, node.path, node.filter)) := by
  obtain ⟨overlays, unmatched⟩ := prepared.overlays nodup
  refine ⟨overlays, unmatched, fun registry config entity filter eager allow plan isTree => ?_⟩
  refine ⟨fun made => ?_, levels_of_make isTree⟩
  rw [levels_of_make isTree made, ← overlays.walk,
    RelationTree.copy_eq prepared.distinct_named.1]

end FetchPlan

/-! ## Names that come again further down -/

namespace Family

def byWord : Filter := .sortBy [("word", false)]

def byId : Filter := .sortBy [("id", true)]

/-- Words of a person, of their children and of their grandchildren. -/
def words : RelationTree Filter :=
  .cons "tags" none .nil (.cons "children" none
    (.cons "tags" none .nil (.cons "children" none (.cons "tags" none .nil .nil) .nil)) .nil)

/-- The own words and those of the grandchildren come by word. -/
def sortedWords : RelationTree Filter :=
  (words.attachFilters [("tags", some byWord), ("children.children.tags", some byWord)]).1

theorem words_parsed :
    (RelationTree.parse "tags, children.[tags, children.tags]" : Result (RelationTree Filter)) =
      .ok words := by
  have isLexed : Lexed.read "tags, children.[tags, children.tags]" = .ok ⟨[⟨.name "tags", 0⟩,
      ⟨.comma, 4⟩, ⟨.name "children", 6⟩, ⟨.point, 14⟩, ⟨.opening, 15⟩, ⟨.name "tags", 16⟩,
      ⟨.comma, 20⟩, ⟨.name "children", 22⟩, ⟨.point, 30⟩, ⟨.name "tags", 31⟩, ⟨.closing, 35⟩], 36⟩ := by
    decide +kernel
  rw [RelationTree.parse, isLexed]
  rfl

/-- A filter for the words of the children, none for the own ones, and one for nothing. -/
def resorting : List (String × Option Filter) :=
  [("pets", some byWord), ("children.tags", some byId), ("tags", none)]

/-- A filter for the words of the children leaves the words below as they were. -/
theorem filters_exact_words :
    (resorting.map Prod.fst).Nodup ∧
    (sortedWords.copy.attachFilters resorting).2 = ["pets"] ∧
    ∃ plan plan', FetchPlan.make registry {} "Person" none (.tree sortedWords) (.expression .absent)
        resorting = .ok plan ∧
      FetchPlan.make registry {} "Person" none (.tree sortedWords) (.expression .absent) [] =
        .ok plan' ∧
      plan.levels.map (fun level => (level.relation.name, level.path, level.filter)) =
        [("tags", "tags", none), ("children", "children", none),
          ("tags", "children.tags", some byId), ("children", "children.children", none),
          ("tags", "children.children.tags", some byWord)] ∧
      plan'.levels.map (fun level => (level.relation.name, level.path, level.filter)) =
        [("tags", "tags", some byWord), ("children", "children", none),
          ("tags", "children.tags", none), ("children", "children.children", none),
          ("tags", "children.children.tags", some byWord)] := by
  have prepared : sortedWords.Prepared := .attached _ (.parsed words_parsed)
  have nodup : (resorting.map Prod.fst).Nodup := by decide
  obtain ⟨_, unmatched, levels⟩ := FetchPlan.filters_exact prepared nodup
  obtain ⟨plan, made⟩ : ∃ plan, FetchPlan.make registry {} "Person" none (.tree sortedWords)
      (.expression .absent) resorting = .ok plan := ⟨_, rfl⟩
  obtain ⟨plan', made'⟩ : ∃ plan, FetchPlan.make registry {} "Person" none (.tree sortedWords)
      (.expression .absent) [] = .ok plan := ⟨_, rfl⟩
  refine ⟨nodup, unmatched.trans rfl, plan, plan', made, made', ?_, ?_⟩
  · exact ((levels registry {} "Person" none _ _ plan rfl).1 made).trans rfl
  · exact ((levels registry {} "Person" none _ _ plan' rfl).2 made').trans rfl

end Family

end RecordGraph

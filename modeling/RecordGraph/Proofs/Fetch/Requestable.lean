import RecordGraph.Proofs.Expression.Dotted
import RecordGraph.Proofs.Fetch.Acceptance

/-!
Contract: which paths of relations can be asked for and allowed.

Owns: `Registry.Requestable`, and the agreement of it with the form of names.
Does not own: the planning of what is asked for.

Relations are registered under identifiers, in which any letter may come first and marks may follow. A
name in an expression begins with an ASCII letter and goes on with letters and digits only. So there
are relations that no expression names.
-/

namespace RecordGraph

namespace Registry

variable {registry : Registry} {names : List String} {F : Type}

theorem Follows.of_prefix {trail : List String} : ∀ {entity : String},
    registry.Follows entity names → trail <+: names → registry.Follows entity trail := by
  rintro entity follows ⟨rest, rfl⟩
  induction trail generalizing entity with
  | nil => trivial
  | cons name trail inductionHypothesis =>
      obtain ⟨relation, resolves, follows⟩ := follows
      exact ⟨relation, resolves, inductionHypothesis follows⟩

/-- The chain of names that follow one another resolves. -/
theorem resolveTree_chain (closed : registry.Closed) (nonempty : names ≠ []) {entity : String}
    (follows : registry.Follows entity names) :
    registry.resolveTree entity (.chain names : RelationTree F) = .ok () := by
  obtain ⟨found, isFound⟩ : ∃ found, registry.entity entity = .ok found := by
    cases names with
    | nil => exact absurd rfl nonempty
    | cons name rest =>
        obtain ⟨relation, resolves, _⟩ := follows
        obtain ⟨found, isFound, _⟩ := resolve_eq_ok resolves
        exact ⟨found, isFound⟩
  refine Result.bind_eq_ok.2 ⟨found, isFound, (resolveNodes_eq_ok_iff closed).2 ?_⟩
  exact fun trail isTrail => follows.of_prefix (RelationTree.mem_trails_chain.1 isTrail).2

/-- Whether the dotted names are an expression that asks for their path, and an allow-list that allows
it. -/
structure Requestable (F : Type) (registry : Registry) (names : List String) : Prop where
  read : RelationTree.parse (".".intercalate names) = .ok (.chain names : RelationTree F)
  /-- The last node of the tree, and so the deepest, is that of the path. -/
  deepest : (.chain names : RelationTree F).paths.getLast? = some (".".intercalate names)
  leaf : ∃ name, (.chain names : RelationTree F).find? (".".intercalate names) =
    some ⟨name, ".".intercalate names, none, .nil⟩
  resolves : ∀ entity, registry.Follows entity names →
    registry.resolveTree entity (.chain names : RelationTree F) = .ok ()
  allowed : ∃ allow : AllowList F,
    AllowSource.read (.expression (.text (".".intercalate names))) = .ok allow ∧
      allow.check (.chain names) = .ok () ∧ allow.allows (".".intercalate names) = true

/-- Names of expressions that are registered can be asked for. -/
theorem requestable_of_tokens (closed : registry.Closed) (nonempty : names ≠ [])
    (areTokens : ∀ name ∈ names, IsNameToken name) : registry.Requestable F names := by
  have areNames : ∀ name ∈ names, RelationTree.IsName name :=
    fun name isName => (areTokens name isName).isName
  have isRead := RelationTree.parse_dotted (F := F) nonempty areTokens
  have isPath := RelationTree.dotted_eq_intercalate areNames
  have atLast : ∃ name, (.chain names : RelationTree F).find? (".".intercalate names) =
      some ⟨name, ".".intercalate names, none, .nil⟩ := by
    rw [RelationTree.find?, ← isPath, RelationTree.splitPath_dotted areNames nonempty]
    exact RelationTree.findNames_chain nonempty ""
  refine ⟨isRead, ?_, atLast, fun entity => resolveTree_chain closed nonempty,
    .within (.chain names), Result.bind_eq_ok.2 ⟨_, isRead, rfl⟩, ?_, ?_⟩
  · rw [RelationTree.getLast?_paths_chain nonempty, isPath]
  · refine AllowList.check_within_eq_ok_iff.2 fun trail isTrail => ?_
    exact (RelationTree.findNames_isSome_iff (RelationTree.distinct_chain names)).2 isTrail
  · obtain ⟨name, found⟩ := atLast
    rw [AllowList.allows, found]
    rfl

/-- Registered names can be asked for and allowed exactly if each of them is a name of expressions, and
are refused by the reader otherwise. -/
theorem requestable_iff (reachable : registry.Reachable) (frozen : registry.frozen = true)
    (nonempty : names ≠ []) (registered : ∀ name ∈ names, registry.Registers name) :
    (registry.Requestable F names ↔ ∀ name ∈ names, IsNameToken name) ∧
      ((¬ ∀ name ∈ names, IsNameToken name) → ∃ position reason,
        (RelationTree.parse (".".intercalate names) : Result (RelationTree F)) =
          .error (.syntaxError (".".intercalate names) position reason)) := by
  have areIdentifiers : ∀ name ∈ names, Text.isIdentifier name = true :=
    fun name isName => (registered name isName).isIdentifier reachable
  have refused := RelationTree.parse_dotted_refused (F := F) nonempty areIdentifiers
  refine ⟨⟨fun requestable => ?_, requestable_of_tokens (reachable.closed frozen) nonempty⟩, refused⟩
  by_contra unspeakable
  obtain ⟨position, reason, isRefused⟩ := refused unspeakable
  cases requestable.read.symm.trans isRefused

end Registry

/-! ## Relations with names of their own -/

namespace Family

/-- Words of children can be asked for. -/
theorem requestable_iff_words : registry.Follows "Person" ["children", "tags"] ∧
    registry.Requestable Filter ["children", "tags"] := by
  have follows : registry.Follows "Person" ["children", "tags"] :=
    ⟨children, rfl, tags, rfl, trivial⟩
  have areTokens : ∀ name ∈ ["children", "tags"], IsNameToken name := by
    simp only [List.forall_mem_cons]
    exact ⟨⟨'c', _, rfl, by decide, List.all_eq_true.1 rfl⟩,
      ⟨'t', _, rfl, by decide, List.all_eq_true.1 rfl⟩, by simp⟩
  exact ⟨follows, (Registry.requestable_iff registry_reachable rfl (List.cons_ne_nil _ _)
    follows.registers).1.2 areTokens⟩

/-- The children, by a name that begins with an accent. -/
def eleves : Relation := { children with name := "élèves" }

def school : Registry where
  schema := schema
  entities := [{ person with relations := [eleves] }]
  frozen := true

theorem school_reachable : school.Reachable := by
  have people : Registry.register { schema } "Person" [eleves] =
      .ok { schema, entities := [{ person with relations := [eleves] }] } := rfl
  have frozen : Registry.freeze { schema, entities := [{ person with relations := [eleves] }] } =
      .ok school := rfl
  exact .freeze (.register (.start schema) people) frozen

/-- A relation is registered whose name is refused at its first letter. -/
theorem eleves_refused : school.Reachable ∧ school.frozen = true ∧
    school.Follows "Person" ["élèves"] ∧
    (RelationTree.parse "élèves" : Result (RelationTree Filter)) =
      .error (.syntaxError "élèves" 0 "unexpected character 'é'") ∧
    ¬ school.Requestable Filter ["élèves"] := by
  have isLexed : Lexed.read "élèves" =
      .error (.syntaxError "élèves" 0 "unexpected character 'é'") := by decide +kernel
  have isRefused : (RelationTree.parse "élèves" : Result (RelationTree Filter)) =
      .error (.syntaxError "élèves" 0 "unexpected character 'é'") := by
    rw [RelationTree.parse, isLexed]
    rfl
  refine ⟨school_reachable, rfl, ⟨eleves, rfl, trivial⟩, isRefused, fun requestable => ?_⟩
  cases requestable.read.symm.trans isRefused

end Family

end RecordGraph

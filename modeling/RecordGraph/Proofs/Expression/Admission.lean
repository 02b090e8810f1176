import RecordGraph.Proofs.Expression.Reading

/-!
Contract: what an allow-list that is read from an expression admits.

Owns: `Admitted`, the agreement of the check of a tree with the check of its paths, and the path
that a refusal names.
Does not own: lookup in trees, and what an expression denotes.

A path is admitted if it leads to or towards an allowed one. So the tree of the allowed paths
decides admission by lookup, and the first path in the order of the requested tree that is not
admitted is the one that is refused.
-/

namespace RecordGraph

/-- Whether a path leads to or towards one of the allowed paths. -/
def Admitted (allowed : List (List String)) (path : List String) : Prop :=
  ∃ other ∈ allowed, path <+: other

theorem Admitted.of_longer {allowed : List (List String)} {path longer : List String}
    (admitted : Admitted allowed longer) (isPrefix : path <+: longer) : Admitted allowed path := by
  obtain ⟨other, isAllowed, leads⟩ := admitted
  exact ⟨other, isAllowed, isPrefix.trans leads⟩

instance (allowed : List (List String)) (path : List String) : Decidable (Admitted allowed path) :=
  inferInstanceAs (Decidable (∃ other ∈ allowed, path <+: other))

namespace RelationTree

variable {F : Type}

theorem Spells.forall_admitted_iff {tree : RelationTree F} {paths allowed : List (List String)}
    (spells : tree.Spells paths) (nonempty : ∀ path ∈ paths, path ≠ []) :
    (∀ trail ∈ tree.trails, Admitted allowed trail) ↔ ∀ path ∈ paths, Admitted allowed path := by
  constructor
  · exact fun all path isPath =>
      all path ((spells.nodes path).2 ⟨nonempty path isPath, path, isPath, List.prefix_refl _⟩)
  · intro all trail isTrail
    obtain ⟨_, path, isPath, isPrefix⟩ := (spells.nodes trail).1 isTrail
    exact (all path isPath).of_longer isPrefix

theorem findNames_ofPaths_isSome_iff {allowed : List (List String)} {names : List String}
    (nonempty : names ≠ []) :
    ((ofPaths allowed : RelationTree F).findNames "" names).isSome = true ↔
      Admitted allowed names := by
  rw [findNames_isSome_iff (distinct_ofPaths allowed), mem_trails_ofPaths]
  exact and_iff_right nonempty

end RelationTree

namespace AllowList

variable {F : Type}

theorem checkPath_eq_ok_iff {allow : AllowList F} {path : String} :
    allow.checkPath path = .ok () ↔ allow.allows path = true := by
  unfold checkPath
  cases allow.allows path with
  | false => exact iff_of_false Result.throw_ne_ok Bool.false_ne_true
  | true => exact iff_of_true rfl rfl

/-- A refusal names the first trail that is not found. -/
theorem check_within_eq_error_iff {allowed requested : RelationTree F} {error : Error} :
    (AllowList.within allowed).check requested = .error error ↔
      ∃ before trail after, requested.trails = before ++ trail :: after ∧
        (∀ earlier ∈ before, (allowed.findNames "" earlier).isSome = true) ∧
        ¬ (allowed.findNames "" trail).isSome = true ∧
        error = .notAllowed (RelationTree.dotted "" trail) := by
  have isError : (AllowList.within allowed).check requested = .error error ↔
      ∃ trail, (requested.trails.find? fun trail => (allowed.findNames "" trail).isNone) =
        some trail ∧ error = .notAllowed (RelationTree.dotted "" trail) := by
    rw [check_within]
    cases requested.trails.find? fun trail => (allowed.findNames "" trail).isNone with
    | none => simp
    | some trail => simp [eq_comm]
  rw [isError]
  constructor
  · rintro ⟨trail, isFirst, rfl⟩
    obtain ⟨lacks, before, after, isSplit, found⟩ := List.find?_eq_some_iff_append.1 isFirst
    exact ⟨before, trail, after, isSplit, by simpa using found,
      by simpa using lacks, rfl⟩
  · rintro ⟨before, trail, after, isSplit, found, lacks, rfl⟩
    refine ⟨trail, List.find?_eq_some_iff_append.2 ⟨?_, before, after, isSplit, ?_⟩, rfl⟩
    · simpa using lacks
    · simpa using found

variable {requestText allowText : String} {requestedPaths allowedPaths : List (List String)}

/-- An allow-list admits the prefixes of its paths and nothing else, one by one and as a whole. A
refusal names the first node of the requested tree, parents before children and elder siblings
before younger ones, that is not admitted. -/
theorem admits_exactly (requests : Expresses requestText requestedPaths)
    (allows : Expresses allowText allowedPaths) :
    ∃ (requested : RelationTree F) (allow : AllowList F),
      RelationTree.parse requestText = .ok requested ∧ requested.Spells requestedPaths ∧
      (AllowSource.expression (.text allowText)).read = .ok allow ∧
      (∀ path, allow.checkPath path = .ok () ↔
        Admitted allowedPaths (RelationTree.splitPath path)) ∧
      (allow.check requested = .ok () ↔ ∀ path ∈ requestedPaths, Admitted allowedPaths path) ∧
      (allow.check requested = .ok () ↔
        ∀ path ∈ requested.paths, allow.checkPath path = .ok ()) ∧
      ∀ error, allow.check requested = .error error ↔
        ∃ before trail after, requested.trails = before ++ trail :: after ∧
          (∀ earlier ∈ before, Admitted allowedPaths earlier) ∧
          ¬ Admitted allowedPaths trail ∧ error = .notAllowed (RelationTree.dotted "" trail) := by
  have spells : (RelationTree.ofPaths requestedPaths : RelationTree F).Spells requestedPaths :=
    RelationTree.spells_ofPaths requestedPaths
  have isRead : (AllowSource.expression (.text allowText)).read =
      .ok (.within (RelationTree.ofPaths allowedPaths : RelationTree F)) := by
    rw [AllowSource.read, ExpressionSource.read, RelationTree.parse_of_expresses allows]
    · rfl
    · exact nofun
  have found : ∀ trail ∈ (RelationTree.ofPaths requestedPaths : RelationTree F).trails,
      (((RelationTree.ofPaths allowedPaths : RelationTree F).findNames "" trail).isSome = true ↔
        Admitted allowedPaths trail) :=
    fun trail isTrail =>
      RelationTree.findNames_ofPaths_isSome_iff (RelationTree.trail_ne_nil isTrail)
  refine ⟨_, _, RelationTree.parse_of_expresses requests, spells, isRead, fun path => ?_, ?_, ?_,
    fun error => ?_⟩
  · rw [checkPath_eq_ok_iff]
    exact RelationTree.findNames_ofPaths_isSome_iff (RelationTree.splitPath_ne_nil path)
  · obtain ⟨lexed, _, denotes⟩ := requests
    rw [check_within_eq_ok_iff, ← spells.forall_admitted_iff denotes.path_ne_nil]
    exact forall₂_congr found
  · simp only [checkPath_eq_ok_iff]
    exact check_eq_ok_iff (spells.isName requests)
  · rw [check_within_eq_error_iff]
    constructor
    · rintro ⟨before, trail, after, isSplit, earlier, lacks, rfl⟩
      rw [isSplit, List.forall_mem_append, List.forall_mem_cons] at found
      exact ⟨before, trail, after, isSplit, fun path isPath =>
        (found.1 path isPath).1 (earlier path isPath), fun admitted =>
          lacks (found.2.1.2 admitted), rfl⟩
    · rintro ⟨before, trail, after, isSplit, earlier, lacks, rfl⟩
      rw [isSplit, List.forall_mem_append, List.forall_mem_cons] at found
      exact ⟨before, trail, after, isSplit, fun path isPath =>
        (found.1 path isPath).2 (earlier path isPath), fun isFound =>
          lacks (found.2.1.1 isFound), rfl⟩

/-- The node below the first one is refused, not its parent's younger sibling. -/
theorem refuses_below_first : ∃ (requested : RelationTree Unit) (allow : AllowList Unit),
    RelationTree.parse "a.x, z" = .ok requested ∧ requested.paths = ["a", "z", "a.x"] ∧
    (AllowSource.expression (.text "a.b, c")).read = .ok allow ∧ allow.checkPath "a" = .ok () ∧
    allow.check requested = .error (.notAllowed "a.x") := by
  have requests : Expresses "a.x, z" [["a"], ["a", "x"], ["z"]] :=
    ⟨⟨[⟨.name "a", 0⟩, ⟨.point, 1⟩, ⟨.name "x", 2⟩, ⟨.comma, 3⟩, ⟨.name "z", 5⟩], 6⟩,
      by decide +kernel, .listed (.more (.chained "a" (.name "x")) (.last (.name "z")))⟩
  have allows : Expresses "a.b, c" [["a"], ["a", "b"], ["c"]] :=
    ⟨⟨[⟨.name "a", 0⟩, ⟨.point, 1⟩, ⟨.name "b", 2⟩, ⟨.comma, 3⟩, ⟨.name "c", 5⟩], 6⟩,
      by decide +kernel, .listed (.more (.chained "a" (.name "b")) (.last (.name "c")))⟩
  have parsed : RelationTree.parse "a.x, z" = .ok (.cons "a" none (.cons "x" none .nil .nil)
      (.cons "z" none .nil .nil) : RelationTree Unit) := RelationTree.parse_of_expresses requests
  obtain ⟨requested, allow, isRequested, _, isRead, one, _, _, refused⟩ :=
    admits_exactly requests allows
  cases isRequested.symm.trans parsed
  refine ⟨_, allow, parsed, by decide, isRead, (one "a").2 ?_, (refused _).2 ?_⟩
  · exact ⟨["a"], by decide, by decide⟩
  · exact ⟨[["a"]], ["a", "x"], [["z"]], rfl, by decide +kernel, by decide +kernel, rfl⟩

end AllowList

end RecordGraph

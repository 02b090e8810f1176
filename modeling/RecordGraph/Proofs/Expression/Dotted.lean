import RecordGraph.Proofs.Expression.Identifiers
import RecordGraph.Proofs.Expression.Offence
import RecordGraph.Proofs.Expression.Rendering

/-!
Contract: dotted names as expressions.

Owns: which dotted names are read, and the tree of one path with its deepest node.
Does not own: where names come from.

Where there are no blanks and no marks other than points, the tokens of a text are its pieces between
the points, so a text is read as its pieces if each of them is a name.
-/

namespace RecordGraph

open RecordGraph.Text

/-! ## Pieces between points -/

theorem isNamePart_of_isNameStart {c : Char} (starts : isNameStart c = true) :
    isNamePart c = true := by
  unfold isNameStart at starts
  unfold isNamePart isWord
  simp only [Bool.or_eq_true, beq_iff_eq] at starts ⊢
  rcases starts with (isLetter | rfl) | rfl
  · have isAscii : c.toNat < 128 := by
      have bounds := toNat_of_isAlpha isLetter
      omega
    rw [if_pos isAscii]
    simp [Char.isAlphanum, isLetter]
  · decide
  · decide

/-- Whether a text holds neither blanks nor marks other than points. -/
def OnlyPoints (chars : List Char) : Prop :=
  ∀ c ∈ chars, c = '.' ∨ isBlank c = false ∧ TokenKind.ofPunctuation? c = none

theorem OnlyPoints.of_suffix {chars others : List Char} (plain : OnlyPoints chars)
    (isSuffix : others <:+ chars) : OnlyPoints others :=
  fun c isChar => plain c (isSuffix.subset isChar)

/-- Where no name goes on there is a point or nothing, since another name would begin with a part of
one. -/
theorem Scanned.nil_or_point {position : Nat} {chars rest : List Char} {tokens : List Token}
    (scanned : Scanned position chars tokens rest) (isEnd : rest = []) (plain : OnlyPoints chars)
    (ends : ∀ c ∈ chars.head?, isNamePart c = false) :
    chars = [] ∨ ∃ others, chars = '.' :: others := by
  cases scanned with
  | stop => exact Or.inl isEnd
  | @blank position c chars rest tokens isBlank scanned =>
      rcases plain c (List.mem_cons_self ..) with rfl | ⟨notBlank, _⟩
      · exact Or.inr ⟨chars, rfl⟩
      · cases isBlank.symm.trans notBlank
  | @mark position c chars rest tokens kind isKind scanned =>
      rcases plain c (List.mem_cons_self ..) with rfl | ⟨_, noMark⟩
      · exact Or.inr ⟨chars, rfl⟩
      · cases isKind.symm.trans noMark
  | @name position name chars rest tokens isToken _ scanned =>
      obtain ⟨first, others, isChars, starts, _⟩ := isToken
      have stops := ends first (by rw [isChars]; rfl)
      cases (isNamePart_of_isNameStart starts).symm.trans stops

/-- The pieces of what is scanned are names, or nothing. -/
theorem Scanned.pieces {position : Nat} {chars rest : List Char} {tokens : List Token}
    (scanned : Scanned position chars tokens rest) (isEnd : rest = []) (plain : OnlyPoints chars) :
    ∀ piece ∈ splitMarks '.' chars, piece = [] ∨ IsNameToken (String.ofList piece) := by
  induction scanned with
  | stop position rest =>
      subst isEnd
      intro piece isPiece
      exact Or.inl (List.mem_singleton.1 isPiece)
  | @blank position c chars rest tokens isBlank scanned inductionHypothesis =>
      rcases plain c (List.mem_cons_self ..) with rfl | ⟨notBlank, _⟩
      · cases isBlank
      · cases isBlank.symm.trans notBlank
  | @mark position c chars rest tokens kind isKind scanned inductionHypothesis =>
      rcases plain c (List.mem_cons_self ..) with rfl | ⟨_, noMark⟩
      · rw [splitMarks, if_pos (beq_self_eq_true _), List.forall_mem_cons]
        exact ⟨Or.inl rfl, inductionHypothesis isEnd (plain.of_suffix (List.suffix_cons ..))⟩
      · cases isKind.symm.trans noMark
  | @name position name chars rest tokens isToken ends scanned inductionHypothesis =>
      have plainBelow := plain.of_suffix (List.suffix_append ..)
      have below := inductionHypothesis isEnd plainBelow
      have isPiece : IsNameToken (String.ofList name.toList) := by
        rwa [String.ofList_toList]
      have noPoint : '.' ∉ name.toList := isToken.isName.2
      rcases scanned.nil_or_point isEnd plainBelow ends with rfl | ⟨others, rfl⟩
      · rw [List.append_nil, splitMarks_of_not_mem noPoint, List.forall_mem_singleton]
        exact Or.inr isPiece
      · rw [splitMarks, if_pos (beq_self_eq_true _), List.forall_mem_cons] at below
        rw [splitMarks_append, splitMarks_of_not_mem noPoint, List.singleton_append,
          List.forall_mem_cons]
        exact ⟨Or.inr isPiece, below.2⟩

/-- If a text with points only is read, its pieces are names. -/
theorem isNameToken_of_read {text : String} {lexed : Lexed} (isLexed : Lexed.read text = .ok lexed)
    (plain : OnlyPoints text.toList) {name : String} (isPiece : name ∈ RelationTree.splitPath text)
    (nonempty : name ≠ "") : IsNameToken name := by
  obtain ⟨tokens, rest, scanned, ends⟩ := exists_scanned 0 text.toList
  rcases ends with isEnd | ⟨c, others, rfl, nothing⟩
  · obtain ⟨piece, isSplit, rfl⟩ := List.mem_map.1 isPiece
    refine (scanned.pieces isEnd plain piece isSplit).resolve_left ?_
    rintro rfl
    exact nonempty rfl
  · unfold Lexed.read at isLexed
    dsimp only at isLexed
    rw [scanned.lexFrom_eq_error nothing] at isLexed
    cases isLexed

namespace RelationTree

variable {F : Type} {names : List String}

/-! ## Dotted names -/

theorem dotted_below (nonempty : names ≠ []) : ∀ {path : String}, path ≠ "" →
    dotted path names = path ++ "." ++ ".".intercalate names := by
  induction names with
  | nil => exact absurd rfl nonempty
  | cons name rest inductionHypothesis =>
      intro path isSome
      have extended : extendPath path name = path ++ "." ++ name := by
        rw [extendPath, if_neg (by simpa using isSome)]
      have isSomeBelow : path ++ "." ++ name ≠ "" := by
        intro isEmpty
        have chars := congrArg String.toList isEmpty
        simp at chars
      rw [dotted, List.foldl_cons, extended]
      by_cases isLast : rest = []
      · rw [isLast, String.intercalate_singleton]
        rfl
      · refine (inductionHypothesis isLast isSomeBelow).trans ?_
        rw [String.intercalate_cons_of_ne_nil isLast]
        simp only [String.append_assoc]

/-- The path of names is the names with points between them. -/
theorem dotted_eq_intercalate (areNames : ∀ name ∈ names, IsName name) :
    dotted "" names = ".".intercalate names := by
  cases names with
  | nil => rfl
  | cons name rest =>
      have first : dotted "" (name :: rest) = dotted name rest := rfl
      rw [first]
      by_cases isLast : rest = []
      · rw [isLast, String.intercalate_singleton]
        rfl
      · rw [dotted_below isLast (areNames name (List.mem_cons_self ..)).1,
          String.intercalate_cons_of_ne_nil isLast]

/-! ## The tree of one path -/

theorem renderParts_chain (nonempty : names ≠ []) (areNames : ∀ name ∈ names, IsName name) :
    (chain names : RelationTree F).renderParts = [".".intercalate names] := by
  induction names with
  | nil => exact absurd rfl nonempty
  | cons name rest inductionHypothesis =>
      rw [List.forall_mem_cons] at areNames
      rw [chain, renderParts, renderParts]
      by_cases isLast : rest = []
      · rw [isLast, String.intercalate_singleton]
        rfl
      · rw [inductionHypothesis isLast areNames.2, String.intercalate_cons_of_ne_nil isLast,
          renderNode_of_ne_nil areNames.1.1 (List.cons_ne_nil _ _)]
        rfl

/-- The expression of one path is the dotted path. -/
theorem render_chain (nonempty : names ≠ []) (areNames : ∀ name ∈ names, IsName name) :
    (chain names : RelationTree F).render = ".".intercalate names := by
  rw [render, renderParts_chain nonempty areNames]
  rfl

theorem told_chain (areTokens : ∀ name ∈ names, IsNameToken name) :
    (chain names : RelationTree F).Told where
  speakable _ isTrail name isName :=
    areTokens name ((mem_trails_chain.1 isTrail).2.subset isName)
  distinct := distinct_chain names
  bare := bare_chain names

/-- The walk of one path ends at its end. -/
theorem getLast?_walkLevels_chain (nonempty : names ≠ []) : ∀ path : String,
    ((walkLevels (chain names : RelationTree F).height
      ((chain names : RelationTree F).nodes path)).map (·.path)).getLast? = some (dotted path names) := by
  induction names with
  | nil => exact absurd rfl nonempty
  | cons name rest inductionHypothesis =>
      intro path
      have height : (chain (name :: rest) : RelationTree F).height =
          (chain rest : RelationTree F).height + 1 := Nat.max_eq_left (Nat.zero_le _)
      have top : (chain (name :: rest) : RelationTree F).nodes path =
          [⟨name, extendPath path name, none, chain rest⟩] := rfl
      rw [height, walkLevels, top, List.flatMap_singleton, List.map_append, List.getLast?_append]
      by_cases isLast : rest = []
      · rw [isLast]
        rfl
      · rw [inductionHypothesis isLast]
        rfl

theorem getLast?_paths_chain (nonempty : names ≠ []) :
    (chain names : RelationTree F).paths.getLast? = some (dotted "" names) :=
  getLast?_walkLevels_chain nonempty ""

/-- The path of names leads to the end of the chain. -/
theorem findNames_chain (nonempty : names ≠ []) : ∀ path : String,
    ∃ name, (chain names : RelationTree F).findNames path names =
      some ⟨name, dotted path names, none, .nil⟩ := by
  induction names with
  | nil => exact absurd rfl nonempty
  | cons name rest inductionHypothesis =>
      intro path
      cases rest with
      | nil => exact ⟨name, by simp [chain, findNames, dotted]⟩
      | cons second rest =>
          obtain ⟨last, found⟩ := inductionHypothesis (List.cons_ne_nil _ _) (extendPath path name)
          refine ⟨last, ?_⟩
          rw [chain, findNames, if_pos rfl]
          exact found

/-! ## Reading dotted names -/

/-- Dotted names are read as their path if each is a name of expressions. -/
theorem parse_dotted (nonempty : names ≠ []) (areTokens : ∀ name ∈ names, IsNameToken name) :
    parse (".".intercalate names) = .ok (chain names : RelationTree F) := by
  rw [← render_chain nonempty fun name isName => (areTokens name isName).isName]
  exact (told_chain areTokens).parse_render

theorem onlyPoints_dotted
    (plain : ∀ name ∈ names, ∀ c ∈ name.toList, isBlank c = false ∧ TokenKind.ofPunctuation? c = none) :
    OnlyPoints (".".intercalate names).toList := by
  induction names with
  | nil => exact fun _ member => absurd member List.not_mem_nil
  | cons name rest inductionHypothesis =>
      rw [List.forall_mem_cons] at plain
      have here : OnlyPoints name.toList := fun c isChar => Or.inr (plain.1 c isChar)
      by_cases isLast : rest = []
      · rw [isLast, String.intercalate_singleton]
        exact here
      · rw [String.intercalate_cons_of_ne_nil isLast, String.toList_append, String.toList_append]
        refine List.forall_mem_append.2 ⟨List.forall_mem_append.2 ⟨here, ?_⟩,
          inductionHypothesis plain.2⟩
        exact fun c isPoint => Or.inl (List.mem_singleton.1 isPoint)

/-- Dotted identifiers are refused if one of them is no name of expressions. -/
theorem parse_dotted_refused (nonempty : names ≠ [])
    (areIdentifiers : ∀ name ∈ names, isIdentifier name = true)
    (unspeakable : ¬ ∀ name ∈ names, IsNameToken name) :
    ∃ position reason, (parse (".".intercalate names) : Result (RelationTree F)) =
      .error (.syntaxError (".".intercalate names) position reason) := by
  have areNames : ∀ name ∈ names, IsName name := fun name isName =>
    isName_of_isIdentifier (areIdentifiers name isName)
  rcases read_or_offends (F := F) (".".intercalate names) with
    ⟨⟨tree, isRead⟩, _⟩ | ⟨position, reason, isRefused, _⟩
  · refine absurd (fun name isName => ?_) unspeakable
    obtain ⟨lexed, isLexed, _⟩ := Result.bind_eq_ok.1 isRead
    refine isNameToken_of_read isLexed
      (onlyPoints_dotted fun name isName => plain_of_isIdentifier (areIdentifiers name isName)) ?_
      (areNames name isName).1
    rwa [← dotted_eq_intercalate areNames, splitPath_dotted areNames nonempty]
  · exact ⟨position, reason, isRefused⟩

end RelationTree

end RecordGraph

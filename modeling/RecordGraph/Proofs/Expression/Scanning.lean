import RecordGraph.Proofs.Expression.Lexing

/-!
Contract: what a text consists of, up to the first character that begins nothing.

Owns: `StartsNothing`, `Scanned`, and the agreement of both with the lexer.
Does not own: which tokens make up an expression.

A text is blanks, marks and names, and a name ends before the first character that is no part of
one. This takes every text apart in one way, up to its end or to a character that begins none of
the three.
-/

namespace RecordGraph

open RecordGraph.Text

/-- Whether a character is neither a blank nor the beginning of a token. -/
def StartsNothing (c : Char) : Prop :=
  isBlank c = false ∧ isNameStart c = false ∧ TokenKind.ofPunctuation? c = none

/-- Whether characters, from a position on, are blanks and tokens, and then a rest. -/
inductive Scanned : (position : Nat) → List Char → List Token → (rest : List Char) → Prop where
  | stop (position : Nat) (rest : List Char) : Scanned position rest [] rest
  | blank {position : Nat} {c : Char} {chars rest : List Char} {tokens : List Token} :
      isBlank c = true → Scanned (position + 1) chars tokens rest →
        Scanned position (c :: chars) tokens rest
  | mark {position : Nat} {c : Char} {chars rest : List Char} {tokens : List Token}
      {kind : TokenKind} : TokenKind.ofPunctuation? c = some kind →
        Scanned (position + 1) chars tokens rest →
          Scanned position (c :: chars) (⟨kind, position⟩ :: tokens) rest
  | name {position : Nat} {name : String} {chars rest : List Char} {tokens : List Token} :
      IsNameToken name → (∀ c ∈ chars.head?, isNamePart c = false) →
        Scanned (position + name.length) chars tokens rest →
          Scanned position (name.toList ++ chars) (⟨.name name, position⟩ :: tokens) rest

/-! ## Marks -/

theorem mark_of_ofPunctuation? {c : Char} {kind : TokenKind}
    (isKind : TokenKind.ofPunctuation? c = some kind) : c = '.' ∨ c = ',' ∨ c = '[' ∨ c = ']' := by
  unfold TokenKind.ofPunctuation? at isKind
  simp only [beq_iff_eq] at isKind
  split_ifs at isKind <;> simp_all

/-- Marks are neither blanks nor parts of names. -/
theorem plain_of_ofPunctuation? {c : Char} {kind : TokenKind}
    (isKind : TokenKind.ofPunctuation? c = some kind) :
    isBlank c = false ∧ isNameStart c = false := by
  rcases mark_of_ofPunctuation? isKind with rfl | rfl | rfl | rfl <;> decide

/-! ## Agreement with the lexer -/

variable {position : Nat} {chars rest : List Char} {tokens : List Token}

theorem lexFrom_of_startsNothing {c : Char} (nothing : StartsNothing c) :
    lexFrom position (c :: rest) = .error (position, c) := by
  obtain ⟨notBlank, notStart, noMark⟩ := nothing
  rw [lexFrom, notBlank, notStart, if_neg Bool.false_ne_true, if_neg Bool.false_ne_true, noMark]

namespace Scanned

/-- What is scanned is read as the tokens that it consists of. -/
theorem lexFrom_eq (scanned : Scanned position chars tokens rest) :
    ∃ next, next + rest.length = position + chars.length ∧
      lexFrom position chars = (lexFrom next rest).map (tokens ++ ·) := by
  induction scanned with
  | stop position rest =>
      refine ⟨position, rfl, ?_⟩
      cases lexFrom position rest <;> rfl
  | blank isBlank _ inductionHypothesis =>
      obtain ⟨next, isNext, isLexed⟩ := inductionHypothesis
      refine ⟨next, ?_, ?_⟩
      · rw [List.length_cons]
        omega
      · rw [lexFrom_blank isBlank, isLexed]
  | @mark position c chars rest tokens kind isKind _ inductionHypothesis =>
      obtain ⟨next, isNext, isLexed⟩ := inductionHypothesis
      obtain ⟨notBlank, notStart⟩ := plain_of_ofPunctuation? isKind
      refine ⟨next, ?_, ?_⟩
      · rw [List.length_cons]
        omega
      · rw [lexFrom_punctuation notBlank notStart isKind, isLexed]
        cases lexFrom next rest <;> rfl
  | @name position name chars rest tokens isToken ends _ inductionHypothesis =>
      obtain ⟨next, isNext, isLexed⟩ := inductionHypothesis
      refine ⟨next, ?_, ?_⟩
      · rw [List.length_append, String.length_toList]
        omega
      · rw [lexFrom_name isToken ends, isLexed]
        cases lexFrom next rest <;> rfl

/-- What is scanned to its end is read. -/
theorem lexFrom_eq_ok (scanned : Scanned position chars tokens []) :
    lexFrom position chars = .ok tokens := by
  obtain ⟨next, _, isLexed⟩ := scanned.lexFrom_eq
  rw [isLexed, lexFrom]
  exact congrArg Except.ok (List.append_nil tokens)

/-- What is scanned up to a character that begins nothing is refused there. -/
theorem lexFrom_eq_error {c : Char} (scanned : Scanned position chars tokens (c :: rest))
    (nothing : StartsNothing c) :
    lexFrom position chars = .error (position + chars.length - (c :: rest).length, c) := by
  obtain ⟨next, isNext, isLexed⟩ := scanned.lexFrom_eq
  have isPlace : next = position + chars.length - (c :: rest).length := by omega
  rw [isLexed, lexFrom_of_startsNothing nothing, isPlace]
  rfl

theorem isSuffix (scanned : Scanned position chars tokens rest) : rest <:+ chars := by
  induction scanned with
  | stop position rest => exact List.suffix_refl rest
  | blank _ _ inductionHypothesis => exact inductionHypothesis.trans (List.suffix_cons ..)
  | mark _ _ inductionHypothesis => exact inductionHypothesis.trans (List.suffix_cons ..)
  | name _ _ _ inductionHypothesis => exact inductionHypothesis.trans (List.suffix_append ..)

/-- Tokens begin before the rest does. -/
theorem position_lt (scanned : Scanned position chars tokens rest) :
    ∀ token ∈ tokens, token.position + rest.length < position + chars.length := by
  induction scanned with
  | stop position rest => exact fun _ member => absurd member List.not_mem_nil
  | blank _ _ inductionHypothesis =>
      intro token member
      have bound := inductionHypothesis token member
      rw [List.length_cons]
      omega
  | mark _ scanned inductionHypothesis =>
      have shorter := scanned.isSuffix.length_le
      rw [List.forall_mem_cons, List.length_cons]
      refine ⟨by dsimp only; omega, fun token member => ?_⟩
      have bound := inductionHypothesis token member
      omega
  | @name position name chars rest tokens isToken _ scanned inductionHypothesis =>
      have shorter := scanned.isSuffix.length_le
      have positive : 0 < name.length := by
        rw [Nat.pos_iff_ne_zero, Ne, String.length_eq_zero_iff]
        exact isToken.nonempty
      rw [List.forall_mem_cons, List.length_append, String.length_toList]
      refine ⟨by dsimp only; omega, fun token member => ?_⟩
      have bound := inductionHypothesis token member
      omega

end Scanned

/-- Every text is scanned to its end, or up to a character that begins nothing. -/
theorem exists_scanned (position : Nat) (chars : List Char) : ∃ tokens rest,
    Scanned position chars tokens rest ∧
      (rest = [] ∨ ∃ c others, rest = c :: others ∧ StartsNothing c) := by
  fun_induction lexFrom position chars with
  | case1 position => exact ⟨[], [], .stop position [], Or.inl rfl⟩
  | case2 position c rest isBlank inductionHypothesis =>
      obtain ⟨tokens, left, scanned, ends⟩ := inductionHypothesis
      exact ⟨tokens, left, .blank isBlank scanned, ends⟩
  | case3 position c rest notBlank starts tail inductionHypothesis =>
      obtain ⟨tokens, left, scanned, ends⟩ := inductionHypothesis
      have isToken : IsNameToken (String.ofList (c :: tail)) :=
        ⟨c, tail, String.toList_ofList, starts, fun other member => List.mem_takeWhile_imp member⟩
      have isMaximal : ∀ other ∈ (rest.dropWhile isNamePart).head?, isNamePart other = false := by
        intro other isHead
        have ends := List.head?_dropWhile_not isNamePart rest
        rw [Option.mem_def.1 isHead] at ends
        simpa using ends
      have after : position + 1 + tail.length = position + (String.ofList (c :: tail)).length := by
        rw [String.length_ofList, List.length_cons]
        omega
      have whole : c :: rest = (String.ofList (c :: tail)).toList ++ rest.dropWhile isNamePart := by
        rw [String.toList_ofList, List.cons_append, List.takeWhile_append_dropWhile]
      rw [after] at scanned
      rw [whole]
      exact ⟨_, left, .name isToken isMaximal scanned, ends⟩
  | case4 position c rest notBlank notStart kind isKind inductionHypothesis =>
      obtain ⟨tokens, left, scanned, ends⟩ := inductionHypothesis
      exact ⟨_, left, .mark isKind scanned, ends⟩
  | case5 position c rest notBlank notStart noKind =>
      exact ⟨[], c :: rest, .stop position _, Or.inr ⟨c, rest, rfl, by simpa using notBlank,
        by simpa using notStart, noKind⟩⟩

end RecordGraph

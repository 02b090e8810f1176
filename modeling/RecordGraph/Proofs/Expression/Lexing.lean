import RecordGraph.Proofs.Expression.Trail
import Mathlib.Data.List.TakeWhile

/-!
Contract: the lexing of texts that are put together from parts.

Owns: `IsNameToken`, the kinds of tokens that characters are read as in any surroundings, and the
form of the names that are read.
Does not own: the positions of tokens, and the grammar.

A name is read as long as possible, so what characters are read as depends on what follows them.
They keep their reading if the next character is no part of a name.
-/

namespace RecordGraph

open RecordGraph.Text

/-- Whether a text has the form of a name in an expression. -/
def IsNameToken (name : String) : Prop :=
  ∃ first rest, name.toList = first :: rest ∧ isNameStart first = true ∧
    ∀ c ∈ rest, isNamePart c = true

namespace IsNameToken

variable {name : String}

theorem nonempty (isToken : IsNameToken name) : name ≠ "" := by
  obtain ⟨first, rest, chars, _⟩ := isToken
  rintro rfl
  cases chars

/-- Names in expressions hold no point. -/
theorem isName (isToken : IsNameToken name) : RelationTree.IsName name := by
  refine ⟨isToken.nonempty, fun hasPoint => ?_⟩
  obtain ⟨first, rest, chars, starts, continues⟩ := isToken
  rw [chars, List.mem_cons] at hasPoint
  rcases hasPoint with rfl | inRest
  · exact absurd starts (by decide)
  · exact absurd (continues '.' inRest) (by decide)

end IsNameToken

/-! ## Single tokens -/

section Tokens

variable {position : Nat} {c : Char} {rest : List Char}

/-- Letters stand between the codes of `A` and `z`. -/
theorem toNat_of_isAlpha (isLetter : c.isAlpha = true) : 65 ≤ c.toNat ∧ c.toNat ≤ 122 := by
  have ranges : (decide ('A'.val ≤ c.val ∧ c.val ≤ 'Z'.val) ||
      decide ('a'.val ≤ c.val) && decide (c.val ≤ 'z'.val)) = true := isLetter
  simp only [Bool.or_eq_true, Bool.and_eq_true, decide_eq_true_eq,
    UInt32.le_iff_toNat_le] at ranges
  have upperA : 'A'.val.toNat = 65 := rfl
  have upperZ : 'Z'.val.toNat = 90 := rfl
  have lowerA : 'a'.val.toNat = 97 := rfl
  have lowerZ : 'z'.val.toNat = 122 := rfl
  have code : c.toNat = c.val.toNat := rfl
  omega

theorem isBlank_of_isNameStart (starts : isNameStart c = true) : isBlank c = false := by
  have isAscii : 33 ≤ c.toNat ∧ c.toNat < 128 := by
    simp only [isNameStart, Bool.or_eq_true, beq_iff_eq] at starts
    rcases starts with (isLetter | rfl) | rfl
    · have bounds := toNat_of_isAlpha isLetter
      omega
    · decide
    · decide
  rw [isBlank, if_pos isAscii.2, isAsciiBlank]
  simp only [Bool.or_eq_false_iff, Bool.and_eq_false_iff, beq_eq_false_iff_ne,
    decide_eq_false_iff_not]
  omega

theorem ofPunctuation?_ne_name {name : String} :
    TokenKind.ofPunctuation? c ≠ some (.name name) := by
  unfold TokenKind.ofPunctuation?
  split_ifs <;> simp

theorem lexFrom_blank (isBlank : isBlank c = true) :
    lexFrom position (c :: rest) = lexFrom (position + 1) rest := by
  rw [lexFrom, if_pos isBlank]

theorem lexFrom_punctuation {kind : TokenKind} (notBlank : isBlank c = false)
    (notStart : isNameStart c = false) (isKind : TokenKind.ofPunctuation? c = some kind) :
    lexFrom position (c :: rest) = (lexFrom (position + 1) rest).map (⟨kind, position⟩ :: ·) := by
  rw [lexFrom, notBlank, notStart, if_neg Bool.false_ne_true, if_neg Bool.false_ne_true, isKind]

/-- A name is read up to a character that is no part of one. -/
theorem lexFrom_name {name : String} (isToken : IsNameToken name)
    (ends : ∀ c ∈ rest.head?, isNamePart c = false) :
    lexFrom position (name.toList ++ rest) =
      (lexFrom (position + name.length) rest).map (⟨.name name, position⟩ :: ·) := by
  obtain ⟨first, tail, chars, starts, continues⟩ := isToken
  have taken : rest.takeWhile isNamePart = [] ∧ rest.dropWhile isNamePart = rest := by
    cases rest with
    | nil => exact ⟨rfl, rfl⟩
    | cons c rest => simp [ends c rfl]
  have after : position + name.length = position + 1 + tail.length := by
    rw [← String.length_toList, chars, List.length_cons]
    omega
  rw [after, chars, List.cons_append, lexFrom, isBlank_of_isNameStart starts, starts,
    if_neg Bool.false_ne_true, if_pos rfl]
  dsimp only
  rw [List.takeWhile_append_of_pos continues, List.dropWhile_append_of_pos continues, taken.1,
    taken.2, List.append_nil, ← chars, String.ofList_toList]

/-- Every name that is read has the form of one. -/
theorem isNameToken_of_lexFrom {chars : List Char} {tokens : List Token} {name : String}
    (isLexed : lexFrom position chars = .ok tokens)
    (isName : TokenKind.name name ∈ tokens.map (·.kind)) : IsNameToken name := by
  fun_induction lexFrom position chars generalizing tokens with
  | case1 position =>
      cases isLexed
      cases isName
  | case2 position c rest isBlank inductionHypothesis =>
      exact inductionHypothesis isLexed isName
  | case3 position c rest notBlank starts tail =>
      rename_i inductionHypothesis
      obtain ⟨others, isRest, rfl⟩ := Result.map_eq_ok.1 isLexed
      rw [List.map_cons, List.mem_cons] at isName
      rcases isName with isFirst | isName
      · cases isFirst
        exact ⟨c, _, String.toList_ofList, starts, fun c member => List.mem_takeWhile_imp member⟩
      · exact inductionHypothesis isRest isName
  | case4 position c rest notBlank notStart kind isKind inductionHypothesis =>
      obtain ⟨others, isRest, rfl⟩ := Result.map_eq_ok.1 isLexed
      rw [List.map_cons, List.mem_cons] at isName
      rcases isName with isFirst | isName
      · cases isFirst
        exact absurd isKind ofPunctuation?_ne_name
      · exact inductionHypothesis isRest isName
  | case5 position c rest notBlank notStart noKind =>
      cases isLexed

end Tokens

/-! ## Parts of a text -/

/-- Whether characters are read as tokens of given kinds, whatever follows them that is no part of
a name. -/
def Lexes (chars : List Char) (kinds : List TokenKind) : Prop :=
  ∀ position rest, (∀ c ∈ rest.head?, isNamePart c = false) →
    ∃ tokens next, tokens.map (·.kind) = kinds ∧
      lexFrom position (chars ++ rest) = (lexFrom next rest).map (tokens ++ ·)

namespace Lexes

variable {chars others : List Char} {kinds otherKinds : List TokenKind} {c : Char}

theorem nil : Lexes [] [] := by
  intro position rest _
  refine ⟨[], position, rfl, ?_⟩
  rw [List.nil_append]
  cases lexFrom position rest <;> rfl

theorem name {name : String} (isToken : IsNameToken name) : Lexes name.toList [.name name] := by
  intro position rest ends
  exact ⟨[⟨.name name, position⟩], position + name.length, rfl, lexFrom_name isToken ends⟩

theorem blank (isBlank : isBlank c = true) (lexes : Lexes chars kinds) :
    Lexes (c :: chars) kinds := by
  intro position rest ends
  rw [List.cons_append, lexFrom_blank isBlank]
  exact lexes (position + 1) rest ends

theorem punctuation {kind : TokenKind} (notBlank : isBlank c = false)
    (notStart : isNameStart c = false) (isKind : TokenKind.ofPunctuation? c = some kind)
    (lexes : Lexes chars kinds) : Lexes (c :: chars) (kind :: kinds) := by
  intro position rest ends
  obtain ⟨tokens, next, rfl, isLexed⟩ := lexes (position + 1) rest ends
  refine ⟨⟨kind, position⟩ :: tokens, next, rfl, ?_⟩
  rw [List.cons_append, lexFrom_punctuation notBlank notStart isKind, isLexed]
  cases lexFrom next rest <;> rfl

/-- A part keeps its reading before a part that does not begin with a part of a name. -/
theorem append (lexes : Lexes chars kinds) (lexesOthers : Lexes (c :: others) otherKinds)
    (ends : isNamePart c = false) : Lexes (chars ++ c :: others) (kinds ++ otherKinds) := by
  intro position rest restEnds
  obtain ⟨tokens, middle, rfl, isLexed⟩ :=
    lexes position (c :: others ++ rest) (by simpa using ends)
  obtain ⟨otherTokens, next, rfl, isOthers⟩ := lexesOthers middle rest restEnds
  refine ⟨tokens ++ otherTokens, next, List.map_append, ?_⟩
  rw [List.append_assoc, isLexed, isOthers]
  cases lexFrom next rest with
  | error failure => rfl
  | ok found => exact congrArg Except.ok (List.append_assoc ..).symm

/-- A whole text is read as its characters are. -/
theorem read {text : String} (lexes : Lexes text.toList kinds) :
    ∃ lexed, Lexed.read text = .ok lexed ∧ lexed.tokens.map (·.kind) = kinds := by
  obtain ⟨tokens, next, isKinds, isLexed⟩ := lexes 0 [] (by simp)
  rw [List.append_nil, lexFrom] at isLexed
  refine ⟨⟨tokens, text.toList.length⟩, ?_, isKinds⟩
  unfold Lexed.read
  dsimp only
  rw [isLexed]
  simp [Except.map]

end Lexes

end RecordGraph

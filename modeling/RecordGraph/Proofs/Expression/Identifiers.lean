import RecordGraph.Text.CharClass
import RecordGraph.Proofs.Expression.Scanning

/-!
Contract: what identifiers do not hold.

Owns: that no character of an identifier is a blank or a mark of an expression.
Does not own: whether an identifier is a name in an expression. Not every one is.

Beyond ASCII both classes are given by ranges of codes, and the ranges of blanks lie apart from those
of identifiers.
-/

namespace RecordGraph.Text

/-- Whether the ranges of two lists lie apart. -/
def Ranges.apart (ranges others : List (Nat × Nat)) : Bool :=
  ranges.all fun range => others.all fun other => range.2 < other.1 || other.2 < range.1

theorem inRanges_of_apart {ranges others : List (Nat × Nat)} {code : Nat}
    (apart : Ranges.apart ranges others = true) (inside : inRanges ranges code = true) :
    inRanges others code = false := by
  unfold Ranges.apart at apart
  unfold inRanges at inside ⊢
  simp only [List.all_eq_true, Bool.or_eq_true, decide_eq_true_eq] at apart
  simp only [List.any_eq_true, Bool.and_eq_true, decide_eq_true_eq] at inside
  obtain ⟨range, isRange, above, below⟩ := inside
  rw [List.any_eq_false]
  intro other isOther
  have lieApart := apart range isRange other isOther
  simp only [Bool.and_eq_true, decide_eq_true_eq]
  omega

variable {c : Char}

/-- Letters, digits and the underscore are no blanks. -/
theorem isBlank_of_isAlphanum (isPart : (c.isAlphanum || c == '_') = true) : isBlank c = false := by
  rw [Bool.or_eq_true, Char.isAlphanum, Bool.or_eq_true, beq_iff_eq] at isPart
  rcases isPart with (isLetter | isDigit) | rfl
  · exact isBlank_of_isNameStart (by simp [isNameStart, isLetter])
  · have bounds : 48 ≤ c.toNat ∧ c.toNat ≤ 57 := by
      rw [Char.isDigit, Bool.and_eq_true, decide_eq_true_eq, decide_eq_true_eq] at isDigit
      exact isDigit
    have isAscii : c.toNat < 128 := by omega
    rw [isBlank, if_pos isAscii, isAsciiBlank]
    simp only [Bool.or_eq_false_iff, Bool.and_eq_false_iff, beq_eq_false_iff_ne,
      decide_eq_false_iff_not]
    omega
  · decide

theorem isBlank_of_isIdentifierStart (starts : isIdentifierStart c = true) : isBlank c = false := by
  by_cases isAscii : c.toNat < 128
  · rw [isIdentifierStart, if_pos isAscii] at starts
    refine isBlank_of_isAlphanum ?_
    rw [Bool.or_eq_true] at starts ⊢
    exact starts.imp (by simp +contextual [Char.isAlphanum]) id
  · have apart : Ranges.apart Ranges.identifierStart Ranges.blank = true := by decide +kernel
    rw [isIdentifierStart, if_neg isAscii] at starts
    rw [isBlank, if_neg isAscii]
    exact inRanges_of_apart apart starts

theorem isBlank_of_isIdentifierContinue (continues : isIdentifierContinue c = true) :
    isBlank c = false := by
  by_cases isAscii : c.toNat < 128
  · rw [isIdentifierContinue, if_pos isAscii] at continues
    exact isBlank_of_isAlphanum continues
  · have apart : Ranges.apart Ranges.identifierContinue Ranges.blank = true := by decide +kernel
    rw [isIdentifierContinue, if_neg isAscii] at continues
    rw [isBlank, if_neg isAscii]
    exact inRanges_of_apart apart continues

/-- Characters of identifiers are neither blanks nor marks. -/
theorem plain_of_isIdentifier {name : String} (isIdentifier : isIdentifier name = true) :
    ∀ c ∈ name.toList, isBlank c = false ∧ TokenKind.ofPunctuation? c = none := by
  have notMark : ∀ c : Char, isIdentifierStart c = true ∨ isIdentifierContinue c = true →
      TokenKind.ofPunctuation? c = none := by
    intro c isPart
    rw [Option.eq_none_iff_forall_ne_some]
    intro kind isKind
    rcases mark_of_ofPunctuation? isKind with rfl | rfl | rfl | rfl <;> revert isPart <;> decide
  intro c isChar
  unfold Text.isIdentifier at isIdentifier
  split at isIdentifier
  · cases isIdentifier
  · rename_i first rest chars
    rw [Bool.and_eq_true, List.all_eq_true] at isIdentifier
    rw [chars, List.mem_cons] at isChar
    rcases isChar with rfl | inRest
    · exact ⟨isBlank_of_isIdentifierStart isIdentifier.1, notMark c (Or.inl isIdentifier.1)⟩
    · have continues := isIdentifier.2 c inRest
      exact ⟨isBlank_of_isIdentifierContinue continues, notMark c (Or.inr continues)⟩

end RecordGraph.Text

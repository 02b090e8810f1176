import RecordGraph.Proofs.Expression.Dotted

/-!
Contract: where the tokens of a text stand.

Owns: `Token.StandsIn`, `StrayAt`, `Lexed.Exhausts`, and that a text is read, as the tokens that stand
in it, unless a character of it is astray.
Does not own: which tokens make up an expression.

Whether a token stands at a place is said of the text alone: a mark stands where its character does,
and a name where a run of parts of names begins with a character that can begin one. Tokens that
stand in one text share no place, so the lexer has no choice: what it reads is all that is there.
-/

namespace RecordGraph

open RecordGraph.Text

/-! ## Blanks, marks and parts of names -/

/-- No part of a name is a blank. -/
theorem isBlank_of_isNamePart {c : Char} (isPart : isNamePart c = true) : isBlank c = false := by
  unfold isNamePart isWord at isPart
  rw [Bool.or_eq_true, beq_iff_eq] at isPart
  rcases isPart with isWord | rfl
  · by_cases isAscii : c.toNat < 128
    · rw [if_pos isAscii] at isWord
      exact isBlank_of_isAlphanum isWord
    · have apart : Ranges.apart Ranges.word Ranges.blank = true := by decide +kernel
      rw [if_neg isAscii] at isWord
      rw [isBlank, if_neg isAscii]
      exact inRanges_of_apart apart isWord
  · decide

/-- No mark is a part of a name. -/
theorem isNamePart_of_ofPunctuation? {c : Char} {kind : TokenKind}
    (isKind : TokenKind.ofPunctuation? c = some kind) : isNamePart c = false := by
  rcases mark_of_ofPunctuation? isKind with rfl | rfl | rfl | rfl <;> decide

theorem text_of_ofPunctuation? {c : Char} {kind : TokenKind}
    (isKind : TokenKind.ofPunctuation? c = some kind) : kind.text.toList = [c] := by
  rcases mark_of_ofPunctuation? isKind with rfl | rfl | rfl | rfl <;> cases isKind <;> rfl

theorem length_text_of_ofPunctuation? {c : Char} {kind : TokenKind}
    (isKind : TokenKind.ofPunctuation? c = some kind) : kind.text.length = 1 := by
  rw [← String.length_toList, text_of_ofPunctuation? isKind]
  rfl

theorem TokenKind.name_or_mark (kind : TokenKind) :
    (∃ name, kind = .name name) ∨ ∃ c, TokenKind.ofPunctuation? c = some kind := by
  cases kind with
  | name name => exact Or.inl ⟨name, rfl⟩
  | point => exact Or.inr ⟨'.', rfl⟩
  | comma => exact Or.inr ⟨',', rfl⟩
  | opening => exact Or.inr ⟨'[', rfl⟩
  | closing => exact Or.inr ⟨']', rfl⟩

/-- Whether no name goes on from one text into the next. -/
def Apart (left right : List Char) : Prop :=
  ∀ last ∈ left.getLast?, ∀ first ∈ right.head?, isNamePart last = true → isNamePart first = false

theorem apart_nil (right : List Char) : Apart [] right :=
  fun _ isLast => nomatch isLast

theorem apart_append_singleton {left right : List Char} {c : Char} (noPart : isNamePart c = false) :
    Apart (left ++ [c]) right := by
  intro last isLast _ _ isPart
  rw [List.getLast?_append, List.getLast?_singleton, Option.some_or, Option.mem_some_iff] at isLast
  rw [isLast, isPart] at noPart
  cases noPart

theorem apart_of_head? {left right : List Char} (ends : ∀ c ∈ right.head?, isNamePart c = false) :
    Apart left right :=
  fun _ _ first isFirst _ => ends first isFirst

/-! ## Places of tokens -/

namespace Token

/-- The place after the last character of a token. -/
def stop (token : Token) : Nat :=
  token.position + token.kind.text.length

def Covers (token : Token) (place : Nat) : Prop :=
  token.position ≤ place ∧ place < token.stop

/-- Whether a token stands in a text: its characters are there and, if they are a name, the name is
all of it, neither a beginning nor a later part of a longer run. -/
structure StandsIn (token : Token) (chars : List Char) : Prop where
  spelled : chars.extract token.position token.stop = token.kind.text.toList
  named : ∀ name, token.kind = .name name → IsNameToken name
  begins : ∀ name, token.kind = .name name → ∀ place, place + 1 = token.position →
    ∀ c ∈ chars[place]?, isNamePart c = false
  ends : ∀ name, token.kind = .name name → ∀ c ∈ chars[token.stop]?, isNamePart c = false

namespace StandsIn

variable {token other : Token} {chars : List Char} {name : String} {place : Nat}

theorem getElem?_eq (stands : token.StandsIn chars) (covers : token.Covers place) :
    chars[place]? = token.kind.text.toList[place - token.position]? := by
  obtain ⟨above, below⟩ := covers
  have inside : place - token.position < token.stop - token.position := by omega
  have isPlace : token.position + (place - token.position) = place := by omega
  rw [← stands.spelled, List.extract_eq_take_drop, List.getElem?_take, if_pos inside,
    List.getElem?_drop, isPlace]

/-- Where a mark stands there is its character. -/
theorem mark_at (stands : token.StandsIn chars) {c : Char}
    (isMark : TokenKind.ofPunctuation? c = some token.kind) (covers : token.Covers place) :
    place = token.position ∧ chars[place]? = some c := by
  have isText := text_of_ofPunctuation? isMark
  have isLength := length_text_of_ofPunctuation? isMark
  have isPlace : place = token.position := by
    obtain ⟨above, below⟩ := covers
    unfold stop at below
    omega
  refine ⟨isPlace, ?_⟩
  rw [stands.getElem?_eq covers, isText, isPlace, Nat.sub_self]
  rfl

/-- Where a name stands there are parts of names. -/
theorem part_at (stands : token.StandsIn chars) (isName : token.kind = .name name)
    (covers : token.Covers place) : ∃ c ∈ chars[place]?, isNamePart c = true := by
  have within : place - token.position < token.kind.text.toList.length := by
    obtain ⟨above, below⟩ := covers
    unfold stop at below
    rw [String.length_toList]
    omega
  refine ⟨token.kind.text.toList[place - token.position], ?_, ?_⟩
  · rw [stands.getElem?_eq covers, List.getElem?_eq_getElem within]
    rfl
  · have isChar := List.getElem_mem within
    generalize token.kind.text.toList[place - token.position] = c at isChar
    rw [isName] at isChar
    obtain ⟨first, rest, isChars, starts, continues⟩ := stands.named name isName
    rw [TokenKind.text, isChars, List.mem_cons] at isChar
    rcases isChar with rfl | inRest
    · exact isNamePart_of_isNameStart starts
    · exact continues c inRest

/-- A token has a first character, which can begin one. -/
theorem first_at (stands : token.StandsIn chars) : token.Covers token.position ∧
    ∃ c ∈ chars[token.position]?, isBlank c = false ∧ ¬ StartsNothing c := by
  rcases token.kind.name_or_mark with ⟨name, isName⟩ | ⟨c, isMark⟩
  · obtain ⟨first, rest, isChars, starts, _⟩ := stands.named name isName
    have covers : token.Covers token.position := by
      refine ⟨Nat.le_refl _, ?_⟩
      unfold stop
      rw [isName, TokenKind.text, ← String.length_toList, isChars, List.length_cons]
      omega
    refine ⟨covers, first, ?_, isBlank_of_isNameStart starts, fun nothing => ?_⟩
    · rw [stands.getElem?_eq covers, Nat.sub_self, isName, TokenKind.text, isChars]
      rfl
    · cases starts.symm.trans nothing.2.1
  · have covers : token.Covers token.position := by
      refine ⟨Nat.le_refl _, ?_⟩
      unfold stop
      rw [length_text_of_ofPunctuation? isMark]
      exact Nat.lt_succ_self _
    refine ⟨covers, c, (stands.mark_at isMark covers).2, (plain_of_ofPunctuation? isMark).1,
      fun nothing => ?_⟩
    cases isMark.symm.trans nothing.2.2

/-- Of two names that share a place, neither goes beyond the other. -/
theorem within (stands : token.StandsIn chars) (otherStands : other.StandsIn chars)
    (isName : token.kind = .name name) {name' : String} (isOther : other.kind = .name name')
    (covers : token.Covers place) (otherCovers : other.Covers place) :
    other.position ≤ token.position ∧ token.stop ≤ other.stop := by
  obtain ⟨above, below⟩ := covers
  obtain ⟨otherAbove, otherBelow⟩ := otherCovers
  constructor
  · by_contra before
    have isBefore : other.position - 1 + 1 = other.position := by omega
    have coversBefore : token.Covers (other.position - 1) := ⟨by omega, by omega⟩
    obtain ⟨c, isChar, isPart⟩ := stands.part_at isName coversBefore
    cases isPart.symm.trans (otherStands.begins name' isOther _ isBefore c isChar)
  · by_contra beyond
    have coversStop : token.Covers other.stop := ⟨by omega, by omega⟩
    obtain ⟨c, isChar, isPart⟩ := stands.part_at isName coversStop
    cases isPart.symm.trans (otherStands.ends name' isOther c isChar)

/-- Tokens that share a place are one. -/
theorem unique (stands : token.StandsIn chars) (otherStands : other.StandsIn chars)
    (covers : token.Covers place) (otherCovers : other.Covers place) : token = other := by
  rcases token with ⟨kind, position⟩
  rcases other with ⟨kind', position'⟩
  rcases kind.name_or_mark with ⟨name, rfl⟩ | ⟨c, isMark⟩
  · rcases kind'.name_or_mark with ⟨name', rfl⟩ | ⟨c, isMark⟩
    · have there := stands.within otherStands rfl rfl covers otherCovers
      have back := otherStands.within stands rfl rfl otherCovers covers
      have samePosition : position = position' := Nat.le_antisymm back.1 there.1
      have sameStop := Nat.le_antisymm there.2 back.2
      have spelled := stands.spelled
      rw [sameStop] at spelled
      subst samePosition
      have sameName : name.toList = name'.toList := spelled.symm.trans otherStands.spelled
      rw [String.toList_inj.1 sameName]
    · obtain ⟨c', isChar, isPart⟩ := stands.part_at rfl covers
      have isMarkChar := (otherStands.mark_at isMark otherCovers).2
      cases Option.some.inj (isMarkChar.symm.trans isChar)
      cases isPart.symm.trans (isNamePart_of_ofPunctuation? isMark)
  · obtain ⟨isPlace, isChar⟩ := stands.mark_at isMark covers
    rcases kind'.name_or_mark with ⟨name', rfl⟩ | ⟨c', isMark'⟩
    · obtain ⟨c', isChar', isPart⟩ := otherStands.part_at rfl otherCovers
      cases Option.some.inj (isChar.symm.trans isChar')
      cases isPart.symm.trans (isNamePart_of_ofPunctuation? isMark)
    · obtain ⟨isPlace', isChar'⟩ := otherStands.mark_at isMark' otherCovers
      cases Option.some.inj (isChar.symm.trans isChar')
      cases isMark.symm.trans isMark'
      dsimp only at isPlace isPlace'
      rw [← isPlace, ← isPlace']

end StandsIn

/-- What stands between two texts stands in all of it, unless it is a name that one of them goes
on. -/
theorem standsIn_append (kind : TokenKind) {before after : List Char}
    (named : ∀ name, kind = .name name → IsNameToken name)
    (begins : ∀ name, kind = .name name → Apart before name.toList)
    (ends : ∀ name, kind = .name name → ∀ c ∈ after.head?, isNamePart c = false) :
    (⟨kind, before.length⟩ : Token).StandsIn (before ++ (kind.text.toList ++ after)) where
  spelled := by
    have isLength : (⟨kind, before.length⟩ : Token).stop - before.length =
        kind.text.toList.length := by
      rw [stop, Nat.add_sub_cancel_left, String.length_toList]
    rw [List.extract_eq_take_drop, isLength, List.drop_left, List.take_left]
  named := named
  begins := by
    rintro name rfl place isBefore c isChar
    obtain ⟨first, rest, isChars, starts, _⟩ := named name rfl
    have isLast : c ∈ before.getLast? := by
      dsimp only at isBefore
      rw [List.getElem?_append_left (by omega)] at isChar
      rwa [List.getLast?_eq_getElem?, ← isBefore, Nat.add_sub_cancel]
    have apart := begins name rfl c isLast first (by rw [isChars]; rfl)
    have isPart := isNamePart_of_isNameStart starts
    rw [← Bool.not_eq_true]
    intro lastIsPart
    cases isPart.symm.trans (apart lastIsPart)
  ends := by
    rintro name rfl c isChar
    refine ends name rfl c ?_
    have isStop : (⟨.name name, before.length⟩ : Token).stop =
        before.length + name.toList.length := by
      rw [stop, TokenKind.text, String.length_toList]
    rw [isStop, List.getElem?_append_right (Nat.le_add_right ..), Nat.add_sub_cancel_left,
      TokenKind.text, List.getElem?_append_right (Nat.le_refl _), Nat.sub_self] at isChar
    rwa [List.head?_eq_getElem?]

end Token

/-! ## What is scanned -/

namespace Scanned

variable {position : Nat} {chars rest : List Char} {tokens : List Token}

/-- What is scanned stands in the text, if no name goes on into it. -/
theorem standsIn (scanned : Scanned position chars tokens rest) : ∀ (before : List Char),
    before.length = position → Apart before chars →
      ∀ token ∈ tokens, token.StandsIn (before ++ chars) := by
  induction scanned with
  | stop position rest => exact fun _ _ _ _ member => absurd member List.not_mem_nil
  | @blank position c chars rest tokens isBlank _ inductionHypothesis =>
      rintro before rfl _
      have noPart : isNamePart c = false := by
        rw [← Bool.not_eq_true]
        intro isPart
        cases isBlank.symm.trans (isBlank_of_isNamePart isPart)
      rw [List.append_cons]
      exact inductionHypothesis _ (by simp) (apart_append_singleton noPart)
  | @mark position c chars rest tokens kind isKind _ inductionHypothesis =>
      rintro before rfl _
      have noPart := isNamePart_of_ofPunctuation? isKind
      have noName : ∀ name, kind ≠ .name name := by
        rintro name rfl
        exact ofPunctuation?_ne_name isKind
      have isSplit : c :: chars = kind.text.toList ++ chars := by
        rw [text_of_ofPunctuation? isKind]
        rfl
      rw [List.forall_mem_cons]
      constructor
      · rw [isSplit]
        exact Token.standsIn_append kind (fun name isName => absurd isName (noName name))
          (fun name isName => absurd isName (noName name))
          (fun name isName => absurd isName (noName name))
      · rw [List.append_cons]
        exact inductionHypothesis _ (by simp) (apart_append_singleton noPart)
  | @name position name chars rest tokens isToken ends _ inductionHypothesis =>
      rintro before rfl apart
      obtain ⟨first, others, isChars, _⟩ := id isToken
      rw [List.forall_mem_cons]
      constructor
      · refine Token.standsIn_append (.name name) ?_ ?_ ?_
        · rintro _ ⟨⟩
          exact isToken
        · rintro _ ⟨⟩ last isLast head isHead isPart
          refine apart last isLast head ?_ isPart
          rw [isChars] at isHead ⊢
          exact isHead
        · rintro _ ⟨⟩
          exact ends
      · rw [← List.append_assoc]
        exact inductionHypothesis _ (by rw [List.length_append, String.length_toList])
          (apart_of_head? ends)

/-- Tokens stand between the beginning and the rest. -/
theorem bounds (scanned : Scanned position chars tokens rest) :
    ∀ token ∈ tokens, position ≤ token.position ∧
      token.stop + rest.length ≤ position + chars.length := by
  induction scanned with
  | stop position rest => exact fun _ member => absurd member List.not_mem_nil
  | blank _ _ inductionHypothesis =>
      intro token member
      have bounds := inductionHypothesis token member
      rw [List.length_cons]
      omega
  | @mark position c chars rest tokens kind isKind scanned inductionHypothesis =>
      have shorter := scanned.isSuffix.length_le
      have isLength := length_text_of_ofPunctuation? isKind
      rw [List.forall_mem_cons, List.length_cons, Token.stop]
      refine ⟨⟨Nat.le_refl _, by dsimp only; omega⟩, fun token member => ?_⟩
      have bounds := inductionHypothesis token member
      omega
  | @name position name chars rest tokens _ _ scanned inductionHypothesis =>
      have shorter := scanned.isSuffix.length_le
      rw [List.forall_mem_cons, List.length_append, String.length_toList, Token.stop]
      refine ⟨⟨Nat.le_refl _, by dsimp only [TokenKind.text]; omega⟩, fun token member => ?_⟩
      have bounds := inductionHypothesis token member
      omega

/-- Each token stops before the next one. -/
theorem ordered (scanned : Scanned position chars tokens rest) :
    tokens.Pairwise fun left right => left.stop ≤ right.position := by
  induction scanned with
  | stop position rest => exact List.Pairwise.nil
  | blank _ _ inductionHypothesis => exact inductionHypothesis
  | @mark position c chars rest tokens kind isKind scanned inductionHypothesis =>
      have isLength := length_text_of_ofPunctuation? isKind
      refine List.pairwise_cons.2 ⟨fun token member => ?_, inductionHypothesis⟩
      have bounds := scanned.bounds token member
      rw [Token.stop, isLength]
      exact bounds.1
  | name _ _ scanned inductionHypothesis =>
      exact List.pairwise_cons.2
        ⟨fun token member => (scanned.bounds token member).1, inductionHypothesis⟩

/-- Up to the rest there are tokens and blanks. -/
theorem blank_or_covered (scanned : Scanned position chars tokens rest) :
    ∀ {place : Nat} {c : Char}, chars[place]? = some c → place + rest.length < chars.length →
      isBlank c = true ∨ ∃ token ∈ tokens, token.Covers (position + place) := by
  induction scanned with
  | stop position rest =>
      intro place c _ inside
      omega
  | @blank position c chars rest tokens isBlank _ inductionHypothesis =>
      intro place other isChar inside
      cases place with
      | zero =>
          cases isChar
          exact Or.inl isBlank
      | succ place =>
          rw [List.length_cons] at inside
          have isPlace : position + (place + 1) = position + 1 + place := by omega
          rw [isPlace]
          exact inductionHypothesis isChar (by omega)
  | @mark position c chars rest tokens kind isKind _ inductionHypothesis =>
      intro place other isChar inside
      simp only [List.exists_mem_cons_iff]
      cases place with
      | zero =>
          refine Or.inr (Or.inl ⟨Nat.le_refl _, ?_⟩)
          rw [Token.stop, length_text_of_ofPunctuation? isKind]
          exact Nat.lt_succ_self _
      | succ place =>
          rw [List.length_cons] at inside
          have isPlace : position + (place + 1) = position + 1 + place := by omega
          rw [isPlace]
          exact (inductionHypothesis isChar (by omega)).imp id Or.inr
  | @name position name chars rest tokens _ _ _ inductionHypothesis =>
      intro place other isChar inside
      simp only [List.exists_mem_cons_iff]
      by_cases within : place < name.toList.length
      · refine Or.inr (Or.inl ⟨Nat.le_add_right .., ?_⟩)
        rw [String.length_toList] at within
        dsimp only [Token.stop, TokenKind.text]
        omega
      · rw [List.length_append] at inside
        rw [List.getElem?_append_right (by omega)] at isChar
        have isPlace : position + place =
            position + name.length + (place - name.toList.length) := by
          rw [String.length_toList] at within ⊢
          omega
        rw [isPlace]
        exact (inductionHypothesis isChar (by omega)).imp id Or.inr

end Scanned

/-! ## What is read -/

/-- The tokens of a text and, as the last entry, its end, which is of no kind. -/
def Lexed.entries (lexed : Lexed) : List (Option TokenKind × Nat) :=
  lexed.tokens.map (fun token => (some token.kind, token.position)) ++ [(none, lexed.length)]

/-- Whether tokens are all that a text consists of. -/
structure Lexed.Exhausts (lexed : Lexed) (text : String) : Prop where
  /-- The last entry, and no other, is the end, which is where the text ends. -/
  ending : ∃ entries, lexed.entries = entries ++ [(none, text.length)] ∧
    ∀ entry ∈ entries, entry.1 ≠ none
  standing : ∀ token, token ∈ lexed.tokens ↔ token.StandsIn text.toList
  ordered : lexed.tokens.Pairwise fun left right => left.stop ≤ right.position
  blank : ∀ place c, text.toList[place]? = some c → (∀ token ∈ lexed.tokens, ¬ token.Covers place) →
    isBlank c = true

/-- Whether a character stands outside of all tokens and is neither a blank nor the beginning of a
token. -/
def StrayAt (chars : List Char) (place : Nat) : Prop :=
  ∃ c ∈ chars[place]?, StartsNothing c ∧
    ∀ token : Token, token.StandsIn chars → ¬ token.Covers place

/-- A text that is scanned to its end consists of its tokens. -/
theorem Scanned.exhausts {text : String} {tokens : List Token}
    (scanned : Scanned 0 text.toList tokens []) : Lexed.Exhausts ⟨tokens, text.length⟩ text := by
  have stands : ∀ token ∈ tokens, token.StandsIn text.toList :=
    scanned.standsIn [] rfl (apart_nil _)
  have covered : ∀ {place : Nat} {c : Char}, text.toList[place]? = some c → isBlank c = false →
      ∃ token ∈ tokens, token.Covers place := by
    intro place c isChar notBlank
    have inside : place < text.toList.length := (List.getElem?_eq_some_iff.1 isChar).1
    rcases scanned.blank_or_covered isChar inside with isBlank | ⟨token, isToken, covers⟩
    · cases isBlank.symm.trans notBlank
    · rw [Nat.zero_add] at covers
      exact ⟨token, isToken, covers⟩
  refine ⟨⟨_, rfl, ?_⟩, fun token => ⟨stands token, fun tokenStands => ?_⟩, scanned.ordered, ?_⟩
  · rw [List.forall_mem_map]
    exact fun token _ => Option.some_ne_none _
  · obtain ⟨covers, c, isChar, notBlank, _⟩ := tokenStands.first_at
    obtain ⟨other, isOther, otherCovers⟩ := covered isChar notBlank
    rw [tokenStands.unique (stands other isOther) covers otherCovers]
    exact isOther
  · intro place c isChar uncovered
    rw [← Bool.not_eq_false]
    intro notBlank
    obtain ⟨token, isToken, covers⟩ := covered isChar notBlank
    exact uncovered token isToken covers

theorem Scanned.getElem?_stop {chars rest : List Char} {tokens : List Token} {c : Char}
    (scanned : Scanned 0 chars tokens (c :: rest)) :
    chars[chars.length - (c :: rest).length]? = some c := by
  obtain ⟨before, rfl⟩ := scanned.isSuffix
  rw [List.length_append, Nat.add_sub_cancel, List.getElem?_append_right (Nat.le_refl _),
    Nat.sub_self]
  rfl

/-- The character that a scan stops at is the first one that is astray. -/
theorem Scanned.strayAt_stop {chars rest : List Char} {tokens : List Token} {c : Char}
    (scanned : Scanned 0 chars tokens (c :: rest)) (nothing : StartsNothing c) :
    StrayAt chars (chars.length - (c :: rest).length) ∧
      ∀ place < chars.length - (c :: rest).length, ¬ StrayAt chars place := by
  have stands : ∀ token ∈ tokens, token.StandsIn chars :=
    scanned.standsIn [] rfl (apart_nil _)
  have shorter := scanned.isSuffix.length_le
  have isStop := scanned.getElem?_stop
  generalize isPlace : chars.length - (c :: rest).length = place at isStop ⊢
  constructor
  · refine ⟨c, isStop, nothing, fun token tokenStands covers => ?_⟩
    rcases token.kind.name_or_mark with ⟨name, isName⟩ | ⟨mark, isMark⟩
    · obtain ⟨firstCovers, first, isFirst, _, starts⟩ := tokenStands.first_at
      have later : token.position ≠ place := by
        rintro rfl
        cases Option.some.inj (isFirst.symm.trans isStop)
        exact starts nothing
      -- The name would have begun before the scan stopped, so it would have been scanned whole.
      obtain ⟨above, below⟩ := covers
      have coversBefore : token.Covers (place - 1) := ⟨by omega, by omega⟩
      obtain ⟨part, isChar, isPart⟩ := tokenStands.part_at isName coversBefore
      rcases scanned.blank_or_covered isChar (by omega) with isBlank | ⟨other, isOther, covers⟩
      · cases isBlank.symm.trans (isBlank_of_isNamePart isPart)
      · rw [Nat.zero_add] at covers
        have same := tokenStands.unique (stands other isOther) coversBefore covers
        have bounds := scanned.bounds other isOther
        rw [← same] at bounds
        omega
    · cases Option.some.inj ((tokenStands.mark_at isMark covers).2.symm.trans isStop)
      cases isMark.symm.trans nothing.2.2
  · rintro earlier before ⟨other, isChar, notBlank, uncovered⟩
    rcases scanned.blank_or_covered isChar (by omega) with isBlank | ⟨token, isToken, covers⟩
    · cases isBlank.symm.trans notBlank.1
    · rw [Nat.zero_add] at covers
      exact uncovered token (stands token isToken) covers

namespace Lexed

variable {text : String}

/-- A text is read, or refused at a character that begins nothing. -/
theorem read_cases (text : String) :
    (∃ tokens, Scanned 0 text.toList tokens [] ∧ Lexed.read text = .ok ⟨tokens, text.length⟩) ∨
      ∃ tokens c rest, Scanned 0 text.toList tokens (c :: rest) ∧ StartsNothing c ∧
        Lexed.read text = .error (.syntaxError text (text.length - (c :: rest).length)
          ("unexpected character " ++ quote (String.singleton c))) := by
  obtain ⟨tokens, rest, scanned, ends⟩ := exists_scanned 0 text.toList
  rcases ends with rfl | ⟨c, others, rfl, nothing⟩
  · refine Or.inl ⟨tokens, scanned, ?_⟩
    rw [Lexed.read, scanned.lexFrom_eq_ok, String.length_toList]
  · refine Or.inr ⟨tokens, c, others, scanned, nothing, ?_⟩
    rw [Lexed.read, scanned.lexFrom_eq_error nothing, Nat.zero_add, String.length_toList]

/-- What is read is all that a text consists of. -/
theorem exhausts_of_read {lexed : Lexed} (isRead : Lexed.read text = .ok lexed) :
    lexed.Exhausts text := by
  rcases read_cases text with ⟨tokens, scanned, isOk⟩ | ⟨tokens, c, rest, _, _, isError⟩
  · cases isOk.symm.trans isRead
    exact scanned.exhausts
  · cases isError.symm.trans isRead

/-- A text that consists of tokens has nothing astray. -/
theorem Exhausts.not_strayAt {lexed : Lexed} (exhausts : lexed.Exhausts text) (place : Nat) :
    ¬ StrayAt text.toList place := by
  rintro ⟨c, isChar, nothing, uncovered⟩
  have isBlank := exhausts.blank place c isChar fun token isToken =>
    uncovered token ((exhausts.standing token).1 isToken)
  cases isBlank.symm.trans nothing.1

/-- A text is refused exactly at its first character that is astray. -/
theorem read_eq_error_iff {error : Error} : Lexed.read text = .error error ↔
    ∃ place, StrayAt text.toList place ∧ (∀ earlier < place, ¬ StrayAt text.toList earlier) ∧
      ∃ c ∈ text.toList[place]?, error =
        .syntaxError text place ("unexpected character " ++ quote (String.singleton c)) := by
  rcases read_cases text with ⟨tokens, scanned, isOk⟩ | ⟨tokens, c, rest, scanned, nothing, isError⟩
  · refine iff_of_false (fun refused => ?_) ?_
    · cases isOk.symm.trans refused
    · rintro ⟨place, stray, _⟩
      exact scanned.exhausts.not_strayAt place stray
  · obtain ⟨stray, first⟩ := scanned.strayAt_stop nothing
    have isStop := scanned.getElem?_stop
    rw [String.length_toList] at stray first isStop
    constructor
    · intro refused
      cases isError.symm.trans refused
      exact ⟨_, stray, first, c, isStop, rfl⟩
    · rintro ⟨place, otherStray, otherFirst, c', isChar, rfl⟩
      have samePlace : place = text.length - (c :: rest).length := by
        rcases Nat.lt_trichotomy place (text.length - (c :: rest).length) with before | same | after
        · exact absurd otherStray (first _ before)
        · exact same
        · exact absurd stray (otherFirst _ after)
      subst samePlace
      cases Option.some.inj (isChar.symm.trans isStop)
      exact isError

end Lexed

end RecordGraph

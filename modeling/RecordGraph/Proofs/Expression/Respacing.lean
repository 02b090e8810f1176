import RecordGraph.Proofs.Expression.Spans

/-!
Contract: blanks between tokens.

Owns: how scans of texts are put together and taken apart, `Lexed.Between`, `Lexed.respaced`, and
that other blanks between two tokens move the tokens after them and change nothing else.
Does not own: what tokens are read as.

A scan can be cut where no name goes on. A name goes on only inside of a token, and of the tokens at
both sides of a gap, one of which is a mark, at most one ends or begins with a part of a name. So
the text before the gap, the gap and the text after it are scanned apart from each other.
-/

namespace RecordGraph

open RecordGraph.Text

/-! ## Blanks -/

section Blanks

variable {left right blanks : List Char}

theorem isNamePart_of_isBlank {c : Char} (isBlank : isBlank c = true) : isNamePart c = false := by
  rw [← Bool.not_eq_true]
  intro isPart
  cases isBlank.symm.trans (isBlank_of_isNamePart isPart)

/-- No name goes on after blanks. -/
theorem apart_of_blanks (areBlank : ∀ c ∈ blanks, isBlank c = true) : Apart blanks right := by
  intro last isLast _ _ isPart
  cases isPart.symm.trans (isNamePart_of_isBlank (areBlank last (List.mem_of_getLast? isLast)))

/-- Blanks between two texts do not join names. -/
theorem apart_append_of_blanks (areBlank : ∀ c ∈ blanks, isBlank c = true)
    (apart : Apart left right) : Apart left (blanks ++ right) := by
  cases blanks with
  | nil => exact apart
  | cons c rest =>
      refine apart_of_head? fun first isFirst => ?_
      cases isFirst
      exact isNamePart_of_isBlank (areBlank c (List.mem_cons_self ..))

end Blanks

/-! ## Scans of parts -/

/-- A token of a text that begins at another position. -/
def Token.moved (before after : Nat) (token : Token) : Token :=
  ⟨token.kind, token.position - before + after⟩

namespace Scanned

variable {position : Nat} {chars left right rest : List Char} {tokens : List Token}

/-- What is scanned to its end is scanned as one list of tokens. -/
theorem unique {others : List Token} (scanned : Scanned position chars tokens [])
    (again : Scanned position chars others []) : tokens = others :=
  Except.ok.inj (scanned.lexFrom_eq_ok.symm.trans again.lexFrom_eq_ok)

/-- A text that goes on is scanned in the same way, unless its last name goes on. -/
theorem append_right (scanned : Scanned position left tokens rest) (apart : Apart left right) :
    Scanned position (left ++ right) tokens (rest ++ right) := by
  have later : ∀ (before : List Char) {after : List Char}, Apart (before ++ after) right →
      Apart after right := by
    intro before after apart last isLast
    refine apart last ?_
    rw [List.getLast?_append, Option.mem_def.1 isLast]
    rfl
  induction scanned with
  | stop position rest => exact .stop position _
  | blank isBlank _ inductionHypothesis =>
      exact .blank isBlank (inductionHypothesis (later [_] apart))
  | mark isKind _ inductionHypothesis =>
      exact .mark isKind (inductionHypothesis (later [_] apart))
  | @name position name chars rest tokens isToken ends _ inductionHypothesis =>
      rw [List.append_assoc]
      refine .name isToken ?_ (inductionHypothesis (later _ apart))
      cases chars with
      | cons c chars => exact ends
      | nil =>
          obtain ⟨first, others, isChars, starts, continues⟩ := isToken
          obtain ⟨last, isLast⟩ : ∃ last, name.toList.getLast? = some last := by
            rw [isChars]
            exact ⟨_, List.getLast?_cons ..⟩
          have isPart : isNamePart last = true := by
            have isChar := List.mem_of_getLast? isLast
            rw [isChars, List.mem_cons] at isChar
            rcases isChar with rfl | inRest
            · exact isNamePart_of_isNameStart starts
            · exact continues last inRest
          rw [List.append_nil] at apart
          exact fun c isFirst => apart last isLast c isFirst isPart

/-- A scan goes on where it has stopped. -/
theorem trans {later : List Token} {last : List Char}
    (scanned : Scanned position chars tokens rest) {next : Nat}
    (isNext : next + rest.length = position + chars.length)
    (goesOn : Scanned next rest later last) :
    Scanned position chars (tokens ++ later) last := by
  induction scanned with
  | stop position rest =>
      obtain rfl : next = position := by omega
      exact goesOn
  | blank isBlank _ inductionHypothesis =>
      rw [List.length_cons] at isNext
      exact .blank isBlank (inductionHypothesis (by omega) goesOn)
  | mark isKind _ inductionHypothesis =>
      rw [List.length_cons] at isNext
      exact .mark isKind (inductionHypothesis (by omega) goesOn)
  | name isToken ends _ inductionHypothesis =>
      rw [List.length_append, String.length_toList] at isNext
      exact .name isToken ends (inductionHypothesis (by omega) goesOn)

/-- Two texts without a name that goes on are scanned one after the other. -/
theorem append {later : List Token} (scanned : Scanned position left tokens [])
    (goesOn : Scanned (position + left.length) right later []) (apart : Apart left right) :
    Scanned position (left ++ right) (tokens ++ later) [] :=
  (scanned.append_right apart).trans (by rw [List.nil_append, List.length_append]; omega) goesOn

/-- A scan can be cut where no name goes on. -/
theorem cut (scanned : Scanned position (left ++ right) tokens []) (apart : Apart left right) :
    ∃ first later, tokens = first ++ later ∧ Scanned position left first [] ∧
      Scanned (position + left.length) right later [] := by
  obtain ⟨first, rest, scannedLeft, ends⟩ := exists_scanned position left
  rcases ends with rfl | ⟨c, others, rfl, nothing⟩
  · have scannedFirst := scannedLeft.append_right apart
    have isNext : position + left.length + right.length = position + (left ++ right).length := by
      rw [List.length_append]
      omega
    obtain ⟨later, rest, scannedRight, ends⟩ := exists_scanned (position + left.length) right
    rcases ends with rfl | ⟨c, others, rfl, nothing⟩
    · exact ⟨first, later, scanned.unique (scannedLeft.append scannedRight apart), scannedLeft,
        scannedRight⟩
    · have stuck := (scannedFirst.trans isNext scannedRight).lexFrom_eq_error nothing
      cases scanned.lexFrom_eq_ok.symm.trans stuck
  · have stuck := (scannedLeft.append_right apart).lexFrom_eq_error nothing
    cases scanned.lexFrom_eq_ok.symm.trans stuck

theorem of_blanks {blanks : List Char} (areBlank : ∀ c ∈ blanks, isBlank c = true) :
    Scanned position blanks [] [] := by
  induction blanks generalizing position with
  | nil => exact .stop position []
  | cons c rest inductionHypothesis =>
      rw [List.forall_mem_cons] at areBlank
      exact .blank areBlank.1 (inductionHypothesis areBlank.2)

/-- A text is scanned in the same way wherever it begins. -/
theorem moved (scanned : Scanned position chars tokens rest) :
    ∀ other : Nat, Scanned other chars (tokens.map (Token.moved position other)) rest := by
  have onward : ∀ {position length : Nat} {chars rest : List Char} {tokens : List Token},
      Scanned (position + length) chars tokens rest → ∀ other : Nat,
        tokens.map (Token.moved (position + length) (other + length)) =
          tokens.map (Token.moved position other) := by
    intro position length chars rest tokens scanned other
    refine List.map_congr_left fun token isToken => ?_
    have bounds := scanned.bounds token isToken
    simp only [Token.moved, Token.mk.injEq, true_and]
    omega
  have here : ∀ (kind : TokenKind) (position other : Nat),
      Token.moved position other ⟨kind, position⟩ = ⟨kind, other⟩ := by
    intro kind position other
    rw [Token.moved, Nat.sub_self, Nat.zero_add]
  induction scanned with
  | stop position rest => exact fun other => .stop other rest
  | blank isBlank scanned inductionHypothesis =>
      intro other
      rw [← onward scanned other]
      exact .blank isBlank (inductionHypothesis (other + 1))
  | mark isKind scanned inductionHypothesis =>
      intro other
      rw [List.map_cons, here, ← onward scanned other]
      exact .mark isKind (inductionHypothesis (other + 1))
  | name isToken ends scanned inductionHypothesis =>
      intro other
      rw [List.map_cons, here, ← onward scanned other]
      exact .name isToken ends (inductionHypothesis _)

end Scanned

/-! ## Gaps -/

def Token.IsMark (token : Token) : Prop :=
  ∀ name, token.kind ≠ .name name

namespace Lexed

/-- Whether a stretch of a text lies between two neighbours among its tokens and its end, at least
one of which is a mark. -/
def Between (lexed : Lexed) (start stop : Nat) : Prop :=
  ∃ before first after, lexed.tokens = before ++ first :: after ∧ first.stop ≤ start ∧
    (∀ second ∈ after.head?, stop ≤ second.position) ∧
      (first.IsMark ∨ ∃ second ∈ after.head?, second.IsMark)

/-- The same tokens in a text that has become longer or shorter from a place on: there, what was of
one length is of another. -/
def respaced (lexed : Lexed) (start old new : Nat) : Lexed :=
  let place (position : Nat) := if position < start then position else position - old + new
  ⟨lexed.tokens.map fun token => ⟨token.kind, place token.position⟩, place lexed.length⟩

theorem kinds_respaced (lexed : Lexed) (start old new : Nat) :
    (lexed.respaced start old new).tokens.map (·.kind) = lexed.tokens.map (·.kind) := by
  rw [respaced, List.map_map]
  rfl

section Gaps

variable {text : String} {lexed : Lexed} {left gap right : List Char}

/-- Between two neighbours there is no other token. -/
theorem Exhausts.uncovered (exhausts : lexed.Exhausts text) {before after : List Token}
    {first : Token} (isSplit : lexed.tokens = before ++ first :: after) {place : Nat}
    (isBehind : first.stop ≤ place) (isAhead : ∀ second ∈ after.head?, place < second.position) :
    ∀ token ∈ lexed.tokens, ¬ token.Covers place := by
  rintro token isToken ⟨above, below⟩
  have ordered := exhausts.ordered
  rw [isSplit, List.pairwise_append, List.pairwise_cons] at ordered
  obtain ⟨_, ⟨_, afterOrdered⟩, beforeOrdered⟩ := ordered
  rw [isSplit, List.mem_append, List.mem_cons] at isToken
  rcases isToken with isBefore | rfl | isAfter
  · have earlier := beforeOrdered token isBefore first (List.mem_cons_self ..)
    unfold Token.stop at isBehind
    omega
  · omega
  · cases after with
    | nil => exact absurd isAfter List.not_mem_nil
    | cons second others =>
        have isLater := isAhead second rfl
        rcases List.mem_cons.1 isAfter with rfl | isOther
        · omega
        · have secondStops := (List.pairwise_cons.1 afterOrdered).1 token isOther
          unfold Token.stop at secondStops
          omega

/-- Between two neighbours there are only blanks. -/
theorem Exhausts.blank_of_between (exhausts : lexed.Exhausts text)
    (isText : text.toList = left ++ (gap ++ right))
    (between : lexed.Between left.length (left.length + gap.length)) :
    ∀ c ∈ gap, isBlank c = true := by
  intro c isChar
  obtain ⟨before, first, after, isSplit, isBehind, isAhead, _⟩ := between
  obtain ⟨offset, inside, isOffset⟩ := List.mem_iff_getElem.1 isChar
  refine exhausts.blank (left.length + offset) c ?_ (exhausts.uncovered isSplit (by omega) ?_)
  · rw [isText, List.getElem?_append_right (Nat.le_add_right ..), Nat.add_sub_cancel_left,
      List.getElem?_append_left inside, List.getElem?_eq_getElem inside, isOffset]
  · intro second isSecond
    have isLater := isAhead second isSecond
    omega

/-- At one side of the gap between two neighbours there is a mark or a blank. -/
theorem Exhausts.apart_of_between (exhausts : lexed.Exhausts text)
    (isText : text.toList = left ++ (gap ++ right))
    (between : lexed.Between left.length (left.length + gap.length)) : Apart left right := by
  intro last isLast next isNext lastIsPart
  rw [← Bool.not_eq_true]
  intro nextIsPart
  obtain ⟨before, first, after, isSplit, isBehind, isAhead, isMark⟩ := between
  -- A part of a name beside the gap is no blank, so it belongs to the neighbour at its side.
  have nonempty : 0 < left.length :=
    List.length_pos_of_mem (List.mem_of_getLast? isLast)
  have lastIsChar : text.toList[left.length - 1]? = some last := by
    rw [isText, List.getElem?_append_left (by omega), ← List.getLast?_eq_getElem?]
    exact isLast
  have nextIsChar : text.toList[left.length + gap.length]? = some next := by
    rw [isText, List.getElem?_append_right (Nat.le_add_right ..), Nat.add_sub_cancel_left,
      List.getElem?_append_right (Nat.le_refl _), Nat.sub_self, ← List.head?_eq_getElem?]
    exact isNext
  have mark_free : ∀ {token : Token} {place : Nat} {c : Char}, token ∈ lexed.tokens →
      token.Covers place → text.toList[place]? = some c → isNamePart c = true → ¬ token.IsMark := by
    intro token place c isToken covers isChar isPart isMark
    rcases token.kind.name_or_mark with ⟨name, isName⟩ | ⟨mark, isKind⟩
    · exact isMark name isName
    · have stands := (exhausts.standing token).1 isToken
      cases Option.some.inj ((stands.mark_at isKind covers).2.symm.trans isChar)
      cases isPart.symm.trans (isNamePart_of_ofPunctuation? isKind)
  have firstIsName : ¬ first.IsMark := by
    refine mark_free (by rw [isSplit]; simp) ?_ lastIsChar lastIsPart
    have reached : left.length - 1 < first.stop := by
      by_contra isBeyond
      have isBlank := exhausts.blank _ last lastIsChar (exhausts.uncovered isSplit (by omega)
        fun second isSecond => by have isLater := isAhead second isSecond; omega)
      cases isBlank.symm.trans (isBlank_of_isNamePart lastIsPart)
    have firstIsToken : first ∈ lexed.tokens := by
      rw [isSplit]
      exact List.mem_append_right _ (List.mem_cons_self ..)
    have stops := ((exhausts.standing first).1 firstIsToken).first_at.1.2
    exact ⟨by omega, reached⟩
  rcases isMark with isMark | ⟨second, isSecond, isMark⟩
  · exact firstIsName isMark
  · have secondIsToken : second ∈ lexed.tokens := by
      rw [isSplit]
      exact List.mem_append_right _ (List.mem_cons_of_mem _ (List.mem_of_mem_head? isSecond))
    have reached : second.position = left.length + gap.length := by
      by_contra isBeyond
      have isBlank := exhausts.blank _ next nextIsChar (exhausts.uncovered isSplit (by omega) ?_)
      · cases isBlank.symm.trans (isBlank_of_isNamePart nextIsPart)
      · intro other isOther
        cases Option.some.inj (isOther.symm.trans isSecond)
        have isLater := isAhead second isSecond
        omega
    refine mark_free secondIsToken ?_ nextIsChar nextIsPart isMark
    rw [← reached]
    exact ((exhausts.standing second).1 secondIsToken).first_at.1

end Gaps

/-- Other blanks between two neighbours move what comes after them. -/
theorem read_respaced {left gap right blanks : String} {lexed : Lexed}
    (isRead : Lexed.read (left ++ gap ++ right) = .ok lexed)
    (between : lexed.Between left.length (left.length + gap.length))
    (areBlank : ∀ c ∈ blanks.toList, isBlank c = true) :
    Lexed.read (left ++ blanks ++ right) =
      .ok (lexed.respaced left.length gap.length blanks.length) := by
  have isText : (left ++ gap ++ right).toList = left.toList ++ (gap.toList ++ right.toList) := by
    rw [String.toList_append, String.toList_append, List.append_assoc]
  have isOther : (left ++ blanks ++ right).toList =
      left.toList ++ (blanks.toList ++ right.toList) := by
    rw [String.toList_append, String.toList_append, List.append_assoc]
  have exhausts := exhausts_of_read isRead
  rw [← String.length_toList, ← String.length_toList] at between
  have apart := exhausts.apart_of_between isText between
  have gapIsBlank := exhausts.blank_of_between isText between
  -- The old text is cut at both ends of the gap.
  obtain ⟨tokens, scanned, isOk⟩ : ∃ tokens, Scanned 0 (left ++ gap ++ right).toList tokens [] ∧
      lexed = ⟨tokens, (left ++ gap ++ right).length⟩ := by
    rcases read_cases (left ++ gap ++ right) with ⟨tokens, scanned, isOk⟩ | ⟨_, _, _, _, _, isError⟩
    · exact ⟨tokens, scanned, Except.ok.inj (isRead.symm.trans isOk)⟩
    · cases isRead.symm.trans isError
  rw [isText] at scanned
  obtain ⟨first, others, rfl, scannedLeft, scannedRest⟩ :=
    scanned.cut (apart_append_of_blanks gapIsBlank apart)
  obtain ⟨middle, later, rfl, scannedGap, scannedRight⟩ :=
    scannedRest.cut (apart_of_blanks gapIsBlank)
  obtain rfl : middle = [] := scannedGap.unique (.of_blanks gapIsBlank)
  -- The parts are put together again around the other blanks.
  have scannedOther := scannedLeft.append ((Scanned.of_blanks areBlank).append
    (scannedRight.moved (0 + left.toList.length + blanks.toList.length)) (apart_of_blanks areBlank))
    (apart_append_of_blanks areBlank apart)
  rw [Lexed.read, isOther, scannedOther.lexFrom_eq_ok]
  refine congrArg Except.ok ?_
  rw [isOk, respaced]
  simp only [List.nil_append, List.map_append, Lexed.mk.injEq, List.length_append,
    String.length_append, String.length_toList]
  refine ⟨congrArg₂ _ ?_ ?_, ?_⟩
  · refine (List.map_id first).symm.trans (List.map_congr_left fun token isToken => ?_)
    have bound := scannedLeft.position_lt token isToken
    rw [List.length_nil, String.length_toList] at bound
    rw [if_pos (by omega)]
    rfl
  · refine List.map_congr_left fun token isToken => ?_
    have bounds := scannedRight.bounds token isToken
    simp only [String.length_toList] at bounds
    rw [Token.moved, if_neg (by omega)]
    simp only [Token.mk.injEq, true_and]
    omega
  · rw [if_neg (by omega)]
    omega

end Lexed

/-- Texts with the same kinds of tokens are expressions of one tree. -/
theorem RelationTree.parse_congr {F : Type} {text other : String} {lexed otherLexed : Lexed}
    (isRead : Lexed.read text = .ok lexed) (otherIsRead : Lexed.read other = .ok otherLexed)
    (sameKinds : lexed.tokens.map (·.kind) = otherLexed.tokens.map (·.kind))
    (tree : RelationTree F) : parse text = .ok tree ↔ parse other = .ok tree := by
  have sameMeaning : ∀ paths, Expresses text paths ↔ Expresses other paths := by
    intro paths
    unfold Expresses
    rw [isRead, otherIsRead]
    simp [sameKinds]
  rw [parse_eq_ok_iff, parse_eq_ok_iff]
  simp only [sameMeaning]

namespace Lexed

/-- What is read of a text is all of it: its end, the marks and the whole names in it, and blanks. A
text is refused exactly if there is something else in it. Other blanks, or none, between two
neighbours of which one is a mark change the places of tokens only, and the tree not at all. -/
theorem read_loses_nothing {F : Type} (text : String) :
    (∀ lexed, Lexed.read text = .ok lexed → lexed.Exhausts text) ∧
    ((∃ error, Lexed.read text = .error error) ↔ ∃ place, StrayAt text.toList place) ∧
    ∀ left gap right blanks lexed, text = left ++ gap ++ right → Lexed.read text = .ok lexed →
      lexed.Between left.length (left.length + gap.length) →
        (∀ c ∈ blanks.toList, isBlank c = true) →
          Lexed.read (left ++ blanks ++ right) =
              .ok (lexed.respaced left.length gap.length blanks.length) ∧
            ∀ tree : RelationTree F,
              RelationTree.parse (left ++ blanks ++ right) = .ok tree ↔
                RelationTree.parse text = .ok tree := by
  refine ⟨fun lexed => exhausts_of_read, ?_, ?_⟩
  · constructor
    · rintro ⟨error, refused⟩
      obtain ⟨place, stray, _⟩ := read_eq_error_iff.1 refused
      exact ⟨place, stray⟩
    · rintro ⟨place, stray⟩
      cases outcome : Lexed.read text with
      | error error => exact ⟨error, rfl⟩
      | ok lexed => exact absurd stray ((exhausts_of_read outcome).not_strayAt place)
  · rintro left gap right blanks lexed rfl isRead between areBlank
    have otherIsRead := read_respaced isRead between areBlank
    exact ⟨otherIsRead, RelationTree.parse_congr otherIsRead isRead (lexed.kinds_respaced ..)⟩

/-- A name and a point with a blank between them, or with a tabulator and a line break. -/
theorem point_respaced :
    ∃ lexed : Lexed, Lexed.read (" a" ++ " " ++ ".  [b]") = .ok lexed ∧
      lexed.Exhausts (" a" ++ " " ++ ".  [b]") ∧ lexed.Between 2 3 ∧
      Lexed.read (" a" ++ "\t\n" ++ ".  [b]") = .ok (lexed.respaced 2 1 2) ∧
      ∀ tree : RelationTree Unit, RelationTree.parse (" a" ++ "\t\n" ++ ".  [b]") = .ok tree ↔
        RelationTree.parse (" a" ++ " " ++ ".  [b]") = .ok tree := by
  have isRead : Lexed.read (" a" ++ " " ++ ".  [b]") = .ok ⟨[⟨.name "a", 1⟩, ⟨.point, 3⟩,
      ⟨.opening, 6⟩, ⟨.name "b", 7⟩, ⟨.closing, 8⟩], 9⟩ := by decide +kernel
  have between : Lexed.Between ⟨[⟨.name "a", 1⟩, ⟨.point, 3⟩, ⟨.opening, 6⟩, ⟨.name "b", 7⟩,
      ⟨.closing, 8⟩], 9⟩ 2 3 := by
    refine ⟨[], _, _, rfl, by decide, ?_, Or.inr ⟨_, rfl, nofun⟩⟩
    rintro second ⟨⟩
    exact Nat.le_refl 3
  have areBlank : ∀ c ∈ "\t\n".toList, isBlank c = true := List.all_eq_true.1 (by decide)
  obtain ⟨exhausts, _, respaces⟩ := read_loses_nothing (F := Unit) (" a" ++ " " ++ ".  [b]")
  obtain ⟨moved, sameTree⟩ := respaces " a" " " ".  [b]" "\t\n" _ rfl isRead between areBlank
  exact ⟨_, isRead, exhausts _ isRead, between, moved, sameTree⟩

end Lexed

end RecordGraph

import RecordGraph.Proofs.Text.Numeral

/-!
Contract: which texts are numerals of integers.

Owns: the grammar `IsNumeral`, and that exactly its texts are read, as the integers that they spell.
Does not own: how integers are written, and numerals of doubles.

A numeral may be set in blanks, carry a sign, use the decimal digits of any script and have single
underscores between digits. A reader first drops the blanks and turns the digits into ASCII ones.
-/

namespace RecordGraph.Text

/-! ## The grammar -/

/-- Characters that write decimal digits, with single underscores between them. -/
inductive IsDigits : List Char → List Nat → Prop where
  | last {c : Char} {digit : Nat} (isDigit : digitValue? c = some digit) : IsDigits [c] [digit]
  | next {c : Char} {digit : Nat} {chars : List Char} {digits : List Nat}
      (isDigit : digitValue? c = some digit) (others : IsDigits chars digits) :
      IsDigits (c :: chars) (digit :: digits)
  | apart {c : Char} {digit : Nat} {chars : List Char} {digits : List Nat}
      (isDigit : digitValue? c = some digit) (others : IsDigits chars digits) :
      IsDigits (c :: '_' :: chars) (digit :: digits)

/-- Characters that are a sign, or none, and whether it is that of negative numbers. -/
inductive IsSign : List Char → Bool → Prop where
  | absent : IsSign [] false
  | plus : IsSign ['+'] false
  | minus : IsSign ['-'] true

def decimalValue (digits : List Nat) : Nat :=
  digits.foldl (fun value digit => value * 10 + digit) 0

def signed (negative : Bool) (magnitude : Nat) : Int :=
  if negative then -(magnitude : Int) else magnitude

/-- Characters that spell an integer: a sign and decimal digits, not too many, between blanks. -/
inductive IsNumeral : List Char → Int → Prop where
  | intro {before sign body after : List Char} {negative : Bool} {digits : List Nat}
      (blankBefore : ∀ c ∈ before, isNumeralBlank c = true) (isSign : IsSign sign negative)
      (areDigits : IsDigits body digits) (isShort : digits.length ≤ maxIntegerDigits)
      (blankAfter : ∀ c ∈ after, isNumeralBlank c = true) :
      IsNumeral (before ++ (sign ++ body) ++ after) (signed negative (decimalValue digits))

/-! ## Characters -/

/-- The ASCII digit of a value. -/
def asciiDigit (digit : Nat) : Char := Char.ofNat (48 + digit)

theorem digitValue?_lt {c : Char} {digit : Nat} (isDigit : digitValue? c = some digit) :
    digit < 10 := by
  unfold digitValue? at isDigit
  split at isDigit
  · rename_i isAscii
    have bounds := toNat_of_isDigit isAscii
    cases isDigit
    omega
  · split at isDigit
    · cases isDigit
    · split at isDigit
      · rename_i first isFirst
        have inRange := List.find?_some isFirst
        simp only [Bool.and_eq_true, decide_eq_true_eq] at inRange
        cases isDigit
        omega
      · cases isDigit

theorem asciiDigit_isDigit {digit : Nat} (isSmall : digit < 10) :
    (asciiDigit digit).isDigit = true ∧ (asciiDigit digit).toNat - 48 = digit := by
  have small : ∀ digit < 10,
      (asciiDigit digit).isDigit = true ∧ (asciiDigit digit).toNat - 48 = digit := by decide
  exact small digit isSmall

/-- What has no value as a digit is no ASCII digit. -/
theorem isDigit_of_digitValue? {c : Char} (notDigit : digitValue? c = none) : c.isDigit = false := by
  cases isDigit : c.isDigit with
  | false => rfl
  | true =>
      have isValue : digitValue? c = some (c.toNat - 48) := if_pos isDigit
      rw [isValue] at notDigit
      cases notDigit

/-- Digits of all scripts are apart from the blanks. -/
theorem isNumeralBlank_of_digit {c : Char} {digit : Nat} (isDigit : digitValue? c = some digit) :
    isNumeralBlank c = false := by
  unfold digitValue? at isDigit
  split at isDigit
  · rename_i isAscii
    exact isNumeralBlank_of_part (.inl isAscii)
  · split at isDigit
    · cases isDigit
    · rename_i notAscii
      split at isDigit
      · rename_i first isFirst
        have member := List.mem_of_find?_eq_some isFirst
        have inRange := List.find?_some isFirst
        have apart : ∀ first ∈ Ranges.digitZeros, ∀ range ∈ Ranges.blank,
            range.2 < first ∨ first + 10 ≤ range.1 := by decide +kernel
        simp only [Bool.and_eq_true, decide_eq_true_eq] at inRange
        unfold isNumeralBlank isBlank inRanges
        rw [if_neg notAscii, if_neg notAscii, List.any_eq_false]
        intro range isRange
        have isApart := apart first member range isRange
        simp only [Bool.and_eq_true, decide_eq_true_eq]
        omega
      · cases isDigit

theorem asciiDigits_digit {c : Char} {digit : Nat} (isDigit : digitValue? c = some digit)
    (chars : List Char) : asciiDigits (c :: chars) = asciiDigit digit :: asciiDigits chars := by
  unfold asciiDigits
  rw [List.map_cons, isDigit]
  rfl

theorem asciiDigits_other {c : Char} (notDigit : digitValue? c = none) (chars : List Char) :
    asciiDigits (c :: chars) = c :: asciiDigits chars := by
  unfold asciiDigits
  rw [List.map_cons, notDigit]

/-! ## Underscores -/

theorem dropUnderscores_cons {c : Char} (notUnderscore : c ≠ '_') (afterDigit : Bool)
    (chars : List Char) :
    dropUnderscores afterDigit (c :: chars) = (dropUnderscores c.isDigit chars).map (c :: ·) := by
  rw [dropUnderscores]
  exact notUnderscore

theorem asciiDigit_ne_underscore {digit : Nat} (isSmall : digit < 10) : asciiDigit digit ≠ '_' := by
  intro same
  have isDigit := (asciiDigit_isDigit isSmall).1
  rw [same] at isDigit
  cases isDigit

/-- Digits begin with a digit, of any script. -/
theorem IsDigits.head {chars : List Char} {digits : List Nat} (areDigits : IsDigits chars digits) :
    ∃ c digit rest, chars = c :: rest ∧ digitValue? c = some digit := by
  cases areDigits with
  | last isDigit | next isDigit | apart isDigit => exact ⟨_, _, _, rfl, isDigit⟩

theorem IsDigits.small {chars : List Char} {digits : List Nat} (areDigits : IsDigits chars digits) :
    digits ≠ [] ∧ ∀ digit ∈ digits, digit < 10 := by
  induction areDigits with
  | last isDigit =>
      exact ⟨List.cons_ne_nil _ _, List.forall_mem_singleton.2 (digitValue?_lt isDigit)⟩
  | next isDigit _ inductionHypothesis | apart isDigit _ inductionHypothesis =>
      exact ⟨List.cons_ne_nil _ _,
        List.forall_mem_cons.2 ⟨digitValue?_lt isDigit, inductionHypothesis.2⟩⟩

theorem dropUnderscores_digit {c : Char} {digit : Nat} (isDigit : digitValue? c = some digit)
    (afterDigit : Bool) (chars : List Char) :
    dropUnderscores afterDigit (asciiDigits (c :: chars)) =
      (dropUnderscores true (asciiDigits chars)).map (asciiDigit digit :: ·) := by
  have isSmall := digitValue?_lt isDigit
  rw [asciiDigits_digit isDigit, dropUnderscores_cons (asciiDigit_ne_underscore isSmall),
    (asciiDigit_isDigit isSmall).1]

/-- An underscore is dropped between digits. -/
theorem dropUnderscores_underscore (afterDigit : Bool) (chars : List Char) :
    dropUnderscores afterDigit (asciiDigits ('_' :: chars)) =
      match asciiDigits chars with
      | [] => none
      | next :: rest =>
          if afterDigit && next.isDigit then dropUnderscores false (next :: rest) else none := by
  rw [asciiDigits_other rfl]
  cases asciiDigits chars <;> rfl

/-- Digits are read as the ASCII digits of their values. -/
theorem dropUnderscores_of_isDigits {chars : List Char} {digits : List Nat}
    (areDigits : IsDigits chars digits) (afterDigit : Bool) :
    dropUnderscores afterDigit (asciiDigits chars) = some (digits.map asciiDigit) := by
  induction areDigits generalizing afterDigit with
  | last isDigit =>
      rw [dropUnderscores_digit isDigit]
      rfl
  | next isDigit _ inductionHypothesis =>
      rw [dropUnderscores_digit isDigit, inductionHypothesis]
      rfl
  | apart isDigit others inductionHypothesis =>
      obtain ⟨next, digit, rest, rfl, isNext⟩ := others.head
      have between := inductionHypothesis false
      rw [asciiDigits_digit isNext] at between
      rw [dropUnderscores_digit isDigit, dropUnderscores_underscore, asciiDigits_digit isNext]
      dsimp only
      rw [(asciiDigit_isDigit (digitValue?_lt isNext)).1, between]
      rfl

/-- What is read as digits are digits, or begins with the underscore that stands before them. -/
theorem isDigits_of_dropUnderscores {afterDigit : Bool} {chars found : List Char}
    (isRead : dropUnderscores afterDigit (asciiDigits chars) = some found)
    (areDigits : ∀ c ∈ found, c.isDigit = true) :
    chars = [] ∧ found = [] ∨
      ∃ body digits, IsDigits body digits ∧ found = digits.map asciiDigit ∧
        (chars = body ∨ afterDigit = true ∧ chars = '_' :: body) := by
  induction chars generalizing afterDigit found with
  | nil =>
      cases isRead
      exact .inl ⟨rfl, rfl⟩
  | cons c rest inductionHypothesis =>
      right
      cases isValue : digitValue? c with
      | some digit =>
          rw [dropUnderscores_digit isValue] at isRead
          obtain ⟨others, isOthers, rfl⟩ := Option.map_eq_some_iff.1 isRead
          rw [List.forall_mem_cons] at areDigits
          obtain ⟨rfl, rfl⟩ | ⟨body, digits, isBody, rfl, rfl | ⟨_, rfl⟩⟩ :=
            inductionHypothesis isOthers areDigits.2
          · exact ⟨_, _, .last isValue, rfl, .inl rfl⟩
          · exact ⟨_, _, .next isValue isBody, rfl, .inl rfl⟩
          · exact ⟨_, _, .apart isValue isBody, rfl, .inl rfl⟩
      | none =>
          by_cases isUnderscore : c = '_'
          · subst isUnderscore
            rw [dropUnderscores_underscore] at isRead
            split at isRead
            · cases isRead
            · rename_i next tail isTail
              split at isRead
              · rename_i stands
                rw [Bool.and_eq_true] at stands
                rw [← isTail] at isRead
                obtain ⟨rfl, _⟩ | ⟨body, digits, isBody, isFound, rfl | ⟨impossible, _⟩⟩ :=
                  inductionHypothesis isRead areDigits
                · cases isTail
                · exact ⟨_, digits, isBody, isFound, .inr ⟨stands.1, rfl⟩⟩
                · cases impossible
              · cases isRead
          · -- What is neither a digit nor an underscore is kept, and is no digit.
            rw [asciiDigits_other isValue, dropUnderscores_cons isUnderscore] at isRead
            obtain ⟨others, _, rfl⟩ := Option.map_eq_some_iff.1 isRead
            rw [List.forall_mem_cons, isDigit_of_digitValue? isValue] at areDigits
            cases areDigits.1

/-! ## Blanks -/

theorem exists_trim_split (drop : Char → Bool) (chars : List Char) :
    ∃ before after, chars = before ++ trim drop chars ++ after ∧
      (∀ c ∈ before, drop c = true) ∧ ∀ c ∈ after, drop c = true := by
  have dropped : ∀ chars : List Char, ∀ c ∈ chars.takeWhile drop, drop c = true :=
    fun chars => List.all_eq_true.1 List.all_takeWhile
  refine ⟨chars.takeWhile drop, ((chars.dropWhile drop).reverse.takeWhile drop).reverse, ?_,
    dropped chars, ?_⟩
  · unfold trim
    rw [List.append_assoc, ← List.reverse_append, List.takeWhile_append_dropWhile,
      List.reverse_reverse, List.takeWhile_append_dropWhile]
  · intro c member
    exact dropped _ c (List.mem_reverse.1 member)

/-! ## Integers -/

theorem digitsValue_asciiDigits {digits : List Nat} (areSmall : ∀ digit ∈ digits, digit < 10) :
    digitsValue (digits.map asciiDigit) = decimalValue digits := by
  unfold digitsValue decimalValue
  rw [List.foldl_map]
  apply List.foldl_ext
  intro value digit member
  rw [(asciiDigit_isDigit (areSmall digit member)).2]

/-- A text is read by the digits behind its sign, if they are digits and not too many. -/
theorem readInt_eq_some {text : String} {number : Int} :
    readInt text = some number ↔
      ∃ negative rest digits,
        splitSign (asciiDigits (trim isNumeralBlank text.toList)) = (negative, rest) ∧
        dropUnderscores false rest = some digits ∧
        (digits ≠ [] ∧ (∀ c ∈ digits, c.isDigit = true) ∧ digits.length ≤ maxIntegerDigits) ∧
        signed negative (digitsValue digits) = number := by
  unfold readInt
  dsimp only
  generalize splitSign (asciiDigits (trim isNumeralBlank text.toList)) = parts
  obtain ⟨negative, rest⟩ := parts
  cases isRead : dropUnderscores false rest with
  | none =>
      refine iff_of_false nofun ?_
      rintro ⟨_, _, _, isSplit, isSome, _⟩
      cases isSplit
      cases isRead.symm.trans isSome
  | some digits =>
      have isFine : (digits.isEmpty || !digits.all Char.isDigit || digits.length > maxIntegerDigits)
          = false ↔
          digits ≠ [] ∧ (∀ c ∈ digits, c.isDigit = true) ∧ digits.length ≤ maxIntegerDigits := by
        simp [and_assoc]
      show (if (digits.isEmpty || !digits.all Char.isDigit || digits.length > maxIntegerDigits) = true
        then none else some (signed negative (digitsValue digits))) = some number ↔ _
      constructor
      · intro isNumber
        split at isNumber
        · cases isNumber
        · rename_i notWrong
          exact ⟨negative, rest, digits, rfl, isRead, isFine.1 (Bool.eq_false_iff.2 notWrong),
            Option.some.inj isNumber⟩
      · rintro ⟨_, _, _, isSplit, isSome, areFine, isNumber⟩
        cases isSplit
        cases isRead.symm.trans isSome
        rw [isFine.2 areFine, isNumber]
        rfl

theorem splitSign_other {c : Char} (notMinus : c ≠ '-') (notPlus : c ≠ '+') (rest : List Char) :
    splitSign (c :: rest) = (false, c :: rest) := by
  unfold splitSign
  split
  · rename_i isMinus
    exact absurd (List.cons.inj isMinus).1 notMinus
  · rename_i isPlus
    exact absurd (List.cons.inj isPlus).1 notPlus
  · rfl

theorem asciiDigit_ne_sign {digit : Nat} (isSmall : digit < 10) :
    asciiDigit digit ≠ '-' ∧ asciiDigit digit ≠ '+' := by
  have noSign : ∀ digit < 10, asciiDigit digit ≠ '-' ∧ asciiDigit digit ≠ '+' := by decide
  exact noSign digit isSmall

theorem splitSign_of_sign {sign body : List Char} {negative : Bool} {digits : List Nat}
    (isSign : IsSign sign negative) (areDigits : IsDigits body digits) :
    splitSign (asciiDigits (sign ++ body)) = (negative, asciiDigits body) := by
  cases isSign with
  | absent =>
      obtain ⟨c, digit, rest, rfl, isDigit⟩ := areDigits.head
      obtain ⟨notMinus, notPlus⟩ := asciiDigit_ne_sign (digitValue?_lt isDigit)
      rw [List.nil_append, asciiDigits_digit isDigit]
      exact splitSign_other notMinus notPlus _
  | plus | minus =>
      rw [List.singleton_append, asciiDigits_other rfl]
      rfl

/-- Characters are a sign, or none, and what is split off behind it. -/
theorem exists_sign {chars rest : List Char} {negative : Bool}
    (isSplit : splitSign (asciiDigits chars) = (negative, rest)) :
    ∃ sign body, chars = sign ++ body ∧ IsSign sign negative ∧ rest = asciiDigits body := by
  cases chars with
  | nil =>
      cases isSplit
      exact ⟨[], [], rfl, .absent, rfl⟩
  | cons c body =>
      cases isValue : digitValue? c with
      | some digit =>
          obtain ⟨notMinus, notPlus⟩ := asciiDigit_ne_sign (digitValue?_lt isValue)
          rw [asciiDigits_digit isValue, splitSign_other notMinus notPlus] at isSplit
          cases isSplit
          exact ⟨[], c :: body, rfl, .absent, (asciiDigits_digit isValue body).symm⟩
      | none =>
          by_cases isMinus : c = '-'
          · subst isMinus
            rw [asciiDigits_other isValue] at isSplit
            cases isSplit
            exact ⟨['-'], body, rfl, .minus, rfl⟩
          · by_cases isPlus : c = '+'
            · subst isPlus
              rw [asciiDigits_other isValue] at isSplit
              cases isSplit
              exact ⟨['+'], body, rfl, .plus, rfl⟩
            · rw [asciiDigits_other isValue, splitSign_other isMinus isPlus] at isSplit
              cases isSplit
              exact ⟨[], c :: body, rfl, .absent, (asciiDigits_other isValue body).symm⟩

/-- Nothing of a numeral between its blanks is a blank. -/
theorem IsDigits.kept {chars : List Char} {digits : List Nat} (areDigits : IsDigits chars digits) :
    ∀ c ∈ chars, isNumeralBlank c = false := by
  induction areDigits with
  | last isDigit => exact List.forall_mem_singleton.2 (isNumeralBlank_of_digit isDigit)
  | next isDigit _ inductionHypothesis =>
      exact List.forall_mem_cons.2 ⟨isNumeralBlank_of_digit isDigit, inductionHypothesis⟩
  | apart isDigit _ inductionHypothesis =>
      exact List.forall_mem_cons.2 ⟨isNumeralBlank_of_digit isDigit,
        List.forall_mem_cons.2 ⟨rfl, inductionHypothesis⟩⟩

theorem IsSign.kept {sign : List Char} {negative : Bool} (isSign : IsSign sign negative) :
    ∀ c ∈ sign, isNumeralBlank c = false := by
  cases isSign with
  | absent => exact fun c member => absurd member List.not_mem_nil
  | plus | minus => exact List.forall_mem_singleton.2 rfl

/-- Exactly the texts that are numerals are read, as the integers that they spell. -/
theorem readInt_eq_some_iff {text : String} {number : Int} :
    readInt text = some number ↔ IsNumeral text.toList number := by
  rw [readInt_eq_some]
  constructor
  · rintro ⟨negative, rest, found, isSplit, isRead, ⟨notEmpty, areDigits, isShort⟩, rfl⟩
    obtain ⟨before, after, isText, blankBefore, blankAfter⟩ :=
      exists_trim_split isNumeralBlank text.toList
    obtain ⟨sign, body, isCore, isSign, rfl⟩ := exists_sign isSplit
    obtain ⟨_, isEmpty⟩ | ⟨_, digits, isBody, rfl, rfl | ⟨impossible, _⟩⟩ :=
      isDigits_of_dropUnderscores isRead areDigits
    · exact absurd isEmpty notEmpty
    · rw [digitsValue_asciiDigits isBody.small.2, isText, isCore]
      rw [List.length_map] at isShort
      exact .intro blankBefore isSign isBody isShort blankAfter
    · cases impossible
  · intro isNumeral
    generalize isText : text.toList = chars at isNumeral
    cases isNumeral with
    | @intro before sign body after negative digits blankBefore isSign areDigits isShort blankAfter =>
        obtain ⟨notEmpty, areSmall⟩ := areDigits.small
        obtain ⟨c, _, rest, isBody, _⟩ := areDigits.head
        have coreKept : ∀ c ∈ sign ++ body, isNumeralBlank c = false :=
          List.forall_mem_append.2 ⟨isSign.kept, areDigits.kept⟩
        have coreNotEmpty : sign ++ body ≠ [] := by
          rw [isBody]
          exact List.append_ne_nil_of_right_ne_nil _ (List.cons_ne_nil _ _)
        rw [trim_surrounded blankBefore coreKept coreNotEmpty blankAfter]
        refine ⟨negative, asciiDigits body, digits.map asciiDigit,
          splitSign_of_sign isSign areDigits, dropUnderscores_of_isDigits areDigits false,
          ⟨by simpa using notEmpty, ?_, by simpa using isShort⟩, ?_⟩
        · rw [List.forall_mem_map]
          exact fun digit member => (asciiDigit_isDigit (areSmall digit member)).1
        · rw [digitsValue_asciiDigits areSmall]

end RecordGraph.Text

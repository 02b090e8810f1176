import Mathlib.Data.List.Basic
import RecordGraph.Text.Decimal

/-!
Contract: the numeral of an integer reads back as that integer.

Owns: the value of decimal digits, `IsWritten`, and that a written numeral is read.
Does not own: numerals of doubles.

A numeral is written with a sign, if any, and ASCII digits. So it has nothing of what a reader
drops or replaces: blanks, underscores and the digits of other scripts.
-/

namespace RecordGraph.Text

/-! ## Digits -/

theorem digitsValue_concat (digits : List Char) (c : Char) :
    digitsValue (digits ++ [c]) = digitsValue digits * 10 + (c.toNat - 48) :=
  List.foldl_concat ..

/-- The digits of a number have its value. The last digit comes off the end. -/
theorem digitsValue_toDigits (number : Nat) : digitsValue (Nat.toDigits 10 number) = number := by
  induction number using Nat.strongRecOn with
  | ind number inductionHypothesis =>
      rw [Nat.toDigits_eq_if (by decide)]
      split
      · rename_i isSmall
        change 0 * 10 + (number.digitChar.toNat - 48) = number
        rw [Nat.toNat_digitChar_sub_48_of_lt_ten isSmall, Nat.zero_mul, Nat.zero_add]
      · have earlier := inductionHypothesis (number / 10) (by omega)
        rw [digitsValue_concat, earlier,
          Nat.toNat_digitChar_sub_48_of_lt_ten (Nat.mod_lt _ (by decide))]
        omega

theorem isDigit_of_mem_toDigits {number : Nat} : ∀ c ∈ Nat.toDigits 10 number, c.isDigit = true :=
  fun _ member => Nat.isDigit_of_mem_toDigits (by decide) (by decide) member

theorem toNat_of_isDigit {c : Char} (isDigit : c.isDigit = true) : 48 ≤ c.toNat ∧ c.toNat ≤ 57 :=
  Char.isDigit_iff_toNat.1 isDigit

/-! ## What a reader drops -/

/-- Whether a character is written in numerals of integers. -/
def IsNumeralPart (c : Char) : Prop := c.isDigit = true ∨ c = '-'

/-- What surrounds characters that are all kept is dropped. -/
theorem trim_surrounded {drop : Char → Bool} {before core after : List Char}
    (dropBefore : ∀ c ∈ before, drop c = true) (kept : ∀ c ∈ core, drop c = false)
    (notEmpty : core ≠ []) (dropAfter : ∀ c ∈ after, drop c = true) :
    trim drop (before ++ core ++ after) = core := by
  have stops : ∀ chars rest : List Char, chars ≠ [] → (∀ c ∈ chars, drop c = false) →
      (chars ++ rest).dropWhile drop = chars ++ rest := by
    intro chars rest notEmpty kept
    cases chars with
    | nil => exact absurd rfl notEmpty
    | cons first others =>
        exact List.dropWhile_cons_of_neg (by simp [kept first (List.mem_cons_self ..)])
  have reversed := stops core.reverse [] (by simpa using notEmpty)
    fun c member => kept c (List.mem_reverse.1 member)
  rw [List.append_nil] at reversed
  unfold trim
  rw [List.append_assoc, List.dropWhile_append_of_pos dropBefore, stops core after notEmpty kept,
    List.reverse_append,
    List.dropWhile_append_of_pos fun c member => dropAfter c (List.mem_reverse.1 member),
    reversed, List.reverse_reverse]

theorem trim_of_kept {drop : Char → Bool} {chars : List Char} (kept : ∀ c ∈ chars, drop c = false) :
    trim drop chars = chars := by
  by_cases isEmpty : chars = []
  · rw [isEmpty]
    rfl
  · have surrounded : trim drop ([] ++ chars ++ []) = chars :=
      trim_surrounded nofun kept isEmpty nofun
    rwa [List.nil_append, List.append_nil] at surrounded

theorem isNumeralBlank_of_part {c : Char} (isPart : IsNumeralPart c) : isNumeralBlank c = false := by
  rcases isPart with isDigit | rfl
  · obtain ⟨low, high⟩ := toNat_of_isDigit isDigit
    have isAscii : c.toNat < 128 := by omega
    unfold isNumeralBlank isAsciiBlank
    rw [if_pos isAscii, Bool.or_eq_false_iff, Bool.and_eq_false_iff, beq_eq_false_iff_ne,
      decide_eq_false_iff_not, decide_eq_false_iff_not]
    omega
  · rfl

theorem asciiDigits_of_parts {chars : List Char} (parts : ∀ c ∈ chars, IsNumeralPart c) :
    asciiDigits chars = chars := by
  refine (List.map_congr_left fun c member => ?_).trans (List.map_id chars)
  rcases parts c member with isDigit | rfl
  · have isValue : digitValue? c = some (c.toNat - 48) := if_pos isDigit
    have isCode : 48 + (c.toNat - 48) = c.toNat := by
      have := toNat_of_isDigit isDigit
      omega
    rw [isValue]
    change Char.ofNat (48 + (c.toNat - 48)) = c
    rw [isCode, Char.ofNat_toNat]
  · rfl

theorem dropUnderscores_of_digits {digits : List Char} (areDigits : ∀ c ∈ digits, c.isDigit = true)
    (afterDigit : Bool) : dropUnderscores afterDigit digits = some digits := by
  induction digits generalizing afterDigit with
  | nil => rfl
  | cons c rest inductionHypothesis =>
      rw [List.forall_mem_cons] at areDigits
      have notUnderscore : c ≠ '_' := by
        rintro rfl
        exact absurd areDigits.1 (by decide)
      rw [dropUnderscores, inductionHypothesis areDigits.2, Option.map_some]
      exact notUnderscore

/-- A digit is no sign. -/
theorem splitSign_of_digits {digits : List Char} (areDigits : ∀ c ∈ digits, c.isDigit = true) :
    splitSign digits = (false, digits) := by
  unfold splitSign
  split
  · exact absurd (areDigits '-' (List.mem_cons_self ..)) (by decide)
  · exact absurd (areDigits '+' (List.mem_cons_self ..)) (by decide)
  · rfl

/-! ## Integers -/

/-- Whether an integer has a numeral. The longest ones are neither written nor read. -/
def IsWritten (number : Int) : Prop :=
  (Nat.toDigits 10 number.natAbs).length ≤ maxIntegerDigits

/-- Digits after a sign, or without one, are read. -/
theorem readInt_of_digits (negative : Bool) {text : String} {number : Nat}
    (isText : text.toList = (if negative then ['-'] else []) ++ Nat.toDigits 10 number)
    (isWritten : (Nat.toDigits 10 number).length ≤ maxIntegerDigits) :
    readInt text = some (if negative then -(number : Int) else number) := by
  have areDigits := @isDigit_of_mem_toDigits number
  have parts : ∀ c ∈ text.toList, IsNumeralPart c := by
    intro c member
    rw [isText, List.mem_append] at member
    rcases member with isSign | isDigit
    · cases negative with
      | false => exact absurd isSign List.not_mem_nil
      | true => exact .inr (List.mem_singleton.1 isSign)
    · exact .inl (areDigits c isDigit)
  have isSplit : splitSign text.toList = (negative, Nat.toDigits 10 number) := by
    rw [isText]
    cases negative with
    | true => rfl
    | false => exact splitSign_of_digits areDigits
  have isValid : ((Nat.toDigits 10 number).isEmpty || !(Nat.toDigits 10 number).all Char.isDigit ||
      (Nat.toDigits 10 number).length > maxIntegerDigits) = false := by
    rw [List.all_eq_true.2 areDigits]
    simp [Nat.toDigits_ne_nil, isWritten]
  unfold readInt
  rw [trim_of_kept fun c member => isNumeralBlank_of_part (parts c member),
    asciiDigits_of_parts parts]
  dsimp only
  rw [isSplit]
  dsimp only
  rw [dropUnderscores_of_digits areDigits]
  change (if _ then _ else _) = _
  rw [isValid, digitsValue_toDigits]
  rfl

/-- The numeral of an integer is read as that integer. -/
theorem readInt_toString {number : Int} (isWritten : IsWritten number) :
    readInt (toString number) = some number := by
  cases number with
  | ofNat number =>
      have isText : (toString (Int.ofNat number)).toList = [] ++ Nat.toDigits 10 number :=
        Nat.toList_repr
      exact readInt_of_digits false isText isWritten
  | negSucc number =>
      have isText : (toString (Int.negSucc number)).toList =
          ['-'] ++ Nat.toDigits 10 (number + 1) := by
        rw [Int.toString_eq_repr, Int.repr, String.toList_append, Nat.toList_repr]
        rfl
      exact readInt_of_digits true isText isWritten

end RecordGraph.Text

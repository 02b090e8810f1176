import Mathlib.Algebra.Order.Field.Rat
import Mathlib.Tactic.FieldSimp
import RecordGraph.Value.Basic

/-!
Contract: equality of scalars is equality of what they stand for.

Owns: `Value.Scalar`, what a scalar stands for, and that `Value.same` compares scalars by it.
Does not own: equality of lists and objects.

A boolean, an integer and a finite double stand for a rational number. What is not a number stands
for nothing, and equals nothing but, in one document, itself.
-/

namespace RecordGraph

namespace Binary64

/-- The rational number that a signed quotient stands for. -/
def rational (quotient : Int × Nat) : ℚ := quotient.1 / quotient.2

theorem signedQuotient_pos (negative : Bool) (significand : Nat) (exponent : Int) :
    0 < (signedQuotient negative significand exponent).2 := by
  unfold signedQuotient quotient
  dsimp only
  split
  · exact Nat.one_pos
  · exact Nat.pow_pos (by decide)

theorem compareQuotients_eq_iff {left right : Int × Nat} (leftPos : 0 < left.2)
    (rightPos : 0 < right.2) :
    compareQuotients left right = .eq ↔ rational left = rational right := by
  have leftNe : (left.2 : ℚ) ≠ 0 := by exact_mod_cast leftPos.ne'
  have rightNe : (right.2 : ℚ) ≠ 0 := by exact_mod_cast rightPos.ne'
  unfold compareQuotients rational
  rw [compare_eq_iff_eq, div_eq_div_iff leftNe rightNe]
  exact_mod_cast Iff.rfl

end Binary64

namespace Value

/-- What a scalar stands for. -/
inductive Scalar where
  | null
  | text (chars : String)
  | number (rational : ℚ)
  | infinite (negative : Bool)

/-- What a value stands for, if it is a scalar that equals itself. -/
def scalar? : Value → Option Scalar
  | .null => some .null
  | .bool flag => some (.number (if flag then 1 else 0 : Int))
  | .int number => some (.number number)
  | .float (.finite negative significand exponent) =>
      some (.number (Binary64.rational (Binary64.signedQuotient negative significand exponent)))
  | .float (.infinite negative) => some (.infinite negative)
  | .float .nan => none
  | .text chars => some (.text chars)
  | .list _ => none
  | .object _ => none

theorem compare?_eq_iff (left right : Binary64) :
    left.compare? right = some .eq ↔
      ∃ scalar, scalar? (.float left) = some scalar ∧ scalar? (.float right) = some scalar := by
  cases left with
  | nan => simp [Binary64.compare?, scalar?]
  | infinite negative =>
      cases right with
      | nan => simp [Binary64.compare?, scalar?]
      | infinite negative' => cases negative <;> cases negative' <;> simp [Binary64.compare?, scalar?]
      | finite negative' significand exponent =>
          cases negative <;> simp [Binary64.compare?, scalar?]
  | finite negative significand exponent =>
      cases right with
      | nan => simp [Binary64.compare?, scalar?]
      | infinite negative' => cases negative' <;> simp [Binary64.compare?, scalar?]
      | finite negative' significand' exponent' =>
          have same := Binary64.compareQuotients_eq_iff
            (Binary64.signedQuotient_pos negative significand exponent)
            (Binary64.signedQuotient_pos negative' significand' exponent')
          simp only [Binary64.compare?, scalar?, Option.some.injEq, same]
          constructor
          · intro equal
            exact ⟨_, congrArg Scalar.number equal, rfl⟩
          · rintro ⟨scalar, rfl, stands⟩
            exact Scalar.number.inj stands.symm

theorem compareInt?_eq_iff (left : Binary64) (number : Int) :
    left.compareInt? number = some .eq ↔ scalar? (.float left) = some (.number number) := by
  cases left with
  | nan => simp [Binary64.compareInt?, scalar?]
  | infinite negative => cases negative <;> simp [Binary64.compareInt?, scalar?]
  | finite negative significand exponent =>
      have isPositive : 0 < (number, 1).2 := Nat.one_pos
      have same := Binary64.compareQuotients_eq_iff
        (Binary64.signedQuotient_pos negative significand exponent) isPositive
      have isNumber : Binary64.rational (number, 1) = number := by simp [Binary64.rational]
      simp [Binary64.compareInt?, scalar?, same, isNumber]

theorem integers_iff (left right : Int) :
    (left == right) = true ↔
      ∃ scalar, some (Scalar.number left) = some scalar ∧ some (Scalar.number right) = some scalar := by
  rw [beq_iff_eq]
  constructor
  · rintro rfl
    exact ⟨_, rfl, rfl⟩
  · rintro ⟨scalar, isLeft, isRight⟩
    have equal : (left : ℚ) = right := Scalar.number.inj (Option.some.inj (isLeft.trans isRight.symm))
    exact_mod_cast equal

theorem integer_iff (left : Binary64) (number : Int) :
    (left.compareInt? number == some .eq) = true ↔
      ∃ scalar, scalar? (.float left) = some scalar ∧ some (Scalar.number number) = some scalar := by
  rw [beq_iff_eq, compareInt?_eq_iff]
  constructor
  · intro stands
    exact ⟨_, stands, rfl⟩
  · rintro ⟨scalar, stands, same⟩
    rw [stands, same]

/-- Scalars are equal if they stand for the same. -/
theorem sameScalar_iff (left right : Value) :
    left.sameScalar right = true ↔
      ∃ scalar, left.scalar? = some scalar ∧ right.scalar? = some scalar := by
  cases left with
  | null =>
      cases right with
      | float number => cases number <;> simp [sameScalar, toInt?, scalar?]
      | _ => simp [sameScalar, toInt?, scalar?]
  | bool flag =>
      cases right with
      | bool flag' => exact integers_iff _ _
      | int number => exact integers_iff _ _
      | float number =>
          refine (integer_iff number _).trans ?_
          exact exists_congr fun scalar => and_comm
      | _ => simp [sameScalar, toInt?, scalar?]
  | int number =>
      cases right with
      | bool flag => exact integers_iff _ _
      | int number' => exact integers_iff _ _
      | float number' =>
          refine (integer_iff number' _).trans ?_
          exact exists_congr fun scalar => and_comm
      | _ => simp [sameScalar, toInt?, scalar?]
  | float number =>
      cases right with
      | bool flag => exact integer_iff number _
      | int number' => exact integer_iff number _
      | float number' => simpa [sameScalar] using compare?_eq_iff number number'
      | _ => cases number <;> simp [sameScalar, toInt?, scalar?]
  | text chars =>
      cases right with
      | text chars' =>
          rw [sameScalar, beq_iff_eq]
          constructor
          · rintro rfl
            exact ⟨_, rfl, rfl⟩
          · rintro ⟨scalar, isLeft, isRight⟩
            exact Scalar.text.inj (Option.some.inj (isLeft.trans isRight.symm))
      | float number => cases number <;> simp [sameScalar, toInt?, scalar?]
      | _ => simp [sameScalar, toInt?, scalar?]
  | list items =>
      cases right with
      | float number => cases number <;> simp [sameScalar, toInt?, scalar?]
      | _ => simp [sameScalar, toInt?, scalar?]
  | object fields =>
      cases right with
      | float number => cases number <;> simp [sameScalar, toInt?, scalar?]
      | _ => simp [sameScalar, toInt?, scalar?]

theorem same_of_isKey {left right : Value} (isKey : left.isKey = true) :
    left.same right = left.sameScalar right := by
  cases left with
  | list items => cases isKey
  | object fields => cases isKey
  | _ => rw [same, sameBy] <;> simp

/-- Among the members of one document, what is not a number is one value, and other scalars are
compared. -/
theorem alike_iff_of_isKey {left right : Value} (isKey : left.isKey = true) :
    left.alike right = true ↔ left.same right = true ∨ left.isNaN = true ∧ right.isNaN = true := by
  have isScalar : left.alike right =
      (left.sameScalar right || (left.isNaN && right.isNaN)) := by
    cases left with
    | list items => cases isKey
    | object fields => cases isKey
    | _ => rw [alike, sameBy] <;> simp
  rw [isScalar, Bool.or_eq_true, Bool.and_eq_true, same_of_isKey isKey]

/-- Values that equal one scalar equal each other. -/
theorem same_of_same_same {common left right : Value} (isKey : common.isKey = true)
    (leftKey : left.isKey = true) (sameLeft : common.same left = true)
    (sameRight : common.same right = true) : left.same right = true := by
  rw [same_of_isKey isKey, sameScalar_iff] at sameLeft sameRight
  rw [same_of_isKey leftKey, sameScalar_iff]
  rcases sameLeft with ⟨scalar, isCommon, isLeft⟩
  rcases sameRight with ⟨scalar', isCommon', isRight⟩
  rw [isCommon] at isCommon'
  cases isCommon'
  exact ⟨scalar, isLeft, isRight⟩

theorem isNull_iff_scalar? (value : Value) : value.isNull = true ↔ value.scalar? = some .null := by
  cases value with
  | float number => cases number <;> simp [isNull, scalar?]
  | _ => simp [isNull, scalar?]

theorem isNull_iff {value : Value} : value.isNull = true ↔ value = .null := by
  cases value with
  | null => exact iff_of_true rfl rfl
  | _ => exact iff_of_false Bool.false_ne_true nofun

theorem isKey_of_isNull {value : Value} (isNull : value.isNull = true) : value.isKey = true := by
  cases value with
  | null => rfl
  | _ => cases isNull

/-- Null equals nothing but null. -/
theorem isNull_of_same {left right : Value} (isKey : left.isKey = true)
    (same : left.same right = true) : left.isNull = right.isNull := by
  rw [same_of_isKey isKey, sameScalar_iff] at same
  rcases same with ⟨scalar, isLeft, isRight⟩
  rw [Bool.eq_iff_iff, isNull_iff_scalar?, isNull_iff_scalar?, isLeft, isRight]

/-- In a document, too, null equals nothing but null. -/
theorem alike_null (value : Value) : value.alike .null = value.isNull := by
  cases value <;> simp [alike, sameBy, sameScalar, toInt?, isNaN, isNull]

end Value

end RecordGraph

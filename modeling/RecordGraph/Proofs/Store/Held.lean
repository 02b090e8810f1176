import RecordGraph.Proofs.Store.Handed
import RecordGraph.Proofs.Store.Rekeyed

/-!
Contract: what a column makes of the values of its own type.

Owns: `ColumnType.Holds`, that such a value is shown again, and which of them a condition on the column
finds.
Does not own: values that are drawn towards the type, and statements.

A condition is bound by its value, not by its column. So a text is looked for as it stands also where
the column stores documents, and there it is stored in quotes.
-/

namespace RecordGraph

open RecordGraph.Sql

/-- The values of a type of columns that a store holds without loss. -/
inductive ColumnType.Holds : ColumnType → Value → Prop where
  | integer (number : Int) : Holds .integer (.int number)
  | bigInteger (number : Int) : Holds .bigInteger (.int number)
  | string (chars : String) : Holds .string (.text chars)
  | boolean (flag : Bool) : Holds .boolean (.bool flag)
  | float {number : Binary64} (isNumber : number ≠ .nan) : Holds .float (.float number)
  | document {value : Value} (notNull : value ≠ .null)
      (isWord : ∀ number, value = .int number → Cell.fitsWord number = true)
      (isFinite : ∀ number, value = .float number → number.isFinite = true) : Holds .json value

/-- Whether a value is a text or a truth value. Among documents these are stored as they are written,
but looked for as they stand. -/
def Value.IsQuoted : Value → Prop
  | .text _ | .bool _ => True
  | _ => False

/-! ## Numbers -/

namespace Binary64

/-- A zero stands for nought, whatever its sign. -/
theorem scalar?_of_isZero {number : Binary64} (isZero : number.isZero = true) :
    (Value.float number).scalar? = some (.number 0) := by
  cases number with
  | nan => cases isZero
  | infinite negative => cases isZero
  | finite negative significand exponent =>
      have noSignificand : significand = 0 := beq_iff_eq.1 isZero
      subst noSignificand
      change some (Value.Scalar.number (rational (signedQuotient negative 0 exponent))) = _
      unfold rational signedQuotient quotient
      cases negative <;> by_cases isPositive : 0 ≤ exponent <;> simp [isPositive]

end Binary64

namespace Cell

/-- A whole real stands for the same as an integer. -/
theorem standing_wholeReal (number : Binary64) :
    (wholeReal number).standing? = (Cell.real number).standing? := by
  unfold wholeReal
  cases isWhole : number.toInt? with
  | none => rfl
  | some whole =>
      dsimp only
      split
      · exact (Binary64.toInt?_eq_some isWhole).1.symm
      · rfl

/-- A real without the sign of zero stands for the same. -/
theorem standing_unsigned (number : Binary64) :
    (Cell.real (if number.isZero = true then .zero else number)).standing? =
      (Cell.real number).standing? := by
  by_cases isZero : number.isZero = true
  · have isNought : Binary64.zero.isZero = true := rfl
    rw [if_pos isZero]
    exact (Binary64.scalar?_of_isZero isNought).trans (Binary64.scalar?_of_isZero isZero).symm
  · rw [if_neg isZero]

theorem stored_float {number : Binary64} (isNumber : number ≠ .nan) :
    stored .float (.float number) = .real (if number.isZero = true then .zero else number) := by
  cases number with
  | nan => exact absurd rfl isNumber
  | infinite negative => rfl
  | finite negative significand exponent => rfl

theorem stored_wholeNumber {number : Int} (isWord : fitsWord number = true) :
    stored .json (.int number) = .int number := by
  have isNumeric : (Cell.document (.int number)).numeric = .int number := if_pos isWord
  change (Cell.document (.int number)).drawn .numeric = _
  unfold drawn
  dsimp only
  rw [isNumeric]

theorem stored_documentFloat {number : Binary64} (isFinite : number.isFinite = true) :
    stored .json (.float number) = wholeReal number := by
  have isNumeric : (Cell.document (.float number)).numeric = .real number := if_pos isFinite
  change (Cell.document (.float number)).drawn .numeric = _
  unfold drawn
  dsimp only
  rw [isNumeric]

/-- A text in quotes is longer than the text. -/
theorem toJson_text_ne (chars : String) : (Value.text chars).toJson ≠ chars := by
  intro same
  have longer : ∀ chars : List Char, chars.length ≤ (chars.flatMap Value.jsonEscape).length := by
    intro chars
    induction chars with
    | nil => exact Nat.le_refl 0
    | cons c rest inductionHypothesis =>
        have escaped : 1 ≤ (Value.jsonEscape c).length := by
          unfold Value.jsonEscape Value.jsonUnits
          repeat' split
          all_goals simp
        rw [List.flatMap_cons, List.length_append, List.length_cons]
        omega
  have isLength := congrArg (fun text : String => text.toList.length) same
  change (Value.jsonText chars).toList.length = chars.toList.length at isLength
  unfold Value.jsonText at isLength
  have := longer chars.toList
  simp only [String.toList_append, String.toList_ofList, List.length_append] at isLength
  change 1 + _ + 1 = _ at isLength
  omega

theorem rank_ofNumber (number : Int) : (ofNumber number).rank = 1 := by
  unfold ofNumber
  split <;> rfl

theorem rank_numeral? {text : String} {cell : Cell} (reads : numeral? text = some cell) :
    cell.rank = 1 := by
  unfold numeral? at reads
  dsimp only at reads
  split at reads
  · rw [← Option.some.inj reads]
    exact rank_ofNumber _
  · obtain ⟨number, _, same⟩ := Option.bind_eq_some_iff.1 reads
    rw [← Option.some.inj same]
    rfl

/-- A number does not stand for a text. -/
theorem standing_ne_text {cell : Cell} (isNumber : cell.rank = 1) (chars : String) :
    cell.standing? ≠ some (.text chars) := by
  cases cell with
  | null => cases isNumber
  | text chars => cases isNumber
  | document content => cases isNumber
  | int number => simp [standing?, Value.scalar?]
  | real number => cases number <;> simp [standing?, Value.scalar?]

/-- A text that is read as a number, if it can be, stands for no other text. -/
theorem standing_numeric_ne {chars other : String} (differs : other ≠ chars) :
    (Cell.text other).numeric.standing? ≠ some (.text chars) := by
  unfold numeric
  dsimp only
  cases reads : numeral? other with
  | none => exact fun same => differs (Value.Scalar.text.inj (Option.some.inj same))
  | some cell => exact standing_ne_text (rank_numeral? reads) chars

/-- A number is looked for as it is, also among documents. -/
theorem sought_int {type : ColumnType} (isNumeric : type = .bigInteger ∨ type = .json) (number : Int) :
    sought type (.int number) = .int number := by
  have isCompared : comparedType type (.int number) = .integer ∨
      comparedType type (.int number) = .bigInteger := by
    by_cases isSmall : number.natAbs < bigBound
    · left
      rcases isNumeric with rfl | rfl <;> simp [comparedType, valueType?, isSmall]
    · right
      rcases isNumeric with rfl | rfl <;> simp [comparedType, valueType?, isSmall]
  unfold sought parameter
  dsimp only
  rcases isCompared with isType | isType
  · rw [isType]
    rcases isNumeric with rfl | rfl <;> rfl
  · rw [isType]
    rcases isNumeric with rfl | rfl <;> rfl

theorem sought_float {type : ColumnType} (isNumeric : type = .float ∨ type = .json)
    {number : Binary64} (isNumber : number ≠ .nan) :
    sought type (.float number) = .real number := by
  cases number with
  | nan => exact absurd rfl isNumber
  | infinite negative => rcases isNumeric with rfl | rfl <;> rfl
  | finite negative significand exponent => rcases isNumeric with rfl | rfl <;> rfl

end Cell

/-- Values are alike if they stand for the same. -/
theorem Value.alike_of_scalar {left right : Value} {scalar : Scalar} (isKey : left.isKey = true)
    (isLeft : left.scalar? = some scalar) (isRight : right.scalar? = some scalar) :
    left.Alike right := by
  right
  rw [same_of_isKey isKey, sameScalar_iff]
  exact ⟨scalar, isLeft, isRight⟩

theorem Binary64.exists_scalar {number : Binary64} (isNumber : number ≠ .nan) :
    ∃ scalar, (Value.float number).scalar? = some scalar := by
  cases number with
  | nan => exact absurd rfl isNumber
  | infinite negative => exact ⟨_, rfl⟩
  | finite negative significand exponent => exact ⟨_, rfl⟩

/-! ## Values that are shown, and found -/

namespace ColumnType.Holds

/-- A value that a column holds without loss is shown again. -/
theorem alike {type : ColumnType} {value : Value} (holds : type.Holds value) :
    ((Cell.stored type value).toValue type).Alike value := by
  cases holds with
  | integer number => exact .refl _
  | bigInteger number => exact .refl _
  | string chars => exact .refl _
  | boolean flag => cases flag <;> exact .refl _
  | @float number isNumber =>
      obtain ⟨scalar, stands⟩ := Binary64.exists_scalar isNumber
      rw [Cell.stored_float isNumber]
      exact Value.alike_of_scalar rfl ((Cell.standing_unsigned number).trans stands) stands
  | document notNull isWord isFinite =>
      cases value with
      | null => exact absurd rfl notNull
      | bool flag => exact .refl _
      | int number =>
          rw [Cell.stored_wholeNumber (isWord number rfl)]
          exact .refl _
      | float number =>
          rw [Cell.stored_documentFloat (isFinite number rfl)]
          unfold Cell.wholeReal
          split
          · rename_i whole isWhole
            split
            · exact Value.alike_of_scalar rfl rfl (Binary64.toInt?_eq_some isWhole).1
            · exact .refl _
          · exact .refl _
      | text chars => exact .refl _
      | list items => exact .refl _
      | object fields => exact .refl _

variable {key : Column} {value : Value}

/-- A value that a column holds without loss is found in it, unless the column holds documents and the
value is a text or a truth value. -/
theorem finds_iff (holds : key.type.Holds value) :
    key.Finds value (Cell.stored key.type value) ↔
      ¬(key.type = .json ∧ value.IsQuoted) := by
  have soughtIn : ∀ scalar, (Cell.stored key.type value).standing? = some scalar →
      (Cell.sought key.type value).standing? = some scalar → value.isNull = false →
        key.Finds value (Cell.stored key.type value) :=
    fun scalar stands sought notNull => ⟨notNull, scalar, stands, sought⟩
  unfold Column.Finds at *
  generalize key.type = type at holds soughtIn
  cases holds with
  | integer number =>
      refine iff_of_true (soughtIn _ rfl ?_ rfl) nofun
      rw [Cell.sought_integer]
      rfl
  | bigInteger number =>
      refine iff_of_true (soughtIn _ rfl ?_ rfl) nofun
      rw [Cell.sought_int (.inl rfl)]
      rfl
  | string chars => exact iff_of_true (soughtIn _ rfl rfl rfl) nofun
  | boolean flag => cases flag <;> exact iff_of_true (soughtIn _ rfl rfl rfl) nofun
  | @float number isNumber =>
      obtain ⟨scalar, stands⟩ := Binary64.exists_scalar isNumber
      refine iff_of_true (soughtIn scalar ?_ ?_ rfl) nofun
      · rw [Cell.stored_float isNumber]
        exact (Cell.standing_unsigned number).trans stands
      · rw [Cell.sought_float (.inl rfl) isNumber]
        exact stands
  | document notNull isWord isFinite =>
      cases value with
      | null => exact absurd rfl notNull
      | int number =>
          refine iff_of_true (soughtIn (.number number) ?_ ?_ rfl) fun quoted => quoted.2
          · rw [Cell.stored_wholeNumber (isWord number rfl)]
            rfl
          · rw [Cell.sought_int (.inr rfl)]
            rfl
      | float number =>
          have isNumber : number ≠ .nan := by
            rintro rfl
            exact absurd (isFinite _ rfl) Bool.false_ne_true
          obtain ⟨scalar, stands⟩ := Binary64.exists_scalar isNumber
          refine iff_of_true (soughtIn scalar ?_ ?_ rfl) fun quoted => quoted.2
          · rw [Cell.stored_documentFloat (isFinite number rfl)]
            exact (Cell.standing_wholeReal number).trans stands
          · rw [Cell.sought_float (.inr rfl) isNumber]
            exact stands
      | list items => exact iff_of_true (soughtIn _ rfl rfl rfl) fun quoted => quoted.2
      | object fields => exact iff_of_true (soughtIn _ rfl rfl rfl) fun quoted => quoted.2
      | bool flag =>
          refine iff_of_false ?_ (not_not_intro ⟨rfl, trivial⟩)
          rintro ⟨_, scalar, stands, sought⟩
          cases Option.some.inj stands
          exact Cell.standing_ne_text (by cases flag <;> rfl) _ sought
      | text chars =>
          refine iff_of_false ?_ (not_not_intro ⟨rfl, trivial⟩)
          rintro ⟨_, scalar, stands, sought⟩
          -- What is stored is the text in quotes, and what is looked for may be a numeral.
          cases Option.some.inj stands
          exact Cell.standing_numeric_ne (Cell.toJson_text_ne chars).symm sought

end ColumnType.Holds

end RecordGraph
